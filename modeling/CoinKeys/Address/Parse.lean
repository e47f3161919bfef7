import CoinKeys.Address.Basic
import CoinKeys.Json

/-!
# Reading an address of either kind

A text is read as a legacy address first and as a segwit address second. A text that is valid in one
form but belongs to another network is refused at once. When both readings fail, the fault of the
second is reported if the text starts like a segwit address of the scope, otherwise that of the
first.
-/

namespace CoinKeys.Address

/-- The legacy address that a text spells. -/
def decodeLegacy (scope : Scope) (text : String) : Except Error Address :=
  (LegacyAddress.decode scope text).map legacy

/-- The segwit address that a text spells. -/
def decodeSegwit (scope : Scope) (text : String) : Except Error Address :=
  (SegwitAddress.decode scope text).map segwit

/-- Whether the part of a text before its last separator is a human-readable part of the scope. -/
def startsLikeSegwit (scope : Scope) (text : String) : Bool :=
  match Text.splitLast? Bech32.separator text.toList with
  | some (hrp, _) => (scope.find? (·.claimsHrp (String.ofList hrp))).isSome
  | none => false

/-- The address that a text spells. -/
def decode (scope : Scope) (text : String) : Except Error Address :=
  match decodeLegacy scope text with
  | .ok address => .ok address
  | .error (.wrongNetwork fault) => .error (.wrongNetwork fault)
  | .error legacyFault =>
    match decodeSegwit scope text with
    | .ok address => .ok address
    | .error (.wrongNetwork fault) => .error (.wrongNetwork fault)
    | .error segwitFault =>
      .error (if startsLikeSegwit scope text then segwitFault else legacyFault)

/-- The network that the address spelled by a text belongs to. -/
def networkOf (registry : Registry) (text : String) : Except Error NetworkParameters :=
  (decode (.registered registry) text).map network

/-- The address that a JSON value spells; only texts spell any. -/
def ofJson? (registry : Registry) (value : Json) : Option (Except Error Address) :=
  value.text?.map (decode (.registered registry))

/-- The text of an address as a JSON value. -/
def toJson (address : Address) : Except Error Json :=
  address.encode.map .text

end CoinKeys.Address
