import CoinKeys.Bech32
import CoinKeys.BitGroups
import CoinKeys.Network.Scope

/-!
# Segwit addresses

A segwit address is a witness version and a witness program in Bech32, behind the human-readable
part of its network. The version is the first value of the data, and the bytes of the program are
regrouped to values of five bits behind it. A program has 2 to 40 bytes; in version 0 it is a key
hash of 20 bytes or a script hash of 32.
-/

namespace CoinKeys

/-- A witness version and a witness program on a network. -/
structure SegwitAddress where
  /-- The network. -/
  network : NetworkParameters
  /-- The witness version. -/
  witnessVersion : UInt8
  /-- The witness program. -/
  program : Bytes
  deriving BEq, Hashable, Ord

namespace SegwitAddress

/-- The highest witness version. -/
def maxVersion : UInt8 := 16

/-- Whether a text may be a human-readable part of an address. -/
def isHrp (hrp : String) : Bool :=
  let chars := hrp.toList
  !chars.isEmpty && Text.utf8Size chars ≤ Bech32.maxHrpLength &&
    !(chars.any Char.isUpper && chars.any Char.isLower) && chars.all Bech32.isHrpChar

/-- The human-readable part of a network's addresses. -/
def hrpOf (network : NetworkParameters) : Except Error String :=
  match network.hrp with
  | none => .error (.invalidPrefix (.noSegwit network.id))
  | some hrp => if isHrp hrp then .ok hrp else .error (.invalidPrefix (.invalidHrp hrp))

/-- Refuse a version that does not exist. -/
def checkVersion (version : UInt8) : Except Error Unit :=
  if maxVersion < version then .error (.invalidWitnessVersion version) else .ok ()

/-- Refuse a program of a length that its version does not allow. -/
def checkLength (version : UInt8) (size : Nat) : Except Error Unit :=
  if size < 2 || 40 < size then .error (.invalidLength (.witnessProgram size))
  else if version = 0 && size != 20 && size != 32 then
    .error (.invalidLength (.witnessProgramVersion0 size))
  else .ok ()

/-- Refuse a version that does not exist, then a program of a wrong length. -/
def checkProgram (version : UInt8) (program : Bytes) : Except Error Unit := do
  checkVersion version
  checkLength version program.length

/-- An address on a network that has segwit addresses. -/
def make (network : NetworkParameters) (version : UInt8) (program : Bytes) :
    Except Error SegwitAddress := do
  let _ ← hrpOf network
  checkProgram version program
  return ⟨network, version, program⟩

/-- The text of an address, in lower case. -/
def encode (address : SegwitAddress) : Except Error String := do
  let hrp ← hrpOf address.network
  let values ← BitGroups.regroup .byte .symbol true address.program
  Bech32.encode hrp (address.witnessVersion :: values)

/-- The address that a text spells. -/
def decode (scope : Scope) (text : String) : Except Error SegwitAddress := do
  let (hrp, values) ← Bech32.decode text
  let network ← scope.resolve (·.claimsHrp hrp) (.hrp hrp) (.unknownHrp hrp)
  match values with
  | [] => throw (.invalidLength .noWitnessVersion)
  | version :: data =>
    checkVersion version
    let program ← BitGroups.regroup .symbol .byte false data
    checkProgram version program
    return ⟨network, version, program⟩

end SegwitAddress

end CoinKeys
