import CoinKeys.Text.Quoted

/-!
# JSON values

Networks are configured by JSON values and written back as compact JSON text. A number is kept as
the decimal numeral that it was: its digits and how many of them stand behind the point.
-/

namespace CoinKeys

/-- A JSON value. -/
inductive Json
  /-- The absent value. -/
  | null
  /-- A truth value. -/
  | bool (value : Bool)
  /-- The number `digits / 10 ^ places`. -/
  | number (digits : Int) (places : Nat)
  /-- A text. -/
  | text (value : String)
  /-- A list of values. -/
  | list (items : List Json)
  /-- Named values. -/
  | object (members : List (String × Json))
  deriving Inhabited

namespace Json

/-! ## Reading parts -/

/-- The member of an object with a name. -/
def member? (name : String) (members : List (String × Json)) : Option Json :=
  members.lookup name

/-- The text of a value that is one. -/
def text? : Json → Option String
  | text value => some value
  | _ => none

/-- The byte that a whole number stands for. -/
def byte? : Json → Option UInt8
  | number digits 0 => if 0 ≤ digits ∧ digits < 256 then some (UInt8.ofNat digits.toNat) else none
  | _ => none

/-- The text of a value that may be absent. -/
def optionalText? : Json → Option (Option String)
  | null => some none
  | value => value.text?.map some

/-- The number of a byte. -/
def ofByte (value : UInt8) : Json :=
  number value.toNat 0

/-- A text that may be absent. -/
def ofOptionalText : Option String → Json
  | some value => text value
  | none => null

/-! ## Compact text -/

/-- A character as it stands in a quoted text. Only the quote, the backslash and control characters
are escaped. -/
def escape (c : Char) : String :=
  if c = '"' then "\\\""
  else if c = '\\' then "\\\\"
  else if c = '\x08' then "\\b"
  else if c = '\t' then "\\t"
  else if c = '\n' then "\\n"
  else if c = '\x0c' then "\\f"
  else if c = '\r' then "\\r"
  else if c.toNat < 0x20 then "\\u00" ++ Text.hexByte (UInt8.ofNat c.toNat)
  else String.singleton c

/-- A quoted text. -/
def quote (value : String) : String :=
  "\"" ++ String.join (value.toList.map escape) ++ "\""

/-- A decimal numeral with a digit before the point. -/
def renderNumber (digits : Int) (places : Nat) : String :=
  let sign := if digits < 0 then "-" else ""
  let numeral := (Nat.repr digits.natAbs).toList
  let padded := List.replicate (places + 1 - numeral.length) '0' ++ numeral
  let whole := padded.take (padded.length - places)
  let fraction := padded.drop (padded.length - places)
  sign ++ String.ofList (if places = 0 then whole else whole ++ '.' :: fraction)

mutual

/-- The text of a value without spaces. -/
def render : Json → String
  | null => "null"
  | bool value => if value then "true" else "false"
  | number digits places => renderNumber digits places
  | text value => quote value
  | list items => "[" ++ ",".intercalate (renderItems items) ++ "]"
  | object members => "\x7b" ++ ",".intercalate (renderMembers members) ++ "\x7d"

/-- The texts of the items of a list. -/
def renderItems : List Json → List String
  | [] => []
  | item :: items => render item :: renderItems items

/-- The texts of the members of an object. -/
def renderMembers : List (String × Json) → List String
  | [] => []
  | (name, value) :: members => (quote name ++ ":" ++ render value) :: renderMembers members

end

end Json

end CoinKeys
