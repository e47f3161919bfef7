import CoinKeys.Bech32.Residue
import CoinKeys.Error
import CoinKeys.Text.Offset

/-!
# Bech32

A Bech32 text is a human-readable part, the separator `1`, values of five bits over an alphabet of
thirty-two characters, and six checksum characters over the same alphabet. The human-readable part
may hold the separator itself, so the last one in a text counts. Letters are all of one case; what
is written is lower-case.

`decode` checks, in this order: the length in bytes, the case, the separator and its place, the
characters, the checksum. `encode` checks the values, then the human-readable part.
-/

namespace CoinKeys.Bech32

open Text

/-- What separates the human-readable part from the data. -/
def separator : Char := '1'

/-- The shortest text: one character, the separator and a checksum. -/
def minLength : Nat := 8

/-- The longest text that is read. -/
def maxLength : Nat := 90

/-- The longest human-readable part that is written. -/
def maxHrpLength : Nat := 83

/-- The characters of the values, in order. -/
def alphabet : List Char :=
  "qpzry9x8gf2tvdw0s3jn54khce6mua7l".toList

/-- The value of a data character, in either case. -/
def value? (c : Char) : Option UInt8 :=
  (alphabet.findIdx? (· == c.toLower)).map UInt8.ofNat

/-- The lower-case character of a value below 32. -/
def valueChar (value : UInt8) : Char :=
  alphabet.getD value.toNat 'q'

/-- Whether a character may stand in a human-readable part: printable ASCII without the space. -/
def isHrpChar (c : Char) : Bool :=
  33 ≤ c.toNat && c.toNat ≤ 126

/-- The first letter whose case differs from that of the first letter. Only ASCII letters have a
case. -/
def caseClash? (chars : List Char) : Option Located :=
  match chars.find? Char.isAlpha with
  | none => none
  | some first => findOffset? (fun c => c.isAlpha && c.isUpper != first.isUpper) chars

/-- The first character that may not stand where it does in a whole text: before the last separator
a human-readable character is due, after it a data character. -/
def misplaced? (chars : List Char) : Option Located :=
  match splitLast? separator chars with
  | none => none
  | some (hrp, data) =>
    (findOffset? (fun c => !isHrpChar c) hrp).or
      ((findOffset? (fun c => (value? c).isNone) data).map
        (.shift (utf8Size hrp + separator.utf8Size)))

/-! ## Writing -/

/-- How a character outside the human-readable range is reported: the human-readable part is
scanned as though it were a whole text, and when that finds nothing, the first byte of the character
is reported, as the character of that number, at the start. -/
def misplacedInHrp (chars : List Char) (c : Char) : Located :=
  (misplaced? chars).getD ⟨0, Char.ofNat ((String.utf8EncodeChar c).headD 0).toNat⟩

/-- What keeps a text from being a human-readable part: its length, or the first character that is
outside the range or in the other case. -/
def hrpFault? (chars : List Char) : Option Error :=
  if utf8Size chars = 0 || maxHrpLength < utf8Size chars then
    some (.invalidLength .humanReadablePart)
  else
    let report := fun place : Located => Error.invalidCharacter place.char place.offset
    match findOffset? (fun c => !isHrpChar c) chars, caseClash? chars with
    | none, none => none
    | none, some clash => some (report clash)
    | some outside, none => some (report (misplacedInHrp chars outside.char))
    | some outside, some clash =>
      if outside.offset < clash.offset then
        some (report (misplacedInHrp chars outside.char))
      else some (report clash)

/-- The lower-case text of a human-readable part and values of five bits. There is no limit on the
number of values. -/
def encode (hrp : String) (values : List UInt8) : Except Error String :=
  match values.find? (32 ≤ ·) with
  | some value => .error (.invalidData value)
  | none =>
    match hrpFault? hrp.toList with
    | some fault => .error fault
    | none =>
      let lower := hrp.toList.map Char.toLower
      .ok (String.ofList
        (lower ++ separator :: (values ++ checksum lower values).map valueChar))

/-! ## Reading -/

/-- The lower-case human-readable part of a text and its values without the checksum. -/
def decode (text : String) : Except Error (String × List UInt8) :=
  let chars := text.toList
  if utf8Size chars < minLength || maxLength < utf8Size chars then
    .error (.invalidLength (.bech32Text (utf8Size chars)))
  else
    match caseClash? chars with
    | some clash => .error (.invalidCharacter clash.char clash.offset)
    | none =>
      match splitLast? separator chars with
      | none => .error (.invalidPrefix .noSeparator)
      | some ([], _) => .error (.invalidPrefix .noHumanReadablePart)
      | some (hrp, data) =>
        if utf8Size data < checksumSize then .error (.invalidLength .bech32Data)
        else
          match misplaced? chars with
          | some place => .error (.invalidCharacter place.char place.offset)
          | none =>
            let lower := hrp.map Char.toLower
            let symbols := data.filterMap value?
            if isValid lower symbols then
              .ok (String.ofList lower, symbols.take (symbols.length - checksumSize))
            else .error .invalidChecksum

end CoinKeys.Bech32
