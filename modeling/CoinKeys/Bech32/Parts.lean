import CoinKeys.Bech32

/-!
# Reading and writing by parts

A single pass over the parts of a text finds what is wrong with them: it goes over the bytes of the
human-readable part, which show whether it may be written too, and then over the characters of the
data. The pass does not know the place of what it finds, so a fault is placed by scanning the
characters again, and where that scan finds nothing, by a fallback (`PartFault.report`).

`decodeByParts` and `encodeByParts` are put together from these passes. What is wrong with a whole
text is told before the pass over its parts.
-/

namespace CoinKeys.Bech32

open Text

/-! ## The pass over the parts -/

/-- What is wrong with the parts of a text, told without a place. -/
inductive PartFault
  /-- There is no separator. -/
  | noSeparator
  /-- The human-readable part is empty or too long, or the data cannot hold a checksum. -/
  | length
  /-- A character may not stand in its part. Of a human-readable part a byte is told. -/
  | character (reported : Char)
  /-- There are letters of both cases. -/
  | mixedCase
  /-- The checksum does not belong to the data. -/
  | checksum

/-- The cases of the letters that have been passed. -/
structure CaseSeen where
  /-- Whether there was an upper-case letter. -/
  upper : Bool
  /-- Whether there was a lower-case letter. -/
  lower : Bool

/-- No letter has been passed. -/
def CaseSeen.start : CaseSeen := ⟨false, false⟩

/-- Pass one character more. -/
def CaseSeen.add (seen : CaseSeen) (c : Char) : CaseSeen :=
  ⟨seen.upper || c.isUpper, seen.lower || c.isLower⟩

/-- Whether letters of both cases have been passed. -/
def CaseSeen.isMixed (seen : CaseSeen) : Bool :=
  seen.upper && seen.lower

/-- Pass the bytes of a human-readable part, each taken for the character of its number. -/
def passBytes (seen : CaseSeen) : Bytes → Except PartFault CaseSeen
  | [] => .ok seen
  | byte :: rest =>
    let c := Char.ofNat byte.toNat
    if !isHrpChar c then .error (.character c)
    else if (seen.add c).isMixed then .error .mixedCase
    else passBytes (seen.add c) rest

/-- Pass a human-readable part. -/
def passHrp (hrp : List Char) : Except PartFault CaseSeen :=
  if utf8Size hrp = 0 || maxHrpLength < utf8Size hrp then .error .length
  else passBytes .start (hrp.flatMap String.utf8EncodeChar)

/-- Pass the data behind a human-readable part, and keep the values. -/
def passData (seen : CaseSeen) : List Char → Except PartFault (List UInt8)
  | [] => .ok []
  | c :: rest =>
    if (seen.add c).isMixed then .error .mixedCase
    else
      match value? c with
      | none => .error (.character c)
      | some value => (passData (seen.add c) rest).map (value :: ·)

/-- The checksums that are told apart. A text with the second one is refused. -/
inductive Variant
  /-- The residue is one. -/
  | bech32
  /-- The residue is the constant of Bech32m. -/
  | bech32m
  deriving DecidableEq

/-- The checksum that symbols behind a human-readable part have. -/
def variant? (hrp : List Char) (symbols : List UInt8) : Option Variant :=
  if isValid hrp symbols then some .bech32
  else if residue (hrpSymbols hrp ++ symbols) == 0x2bc830a3 then some .bech32m
  else none

/-- Pass both parts of a text. What is left is its checksum, its human-readable part in lower case
and its values. -/
def passText (chars : List Char) : Except PartFault (Variant × List Char × List UInt8) :=
  match splitLast? separator chars with
  | none => .error .noSeparator
  | some (hrp, data) => do
    let seen ← passHrp hrp
    let symbols ← passData seen data
    if symbols.length < checksumSize then throw .length
    match variant? (hrp.map Char.toLower) symbols with
    | none => throw .checksum
    | some variant =>
      return (variant, hrp.map Char.toLower, symbols.take (symbols.length - checksumSize))

/-! ## Places of faults -/

/-- The error for a fault of the parts. The characters are scanned again for the place, as a whole
text for a character that is out of place; where the scan finds none, the place is the fallback. -/
def PartFault.report (fallback : Char → Located) (chars : List Char) : PartFault → Error
  | noSeparator => .invalidPrefix .noSeparator
  | length => .invalidLength .humanReadablePart
  | character reported =>
    let place := (misplaced? chars).getD (fallback reported)
    .invalidCharacter place.char place.offset
  | mixedCase =>
    let place := (caseClash? chars).getD ⟨0, separator⟩
    .invalidCharacter place.char place.offset
  | checksum => .invalidChecksum

/-- What is reported, at the start of the text. -/
def atStart (reported : Char) : Located := ⟨0, reported⟩

/-! ## Reading and writing -/

/-- What is checked of a whole text before its parts are passed. -/
def checkText (chars : List Char) : Except Error Unit :=
  if utf8Size chars < minLength || maxLength < utf8Size chars then
    .error (.invalidLength (.bech32Text (utf8Size chars)))
  else
    match caseClash? chars with
    | some clash => .error (.invalidCharacter clash.char clash.offset)
    | none =>
      match splitLast? separator chars with
      | none => .error (.invalidPrefix .noSeparator)
      | some ([], _) => .error (.invalidPrefix .noHumanReadablePart)
      | some (_, data) =>
        if utf8Size data < checksumSize then .error (.invalidLength .bech32Data) else .ok ()

/-- The lower-case human-readable part of a text and its values, read by parts. -/
def decodeByParts (fallback : Char → Located) (text : String) :
    Except Error (String × List UInt8) := do
  checkText text.toList
  let (variant, hrp, values) ←
    (passText text.toList).mapError (PartFault.report fallback text.toList)
  match variant with
  | .bech32 => return (String.ofList hrp, values)
  | .bech32m => throw .invalidChecksum

/-- The lower-case text of a human-readable part and values, written by parts. -/
def encodeByParts (fallback : Char → Located) (hrp : String) (values : List UInt8) :
    Except Error String := do
  if let some value := values.find? (32 ≤ ·) then throw (.invalidData value)
  let _ ← (passHrp hrp.toList).mapError (PartFault.report fallback hrp.toList)
  let lower := hrp.toList.map Char.toLower
  return String.ofList (lower ++ separator :: (values ++ checksum lower values).map valueChar)

end CoinKeys.Bech32
