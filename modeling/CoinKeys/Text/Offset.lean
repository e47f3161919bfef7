import CoinKeys.Bytes

/-!
# Places in a text

Texts are measured in UTF-8 bytes: the length of a text and the place of a character in it count
the bytes before them, so one character may take up to four. `findOffset?` names the first
character of a kind together with its place, and `splitLast?` cuts a text at the last occurrence
of a separator.
-/

namespace CoinKeys.Text

/-- The UTF-8 bytes of a text. -/
def utf8 (text : String) : Bytes :=
  text.toList.flatMap String.utf8EncodeChar

/-- How many UTF-8 bytes the characters take. -/
def utf8Size : List Char → Nat
  | [] => 0
  | c :: rest => c.utf8Size + utf8Size rest

/-- A character of a text and the number of UTF-8 bytes before it. -/
structure Located where
  /-- The UTF-8 bytes before the character. -/
  offset : Nat
  /-- The character there. -/
  char : Char
  deriving DecidableEq

/-- The same character with `count` more bytes before it. -/
def Located.shift (count : Nat) (place : Located) : Located :=
  { place with offset := count + place.offset }

/-- The first character that `p` holds of. -/
def findOffset? (p : Char → Bool) : List Char → Option Located
  | [] => none
  | c :: rest => if p c then some ⟨0, c⟩ else (findOffset? p rest).map (.shift c.utf8Size)

/-- The texts before and after the last occurrence of `separator`. -/
def splitLast? (separator : Char) : List Char → Option (List Char × List Char)
  | [] => none
  | c :: rest =>
    match splitLast? separator rest with
    | some (before, after) => some (c :: before, after)
    | none => if c = separator then some ([], rest) else none

end CoinKeys.Text
