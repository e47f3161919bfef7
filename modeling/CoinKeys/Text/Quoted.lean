import CoinKeys.Text.Unprintable

/-!
# Quoted text

Messages show a character between single quotes and a text between double quotes. Control
characters with a name of their own, the backslash and the closing quote are escaped by a backslash;
every other character without a shape of its own by its code point in hexadecimal.
-/

namespace CoinKeys.Text

/-- The lower-case hexadecimal digits of a number, without leading zeros. -/
def hexDigits (n : Nat) : String :=
  String.ofList (Nat.toDigits 16 n)

/-- The two lower-case hexadecimal digits of a byte. -/
def hexByte (b : UInt8) : String :=
  String.ofList [Nat.digitChar (b.toNat / 16), Nat.digitChar (b.toNat % 16)]

/-- The lower-case hexadecimal digits of bytes, two for each. -/
def hexBytes (bytes : List UInt8) : String :=
  String.join (bytes.map hexByte)

/-- A character as it stands between the quotes `quote`. -/
def escape (quote c : Char) : String :=
  if c = '\x00' then "\\0"
  else if c = '\t' then "\\t"
  else if c = '\r' then "\\r"
  else if c = '\n' then "\\n"
  else if c = '\\' || c = quote then String.ofList ['\\', c]
  else if isPrintable c then String.singleton c
  else "\\u\x7b" ++ hexDigits c.toNat ++ "\x7d"

/-- A character between single quotes. -/
def quoteChar (c : Char) : String :=
  "'" ++ escape '\'' c ++ "'"

/-- A text between double quotes. -/
def quoteString (text : String) : String :=
  "\"" ++ String.join (text.toList.map (escape '"')) ++ "\""

end CoinKeys.Text
