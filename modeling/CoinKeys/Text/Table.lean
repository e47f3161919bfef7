/-!
# Tables of code points

Properties of characters are long lists of code points. They are written the way the Unicode
character database writes them: a row is hexadecimal numbers separated by spaces, and each line of
a table holds rows separated by semicolons.
-/

namespace CoinKeys.Text

/-- The number that a hexadecimal digit stands for; other characters count as zero. -/
def hexDigit (c : Char) : Nat :=
  if c.isDigit then c.toNat - '0'.toNat
  else if 'A' ≤ c && c ≤ 'F' then c.toNat - 'A'.toNat + 10
  else 0

/-- The number that a hexadecimal numeral stands for. -/
def hexNumber (numeral : String) : Nat :=
  numeral.toList.foldl (fun acc c => 16 * acc + hexDigit c) 0

/-- The rows of a table, each a list of numbers. -/
def tableRows (lines : List String) : List (List Nat) :=
  lines.flatMap fun line =>
    (line.splitOn ";").map fun row => (row.splitOn " ").map hexNumber

/-- The ranges of code points in a table of them. A row is the first and the last code point of a
range, or its only one. -/
def tableRanges (lines : List String) : Array (Nat × Nat) :=
  ((tableRows lines).filterMap fun row =>
    match row with
    | [single] => some (single, single)
    | [first, last] => some (first, last)
    | _ => none).toArray

/-- Whether a character lies in one of the ranges. -/
def inRanges (ranges : Array (Nat × Nat)) (c : Char) : Bool :=
  ranges.any fun range => range.1 ≤ c.toNat && c.toNat ≤ range.2

end CoinKeys.Text
