/-!
# Positional numerals

A numeral is a list of digits, most significant first, in some base of at least two. `value` reads
one and `digits` writes one without leading zeros, so zero is written with no digit at all.

A byte string is a base 256 numeral in which leading zeros count. `convert` carries such a numeral
from one base to another: the number is kept, and so is the count of leading zeros.
-/

namespace CoinKeys.Positional

/-- The number that a numeral denotes. -/
def value (base : Nat) (numeral : List Nat) : Nat :=
  numeral.foldl (fun acc digit => acc * base + digit) 0

/-- Put the last `steps` digits of `n` in front of `acc`, fewer when `n` runs out. -/
def digitsOnto (base : Nat) : Nat → Nat → List Nat → List Nat
  | 0, _, acc => acc
  | steps + 1, n, acc =>
    if n = 0 then acc else digitsOnto base steps (n / base) (n % base :: acc)

/-- The numeral of `n` without leading zeros. No base of two or more needs more digits than there
are bits in `n`. -/
def digits (base n : Nat) : List Nat :=
  digitsOnto base (n.log2 + 1) n []

/-- The numeral of `n` with exactly `count` digits, higher digits dropped. -/
def fixedDigits (base : Nat) : Nat → Nat → List Nat
  | 0, _ => []
  | count + 1, n => fixedDigits base count (n / base) ++ [n % base]

@[simp] theorem length_fixedDigits (base count n : Nat) :
    (fixedDigits base count n).length = count := by
  induction count generalizing n with
  | zero => rfl
  | succ count ih => simp [fixedDigits, ih]

/-- How many zeros a numeral starts with. -/
def leadingZeros (numeral : List Nat) : Nat :=
  (numeral.takeWhile (· == 0)).length

/-- Write a numeral of base `source` in base `target`: the same number behind the same count of
leading zeros. -/
def convert (source target : Nat) (numeral : List Nat) : List Nat :=
  List.replicate (leadingZeros numeral) 0 ++ digits target (value source numeral)

end CoinKeys.Positional
