import CoinKeys.Error

/-!
# Bit groups

A list of values of `source` bits each is a string of bits, most significant first, and is cut
again into groups of `target` bits. Bits that do not fill a last group are either padded with
zeros to a group of their own, or must be all zero and fewer than one value holds, and are dropped.

Regrouping keeps the bits that do not fill a group yet in the low end of a 32-bit word.
-/

namespace CoinKeys

/-- A number of bits between one and eight. -/
structure GroupWidth where
  /-- The number of bits. -/
  bits : Nat
  pos : 0 < bits
  le_eight : bits ≤ 8

namespace GroupWidth

/-- The width, if it is between one and eight. -/
def ofNat? (bits : Nat) : Option GroupWidth :=
  if h : 0 < bits ∧ bits ≤ 8 then some ⟨bits, h.1, h.2⟩ else none

/-- Five bits, a symbol of Bech32. -/
def symbol : GroupWidth := ⟨5, by decide, by decide⟩

/-- Eight bits, a byte. -/
def byte : GroupWidth := ⟨8, by decide, by decide⟩

end GroupWidth

namespace BitGroups

/-- The word whose low `count` bits are set. -/
def lowMask (count : Nat) : UInt32 :=
  (1 <<< UInt32.ofNat count) - 1

/-- The group of `width` bits that starts `shift` bits above the low end of a word. -/
def group (width : GroupWidth) (word : UInt32) (shift : Nat) : UInt8 :=
  ((word >>> UInt32.ofNat shift) &&& lowMask width.bits).toUInt8

/-- The full groups among the low `count` bits of a word, the highest first. -/
def fullGroups (width : GroupWidth) (word : UInt32) (count : Nat) : List UInt8 :=
  (List.range (count / width.bits)).map fun i => group width word (count - (i + 1) * width.bits)

/-- What the low `count` bits of a word make of the last group, `count < target.bits`. -/
def lastGroup (source target : GroupWidth) (pad : Bool) (word : UInt32) (count : Nat) :
    Except Error (List UInt8) :=
  let justified := (word <<< UInt32.ofNat (target.bits - count)) &&& lowMask target.bits
  if pad then .ok (if 0 < count then [justified.toUInt8] else [])
  else if source.bits ≤ count then .error .invalidPadding
  else if justified ≠ 0 then .error .nonZeroPadding
  else .ok []

/-- Regroup the values behind the `count` bits that a word holds already. -/
def regroupFrom (source target : GroupWidth) (pad : Bool) (word : UInt32) (count : Nat) :
    List UInt8 → Except Error (List UInt8)
  | [] => lastGroup source target pad word count
  | value :: rest =>
    if value.toNat >>> source.bits ≠ 0 then .error (.invalidData value)
    else
      let word := (word <<< UInt32.ofNat source.bits) ||| value.toUInt32
      let count := count + source.bits
      let left := count % target.bits
      (regroupFrom source target pad (word &&& lowMask left) left rest).map
        (fullGroups target word count ++ ·)

/-- Regroup values of `source` bits into groups of `target` bits. -/
def regroup (source target : GroupWidth) (pad : Bool) (values : List UInt8) :
    Except Error (List UInt8) :=
  regroupFrom source target pad 0 0 values

end BitGroups

end CoinKeys
