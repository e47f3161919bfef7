import CoinKeys.Positional

/-!
# Byte strings

A byte string is a list of bytes. Digests, keys and cipher blocks have a length that belongs to
what they are: such a string is a `FixedBytes n`, and every operation on it states the length of
its result. Numbers are stored most significant byte first (`Bytes.toNat`, `FixedBytes.ofNat`).
-/

namespace CoinKeys

/-- A byte string of any length. -/
abbrev Bytes := List UInt8

/-- The number whose base 256 digits the bytes are, most significant first. -/
def Bytes.toNat (bytes : Bytes) : Nat :=
  Positional.value 256 (bytes.map UInt8.toNat)

/-- The first `count` runs of `size` elements each. -/
def runsOf {α : Type} (size : Nat) : Nat → List α → List (List α)
  | 0, _ => []
  | count + 1, elements => elements.take size :: runsOf size count (elements.drop size)

/-- A list cut into runs of `size` elements; a shorter rest is dropped. -/
def chunks {α : Type} (size : Nat) (elements : List α) : List (List α) :=
  runsOf size (elements.length / size) elements

/-- A byte string of length `n`. -/
structure FixedBytes (n : Nat) where
  /-- The bytes. -/
  toList : Bytes
  length_toList : toList.length = n
  deriving DecidableEq

namespace FixedBytes

variable {m n : Nat}

attribute [simp] length_toList

theorem ext {a b : FixedBytes n} (h : a.toList = b.toList) : a = b := by
  cases a
  cases b
  cases h
  rfl

/-- The bytes, if there are exactly `n` of them. -/
def ofList? (bytes : Bytes) : Option (FixedBytes n) :=
  if h : bytes.length = n then some ⟨bytes, h⟩ else none

@[simp] theorem ofList?_toList (a : FixedBytes n) : ofList? a.toList = some a := by
  simp [ofList?]

/-- The `count` bytes from position `start` on. -/
def slice (a : FixedBytes n) (start count : Nat) (within : start + count ≤ n := by decide) :
    FixedBytes count :=
  ⟨(a.toList.drop start).take count, by simp; omega⟩

@[simp] theorem toList_slice (a : FixedBytes n) (start count : Nat) (within : start + count ≤ n) :
    (a.slice start count within).toList = (a.toList.drop start).take count := rfl

/-- The byte at position `i`. -/
def byte (a : FixedBytes n) (i : Nat) (within : i < n := by decide) : UInt8 :=
  a.toList.get ⟨i, by simpa using within⟩

/-- One string after the other. -/
def append (a : FixedBytes m) (b : FixedBytes n) : FixedBytes (m + n) :=
  ⟨a.toList ++ b.toList, by simp⟩

@[simp] theorem toList_append (a : FixedBytes m) (b : FixedBytes n) :
    (a.append b).toList = a.toList ++ b.toList := rfl

/-- The exclusive or of two strings, byte by byte. -/
def xor (a b : FixedBytes n) : FixedBytes n :=
  ⟨List.zipWith (· ^^^ ·) a.toList b.toList, by simp⟩

@[simp] theorem toList_xor (a b : FixedBytes n) :
    (a.xor b).toList = List.zipWith (· ^^^ ·) a.toList b.toList := rfl

/-- The last `n` base 256 digits of a number, most significant first. -/
def ofNat (n value : Nat) : FixedBytes n :=
  ⟨(Positional.fixedDigits 256 n value).map UInt8.ofNat, by simp⟩

/-- The number whose base 256 digits the bytes are, most significant first. -/
def toNat (a : FixedBytes n) : Nat :=
  Bytes.toNat a.toList

/-- Strings of one length are ordered byte by byte. -/
instance : Ord (FixedBytes n) := ⟨fun a b => compare a.toList b.toList⟩

instance : Hashable (FixedBytes n) := ⟨fun a => hash a.toList⟩

end FixedBytes

end CoinKeys
