import CoinKeys.Proofs.EncryptedKey.Container

/-!
# The visible shape of encrypted keys

The text of an encrypted key is the base 58 numeral of forty-three bytes, and only the first three
of them, the marker, the mode byte and the flags, are given by its form. The forty bytes behind
them, of the address hash, the content and the checksum, may be any, but they are too few to move
the number across a multiple of `58 ^ 55`. So the first three of fifty-eight digits belong to the
form alone.

**Theorem (`encode_shape`).** The text of an encrypted key has fifty-eight characters and starts
with `6P`. Its third character is `R` exactly in direct mode for the long form of public keys, and
`Y` exactly in direct mode for the short form.

In fact each of the six forms has a third character of its own (`Form.letter_inj`).
-/

namespace CoinKeys.EncryptedKey

/-! ## The start of a form -/

/-- The bytes in front of the address hash. -/
def Form.start (form : Form) : Bytes :=
  [marker, form.modeByte, form.flags]

/-- The third character of the texts of a form. -/
def Form.letter : Form → Char
  | ⟨.direct, false⟩ => 'R'
  | ⟨.direct, true⟩ => 'Y'
  | ⟨.multiplied false, false⟩ => 'f'
  | ⟨.multiplied true, false⟩ => 'g'
  | ⟨.multiplied false, true⟩ => 'n'
  | ⟨.multiplied true, true⟩ => 'o'

/-- The number of the first three digits where all bytes behind the start are zero. -/
def Form.startNumber (form : Form) : Nat :=
  Bytes.toNat form.start * 256 ^ 40 / 58 ^ 55

/-- Every form. -/
def Form.all : List Form :=
  [⟨.direct, false⟩, ⟨.direct, true⟩, ⟨.multiplied false, false⟩, ⟨.multiplied false, true⟩,
    ⟨.multiplied true, false⟩, ⟨.multiplied true, true⟩]

theorem Form.mem_all (form : Form) : form ∈ Form.all := by
  obtain ⟨mode, compressed⟩ := form
  cases mode with
  | direct => cases compressed <;> decide
  | multiplied hasLot => cases hasLot <;> cases compressed <;> decide

theorem Form.letter_inj {a b : Form} : a.letter = b.letter ↔ a = b := by
  have hall : ∀ a ∈ Form.all, ∀ b ∈ Form.all, a.letter = b.letter ↔ a = b := by decide
  exact hall a a.mem_all b b.mem_all

theorem Form.flags_eq_iff (form : Form) (compressed : Bool) :
    form.flags = (⟨.direct, compressed⟩ : Form).flags ↔ form = ⟨.direct, compressed⟩ := by
  have hall : ∀ form ∈ Form.all, ∀ compressed : Bool,
      form.flags = (⟨.direct, compressed⟩ : Form).flags ↔ form = ⟨.direct, compressed⟩ := by
    decide
  exact hall form form.mem_all compressed

/-- The largest bytes behind the start lead to the same first digits as the smallest ones. -/
theorem Form.lt_startNumber (form : Form) :
    (Bytes.toNat form.start + 1) * 256 ^ 40 ≤ (form.startNumber + 1) * 58 ^ 55 := by
  have hall : ∀ form ∈ Form.all,
      (Bytes.toNat form.start + 1) * 256 ^ 40 ≤ (form.startNumber + 1) * 58 ^ 55 := by
    decide +kernel
  exact hall form form.mem_all

theorem Form.map_digits_startNumber (form : Form) :
    (Positional.digits 58 form.startNumber).map Base58.digitChar = ['6', 'P', form.letter] := by
  have hall : ∀ form ∈ Form.all,
      (Positional.digits 58 form.startNumber).map Base58.digitChar = ['6', 'P', form.letter] := by
    decide +kernel
  exact hall form form.mem_all

/-! ## The text -/

/-- The form gives the first three characters, and fifty-five follow. -/
theorem exists_toList_encode (key : EncryptedKey) :
    ∃ tail : List Char, tail.length = 55 ∧
      key.encode.toList = '6' :: 'P' :: key.form.letter :: tail := by
  generalize hrest :
    key.addressHash.toList ++ key.content.toList ++ (Base58.checksum key.payload).toList = rest
  have hlength : rest.length = 40 := by simp [← hrest, Base58.checksumSize]
  have hbytes : key.payload ++ (Base58.checksum key.payload).toList = key.form.start ++ rest := by
    rw [← hrest, payload, Form.start]
    simp
  have hpos : key.form.startNumber ≠ 0 := by
    intro hzero
    have hdigits := key.form.map_digits_startNumber
    rw [hzero] at hdigits
    cases hdigits
  -- The forty bytes behind the start do not carry the number to the next multiple.
  have hle : key.form.startNumber * 58 ^ 55 ≤ Bytes.toNat key.form.start * 256 ^ rest.length := by
    rw [hlength]
    exact Nat.div_mul_le_self _ _
  have hlt := key.form.lt_startNumber
  rw [← hlength] at hlt
  obtain ⟨tail, htail, htext⟩ := Base58.toList_encode_of_start (by simp [Form.start, marker])
    hpos hle hlt
  rw [key.form.map_digits_startNumber] at htext
  refine ⟨tail, htail, ?_⟩
  rw [encode, Base58.encodeChecked, hbytes, htext]
  rfl

/-- **The text of an encrypted key has fifty-eight characters, starts with `6P`, and shows direct
mode in its third character.** -/
theorem encode_shape (key : EncryptedKey) :
    key.encode.length = 58 ∧ ['6', 'P'] <+: key.encode.toList ∧
    (key.encode.toList[2]? = some 'R' ↔ key.form.flags = 0xc0) ∧
    (key.encode.toList[2]? = some 'Y' ↔ key.form.flags = 0xe0) ∧
    (key.form.flags = 0xc0 ↔ key.form = ⟨.direct, false⟩) ∧
    (key.form.flags = 0xe0 ↔ key.form = ⟨.direct, true⟩) := by
  obtain ⟨tail, htail, htext⟩ := key.exists_toList_encode
  have hthird (compressed : Bool) :
      key.encode.toList[2]? = some (Form.letter ⟨.direct, compressed⟩) ↔
        key.form.flags = (⟨.direct, compressed⟩ : Form).flags := by
    rw [htext, Form.flags_eq_iff, ← Form.letter_inj]
    simp
  refine ⟨?_, ?_, hthird false, hthird true, key.form.flags_eq_iff false,
    key.form.flags_eq_iff true⟩
  · rw [← String.length_toList, htext]
    simp [htail]
  · rw [htext]
    exact ⟨key.form.letter :: tail, rfl⟩

end CoinKeys.EncryptedKey
