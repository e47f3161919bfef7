import CoinKeys.Proofs.Base58

/-!
# Spellings in base 58

A byte string is a number behind some leading zeros, and a base 58 text is a number behind some
leading ones. The text spells the byte string when both agree (`Spells`); that determines the text
from the byte string and the byte string from the text.

**Theorem (`positional_bijection`).** What is written for a byte string is the one text that spells
it. Every text over the alphabet is read as the byte string that it spells, and every other text
is refused for its first character outside the alphabet (`FirstForeign`).

**Theorem (`decodeChecked_outcome`).** A checked text is read only as the payload that it was
written for, and every other text is refused for the first fault that it has (`CheckedFault`).
-/

namespace CoinKeys.Base58

/-! ## The alphabet -/

theorem length_alphabet : alphabet.length = 58 := by decide

theorem nodup_alphabet : alphabet.Nodup := by decide +kernel

theorem digit?_eq_none_iff {c : Char} : digit? c = none ↔ c ∉ alphabet := by
  rw [digit?, List.findIdx?_eq_none_iff]
  refine ⟨fun h hc => ?_, fun h d hd => ?_⟩
  · simpa using h c hc
  · rw [beq_eq_false_iff_ne]
    rintro rfl
    exact h hd

theorem isSome_digit?_iff {c : Char} : (digit? c).isSome ↔ c ∈ alphabet := by
  rw [← not_iff_not, ← digit?_eq_none_iff, Option.not_isSome_iff_eq_none]

theorem digit?_eq_some_idxOf {c : Char} (h : c ∈ alphabet) :
    digit? c = some (alphabet.idxOf c) := by
  rw [digit?, List.idxOf, List.findIdx?_eq_some_iff_findIdx_eq]
  exact ⟨List.findIdx_lt_length_of_exists ⟨c, h, beq_self_eq_true c⟩, rfl⟩

theorem digitsOf_eq_map {chars : List Char} (h : ∀ c ∈ chars, c ∈ alphabet) :
    digitsOf chars = chars.map alphabet.idxOf := by
  induction chars with
  | nil => rfl
  | cons c chars ih =>
    obtain ⟨hc, hchars⟩ := List.forall_mem_cons.mp h
    rw [digitsOf, List.filterMap_cons_some (digit?_eq_some_idxOf hc), List.map_cons]
    exact congrArg _ (ih hchars)

theorem idxOf_eq_zero_iff {c : Char} : alphabet.idxOf c = 0 ↔ c = '1' := by
  have hcons : alphabet = '1' :: alphabet.tail := by decide
  rw [hcons]
  by_cases hc : c = '1'
  · simp [hc]
  · simp [hc, List.idxOf_cons_ne _ (Ne.symm hc)]

/-! ## Spelling -/

/-- A text spells a byte string: it has a leading `1` for each leading zero byte and no other one,
and its digits denote the number of the byte string. -/
structure Spells (text : String) (data : Bytes) : Prop where
  mem_alphabet : ∀ c ∈ text.toList, c ∈ alphabet
  leading : (text.toList.takeWhile (· == '1')).length = (data.takeWhile (· == 0)).length
  number : Positional.value 58 (text.toList.map alphabet.idxOf) = Bytes.toNat data

theorem leadingZeros_map_idxOf (chars : List Char) :
    Positional.leadingZeros (chars.map alphabet.idxOf) = (chars.takeWhile (· == '1')).length := by
  have hdigit : (fun d => d == 0) ∘ alphabet.idxOf = (· == '1') := by
    funext c
    rw [Function.comp_apply, Bool.eq_iff_iff, beq_iff_eq, beq_iff_eq, idxOf_eq_zero_iff]
  rw [Positional.leadingZeros, List.takeWhile_map, hdigit, List.length_map]

theorem leadingZeros_map_toNat (data : Bytes) :
    Positional.leadingZeros (data.map UInt8.toNat) = (data.takeWhile (· == 0)).length := by
  have hbyte : (fun d => d == 0) ∘ UInt8.toNat = (· == 0) := by
    funext b
    rw [Function.comp_apply, Bool.eq_iff_iff, beq_iff_eq, beq_iff_eq, ← UInt8.toNat_inj]
    rfl
  rw [Positional.leadingZeros, List.takeWhile_map, hbyte, List.length_map]

theorem decode_eq_ok_iff_spells {text : String} {data : Bytes} :
    decode text = .ok data ↔ Spells text data := by
  have hdata : ∀ d ∈ data.map UInt8.toNat, d < 256 := fun d => Bytes.lt_of_mem_map_toNat
  -- What is read is a conversion of the digits, and `Spells` lists what a conversion keeps.
  rw [decode_eq_ok_iff, Positional.eq_convert_iff 58 (by decide) hdata]
  simp only [isSome_digit?_iff]
  refine ⟨fun h => ?_, fun h => ?_⟩
  · obtain ⟨hmem, hzeros, hvalue⟩ := h
    rw [digitsOf_eq_map hmem] at hzeros hvalue
    rw [leadingZeros_map_idxOf, leadingZeros_map_toNat] at hzeros
    exact ⟨hmem, hzeros.symm, hvalue.symm⟩
  · obtain ⟨hmem, hleading, hnumber⟩ := h
    rw [digitsOf_eq_map hmem, leadingZeros_map_idxOf, leadingZeros_map_toNat]
    exact ⟨hmem, hleading.symm, hnumber.symm⟩

/-! ## Texts that spell nothing -/

/-- The first character of a text outside the alphabet, and how many bytes precede it. -/
def FirstForeign (text : String) (c : Char) (offset : Nat) : Prop :=
  ∃ before after : String, text.toList = before.toList ++ c :: after.toList ∧
    (∀ d ∈ before.toList, d ∈ alphabet) ∧ c ∉ alphabet ∧ offset = before.utf8ByteSize

theorem firstForeign_iff {text : String} {c : Char} {offset : Nat} :
    FirstForeign text c offset ↔
      Text.findOffset? (fun c => (digit? c).isNone) text.toList = some ⟨offset, c⟩ := by
  simp only [Text.findOffset?_eq_some_iff, Option.isNone_iff_eq_none, digit?_eq_none_iff,
    Option.isNone_eq_false_iff, isSome_digit?_iff, Text.Located.mk.injEq]
  refine ⟨fun h => ?_, fun h => ?_⟩
  · obtain ⟨before, after, htext, hbefore, hc, rfl⟩ := h
    refine ⟨before.toList, c, after.toList, htext, hbefore, hc, ?_, rfl⟩
    rw [← Text.utf8ByteSize_ofList, String.ofList_toList]
  · obtain ⟨before, _, after, htext, hbefore, hc, rfl, rfl⟩ := h
    refine ⟨String.ofList before, String.ofList after, ?_, ?_, hc, ?_⟩
    · rw [String.toList_ofList, String.toList_ofList, htext]
    · rwa [String.toList_ofList]
    · rw [Text.utf8ByteSize_ofList]

theorem decode_eq_error_iff {text : String} {fault : Error} :
    decode text = .error fault ↔
      ∃ c offset, FirstForeign text c offset ∧ fault = .invalidCharacter c offset := by
  simp only [firstForeign_iff]
  rw [decode]
  cases Text.findOffset? (fun c => (digit? c).isNone) text.toList with
  | none => simp
  | some place =>
    refine ⟨fun h => ?_, fun h => ?_⟩
    · exact ⟨place.char, place.offset, rfl, (Except.error.inj h).symm⟩
    · obtain ⟨c, offset, hplace, rfl⟩ := h
      rw [Option.some.inj hplace]

theorem exists_decode_eq_ok {text : String} (h : ∀ c ∈ text.toList, c ∈ alphabet) :
    ∃ data, decode text = .ok data := by
  cases hread : decode text with
  | ok data => exact ⟨data, rfl⟩
  | error fault =>
    obtain ⟨c, offset, ⟨before, after, htext, -, hc, -⟩, -⟩ := decode_eq_error_iff.mp hread
    exact absurd (h c (by simp [htext])) hc

/-- **Base 58 is positional, and a bijection between byte strings and texts over its alphabet.**
What is written for a byte string is the text that spells it, every text over the alphabet is
written for what it is read as, and any other text is refused for its first character outside the
alphabet. -/
theorem positional_bijection :
    (alphabet.length = 58 ∧ alphabet.Nodup) ∧
    (∀ data text, encode data = text ↔ Spells text data) ∧
    (∀ data, decode (encode data) = .ok data) ∧
    (∀ text, (∀ c ∈ text.toList, c ∈ alphabet) →
      ∃ data, decode text = .ok data ∧ encode data = text) ∧
    ∀ text, (¬ ∀ c ∈ text.toList, c ∈ alphabet) →
      ∃ c offset, FirstForeign text c offset ∧
        decode text = .error (.invalidCharacter c offset) := by
  refine ⟨⟨length_alphabet, nodup_alphabet⟩, ?_, decode_encode, ?_, ?_⟩
  · intro data text
    rw [← decode_eq_ok_iff_spells, decode_eq_ok_iff_encode, eq_comm]
  · intro text hmem
    obtain ⟨data, hdata⟩ := exists_decode_eq_ok hmem
    exact ⟨data, hdata, (decode_eq_ok_iff_encode.mp hdata).symm⟩
  · intro text hforeign
    cases hread : decode text with
    | ok data => exact absurd (decode_eq_ok_iff_spells.mp hread).mem_alphabet hforeign
    | error fault =>
      obtain ⟨c, offset, hfirst, rfl⟩ := decode_eq_error_iff.mp hread
      exact ⟨c, offset, hfirst, rfl⟩

/-- Two zero bytes and the number 255, and a text whose second character takes two bytes. -/
theorem positional_bijection_zeros :
    encode [0, 0, 255] = "115Q" ∧ Spells "115Q" [0, 0, 255] ∧
    (∀ c ∈ "115Q".toList, c ∈ alphabet) ∧
    (∃ data, decode "115Q" = .ok data ∧ encode data = "115Q") ∧
    (¬ ∀ c ∈ "2é0".toList, c ∈ alphabet) ∧
    (∃ c offset, FirstForeign "2é0" c offset ∧
      decode "2é0" = .error (.invalidCharacter c offset)) ∧
    decode "2é0" = .error (.invalidCharacter 'é' 1) := by
  obtain ⟨-, hspells, -, hread, hrefused⟩ := positional_bijection
  have hwritten : encode [0, 0, 255] = "115Q" := by decide +kernel
  have hspelled := (hspells _ _).mp hwritten
  have hfault : decode "2é0" = .error (.invalidCharacter 'é' 1) := by decide +kernel
  have hforeign : ¬ ∀ c ∈ "2é0".toList, c ∈ alphabet := by
    intro hall
    obtain ⟨data, hdata, -⟩ := hread _ hall
    rw [hfault] at hdata
    cases hdata
  exact ⟨hwritten, hspelled, hspelled.mem_alphabet, hread _ hspelled.mem_alphabet, hforeign,
    hrefused _ hforeign, hfault⟩

/-! ## Checked texts -/

/-- What is wrong with a text that is not written for any payload: a character outside the alphabet
before all, then too few bytes for a checksum, then the checksum. -/
inductive CheckedFault (text : String) : Error → Prop
  | character {c : Char} {offset : Nat} (h : FirstForeign text c offset) :
    CheckedFault text (.invalidCharacter c offset)
  | length {data : Bytes} (hread : decode text = .ok data) (hshort : data.length < 4) :
    CheckedFault text (.invalidLength (.checksummedData data.length))
  | checksum {data : Bytes} (hread : decode text = .ok data) (hlong : 4 ≤ data.length)
    (hother : ∀ payload, text ≠ encodeChecked payload) : CheckedFault text .invalidChecksum

theorem verifyChecksum_eq_error_iff {data : Bytes} {fault : Error} :
    verifyChecksum data = .error fault ↔
      (data.length < 4 ∧ fault = .invalidLength (.checksummedData data.length)) ∨
      (4 ≤ data.length ∧ (∀ payload, verifyChecksum data ≠ .ok payload) ∧
        fault = .invalidChecksum) := by
  by_cases hshort : data.length < 4
  · simp [verifyChecksum, checksumSize, hshort, Nat.not_le.mpr hshort, eq_comm]
  · have hlong : 4 ≤ data.length := Nat.not_lt.mp hshort
    by_cases hsum : (checksum (data.take (data.length - 4))).toList = data.drop (data.length - 4)
    · simp [verifyChecksum, checksumSize, hshort, hsum]
    · simp [verifyChecksum, checksumSize, hshort, hsum, hlong, eq_comm]

theorem decodeChecked_eq_error_iff {text : String} {fault : Error} :
    decodeChecked text = .error fault ↔ CheckedFault text fault := by
  refine ⟨fun h => ?_, fun h => ?_⟩
  · have hother : ∀ payload, text ≠ encodeChecked payload := by
      intro payload htext
      rw [decodeChecked_eq_ok_iff.mpr htext] at h
      cases h
    -- The reader fails in one of its two steps, and the second one has two faults.
    rcases bind_eq_error_iff.mp h with hread | ⟨data, hread, hverify⟩
    · obtain ⟨c, offset, hfirst, rfl⟩ := decode_eq_error_iff.mp hread
      exact .character hfirst
    · rcases verifyChecksum_eq_error_iff.mp hverify with ⟨hshort, rfl⟩ | ⟨hlong, -, rfl⟩
      · exact .length hread hshort
      · exact .checksum hread hlong hother
  · apply bind_eq_error_iff.mpr
    cases h with
    | character hfirst => exact .inl (decode_eq_error_iff.mpr ⟨_, _, hfirst, rfl⟩)
    | length hread hshort =>
      exact .inr ⟨_, hread, verifyChecksum_eq_error_iff.mpr (.inl ⟨hshort, rfl⟩)⟩
    | checksum hread hlong hother =>
      refine .inr ⟨_, hread, verifyChecksum_eq_error_iff.mpr (.inr ⟨hlong, ?_, rfl⟩)⟩
      intro payload hverify
      exact hother payload (decodeChecked_eq_ok_iff.mp (bind_eq_ok_iff.mpr ⟨_, hread, hverify⟩))

/-- **A checked text is read only as the payload that it was written for, and any other text is
refused for the first fault that it has.** -/
theorem decodeChecked_outcome (text : String) :
    (∀ payload, decodeChecked text = .ok payload ↔ text = encodeChecked payload) ∧
    ∀ fault, decodeChecked text = .error fault ↔ CheckedFault text fault :=
  ⟨fun _ => decodeChecked_eq_ok_iff, fun _ => decodeChecked_eq_error_iff⟩

end CoinKeys.Base58
