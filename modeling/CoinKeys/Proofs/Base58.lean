import CoinKeys.Base58
import CoinKeys.Proofs.Bytes
import CoinKeys.Proofs.Outcome
import CoinKeys.Proofs.Text.Offset

/-!
# Base 58 is read as it is written

**Theorem (`decode_eq_ok_iff_encode`).** A byte string is read from its base 58 text and from no
other text.

**Theorem (`decodeChecked_eq_ok_iff`).** A payload is read from its checked text and from no other
text.

What is read from a text is described by `decode_eq_ok_iff`: every character is a digit, and the
bytes are the numeral of the digits converted to base 256.
-/

namespace CoinKeys.Base58

/-! ## Digits -/

theorem digit?_digitChar : ∀ d < 58, digit? (digitChar d) = some d := by
  decide +kernel

theorem lt_of_digit? {c : Char} {d : Nat} (h : digit? c = some d) : d < 58 := by
  obtain ⟨hd, -⟩ := List.findIdx?_eq_some_iff_getElem.mp h
  exact hd

theorem digitChar_of_digit? {c : Char} {d : Nat} (h : digit? c = some d) : digitChar d = c := by
  obtain ⟨hd, hc, -⟩ := List.findIdx?_eq_some_iff_getElem.mp h
  rw [digitChar, List.getD_eq_getElem?_getD, List.getElem?_eq_getElem hd, Option.getD_some]
  exact eq_of_beq hc

/-- The digits of a text. -/
def digitsOf (chars : List Char) : List Nat :=
  chars.filterMap digit?

theorem lt_of_mem_digitsOf {chars : List Char} {d : Nat} (h : d ∈ digitsOf chars) : d < 58 := by
  obtain ⟨c, -, hc⟩ := List.mem_filterMap.mp h
  exact lt_of_digit? hc

theorem digitsOf_map_digitChar {numeral : List Nat} (h : ∀ d ∈ numeral, d < 58) :
    digitsOf (numeral.map digitChar) = numeral := by
  induction numeral with
  | nil => rfl
  | cons d numeral ih =>
    have hd := digit?_digitChar d (h d List.mem_cons_self)
    rw [List.map_cons, digitsOf, List.filterMap_cons_some hd]
    exact congrArg (d :: ·) (ih fun e he => h e (List.mem_cons_of_mem _ he))

theorem map_digitChar_digitsOf {chars : List Char} (h : ∀ c ∈ chars, (digit? c).isSome) :
    (digitsOf chars).map digitChar = chars := by
  induction chars with
  | nil => rfl
  | cons c chars ih =>
    obtain ⟨d, hd⟩ := Option.isSome_iff_exists.mp (h c List.mem_cons_self)
    rw [digitsOf, List.filterMap_cons_some hd, List.map_cons, digitChar_of_digit? hd]
    exact congrArg (c :: ·) (ih fun e he => h e (List.mem_cons_of_mem _ he))

theorem length_digitsOf {chars : List Char} (h : ∀ c ∈ chars, (digit? c).isSome) :
    (digitsOf chars).length = chars.length := by
  rw [← List.length_map (f := digitChar), map_digitChar_digitsOf h]

/-! ## Texts -/

theorem decode_eq_ok_iff {text : String} {data : Bytes} :
    decode text = .ok data ↔ (∀ c ∈ text.toList, (digit? c).isSome) ∧
      data.map UInt8.toNat = Positional.convert 58 256 (digitsOf text.toList) := by
  have hlt : ∀ d ∈ Positional.convert 58 256 (digitsOf text.toList), d < 256 :=
    fun d => Positional.lt_of_mem_convert 58 (by decide)
  rw [decode]
  -- The reader stops at the first character that is no digit, or else converts all digits.
  cases hfind : Text.findOffset? (fun c => (digit? c).isNone) text.toList with
  | some place =>
    have hnone : ¬ ∀ c ∈ text.toList, (digit? c).isSome := by
      intro hall
      rw [Text.findOffset?_eq_none_iff.mpr fun c hc => by simpa using hall c hc] at hfind
      cases hfind
    simp [hnone]
  | none =>
    have hall : ∀ c ∈ text.toList, (digit? c).isSome := fun c hc => by
      simpa using Text.findOffset?_eq_none_iff.mp hfind c hc
    simp only [Except.ok.injEq]
    refine ⟨fun h => ?_, fun h => ?_⟩
    · obtain rfl := h
      exact ⟨hall, Bytes.map_toNat_map_ofNat hlt⟩
    · obtain ⟨-, hdata⟩ := h
      rw [← Bytes.map_ofNat_map_toNat data, hdata, digitsOf]

/-- **A byte string is read from its text.** -/
theorem decode_encode (data : Bytes) : decode (encode data) = .ok data := by
  have hlt : ∀ d ∈ Positional.convert 256 58 (data.map UInt8.toNat), d < 58 :=
    fun d => Positional.lt_of_mem_convert 256 (by decide)
  rw [decode_eq_ok_iff, encode, String.toList_ofList, digitsOf_map_digitChar hlt]
  refine ⟨fun c hc => ?_, ?_⟩
  · obtain ⟨d, hd, rfl⟩ := List.mem_map.mp hc
    rw [digit?_digitChar d (hlt d hd)]
    rfl
  · exact (Positional.convert_convert (by decide) (by decide)
      fun d => Bytes.lt_of_mem_map_toNat).symm

/-- **A byte string is read from its text only.** -/
theorem decode_eq_ok_iff_encode {text : String} {data : Bytes} :
    decode text = .ok data ↔ text = encode data := by
  refine ⟨fun h => ?_, fun h => ?_⟩
  · obtain ⟨hdigits, hdata⟩ := decode_eq_ok_iff.mp h
    rw [encode, hdata,
      Positional.convert_convert (by decide) (by decide) fun d => lt_of_mem_digitsOf,
      map_digitChar_digitsOf hdigits, String.ofList_toList]
  · obtain rfl := h
    exact decode_encode data

/-! ## The number of a text -/

theorem toNat_of_decode {text : String} {data : Bytes} (h : decode text = .ok data) :
    Bytes.toNat data = Positional.value 58 (digitsOf text.toList) := by
  obtain ⟨-, hdata⟩ := decode_eq_ok_iff.mp h
  rw [Bytes.toNat, hdata, Positional.value_convert 58 (by decide)]

theorem length_le_iff_of_decode {text : String} {data : Bytes} (h : decode text = .ok data)
    (hlead : (digitsOf text.toList).head? ≠ some 0) {n : Nat} :
    data.length ≤ n ↔ Bytes.toNat data < 256 ^ n := by
  obtain ⟨-, hdata⟩ := decode_eq_ok_iff.mp h
  have hzeros : Positional.leadingZeros (digitsOf text.toList) = 0 :=
    Positional.leadingZeros_replicate_append 0 hlead
  rw [toNat_of_decode h, ← Positional.length_digits_le_iff (by decide),
    ← List.length_map (f := UInt8.toNat), hdata, Positional.convert, hzeros]
  rfl

theorem pow_length_le_of_decode {text : String} {data : Bytes} (h : decode text = .ok data) :
    58 ^ text.toList.length ≤ 58 * 256 ^ data.length := by
  obtain ⟨hdigits, hdata⟩ := decode_eq_ok_iff.mp h
  have hdigit : ∀ d ∈ digitsOf text.toList, d < 58 := fun d => lt_of_mem_digitsOf
  have hbound := Positional.pow_length_le_convert (by decide) (by decide : 58 ≤ 256) hdigit
  rwa [length_digitsOf hdigits, ← hdata, List.length_map] at hbound

/-- Without leading zeros, the text of a byte string is the numeral of its number. -/
theorem toList_encode {data : Bytes} (hlead : data.head? ≠ some 0) :
    (encode data).toList = (Positional.digits 58 (Bytes.toNat data)).map digitChar := by
  have hhead : (data.map UInt8.toNat).head? ≠ some 0 := by
    rw [List.head?_map]
    intro h
    obtain ⟨b, hb, hzero⟩ := Option.map_eq_some_iff.mp h
    exact hlead (hb.trans (congrArg some (UInt8.toNat_inj.mp hzero)))
  have hzeros : Positional.leadingZeros (data.map UInt8.toNat) = 0 :=
    Positional.leadingZeros_replicate_append 0 hhead
  rw [encode, String.toList_ofList, Positional.convert, hzeros]
  rfl

/-- Where all byte strings with the same start have the same quotient by a power of 58, they have
the same first characters. -/
theorem toList_encode_of_start {start rest : Bytes} {quotient count : Nat}
    (hlead : (start ++ rest).head? ≠ some 0) (hpos : quotient ≠ 0)
    (hle : quotient * 58 ^ count ≤ Bytes.toNat start * 256 ^ rest.length)
    (hlt : (Bytes.toNat start + 1) * 256 ^ rest.length ≤ (quotient + 1) * 58 ^ count) :
    ∃ tail : List Char, tail.length = count ∧
      (encode (start ++ rest)).toList =
        (Positional.digits 58 quotient).map digitChar ++ tail := by
  have hrest := Bytes.toNat_lt rest
  have hdiv : Bytes.toNat (start ++ rest) / 58 ^ count = quotient := by
    rw [Bytes.toNat_append]
    apply Nat.div_eq_of_lt_le
    · omega
    · rw [Nat.add_one_mul] at hlt
      omega
  refine ⟨(Positional.fixedDigits 58 count (Bytes.toNat (start ++ rest))).map digitChar,
    by simp, ?_⟩
  rw [toList_encode hlead, Positional.digits_eq_append (by decide) count (hdiv ▸ hpos), hdiv,
    List.map_append]

/-! ## Checked texts -/

theorem verifyChecksum_eq_ok_iff {data payload : Bytes} :
    verifyChecksum data = .ok payload ↔ data = payload ++ (checksum payload).toList := by
  refine ⟨fun h => ?_, fun h => ?_⟩
  · simp only [verifyChecksum] at h
    split at h
    · cases h
    · split at h
      · next hchecksum =>
        obtain rfl := Except.ok.inj h
        rw [hchecksum, List.take_append_drop]
      · cases h
  · obtain rfl := h
    simp [verifyChecksum, checksumSize]

/-- **A payload is read from its checked text only.** -/
theorem decodeChecked_eq_ok_iff {text : String} {payload : Bytes} :
    decodeChecked text = .ok payload ↔ text = encodeChecked payload := by
  simp only [decodeChecked, bind_eq_ok_iff, decode_eq_ok_iff_encode, verifyChecksum_eq_ok_iff]
  refine ⟨fun h => ?_, fun h => ?_⟩
  · obtain ⟨data, rfl, rfl⟩ := h
    rfl
  · obtain rfl := h
    exact ⟨_, rfl, rfl⟩

@[simp] theorem decodeChecked_encodeChecked (payload : Bytes) :
    decodeChecked (encodeChecked payload) = .ok payload :=
  decodeChecked_eq_ok_iff.mpr rfl

end CoinKeys.Base58
