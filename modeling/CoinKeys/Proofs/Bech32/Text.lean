import CoinKeys.Bech32
import CoinKeys.Proofs.Bech32.Residue
import CoinKeys.Proofs.Outcome
import CoinKeys.Proofs.Text.Case
import CoinKeys.Proofs.Text.Offset
import Mathlib

/-!
# Bech32 is read as it is written

What is read and what is written are each described by one equivalence, in which the order of the
checks no longer shows (`decode_eq_ok_iff`, `encode_eq_ok_iff`).

**Theorem (`decode_of_encode`).** A written text that is short enough is read as the lower-case form
of its human-readable part and its values.
-/

namespace CoinKeys.Bech32

open Text

/-! ## Characters -/

@[simp] theorem isHrpChar_toLower (c : Char) : isHrpChar c.toLower = isHrpChar c := by
  by_cases hupper : c.isUpper = true
  · have hbounds : 65 ≤ c.toNat ∧ c.toNat ≤ 90 := by
      simp only [Char.isUpper, decide_eq_true_eq, UInt32.le_iff_toNat_le] at hupper
      exact ⟨hupper.1, hupper.2⟩
    have hvalid : (c.toNat + 32).isValidChar := Or.inl (by omega)
    rw [Bool.eq_iff_iff]
    simp only [isHrpChar, Bool.and_eq_true, decide_eq_true_eq,
      Char.toLower_eq_of_isUpper hupper, Char.toNat_ofNat, if_pos hvalid]
    omega
  · rw [Char.toLower_eq_of_not_isUpper hupper]

theorem utf8Size_of_isHrpChar {c : Char} (h : isHrpChar c = true) : c.utf8Size = 1 := by
  simp only [isHrpChar, Bool.and_eq_true, decide_eq_true_eq] at h
  rw [Char.utf8Size_eq_one_iff, UInt32.le_iff_toNat_le]
  exact h.2.trans (by decide)

theorem valueChar_spec {v : UInt8} (h : v.toNat < 32) :
    value? (valueChar v) = some v ∧ isHrpChar (valueChar v) = true ∧
      (valueChar v).isUpper = false := by
  have hall : ∀ n < 32, value? (valueChar (UInt8.ofNat n)) = some (UInt8.ofNat n) ∧
      isHrpChar (valueChar (UInt8.ofNat n)) = true ∧
      (valueChar (UInt8.ofNat n)).isUpper = false := by
    decide +kernel
  have hv := hall v.toNat h
  rwa [UInt8.ofNat_toNat] at hv

theorem value?_valueChar {v : UInt8} (h : v.toNat < 32) : value? (valueChar v) = some v :=
  (valueChar_spec h).1

theorem filterMap_value?_map {values : List UInt8} (h : ∀ v ∈ values, v.toNat < 32) :
    (values.map valueChar).filterMap value? = values := by
  induction values with
  | nil => rfl
  | cons v values ih =>
    rw [List.map_cons, List.filterMap_cons_some (value?_valueChar (h v List.mem_cons_self)),
      ih fun w hw => h w (List.mem_cons_of_mem _ hw)]

@[simp] theorem value?_toLower (c : Char) : value? c.toLower = value? c := by
  simp [value?]

theorem valueChar_of_value? {c : Char} {v : UInt8} (h : value? c = some v) :
    v.toNat < 32 ∧ valueChar v = c.toLower := by
  obtain ⟨i, hi, rfl⟩ := Option.map_eq_some_iff.mp h
  obtain ⟨hlt, hchar, -⟩ := List.findIdx?_eq_some_iff_getElem.mp hi
  have hlength : alphabet.length = 32 := by decide +kernel
  have hvalue : (UInt8.ofNat i).toNat = i :=
    UInt8.toNat_ofNat_of_lt' ((hlt.trans_eq hlength).trans (by decide))
  refine ⟨by omega, ?_⟩
  rw [valueChar, hvalue, List.getD_eq_getElem _ _ hlt]
  exact beq_iff_eq.mp hchar

theorem isHrpChar_of_value? {c : Char} (h : (value? c).isSome = true) : isHrpChar c = true := by
  obtain ⟨v, hv⟩ := Option.isSome_iff_exists.mp h
  obtain ⟨hlt, hchar⟩ := valueChar_of_value? hv
  rw [← isHrpChar_toLower, ← hchar]
  exact (valueChar_spec hlt).2.1

theorem value?_separator : value? separator = none := by
  decide +kernel

theorem lt_of_mem_filterMap_value? {chars : List Char} :
    ∀ v ∈ chars.filterMap value?, v.toNat < 32 := by
  intro v hv
  obtain ⟨c, -, hc⟩ := List.mem_filterMap.mp hv
  exact (valueChar_of_value? hc).1

theorem map_valueChar_filterMap {chars : List Char}
    (h : ∀ c ∈ chars, (value? c).isSome = true) :
    (chars.filterMap value?).map valueChar = chars.map Char.toLower := by
  induction chars with
  | nil => rfl
  | cons c chars ih =>
    obtain ⟨v, hv⟩ := Option.isSome_iff_exists.mp (h c List.mem_cons_self)
    rw [List.filterMap_cons_some hv, List.map_cons, List.map_cons, (valueChar_of_value? hv).2,
      ih fun d hd => h d (List.mem_cons_of_mem _ hd)]

theorem length_filterMap_value? {chars : List Char}
    (h : ∀ c ∈ chars, (value? c).isSome = true) :
    (chars.filterMap value?).length = chars.length := by
  have hmap := congrArg List.length (map_valueChar_filterMap h)
  rwa [List.length_map, List.length_map] at hmap

/-! ## Case -/

theorem caseClash?_eq_none_iff {chars : List Char} :
    caseClash? chars = none ↔
      (∀ c ∈ chars, c.isUpper = false) ∨ ∀ c ∈ chars, c.isLower = false := by
  rw [caseClash?]
  cases hfind : chars.find? Char.isAlpha with
  | none =>
    have hnone : ∀ c ∈ chars, c.isUpper = false := by
      intro c hc
      have halpha := List.find?_eq_none.mp hfind c hc
      simp only [Char.isAlpha, Bool.or_eq_true, not_or, Bool.not_eq_true] at halpha
      exact halpha.1
    exact iff_of_true rfl (.inl hnone)
  | some first =>
    have hmem : first ∈ chars := List.mem_of_find?_eq_some hfind
    have halpha : first.isAlpha = true := List.find?_some hfind
    simp only [findOffset?_eq_none_iff]
    refine ⟨fun h => ?_, fun h c hc => ?_⟩
    -- The case that does not occur is the other one than that of the first letter.
    · cases hfirst : first.isUpper with
      | true =>
        right
        intro c hc
        have hcase := h c hc
        cases hlower : c.isLower with
        | false => rfl
        | true =>
          have hnotUpper : ¬c.isUpper = true := Char.not_isUpper_of_isLower hlower
          simp [Char.isAlpha, hlower, hfirst, hnotUpper] at hcase
      | false =>
        left
        intro c hc
        have hcase := h c hc
        cases hupper : c.isUpper with
        | false => rfl
        | true => simp [Char.isAlpha, hupper, hfirst] at hcase
    · rcases h with hupper | hlower
      · simp [hupper c hc, hupper first hmem]
      · have hfirst : first.isUpper = true := by
          simpa [Char.isAlpha, hlower first hmem] using halpha
        cases hcase : c.isUpper <;> simp [Char.isAlpha, hlower c hc, hfirst, hcase]

/-! ## What is read -/

/-- The first part of a text is free of misplaced characters when it is human-readable, the second
when it spells values. -/
theorem misplaced?_eq_none_iff {chars hrp data : List Char}
    (h : splitLast? separator chars = some (hrp, data)) :
    misplaced? chars = none ↔
      (∀ c ∈ hrp, isHrpChar c = true) ∧ ∀ c ∈ data, (value? c).isSome = true := by
  rw [misplaced?, h]
  simp [findOffset?_eq_none_iff]

/-- A text of a proper length with letters of one case, in which `hrp` and `data` stand before and
behind the last separator and hold only characters that may stand there. -/
structure Layout (text : String) (hrp data : List Char) : Prop where
  toList_eq : text.toList = hrp ++ separator :: data
  length_le : text.toList.length ≤ maxLength
  oneCase : caseClash? text.toList = none
  hrp_ne_nil : hrp ≠ []
  checksumSize_le : checksumSize ≤ data.length
  isHrpChar_hrp : ∀ c ∈ hrp, isHrpChar c = true
  isSome_data : ∀ c ∈ data, (value? c).isSome = true

section Layout

variable {text : String} {hrp data : List Char}

theorem utf8Size_of_parts (htext : text.toList = hrp ++ separator :: data)
    (hhrp : ∀ c ∈ hrp, isHrpChar c = true) (hdata : ∀ c ∈ data, (value? c).isSome = true) :
    utf8Size text.toList = text.toList.length := by
  apply utf8Size_eq_length
  rw [htext]
  intro c hc
  rcases List.mem_append.mp hc with hc | hc
  · exact utf8Size_of_isHrpChar (hhrp c hc)
  · rcases List.mem_cons.mp hc with rfl | hc
    · rfl
    · exact utf8Size_of_isHrpChar (isHrpChar_of_value? (hdata c hc))

theorem Layout.split (h : Layout text hrp data) :
    splitLast? separator text.toList = some (hrp, data) := by
  refine splitLast?_eq_some_iff.mpr ⟨h.toList_eq, fun hmem => ?_⟩
  have hsome := h.isSome_data separator hmem
  rw [value?_separator] at hsome
  cases hsome

/-- All that is left to check of a text laid out in two parts is the checksum. -/
theorem decode_of_layout (h : Layout text hrp data) :
    decode text = if isValid (hrp.map Char.toLower) (data.filterMap value?) then
      .ok (String.ofList (hrp.map Char.toLower),
        (data.filterMap value?).take ((data.filterMap value?).length - checksumSize))
    else .error .invalidChecksum := by
  have hsplit := h.split
  have hbytes := utf8Size_of_parts h.toList_eq h.isHrpChar_hrp h.isSome_data
  have hplaces := (misplaced?_eq_none_iff hsplit).mpr ⟨h.isHrpChar_hrp, h.isSome_data⟩
  have hdata : ¬ utf8Size data < checksumSize :=
    Nat.not_lt.mpr (h.checksumSize_le.trans (length_le_utf8Size data))
  have hmin : minLength ≤ text.toList.length := by
    have hpos := List.length_pos_iff.mpr h.hrp_ne_nil
    have hsums := h.checksumSize_le
    rw [h.toList_eq, List.length_append, List.length_cons]
    simp only [minLength, checksumSize] at *
    omega
  have hsize : ¬ (utf8Size text.toList < minLength || maxLength < utf8Size text.toList) := by
    simp [hbytes, hmin, h.length_le]
  obtain ⟨first, rest, rfl⟩ := List.exists_cons_of_ne_nil h.hrp_ne_nil
  simp only [decode, if_neg hsize, h.oneCase, hsplit, if_neg hdata, hplaces]

theorem exists_layout_of_decode {result : String × List UInt8} (h : decode text = .ok result) :
    ∃ hrp data, Layout text hrp data := by
  -- The checks come in the order of the reader; each but the last one leaves a field.
  simp only [decode] at h
  split at h
  · cases h
  · next hsize =>
    simp only [Bool.or_eq_true, decide_eq_true_eq, not_or, Nat.not_lt] at hsize
    split at h
    · cases h
    · next hcase =>
      split at h
      · cases h
      · cases h
      · next hrp data hne hsplit =>
        split at h
        · cases h
        · next hsums =>
          split at h
          · cases h
          · next hplaces =>
            obtain ⟨hhrp, hdata⟩ := (misplaced?_eq_none_iff hsplit).mp hplaces
            have htext := (splitLast?_eq_some_iff.mp hsplit).1
            have hbytes := utf8Size_of_parts htext hhrp hdata
            have hdataBytes : utf8Size data = data.length := utf8Size_eq_length fun c hc =>
              utf8Size_of_isHrpChar (isHrpChar_of_value? (hdata c hc))
            exact ⟨hrp, data, htext, hbytes ▸ hsize.2, hcase, hne,
              hdataBytes ▸ Nat.le_of_not_lt hsums, hhrp, hdata⟩

end Layout

theorem decode_of_long {text : String} (h : maxLength < utf8Size text.toList) :
    decode text = .error (.invalidLength (.bech32Text (utf8Size text.toList))) := by
  simp [decode, h]

/-- A text is read when it is laid out in two parts and its checksum is valid. -/
theorem decode_eq_ok_iff {text hrp : String} {values : List UInt8} :
    decode text = .ok (hrp, values) ↔
      ∃ before after, Layout text before after ∧
        isValid (before.map Char.toLower) (after.filterMap value?) = true ∧
        hrp = String.ofList (before.map Char.toLower) ∧
        values = (after.filterMap value?).take
          ((after.filterMap value?).length - checksumSize) := by
  refine ⟨fun h => ?_, fun h => ?_⟩
  · obtain ⟨before, after, hlayout⟩ := exists_layout_of_decode h
    rw [decode_of_layout hlayout] at h
    split at h
    · next hvalid =>
      obtain ⟨rfl, rfl⟩ := Prod.mk.inj (Except.ok.inj h)
      exact ⟨before, after, hlayout, hvalid, rfl, rfl⟩
    · cases h
  · obtain ⟨before, after, hlayout, hvalid, rfl, rfl⟩ := h
    rw [decode_of_layout hlayout, if_pos hvalid]

/-! ## What is written -/

theorem hrpFault?_eq_none_iff {chars : List Char} :
    hrpFault? chars = none ↔
      (chars ≠ [] ∧ utf8Size chars ≤ maxHrpLength) ∧ (∀ c ∈ chars, isHrpChar c = true) ∧
        caseClash? chars = none := by
  have hempty : utf8Size chars = 0 ↔ chars = [] := utf8Size_eq_zero_iff
  have hplaces : findOffset? (fun c => !isHrpChar c) chars = none ↔
      ∀ c ∈ chars, isHrpChar c = true := by simp [findOffset?_eq_none_iff]
  simp only [hrpFault?, Bool.or_eq_true, decide_eq_true_eq, hempty, ← hplaces]
  split
  · next hsize =>
    have hbad : ¬ (chars ≠ [] ∧ utf8Size chars ≤ maxHrpLength) := by
      rintro ⟨hne, hle⟩
      rcases hsize with hnil | hlong
      · exact hne hnil
      · exact Nat.not_le_of_lt hlong hle
    simp [hbad]
  · next hsize =>
    have hgood : chars ≠ [] ∧ utf8Size chars ≤ maxHrpLength :=
      ⟨fun hnil => hsize (.inl hnil), Nat.le_of_not_lt fun hlong => hsize (.inr hlong)⟩
    -- Whichever of the two places is told, there is a fault.
    cases findOffset? (fun c => !isHrpChar c) chars with
    | none => cases caseClash? chars <;> simp [hgood]
    | some outside =>
      cases caseClash? chars with
      | none => simp
      | some clash => simp only [reduceCtorEq, and_false, iff_false]; split <;> simp

/-- The data part of a text: values and checksum. -/
def dataChars (hrp : List Char) (values : List UInt8) : List Char :=
  (values ++ checksum hrp values).map valueChar

theorem encode_eq_ok_iff {hrp text : String} {values : List UInt8} :
    encode hrp values = .ok text ↔
      (∀ v ∈ values, v.toNat < 32) ∧ hrpFault? hrp.toList = none ∧
        text.toList = hrp.toList.map Char.toLower ++
          separator :: dataChars (hrp.toList.map Char.toLower) values := by
  have hlt : values.find? (32 ≤ ·) = none ↔ ∀ v ∈ values, v.toNat < 32 := by
    simp [List.find?_eq_none, UInt8.lt_iff_toNat_lt]
  rw [encode, ← hlt]
  cases values.find? (32 ≤ ·) with
  | some value => simp
  | none =>
    cases hrpFault? hrp.toList with
    | some fault => simp
    | none => simp [dataChars, ← String.toList_inj, eq_comm]

/-! ### Data parts -/

section DataChars

variable {hrp : List Char} {values : List UInt8}

theorem lt_of_mem_append_checksum (h : ∀ v ∈ values, v.toNat < 32) :
    ∀ v ∈ values ++ checksum hrp values, v.toNat < 32 := by
  intro v hv
  rcases List.mem_append.mp hv with hv | hv
  · exact h v hv
  · exact lt_of_mem_checksum hv

theorem exists_value_of_mem_dataChars (h : ∀ v ∈ values, v.toNat < 32) {c : Char}
    (hc : c ∈ dataChars hrp values) : ∃ v : UInt8, v.toNat < 32 ∧ valueChar v = c := by
  obtain ⟨v, hv, rfl⟩ := List.mem_map.mp hc
  exact ⟨v, lt_of_mem_append_checksum h v hv, rfl⟩

theorem filterMap_value?_dataChars (h : ∀ v ∈ values, v.toNat < 32) :
    (dataChars hrp values).filterMap value? = values ++ checksum hrp values :=
  filterMap_value?_map (lt_of_mem_append_checksum h)

theorem checksumSize_le_length_dataChars : checksumSize ≤ (dataChars hrp values).length := by
  simp [dataChars]

end DataChars

theorem forall_mem_encode {p : Char → Prop} (hhrp : ∀ c, isHrpChar c = true → p c.toLower)
    (hseparator : p separator) (hvalue : ∀ v : UInt8, v.toNat < 32 → p (valueChar v))
    {hrp text : String} {values : List UInt8} (h : encode hrp values = .ok text) :
    ∀ c ∈ text.toList, p c := by
  obtain ⟨hvalues, hfault, htext⟩ := encode_eq_ok_iff.mp h
  obtain ⟨-, hchars, -⟩ := hrpFault?_eq_none_iff.mp hfault
  intro c hc
  rw [htext, List.mem_append, List.mem_cons] at hc
  rcases hc with hc | rfl | hc
  · obtain ⟨d, hd, rfl⟩ := List.mem_map.mp hc
    exact hhrp d (hchars d hd)
  · exact hseparator
  · obtain ⟨v, hv, rfl⟩ := exists_value_of_mem_dataChars hvalues hc
    exact hvalue v hv

theorem isUpper_of_mem_encode {hrp text : String} {values : List UInt8}
    (h : encode hrp values = .ok text) : ∀ c ∈ text.toList, c.isUpper = false :=
  forall_mem_encode (p := fun c => c.isUpper = false) (fun c _ => c.isUpper_toLower_eq_false)
    rfl (fun _ hv => (valueChar_spec hv).2.2) h

theorem utf8Size_of_encode {hrp text : String} {values : List UInt8}
    (h : encode hrp values = .ok text) :
    utf8Size text.toList = hrp.toList.length + 1 + values.length + checksumSize := by
  have hone : ∀ c ∈ text.toList, c.utf8Size = 1 :=
    forall_mem_encode (p := fun c => c.utf8Size = 1)
      (fun c hc => utf8Size_of_isHrpChar (by rwa [isHrpChar_toLower c])) rfl
      (fun _ hv => utf8Size_of_isHrpChar (valueChar_spec hv).2.1) h
  obtain ⟨-, -, htext⟩ := encode_eq_ok_iff.mp h
  rw [utf8Size_eq_length hone, htext]
  simp [dataChars]
  omega

/-! ## Reading what is written -/

theorem layout_of_encode {hrp text : String} {values : List UInt8}
    (h : encode hrp values = .ok text) (hsize : utf8Size text.toList ≤ maxLength) :
    Layout text (hrp.toList.map Char.toLower)
      (dataChars (hrp.toList.map Char.toLower) values) := by
  obtain ⟨hvalues, hfault, htext⟩ := encode_eq_ok_iff.mp h
  obtain ⟨⟨hne, -⟩, hhrp, -⟩ := hrpFault?_eq_none_iff.mp hfault
  refine ⟨htext, (length_le_utf8Size _).trans hsize,
    caseClash?_eq_none_iff.mpr (.inl (isUpper_of_mem_encode h)), by simpa using hne,
    checksumSize_le_length_dataChars, ?_, ?_⟩
  · intro c hc
    obtain ⟨d, hd, rfl⟩ := List.mem_map.mp hc
    rw [isHrpChar_toLower, hhrp d hd]
  · intro c hc
    obtain ⟨v, hv, rfl⟩ := exists_value_of_mem_dataChars hvalues hc
    rw [value?_valueChar hv]
    rfl

/-- **A written text that is short enough is read as the lower-case form of its human-readable part
and its values.** -/
theorem decode_of_encode {hrp text : String} {values : List UInt8}
    (h : encode hrp values = .ok text) (hsize : utf8Size text.toList ≤ maxLength) :
    decode text = .ok (hrp.toLower, values) := by
  obtain ⟨hvalues, -, -⟩ := encode_eq_ok_iff.mp h
  have hlower : (hrp.toList.map Char.toLower).map Char.toLower = hrp.toList.map Char.toLower := by
    simp [Function.comp_def]
  refine decode_eq_ok_iff.mpr ⟨_, _, layout_of_encode h hsize, ?_⟩
  rw [filterMap_value?_dataChars hvalues, hlower, ← toList_toLower]
  refine ⟨?_, String.ofList_toList.symm, by simp⟩
  exact (isValid_append_iff (fun _ => lt_of_mem_checksum) (length_checksum _ _)).mpr rfl

/-! ## Writing what is read -/

theorem Layout.hrpFault?_eq_none {text : String} {hrp data : List Char}
    (h : Layout text hrp data) : hrpFault? (hrp.map Char.toLower) = none := by
  have hlower : ∀ c ∈ hrp.map Char.toLower, isHrpChar c = true := by
    simpa using h.isHrpChar_hrp
  refine hrpFault?_eq_none_iff.mpr ⟨⟨by simpa using h.hrp_ne_nil, ?_⟩, hlower,
    caseClash?_eq_none_iff.mpr (.inl (by simp))⟩
  have hle := h.length_le
  have hdata := h.checksumSize_le
  rw [h.toList_eq, List.length_append, List.length_cons] at hle
  rw [utf8Size_eq_length fun c hc => utf8Size_of_isHrpChar (hlower c hc), List.length_map]
  simp only [maxLength, maxHrpLength, checksumSize] at *
  omega

/-- **A text that is read is in lower case what is written for the human-readable part and the
values that are read.** -/
theorem encode_of_decode {text hrp : String} {values : List UInt8}
    (h : decode text = .ok (hrp, values)) : encode hrp values = .ok text.toLower := by
  obtain ⟨before, after, hlayout, hvalid, rfl, hvalues⟩ := decode_eq_ok_iff.mp h
  have hsymbols := List.take_append_drop ((after.filterMap value?).length - checksumSize)
    (after.filterMap value?)
  have hlt : ∀ v ∈ after.filterMap value?, v.toNat < 32 := lt_of_mem_filterMap_value?
  have hlength := length_filterMap_value? hlayout.isSome_data
  rw [← hvalues] at hsymbols
  generalize hsums : (after.filterMap value?).drop
    ((after.filterMap value?).length - checksumSize) = sums at hsymbols
  have hsumsLength : sums.length = checksumSize := by
    have hle := hlayout.checksumSize_le
    rw [← hsums, List.length_drop, hlength]
    omega
  rw [← hsymbols] at hlt hvalid
  -- The whole is valid, so its last six symbols can only be the checksum.
  have hchecksum : sums = checksum (before.map Char.toLower) values :=
    (isValid_append_iff (fun s hs => hlt s (List.mem_append_right _ hs)) hsumsLength).mp hvalid
  refine encode_eq_ok_iff.mpr ⟨fun v hv => hlt v (List.mem_append_left _ hv), ?_, ?_⟩
  · rw [String.toList_ofList]
    exact hlayout.hrpFault?_eq_none
  · have hdata : after.map Char.toLower = dataChars (before.map Char.toLower) values := by
      rw [dataChars, ← hchecksum, hsymbols, map_valueChar_filterMap hlayout.isSome_data]
    have hseparator : separator.toLower = separator := rfl
    rw [toList_toLower, hlayout.toList_eq, List.map_append, List.map_cons, hdata, hseparator,
      String.toList_ofList]
    simp [Function.comp_def]

end CoinKeys.Bech32
