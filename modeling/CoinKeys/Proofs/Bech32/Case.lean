import CoinKeys.Proofs.Bech32.Text

/-!
# Reading and writing undo each other

What is written is in lower case, and a text is read alike in either case: the characters that may
stand in it keep their place, and spell the same values, when the case of all letters is changed
(`Layout.decode_toLower`).

**Theorem (`decode_inverse_encode`).** A written text that is short enough is read as what it was
written for, in lower case and in upper case, and a text is read only if its lower-case form is
what is written for the result. So a human-readable part and values have two texts at most.
-/

namespace CoinKeys.Bech32

open Text

section Layout

variable {text : String} {hrp data : List Char}

theorem Layout.toLower (h : Layout text hrp data) :
    Layout text.toLower (hrp.map Char.toLower) (data.map Char.toLower) where
  toList_eq := by
    rw [toList_toLower, h.toList_eq, List.map_append, List.map_cons]
    rfl
  length_le := by simpa using h.length_le
  oneCase := caseClash?_eq_none_iff.mpr (.inl (isUpper_of_mem_toLower text))
  hrp_ne_nil := by simpa using h.hrp_ne_nil
  checksumSize_le := by simpa using h.checksumSize_le
  isHrpChar_hrp := by simpa using h.isHrpChar_hrp
  isSome_data := by simpa using h.isSome_data

theorem exists_layout_of_toLower (h : Layout text.toLower hrp data)
    (hcase : caseClash? text.toList = none) : ∃ before after, Layout text before after := by
  have htext := h.toList_eq
  rw [toList_toLower] at htext
  obtain ⟨before, rest, htext, rfl, hrest⟩ := List.map_eq_append_iff.mp htext
  obtain ⟨c, after, rfl, hc, rfl⟩ := List.map_eq_cons_iff.mp hrest
  -- The separator is no letter, so the one in the lower-case form stands in the text itself.
  obtain rfl := (toLower_eq_iff (by decide)).mp hc
  exact ⟨before, after, htext, by simpa using h.length_le, hcase, by simpa using h.hrp_ne_nil,
    by simpa using h.checksumSize_le, by simpa using h.isHrpChar_hrp, by simpa using h.isSome_data⟩

theorem Layout.decode_toLower (h : Layout text hrp data) : decode text.toLower = decode text := by
  rw [decode_of_layout h.toLower, decode_of_layout h]
  simp [Function.comp_def, List.filterMap_map]

end Layout

theorem decode_eq_ok_iff_toLower {text : String} (hcase : caseClash? text.toList = none)
    {result : String × List UInt8} :
    decode text = .ok result ↔ decode text.toLower = .ok result := by
  refine ⟨fun h => ?_, fun h => ?_⟩
  · obtain ⟨before, after, hlayout⟩ := exists_layout_of_decode h
    rw [hlayout.decode_toLower, h]
  · obtain ⟨_, _, hlower⟩ := exists_layout_of_decode h
    obtain ⟨before, after, hlayout⟩ := exists_layout_of_toLower hlower hcase
    rw [← hlayout.decode_toLower, h]

theorem eq_toLower_or_eq_toUpper_of_decode {text : String} {result : String × List UInt8}
    (h : decode text = .ok result) : text = text.toLower ∨ text = text.toLower.toUpper := by
  obtain ⟨before, after, hlayout⟩ := exists_layout_of_decode h
  exact eq_toLower_or_eq_toUpper (caseClash?_eq_none_iff.mp hlayout.oneCase)

theorem isUpper_of_decode {text hrp : String} {values : List UInt8}
    (h : decode text = .ok (hrp, values)) : ∀ c ∈ hrp.toList, c.isUpper = false := by
  obtain ⟨before, after, -, -, rfl, -⟩ := decode_eq_ok_iff.mp h
  simp

theorem decode_toUpper_of_encode {hrp text : String} {values : List UInt8}
    (h : encode hrp values = .ok text) (hsize : utf8Size text.toList ≤ maxLength) :
    decode text.toUpper = .ok (hrp.toLower, values) := by
  have hcase : caseClash? text.toUpper.toList = none :=
    caseClash?_eq_none_iff.mpr (.inr (by simp))
  rw [decode_eq_ok_iff_toLower hcase, toLower_toUpper, toLower_eq_self (isUpper_of_mem_encode h)]
  exact decode_of_encode h hsize

/-- **Reading and writing undo each other.** -/
theorem decode_inverse_encode :
    (∀ (hrp text : String) (values : List UInt8), encode hrp values = .ok text →
      (∀ c ∈ text.toList, c.isUpper = false) ∧
      (utf8Size text.toList ≤ maxLength →
        decode text = .ok (hrp.toLower, values) ∧
        decode text.toUpper = .ok (hrp.toLower, values))) ∧
    ∀ (text hrp : String) (values : List UInt8), decode text = .ok (hrp, values) →
      (∀ c ∈ hrp.toList, c.isUpper = false) ∧ (∀ v ∈ values, v.toNat < 32) ∧
      encode hrp values = .ok text.toLower := by
  refine ⟨fun hrp text values h => ?_, fun text hrp values h => ?_⟩
  · exact ⟨isUpper_of_mem_encode h,
      fun hsize => ⟨decode_of_encode h hsize, decode_toUpper_of_encode h hsize⟩⟩
  · have hwritten := encode_of_decode h
    obtain ⟨hvalues, -, -⟩ := encode_eq_ok_iff.mp hwritten
    exact ⟨isUpper_of_decode h, hvalues, hwritten⟩

/-- A human-readable part may hold the separator and a sign, and is read in upper case as well. -/
theorem decode_inverse_encode_separator :
    encode "A1?" [0, 31, 7] = .ok "a1?1ql84v5jyw" ∧
      decode "A1?1QL84V5JYW" = .ok ("a1?", [0, 31, 7]) ∧
      encode "a1?" [0, 31, 7] = .ok "a1?1ql84v5jyw" := by
  have hwritten : encode "A1?" [0, 31, 7] = .ok "a1?1ql84v5jyw" := by cbv
  obtain ⟨-, hread⟩ := decode_inverse_encode.1 "A1?" "a1?1ql84v5jyw" [0, 31, 7] hwritten
  obtain ⟨hlower, hupper⟩ := hread (by decide)
  have hhrp : "A1?".toLower = "a1?" := by cbv
  have htext : "a1?1ql84v5jyw".toUpper = "A1?1QL84V5JYW" := by cbv
  rw [hhrp] at hlower hupper
  rw [htext] at hupper
  have hself : "a1?1ql84v5jyw".toLower = "a1?1ql84v5jyw" := by cbv
  have hagain := (decode_inverse_encode.2 _ _ _ hlower).2.2
  rw [hself] at hagain
  exact ⟨hwritten, hupper, hagain⟩

end CoinKeys.Bech32
