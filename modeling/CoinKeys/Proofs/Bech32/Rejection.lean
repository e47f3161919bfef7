import CoinKeys.Proofs.Bech32.Parts

/-!
# The order in which a text is refused

What is wrong with a text before its checksum is one of six faults, told in a fixed order: each
later one is told of a text that has none of the earlier ones (`Rejects`). The checks of a whole
text tell five of them; a text that passes these checks (`Parted`) can still hold a character that
is out of place.

**Theorem (`decodeByParts_eq_decode`).** Reading by parts is reading, whatever the fallback for
places: where the pass over the parts stops at a character, the scan for its place finds one.

**Theorem (`decode_rejection_order`).** Every text with one of the faults is refused with its error,
and a text with none of them is read or refused for its checksum. A character that is told stands in
the text at the place that is told.
-/

namespace CoinKeys.Bech32

open Text

/-! ## Texts that pass the checks of a whole text -/

section Parted

variable {chars hrp data : List Char}

theorem size_check_iff :
    (utf8Size chars < minLength || maxLength < utf8Size chars) = true ↔
      ¬ (8 ≤ utf8Size chars ∧ utf8Size chars ≤ 90) := by
  rw [Bool.or_eq_true, decide_eq_true_eq, decide_eq_true_eq]
  change utf8Size chars < 8 ∨ 90 < utf8Size chars ↔ _
  omega

/-- A text of a proper length with letters of one case. -/
structure Uniform (chars : List Char) : Prop where
  minLength_le : 8 ≤ utf8Size chars
  le_maxLength : utf8Size chars ≤ 90
  oneCase : (∀ c ∈ chars, c.isUpper = false) ∨ ∀ c ∈ chars, c.isLower = false

theorem Uniform.size (h : Uniform chars) :
    ¬ (utf8Size chars < minLength || maxLength < utf8Size chars) :=
  mt size_check_iff.mp (not_not_intro ⟨h.minLength_le, h.le_maxLength⟩)

theorem Uniform.caseClash?_eq_none (h : Uniform chars) : caseClash? chars = none :=
  caseClash?_eq_none_iff.mpr h.oneCase

/-- A text that passes the checks of a whole text, cut at its last separator. -/
structure Parted (chars hrp data : List Char) : Prop extends Uniform chars where
  chars_eq : chars = hrp ++ '1' :: data
  separator_notMem : '1' ∉ data
  hrp_ne_nil : hrp ≠ []
  checksumSize_le : 6 ≤ utf8Size data

theorem Parted.split (h : Parted chars hrp data) :
    splitLast? separator chars = some (hrp, data) :=
  splitLast?_eq_some_iff.mpr ⟨h.chars_eq, h.separator_notMem⟩

/-- Of a text that passes these checks the characters are checked next. -/
theorem Parted.decode_of_misplaced {text : String} (h : Parted text.toList hrp data)
    {place : Located} (hplace : misplaced? text.toList = some place) :
    decode text = .error (.invalidCharacter place.char place.offset) := by
  have hdata : ¬ utf8Size data < checksumSize := Nat.not_lt.mpr h.checksumSize_le
  obtain ⟨first, rest, rfl⟩ := List.exists_cons_of_ne_nil h.hrp_ne_nil
  simp only [decode, if_neg h.size, h.caseClash?_eq_none, h.split, if_neg hdata, hplace]

theorem Parted.layout {text : String} (h : Parted text.toList hrp data)
    (hplace : misplaced? text.toList = none) : Layout text hrp data := by
  obtain ⟨hhrp, hdata⟩ := (misplaced?_eq_none_iff h.split).mp hplace
  have hdataBytes : utf8Size data = data.length := utf8Size_eq_length fun c hc =>
    utf8Size_of_isHrpChar (isHrpChar_of_value? (hdata c hc))
  exact ⟨h.chars_eq, utf8Size_of_parts h.chars_eq hhrp hdata ▸ h.le_maxLength,
    h.caseClash?_eq_none, h.hrp_ne_nil, hdataBytes ▸ h.checksumSize_le, hhrp, hdata⟩

end Parted

/-! ## Faults -/

/-- The faults of a text and their errors. -/
inductive Rejects (chars : List Char) : Error → Prop
  /-- The length in bytes is out of bounds. -/
  | length : ¬ (8 ≤ utf8Size chars ∧ utf8Size chars ≤ 90) →
      Rejects chars (.invalidLength (.bech32Text (utf8Size chars)))
  /-- There are letters of both cases: the first one in another case than the first letter. -/
  | mixedCase {before c after} : 8 ≤ utf8Size chars → utf8Size chars ≤ 90 →
      FirstAt Clashes chars before c after → Rejects chars (.invalidCharacter c (utf8Size before))
  /-- There is no separator. -/
  | noSeparator : Uniform chars → '1' ∉ chars → Rejects chars (.invalidPrefix .noSeparator)
  /-- The last separator is the first character. -/
  | noHrp {data} : Uniform chars → chars = '1' :: data → '1' ∉ data →
      Rejects chars (.invalidPrefix .noHumanReadablePart)
  /-- There are too few bytes behind the last separator. -/
  | shortData {hrp data} : Uniform chars → chars = hrp ++ '1' :: data → '1' ∉ data → hrp ≠ [] →
      utf8Size data < 6 → Rejects chars (.invalidLength .bech32Data)
  /-- A character may not stand on its side of the last separator: the first such character. -/
  | misplaced {hrp data before c after} : Parted chars hrp data →
      FirstAt (Misplaced hrp) chars before c after →
      Rejects chars (.invalidCharacter c (utf8Size before))

/-- What is checked of a whole text is told of faulty texts only, and all else passes. -/
theorem checkText_cases (chars : List Char) :
    (∃ e, checkText chars = .error e ∧ Rejects chars e) ∨
      ∃ hrp data, checkText chars = .ok () ∧ Parted chars hrp data := by
  rw [checkText]
  -- One branch for each check, in the order of the reader.
  split
  · next hsize => exact .inl ⟨_, rfl, .length (size_check_iff.mp hsize)⟩
  · next hsize =>
    obtain ⟨hmin, hmax⟩ := not_not.mp (mt size_check_iff.mpr hsize)
    split
    · next hclash =>
      obtain ⟨before, c, after, hfirst, rfl⟩ := caseClash?_eq_some_iff.mp hclash
      exact .inl ⟨_, rfl, .mixedCase hmin hmax hfirst⟩
    · next hcase =>
      have huniform : Uniform chars := ⟨hmin, hmax, caseClash?_eq_none_iff.mp hcase⟩
      split
      · next hnone =>
        exact .inl ⟨_, rfl, .noSeparator huniform (splitLast?_eq_none_iff.mp hnone)⟩
      · next hsplit =>
        obtain ⟨heq, hlast⟩ := splitLast?_eq_some_iff.mp hsplit
        exact .inl ⟨_, rfl, .noHrp huniform heq hlast⟩
      · next hrp data hne hsplit =>
        obtain ⟨heq, hlast⟩ := splitLast?_eq_some_iff.mp hsplit
        split
        · next hshort => exact .inl ⟨_, rfl, .shortData huniform heq hlast hne hshort⟩
        · next hdata =>
          exact .inr ⟨hrp, data, rfl, huniform, heq, hlast, hne, Nat.le_of_not_lt hdata⟩

section Rejects

variable {text : String} {e : Error}

theorem Rejects.decode_eq_error (h : Rejects text.toList e) : decode text = .error e := by
  cases h with
  | length hsize =>
    simp only [decode, if_pos (size_check_iff.mpr hsize)]
  | mixedCase hmin hmax hfirst =>
    have hclash := caseClash?_eq_some_iff.mpr ⟨_, _, _, hfirst, rfl⟩
    simp only [decode, if_neg (mt size_check_iff.mp (not_not_intro ⟨hmin, hmax⟩)), hclash]
  | noSeparator h hseparator =>
    have hsplit : splitLast? separator text.toList = none := splitLast?_eq_none_iff.mpr hseparator
    simp only [decode, if_neg h.size, h.caseClash?_eq_none, hsplit]
  | @noHrp data h heq hlast =>
    have hsplit : splitLast? separator text.toList = some ([], data) :=
      splitLast?_eq_some_iff.mpr ⟨heq, hlast⟩
    simp only [decode, if_neg h.size, h.caseClash?_eq_none, hsplit]
  | @shortData hrp data h heq hlast hne hshort =>
    have hsplit : splitLast? separator text.toList = some (hrp, data) :=
      splitLast?_eq_some_iff.mpr ⟨heq, hlast⟩
    have hdata : utf8Size data < checksumSize := hshort
    obtain ⟨first, rest, rfl⟩ := List.exists_cons_of_ne_nil hne
    simp only [decode, if_neg h.size, h.caseClash?_eq_none, hsplit, if_pos hdata]
  | misplaced h hfirst =>
    exact h.decode_of_misplaced ((misplaced?_eq_some_iff h.split).mpr ⟨_, _, _, hfirst, rfl⟩)

theorem Rejects.exists_append {c : Char} {i : Nat}
    (h : Rejects text.toList (.invalidCharacter c i)) :
    ∃ before after, text.toList = before ++ c :: after ∧ i = utf8Size before := by
  cases h with
  | mixedCase _ _ hfirst => exact ⟨_, _, hfirst.chars_eq, rfl⟩
  | misplaced _ hfirst => exact ⟨_, _, hfirst.chars_eq, rfl⟩

theorem exists_rejects_or_layout (text : String) :
    (∃ e, Rejects text.toList e) ∨ ∃ hrp data, Layout text hrp data := by
  rcases checkText_cases text.toList with ⟨e, -, h⟩ | ⟨hrp, data, -, h⟩
  · exact .inl ⟨e, h⟩
  · cases hplace : misplaced? text.toList with
    | none => exact .inr ⟨hrp, data, h.layout hplace⟩
    | some place =>
      obtain ⟨before, c, after, hfirst, -⟩ := (misplaced?_eq_some_iff h.split).mp hplace
      exact .inl ⟨_, .misplaced h hfirst⟩

end Rejects

/-! ## The pass over a whole text -/

section Pass

variable {chars hrp data : List Char}

theorem variant?_eq_bech32_iff {symbols : List UInt8} :
    variant? hrp symbols = some .bech32 ↔ isValid hrp symbols = true := by
  rw [variant?]
  by_cases h : isValid hrp symbols = true
  · simp [h]
  · rw [if_neg h]
    split <;> simp [h]

theorem Parted.size_hrp (h : Parted chars hrp data) :
    ¬ (utf8Size hrp = 0 ∨ maxHrpLength < utf8Size hrp) := by
  have hne := mt utf8Size_eq_zero_iff.mp h.hrp_ne_nil
  have hle := h.le_maxLength
  have hdata := h.checksumSize_le
  have hseparator : '1'.utf8Size = 1 := rfl
  rw [h.chars_eq, utf8Size_append, utf8Size, hseparator] at hle
  simp only [maxHrpLength]
  omega

theorem Parted.caseClash?_parts (h : Parted chars hrp data) :
    caseClash? (hrp ++ data) = none := by
  have hcase := h.oneCase
  rw [h.chars_eq] at hcase
  simp only [caseClash?_eq_none_iff, List.forall_mem_append, List.forall_mem_cons] at hcase ⊢
  exact hcase.imp (fun hupper => ⟨hupper.1, hupper.2.2⟩) fun hlower => ⟨hlower.1, hlower.2.2⟩

/-- Where the scan of a whole text finds a place, the pass has stopped at a character. -/
theorem Parted.passText_of_misplaced (h : Parted chars hrp data) {place : Located}
    (hplace : misplaced? chars = some place) :
    ∃ reported, passText chars = .error (.character reported) := by
  have hcase := caseClash?_append_eq_none h.caseClash?_parts
  simp only [passText, h.split]
  rcases exists_firstAt_or_forall Offends hrp with ⟨before, c, after, hfirst⟩ | hgood
  · -- The letters are of one case, so the offender is not printable.
    have hc : ¬ isHrpChar c = true := by
      intro hc
      rw [caseClash?_of_firstAt hfirst hc] at hcase
      cases hcase
    refine ⟨leadChar c, ?_⟩
    rw [passHrp_of_firstAt h.size_hrp hfirst, if_neg hc]
    rfl
  · obtain ⟨hhrp, -⟩ := forall_of_not_offends hgood
    rw [passHrp_of_forall h.size_hrp hhrp hcase]
    change ∃ reported, (passData (.of hrp) data >>= _) = _
    rw [passData_eq h.caseClash?_parts]
    cases hfind : data.find? fun d => (value? d).isNone with
    | none =>
      have hdata : ∀ d ∈ data, (value? d).isSome = true := by
        simpa [Option.isSome_iff_ne_none] using List.find?_eq_none.mp hfind
      rw [(misplaced?_eq_none_iff h.split).mpr ⟨hhrp, hdata⟩] at hplace
      cases hplace
    | some c => exact ⟨c, rfl⟩

theorem Parted.passText_of_not_misplaced (h : Parted chars hrp data)
    (hplace : misplaced? chars = none) :
    passText chars =
      let lower := hrp.map Char.toLower
      let symbols := data.filterMap value?
      match variant? lower symbols with
      | none => .error .checksum
      | some variant => .ok (variant, lower, symbols.take (symbols.length - checksumSize)) := by
  obtain ⟨hhrp, hdata⟩ := (misplaced?_eq_none_iff h.split).mp hplace
  have hcase := h.caseClash?_parts
  have hfind : data.find? (fun d => (value? d).isNone) = none := by
    simpa [List.find?_eq_none, Option.isSome_iff_ne_none] using hdata
  -- The data was measured in bytes, but its characters take one byte each.
  have hlength : ¬ (data.filterMap value?).length < checksumSize := by
    have hbytes : utf8Size data = data.length := utf8Size_eq_length fun c hc =>
      utf8Size_of_isHrpChar (isHrpChar_of_value? (hdata c hc))
    rw [length_filterMap_value? hdata, ← hbytes]
    exact Nat.not_lt.mpr h.checksumSize_le
  simp only [passText, h.split, passHrp_of_forall h.size_hrp hhrp (caseClash?_append_eq_none hcase)]
  change (passData (.of hrp) data >>= _) = _
  rw [passData_eq hcase, hfind]
  simp only [bind, Except.bind, if_neg hlength]
  cases variant? (hrp.map Char.toLower) (data.filterMap value?) <;> rfl

end Pass

/-- **Reading by parts is reading**, whatever the fallback for places. -/
theorem decodeByParts_eq_decode (fallback : Char → Located) (text : String) :
    decodeByParts fallback text = decode text := by
  rcases checkText_cases text.toList with ⟨e, hcheck, h⟩ | ⟨hrp, data, hcheck, h⟩
  · rw [h.decode_eq_error, decodeByParts, hcheck]
    rfl
  · cases hplace : misplaced? text.toList with
    | some place =>
      obtain ⟨reported, hpass⟩ := h.passText_of_misplaced hplace
      rw [h.decode_of_misplaced hplace, decodeByParts, hcheck, hpass]
      change Except.error (PartFault.report fallback text.toList (.character reported)) = _
      rw [PartFault.report, hplace]
      rfl
    | none =>
      rw [decode_of_layout (h.layout hplace), decodeByParts, hcheck,
        h.passText_of_not_misplaced hplace]
      simp only [← variant?_eq_bech32_iff]
      cases variant? (hrp.map Char.toLower) (data.filterMap value?) with
      | none => rfl
      | some variant => cases variant <;> rfl

/-! ## The order of rejection -/

section Order

variable {text : String}

theorem decode_of_not_rejects (h : ∀ e, ¬ Rejects text.toList e) :
    decode text = .error .invalidChecksum ∨ ∃ result, decode text = .ok result := by
  obtain ⟨hrp, data, hlayout⟩ := (exists_rejects_or_layout text).resolve_left (not_exists.mpr h)
  rw [decode_of_layout hlayout]
  split
  · exact .inr ⟨_, rfl⟩
  · exact .inl rfl

theorem exists_append_of_decode {c : Char} {i : Nat}
    (h : decode text = .error (.invalidCharacter c i)) :
    ∃ before after, text.toList = before ++ c :: after ∧ i = utf8Size before := by
  by_cases hrejects : ∃ e, Rejects text.toList e
  · obtain ⟨e, he⟩ := hrejects
    rw [he.decode_eq_error] at h
    obtain rfl := Except.error.inj h
    exact he.exists_append
  · rcases decode_of_not_rejects (not_exists.mp hrejects) with hsum | ⟨result, hread⟩
    · rw [hsum] at h
      cases h
    · rw [hread] at h
      cases h

end Order

/-- **The order of rejection.** -/
theorem decode_rejection_order (text : String) :
    (∀ e, Rejects text.toList e → decode text = .error e) ∧
    ((∀ e, ¬ Rejects text.toList e) →
      decode text = .error .invalidChecksum ∨ ∃ result, decode text = .ok result) ∧
    (∀ c i, decode text = .error (.invalidCharacter c i) → ∃ before after : String,
      text.toList = before.toList ++ c :: after.toList ∧ i = before.utf8ByteSize) ∧
    ∀ fallback, decodeByParts fallback text = decode text := by
  refine ⟨fun e h => h.decode_eq_error, decode_of_not_rejects, fun c i h => ?_, fun fallback =>
    decodeByParts_eq_decode fallback text⟩
  obtain ⟨before, after, heq, rfl⟩ := exists_append_of_decode h
  refine ⟨String.ofList before, String.ofList after, ?_, (utf8ByteSize_ofList before).symm⟩
  rw [String.toList_ofList, String.toList_ofList, heq]

/-- Between two separators a character of two bytes is told, with the bytes before it counted; a
text without a fault is read. -/
theorem decode_rejection_order_separators :
    decode "a1\u00e9b1qqqqqq" = .error (.invalidCharacter '\u00e9' 2) ∧
      (∃ before after : String, "a1\u00e9b1qqqqqq".toList =
        before.toList ++ '\u00e9' :: after.toList ∧ 2 = before.utf8ByteSize) ∧
      (decode "a12uel5l" = .error .invalidChecksum ∨ ∃ result, decode "a12uel5l" = .ok result) := by
  have htext : "a1\u00e9b1qqqqqq".toList =
      ['a', '1', '\u00e9', 'b'] ++ '1' :: ['q', 'q', 'q', 'q', 'q', 'q'] := by cbv
  have hparted : Parted "a1\u00e9b1qqqqqq".toList ['a', '1', '\u00e9', 'b']
      ['q', 'q', 'q', 'q', 'q', 'q'] := by
    refine ⟨?_, htext, by decide, by decide, by decide⟩
    rw [htext]
    exact ⟨by decide, by decide, caseClash?_eq_none_iff.mp (by cbv)⟩
  have hfirst : FirstAt (fun _ d => ¬ Printable d) ['a', '1', '\u00e9', 'b']
      ['a', '1'] '\u00e9' ['b'] := firstAt_iff.mpr ⟨rfl, by simp [Printable], by decide⟩
  have hmisplaced : FirstAt (Misplaced ['a', '1', '\u00e9', 'b']) "a1\u00e9b1qqqqqq".toList
      ['a', '1'] '\u00e9' (['b'] ++ '1' :: ['q', 'q', 'q', 'q', 'q', 'q']) := by
    rw [htext]
    exact firstAt_misplaced_hrp hfirst
  have hrefused := (decode_rejection_order _).1 _ (.misplaced hparted hmisplaced)
  have hwritten : encode "a" [] = .ok "a12uel5l" := by cbv
  have hread := decode_of_encode hwritten (by decide)
  have hnone : ∀ e, ¬ Rejects "a12uel5l".toList e := by
    intro e he
    rw [(decode_rejection_order _).1 e he] at hread
    cases hread
  exact ⟨hrefused, (decode_rejection_order _).2.2.1 _ _ hrefused,
    (decode_rejection_order _).2.1 hnone⟩

end CoinKeys.Bech32
