import CoinKeys.Bech32.Parts
import CoinKeys.Proofs.Bech32.Place

/-!
# The pass over the parts

The pass over a human-readable part goes on as long as its characters are printable and their
letters of one case, and it stops at the first character that is not (`Offends`): a letter in the
other case is told as such, of any other character the first byte is told. The pass over the data
stops at the first character that spells no value.

**Theorem (`encodeByParts_atStart`).** Writing by parts is writing, with the start of the
human-readable part for a fallback.
-/

namespace CoinKeys.Bech32

open Text

/-! ## The first byte of a character -/

/-- The first byte of a character, taken for the character of its number. -/
def leadChar (c : Char) : Char :=
  Char.ofNat ((String.utf8EncodeChar c).headD 0).toNat

theorem toNat_ofNat_toNat (byte : UInt8) : (Char.ofNat byte.toNat).toNat = byte.toNat := by
  have hvalid : byte.toNat.isValidChar := Or.inl (byte.toNat_lt.trans (by decide))
  rw [Char.toNat_ofNat, if_pos hvalid]

theorem leadChar_of_lt {c : Char} (h : c.toNat < 128) : leadChar c = c := by
  have hle : c.val.toNat ≤ 127 := Nat.le_of_lt_succ h
  have hbyte : (UInt8.ofNat c.val.toNat).toNat = c.toNat :=
    UInt8.toNat_ofNat_of_lt' (h.trans (by decide))
  simp only [leadChar, String.utf8EncodeChar, if_pos hle]
  exact (congrArg Char.ofNat hbyte).trans (Char.ofNat_toNat c)

theorem toNat_leadChar_of_le {c : Char} (h : 128 ≤ c.toNat) :
    192 ≤ (leadChar c).toNat ∧ ((leadChar c).toNat = c.toNat → c.toNat = 195) := by
  have hgt : ¬ c.toNat ≤ 127 := Nat.not_le_of_lt h
  simp only [leadChar, toNat_ofNat_toNat, String.utf8EncodeChar, Char.toNat_val, if_neg hgt]
  split
  · have hbyte : (UInt8.ofNat (c.toNat / 64 % 32 + 192)).toNat = c.toNat / 64 + 192 := by
      rw [UInt8.toNat_ofNat']
      omega
    rw [List.headD_cons, hbyte]
    omega
  · split <;> simp <;> omega

theorem leadChar_eq_self_iff {c : Char} : leadChar c = c ↔ c.toNat < 128 ∨ c.toNat = 195 := by
  refine ⟨fun h => ?_, fun h => ?_⟩
  · by_cases hlt : c.toNat < 128
    · exact .inl hlt
    · exact .inr ((toNat_leadChar_of_le (Nat.le_of_not_lt hlt)).2 (congrArg Char.toNat h))
  · rcases h with hlt | heq
    · exact leadChar_of_lt hlt
    · rw [← Char.ofNat_toNat c, heq]
      decide

theorem isHrpChar_leadChar (c : Char) : isHrpChar (leadChar c) = isHrpChar c := by
  by_cases h : c.toNat < 128
  · rw [leadChar_of_lt h]
  · have hlead := (toNat_leadChar_of_le (Nat.le_of_not_lt h)).1
    rw [Bool.eq_iff_iff, isHrpChar_iff, isHrpChar_iff, Printable, Printable]
    omega

theorem utf8EncodeChar_eq_cons (c : Char) : ∃ byte rest,
    String.utf8EncodeChar c = byte :: rest ∧ Char.ofNat byte.toNat = leadChar c := by
  obtain ⟨byte, rest, h⟩ := List.exists_cons_of_ne_nil (String.utf8EncodeChar_ne_nil (c := c))
  exact ⟨byte, rest, h, by rw [leadChar, h, List.headD_cons]⟩

theorem leadChar_of_isHrpChar {c : Char} (h : isHrpChar c = true) : leadChar c = c :=
  leadChar_of_lt ((isHrpChar_iff.mp h).2.trans_lt (by decide))

theorem utf8EncodeChar_of_isHrpChar {c : Char} (h : isHrpChar c = true) : ∃ byte,
    String.utf8EncodeChar c = [byte] ∧ Char.ofNat byte.toNat = c := by
  have hlength : (String.utf8EncodeChar c).length = 1 := by
    rw [String.length_utf8EncodeChar, utf8Size_of_isHrpChar h]
  obtain ⟨byte, rest, hbytes, hbyte⟩ := utf8EncodeChar_eq_cons c
  obtain rfl : rest = [] := by simpa [hbytes] using hlength
  exact ⟨byte, hbytes, hbyte.trans (leadChar_of_isHrpChar h)⟩

/-! ## The cases that have been passed -/

/-- The cases of the letters of a text. -/
def CaseSeen.of (chars : List Char) : CaseSeen :=
  ⟨chars.any Char.isUpper, chars.any Char.isLower⟩

theorem CaseSeen.add_of (chars : List Char) (c : Char) :
    (CaseSeen.of chars).add c = CaseSeen.of (chars ++ [c]) := by
  simp [CaseSeen.of, CaseSeen.add]

theorem CaseSeen.isMixed_of_eq_false_iff {chars : List Char} :
    (CaseSeen.of chars).isMixed = false ↔ caseClash? chars = none := by
  rw [caseClash?_eq_none_iff, CaseSeen.isMixed, Bool.and_eq_false_iff]
  simp [CaseSeen.of]

theorem caseClash?_append_eq_none {before after : List Char}
    (h : caseClash? (before ++ after) = none) : caseClash? before = none := by
  rw [caseClash?_eq_none_iff] at *
  exact h.imp (fun hupper c hc => hupper c (List.mem_append_left _ hc))
    fun hlower c hc => hlower c (List.mem_append_left _ hc)

/-! ## The pass over a human-readable part -/

section PassHrp

variable {hrp before after : List Char} {c : Char}

theorem passBytes_append (passed : List Char) (rest : Bytes)
    (hprintable : ∀ d ∈ before, isHrpChar d = true) (hcase : caseClash? (passed ++ before) = none) :
    passBytes (.of passed) (before.flatMap String.utf8EncodeChar ++ rest) =
      passBytes (.of (passed ++ before)) rest := by
  induction before generalizing passed with
  | nil => simp
  | cons d before ih =>
    obtain ⟨hd, hbefore⟩ := List.forall_mem_cons.mp hprintable
    obtain ⟨byte, hbytes, hbyte⟩ := utf8EncodeChar_of_isHrpChar hd
    rw [List.append_cons passed d before] at hcase
    have hunmixed := CaseSeen.isMixed_of_eq_false_iff.mpr (caseClash?_append_eq_none hcase)
    rw [List.flatMap_cons, hbytes, List.singleton_append, List.cons_append, passBytes, hbyte,
      CaseSeen.add_of, hd, hunmixed]
    simp only [Bool.not_true, Bool.false_eq_true, if_false]
    rw [ih _ hbefore hcase, ← List.append_cons passed d before]

theorem passHrp_of_length (h : utf8Size hrp = 0 ∨ maxHrpLength < utf8Size hrp) :
    passHrp hrp = .error .length := by
  simp [passHrp, h]

theorem passHrp_of_forall (hsize : ¬ (utf8Size hrp = 0 ∨ maxHrpLength < utf8Size hrp))
    (hprintable : ∀ d ∈ hrp, isHrpChar d = true) (hcase : caseClash? hrp = none) :
    passHrp hrp = .ok (.of hrp) := by
  have hpass := passBytes_append [] [] hprintable hcase
  rw [List.append_nil, List.nil_append] at hpass
  simp only [passHrp, Bool.or_eq_true, decide_eq_true_eq, if_neg hsize]
  exact hpass

/-- A character of a human-readable part that is not printable, or a letter in another case than one
before it. -/
def Offends (before : List Char) (c : Char) : Prop :=
  ¬ Printable c ∨ Clashes before c

theorem Offends.clashes (h : Offends before c) (hc : isHrpChar c = true) : Clashes before c :=
  h.resolve_left (not_not_intro (isHrpChar_iff.mp hc))

theorem forall_of_not_offends (h : ∀ b d a, hrp = b ++ d :: a → ¬ Offends b d) :
    (∀ d ∈ hrp, isHrpChar d = true) ∧ caseClash? hrp = none := by
  refine ⟨fun d hd => ?_, caseClash?_eq_none_iff_not_clashes.mpr fun b d a hb hd => ?_⟩
  · obtain ⟨b, a, hb⟩ := List.append_of_mem hd
    have hgood := h b d a hb
    rw [Offends, not_or, not_not] at hgood
    exact isHrpChar_iff.mpr hgood.1
  · exact h b d a hb (.inr hd)

theorem passHrp_of_firstAt (hsize : ¬ (utf8Size hrp = 0 ∨ maxHrpLength < utf8Size hrp))
    (h : FirstAt Offends hrp before c after) :
    passHrp hrp =
      .error (if isHrpChar c = true then .mixedCase else .character (leadChar c)) := by
  obtain ⟨hprintable, hcase⟩ := forall_of_not_offends h.least
  have hpass := passBytes_append [] ((c :: after).flatMap String.utf8EncodeChar) hprintable hcase
  rw [← List.flatMap_append, ← h.chars_eq, List.nil_append] at hpass
  simp only [passHrp, Bool.or_eq_true, decide_eq_true_eq, if_neg hsize]
  refine hpass.trans ?_
  obtain ⟨byte, rest, hbytes, hbyte⟩ := utf8EncodeChar_eq_cons c
  rw [List.flatMap_cons, hbytes, List.cons_append, passBytes, hbyte, isHrpChar_leadChar]
  by_cases hc : isHrpChar c = true
  · have hmixed : (CaseSeen.of (before ++ [c])).isMixed = true := by
      rw [← Bool.not_eq_false, CaseSeen.isMixed_of_eq_false_iff,
        caseClash?_eq_none_iff_not_clashes]
      exact fun hnone => hnone before c [] rfl (h.holds.clashes hc)
    rw [leadChar_of_isHrpChar hc, CaseSeen.add_of]
    simp [hc, hmixed]
  · simp [hc]

end PassHrp

/-! ## The pass over the data -/

/-- Behind letters of its case, the data is passed up to the first character without a value. -/
theorem passData_eq {passed data : List Char} (hcase : caseClash? (passed ++ data) = none) :
    passData (.of passed) data =
      match data.find? fun c => (value? c).isNone with
      | some c => .error (.character c)
      | none => .ok (data.filterMap value?) := by
  induction data generalizing passed with
  | nil => rfl
  | cons c data ih =>
    rw [List.append_cons passed c data] at hcase
    have hunmixed := CaseSeen.isMixed_of_eq_false_iff.mpr (caseClash?_append_eq_none hcase)
    rw [passData, CaseSeen.add_of, hunmixed, ih hcase]
    cases hvalue : value? c with
    | none => simp [hvalue]
    | some value =>
      rw [List.find?_cons_of_neg (by simp [hvalue]), List.filterMap_cons_some hvalue]
      cases data.find? fun d => (value? d).isNone <;> rfl

/-! ## Writing by parts -/

section Encode

variable {hrp before after : List Char} {c : Char}

theorem caseClash?_of_firstAt (h : FirstAt Offends hrp before c after)
    (hc : isHrpChar c = true) : caseClash? hrp = some ⟨utf8Size before, c⟩ := by
  have hfirst : FirstAt Clashes hrp before c after :=
    ⟨h.chars_eq, h.holds.clashes hc, fun b d a hb hd => h.least b d a hb (.inr hd)⟩
  exact caseClash?_eq_some_iff.mpr ⟨before, c, after, hfirst, rfl⟩

/-- The place that is told for the first offender: a letter in the other case has its own. -/
theorem hrpFault?_of_firstAt (hsize : ¬ (utf8Size hrp = 0 ∨ maxHrpLength < utf8Size hrp))
    (h : FirstAt Offends hrp before c after) :
    hrpFault? hrp =
      let place := if isHrpChar c = true then ⟨utf8Size before, c⟩ else misplacedInHrp hrp c
      some (.invalidCharacter place.char place.offset) := by
  simp only [hrpFault?, Bool.or_eq_true, decide_eq_true_eq, if_neg hsize]
  by_cases hc : isHrpChar c = true
  · rw [caseClash?_of_firstAt h hc, if_pos hc]
    cases houtside : findOffset? (fun d => !isHrpChar d) hrp with
    | none => rfl
    | some outside =>
      obtain ⟨b, d, a, heq, -, hd, rfl⟩ := findOffset?_eq_some_iff.mp houtside
      have hoffends : Offends b d := .inl (mt isHrpChar_iff.mpr (by simpa using hd))
      simp only [if_neg (Nat.not_lt.mpr (h.utf8Size_le heq hoffends))]
  · have hprintable := (forall_of_not_offends h.least).1
    have hoffset : findOffset? (fun d => !isHrpChar d) hrp = some ⟨utf8Size before, c⟩ :=
      findOffset?_eq_some_iff.mpr ⟨before, c, after, h.chars_eq,
        fun d hd => by simp [hprintable d hd], by simpa using hc, rfl⟩
    rw [hoffset, if_neg hc]
    cases hclash : caseClash? hrp with
    | none => rfl
    | some clash =>
      obtain ⟨b, d, a, hfirst, rfl⟩ := caseClash?_eq_some_iff.mp hclash
      have hle := h.utf8Size_le hfirst.chars_eq (.inr hfirst.holds)
      -- A letter is printable, so the clash is another character than the offender.
      have hne : utf8Size before ≠ utf8Size b := by
        intro heq
        obtain ⟨-, rfl, -⟩ :=
          append_cons_inj_of_utf8Size (h.chars_eq.symm.trans hfirst.chars_eq) heq
        exact hc (isHrpChar_of_isAlpha hfirst.holds.1)
      simp only [if_pos (Nat.lt_of_le_of_ne hle hne)]

theorem hrpFault?_of_not_offends (hsize : ¬ (utf8Size hrp = 0 ∨ maxHrpLength < utf8Size hrp))
    (h : ∀ b d a, hrp = b ++ d :: a → ¬ Offends b d) : hrpFault? hrp = none := by
  obtain ⟨hne, hle⟩ := not_or.mp hsize
  exact hrpFault?_eq_none_iff.mpr
    ⟨⟨mt utf8Size_eq_zero_iff.mpr hne, Nat.le_of_not_lt hle⟩, forall_of_not_offends h⟩

/-- **Writing by parts is writing**, with the start of the human-readable part for a fallback. -/
theorem encodeByParts_atStart (hrp : String) (values : List UInt8) :
    encodeByParts atStart hrp values = encode hrp values := by
  rw [encodeByParts, encode]
  cases values.find? (32 ≤ ·) with
  | some value => rfl
  | none =>
    by_cases hsize : utf8Size hrp.toList = 0 ∨ maxHrpLength < utf8Size hrp.toList
    · have hfault : hrpFault? hrp.toList = some (.invalidLength .humanReadablePart) := by
        simp [hrpFault?, hsize]
      rw [hfault, passHrp_of_length hsize]
      rfl
    · rcases exists_firstAt_or_forall Offends hrp.toList with ⟨before, c, after, h⟩ | hgood
      · rw [hrpFault?_of_firstAt hsize h, passHrp_of_firstAt hsize h]
        by_cases hc : isHrpChar c = true
        · simp only [if_pos hc]
          change Except.error (PartFault.report atStart hrp.toList .mixedCase) = _
          rw [PartFault.report, caseClash?_of_firstAt h hc]
          rfl
        · simp only [if_neg hc]
          rfl
      · obtain ⟨hprintable, hcase⟩ := forall_of_not_offends hgood
        rw [hrpFault?_of_not_offends hsize hgood, passHrp_of_forall hsize hprintable hcase]
        rfl

end Encode

end CoinKeys.Bech32
