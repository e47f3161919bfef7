import CoinKeys.Proofs.Bech32.Text
import CoinKeys.Proofs.Text.First

/-!
# Places of faults in a text

The two scans of a text for a character to blame are described by the kind of character that they
look for: a letter that clashes in case with the first one (`Clashes`), and a character that may not
stand on its side of the last separator (`Misplaced`). Each scan finds the first character of its
kind (`caseClash?_eq_some_iff`, `misplaced?_eq_some_iff`).
-/

namespace CoinKeys.Bech32

open Text

/-! ## Characters of the parts -/

/-- Printable ASCII without the space. -/
def Printable (c : Char) : Prop :=
  33 ≤ c.toNat ∧ c.toNat ≤ 126

instance (c : Char) : Decidable (Printable c) :=
  inferInstanceAs (Decidable (33 ≤ c.toNat ∧ c.toNat ≤ 126))

theorem isHrpChar_iff {c : Char} : isHrpChar c = true ↔ Printable c := by
  simp [isHrpChar, Printable]

theorem isHrpChar_of_isAlpha {c : Char} (h : c.isAlpha = true) : isHrpChar c = true := by
  simp only [Char.isAlpha, Char.isUpper, Char.isLower, Bool.or_eq_true, Bool.and_eq_true,
    decide_eq_true_eq, UInt32.le_iff_toNat_le] at h
  change (65 ≤ c.toNat ∧ c.toNat ≤ 90) ∨ 97 ≤ c.toNat ∧ c.toNat ≤ 122 at h
  rw [isHrpChar_iff, Printable]
  omega

theorem value?_eq_none_iff {c : Char} : value? c = none ↔ c.toLower ∉ alphabet := by
  rw [value?, Option.map_eq_none_iff, List.findIdx?_eq_none_iff]
  refine ⟨fun h hc => ?_, fun h d hd => ?_⟩
  · simpa using h _ hc
  · rw [beq_eq_false_iff_ne]
    rintro rfl
    exact h hd

/-! ## Letters of both cases -/

/-- A letter in another case than the first letter before it. -/
def Clashes (before : List Char) (c : Char) : Prop :=
  c.isAlpha = true ∧ ∃ first, before.find? Char.isAlpha = some first ∧ c.isUpper ≠ first.isUpper

section Clashes

variable {chars before after : List Char} {c : Char}

/-- Whether a letter of a text clashes is told from the first letter of the text. -/
theorem clashes_iff {first : Char}
    (hfind : (before ++ c :: after).find? Char.isAlpha = some first) :
    Clashes before c ↔ (c.isAlpha && c.isUpper != first.isUpper) = true := by
  rw [Bool.and_eq_true, bne_iff_ne, Clashes, List.find?_append] at *
  refine and_congr_right fun halpha => ?_
  cases hbefore : before.find? Char.isAlpha with
  | none =>
    rw [hbefore, Option.none_or, List.find?_cons_of_pos halpha] at hfind
    simp [Option.some.inj hfind]
  | some earlier =>
    rw [hbefore, Option.some_or] at hfind
    simp [Option.some.inj hfind]

theorem caseClash?_eq_some_iff {place : Located} :
    caseClash? chars = some place ↔ ∃ before c after,
      FirstAt Clashes chars before c after ∧ place = ⟨utf8Size before, c⟩ := by
  rw [caseClash?]
  cases hfind : chars.find? Char.isAlpha with
  | none =>
    refine iff_of_false (by simp) ?_
    rintro ⟨before, c, after, h, -⟩
    exact List.find?_eq_none.mp hfind c (h.chars_eq ▸ by simp) h.holds.1
  | some first =>
    simp only [findOffset?_eq_some_iff_firstAt]
    -- Letters before the clash are of one case, so the first letter stands for all of them.
    have hcongr : ∀ b d a, chars = b ++ d :: a →
        ((d.isAlpha && d.isUpper != first.isUpper) = true ↔ Clashes b d) := by
      rintro b d a rfl
      exact (clashes_iff hfind).symm
    simp only [FirstAt.congr hcongr]

theorem caseClash?_eq_none_iff_not_clashes :
    caseClash? chars = none ↔
      ∀ before c after, chars = before ++ c :: after → ¬ Clashes before c := by
  refine ⟨fun hnone before c after heq hclash => ?_, fun h => ?_⟩
  · obtain ⟨b, d, a, hfirst⟩ := exists_firstAt heq hclash
    have hsome := caseClash?_eq_some_iff.mpr ⟨b, d, a, hfirst, rfl⟩
    rw [hnone] at hsome
    cases hsome
  · by_contra hne
    obtain ⟨place, hplace⟩ := Option.ne_none_iff_exists'.mp hne
    obtain ⟨b, d, a, hfirst, -⟩ := caseClash?_eq_some_iff.mp hplace
    exact h b d a hfirst.chars_eq hfirst.holds

end Clashes

/-! ## Characters out of place -/

/-- A character before the last separator that is not printable, or one behind it that spells no
value. The last separator stands behind `hrp`. -/
def Misplaced (hrp before : List Char) (c : Char) : Prop :=
  (before.length < hrp.length ∧ ¬ Printable c) ∨
    (hrp.length < before.length ∧ c.toLower ∉ alphabet)

section Misplaced

variable {chars hrp data before after : List Char} {c : Char}

/-- A misplaced character stands in the human-readable part or in the data. -/
theorem Misplaced.hrp_or_data (h : Misplaced hrp before c)
    (heq : hrp ++ separator :: data = before ++ c :: after) :
    (∃ rest, hrp = before ++ c :: rest ∧ ¬ Printable c) ∨
      ∃ rest, before = hrp ++ separator :: rest ∧ data = rest ++ c :: after ∧
        c.toLower ∉ alphabet := by
  rcases append_cons_eq_append_cons heq with ⟨rfl, -, -⟩ | ⟨rest, rfl⟩ | ⟨rest, rfl⟩
  · simp [Misplaced] at h
  · rcases h with ⟨hlt, -⟩ | ⟨-, hc⟩
    · simp at hlt
    · have hdata : data = rest ++ c :: after := by simpa using heq
      exact .inr ⟨rest, rfl, hdata, hc⟩
  · rcases h with ⟨-, hc⟩ | ⟨hlt, -⟩
    · exact .inl ⟨rest, rfl, hc⟩
    · simp at hlt

theorem firstAt_misplaced_hrp
    (h : FirstAt (fun _ d => ¬ Printable d) hrp before c after) :
    FirstAt (Misplaced hrp) (hrp ++ separator :: data) before c (after ++ separator :: data) := by
  have hlength : before.length < hrp.length := by
    rw [h.chars_eq]
    simp
  refine ⟨by rw [h.chars_eq]; simp, .inl ⟨hlength, h.holds⟩, fun b d a hb hd => ?_⟩
  rcases hd with ⟨-, hd⟩ | ⟨hlt, -⟩
  · exact h.least b d a hb hd
  · rw [hb, List.length_append] at hlength
    omega

theorem firstAt_misplaced_data (hhrp : ∀ d ∈ hrp, Printable d)
    (h : FirstAt (fun _ d => d.toLower ∉ alphabet) data before c after) :
    FirstAt (Misplaced hrp) (hrp ++ separator :: data) (hrp ++ separator :: before) c after := by
  refine ⟨by rw [h.chars_eq]; simp, .inr ⟨by simp, h.holds⟩, fun b d a hb hd => ?_⟩
  rcases hd.hrp_or_data hb with ⟨rest, rfl, hprintable⟩ | ⟨rest, -, hbefore, hvalue⟩
  · exact hprintable (hhrp d (by simp))
  · exact h.least rest d a hbefore hvalue

theorem exists_firstAt_of_misplaced? (h : splitLast? separator chars = some (hrp, data))
    {place : Located} (hplace : misplaced? chars = some place) :
    ∃ before c after, FirstAt (Misplaced hrp) chars before c after ∧
      place = ⟨utf8Size before, c⟩ := by
  obtain ⟨rfl, -⟩ := splitLast?_eq_some_iff.mp h
  simp only [misplaced?, h] at hplace
  rcases Option.or_eq_some_iff.mp hplace with hhrp | ⟨hnone, hdata⟩
  · obtain ⟨before, c, after, hfirst, rfl⟩ := findOffset?_eq_some_iff_firstAt.mp hhrp
    simp only [Bool.not_eq_true', ← Bool.not_eq_true, isHrpChar_iff] at hfirst
    exact ⟨before, c, _, firstAt_misplaced_hrp hfirst, rfl⟩
  · obtain ⟨_, hfound, rfl⟩ := Option.map_eq_some_iff.mp hdata
    obtain ⟨before, c, after, hfirst, rfl⟩ := findOffset?_eq_some_iff_firstAt.mp hfound
    simp only [Option.isNone_iff_eq_none, value?_eq_none_iff] at hfirst
    have hhrp : ∀ d ∈ hrp, Printable d := by
      simpa [isHrpChar_iff] using findOffset?_eq_none_iff.mp hnone
    refine ⟨_, c, after, firstAt_misplaced_data hhrp hfirst, ?_⟩
    rw [Located.shift, utf8Size_append, utf8Size, Nat.add_assoc]

theorem misplaced?_eq_some_iff (h : splitLast? separator chars = some (hrp, data))
    {place : Located} : misplaced? chars = some place ↔ ∃ before c after,
      FirstAt (Misplaced hrp) chars before c after ∧ place = ⟨utf8Size before, c⟩ := by
  refine ⟨exists_firstAt_of_misplaced? h, ?_⟩
  rintro ⟨before, c, after, hfirst, rfl⟩
  cases hplace : misplaced? chars with
  | none =>
    obtain ⟨hhrp, hdata⟩ := (misplaced?_eq_none_iff h).mp hplace
    have heq := (splitLast?_eq_some_iff.mp h).1.symm.trans hfirst.chars_eq
    rcases hfirst.holds.hrp_or_data heq with ⟨rest, hmem, hc⟩ | ⟨rest, -, hmem, hc⟩
    · exact absurd (isHrpChar_iff.mp (hhrp c (hmem ▸ by simp))) hc
    · have hvalue := hdata c (hmem ▸ by simp)
      rw [value?_eq_none_iff.mpr hc] at hvalue
      cases hvalue
  | some other =>
    -- A text has one first place of a kind.
    obtain ⟨before', c', after', hfirst', rfl⟩ := exists_firstAt_of_misplaced? h hplace
    obtain ⟨rfl, rfl, -⟩ := hfirst.unique hfirst'
    rfl

end Misplaced

end CoinKeys.Bech32
