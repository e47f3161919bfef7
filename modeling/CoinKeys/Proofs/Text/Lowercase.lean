import CoinKeys.Proofs.Text.Case
import CoinKeys.Text.Lowercase

/-!
# Laws of lower case

On ASCII the full lower-case mapping is that of ASCII letters (`lowercaseChar_of_isAscii`). Beyond
ASCII it stays beyond ASCII: what a character maps to has a character there, with the one exception
of the Kelvin sign, which maps to the letter k (`exists_foreign_of_lowercaseChar`). So a text maps
to an ASCII text without a k only if it is its spelling in other cases of ASCII letters
(`lowercaseInContext_eq_iff`).

This holds by every rule for the sigma at the end of a word, since both small forms of sigma stand
beyond ASCII. So nothing here depends on which characters end one.
-/

namespace CoinKeys.Text

/-! ## The table -/

/-- An ASCII character. -/
def IsAscii (c : Char) : Prop :=
  c.toNat < 128

instance (c : Char) : Decidable (IsAscii c) :=
  inferInstanceAs (Decidable (c.toNat < 128))

/-- The Kelvin sign, whose lower-case form is the letter k. -/
def kelvinSign : Char := '\u212A'

/-- The run of the capital letters of ASCII. -/
def capitals : CaseRun := ⟨0x41, 0x5A, 1, 0x61⟩

/-- The run of the Kelvin sign alone. -/
def kelvinRun : CaseRun := ⟨0x212A, 0x212A, 1, 0x6B⟩

/-- A run beyond ASCII that maps to code points beyond ASCII, none of them a surrogate. -/
structure CaseRun.IsForeign (run : CaseRun) : Prop where
  le_first : 128 ≤ run.first
  le_target : 128 ≤ run.target
  isValidChar : run.target + (run.last - run.first) < 0xD800 ∨
    0xDFFF < run.target ∧ run.target + (run.last - run.first) < 0x110000

instance (run : CaseRun) : Decidable run.IsForeign :=
  decidable_of_iff (128 ≤ run.first ∧ 128 ≤ run.target ∧
      (run.target + (run.last - run.first) < 0xD800 ∨
        0xDFFF < run.target ∧ run.target + (run.last - run.first) < 0x110000))
    ⟨fun ⟨h₁, h₂, h₃⟩ => ⟨h₁, h₂, h₃⟩, fun ⟨h₁, h₂, h₃⟩ => ⟨h₁, h₂, h₃⟩⟩

theorem cases_of_mem_lowercaseRuns :
    ∀ run ∈ lowercaseRuns, run = capitals ∨ run = kelvinRun ∨ run.IsForeign := by
  decide +kernel

theorem CaseRun.covers_iff {run : CaseRun} {codePoint : Nat} :
    run.covers codePoint = true ↔
      (run.first ≤ codePoint ∧ codePoint ≤ run.last) ∧ (codePoint - run.first) % run.step = 0 := by
  simp only [covers, Bool.and_eq_true, decide_eq_true_eq, beq_iff_eq]

theorem CaseRun.le_of_covers {run : CaseRun} {codePoint : Nat}
    (h : run.covers codePoint = true) : run.first ≤ codePoint ∧ codePoint ≤ run.last :=
  (covers_iff.mp h).1

theorem CaseRun.IsForeign.le_toNat {run : CaseRun} (h : run.IsForeign) {codePoint : Nat}
    (hcovers : run.covers codePoint = true) :
    128 ≤ (Char.ofNat (run.target + (codePoint - run.first))).toNat := by
  obtain ⟨hfirst, hlast⟩ := run.le_of_covers hcovers
  have htarget := h.le_target
  have hvalid : (run.target + (codePoint - run.first)).isValidChar := by
    rcases h.isValidChar with hbelow | ⟨habove, hmax⟩
    · exact .inl (by omega)
    · exact .inr ⟨by omega, by omega⟩
  have htoNat : (Char.ofNat (run.target + (codePoint - run.first))).toNat =
      run.target + (codePoint - run.first) := by
    rw [Char.ofNat, dif_pos hvalid]
    rfl
  omega

/-! ## Characters -/

theorem covers_of_find? {run : CaseRun} {codePoint : Nat}
    (h : lowercaseRuns.find? (fun run => run.covers codePoint) = some run) :
    run ∈ lowercaseRuns ∧ run.covers codePoint = true := by
  have hcovers := List.find?_some h
  exact ⟨List.mem_of_find?_eq_some h, hcovers⟩

theorem isUpper_iff_covers {c : Char} : c.isUpper = true ↔ capitals.covers c.toNat = true := by
  have hstep : (c.toNat - capitals.first) % capitals.step = 0 := Nat.mod_one _
  rw [CaseRun.covers_iff, and_iff_left hstep]
  simp only [Char.isUpper, decide_eq_true_eq, UInt32.le_iff_toNat_le]
  rfl

theorem isAscii_of_isUpper {c : Char} (h : c.isUpper = true) : IsAscii c :=
  Nat.lt_of_le_of_lt (capitals.le_of_covers (isUpper_iff_covers.mp h)).2 (by decide)

theorem ofNat_eq_toLower {c : Char} (h : c.isUpper = true) :
    Char.ofNat (capitals.target + (c.toNat - capitals.first)) = c.toLower := by
  have hall : ∀ n < 128, (Char.ofNat n).isUpper = true →
      Char.ofNat (capitals.target + (n - capitals.first)) = (Char.ofNat n).toLower := by
    decide
  have hc := hall c.toNat (isAscii_of_isUpper h)
  rw [Char.ofNat_toNat] at hc
  exact hc h

/-- Of the runs, only that of the capital letters meets ASCII. -/
theorem lowercaseChar_of_isAscii {c : Char} (h : IsAscii c) : lowercaseChar c = [c.toLower] := by
  have hdotted : c ≠ dottedCapitalI := by
    rintro rfl
    exact absurd h (by decide)
  unfold lowercaseChar
  rw [if_neg hdotted]
  cases hfind : lowercaseRuns.find? (fun run => run.covers c.toNat) with
  | none =>
    have hupper : ¬ c.isUpper = true := by
      rw [isUpper_iff_covers]
      exact List.find?_eq_none.mp hfind capitals (by decide)
    show [c] = [c.toLower]
    rw [Char.toLower_eq_of_not_isUpper hupper]
  | some run =>
    obtain ⟨hmem, hcovers⟩ := covers_of_find? hfind
    have hfirst : run.first < 128 := Nat.lt_of_le_of_lt (run.le_of_covers hcovers).1 h
    rcases cases_of_mem_lowercaseRuns run hmem with rfl | rfl | hforeign
    · exact congrArg (fun d => [d]) (ofNat_eq_toLower (isUpper_iff_covers.mpr hcovers))
    · exact absurd hfirst (by decide)
    · exact absurd hforeign.le_first (Nat.not_le.mpr hfirst)

/-- **No character beyond ASCII maps to ASCII characters only, except for the Kelvin sign.** -/
theorem exists_foreign_of_lowercaseChar {c : Char} (h : ¬ IsAscii c) (hkelvin : c ≠ kelvinSign) :
    ∃ d ∈ lowercaseChar c, ¬ IsAscii d := by
  have hle : 128 ≤ c.toNat := Nat.le_of_not_lt h
  unfold lowercaseChar
  by_cases hdotted : c = dottedCapitalI
  · -- It maps to an i, but the dot above comes along.
    rw [if_pos hdotted]
    exact ⟨'\u0307', by simp, by decide⟩
  · rw [if_neg hdotted]
    cases hfind : lowercaseRuns.find? (fun run => run.covers c.toNat) with
    | none => exact ⟨c, by simp, h⟩
    | some run =>
      obtain ⟨hmem, hcovers⟩ := covers_of_find? hfind
      obtain ⟨hfirst, hlast⟩ := run.le_of_covers hcovers
      refine ⟨_, List.mem_singleton_self _, Nat.not_lt.mpr ?_⟩
      rcases cases_of_mem_lowercaseRuns run hmem with rfl | rfl | hforeign
      · exact absurd (hle.trans hlast) (by decide)
      · have hc : c.toNat = kelvinSign.toNat := Nat.le_antisymm hlast hfirst
        exact absurd (Char.toNat_inj.mp hc) hkelvin
      · exact hforeign.le_toNat hcovers

/-! ## Texts -/

variable {rule : List Char → List Char → Bool}

theorem lowercaseBehind_of_isAscii (before : List Char) {chars : List Char}
    (h : ∀ c ∈ chars, IsAscii c) :
    lowercaseBehind rule before chars = chars.map Char.toLower := by
  induction chars generalizing before with
  | nil => rfl
  | cons c chars ih =>
    obtain ⟨hc, hchars⟩ := List.forall_mem_cons.mp h
    have hsigma : ¬ (c = 'Σ' ∧ rule before chars = true) := by
      rintro ⟨rfl, -⟩
      exact absurd hc (by decide)
    rw [lowercaseBehind, if_neg hsigma, lowercaseChar_of_isAscii hc, ih _ hchars]
    rfl

/-- A text that maps to ASCII without a k is ASCII itself: a Kelvin sign would leave the k, and any
other character beyond ASCII one of its kind. -/
theorem isAscii_of_lowercaseBehind {before chars : List Char}
    (h : ∀ d ∈ lowercaseBehind rule before chars, IsAscii d ∧ d ≠ 'k') :
    ∀ c ∈ chars, IsAscii c := by
  induction chars generalizing before with
  | nil => simp
  | cons c chars ih =>
    rw [lowercaseBehind, List.forall_mem_append] at h
    obtain ⟨hfirst, hrest⟩ := h
    refine List.forall_mem_cons.mpr ⟨?_, ih hrest⟩
    by_contra hc
    split at hfirst
    · exact absurd (hfirst 'ς' (by simp)).1 (by decide)
    · by_cases hkelvin : c = kelvinSign
      · subst hkelvin
        exact (hfirst 'k' (by decide +kernel)).2 rfl
      · obtain ⟨d, hd, hforeign⟩ := exists_foreign_of_lowercaseChar hc hkelvin
        exact hforeign (hfirst d hd).1

theorem isAscii_of_toLower {c : Char} (h : IsAscii c.toLower) : IsAscii c := by
  by_cases hupper : c.isUpper = true
  · exact isAscii_of_isUpper hupper
  · rwa [Char.toLower_eq_of_not_isUpper hupper] at h

/-- **A text has a given lower-case form within ASCII exactly if its ASCII letters are those of the
form up to case.** This holds for forms without a k, which is also the form of the Kelvin sign. -/
theorem lowercaseInContext_eq_iff {text name : String}
    (hname : ∀ d ∈ name.toList, IsAscii d ∧ d ≠ 'k') :
    lowercaseInContext rule text = name ↔ text.toLower = name := by
  have hofList : lowercaseInContext rule text = name ↔
      lowercaseBehind rule [] text.toList = name.toList := by
    rw [← String.toList_inj, lowercaseInContext, String.toList_ofList]
  rw [hofList, ← String.toList_inj, toList_toLower]
  refine ⟨fun h => ?_, fun h => ?_⟩
  · have hascii := isAscii_of_lowercaseBehind (h ▸ hname)
    rw [← h, lowercaseBehind_of_isAscii [] hascii]
  · have hascii : ∀ c ∈ text.toList, IsAscii c := by
      intro c hc
      have hlower : c.toLower ∈ name.toList := h ▸ List.mem_map_of_mem hc
      exact isAscii_of_toLower (hname _ hlower).1
    rw [lowercaseBehind_of_isAscii [] hascii, h]

end CoinKeys.Text
