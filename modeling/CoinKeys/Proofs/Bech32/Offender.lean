import CoinKeys.Proofs.Bech32.Parts

/-!
# Which character of a human-readable part is blamed

A human-readable part of a proper length is refused for its first offender: the first character that
is not printable, or that is a letter in another case than one before it. A letter in the other case
is blamed itself. For any other character the scan of a whole text looks for the place, and takes
the separators *within* the human-readable part for that of a whole text:

* with a separator behind the offender, the offender is blamed;
* with separators before it only, the first character behind the last of them that spells no value
  is blamed, be it allowed in a human-readable part or not;
* without any separator, the first byte of the offender is blamed, at the start.

**Theorem (`encode_names_offender_iff`).** These are all characters that are blamed (`Blamed`). What
is blamed is an offender at its own place exactly when the scan can find the first one
(`Traceable`), and then it is the first one.
-/

namespace CoinKeys.Bech32

open Text

/-- The character stands in the human-readable part behind `i` bytes, and it is not printable or a
letter in another case than one before it. -/
def NamesOffender (hrp : List Char) (c : Char) (i : Nat) : Prop :=
  ∃ before after, hrp = before ++ c :: after ∧ i = utf8Size before ∧
    (¬ Printable c ∨ c.isAlpha = true ∧ ∃ d ∈ before, d.isAlpha = true ∧ d.isUpper ≠ c.isUpper)

/-- The character and the place that are told when `o` between `before` and `after` is the first
offender. -/
inductive Blamed (before : List Char) (o : Char) (after : List Char) : Char → Nat → Prop
  /-- A letter in the other case. -/
  | clash : Printable o → Blamed before o after o (utf8Size before)
  /-- There is a separator behind the offender. -/
  | separatorBehind : ¬ Printable o → '1' ∈ after →
      Blamed before o after o (utf8Size before)
  /-- The last separator stands before the offender. -/
  | behindSeparator {b a x c y} : ¬ Printable o → '1' ∉ after →
      before = b ++ '1' :: a → '1' ∉ a →
      FirstAt (fun _ d => d.toLower ∉ alphabet) (a ++ o :: after) x c y →
      Blamed before o after c (utf8Size (b ++ '1' :: x))
  /-- There is no separator. -/
  | noSeparator : ¬ Printable o → '1' ∉ before → '1' ∉ after →
      Blamed before o after (leadChar o) 0

/-- The scan finds the first offender `o` between `before` and `after`, or blames it by chance. -/
inductive Traceable (before : List Char) (o : Char) (after : List Char) : Prop
  /-- It is a letter in the other case. -/
  | clash : Printable o → Traceable before o after
  /-- There is a separator behind it. -/
  | separatorBehind : '1' ∈ after → Traceable before o after
  /-- Behind the last separator, all characters before it spell values. -/
  | data {b a} : before = b ++ '1' :: a → (∀ d ∈ a, d.toLower ∈ alphabet) →
      Traceable before o after
  /-- It is the first character, and its number is its first byte. -/
  | first : before = [] → (o.toNat < 128 ∨ o.toNat = 195) → Traceable before o after

section Offender

variable {hrp before after : List Char} {o c : Char} {i : Nat}

/-! ## What the scan finds -/

theorem toLower_notMem_alphabet (h : ¬ Printable o) : o.toLower ∉ alphabet := by
  rw [← value?_eq_none_iff, ← Option.not_isSome_iff_eq_none]
  exact fun hsome => h (isHrpChar_iff.mp (isHrpChar_of_value? hsome))

theorem exists_append_last {chars : List Char} (h : '1' ∈ chars) :
    ∃ b a, chars = b ++ '1' :: a ∧ '1' ∉ a := by
  cases hsplit : splitLast? separator chars with
  | none => exact absurd h (splitLast?_eq_none_iff.mp hsplit)
  | some parts => exact ⟨parts.1, parts.2, splitLast?_eq_some_iff.mp hsplit⟩

/-- A separator behind the offender: the offender is found. -/
theorem misplaced?_of_separatorBehind (h : FirstAt Offends hrp before o after)
    (ho : ¬ Printable o) (hafter : '1' ∈ after) :
    misplaced? hrp = some ⟨utf8Size before, o⟩ := by
  obtain ⟨b, a, rfl, ha⟩ := exists_append_last hafter
  have hsplit : splitLast? separator hrp = some (before ++ o :: b, a) :=
    splitLast?_eq_some_iff.mpr ⟨by rw [h.chars_eq]; simp [separator], ha⟩
  have hfirst : FirstAt (fun _ d => ¬ Printable d) (before ++ o :: b) before o b :=
    ⟨rfl, ho, fun x d y hb hd => h.least x d y hb (.inl hd)⟩
  refine (misplaced?_eq_some_iff hsplit).mpr ⟨before, o, b ++ separator :: a, ?_, rfl⟩
  rw [(splitLast?_eq_some_iff.mp hsplit).1]
  exact firstAt_misplaced_hrp hfirst

theorem misplaced?_of_behindSeparator {b a x y : List Char} (h : FirstAt Offends hrp before o after)
    (ho : ¬ Printable o) (hafter : '1' ∉ after) (hbefore : before = b ++ '1' :: a) (ha : '1' ∉ a)
    (hfirst : FirstAt (fun _ d => d.toLower ∉ alphabet) (a ++ o :: after) x c y) :
    misplaced? hrp = some ⟨utf8Size (b ++ '1' :: x), c⟩ := by
  have hone : o ≠ '1' := by
    rintro rfl
    exact ho (by decide)
  have hsplit : splitLast? separator hrp = some (b, a ++ o :: after) := by
    refine splitLast?_eq_some_iff.mpr ⟨by rw [h.chars_eq, hbefore]; simp [separator], ?_⟩
    simp [separator, ha, hafter, hone.symm]
  have hb : ∀ d ∈ b, Printable d := fun d hd =>
    isHrpChar_iff.mp ((forall_of_not_offends h.least).1 d (by simp [hbefore, hd]))
  refine (misplaced?_eq_some_iff hsplit).mpr ⟨_, c, y, ?_, rfl⟩
  rw [(splitLast?_eq_some_iff.mp hsplit).1]
  exact firstAt_misplaced_data hb hfirst

theorem misplaced?_of_noSeparator (h : '1' ∉ hrp) : misplaced? hrp = none := by
  have hsplit : splitLast? separator hrp = none := splitLast?_eq_none_iff.mpr h
  rw [misplaced?, hsplit]

/-! ## What is blamed -/

/-- What is blamed is what is told of the first offender. -/
theorem blamed_iff (h : FirstAt Offends hrp before o after) :
    Blamed before o after c i ↔
      (if isHrpChar o = true then ⟨utf8Size before, o⟩ else misplacedInHrp hrp o) =
        (⟨i, c⟩ : Located) := by
  have hnone : '1' ∉ before → '1' ∉ after → ¬ isHrpChar o = true → misplaced? hrp = none := by
    intro hbefore hafter ho
    refine misplaced?_of_noSeparator ?_
    have hone : '1' ≠ o := by
      rintro rfl
      exact ho (by decide)
    simp [h.chars_eq, hbefore, hafter, hone]
  refine ⟨fun hblamed => ?_, fun hplace => ?_⟩
  · cases hblamed with
    | clash ho => rw [if_pos (isHrpChar_iff.mpr ho)]
    | separatorBehind ho hafter =>
      rw [if_neg (mt isHrpChar_iff.mp ho), misplacedInHrp,
        misplaced?_of_separatorBehind h ho hafter, Option.getD_some]
    | behindSeparator ho hafter hbefore ha hfirst =>
      rw [if_neg (mt isHrpChar_iff.mp ho), misplacedInHrp,
        misplaced?_of_behindSeparator h ho hafter hbefore ha hfirst, Option.getD_some]
    | noSeparator ho hbefore hafter =>
      have ho' := mt isHrpChar_iff.mp ho
      rw [if_neg ho', misplacedInHrp, hnone hbefore hafter ho', Option.getD_none, leadChar]
  · -- The separators decide which character the scan of a whole text meets: first those behind the
    -- offender, then those before it.
    by_cases ho' : isHrpChar o = true
    · rw [if_pos ho'] at hplace
      cases hplace
      exact .clash (isHrpChar_iff.mp ho')
    · have ho := mt isHrpChar_iff.mpr ho'
      rw [if_neg ho', misplacedInHrp] at hplace
      by_cases hafter : '1' ∈ after
      · rw [misplaced?_of_separatorBehind h ho hafter, Option.getD_some] at hplace
        cases hplace
        exact .separatorBehind ho hafter
      · by_cases hbefore : '1' ∈ before
        · obtain ⟨b, a, hlast, ha⟩ := exists_append_last hbefore
          have hnoValue : ∃ x d y,
              FirstAt (fun _ d => d.toLower ∉ alphabet) (a ++ o :: after) x d y :=
            exists_firstAt rfl (toLower_notMem_alphabet ho)
          obtain ⟨x, d, y, hfirst⟩ := hnoValue
          rw [misplaced?_of_behindSeparator h ho hafter hlast ha hfirst, Option.getD_some] at hplace
          cases hplace
          exact .behindSeparator ho hafter hlast ha hfirst
        · rw [hnone hbefore hafter ho', Option.getD_none] at hplace
          cases hplace
          exact .noSeparator ho hbefore hafter

theorem encode_eq_invalidCharacter_iff {hrp : String} {values : List UInt8}
    (hvalues : ∀ v ∈ values, v.toNat < 32) :
    encode hrp values = .error (.invalidCharacter c i) ↔
      (1 ≤ utf8Size hrp.toList ∧ utf8Size hrp.toList ≤ 83) ∧
        ∃ before o after,
          FirstAt Offends hrp.toList before o after ∧ Blamed before o after c i := by
  have hfind : values.find? (32 ≤ ·) = none := by
    simpa [List.find?_eq_none, UInt8.lt_iff_toNat_lt] using hvalues
  -- The values are in range, so that only the human-readable part can be at fault.
  have hfault : encode hrp values = .error (.invalidCharacter c i) ↔
      hrpFault? hrp.toList = some (.invalidCharacter c i) := by
    rw [encode, hfind]
    cases hrpFault? hrp.toList <;> simp
  rw [hfault]
  by_cases hsize : utf8Size hrp.toList = 0 ∨ maxHrpLength < utf8Size hrp.toList
  · have hlength : ¬ (1 ≤ utf8Size hrp.toList ∧ utf8Size hrp.toList ≤ 83) := by
      rw [maxHrpLength] at hsize
      omega
    simp [hrpFault?, hsize, hlength]
  · have hlength : 1 ≤ utf8Size hrp.toList ∧ utf8Size hrp.toList ≤ 83 := by
      rw [maxHrpLength] at hsize
      omega
    refine ⟨fun h => ⟨hlength, ?_⟩, ?_⟩
    · rcases exists_firstAt_or_forall Offends hrp.toList with ⟨before, o, after, hfirst⟩ | hgood
      · rw [hrpFault?_of_firstAt hsize hfirst, Option.some.injEq, Error.invalidCharacter.injEq] at h
        exact ⟨before, o, after, hfirst,
          (blamed_iff hfirst).mpr (congrArg₂ Located.mk h.2 h.1)⟩
      · rw [hrpFault?_of_not_offends hsize hgood] at h
        cases h
    · rintro ⟨-, before, o, after, hfirst, hblamed⟩
      rw [hrpFault?_of_firstAt hsize hfirst, (blamed_iff hfirst).mp hblamed]

/-! ## Offenders -/

/-- Whether a character at a place of the human-readable part is an offender is told from what
stands before it. -/
theorem namesOffender_iff (heq : hrp = before ++ c :: after) :
    NamesOffender hrp c (utf8Size before) ↔
      ¬ Printable c ∨
        c.isAlpha = true ∧ ∃ d ∈ before, d.isAlpha = true ∧ d.isUpper ≠ c.isUpper := by
  refine ⟨?_, fun h => ⟨before, after, heq, rfl, h⟩⟩
  rintro ⟨b, a, heq', hsize, h⟩
  obtain ⟨rfl, -, -⟩ := append_cons_inj_of_utf8Size (heq.symm.trans heq') hsize
  exact h

theorem namesOffender_of_firstAt (h : FirstAt Offends hrp before o after) :
    NamesOffender hrp o (utf8Size before) := by
  rw [namesOffender_iff h.chars_eq]
  refine h.holds.imp_right ?_
  rintro ⟨halpha, first, hfirst, hne⟩
  exact ⟨halpha, first, List.mem_of_find?_eq_some hfirst, List.find?_some hfirst, hne.symm⟩

theorem not_namesOffender_of_firstAt {b a : List Char} (h : FirstAt Offends hrp before o after)
    (hbefore : before = b ++ c :: a) : ¬ NamesOffender hrp c (utf8Size b) := by
  have heq : hrp = b ++ c :: (a ++ o :: after) := by rw [h.chars_eq, hbefore]; simp
  obtain ⟨hprintable, hcase⟩ := forall_of_not_offends h.least
  rw [namesOffender_iff heq, not_or]
  refine ⟨not_not_intro (isHrpChar_iff.mp (hprintable c (by simp [hbefore]))), ?_⟩
  rintro ⟨halpha, d, hd, hdalpha, hne⟩
  rw [hbefore, caseClash?_eq_none_iff] at hcase
  simp only [Char.isAlpha, Bool.or_eq_true] at halpha hdalpha
  rcases hcase with hupper | hlower
  · exact hne ((hupper d (by simp [hd])).trans (hupper c (by simp)).symm)
  · have hd' := hlower d (by simp [hd])
    have hc' := hlower c (by simp)
    simp only [hd', hc', Bool.false_eq_true, or_false] at halpha hdalpha
    exact hne (hdalpha.trans halpha.symm)

/-! ## Offenders that the scan finds -/

theorem Traceable.data_before {b a : List Char} (h : Traceable before o after)
    (ho : ¬ Printable o) (hafter : '1' ∉ after) (hbefore : before = b ++ '1' :: a) (ha : '1' ∉ a) :
    ∀ d ∈ a, d.toLower ∈ alphabet := by
  cases h with
  | clash ho' => exact absurd ho' ho
  | separatorBehind hafter' => exact absurd hafter' hafter
  | @data b' a' hbefore' hdata =>
    -- The separator spells no value, so `a'` stands behind the last one as well.
    have ha' : '1' ∉ a' := fun hmem => value?_eq_none_iff.mp value?_separator (hdata _ hmem)
    have hcut : splitLast? '1' before = some (b, a) := hbefore ▸ splitLast?_append b ha
    rw [hbefore', splitLast?_append b' ha'] at hcut
    obtain ⟨-, rfl⟩ := Prod.mk.inj (Option.some.inj hcut)
    exact hdata
  | first hnil => simp [hnil] at hbefore

theorem Traceable.leadChar_eq (h : Traceable before o after)
    (ho : ¬ Printable o) (hbefore : '1' ∉ before) (hafter : '1' ∉ after) :
    before = [] ∧ leadChar o = o := by
  cases h with
  | clash ho' => exact absurd ho' ho
  | separatorBehind hafter' => exact absurd hafter' hafter
  | data hbefore' => simp [hbefore'] at hbefore
  | first hnil hnumber => exact ⟨hnil, leadChar_eq_self_iff.mpr hnumber⟩

/-- The first byte of the first offender stands for an offender at the start only if it stands for
the first character itself. -/
theorem leadChar_eq_of_namesOffender (h : FirstAt Offends hrp before o after)
    (ho : ¬ Printable o) (hnames : NamesOffender hrp (leadChar o) 0) :
    before = [] ∧ leadChar o = o := by
  obtain ⟨b, a, heq, hsize, -⟩ := hnames
  obtain rfl := utf8Size_eq_zero_iff.mp hsize.symm
  cases before with
  | nil => exact ⟨rfl, (List.cons.inj (heq.symm.trans h.chars_eq)).1⟩
  | cons d rest =>
    have hhead : leadChar o = d := (List.cons.inj (heq.symm.trans h.chars_eq)).1
    have hd := (forall_of_not_offends h.least).1 d List.mem_cons_self
    rw [← hhead, isHrpChar_leadChar, isHrpChar_iff] at hd
    exact absurd hd ho

/-- What is blamed is an offender when the scan can find the first one, and then it is this one. -/
theorem Blamed.namesOffender_iff_traceable (h : FirstAt Offends hrp before o after)
    (hblamed : Blamed before o after c i) :
    (NamesOffender hrp c i ↔ Traceable before o after) ∧
      (Traceable before o after → c = o ∧ i = utf8Size before) := by
  cases hblamed with
  | clash ho => exact ⟨iff_of_true (namesOffender_of_firstAt h) (.clash ho), fun _ => ⟨rfl, rfl⟩⟩
  | separatorBehind ho hafter =>
    exact ⟨iff_of_true (namesOffender_of_firstAt h) (.separatorBehind hafter),
      fun _ => ⟨rfl, rfl⟩⟩
  | @behindSeparator b a x c y ho hafter hbefore ha hfirst =>
    rcases append_cons_eq_append_cons hfirst.chars_eq with
      ⟨rfl, rfl, -⟩ | ⟨rest, hx⟩ | ⟨rest, hrest⟩
    · have hdata : ∀ d ∈ a, d.toLower ∈ alphabet := fun d hd =>
        not_not.mp ((firstAt_iff.mp hfirst).2.1 d hd)
      rw [← hbefore]
      exact ⟨iff_of_true (namesOffender_of_firstAt h) (.data hbefore hdata), fun _ => ⟨rfl, rfl⟩⟩
    · exact absurd (toLower_notMem_alphabet ho) (hfirst.least a o rest hx)
    · -- A character before the first offender is blamed, and it spells no value.
      have hnot : ¬ NamesOffender hrp c (utf8Size (b ++ '1' :: x)) :=
        not_namesOffender_of_firstAt h (a := rest) (by rw [hbefore, hrest]; simp)
      have huntraceable : ¬ Traceable before o after := fun htraceable =>
        hfirst.holds (htraceable.data_before ho hafter hbefore ha c (by simp [hrest]))
      exact ⟨iff_of_false hnot huntraceable, fun htraceable => absurd htraceable huntraceable⟩
  | noSeparator ho hbefore hafter =>
    refine ⟨⟨fun hnames => ?_, fun htraceable => ?_⟩, fun htraceable => ?_⟩
    · obtain ⟨hnil, hlead⟩ := leadChar_eq_of_namesOffender h ho hnames
      exact .first hnil (leadChar_eq_self_iff.mp hlead)
    · obtain ⟨rfl, hlead⟩ := htraceable.leadChar_eq ho hbefore hafter
      rw [hlead]
      exact namesOffender_of_firstAt h
    · obtain ⟨rfl, hlead⟩ := htraceable.leadChar_eq ho hbefore hafter
      exact ⟨hlead, rfl⟩

end Offender

/-- **Which character is blamed.** -/
theorem encode_names_offender_iff (hrp : String) (values : List UInt8)
    (hvalues : ∀ v ∈ values, v.toNat < 32) (c : Char) (i : Nat) :
    (encode hrp values = .error (.invalidCharacter c i) ↔
      (1 ≤ utf8Size hrp.toList ∧ utf8Size hrp.toList ≤ 83) ∧
        ∃ before o after, FirstAt Offends hrp.toList before o after ∧
          Blamed before o after c i) ∧
    ∀ before o after, FirstAt Offends hrp.toList before o after → Blamed before o after c i →
      (NamesOffender hrp.toList c i ↔ Traceable before o after) ∧
        (Traceable before o after → c = o ∧ i = utf8Size before) :=
  ⟨encode_eq_invalidCharacter_iff hvalues, fun _ _ _ h hblamed =>
    hblamed.namesOffender_iff_traceable h⟩

/-- A space with a separator behind it is blamed at its place. -/
theorem encode_names_offender_iff_space :
    (∀ v ∈ ([0, 31] : List UInt8), v.toNat < 32) ∧
      encode "a b1" [0, 31] = .error (.invalidCharacter ' ' 1) ∧
      NamesOffender "a b1".toList ' ' 1 := by
  have hvalues : ∀ v ∈ ([0, 31] : List UInt8), v.toNat < 32 := by simp
  have htext : "a b1".toList = ['a', ' ', 'b', '1'] := by cbv
  have hfirst : FirstAt Offends "a b1".toList ['a'] ' ' ['b', '1'] := by
    refine ⟨htext, .inl (by decide), fun b d a hb hoffends => ?_⟩
    obtain ⟨rfl, rfl⟩ : b = [] ∧ d = 'a' := by
      cases b with
      | nil => exact ⟨rfl, (List.cons.inj hb).1.symm⟩
      | cons _ _ => simp at hb
    rcases hoffends with hd | ⟨-, first, hnil, -⟩
    · exact hd (by decide)
    · cases hnil
  have hblamed : Blamed ['a'] ' ' ['b', '1'] ' ' 1 := .separatorBehind (by decide) (by decide)
  obtain ⟨hrefused, hnames⟩ := encode_names_offender_iff "a b1" [0, 31] hvalues ' ' 1
  refine ⟨hvalues, hrefused.mpr ⟨?_, _, _, _, hfirst, hblamed⟩, ?_⟩
  · rw [htext]
    decide
  · exact ((hnames _ _ _ hfirst hblamed).1).mpr (.separatorBehind (by decide))

/-- Not every character that is blamed is an offender: behind a separator a letter is blamed that
may stand in a human-readable part, and without one a space is blamed at a place where it does not
stand. -/
theorem encode_blames_legal_character :
    (encode "a1b\u00e9" [0, 1, 2] = .error (.invalidCharacter 'b' 2) ∧
      ¬ NamesOffender "a1b\u00e9".toList 'b' 2) ∧
    (encode "a b" [0, 1, 2] = .error (.invalidCharacter ' ' 0) ∧
      ¬ NamesOffender "a b".toList ' ' 0) ∧
    ¬ ∀ (hrp : String) (values : List UInt8), (∀ v ∈ values, v.toNat < 32) →
      ∀ c i, encode hrp values = .error (.invalidCharacter c i) → NamesOffender hrp.toList c i := by
  have hletter : encode "a1b\u00e9" [0, 1, 2] = .error (.invalidCharacter 'b' 2) := by cbv
  have hspace : encode "a b" [0, 1, 2] = .error (.invalidCharacter ' ' 0) := by cbv
  have hletter' : ¬ NamesOffender "a1b\u00e9".toList 'b' 2 := by
    have htext : "a1b\u00e9".toList = ['a', '1'] ++ 'b' :: ['\u00e9'] := by cbv
    rw [← show utf8Size ['a', '1'] = 2 from rfl, namesOffender_iff htext]
    simp [Printable, Char.isUpper]
  have hspace' : ¬ NamesOffender "a b".toList ' ' 0 := by
    rintro ⟨before, after, heq, hsize, -⟩
    obtain rfl := utf8Size_eq_zero_iff.mp hsize.symm
    have htext : "a b".toList = ['a', ' ', 'b'] := by cbv
    rw [htext] at heq
    cases heq
  exact ⟨⟨hletter, hletter'⟩, ⟨hspace, hspace'⟩, fun hall =>
    hletter' (hall _ _ (by simp) _ _ hletter)⟩

end CoinKeys.Bech32
