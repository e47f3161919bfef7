import CoinKeys.Text.Offset

/-!
# Laws of places in a text

`findOffset?` finds the first character of a kind, with the bytes before it counted, and
`splitLast?` cuts where no separator follows any more. The size of a text adds up over its parts,
and a text of one-byte characters has as many bytes as characters. Texts with the same bytes are
equal.
-/

namespace CoinKeys.Text

theorem utf8_inj {a b : String} : utf8 a = utf8 b ↔ a = b := by
  have hbytes : ∀ text, (utf8 text).toByteArray = text.toByteArray := by
    intro text
    rw [← String.ofList_toList (s := text), String.toByteArray_ofList, String.ofList_toList]
    rfl
  rw [← List.toByteArray_inj, hbytes, hbytes, String.toByteArray_inj]

theorem utf8ByteSize_ofList (chars : List Char) :
    (String.ofList chars).utf8ByteSize = utf8Size chars := by
  induction chars with
  | nil => rfl
  | cons c chars ih =>
    rw [String.ofList_cons, String.utf8ByteSize_append, String.utf8ByteSize_singleton, ih, utf8Size]

theorem utf8Size_append (before after : List Char) :
    utf8Size (before ++ after) = utf8Size before + utf8Size after := by
  induction before with
  | nil => simp [utf8Size]
  | cons c before ih => rw [List.cons_append, utf8Size, utf8Size, ih, Nat.add_assoc]

theorem findOffset?_eq_none_iff {p : Char → Bool} {chars : List Char} :
    findOffset? p chars = none ↔ ∀ c ∈ chars, p c = false := by
  induction chars with
  | nil => simp [findOffset?]
  | cons c chars ih =>
    rw [findOffset?]
    cases hc : p c <;> simp [hc, ih]

theorem findOffset?_append {p : Char → Bool} {before : List Char} {c : Char} (after : List Char)
    (hbefore : ∀ d ∈ before, p d = false) (hc : p c = true) :
    findOffset? p (before ++ c :: after) = some ⟨utf8Size before, c⟩ := by
  induction before with
  | nil => simp [findOffset?, hc, utf8Size]
  | cons d before ih =>
    obtain ⟨hd, hbefore⟩ := List.forall_mem_cons.mp hbefore
    simp [findOffset?, hd, ih hbefore, Located.shift, utf8Size]

theorem findOffset?_eq_some_iff {p : Char → Bool} {chars : List Char} {place : Located} :
    findOffset? p chars = some place ↔ ∃ before c after, chars = before ++ c :: after ∧
      (∀ d ∈ before, p d = false) ∧ p c = true ∧ place = ⟨utf8Size before, c⟩ := by
  refine ⟨fun h => ?_, fun h => ?_⟩
  · induction chars generalizing place with
    | nil => cases h
    | cons c chars ih =>
      rw [findOffset?] at h
      by_cases hc : p c = true
      · rw [if_pos hc] at h
        exact ⟨[], c, chars, rfl, by simp, hc, (Option.some.inj h).symm⟩
      · rw [if_neg hc] at h
        obtain ⟨found, hfound, rfl⟩ := Option.map_eq_some_iff.mp h
        obtain ⟨before, first, after, rfl, hbefore, hfirst, rfl⟩ := ih hfound
        have hnone : ∀ d ∈ c :: before, p d = false :=
          List.forall_mem_cons.mpr ⟨Bool.eq_false_iff.mpr hc, hbefore⟩
        exact ⟨c :: before, first, after, rfl, hnone, hfirst, rfl⟩
  · obtain ⟨before, c, after, rfl, hbefore, hc, rfl⟩ := h
    exact findOffset?_append after hbefore hc

theorem length_le_utf8Size (chars : List Char) : chars.length ≤ utf8Size chars := by
  induction chars with
  | nil => exact Nat.le_refl 0
  | cons c chars ih =>
    have hc := c.utf8Size_pos
    simp only [List.length_cons, utf8Size]
    omega

theorem utf8Size_eq_zero_iff {chars : List Char} : utf8Size chars = 0 ↔ chars = [] := by
  refine ⟨fun h => ?_, fun h => ?_⟩
  · have hlength := length_le_utf8Size chars
    exact List.length_eq_zero_iff.mp (by omega)
  · obtain rfl := h
    rfl

theorem utf8Size_eq_length {chars : List Char} (h : ∀ c ∈ chars, c.utf8Size = 1) :
    utf8Size chars = chars.length := by
  induction chars with
  | nil => rfl
  | cons c chars ih =>
    rw [utf8Size, h c List.mem_cons_self, ih fun d hd => h d (List.mem_cons_of_mem _ hd),
      List.length_cons, Nat.add_comm]

theorem splitLast?_eq_none_iff {separator : Char} {chars : List Char} :
    splitLast? separator chars = none ↔ separator ∉ chars := by
  induction chars with
  | nil => simp [splitLast?]
  | cons c chars ih =>
    rw [splitLast?, List.mem_cons, not_or, ← ih]
    cases splitLast? separator chars with
    | some parts => simp
    | none => simp [eq_comm]

theorem splitLast?_append {separator : Char} (before : List Char) {after : List Char}
    (h : separator ∉ after) :
    splitLast? separator (before ++ separator :: after) = some (before, after) := by
  induction before with
  | nil => simp [splitLast?, splitLast?_eq_none_iff.mpr h]
  | cons c before ih => simp [splitLast?, ih]

theorem splitLast?_eq_some_iff {separator : Char} {chars before after : List Char} :
    splitLast? separator chars = some (before, after) ↔
      chars = before ++ separator :: after ∧ separator ∉ after := by
  refine ⟨fun h => ?_, fun h => ?_⟩
  · induction chars generalizing before with
    | nil => simp [splitLast?] at h
    | cons c chars ih =>
      rw [splitLast?] at h
      split at h
      · next first rest hrest =>
        obtain ⟨rfl, rfl⟩ := Prod.mk.inj (Option.some.inj h)
        obtain ⟨rfl, hafter⟩ := ih hrest
        exact ⟨rfl, hafter⟩
      · next hnone =>
        split at h
        · next hc =>
          obtain ⟨rfl, rfl⟩ := Prod.mk.inj (Option.some.inj h)
          exact ⟨by rw [hc, List.nil_append], splitLast?_eq_none_iff.mp hnone⟩
        · cases h
  · obtain ⟨rfl, hafter⟩ := h
    exact splitLast?_append before hafter

end CoinKeys.Text
