import CoinKeys.Proofs.Text.Offset

/-!
# The first character of a kind

Whether a character is of a kind may depend on the characters before it. A text has at most one
first character of a kind (`FirstAt.unique`), and it has one if it has any such character
(`exists_firstAt`). For a kind that does not depend on what comes before, `findOffset?` finds it.
-/

namespace CoinKeys.Text

variable {bad bad' : List Char → Char → Prop} {chars before after : List Char} {c : Char}

/-- The characters are `c` between `before` and `after`; `bad` holds of it behind `before`, and of
no character of `before` behind those before that one. -/
structure FirstAt (bad : List Char → Char → Prop) (chars before : List Char) (c : Char)
    (after : List Char) : Prop where
  chars_eq : chars = before ++ c :: after
  holds : bad before c
  least : ∀ b d a, before = b ++ d :: a → ¬ bad b d

/-- Of two characters of a text, one stands before the other, or they are the same one. -/
theorem append_cons_eq_append_cons {before' after' : List Char} {c' : Char}
    (h : before ++ c :: after = before' ++ c' :: after') :
    (before = before' ∧ c = c' ∧ after = after') ∨ (∃ rest, before' = before ++ c :: rest) ∨
      ∃ rest, before = before' ++ c' :: rest := by
  -- One start goes on where the other one ends, or they end at the same place.
  rcases List.append_eq_append_iff.mp h with ⟨rest, hbefore, hrest⟩ | ⟨rest, hbefore, hrest⟩
  · cases rest with
    | nil =>
      obtain ⟨rfl, rfl⟩ := List.cons.inj hrest
      exact .inl ⟨by rw [hbefore, List.append_nil], rfl, rfl⟩
    | cons d rest =>
      obtain ⟨rfl, -⟩ := List.cons.inj hrest
      exact .inr (.inl ⟨rest, hbefore⟩)
  · cases rest with
    | nil =>
      obtain ⟨rfl, rfl⟩ := List.cons.inj hrest
      exact .inl ⟨by rw [hbefore, List.append_nil], rfl, rfl⟩
    | cons d rest =>
      obtain ⟨rfl, -⟩ := List.cons.inj hrest
      exact .inr (.inr ⟨rest, hbefore⟩)

theorem utf8Size_lt_append_cons (before rest : List Char) (c : Char) :
    utf8Size before < utf8Size (before ++ c :: rest) := by
  have hc := c.utf8Size_pos
  rw [utf8Size_append, utf8Size]
  omega

theorem append_cons_inj_of_utf8Size {before' after' : List Char} {c' : Char}
    (h : before ++ c :: after = before' ++ c' :: after')
    (hsize : utf8Size before = utf8Size before') : before = before' ∧ c = c' ∧ after = after' := by
  rcases append_cons_eq_append_cons h with heq | ⟨rest, rfl⟩ | ⟨rest, rfl⟩
  · exact heq
  · exact absurd hsize (Nat.ne_of_lt (utf8Size_lt_append_cons before rest c))
  · exact absurd hsize (Nat.ne_of_gt (utf8Size_lt_append_cons before' rest c'))

theorem FirstAt.unique {before' after' : List Char} {c' : Char}
    (h : FirstAt bad chars before c after) (h' : FirstAt bad chars before' c' after') :
    before = before' ∧ c = c' ∧ after = after' := by
  rcases append_cons_eq_append_cons (h.chars_eq.symm.trans h'.chars_eq) with
    heq | ⟨rest, hlater⟩ | ⟨rest, hearlier⟩
  · exact heq
  · exact absurd h.holds (h'.least _ _ _ hlater)
  · exact absurd h'.holds (h.least _ _ _ hearlier)

theorem FirstAt.utf8Size_le {b a : List Char} {d : Char} (h : FirstAt bad chars before c after)
    (heq : chars = b ++ d :: a) (hd : bad b d) : utf8Size before ≤ utf8Size b := by
  rcases append_cons_eq_append_cons (h.chars_eq.symm.trans heq) with
    ⟨rfl, -, -⟩ | ⟨rest, rfl⟩ | ⟨rest, hearlier⟩
  · exact Nat.le_refl _
  · exact Nat.le_of_lt (utf8Size_lt_append_cons before rest c)
  · exact absurd hd (h.least _ _ _ hearlier)

theorem exists_firstAt (heq : chars = before ++ c :: after) (hbad : bad before c) :
    ∃ before c after, FirstAt bad chars before c after := by
  -- If the character is not the first one, an earlier one stands behind fewer characters.
  induction hlength : before.length using Nat.strongRecOn generalizing before c after with
  | ind length ih =>
    by_cases hearlier : ∃ b d a, before = b ++ d :: a ∧ bad b d
    · obtain ⟨b, d, a, rfl, hd⟩ := hearlier
      have hchars : chars = b ++ d :: (a ++ c :: after) := by
        rw [heq, List.append_assoc, List.cons_append]
      refine ih b.length ?_ hchars hd rfl
      rw [← hlength]
      simp
    · exact ⟨before, c, after, heq, hbad, fun b d a hb hd => hearlier ⟨b, d, a, hb, hd⟩⟩

theorem exists_firstAt_or_forall (bad : List Char → Char → Prop) (chars : List Char) :
    (∃ before c after, FirstAt bad chars before c after) ∨
      ∀ b d a, chars = b ++ d :: a → ¬ bad b d :=
  (Classical.em _).imp_right fun hnone _ _ _ heq hd => hnone (exists_firstAt heq hd)

theorem FirstAt.congr (h : ∀ b d a, chars = b ++ d :: a → (bad b d ↔ bad' b d)) :
    FirstAt bad chars before c after ↔ FirstAt bad' chars before c after := by
  have hbefore : chars = before ++ c :: after → ∀ b d a, before = b ++ d :: a →
      (bad b d ↔ bad' b d) := by
    intro heq b d a hb
    refine h b d (a ++ c :: after) ?_
    rw [heq, hb, List.append_assoc, List.cons_append]
  refine ⟨fun hfirst => ?_, fun hfirst => ?_⟩
  · have heq := hfirst.chars_eq
    exact ⟨heq, (h _ _ _ heq).mp hfirst.holds, fun b d a hb hd =>
      hfirst.least b d a hb ((hbefore heq b d a hb).mpr hd)⟩
  · have heq := hfirst.chars_eq
    exact ⟨heq, (h _ _ _ heq).mpr hfirst.holds, fun b d a hb hd =>
      hfirst.least b d a hb ((hbefore heq b d a hb).mp hd)⟩

theorem firstAt_iff {p : Char → Prop} :
    FirstAt (fun _ d => p d) chars before c after ↔
      chars = before ++ c :: after ∧ (∀ d ∈ before, ¬ p d) ∧ p c := by
  refine ⟨fun h => ⟨h.chars_eq, fun d hd => ?_, h.holds⟩, fun h => ?_⟩
  · obtain ⟨b, a, hb⟩ := List.append_of_mem hd
    exact h.least b d a hb
  · obtain ⟨heq, hbefore, hc⟩ := h
    exact ⟨heq, hc, fun b d a hb => hbefore d (hb ▸ List.mem_append_right b List.mem_cons_self)⟩

theorem findOffset?_eq_some_iff_firstAt {p : Char → Bool} {place : Located} :
    findOffset? p chars = some place ↔ ∃ before c after,
      FirstAt (fun _ d => p d = true) chars before c after ∧ place = ⟨utf8Size before, c⟩ := by
  simp only [findOffset?_eq_some_iff, firstAt_iff (p := fun d => p d = true), Bool.not_eq_true,
    and_assoc]

end CoinKeys.Text
