/-!
# Computations that succeed

A computation that may fail succeeds with a value exactly when each of its steps does, and it fails
when the first of its steps fails. These are the rules that take such a computation apart, one for
each way in which steps are put together. A look-up in a list, which may find nothing, succeeds with
the only element that it may find.
-/

namespace CoinKeys

variable {ε ε' α β : Type}

theorem bind_eq_ok_iff {x : Except ε α} {f : α → Except ε β} {b : β} :
    x >>= f = .ok b ↔ ∃ a, x = .ok a ∧ f a = .ok b := by
  cases x <;> simp [bind, Except.bind]

theorem bind_eq_error_iff {x : Except ε α} {f : α → Except ε β} {e : ε} :
    x >>= f = .error e ↔ x = .error e ∨ ∃ a, x = .ok a ∧ f a = .error e := by
  cases x <;> simp [bind, Except.bind]

theorem pure_eq_ok_iff {a b : α} : (pure a : Except ε α) = .ok b ↔ a = b := by
  simp [pure, Except.pure]

theorem map_eq_ok_iff {x : Except ε α} {f : α → β} {b : β} :
    x.map f = .ok b ↔ ∃ a, x = .ok a ∧ f a = b := by
  cases x <;> simp [Except.map]

theorem mapError_eq_ok_iff {x : Except ε α} {f : ε → ε'} {a : α} :
    x.mapError f = .ok a ↔ x = .ok a := by
  cases x with
  | error e => exact iff_of_false nofun nofun
  | ok b => exact (Except.ok.injEq ..).to_iff.trans (Except.ok.injEq ..).to_iff.symm

/-! ## Look-ups -/

theorem find?_eq_some_iff_of_unique {elements : List α} {p : α → Bool} {element : α}
    (hunique : ∀ a ∈ elements, ∀ b ∈ elements, p a = true → p b = true → a = b) :
    elements.find? p = some element ↔ element ∈ elements ∧ p element = true := by
  refine ⟨fun h => ⟨List.mem_of_find?_eq_some h, List.find?_some h⟩, fun h => ?_⟩
  obtain ⟨hmem, hp⟩ := h
  obtain ⟨found, hfound⟩ := Option.isSome_iff_exists.mp (List.find?_isSome.mpr ⟨element, hmem, hp⟩)
  rw [hfound, hunique found (List.mem_of_find?_eq_some hfound) element hmem
    (List.find?_some hfound) hp]

/-! ## A single fault -/

/-- The computation reports no other fault than the given one. -/
def OnlyFault (fault : ε) (x : Except ε α) : Prop :=
  ∀ e, x = .error e → e = fault

theorem onlyFault_of_ok {fault : ε} {x : Except ε α} {a : α} (h : x = .ok a) :
    OnlyFault fault x := by
  intro e he
  rw [h] at he
  cases he

theorem OnlyFault.bind {fault : ε} {x : Except ε α} {f : α → Except ε β} (hx : OnlyFault fault x)
    (hf : ∀ a, x = .ok a → OnlyFault fault (f a)) : OnlyFault fault (x >>= f) := by
  intro e he
  rcases bind_eq_error_iff.mp he with he | ⟨a, ha, he⟩
  · exact hx e he
  · exact hf a ha e he

theorem onlyFault_mapError (fault : ε') (x : Except ε α) :
    OnlyFault fault (x.mapError fun _ => fault) := by
  intro e he
  cases x with
  | error => exact (Except.error.inj he).symm
  | ok a => cases he

theorem OnlyFault.ok_or_error {fault : ε} {x : Except ε α} (h : OnlyFault fault x) :
    (∃ a, x = .ok a) ∨ x = .error fault := by
  cases x with
  | error e => exact .inr (congrArg _ (h e rfl))
  | ok a => exact .inl ⟨a, rfl⟩

end CoinKeys
