import CoinKeys.Proofs.Bech32.Residue

/-!
# The distance of the code

Whether wrong symbols are noticed depends on their differences to the right ones alone: by
linearity, the differences must not make the zero residue zero again. A zero symbol multiplies a
residue by the unknown, and two facts about this multiplication are enough for one or two wrong
symbols.

* It can be undone (`quotient_push`), so a residue other than zero stays one. One wrong symbol is
  noticed.
* It commutes with the multiplication of all coefficients by the symbol two (`scale_push`), which
  can be undone as well (`halve_scale`). The symbols are a field of 32 elements, in which the powers
  of two are all others but zero, so what becomes of a wrong symbol is what becomes of the symbol
  one, scaled. The multiples of one by the unknown have a coefficient above the last for 1022 steps
  (`leads_one`), and a second wrong symbol changes the last coefficient only.

**Theorem (`three_le_distance`).** Different symbol strings of up to 1023 symbols with one residue
differ in three places at least.
-/

namespace CoinKeys.Bech32

/-! ## Additive functions -/

theorem additive_zero {f : Residue → Residue} (h : ∀ a b, f (a ^^^ b) = f a ^^^ f b) :
    f 0#30 = 0#30 := by
  have hself := h 0#30 0#30
  rwa [BitVec.xor_self, BitVec.xor_self] at hself

theorem eq_of_additive {f g : Residue → Residue} (hf : ∀ a b, f (a ^^^ b) = f a ^^^ f b)
    (hg : ∀ a b, g (a ^^^ b) = g a ^^^ g b)
    (h : ∀ i < 30, f (BitVec.twoPow 30 i) = g (BitVec.twoPow 30 i)) (r : Residue) : f r = g r := by
  have hbits : ∀ n ≤ 30, ∀ r : Residue, r.toNat < 2 ^ n → f r = g r := by
    intro n
    induction n with
    | zero =>
      intro _ r hr
      obtain rfl : r = 0#30 := BitVec.eq_of_toNat_eq (by simpa using hr)
      rw [additive_zero hf, additive_zero hg]
    | succ n ih =>
      intro hn r hr
      rcases Nat.lt_or_ge r.toNat (2 ^ n) with hlow | hhigh
      · exact ih (by omega) r hlow
      -- The highest bit comes off.
      · rw [Nat.pow_succ] at hr
        have hrest : r.toNat - 2 ^ n < 2 ^ n := by omega
        have hlt : r.toNat - 2 ^ n < 2 ^ 30 := by omega
        have hsplit : r = BitVec.twoPow 30 n ^^^ BitVec.ofNat 30 (r.toNat - 2 ^ n) := by
          apply BitVec.eq_of_toNat_eq
          have hxor := two_pow_mul_xor_of_lt hrest 1
          rw [Nat.mul_one] at hxor
          rw [BitVec.toNat_xor, BitVec.toNat_twoPow_of_lt (by omega), BitVec.toNat_ofNat,
            Nat.mod_eq_of_lt hlt, hxor]
          omega
        have hsmall : (BitVec.ofNat 30 (r.toNat - 2 ^ n)).toNat < 2 ^ n := by
          rwa [BitVec.toNat_ofNat, Nat.mod_eq_of_lt hlt]
        rw [hsplit, hf, hg, h n (by omega), ih (by omega) _ hsmall]
  exact hbits 30 (Nat.le_refl 30) r r.isLt

/-! ## Division by the unknown -/

theorem push_zero_xor (a b : Residue) : (a ^^^ b).push 0 = a.push 0 ^^^ b.push 0 :=
  push_xor a b 0 0

theorem push_zero_zero : Residue.push 0#30 0 = 0#30 :=
  additive_zero (f := fun r => r.push 0) push_zero_xor

/-- The residues that the unknown multiplies to the five lowest bits, lowest bit first. -/
def lowQuotients : List Residue :=
  [0x228bf1a8, 0x1703c750, 0x2c972fa9, 0x0b2e5a72, 0x14d895ed]

/-- Divide by the unknown. -/
def Residue.quotient (r : Residue) : Residue :=
  (r >>> 5) ^^^
    (lowQuotients.zipIdx.map fun q => if r.getLsbD q.2 then q.1 else 0).foldl (· ^^^ ·) 0

theorem quotient_xor (a b : Residue) : (a ^^^ b).quotient = a.quotient ^^^ b.quotient := by
  simp only [Residue.quotient, BitVec.ushiftRight_xor_distrib, BitVec.getLsbD_xor, ite_xor]
  rw [xor_xor_xor_swap]
  exact congrArg _ (foldl_xor_map _ _ lowQuotients.zipIdx 0 0)

theorem quotient_push (r : Residue) : (r.push 0).quotient = r := by
  refine eq_of_additive (f := fun r => (r.push 0).quotient) (g := fun r => r) ?_ ?_ ?_ r
  · intro a b
    rw [push_zero_xor, quotient_xor]
  · exact fun a b => rfl
  · decide

/-- A residue other than zero stays one. -/
theorem push_zero_ne_zero {r : Residue} (h : r ≠ 0#30) : r.push 0 ≠ 0#30 := by
  intro hzero
  rw [← quotient_push r, hzero] at h
  exact h (additive_zero quotient_xor)

/-! ## Scaling -/

/-- The lowest bit of each coefficient. -/
def lowestBits : Residue := 0x02108421

/-- Multiply every coefficient by the symbol two: its bits move up, and the highest one stands for
the symbol nine. -/
def Residue.scale (r : Residue) : Residue :=
  ((r <<< 1) &&& ~~~lowestBits) ^^^ ((r >>> 4) &&& lowestBits) ^^^
    (((r >>> 4) &&& lowestBits) <<< 3)

theorem xor_and (a b mask : Residue) : (a ^^^ b) &&& mask = (a &&& mask) ^^^ (b &&& mask) := by
  ext i
  simp [Bool.and_xor_distrib_right]

theorem scale_xor (a b : Residue) : (a ^^^ b).scale = a.scale ^^^ b.scale := by
  simp only [Residue.scale, BitVec.shiftLeft_xor_distrib, BitVec.ushiftRight_xor_distrib, xor_and]
  ac_rfl

theorem scale_push (r : Residue) : r.scale.push 0 = (r.push 0).scale := by
  refine eq_of_additive (f := fun r => r.scale.push 0) (g := fun r => (r.push 0).scale) ?_ ?_ ?_ r
  · intro a b
    rw [scale_xor, push_zero_xor]
  · intro a b
    rw [push_zero_xor, scale_xor]
  · decide

/-- Divide every coefficient by the symbol two: its bits move down, and the lowest one stands for
the symbol twenty. -/
def Residue.halve (r : Residue) : Residue :=
  ((r &&& ~~~lowestBits) >>> 1) ^^^ ((r &&& lowestBits) <<< 4) ^^^ ((r &&& lowestBits) <<< 2)

theorem halve_xor (a b : Residue) : (a ^^^ b).halve = a.halve ^^^ b.halve := by
  simp only [Residue.halve, xor_and, BitVec.shiftLeft_xor_distrib, BitVec.ushiftRight_xor_distrib]
  ac_rfl

theorem halve_scale (r : Residue) : r.scale.halve = r := by
  refine eq_of_additive (f := fun r => r.scale.halve) (g := fun r => r) ?_ ?_ ?_ r
  · intro a b
    rw [scale_xor, halve_xor]
  · exact fun a b => rfl
  · decide

theorem toNat_halve_lt {r : Residue} (h : r.toNat < 32) : r.halve.toNat < 32 := by
  have hsymbol : ∀ s < 32, (Residue.halve (BitVec.ofNat 30 s)).toNat < 32 := by decide
  have hhalve := hsymbol r.toNat h
  rwa [BitVec.ofNat_toNat, BitVec.setWidth_eq] at hhalve

/-- A residue with a coefficient above the last keeps one. -/
theorem le_toNat_scale {r : Residue} (h : 32 ≤ r.toNat) : 32 ≤ r.scale.toNat := by
  by_contra hlt
  have hback := toNat_halve_lt (Nat.lt_of_not_le hlt)
  rw [halve_scale] at hback
  omega

theorem symbol_mem_iterate_scale {s : Nat} (hs : s < 32) (hne : s ≠ 0) :
    BitVec.ofNat 30 s ∈ List.iterate Residue.scale 1 31 := by
  have hall : ∀ s < 32, s ≠ 0 → BitVec.ofNat 30 s ∈ List.iterate Residue.scale 1 31 := by
    decide
  exact hall s hs hne

/-! ## Multiples by the unknown -/

/-- Whether the next multiples of a residue by the unknown all have a coefficient above the last. -/
def Residue.leads : Nat → Residue → Bool
  | 0, _ => true
  | n + 1, r => 32 ≤ (r.push 0).toNat && leads n (r.push 0)

theorem leads_succ {n : Nat} {r : Residue} :
    r.leads (n + 1) = true ↔ 32 ≤ (r.push 0).toNat ∧ (r.push 0).leads n = true := by
  simp [Residue.leads]

theorem leads_of_le {m n : Nat} (hle : m ≤ n) {r : Residue} (h : r.leads n = true) :
    r.leads m = true := by
  induction m generalizing n r with
  | zero => rfl
  | succ m ih =>
    obtain ⟨n, rfl⟩ := Nat.exists_eq_add_of_lt hle
    obtain ⟨hhigh, hrest⟩ := leads_succ.mp h
    exact leads_succ.mpr ⟨hhigh, ih (by omega) hrest⟩

theorem leads_scale {n : Nat} {r : Residue} (h : r.leads n = true) : r.scale.leads n = true := by
  induction n generalizing r with
  | zero => rfl
  | succ n ih =>
    obtain ⟨hhigh, hrest⟩ := leads_succ.mp h
    rw [leads_succ, scale_push]
    exact ⟨le_toNat_scale hhigh, ih hrest⟩

theorem leads_one : Residue.leads 1022 1 = true := by
  decide +kernel

/-- No multiple of a symbol other than zero by the unknown is a symbol again, for 1022 steps. -/
theorem leads_symbol {s : Nat} (hs : s < 32) (hne : s ≠ 0) :
    Residue.leads 1022 (BitVec.ofNat 30 s) = true := by
  have hiterate : ∀ n, ∀ r : Residue, r.leads 1022 = true →
      ∀ t ∈ List.iterate Residue.scale r n, t.leads 1022 = true := by
    intro n
    induction n with
    | zero => simp
    | succ n ih =>
      intro r hr t ht
      rcases List.mem_cons.mp ht with rfl | ht
      · exact hr
      · exact ih _ (leads_scale hr) t ht
  exact hiterate 31 1 leads_one _ (symbol_mem_iterate_scale hs hne)

/-! ## Error patterns -/

/-- How many symbols of an error pattern are not zero. -/
def weight (errors : List UInt8) : Nat :=
  errors.countP (· ≠ 0)

theorem weight_cons (e : UInt8) (errors : List UInt8) :
    weight (e :: errors) = weight errors + if e = 0 then 0 else 1 := by
  simp [weight, List.countP_cons]

theorem push_eq_xor (r : Residue) (s : UInt8) :
    r.push s = r.push 0 ^^^ BitVec.ofNat 30 s.toNat := by
  simp [Residue.push]

theorem toNat_symbol {s : UInt8} : (BitVec.ofNat 30 s.toNat).toNat = s.toNat := by
  have hlt := s.toNat_lt
  rw [BitVec.toNat_ofNat, Nat.mod_eq_of_lt (by omega)]

section Errors

variable {errors : List UInt8} {r : Residue}

theorem foldl_push_ne_zero (hweight : weight errors = 0) (hr : r ≠ 0#30) :
    errors.foldl Residue.push r ≠ 0#30 := by
  induction errors generalizing r with
  | nil => exact hr
  | cons e errors ih =>
    rw [weight_cons] at hweight
    split at hweight
    · next hzero =>
      rw [List.foldl_cons, hzero]
      exact ih hweight (push_zero_ne_zero hr)
    · omega

/-- One more wrong symbol does not take back a residue that has a coefficient above the last until
then. -/
theorem foldl_push_ne_zero_of_leads (hsmall : ∀ e ∈ errors, e.toNat < 32)
    (hweight : weight errors ≤ 1) (hr : r ≠ 0#30) (hleads : r.leads errors.length = true) :
    errors.foldl Residue.push r ≠ 0#30 := by
  induction errors generalizing r with
  | nil => exact hr
  | cons e errors ih =>
    have he := hsmall e List.mem_cons_self
    obtain ⟨hhigh, hrest⟩ := leads_succ.mp hleads
    rw [weight_cons] at hweight
    split at hweight
    · next hzero =>
      rw [List.foldl_cons, hzero]
      exact ih (fun f hf => hsmall f (List.mem_cons_of_mem _ hf)) hweight (push_zero_ne_zero hr)
        hrest
    -- The wrong symbol changes the last coefficient only.
    · rw [List.foldl_cons]
      refine foldl_push_ne_zero (by omega) fun hcancel => ?_
      rw [push_eq_xor, BitVec.xor_eq_zero_iff] at hcancel
      rw [hcancel, toNat_symbol] at hhigh
      omega

/-- **One or two wrong symbols never make the zero residue zero again.** -/
theorem foldl_push_zero_ne_zero (hsmall : ∀ e ∈ errors, e.toNat < 32)
    (hlength : errors.length ≤ 1023) (hpos : weight errors ≠ 0) (hweight : weight errors ≤ 2) :
    errors.foldl Residue.push 0#30 ≠ 0#30 := by
  induction errors with
  | nil => exact absurd rfl hpos
  | cons e errors ih =>
    have hrest : ∀ f ∈ errors, f.toNat < 32 := fun f hf => hsmall f (List.mem_cons_of_mem _ hf)
    rw [List.length_cons] at hlength
    rw [weight_cons] at hpos hweight
    split at hpos
    · next hzero =>
      rw [if_pos hzero] at hweight
      rw [List.foldl_cons, hzero, push_zero_zero]
      exact ih hrest (by omega) hpos hweight
    · next hne =>
      rw [if_neg hne] at hweight
      -- The first wrong symbol is the residue from here on.
      have hfirst : Residue.push 0#30 e = BitVec.ofNat 30 e.toNat := by
        rw [push_eq_xor, push_zero_zero, BitVec.zero_xor]
      have hnat : e.toNat ≠ 0 := fun h => hne (UInt8.toNat_inj.mp h)
      have hsymbol : BitVec.ofNat 30 e.toNat ≠ 0#30 := by
        intro h
        rw [← toNat_symbol, h] at hnat
        exact hnat rfl
      rw [List.foldl_cons, hfirst]
      exact foldl_push_ne_zero_of_leads hrest (by omega) hsymbol
        (leads_of_le (by omega) (leads_symbol (hsmall e List.mem_cons_self) hnat))

end Errors

/-! ## Distance -/

/-- The number of places in which two lists differ. -/
def distance {α : Type} [DecidableEq α] (xs ys : List α) : Nat :=
  (xs.zip ys).countP fun p => p.1 ≠ p.2

section Distance

variable {α β : Type} [DecidableEq α] [DecidableEq β]

theorem distance_cons (x y : α) (xs ys : List α) :
    distance (x :: xs) (y :: ys) = distance xs ys + if x = y then 0 else 1 := by
  simp [distance, List.countP_cons]

theorem distance_append {xs ys : List α} (h : xs.length = ys.length) (xs' ys' : List α) :
    distance (xs ++ xs') (ys ++ ys') = distance xs ys + distance xs' ys' := by
  simp [distance, List.zip_append h]

theorem distance_self (xs : List α) : distance xs xs = 0 := by
  induction xs with
  | nil => rfl
  | cons x xs ih => rw [distance_cons, ih, if_pos rfl]

theorem eq_of_distance_eq_zero {xs ys : List α} (h : xs.length = ys.length)
    (hzero : distance xs ys = 0) : xs = ys := by
  induction xs generalizing ys with
  | nil => exact (List.length_eq_zero_iff.mp h.symm).symm
  | cons x xs ih =>
    cases ys with
    | nil => simp at h
    | cons y ys =>
      rw [distance_cons] at hzero
      split at hzero
      · next heq => rw [heq, ih (by simpa using h) hzero]
      · omega

/-- Lists do not differ in more places when a function is applied to their members. -/
theorem distance_map_le (f : α → β) {xs ys : List α} (h : xs.length = ys.length) :
    distance (xs.map f) (ys.map f) ≤ distance xs ys := by
  induction xs generalizing ys with
  | nil => exact Nat.le_of_eq (by simp [distance])
  | cons x xs ih =>
    cases ys with
    | nil => simp at h
    | cons y ys =>
      have hle : distance (xs.map f) (ys.map f) ≤ distance xs ys := ih (by simpa using h)
      rw [List.map_cons, List.map_cons, distance_cons, distance_cons]
      by_cases heq : x = y
      · simpa [heq] using hle
      · rw [if_neg heq]
        split <;> omega

end Distance

theorem weight_zipWith_xor (xs ys : List UInt8) :
    weight (List.zipWith (· ^^^ ·) xs ys) = distance xs ys := by
  induction xs generalizing ys with
  | nil => rfl
  | cons x xs ih =>
    cases ys with
    | nil => rfl
    | cons y ys =>
      rw [List.zipWith_cons_cons, weight_cons, distance_cons, ih]
      simp only [UInt8.xor_eq_zero_iff]

/-- **Different symbol strings with one residue differ in three places at least.** -/
theorem three_le_distance {xs ys : List UInt8} (hx : ∀ s ∈ xs, s.toNat < 32)
    (hy : ∀ s ∈ ys, s.toNat < 32) (hlength : xs.length = ys.length) (hmax : xs.length ≤ 1023)
    (h : residue xs = residue ys) (hne : xs ≠ ys) : 3 ≤ distance xs ys := by
  by_contra hnear
  have hzero : (List.zipWith (· ^^^ ·) xs ys).foldl Residue.push 0#30 = 0#30 := by
    have hsum := foldl_push_xor hlength 1 1
    rw [BitVec.xor_self] at hsum
    rw [hsum, ← residue, ← residue, h, BitVec.xor_self]
  have hsmall : ∀ e ∈ List.zipWith (· ^^^ ·) xs ys, e.toNat < 32 := by
    intro e he
    obtain ⟨i, hi, rfl⟩ := List.getElem_of_mem he
    rw [List.getElem_zipWith, UInt8.toNat_xor]
    exact Nat.xor_lt_two_pow (n := 5) (hx _ (List.getElem_mem _)) (hy _ (List.getElem_mem _))
  have hpos : weight (List.zipWith (· ^^^ ·) xs ys) ≠ 0 := by
    rw [weight_zipWith_xor]
    exact fun heq => hne (eq_of_distance_eq_zero hlength heq)
  refine foldl_push_zero_ne_zero hsmall ?_ hpos ?_ hzero
  · simpa [hlength] using hmax
  · rw [weight_zipWith_xor]
    omega

end CoinKeys.Bech32
