import CoinKeys.Bech32.Residue
import CoinKeys.Proofs.Numeral

/-!
# The residue is linear

A residue is linear in the initial residue and the symbols together, with exclusive or as addition
(`foldl_push_xor`). As long as nothing overflows, symbols are just appended to it as five bits each
(`toNat_foldl_push`).

**Theorem (`isValid_append_iff`).** Six symbols make the residue one exactly when they are the
checksum: by linearity they change the residue of six zeros by their own number.
-/

namespace CoinKeys.Bech32

/-! ## Linearity -/

theorem ite_xor (p q : Bool) (g : Residue) :
    (if p ^^ q then g else 0) = (if p then g else 0) ^^^ (if q then g else 0) := by
  cases p <;> cases q <;> simp

theorem xor_xor_xor_swap (a b c d : Residue) :
    (a ^^^ b) ^^^ (c ^^^ d) = (a ^^^ c) ^^^ (b ^^^ d) := by
  ac_rfl

theorem foldl_xor_map {α : Type} (f g : α → Residue) (terms : List α) (a b : Residue) :
    (terms.map fun t => f t ^^^ g t).foldl (· ^^^ ·) (a ^^^ b) =
      (terms.map f).foldl (· ^^^ ·) a ^^^ (terms.map g).foldl (· ^^^ ·) b := by
  induction terms generalizing a b with
  | nil => rfl
  | cons t terms ih =>
    simp only [List.map_cons, List.foldl_cons]
    rw [xor_xor_xor_swap, ih]

theorem overflow_xor (a b : Residue) : overflow (a ^^^ b) = overflow a ^^^ overflow b := by
  simp only [overflow, BitVec.getLsbD_xor, ite_xor]
  exact foldl_xor_map _ _ generator.zipIdx 0 0

theorem push_xor (a b : Residue) (s t : UInt8) :
    (a ^^^ b).push (s ^^^ t) = a.push s ^^^ b.push t := by
  simp only [Residue.push, overflow_xor, BitVec.shiftLeft_xor_distrib, UInt8.toNat_xor,
    BitVec.ofNat_xor]
  ac_rfl

theorem foldl_push_xor {xs ys : List UInt8} (h : xs.length = ys.length) (a b : Residue) :
    (List.zipWith (· ^^^ ·) xs ys).foldl Residue.push (a ^^^ b) =
      xs.foldl Residue.push a ^^^ ys.foldl Residue.push b := by
  induction xs generalizing ys a b with
  | nil =>
    obtain rfl := List.length_eq_zero_iff.mp h.symm
    rfl
  | cons x xs ih =>
    cases ys with
    | nil => simp at h
    | cons y ys =>
      simp only [List.zipWith_cons_cons, List.foldl_cons, push_xor]
      exact ih (by simpa using h) _ _

/-! ## Small residues -/

theorem two_pow_mul_xor_of_lt {i b : Nat} (h : b < 2 ^ i) (a : Nat) :
    (2 ^ i * a) ^^^ b = 2 ^ i * a + b := by
  apply Nat.eq_of_testBit_eq
  intro j
  rw [Nat.testBit_xor, Nat.testBit_two_pow_mul_add a h, Nat.testBit_two_pow_mul]
  by_cases hj : j < i
  · simp [hj, Nat.not_le_of_lt hj]
  · have hb : b.testBit j = false :=
      Nat.testBit_lt_two_pow (h.trans_le (Nat.pow_le_pow_right (by decide) (by omega)))
    simp [hj, hb, Nat.le_of_not_lt hj]

theorem overflow_eq_zero {r : Residue} (h : r.toNat < 2 ^ 25) : overflow r = 0#30 := by
  have hbit : ∀ i, r.getLsbD (25 + i) = false := fun i =>
    Nat.testBit_lt_two_pow (h.trans_le (Nat.pow_le_pow_right (by decide) (by omega)))
  simp only [overflow, hbit]
  rfl

theorem toNat_push {r : Residue} {symbol : UInt8} (hr : r.toNat < 2 ^ 25)
    (hs : symbol.toNat < 32) : (r.push symbol).toNat = r.toNat * 32 + symbol.toNat := by
  have hshift : (r <<< 5).toNat = 2 ^ 5 * r.toNat := by
    rw [BitVec.toNat_shiftLeft, Nat.shiftLeft_eq, Nat.mod_eq_of_lt (by omega), Nat.mul_comm]
  have hsymbol : (BitVec.ofNat 30 symbol.toNat).toNat = symbol.toNat := by
    rw [BitVec.toNat_ofNat, Nat.mod_eq_of_lt (by omega)]
  rw [Residue.push, overflow_eq_zero hr, BitVec.xor_zero, BitVec.toNat_xor, hshift, hsymbol,
    two_pow_mul_xor_of_lt (i := 5) hs]
  ring

/-- Behind a small residue, symbols are the digits of a base 32 numeral. -/
theorem toNat_foldl_push {symbols : List UInt8} (hs : ∀ s ∈ symbols, s.toNat < 32) {r : Residue}
    (hr : (r.toNat + 1) * 32 ^ symbols.length ≤ 2 ^ 30) :
    (symbols.foldl Residue.push r).toNat =
      r.toNat * 32 ^ symbols.length + Positional.value 32 (symbols.map UInt8.toNat) := by
  induction symbols generalizing r with
  | nil => simp
  | cons s symbols ih =>
    have hsymbol := hs s List.mem_cons_self
    have hbound : (r.toNat + 1) * 32 * 32 ^ symbols.length ≤ 2 ^ 30 := by
      rwa [List.length_cons, Nat.pow_succ', ← Nat.mul_assoc] at hr
    -- There is room for the symbols that follow, so nothing overflows at this one.
    have hsmall : r.toNat < 2 ^ 25 := by
      have hle := (Nat.le_mul_of_pos_right _ (Nat.pow_pos (by decide))).trans hbound
      omega
    have hpush := toNat_push hsmall hsymbol
    have hnext : ((r.push s).toNat + 1) * 32 ^ symbols.length ≤ 2 ^ 30 :=
      (Nat.mul_le_mul_right _ (by omega)).trans hbound
    rw [List.foldl_cons, ih (fun t ht => hs t (List.mem_cons_of_mem _ ht)) hnext, hpush,
      List.map_cons, Positional.value_cons, List.length_map, List.length_cons]
    ring

/-! ## The checksum -/

@[simp] theorem length_checksum (hrp : List Char) (values : List UInt8) :
    (checksum hrp values).length = checksumSize := rfl

theorem toNat_symbolAt (r : Residue) (shift : Nat) :
    (UInt8.ofNat ((r >>> shift).toNat % 32)).toNat = r.toNat / 2 ^ shift % 32 := by
  have hlt : (r >>> shift).toNat % 32 < 32 := Nat.mod_lt _ (by decide)
  rw [UInt8.toNat_ofNat_of_lt' (hlt.trans (by decide)), BitVec.toNat_ushiftRight,
    Nat.shiftRight_eq_div_pow]

theorem lt_of_mem_checksum {hrp : List Char} {values : List UInt8} {s : UInt8}
    (h : s ∈ checksum hrp values) : s.toNat < 32 := by
  obtain ⟨shift, -, rfl⟩ := List.mem_map.mp h
  rw [toNat_symbolAt]
  exact Nat.mod_lt _ (by decide)

/-- The checksum spells the difference between one and the residue of six zeros. -/
theorem foldl_push_checksum (hrp : List Char) (values : List UInt8) :
    (checksum hrp values).foldl Residue.push 0#30 =
      residue (hrpSymbols hrp ++ values ++ List.replicate checksumSize 0) ^^^ 1 := by
  have hsmall : ((0#30).toNat + 1) * 32 ^ (checksum hrp values).length ≤ 2 ^ 30 := by
    rw [length_checksum]
    decide
  apply BitVec.eq_of_toNat_eq
  rw [toNat_foldl_push (fun s => lt_of_mem_checksum) hsmall, checksum]
  generalize residue (hrpSymbols hrp ++ values ++ List.replicate checksumSize 0) ^^^ 1 = r
  -- The symbols are cut out of the difference as its base 32 digits.
  have hdigits : ([25, 20, 15, 10, 5, 0].map fun shift =>
      UInt8.ofNat ((r >>> shift).toNat % 32)).map UInt8.toNat =
        Positional.fixedDigits 32 checksumSize r.toNat := by
    simp only [List.map_cons, List.map_nil, toNat_symbolAt]
    simp [Positional.fixedDigits, checksumSize, Nat.div_div_eq_div_mul]
  rw [hdigits, Positional.value_fixedDigits, Nat.mod_eq_of_lt (r.isLt.trans_le (by decide))]
  simp

/-- Symbols add to what as many zeros make of a residue what they make behind zero. -/
theorem foldl_push_eq_xor (symbols : List UInt8) (r : Residue) :
    symbols.foldl Residue.push r =
      (List.replicate symbols.length 0).foldl Residue.push r ^^^
        symbols.foldl Residue.push 0#30 := by
  have hterms : List.zipWith (· ^^^ ·) (List.replicate symbols.length 0) symbols = symbols := by
    induction symbols with
    | nil => rfl
    | cons s symbols ih => simp [List.replicate_succ, ih]
  rw [← foldl_push_xor (by simp), BitVec.xor_zero, hterms]

theorem eq_of_foldl_push_eq {xs ys : List UInt8} (hx : ∀ s ∈ xs, s.toNat < 32)
    (hy : ∀ s ∈ ys, s.toNat < 32) (hlength : xs.length = ys.length)
    (hsize : xs.length ≤ checksumSize)
    (h : xs.foldl Residue.push 0#30 = ys.foldl Residue.push 0#30) : xs = ys := by
  have hsmall : ((0#30).toNat + 1) * 32 ^ xs.length ≤ 2 ^ 30 := by
    have hpow := Nat.pow_le_pow_right (n := 32) (by decide) hsize
    simpa using hpow.trans (by decide : 32 ^ checksumSize ≤ 2 ^ 30)
  have hvalue := congrArg BitVec.toNat h
  rw [toNat_foldl_push hx hsmall, toNat_foldl_push hy (hlength ▸ hsmall), hlength,
    Nat.add_left_cancel_iff] at hvalue
  have hmap : xs.map UInt8.toNat = ys.map UInt8.toNat :=
    Positional.eq_of_value_eq (by decide) (by simpa using hlength)
      (by simpa using hx) (by simpa using hy) hvalue
  exact List.map_injective_iff.mpr (fun a b hab => UInt8.toNat_inj.mp hab) hmap

/-- **Six symbols make values valid exactly when they are the checksum.** -/
theorem isValid_append_iff {hrp : List Char} {values sums : List UInt8}
    (hsums : ∀ s ∈ sums, s.toNat < 32) (hlength : sums.length = checksumSize) :
    isValid hrp (values ++ sums) = true ↔ sums = checksum hrp values := by
  have hresidue : residue (hrpSymbols hrp ++ (values ++ sums)) =
      residue (hrpSymbols hrp ++ values ++ List.replicate checksumSize 0) ^^^
        sums.foldl Residue.push 0#30 := by
    rw [← List.append_assoc, residue, List.foldl_append, foldl_push_eq_xor sums, hlength,
      ← List.foldl_append, residue]
  rw [isValid, beq_iff_eq, hresidue]
  refine ⟨fun h => ?_, fun h => ?_⟩
  · apply eq_of_foldl_push_eq hsums (fun s => lt_of_mem_checksum) hlength hlength.le
    rw [foldl_push_checksum, ← h, ← BitVec.xor_assoc, BitVec.xor_self, BitVec.zero_xor]
  · rw [h, foldl_push_checksum, ← BitVec.xor_assoc, BitVec.xor_self, BitVec.zero_xor]

end CoinKeys.Bech32
