import CoinKeys.Cipher.Byte
import CoinKeys.Proofs.Bytes
import Mathlib.Data.List.Iterate
import Mathlib.Data.Nat.Bitwise

/-!
# The field of bytes

Multiplication distributes over exclusive or on both sides. Every byte but zero is a power of three,
and powers are multiplied by adding exponents, so multiplication is commutative and associative.
The power with exponent 255 is one, which makes the power with exponent 254 an inverse.

**Theorem (`unsubstitute_substitute`, `substitute_unsubstitute`).** The substitution and its undoing
are inverse to each other.
-/

namespace CoinKeys.Cipher

/-! ## Multiplication is bilinear -/

theorem and_eq_zero_or (b : UInt8) {bit : UInt8} {place : Nat} (h : bit.toNat = 2 ^ place) :
    b &&& bit = 0 ∨ b &&& bit = bit := by
  have hand : (b &&& bit).toNat = (b.toNat.testBit place).toNat * bit.toNat := by
    rw [UInt8.toNat_and, h, Nat.and_two_pow]
  cases hbit : b.toNat.testBit place with
  | false =>
    left
    apply UInt8.toNat_inj.mp
    simp [hand, hbit]
  | true =>
    right
    apply UInt8.toNat_inj.mp
    simp [hand, hbit]

theorem carry_or_not (b : UInt8) : b &&& 0x80 = 0 ∨ b &&& 0x80 = 0x80 :=
  and_eq_zero_or b (show (0x80 : UInt8).toNat = 2 ^ 7 from rfl)

theorem odd_or_even (b : UInt8) : b &&& 1 = 0 ∨ b &&& 1 = 1 :=
  and_eq_zero_or b (show (1 : UInt8).toNat = 2 ^ 0 from rfl)

theorem xor_and_distrib (a b mask : UInt8) :
    (a ^^^ b) &&& mask = (a &&& mask) ^^^ (b &&& mask) := by
  apply UInt8.toBitVec_inj.mp
  ext i
  simp only [UInt8.toBitVec_and, UInt8.toBitVec_xor, BitVec.getElem_and, BitVec.getElem_xor,
    Bool.and_xor_distrib_right]

theorem xor_xor_xor_comm (a b c d : UInt8) : (a ^^^ b) ^^^ (c ^^^ d) = (a ^^^ c) ^^^ (b ^^^ d) := by
  ac_rfl

theorem double_xor (a b : UInt8) : double (a ^^^ b) = double a ^^^ double b := by
  have hcarry : (if (a ^^^ b) &&& 0x80 = 0 then (0 : UInt8) else 0x1b) =
      (if a &&& 0x80 = 0 then 0 else 0x1b) ^^^ (if b &&& 0x80 = 0 then 0 else 0x1b) := by
    rw [xor_and_distrib]
    rcases carry_or_not a with ha | ha <;> rcases carry_or_not b with hb | hb <;>
      rw [ha, hb] <;> decide
  rw [double, double, double, UInt8.shiftLeft_xor, hcarry, xor_xor_xor_comm]

theorem mulOnto_xor (bits : Nat) (a b c s t : UInt8) :
    mulOnto bits a (b ^^^ c) (s ^^^ t) = mulOnto bits a b s ^^^ mulOnto bits a c t := by
  induction bits generalizing a b c s t with
  | zero => rfl
  | succ bits ih =>
    have hsum : (if (b ^^^ c) &&& 1 = 0 then s ^^^ t else s ^^^ t ^^^ a) =
        (if b &&& 1 = 0 then s else s ^^^ a) ^^^ (if c &&& 1 = 0 then t else t ^^^ a) := by
      rw [xor_and_distrib]
      rcases odd_or_even b with hb | hb <;> rcases odd_or_even c with hc | hc <;> rw [hb, hc]
      · rfl
      · exact UInt8.xor_assoc s t a
      · show s ^^^ t ^^^ a = s ^^^ a ^^^ t
        ac_rfl
      · show s ^^^ t = s ^^^ a ^^^ (t ^^^ a)
        rw [xor_xor_xor_comm s a t a, UInt8.xor_self, UInt8.xor_zero]
    rw [mulOnto, mulOnto, mulOnto, UInt8.shiftRight_xor, hsum, ih]

theorem xor_mulOnto (bits : Nat) (a b c s t : UInt8) :
    mulOnto bits (a ^^^ b) c (s ^^^ t) = mulOnto bits a c s ^^^ mulOnto bits b c t := by
  induction bits generalizing a b c s t with
  | zero => rfl
  | succ bits ih =>
    have hsum : (if c &&& 1 = 0 then s ^^^ t else s ^^^ t ^^^ (a ^^^ b)) =
        (if c &&& 1 = 0 then s else s ^^^ a) ^^^ (if c &&& 1 = 0 then t else t ^^^ b) := by
      split
      · rfl
      · exact xor_xor_xor_comm s t a b
    rw [mulOnto, mulOnto, mulOnto, double_xor, hsum, ih]

theorem double_mulOnto (bits : Nat) (a b s : UInt8) :
    mulOnto bits (double a) b (double s) = double (mulOnto bits a b s) := by
  induction bits generalizing a b s with
  | zero => rfl
  | succ bits ih =>
    have hsum : (if b &&& 1 = 0 then double s else double s ^^^ double a) =
        double (if b &&& 1 = 0 then s else s ^^^ a) := by
      split
      · rfl
      · exact (double_xor s a).symm
    rw [mulOnto, mulOnto, hsum, ih]

theorem mul_xor (a b c : UInt8) : mul a (b ^^^ c) = mul a b ^^^ mul a c :=
  mulOnto_xor 8 a b c 0 0

theorem xor_mul (a b c : UInt8) : mul (a ^^^ b) c = mul a c ^^^ mul b c :=
  xor_mulOnto 8 a b c 0 0

theorem double_mul (a b : UInt8) : mul (double a) b = double (mul a b) :=
  double_mulOnto 8 a b 0

@[simp] theorem zero_mul (b : UInt8) : mul 0 b = 0 := by
  have h := xor_mul 0 0 b
  rwa [UInt8.xor_self, UInt8.xor_self] at h

@[simp] theorem mul_zero (a : UInt8) : mul a 0 = 0 := by
  have h := mul_xor a 0 0
  rwa [UInt8.xor_self, UInt8.xor_self] at h

@[simp] theorem one_mul (b : UInt8) : mul 1 b = b :=
  forall_byte (p := fun b => mul 1 b = b) (by decide +kernel) b

/-! ## Powers of three -/

/-- Three times a byte. -/
def triple (b : UInt8) : UInt8 := double b ^^^ b

/-- A power of three. -/
def power (exponent : Nat) : UInt8 := triple^[exponent] 1

theorem triple_mul (a b : UInt8) : mul (triple a) b = triple (mul a b) := by
  rw [triple, xor_mul, double_mul, triple]

theorem iterate_triple_mul (i : Nat) (a b : UInt8) :
    mul (triple^[i] a) b = triple^[i] (mul a b) := by
  induction i with
  | zero => rfl
  | succ i ih => rw [Function.iterate_succ_apply', Function.iterate_succ_apply', triple_mul, ih]

theorem mul_power (i j : Nat) : mul (power i) (power j) = power (i + j) := by
  rw [power, iterate_triple_mul, one_mul, power, power, Function.iterate_add_apply]

theorem power_add_period (i : Nat) : power (i + 255) = power i := by
  have h : power 255 = 1 := by cbv
  rw [← mul_power, h, power, iterate_triple_mul, one_mul]

theorem power_add_mul_period (i count : Nat) : power (i + 255 * count) = power i := by
  induction count with
  | zero => rfl
  | succ count ih => rw [Nat.mul_succ, ← Nat.add_assoc, power_add_period, ih]

/-- The set of the bytes of a list, and of those in `seen`, as the bits of a number. -/
def bitSet (seen : Nat) (bytes : List UInt8) : Nat :=
  bytes.foldl (fun seen b => seen ||| 1 <<< b.toNat) seen

theorem testBit_bitSet {seen n : Nat} {bytes : List UInt8}
    (h : (bitSet seen bytes).testBit n = true) :
    seen.testBit n = true ∨ ∃ b ∈ bytes, b.toNat = n := by
  induction bytes generalizing seen with
  | nil => exact Or.inl h
  | cons b bytes ih =>
    rcases ih h with hseen | ⟨c, hc, hn⟩
    · rw [Nat.testBit_or, Bool.or_eq_true] at hseen
      rcases hseen with hseen | hb
      · exact Or.inl hseen
      · rw [Nat.one_shiftLeft, Nat.testBit_two_pow, decide_eq_true_eq] at hb
        exact Or.inr ⟨b, List.mem_cons_self, hb⟩
    · exact Or.inr ⟨c, List.mem_cons_of_mem _ hc, hn⟩

/-- Every byte but zero is a power of three. -/
theorem exists_power {b : UInt8} (h : b ≠ 0) : ∃ i, power i = b := by
  -- Together with zero, the first 255 powers fill the set of all bytes.
  have hall : bitSet 1 (List.iterate triple 1 255) = 2 ^ 256 - 1 := by decide +kernel
  have hbit : (bitSet 1 (List.iterate triple 1 255)).testBit b.toNat = true := by
    rw [hall, Nat.testBit_two_pow_sub_one]
    simpa using b.toNat_lt
  rcases testBit_bitSet hbit with hzero | ⟨c, hc, hbc⟩
  · have hb : b.toNat = 0 := Nat.testBit_one_eq_true_iff_self_eq_zero.mp hzero
    exact absurd (UInt8.toNat_inj.mp hb) h
  · obtain ⟨i, -, rfl⟩ := List.mem_iterate.mp hc
    exact ⟨i, UInt8.toNat_inj.mp hbc⟩

theorem zero_or_power (b : UInt8) : b = 0 ∨ ∃ i, b = power i := by
  by_cases h : b = 0
  · exact Or.inl h
  · obtain ⟨i, hi⟩ := exists_power h
    exact Or.inr ⟨i, hi.symm⟩

theorem mul_assoc (a b c : UInt8) : mul a (mul b c) = mul (mul a b) c := by
  rcases zero_or_power a with rfl | ⟨i, rfl⟩
  · simp
  rcases zero_or_power b with rfl | ⟨j, rfl⟩
  · simp
  rcases zero_or_power c with rfl | ⟨k, rfl⟩
  · simp
  simp only [mul_power, Nat.add_assoc]

/-! ## Inverse and substitution -/

@[simp] theorem inverse_zero : inverse 0 = 0 := by
  simp [inverse, squaresOnto]

theorem inverse_power (i : Nat) : inverse (power i) = power (254 * i) := by
  have hone : (1 : UInt8) = power 0 := rfl
  simp only [inverse, squaresOnto, hone, mul_power]
  congr 1
  omega

/-- The inverse of the inverse is the byte itself, since 254 squared leaves remainder one by 255. -/
theorem inverse_inverse (b : UInt8) : inverse (inverse b) = b := by
  rcases zero_or_power b with rfl | ⟨i, rfl⟩
  · simp
  · have hexp : 254 * (254 * i) = i + 255 * (253 * i) := by omega
    rw [inverse_power, inverse_power, hexp, power_add_mul_period]

/-- The affine part of the substitution. -/
def affine (i : UInt8) : UInt8 :=
  i ^^^ rotate i 1 ^^^ rotate i 2 ^^^ rotate i 3 ^^^ rotate i 4 ^^^ 0x63

/-- The affine part undone. -/
def unaffine (b : UInt8) : UInt8 :=
  rotate b 1 ^^^ rotate b 3 ^^^ rotate b 6 ^^^ 0x05

theorem affine_inverse (b : UInt8) : unaffine (affine b) = b ∧ affine (unaffine b) = b :=
  forall_byte (p := fun b => unaffine (affine b) = b ∧ affine (unaffine b) = b)
    (by decide +kernel) b

theorem substitute_eq (b : UInt8) : substitute b = affine (inverse b) := rfl

theorem unsubstitute_eq (b : UInt8) : unsubstitute b = inverse (unaffine b) := rfl

/-- **The substitution is undone.** -/
theorem unsubstitute_substitute (b : UInt8) : unsubstitute (substitute b) = b := by
  rw [unsubstitute_eq, substitute_eq, (affine_inverse _).1, inverse_inverse]

theorem substitute_unsubstitute (b : UInt8) : substitute (unsubstitute b) = b := by
  rw [substitute_eq, unsubstitute_eq, inverse_inverse, (affine_inverse b).2]

end CoinKeys.Cipher
