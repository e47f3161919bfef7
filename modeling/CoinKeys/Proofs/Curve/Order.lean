import CoinKeys.Curve.Scalar
import Mathlib.Data.List.Prime
import Mathlib.NumberTheory.LucasPrimality
import Mathlib.Tactic.NormNum.Prime
import Mathlib.Tactic.ReduceModChar

/-!
# The order of the curve is prime

A number `p` is prime if modulo `p` there is a root whose powers come back to one at `p - 1` and at
no quotient of `p - 1` by a prime factor (Lucas). The prime factors of `p - 1` are prime for the
same reason, and so on down to factors for which trial division is quick. Each lemma below names a
root and the prime factors.

**Theorem (`prime_order`).** The order of the group of points is prime.
-/

namespace CoinKeys.Curve

/-- A number is prime if modulo it some root has the order `p - 1`. As `p - 1` divides a power of
the product of the given factors, it has no other prime factors. -/
theorem prime_of_root {p : Nat} (root : ZMod p) (factors : List Nat) (count : Nat)
    (hprime : factors.Forall Nat.Prime) (hfactors : p - 1 ∣ factors.prod ^ count)
    (hone : root ^ (p - 1) = 1) (hne : factors.Forall fun q => root ^ ((p - 1) / q) ≠ 1) :
    p.Prime := by
  rw [List.forall_iff_forall_mem] at hprime hne
  apply lucas_primality p root hone
  intro q hq hdvd
  have hprod : q ∣ factors.prod := hq.dvd_of_dvd_pow (hdvd.trans hfactors)
  obtain ⟨r, hr, hqr⟩ := (Prime.dvd_prod_iff hq.prime).mp hprod
  obtain rfl := (Nat.prime_dvd_prime_iff_eq hq (hprime r hr)).mp hqr
  exact hne q hr

theorem prime_107361793816595537 : Nat.Prime 107361793816595537 := by
  apply prime_of_root 3 [2, 16699, 85831, 4681609] 4
  · norm_num
  · norm_num
  · reduce_mod_char
  · simp only [List.Forall]
    refine ⟨?_, ?_, ?_, ?_⟩ <;> reduce_mod_char <;> decide

theorem prime_174723607534414371449 : Nat.Prime 174723607534414371449 := by
  apply prime_of_root 3 [2, 17, 59, 4051, 120233, 44706919] 3
  · norm_num
  · norm_num
  · reduce_mod_char
  · simp only [List.Forall]
    refine ⟨?_, ?_, ?_, ?_, ?_, ?_⟩ <;> reduce_mod_char <;> decide

theorem prime_545358713 : Nat.Prime 545358713 := by
  apply prime_of_root 5 [2, 41, 59, 28181] 3
  · norm_num
  · norm_num
  · reduce_mod_char
  · simp only [List.Forall]
    refine ⟨?_, ?_, ?_, ?_⟩ <;> reduce_mod_char <;> decide

theorem prime_297159362677 : Nat.Prime 297159362677 := by
  apply prime_of_root 2 [2, 3, 11, 461, 1627771] 2
  · norm_num
  · norm_num
  · reduce_mod_char
  · simp only [List.Forall]
    refine ⟨?_, ?_, ?_, ?_, ?_⟩ <;> reduce_mod_char <;> decide

theorem prime_29047611873442575647497758179 : Nat.Prime 29047611873442575647497758179 := by
  apply prime_of_root 2 [2, 293, 305873, 545358713, 297159362677] 1
  · exact ⟨by norm_num, by norm_num, by norm_num, prime_545358713, prime_297159362677⟩
  · norm_num
  · reduce_mod_char
  · simp only [List.Forall]
    refine ⟨?_, ?_, ?_, ?_, ?_⟩ <;> reduce_mod_char <;> decide

theorem prime_341948486974166000522343609283189 : Nat.Prime 341948486974166000522343609283189 := by
  apply prime_of_root 2 [2, 3, 109, 29047611873442575647497758179] 3
  · exact ⟨by norm_num, by norm_num, by norm_num, prime_29047611873442575647497758179⟩
  · norm_num
  · reduce_mod_char
  · simp only [List.Forall]
    refine ⟨?_, ?_, ?_, ?_⟩ <;> reduce_mod_char <;> decide

/-- **The order of the group of points is prime.** -/
theorem prime_order : Nat.Prime order := by
  rw [order]
  apply prime_of_root 7 [2, 3, 149, 631, 107361793816595537, 174723607534414371449,
    341948486974166000522343609283189] 6
  · exact ⟨by norm_num, by norm_num, by norm_num, by norm_num, prime_107361793816595537,
      prime_174723607534414371449, prime_341948486974166000522343609283189⟩
  · norm_num
  · reduce_mod_char
  · simp only [List.Forall]
    refine ⟨?_, ?_, ?_, ?_, ?_, ?_, ?_⟩ <;> reduce_mod_char <;> decide

end CoinKeys.Curve
