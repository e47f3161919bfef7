import CoinKeys.Curve.Scalar
import CoinKeys.Proofs.Bytes
import CoinKeys.Proofs.Outcome

/-!
# Stored scalars

A scalar is stored in thirty-two bytes and read back from them, and no other bytes are read as that
scalar (`Scalar.ofBytes_eq_ok_iff`). What thirty-two bytes are read as no scalar is a matter of
their number alone (`Scalar.ofBytes_eq_error_iff`), and there is a product of two stored scalars and
of nothing else (`Scalar.multiplyBytes_eq_ok_iff`).
-/

namespace CoinKeys.Scalar

theorem ext {k l : Scalar} (h : k.val = l.val) : k = l := by
  cases k
  cases l
  cases h
  rfl

theorem ofNat?_eq_some_iff {n : Nat} {k : Scalar} : ofNat? n = some k ↔ n = k.val := by
  unfold ofNat?
  refine ⟨fun h => ?_, fun h => ?_⟩
  · split at h
    · rw [← Option.some.inj h]
    · cases h
  · obtain rfl := h
    rw [dif_pos ⟨k.pos, k.lt⟩]

theorem isSome_ofNat?_iff {n : Nat} : (ofNat? n).isSome ↔ 0 < n ∧ n < Curve.order := by
  unfold ofNat?
  split <;> simp_all

theorem toNat_toBytes (k : Scalar) : k.toBytes.toNat = k.val := by
  rw [toBytes, FixedBytes.toNat_ofNat, Nat.mod_eq_of_lt]
  exact k.lt.trans (by decide)

theorem toBytes_inj {k l : Scalar} : k.toBytes = l.toBytes ↔ k = l := by
  refine ⟨fun h => ext ?_, fun h => congrArg toBytes h⟩
  rw [← k.toNat_toBytes, h, l.toNat_toBytes]

theorem ofNat?_toNat_eq_some_iff {bytes : FixedBytes 32} {k : Scalar} :
    ofNat? bytes.toNat = some k ↔ bytes = k.toBytes := by
  rw [ofNat?_eq_some_iff, toBytes]
  refine ⟨fun h => ?_, fun h => ?_⟩
  · rw [← h, FixedBytes.ofNat_toNat]
  · obtain rfl := h
    exact k.toNat_toBytes

theorem ofBytes_eq_ok_iff {bytes : FixedBytes 32} {k : Scalar} :
    ofBytes bytes.toList = .ok k ↔ bytes = k.toBytes := by
  rw [← ofNat?_toNat_eq_some_iff, ofBytes, if_pos bytes.length_toList, FixedBytes.toNat]
  cases ofNat? bytes.toList.toNat <;> simp

theorem ofBytes_eq_error_iff {bytes : FixedBytes 32} {fault : Error} :
    ofBytes bytes.toList = .error fault ↔
      (bytes.toNat = 0 ∨ Curve.order ≤ bytes.toNat) ∧ fault = .curve .secretKey := by
  have hrange : (ofNat? bytes.toNat).isSome = false ↔
      bytes.toNat = 0 ∨ Curve.order ≤ bytes.toNat := by
    rw [← Bool.not_eq_true, isSome_ofNat?_iff]
    omega
  rw [ofBytes, if_pos bytes.length_toList, ← FixedBytes.toNat, ← hrange]
  cases ofNat? bytes.toNat <;> simp [eq_comm]

theorem multiplyBytes_eq_ok_iff {a b c : FixedBytes 32} :
    multiplyBytes a b = .ok c ↔ ∃ k l : Scalar, a = k.toBytes ∧ b = l.toBytes ∧
      c = .ofNat 32 (k.val * l.val % Curve.order) := by
  simp only [multiplyBytes, bind_eq_ok_iff, ofBytes_eq_ok_iff]
  refine ⟨fun h => ?_, fun h => ?_⟩
  · obtain ⟨k, rfl, h⟩ := h
    split at h
    · next l hl =>
      exact ⟨k, l, rfl, ofNat?_toNat_eq_some_iff.mp hl, (Except.ok.inj h).symm⟩
    · cases h
  · obtain ⟨k, l, rfl, hb, rfl⟩ := h
    refine ⟨k, rfl, ?_⟩
    rw [ofNat?_toNat_eq_some_iff.mpr hb]

end CoinKeys.Scalar
