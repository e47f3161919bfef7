import CoinKeys.Proofs.Curve.Order
import CoinKeys.Proofs.Curve.Scalar

/-!
# Multiplication of stored scalars

The order of the curve is prime, so the numbers from one to one less than the order are those of the
units modulo the order (`inRange_iff`). Stored units are multiplied as the units are
(`multiplyBytes_ofUnit`), and what holds of the product of units holds of the stored product.

**Theorem (`multiplyBytes_units`).** Thirty-two bytes have a product with thirty-two others exactly
if both numbers are from one to one less than the order, and the number of the product is again. The
product does not depend on the order of the factors, nor on which of three are multiplied first.
-/

namespace CoinKeys.Scalar

instance : Fact (Nat.Prime Curve.order) := ⟨Curve.prime_order⟩

/-! ## Scalars and units -/

/-- The scalar of a unit modulo the order. -/
def ofUnit (u : (ZMod Curve.order)ˣ) : Scalar where
  val := ZMod.val (u : ZMod Curve.order)
  pos := Nat.pos_of_ne_zero ((ZMod.val_ne_zero _).mpr u.ne_zero)
  lt := ZMod.val_lt _

theorem val_ofUnit_mul (u v : (ZMod Curve.order)ˣ) :
    (ofUnit (u * v)).val = (ofUnit u).val * (ofUnit v).val % Curve.order :=
  ZMod.val_mul (u : ZMod Curve.order) (v : ZMod Curve.order)

/-- Every scalar is that of a unit, because the order is prime. -/
theorem exists_ofUnit (k : Scalar) : ∃ u, ofUnit u = k := by
  have hndvd : ¬ Curve.order ∣ k.val := Nat.not_dvd_of_pos_of_lt k.pos k.lt
  -- Below a prime there are no other numbers that share a factor with it.
  have hcoprime : k.val.Coprime Curve.order :=
    ((Nat.Prime.coprime_iff_not_dvd Curve.prime_order).mpr hndvd).symm
  exact ⟨ZMod.unitOfCoprime k.val hcoprime, ext (ZMod.val_natCast_of_lt k.lt)⟩

theorem exists_val_eq_mul (k l : Scalar) : ∃ m : Scalar, m.val = k.val * l.val % Curve.order := by
  obtain ⟨u, rfl⟩ := exists_ofUnit k
  obtain ⟨v, rfl⟩ := exists_ofUnit l
  exact ⟨ofUnit (u * v), val_ofUnit_mul u v⟩

/-! ## Stored units -/

/-- The number of the bytes is from one to one less than the order. -/
def InRange (bytes : FixedBytes 32) : Prop :=
  1 ≤ bytes.toNat ∧ bytes.toNat ≤ Curve.order - 1

theorem inRange_toBytes (k : Scalar) : InRange k.toBytes := by
  rw [InRange, toNat_toBytes]
  exact ⟨k.pos, Nat.le_sub_one_of_lt k.lt⟩

/-- The bytes in range are those of the units. -/
theorem inRange_iff {bytes : FixedBytes 32} :
    InRange bytes ↔ ∃ u, bytes = (ofUnit u).toBytes := by
  constructor
  · intro h
    obtain ⟨hpos, hle⟩ := h
    have hlt : bytes.toNat < Curve.order := Nat.lt_of_le_sub_one (by decide) hle
    obtain ⟨u, hu⟩ := exists_ofUnit ⟨bytes.toNat, hpos, hlt⟩
    refine ⟨u, ?_⟩
    rw [hu, toBytes, FixedBytes.ofNat_toNat]
  · intro h
    obtain ⟨u, rfl⟩ := h
    exact inRange_toBytes (ofUnit u)

theorem ofBytes_eq_ok_of_inRange {bytes : FixedBytes 32} (h : InRange bytes) :
    ∃ k, ofBytes bytes.toList = .ok k := by
  obtain ⟨u, rfl⟩ := inRange_iff.mp h
  exact ⟨ofUnit u, ofBytes_eq_ok_iff.mpr rfl⟩

theorem ofBytes_of_not_inRange {bytes : FixedBytes 32} (h : ¬ InRange bytes) :
    ofBytes bytes.toList = .error (.curve .secretKey) := by
  apply ofBytes_eq_error_iff.mpr
  rw [InRange] at h
  exact ⟨by omega, rfl⟩

/-! ## Products -/

/-- **Stored units are multiplied as the units are.** -/
theorem multiplyBytes_ofUnit (u v : (ZMod Curve.order)ˣ) :
    multiplyBytes (ofUnit u).toBytes (ofUnit v).toBytes = .ok (ofUnit (u * v)).toBytes := by
  refine multiplyBytes_eq_ok_iff.mpr ⟨ofUnit u, ofUnit v, rfl, rfl, ?_⟩
  rw [toBytes, val_ofUnit_mul]

theorem exists_multiplyBytes_iff {a b : FixedBytes 32} :
    (∃ c, multiplyBytes a b = .ok c) ↔ InRange a ∧ InRange b := by
  constructor
  · intro h
    obtain ⟨c, hc⟩ := h
    obtain ⟨k, l, rfl, rfl, -⟩ := multiplyBytes_eq_ok_iff.mp hc
    exact ⟨inRange_toBytes k, inRange_toBytes l⟩
  · intro h
    obtain ⟨ha, hb⟩ := h
    obtain ⟨u, rfl⟩ := inRange_iff.mp ha
    obtain ⟨v, rfl⟩ := inRange_iff.mp hb
    exact ⟨_, multiplyBytes_ofUnit u v⟩

theorem toNat_of_multiplyBytes {a b c : FixedBytes 32} (h : multiplyBytes a b = .ok c) :
    InRange c ∧ c.toNat = a.toNat * b.toNat % Curve.order := by
  obtain ⟨ha, hb⟩ := exists_multiplyBytes_iff.mp ⟨c, h⟩
  obtain ⟨u, rfl⟩ := inRange_iff.mp ha
  obtain ⟨v, rfl⟩ := inRange_iff.mp hb
  rw [multiplyBytes_ofUnit] at h
  obtain rfl := Except.ok.inj h
  refine ⟨inRange_toBytes _, ?_⟩
  rw [toNat_toBytes, toNat_toBytes, toNat_toBytes, val_ofUnit_mul]

/-! ## Faults -/

theorem multiplyBytes_of_not_inRange_left {a : FixedBytes 32} (b : FixedBytes 32)
    (h : ¬ InRange a) : multiplyBytes a b = .error (.curve .secretKey) :=
  bind_eq_error_iff.mpr (.inl (ofBytes_of_not_inRange h))

theorem multiplyBytes_of_not_inRange_right {a b : FixedBytes 32} (ha : InRange a)
    (hb : ¬ InRange b) : multiplyBytes a b = .error (.curve .factor) := by
  obtain ⟨k, hk⟩ := ofBytes_eq_ok_of_inRange ha
  have hnone : ofNat? b.toNat = none := by
    rw [← Option.not_isSome_iff_eq_none, isSome_ofNat?_iff]
    rw [InRange] at hb
    omega
  refine bind_eq_error_iff.mpr (.inr ⟨k, hk, ?_⟩)
  rw [hnone]

/-- **Thirty-two bytes are multiplied as units modulo the prime order.** A product is stored in
thirty-two bytes again, which are a secret key. A first factor that is out of range is reported as
no secret key, and a second factor alone as a bad one. -/
theorem multiplyBytes_units :
    Nat.Prime Curve.order ∧
    (∀ a b, (∃ c, multiplyBytes a b = .ok c) ↔ InRange a ∧ InRange b) ∧
    (∀ a b c, multiplyBytes a b = .ok c →
      c = .ofNat 32 (a.toNat * b.toNat % Curve.order) ∧
        c.toNat = a.toNat * b.toNat % Curve.order ∧
        InRange c ∧ ∃ k, ofBytes c.toList = .ok k) ∧
    (∀ a, InRange a ↔ ∃ u, a = (ofUnit u).toBytes) ∧
    (∀ u v, multiplyBytes (ofUnit u).toBytes (ofUnit v).toBytes =
      .ok (ofUnit (u * v)).toBytes) ∧
    (∀ a b, InRange a → InRange b → multiplyBytes a b = multiplyBytes b a) ∧
    (∀ a b c, InRange a → InRange b → InRange c →
      (multiplyBytes a b >>= fun ab => multiplyBytes ab c) =
        multiplyBytes b c >>= fun bc => multiplyBytes a bc) ∧
    (∀ a b, ¬ InRange a → multiplyBytes a b = .error (.curve .secretKey)) ∧
    (∀ a b, InRange a → ¬ InRange b → multiplyBytes a b = .error (.curve .factor)) ∧
    CurveFault.factor.detail = "bad tweak" := by
  refine ⟨Curve.prime_order, fun a b => exists_multiplyBytes_iff, ?_, fun a => inRange_iff,
    multiplyBytes_ofUnit, ?_, ?_, fun a b => multiplyBytes_of_not_inRange_left b,
    fun a b => multiplyBytes_of_not_inRange_right, rfl⟩
  · intro a b c h
    obtain ⟨hrange, hvalue⟩ := toNat_of_multiplyBytes h
    refine ⟨?_, hvalue, hrange, ofBytes_eq_ok_of_inRange hrange⟩
    rw [← hvalue, FixedBytes.ofNat_toNat]
  · intro a b ha hb
    obtain ⟨u, rfl⟩ := inRange_iff.mp ha
    obtain ⟨v, rfl⟩ := inRange_iff.mp hb
    rw [multiplyBytes_ofUnit, multiplyBytes_ofUnit, mul_comm]
  · intro a b c ha hb hc
    obtain ⟨u, rfl⟩ := inRange_iff.mp ha
    obtain ⟨v, rfl⟩ := inRange_iff.mp hb
    obtain ⟨w, rfl⟩ := inRange_iff.mp hc
    simp only [multiplyBytes_ofUnit, bind, Except.bind, mul_assoc]

/-- One less than the order is its own inverse, and the order itself is no factor. -/
theorem multiplyBytes_units_last :
    InRange (.ofNat 32 2) ∧ InRange (.ofNat 32 (Curve.order - 1)) ∧
    ¬ InRange (.ofNat 32 Curve.order) ∧
    multiplyBytes (.ofNat 32 (Curve.order - 1)) (.ofNat 32 (Curve.order - 1)) = .ok (.ofNat 32 1) ∧
    multiplyBytes (.ofNat 32 2) (.ofNat 32 (Curve.order - 1)) =
      multiplyBytes (.ofNat 32 (Curve.order - 1)) (.ofNat 32 2) ∧
    (multiplyBytes (.ofNat 32 (Curve.order - 1)) (.ofNat 32 2) >>= fun c =>
        multiplyBytes (.ofNat 32 (Curve.order - 1)) c) =
      multiplyBytes (.ofNat 32 1) (.ofNat 32 2) ∧
    multiplyBytes (.ofNat 32 (Curve.order - 1)) (.ofNat 32 Curve.order) = .error (.curve .factor) ∧
    multiplyBytes (.ofNat 32 Curve.order) (.ofNat 32 Curve.order) = .error (.curve .secretKey) := by
  obtain ⟨-, hexists, hproduct, -, -, hcomm, hassoc, hsecret, hfactor, -⟩ := multiplyBytes_units
  have hvalue : ∀ n < 256 ^ 32, (FixedBytes.ofNat 32 n).toNat = n := by
    intro n hn
    rw [FixedBytes.toNat_ofNat, Nat.mod_eq_of_lt hn]
  have htwo : InRange (.ofNat 32 2) := by
    rw [InRange, hvalue _ (by decide)]
    decide
  have hlast : InRange (.ofNat 32 (Curve.order - 1)) := by
    rw [InRange, hvalue _ (by decide)]
    decide
  have horder : ¬ InRange (.ofNat 32 Curve.order) := by
    rw [InRange, hvalue _ (by decide)]
    decide
  have hsquare : multiplyBytes (.ofNat 32 (Curve.order - 1)) (.ofNat 32 (Curve.order - 1)) =
      .ok (.ofNat 32 1) := by
    have hone : (Curve.order - 1) * (Curve.order - 1) % Curve.order = 1 := by decide
    obtain ⟨c, hc⟩ := (hexists _ _).mpr ⟨hlast, hlast⟩
    obtain ⟨hbytes, -⟩ := hproduct _ _ _ hc
    rw [hc, hbytes, hvalue _ (by decide), hone]
  refine ⟨htwo, hlast, horder, hsquare, hcomm _ _ htwo hlast, ?_, hfactor _ _ hlast horder,
    hsecret _ _ horder⟩
  rw [← hassoc _ _ _ hlast hlast htwo, hsquare]
  rfl

end CoinKeys.Scalar
