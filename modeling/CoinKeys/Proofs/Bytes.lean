import CoinKeys.Bytes
import CoinKeys.Proofs.Numeral

/-!
# Laws of byte strings

A byte string is a base 256 numeral, so a string of length `n` and a number below `256 ^ n` stand
for each other (`FixedBytes.ofNat_toNat`, `FixedBytes.toNat_ofNat`). Slices and `append` undo each
other, and adding the same string twice changes nothing.
-/

namespace CoinKeys

/-- What holds of the bytes of all numbers below 256 holds of every byte. This makes a fact about
all bytes one that `decide` can check. -/
theorem forall_byte {p : UInt8 → Prop} (h : ∀ n < 256, p (UInt8.ofNat n)) (b : UInt8) : p b := by
  have hb := h b.toNat b.toNat_lt
  rwa [UInt8.ofNat_toNat] at hb

/-! ## Runs -/

theorem length_of_mem_runsOf {α : Type} {size count : Nat} {elements run : List α}
    (henough : count * size ≤ elements.length) (h : run ∈ runsOf size count elements) :
    run.length = size := by
  induction count generalizing elements with
  | zero => cases h
  | succ count ih =>
    rw [Nat.succ_mul] at henough
    rcases List.mem_cons.mp h with rfl | hrest
    · rw [List.length_take]
      omega
    · refine ih ?_ hrest
      rw [List.length_drop]
      omega

@[simp] theorem length_runsOf {α : Type} (size count : Nat) (elements : List α) :
    (runsOf size count elements).length = count := by
  induction count generalizing elements with
  | zero => rfl
  | succ count ih => rw [runsOf, List.length_cons, ih]

theorem length_chunks {α : Type} (size : Nat) (elements : List α) :
    (chunks size elements).length = elements.length / size :=
  length_runsOf size _ elements

theorem length_of_mem_chunks {α : Type} {size : Nat} {elements run : List α}
    (h : run ∈ chunks size elements) : run.length = size :=
  length_of_mem_runsOf (Nat.div_mul_le_self elements.length size) h

/-! ## Bytes and digits -/

namespace Bytes

theorem lt_of_mem_map_toNat {bytes : Bytes} {d : Nat} (h : d ∈ bytes.map UInt8.toNat) :
    d < 256 := by
  obtain ⟨b, -, rfl⟩ := List.mem_map.mp h
  exact b.toNat_lt

@[simp] theorem map_ofNat_map_toNat (bytes : Bytes) :
    (bytes.map UInt8.toNat).map UInt8.ofNat = bytes := by
  simp [Function.comp_def]

theorem map_toNat_map_ofNat {numeral : List Nat} (h : ∀ d ∈ numeral, d < 256) :
    (numeral.map UInt8.ofNat).map UInt8.toNat = numeral := by
  rw [List.map_map]
  refine (List.map_congr_left fun d hd => ?_).trans (List.map_id numeral)
  exact UInt8.toNat_ofNat_of_lt' (h d hd)

theorem toNat_cons (b : UInt8) (bytes : Bytes) :
    toNat (b :: bytes) = b.toNat * 256 ^ bytes.length + toNat bytes := by
  simp [toNat, Positional.value_cons]

theorem toNat_append (a b : Bytes) : toNat (a ++ b) = toNat a * 256 ^ b.length + toNat b := by
  simp [toNat, Positional.value_append]

theorem toNat_lt (bytes : Bytes) : toNat bytes < 256 ^ bytes.length := by
  have hd : ∀ d ∈ bytes.map UInt8.toNat, d < 256 := fun d => lt_of_mem_map_toNat
  have h := Positional.value_lt (by decide) hd
  rwa [List.length_map] at h

theorem zipWith_xor_cancel {a b : Bytes} (h : b.length = a.length) :
    List.zipWith (· ^^^ ·) (List.zipWith (· ^^^ ·) a b) b = a := by
  induction a generalizing b with
  | nil => rfl
  | cons x a ih =>
    cases b with
    | nil => simp at h
    | cons y b =>
      simp only [List.zipWith_cons_cons, ih (by simpa using h), UInt8.xor_assoc, UInt8.xor_self,
        UInt8.xor_zero]

end Bytes

/-! ## Strings of a fixed length -/

namespace FixedBytes

variable {m n : Nat}

@[simp] theorem xor_xor_cancel (a b : FixedBytes n) : (a.xor b).xor b = a := by
  apply FixedBytes.ext
  rw [toList_xor, toList_xor]
  exact Bytes.zipWith_xor_cancel (by simp)

theorem ofList?_eq_some_iff {bytes : Bytes} {a : FixedBytes n} :
    ofList? bytes = some a ↔ bytes = a.toList := by
  refine ⟨fun h => ?_, fun h => ?_⟩
  · unfold ofList? at h
    split at h
    · rw [← Option.some.inj h]
    · cases h
  · obtain rfl := h
    exact ofList?_toList a

/-! ### Slices -/

theorem slice_append_left (a : FixedBytes m) (b : FixedBytes n) :
    (a.append b).slice 0 m (by omega) = a := by
  apply FixedBytes.ext
  simp

theorem slice_append_right (a : FixedBytes m) (b : FixedBytes n) :
    (a.append b).slice m n (by omega) = b := by
  apply FixedBytes.ext
  simp

theorem append_slice (a : FixedBytes (m + n)) :
    (a.slice 0 m (by omega)).append (a.slice m n (by omega)) = a := by
  apply FixedBytes.ext
  rw [toList_append, toList_slice, toList_slice, List.drop_zero,
    List.take_of_length_le (i := n) (by simp), List.take_append_drop]

theorem append_eq_iff {a : FixedBytes m} {b : FixedBytes n} {c : FixedBytes (m + n)} :
    a.append b = c ↔ a = c.slice 0 m (by omega) ∧ b = c.slice m n (by omega) := by
  refine ⟨fun h => ?_, fun h => ?_⟩
  · obtain rfl := h
    exact ⟨(slice_append_left a b).symm, (slice_append_right a b).symm⟩
  · obtain ⟨rfl, rfl⟩ := h
    exact append_slice c

/-! ### Fields -/

theorem drop_eq_byte_cons (a : FixedBytes n) (i : Nat) (within : i < n) :
    a.toList.drop i = a.byte i within :: a.toList.drop (i + 1) :=
  List.drop_eq_getElem_cons _

theorem drop_eq_slice_append (a : FixedBytes n) (start count : Nat) (within : start + count ≤ n) :
    a.toList.drop start = (a.slice start count within).toList ++ a.toList.drop (start + count) := by
  rw [toList_slice, ← List.drop_drop, List.take_append_drop]

/-! ### Numbers -/

theorem toList_ofNat (n value : Nat) :
    (ofNat n value).toList = (Positional.fixedDigits 256 n value).map UInt8.ofNat := rfl

theorem toNat_ofNat (n value : Nat) : (ofNat n value).toNat = value % 256 ^ n := by
  have hd : ∀ d ∈ Positional.fixedDigits 256 n value, d < 256 :=
    fun d => Positional.lt_of_mem_fixedDigits (by decide)
  rw [toNat, Bytes.toNat, toList_ofNat, Bytes.map_toNat_map_ofNat hd, Positional.value_fixedDigits]

@[simp] theorem ofNat_toNat (a : FixedBytes n) : ofNat n a.toNat = a := by
  apply FixedBytes.ext
  have hd : ∀ d ∈ a.toList.map UInt8.toNat, d < 256 := fun d => Bytes.lt_of_mem_map_toNat
  have hvalue := Positional.fixedDigits_value (by decide) hd
  rw [List.length_map, length_toList] at hvalue
  rw [toList_ofNat, toNat, Bytes.toNat, hvalue, Bytes.map_ofNat_map_toNat]

end FixedBytes

end CoinKeys
