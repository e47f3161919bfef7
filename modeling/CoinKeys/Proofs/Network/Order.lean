import CoinKeys.Network.Parameters
import CoinKeys.Proofs.Text.Offset

/-!
# The order of networks

Networks are compared by the UTF-8 bytes of their ids, as words are in a dictionary. Two texts have
the same bytes only if they are equal, so two networks compare as equal exactly when their ids are.
-/

namespace CoinKeys

theorem Bytes.compare_eq_lt_iff {a b : Bytes} : compare a b = .lt ↔ a < b := by
  induction a generalizing b with
  | nil =>
    cases b with
    | nil => simp
    | cons y b => simp
  | cons x a ih =>
    cases b with
    | nil => simp
    | cons y b =>
      rw [List.compare_cons_cons, Ordering.then_eq_lt, Std.compare_eq_lt, Std.compare_eq_iff_eq, ih,
        List.cons_lt_cons_iff]

namespace NetworkParameters

variable {a b : NetworkParameters}

theorem compare_eq : compare a b = compare (Text.utf8 a.id) (Text.utf8 b.id) := rfl

theorem compare_eq_lt_iff : compare a b = .lt ↔ Text.utf8 a.id < Text.utf8 b.id := by
  rw [compare_eq, Bytes.compare_eq_lt_iff]

theorem compare_eq_gt_iff : compare a b = .gt ↔ Text.utf8 b.id < Text.utf8 a.id := by
  rw [compare_eq, Std.OrientedCmp.gt_iff_lt, Bytes.compare_eq_lt_iff]

theorem compare_eq_eq_iff : compare a b = .eq ↔ a.id = b.id := by
  rw [compare_eq, Std.compare_eq_iff_eq, Text.utf8_inj]

end NetworkParameters

end CoinKeys
