import CoinKeys.Address.Basic
import CoinKeys.Proofs.Network.Order
import Mathlib.Data.List.Pairwise

/-!
# The order of addresses

The order, the equality and the hash of addresses are three definitions: the order is that of the
networks, then of the kinds, then of the two kinds each for itself, and equality and hash go by the
fields. They agree all the same, because an address is its id, its kind and its bytes as far as any
of them can tell (`compare_eq_compareByParts`, `beq_iff_parts`).

**Theorem (`compare_total_order`).** Addresses are compared by the UTF-8 bytes of the ids, then
legacy before segwit, then by version and hash or program byte by byte. This is a total order in
which two addresses have the same place exactly when they are equal, and equal addresses have equal
hashes. So addresses of which no two are equal are sorted into one list, in whatever order they
come.
-/

namespace CoinKeys

/-! ## Addresses of one kind -/

theorem LegacyAddress.compare_eq_then (a b : LegacyAddress) :
    compare a b =
      (compare a.network b.network).then
        (compare (a.version :: a.hash.toList) (b.version :: b.hash.toList)) := by
  obtain ⟨network, version, hash⟩ := a
  obtain ⟨network', version', hash'⟩ := b
  show (compare network network').then ((compare version version').then
    ((compare hash.toList hash'.toList).then .eq)) = _
  rw [List.compare_cons_cons, Ordering.then_eq]

theorem SegwitAddress.compare_eq_then (a b : SegwitAddress) :
    compare a b =
      (compare a.network b.network).then
        (compare (a.witnessVersion :: a.program) (b.witnessVersion :: b.program)) := by
  obtain ⟨network, version, program⟩ := a
  obtain ⟨network', version', program'⟩ := b
  show (compare network network').then ((compare version version').then
    ((compare program program').then .eq)) = _
  rw [List.compare_cons_cons, Ordering.then_eq]

namespace Address

/-! ## The parts of an address -/

/-- Zero for legacy addresses and one for segwit addresses. -/
def kind : Address → Nat
  | legacy _ => 0
  | segwit _ => 1

/-- Version and hash, or witness version and program. -/
def rawBytes : Address → Bytes
  | legacy address => address.version :: address.hash.toList
  | segwit address => address.witnessVersion :: address.program

/-- Compare the UTF-8 bytes of the ids, then the kinds, then the bytes. -/
def compareByParts : Address → Address → Ordering :=
  compareLex (compareOn fun address => Text.utf8 address.network.id)
    (compareLex (compareOn kind) (compareOn rawBytes))

/-- What comes first in the order of networks needs no second look. -/
theorem then_then_self {o p : Ordering} : o.then (o.then p) = o.then p := by
  cases o <;> rfl

theorem compare_eq_compareByParts (a b : Address) : compare a b = compareByParts a b := by
  show (compare a.network b.network).then (compareOnNetwork a b) =
    (compare a.network b.network).then
      ((compare a.kind b.kind).then (compare a.rawBytes b.rawBytes))
  cases a with
  | legacy a =>
    cases b with
    | legacy b =>
      show _ = (compare a.network b.network).then
        (compare (a.version :: a.hash.toList) (b.version :: b.hash.toList))
      rw [compareOnNetwork, LegacyAddress.compare_eq_then]
      exact then_then_self
    | segwit b => rfl
  | segwit a =>
    cases b with
    | legacy b => rfl
    | segwit b =>
      show _ = (compare a.network b.network).then
        (compare (a.witnessVersion :: a.program) (b.witnessVersion :: b.program))
      rw [compareOnNetwork, SegwitAddress.compare_eq_then]
      exact then_then_self

theorem beq_iff_parts (a b : Address) :
    (a == b) = true ↔
      a.network.id = b.network.id ∧ a.kind = b.kind ∧ a.rawBytes = b.rawBytes := by
  cases a with
  | legacy a =>
    cases b with
    | legacy b =>
      obtain ⟨network, version, hash⟩ := a
      obtain ⟨network', version', hash'⟩ := b
      have hhash : hash.toList = hash'.toList ↔ hash = hash' :=
        ⟨FixedBytes.ext, congrArg FixedBytes.toList⟩
      show (network.id == network'.id && (version == version' && hash == hash')) = true ↔ _
      simp [Address.network, kind, rawBytes, hhash]
    | segwit b =>
      -- The kinds differ, so neither side holds.
      refine ⟨fun h => ?_, fun h => ?_⟩
      · cases h
      · cases h.2.1
  | segwit a =>
    cases b with
    | legacy b =>
      refine ⟨fun h => ?_, fun h => ?_⟩
      · cases h
      · cases h.2.1
    | segwit b =>
      obtain ⟨network, version, program⟩ := a
      obtain ⟨network', version', program'⟩ := b
      show (network.id == network'.id && (version == version' && program == program')) = true ↔ _
      simp [Address.network, kind, rawBytes]

theorem hash_eq_of_beq {a b : Address} (h : (a == b) = true) : hash a = hash b := by
  obtain ⟨hid, hkind, hbytes⟩ := (beq_iff_parts a b).mp h
  cases a with
  | legacy a =>
    cases b with
    | legacy b =>
      obtain ⟨hversion, hdigest⟩ := List.cons.inj hbytes
      show mixHash 0 (mixHash (mixHash (mixHash 0 (hash a.network.id)) (hash a.version))
        (hash a.hash.toList)) = _
      rw [hversion, hdigest, show a.network.id = b.network.id from hid]
      rfl
    | segwit b => cases hkind
  | segwit a =>
    cases b with
    | legacy b => cases hkind
    | segwit b =>
      obtain ⟨hversion, hprogram⟩ := List.cons.inj hbytes
      show mixHash 1 (mixHash (mixHash (mixHash 0 (hash a.network.id)) (hash a.witnessVersion))
        (hash a.program)) = _
      rw [hversion, hprogram, show a.network.id = b.network.id from hid]
      rfl

/-! ## A total order -/

instance : Std.TransCmp compareByParts :=
  inferInstanceAs (Std.TransCmp (compareLex _ (compareLex _ _)))

instance : Std.TransOrd Address := by
  have hparts : (compare : Address → Address → Ordering) = compareByParts :=
    funext fun a => funext fun b => compare_eq_compareByParts a b
  rw [Std.TransOrd, hparts]
  infer_instance

theorem compare_eq_eq_iff_beq (a b : Address) : compare a b = .eq ↔ (a == b) = true := by
  rw [compare_eq_compareByParts, beq_iff_parts, compareByParts]
  simp [compareLex_eq_eq, compareOn, Text.utf8_inj]

theorem isLE_total (a b : Address) : (compare a b).isLE ∨ (compare b a).isLE := by
  have hswap : compare b a = (compare a b).swap := Std.OrientedCmp.eq_swap
  rw [hswap]
  cases compare a b <;> simp

theorem beq_of_isLE {a b : Address} (hab : (compare a b).isLE) (hba : (compare b a).isLE) :
    (a == b) = true :=
  (compare_eq_eq_iff_beq a b).mp (Std.OrientedCmp.isLE_antisymm hab hba)

/-! ## Sorting -/

variable {addresses others : List Address}

theorem perm_sort (addresses : List Address) : (sort addresses).Perm addresses :=
  List.mergeSort_perm addresses _

theorem pairwise_sort (addresses : List Address) :
    (sort addresses).Pairwise fun a b => (compare a b).isLE := by
  apply List.pairwise_mergeSort
  · intro a b c hab hbc
    exact Std.TransCmp.isLE_trans hab hbc
  · intro a b
    rw [Bool.or_eq_true]
    exact isLE_total a b

theorem eq_of_beq_of_pairwise (h : addresses.Pairwise fun a b => (a == b) = false) {a b : Address}
    (ha : a ∈ addresses) (hb : b ∈ addresses) (hbeq : (a == b) = true) : a = b := by
  have hsymm : Std.Symm fun a b : Address => (a == b) = false := by
    refine ⟨fun a b hab => ?_⟩
    rw [← Bool.not_eq_true, ← compare_eq_eq_iff_beq] at hab ⊢
    exact fun hba => hab (Std.OrientedCmp.eq_symm hba)
  by_contra hne
  rw [h.forall ha hb hne] at hbeq
  cases hbeq

theorem sort_eq_of_perm (h : addresses.Pairwise fun a b => (a == b) = false)
    (hperm : addresses.Perm others) : sort addresses = sort others := by
  have hsorts : (sort addresses).Perm (sort others) :=
    ((perm_sort addresses).trans hperm).trans (perm_sort others).symm
  refine List.Perm.eq_of_pairwise (fun a b ha hb hab hba => ?_) (pairwise_sort addresses)
    (pairwise_sort others) hsorts
  have hmema : a ∈ addresses := (perm_sort addresses).mem_iff.mp ha
  have hmemb : b ∈ addresses := hperm.mem_iff.mpr ((perm_sort others).mem_iff.mp hb)
  exact eq_of_beq_of_pairwise h hmema hmemb (beq_of_isLE hab hba)

/-- **Addresses are totally ordered by their parts, and the order is that of equality.** Equal
addresses have equal hashes, and addresses of which no two are equal are sorted into one list. -/
theorem compare_total_order :
    (∀ a b : Address, compare a b = compareByParts a b) ∧
    (∀ a b : Address, compare b a = (compare a b).swap) ∧
    (∀ a b : Address, (compare a b).isLE → (compare b a).isLE → (a == b) = true) ∧
    (∀ a b c : Address, (compare a b).isLE → (compare b c).isLE → (compare a c).isLE) ∧
    (∀ a b : Address, (compare a b).isLE ∨ (compare b a).isLE) ∧
    (∀ a b : Address, compare a b = .eq ↔ (a == b) = true) ∧
    (∀ a b : Address, (a == b) = true → hash a = hash b) ∧
    (∀ addresses, (sort addresses).Perm addresses ∧
      (sort addresses).Pairwise fun a b => (compare a b).isLE) ∧
    ∀ addresses others, (addresses.Pairwise fun a b => (a == b) = false) →
      addresses.Perm others → sort addresses = sort others := by
  refine ⟨compare_eq_compareByParts, fun a b => Std.OrientedCmp.eq_swap, ?_, ?_, isLE_total,
    compare_eq_eq_iff_beq, ?_, ?_, ?_⟩
  · intro a b hab hba
    exact beq_of_isLE hab hba
  · intro a b c hab hbc
    exact Std.TransCmp.isLE_trans hab hbc
  · intro a b h
    exact hash_eq_of_beq h
  · intro addresses
    exact ⟨perm_sort addresses, pairwise_sort addresses⟩
  · intro addresses others h hperm
    exact sort_eq_of_perm h hperm

/-- A program, a longer one that starts with it, a legacy address on a network with a larger id, and
the first program on a network that differs from the production network in all but its id. -/
theorem compare_total_order_prefix : ∃ a b c d : Address,
    a = .segwit ⟨.mainnet, 1, [7, 7]⟩ ∧ b = .segwit ⟨.mainnet, 1, [7, 7, 0]⟩ ∧
    c = .legacy ⟨.make "ö" 1 2 3 none, 1, .ofNat 20 0⟩ ∧
    d = .segwit ⟨.make "org.tdcoin.production" 1 2 3 none, 1, [7, 7]⟩ ∧
    ((compare a b).isLE ∧ (compare b c).isLE ∧ (compare a c).isLE) ∧
    ((compare a d).isLE ∧ (compare d a).isLE ∧ (a == d) = true ∧ hash a = hash d) ∧
    ([a, b, c].Pairwise fun a b => (a == b) = false) ∧ [a, b, c].Perm [b, c, a] ∧
    sort [a, b, c] = sort [b, c, a] := by
  obtain ⟨-, -, hantisymm, htrans, -, -, hhash, -, hsort⟩ := compare_total_order
  have hab : (compare (Address.segwit ⟨.mainnet, 1, [7, 7]⟩)
      (.segwit ⟨.mainnet, 1, [7, 7, 0]⟩)).isLE := by decide +kernel
  have hbc : (compare (Address.segwit ⟨.mainnet, 1, [7, 7, 0]⟩)
      (.legacy ⟨.make "ö" 1 2 3 none, 1, .ofNat 20 0⟩)).isLE := by decide +kernel
  have had : (compare (Address.segwit ⟨.mainnet, 1, [7, 7]⟩)
      (.segwit ⟨.make "org.tdcoin.production" 1 2 3 none, 1, [7, 7]⟩)).isLE := by decide +kernel
  have hda : (compare (Address.segwit ⟨.make "org.tdcoin.production" 1 2 3 none, 1, [7, 7]⟩)
      (.segwit ⟨.mainnet, 1, [7, 7]⟩)).isLE := by decide +kernel
  have hne : [Address.segwit ⟨.mainnet, 1, [7, 7]⟩, .segwit ⟨.mainnet, 1, [7, 7, 0]⟩,
      .legacy ⟨.make "ö" 1 2 3 none, 1, .ofNat 20 0⟩].Pairwise fun a b => (a == b) = false := by
    decide +kernel
  have hperm := (List.perm_append_comm : ([Address.segwit ⟨.mainnet, 1, [7, 7]⟩] ++ _).Perm
    ([.segwit ⟨.mainnet, 1, [7, 7, 0]⟩, .legacy ⟨.make "ö" 1 2 3 none, 1, .ofNat 20 0⟩] ++ _))
  have hequal := hantisymm _ _ had hda
  exact ⟨_, _, _, _, rfl, rfl, rfl, rfl, ⟨hab, hbc, htrans _ _ _ hab hbc⟩,
    ⟨had, hda, hequal, hhash _ _ hequal⟩, hne, hperm, hsort _ _ hne hperm⟩

end Address

end CoinKeys
