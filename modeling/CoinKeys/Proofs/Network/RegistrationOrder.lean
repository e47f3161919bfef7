import CoinKeys.Proofs.Network.Registry

/-!
# The order of registration

The networks of a list are registered one after the other, and each is compared only with those
before it. When no two ids are equal, nothing is replaced on the way, so in the end every network
was compared with every other one.

**Theorem (`ofList_perm`).** Networks with different ids can be registered exactly when no two of
them share addresses, and then they are the entries of the registry. So a list in another order can
be registered too, or neither can, and both lead to the same answers.

The proof follows the loop (`exists_foldlM_register_iff`, `perm_of_foldlM_register`): what is
registered and what is still to be registered are, put together, the same networks up to their order
before and after each step, and neither `DistinctIds` nor `Apart` depends on the order.
-/

namespace CoinKeys.Registry

variable {registry result : Registry} {network : NetworkParameters}
  {networks others : List NetworkParameters}

/-! ## Lists of networks -/

/-- No two of the networks have the same id. -/
def DistinctIds (networks : List NetworkParameters) : Prop :=
  networks.Pairwise fun a b => a.id ≠ b.id

/-- No two of the networks share addresses. -/
def Apart (networks : List NetworkParameters) : Prop :=
  networks.Pairwise fun a b => ¬ a.SharesAddresses b

theorem distinctIds_congr (h : networks.Perm others) : DistinctIds networks ↔ DistinctIds others :=
  h.pairwise_iff fun hne => hne.symm

theorem apart_congr (h : networks.Perm others) : Apart networks ↔ Apart others :=
  h.pairwise_iff fun hfree hshares => hfree hshares.symm

theorem DistinctIds.id_ne (h : DistinctIds (registry.networks ++ network :: networks)) :
    ∀ other ∈ registry.networks, other.id ≠ network.id := by
  intro other hother
  exact (List.pairwise_append.mp h).2.2 other hother network List.mem_cons_self

/-! ## One registration -/

theorem perm_place (hnew : ∀ other ∈ networks, other.id ≠ network.id) :
    (place network networks).Perm (network :: networks) := by
  induction networks with
  | nil => exact .refl _
  | cons first rest ih =>
    rw [place]
    cases hcompare : compare network first with
    | lt => exact .refl _
    | eq =>
      have hid := NetworkParameters.compare_eq_eq_iff.mp hcompare
      exact absurd hid.symm (hnew first List.mem_cons_self)
    | gt =>
      have hrest := ih fun other hother => hnew other (List.mem_cons_of_mem first hother)
      exact (hrest.cons first).trans (.swap network first rest)

theorem exists_register_iff_of_new (hnew : ∀ other ∈ registry.networks, other.id ≠ network.id) :
    (∃ result, registry.register network = .ok result) ↔
      ∀ other ∈ registry.networks, ¬ other.SharesAddresses network := by
  simp only [register_eq_ok_iff, exists_and_left, exists_eq, and_true]
  refine ⟨fun hfree other hother => ?_, fun hfree other hother _ => ?_⟩
  · exact hfree other hother (hnew other hother)
  · exact hfree other hother

theorem Apart.register (hapart : Apart registry.networks)
    (hnew : ∀ other ∈ registry.networks, other.id ≠ network.id)
    (hresult : registry.register network = .ok result) : Apart result.networks := by
  have hfree := (exists_register_iff_of_new hnew).mp ⟨result, hresult⟩
  obtain ⟨-, rfl⟩ := register_eq_ok_iff.mp hresult
  rw [apart_congr (perm_place hnew)]
  refine hapart.cons fun other hother hshares => ?_
  exact hfree other hother hshares.symm

/-- A registration moves one network from those that are left to the entries. -/
theorem perm_of_register (hids : DistinctIds (registry.networks ++ network :: networks))
    (hresult : registry.register network = .ok result) :
    (result.networks ++ networks).Perm (registry.networks ++ network :: networks) := by
  obtain ⟨-, rfl⟩ := register_eq_ok_iff.mp hresult
  exact ((perm_place hids.id_ne).append_right networks).trans List.perm_middle.symm

/-! ## One registration after the other -/

theorem perm_of_foldlM_register (hids : DistinctIds (registry.networks ++ networks))
    (hresult : networks.foldlM register registry = .ok result) :
    result.networks.Perm (registry.networks ++ networks) := by
  induction networks generalizing registry with
  | nil =>
    obtain rfl := pure_eq_ok_iff.mp hresult
    rw [List.append_nil]
  | cons network networks ih =>
    obtain ⟨next, hnext, hresult⟩ := bind_eq_ok_iff.mp hresult
    have hperm := perm_of_register hids hnext
    exact (ih ((distinctIds_congr hperm).mpr hids) hresult).trans hperm

theorem exists_foldlM_register_iff (hids : DistinctIds (registry.networks ++ networks))
    (hapart : Apart registry.networks) :
    (∃ result, networks.foldlM register registry = .ok result) ↔
      Apart (registry.networks ++ networks) := by
  induction networks generalizing registry with
  | nil =>
    rw [List.append_nil]
    exact iff_of_true ⟨registry, rfl⟩ hapart
  | cons network networks ih =>
    by_cases h : ∃ next, registry.register network = .ok next
    · obtain ⟨next, hnext⟩ := h
      -- The invariant is that the entries and what is left are a permutation of all networks.
      have hperm := perm_of_register hids hnext
      have hloop : (network :: networks).foldlM register registry =
          networks.foldlM register next := by
        rw [List.foldlM_cons, hnext]
        rfl
      rw [hloop, ← apart_congr hperm]
      exact ih ((distinctIds_congr hperm).mpr hids) (hapart.register hids.id_ne hnext)
    · -- The loop stops here, because the network shares addresses with an entry.
      refine iff_of_false ?_ ?_
      · intro ⟨result, hresult⟩
        obtain ⟨next, hnext, -⟩ := bind_eq_ok_iff.mp hresult
        exact h ⟨next, hnext⟩
      · intro hall
        refine h ((exists_register_iff_of_new hids.id_ne).mpr fun other hother => ?_)
        exact (List.pairwise_append.mp hall).2.2 other hother network List.mem_cons_self

theorem exists_ofList_iff (hids : DistinctIds networks) :
    (∃ registry, ofList networks = .ok registry) ↔ Apart networks :=
  exists_foldlM_register_iff hids List.Pairwise.nil

theorem perm_of_ofList (hids : DistinctIds networks) (hresult : ofList networks = .ok registry) :
    registry.networks.Perm networks := by
  have hstart : DistinctIds (empty.networks ++ networks) := hids
  exact perm_of_foldlM_register hstart hresult

/-! ## Another order -/

theorem Sorted.eq_of_perm (h : Sorted networks) (hothers : Sorted others)
    (hperm : networks.Perm others) : networks = others := by
  refine List.Perm.eq_of_pairwise (fun a b _ _ hab hba => ?_) h hothers hperm
  exact absurd (List.lt_trans hab hba) (List.lt_irrefl _)

/-- The registries have the same entries and give the same answers. -/
structure SameAnswers (a b : Registry) : Prop where
  networks : a.networks = b.networks
  get? : ∀ id, a.get? id = b.get? id
  resolveVersion : ∀ version, a.resolveVersion version = b.resolveVersion version
  resolveHrp : ∀ hrp, a.resolveHrp hrp = b.resolveHrp hrp

theorem sameAnswers_of_perm (h : registry.WellFormed) (hresult : result.WellFormed)
    (hperm : registry.networks.Perm result.networks) : registry.SameAnswers result := by
  have hnetworks := h.sorted.eq_of_perm hresult.sorted hperm
  obtain ⟨networks⟩ := registry
  obtain rfl : networks = result.networks := hnetworks
  exact ⟨rfl, fun _ => rfl, fun _ => rfl, fun _ => rfl⟩

/-- **The order of registration does not matter.** Networks with different ids are registered
exactly when no two of them share addresses. In another order they are registered too, or neither
are, and both registries hold the same networks and give the same answers. -/
theorem ofList_perm (hids : DistinctIds networks) (hperm : networks.Perm others) :
    ((∃ registry, ofList networks = .ok registry) ↔ Apart networks) ∧
    ((∃ registry, ofList networks = .ok registry) ↔ ∃ registry, ofList others = .ok registry) ∧
    ∀ a b, ofList networks = .ok a → ofList others = .ok b →
      a.SameAnswers b ∧ Sorted a.networks ∧ a.networks.Perm networks := by
  have hothers : DistinctIds others := (distinctIds_congr hperm).mp hids
  refine ⟨exists_ofList_iff hids, ?_, fun a b ha hb => ?_⟩
  · rw [exists_ofList_iff hids, exists_ofList_iff hothers, apart_congr hperm]
  · have hforma := (Reachable.ofList ha).wellFormed
    have hformb := (Reachable.ofList hb).wellFormed
    have hentries := perm_of_ofList hids ha
    have hsame : a.networks.Perm b.networks :=
      (hentries.trans hperm).trans (perm_of_ofList hothers hb).symm
    exact ⟨sameAnswers_of_perm hforma hformb hsame, hforma.sorted, hentries⟩

/-- Three networks with two orders, and two networks whose human-readable parts differ in case. -/
theorem ofList_perm_regtest :
    DistinctIds [.mainnet, .testnet, .regtest] ∧
    [NetworkParameters.mainnet, .testnet, .regtest].Perm [.regtest, .mainnet, .testnet] ∧
    (∃ a b, ofList [.mainnet, .testnet, .regtest] = .ok a ∧
      ofList [.regtest, .mainnet, .testnet] = .ok b ∧ a.SameAnswers b) ∧
    DistinctIds [.mainnet, ⟨"clash", 1, 2, 3, some "TC"⟩] ∧
    (¬ ∃ registry, ofList [.mainnet, ⟨"clash", 1, 2, 3, some "TC"⟩] = .ok registry) ∧
    ¬ ∃ registry, ofList [⟨"clash", 1, 2, 3, some "TC"⟩, .mainnet] = .ok registry := by
  have hids : DistinctIds [.mainnet, .testnet, .regtest] := by
    simp [DistinctIds, NetworkParameters.mainnet, NetworkParameters.testnet,
      NetworkParameters.regtest, NetworkParameters.make]
  have hperm :
      [NetworkParameters.mainnet, .testnet, .regtest].Perm [.regtest, .mainnet, .testnet] :=
    ((List.Perm.swap _ _ []).cons _).trans (.swap _ _ _)
  obtain ⟨-, hboth, hsame⟩ := ofList_perm hids hperm
  have hclash : DistinctIds [.mainnet, ⟨"clash", 1, 2, 3, some "TC"⟩] := by
    simp [DistinctIds, NetworkParameters.mainnet, NetworkParameters.make]
  obtain ⟨hfree, hneither, -⟩ := ofList_perm hclash (.swap _ _ [])
  have hrefused : ¬ Apart [.mainnet, ⟨"clash", 1, 2, 3, some "TC"⟩] := by
    intro hapart
    have hshares : NetworkParameters.mainnet.SharesAddresses ⟨"clash", 1, 2, 3, some "TC"⟩ :=
      .inl ⟨_, _, rfl, rfl, String.toList_inj.mp (by simp)⟩
    exact List.rel_of_pairwise_cons hapart (List.mem_singleton_self _) hshares
  refine ⟨hids, hperm, ?_, hclash, fun h => hrefused (hfree.mp h), ?_⟩
  · have hok : (ofList [.mainnet, .testnet, .regtest]).toBool = true := by decide +kernel
    cases ha : ofList [.mainnet, .testnet, .regtest] with
    | error fault =>
      rw [ha] at hok
      cases hok
    | ok a =>
      obtain ⟨b, hb⟩ := hboth.mp ⟨a, ha⟩
      exact ⟨a, b, rfl, hb, (hsame a b ha hb).1⟩
  · exact fun h => hrefused (hfree.mp (hneither.mpr h))

end CoinKeys.Registry
