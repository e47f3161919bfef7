import CoinKeys.Proofs.Network.Order
import CoinKeys.Proofs.Network.Parameters

/-!
# Registries that can be reached

A registry is empty at first, or holds the default networks or those of a list, and then changes as
networks are registered and unregistered (`Reachable`).

**Theorem (`effects_of_reachable`).** A registry that is reached is well-formed, a network is
refused exactly when a registered one of another id shares addresses with it, and every change
concerns the entry of one id only.

The invariant `WellFormed` has two parts:

* *order*: the networks are in the strict order of their ids, and
* *distance*: no two of them share addresses.

A network may take the place of the one with its id, but only after it was compared with all others.
Order then makes it the only entry with its id (`mem_place_iff`), and the comparison is what
distance needs; what is removed or refused harms neither.
-/

namespace CoinKeys

/-! ## Networks that share addresses -/

namespace NetworkParameters

/-- Two networks share addresses: they have one human-readable part up to ASCII case, or none and
the same version bytes. -/
def SharesAddresses (a b : NetworkParameters) : Prop :=
  (∃ s t, a.hrp = some s ∧ b.hrp = some t ∧ s.toLower = t.toLower) ∨
    (a.hrp = none ∧ b.hrp = none ∧ a.p2pkh = b.p2pkh ∧ a.p2sh = b.p2sh)

theorem SharesAddresses.symm {a b : NetworkParameters} (h : a.SharesAddresses b) :
    b.SharesAddresses a := by
  rcases h with ⟨s, t, hs, ht, hst⟩ | ⟨ha, hb, hp2pkh, hp2sh⟩
  · exact .inl ⟨t, s, ht, hs, hst.symm⟩
  · exact .inr ⟨hb, ha, hp2pkh.symm, hp2sh.symm⟩

theorem collidesWith_iff {a b : NetworkParameters} :
    a.collidesWith b = true ↔ a.id ≠ b.id ∧ a.SharesAddresses b := by
  have hid : (a != b) = true ↔ a.id ≠ b.id := bne_iff_ne (a := a.id) (b := b.id)
  have hcase : ∀ s t, sameIgnoringCase s t = true ↔ s.toLower = t.toLower := fun s t => beq_iff_eq
  rw [collidesWith, Bool.and_eq_true, hid, SharesAddresses]
  cases a.hrp <;> cases b.hrp <;> simp [hcase]

end NetworkParameters

namespace Registry

variable {registry result : Registry} {network other : NetworkParameters}

/-! ## Networks in the order of their ids -/

/-- The networks are in the strict order of their ids, so no two ids are equal. -/
def Sorted (networks : List NetworkParameters) : Prop :=
  networks.Pairwise fun a b => Text.utf8 a.id < Text.utf8 b.id

theorem Sorted.id_ne {first : NetworkParameters} {rest : List NetworkParameters}
    (h : Sorted (first :: rest)) (hother : other ∈ rest) : other.id ≠ first.id := by
  intro hid
  have hlt := List.rel_of_pairwise_cons h hother
  rw [hid] at hlt
  exact List.lt_irrefl _ hlt

theorem Sorted.cons {first : NetworkParameters} {rest : List NetworkParameters}
    (h : Sorted (first :: rest)) (hlt : Text.utf8 network.id < Text.utf8 first.id) :
    Sorted (network :: first :: rest) := by
  refine List.Pairwise.cons (fun other hother => ?_) h
  rcases List.mem_cons.mp hother with rfl | hother
  · exact hlt
  · exact List.lt_trans hlt (List.rel_of_pairwise_cons h hother)

theorem Sorted.eq_of_id_eq {networks : List NetworkParameters} (h : Sorted networks)
    (hnetwork : network ∈ networks) (hother : other ∈ networks) (hid : network.id = other.id) :
    network = other := by
  induction networks with
  | nil => cases hnetwork
  | cons first rest ih =>
    rcases List.mem_cons.mp hnetwork with rfl | hrest
    · rcases List.mem_cons.mp hother with rfl | hother
      · rfl
      · exact absurd hid.symm (h.id_ne hother)
    · rcases List.mem_cons.mp hother with rfl | hother
      · exact absurd hid (h.id_ne hrest)
      · exact ih h.of_cons hrest hother

/-- The first network with a property is the one with the least id. -/
theorem Sorted.least_of_find? {networks : List NetworkParameters} (h : Sorted networks)
    {p : NetworkParameters → Bool} (hfind : networks.find? p = some network)
    (hother : other ∈ networks) (hp : p other = true) :
    Text.utf8 network.id ≤ Text.utf8 other.id := by
  obtain ⟨-, before, after, rfl, hbefore⟩ := List.find?_eq_some_iff_append.mp hfind
  rcases List.mem_append.mp hother with hother | hother
  · exact absurd hp (by simpa using hbefore other hother)
  · rcases List.mem_cons.mp hother with rfl | hother
    · exact List.le_refl _
    · exact List.le_of_lt (List.rel_of_pairwise_cons (List.pairwise_append.mp h).2.1 hother)

/-- A network takes the place of the one with its id and leaves all others. -/
theorem mem_place_iff {networks : List NetworkParameters} (h : Sorted networks) :
    other ∈ place network networks ↔
      other = network ∨ other ∈ networks ∧ other.id ≠ network.id := by
  induction networks with
  | nil => simp [place]
  | cons first rest ih =>
    rw [place]
    cases hcompare : compare network first with
    | lt =>
      -- The network stands in front of all others, so none of them has its id.
      have hsorted := h.cons (NetworkParameters.compare_eq_lt_iff.mp hcompare)
      rw [List.mem_cons]
      exact or_congr_right (iff_self_and.mpr hsorted.id_ne)
    | eq =>
      -- The first one has its id, and the later ones have other ids than the first.
      have hid := NetworkParameters.compare_eq_eq_iff.mp hcompare
      have hrest : other ∈ rest ↔ other ∈ first :: rest ∧ other.id ≠ network.id := by
        refine ⟨fun hmem => ?_, fun hmem => ?_⟩
        · exact ⟨List.mem_cons_of_mem _ hmem, hid ▸ h.id_ne hmem⟩
        · obtain ⟨hmem, hne⟩ := hmem
          rcases List.mem_cons.mp hmem with rfl | hmem
          · exact absurd hid.symm hne
          · exact hmem
      rw [List.mem_cons, hrest]
    | gt =>
      have hne : first.id ≠ network.id := by
        intro hid
        rw [NetworkParameters.compare_eq_eq_iff.mpr hid.symm] at hcompare
        cases hcompare
      rw [List.mem_cons, ih h.of_cons, List.mem_cons]
      by_cases hfirst : other = first
      · simp [hfirst, hne]
      · simp [hfirst]

theorem Sorted.place {networks : List NetworkParameters} (h : Sorted networks)
    (network : NetworkParameters) : Sorted (place network networks) := by
  induction networks with
  | nil => exact List.pairwise_singleton _ _
  | cons first rest ih =>
    rw [Registry.place]
    cases hcompare : compare network first with
    | lt => exact h.cons (NetworkParameters.compare_eq_lt_iff.mp hcompare)
    | eq =>
      have hid := NetworkParameters.compare_eq_eq_iff.mp hcompare
      refine List.Pairwise.cons (fun entry hentry => ?_) h.of_cons
      rw [hid]
      exact List.rel_of_pairwise_cons h hentry
    | gt =>
      have hgt := NetworkParameters.compare_eq_gt_iff.mp hcompare
      refine List.Pairwise.cons (fun entry hentry => ?_) (ih h.of_cons)
      rcases (mem_place_iff h.of_cons).mp hentry with rfl | ⟨hentry, -⟩
      · exact hgt
      · exact List.rel_of_pairwise_cons h hentry

/-! ## Look-up -/

theorem get?_eq_some_iff (h : Sorted registry.networks) {id : String} :
    registry.get? id = some network ↔ network ∈ registry.networks ∧ network.id = id := by
  have hunique : ∀ a ∈ registry.networks, ∀ b ∈ registry.networks,
      (a.id == id) = true → (b.id == id) = true → a = b := by
    intro a ha b hb hida hidb
    exact h.eq_of_id_eq ha hb ((eq_of_beq hida).trans (eq_of_beq hidb).symm)
  rw [get?, find?_eq_some_iff_of_unique hunique, beq_iff_eq]

theorem get?_eq_none_iff {id : String} :
    registry.get? id = none ↔ ∀ network ∈ registry.networks, network.id ≠ id := by
  simp [get?]

/-! ## The invariant -/

/-- The networks are in the strict order of their ids, and no two of them share addresses. -/
structure WellFormed (registry : Registry) : Prop where
  sorted : Sorted registry.networks
  apart : ∀ a ∈ registry.networks, ∀ b ∈ registry.networks, a.id ≠ b.id → ¬ a.SharesAddresses b

/-- Among the registered networks of other ids that share addresses with a network, the one with the
least id. -/
structure FirstConflict (registry : Registry) (network existing : NetworkParameters) : Prop where
  mem : existing ∈ registry.networks
  id_ne : existing.id ≠ network.id
  shares : existing.SharesAddresses network
  least : ∀ other ∈ registry.networks, other.id ≠ network.id → other.SharesAddresses network →
    Text.utf8 existing.id ≤ Text.utf8 other.id

theorem register_eq_ok_iff :
    registry.register network = .ok result ↔
      (∀ other ∈ registry.networks, other.id ≠ network.id → ¬ other.SharesAddresses network) ∧
        result = ⟨place network registry.networks⟩ := by
  have hnone : registry.networks.find? (·.collidesWith network) = none ↔
      ∀ other ∈ registry.networks, other.id ≠ network.id → ¬ other.SharesAddresses network := by
    simp [List.find?_eq_none, ← NetworkParameters.collidesWith_iff, ← not_and]
  rw [register, ← hnone]
  cases registry.networks.find? (·.collidesWith network) with
  | none => simp [eq_comm]
  | some existing => simp

theorem firstConflict_of_register (h : WellFormed registry) {fault : NetworkError}
    (hfault : registry.register network = .error fault) :
    ∃ existing, registry.FirstConflict network existing ∧
      fault = .conflict network.id existing.id := by
  rw [register] at hfault
  cases hfind : registry.networks.find? (·.collidesWith network) with
  | none =>
    rw [hfind] at hfault
    cases hfault
  | some existing =>
    rw [hfind] at hfault
    have hcollides : existing.collidesWith network = true := by simpa using List.find?_some hfind
    obtain ⟨hid, hshares⟩ := NetworkParameters.collidesWith_iff.mp hcollides
    refine ⟨existing, ⟨List.mem_of_find?_eq_some hfind, hid, hshares, ?_⟩,
      (Except.error.inj hfault).symm⟩
    intro other hother hid hshares
    have hcollides := NetworkParameters.collidesWith_iff.mpr ⟨hid, hshares⟩
    exact h.sorted.least_of_find? hfind hother hcollides

theorem wellFormed_empty : empty.WellFormed where
  sorted := List.Pairwise.nil
  apart := by simp [empty]

theorem wellFormed_defaults : defaults.WellFormed where
  sorted := List.pairwise_pair.mpr (by decide +kernel)
  apart := by
    have hfree : ∀ a ∈ defaults.networks, ∀ b ∈ defaults.networks, a.collidesWith b = false := by
      decide +kernel
    intro a ha b hb hid hshares
    have hcollides := NetworkParameters.collidesWith_iff.mpr ⟨hid, hshares⟩
    rw [hfree a ha b hb] at hcollides
    cases hcollides

theorem mem_of_register (h : registry.WellFormed)
    (hresult : registry.register network = .ok result) :
    other ∈ result.networks ↔
      other = network ∨ other ∈ registry.networks ∧ other.id ≠ network.id := by
  obtain ⟨-, rfl⟩ := register_eq_ok_iff.mp hresult
  exact mem_place_iff h.sorted

theorem mem_unregister {id : String} :
    other ∈ (registry.unregister id).2.networks ↔ other ∈ registry.networks ∧ other.id ≠ id := by
  simp [unregister]

theorem WellFormed.register (h : registry.WellFormed)
    (hresult : registry.register network = .ok result) : result.WellFormed := by
  obtain ⟨hfree, rfl⟩ := register_eq_ok_iff.mp hresult
  -- Of two networks in the result, at most one is new, and that one was compared with the other.
  refine ⟨h.sorted.place network, fun a ha b hb hid => ?_⟩
  rcases (mem_of_register h hresult).mp ha with rfl | ⟨hmema, hida⟩
  · rcases (mem_of_register h hresult).mp hb with rfl | ⟨hmemb, hidb⟩
    · exact absurd rfl hid
    · exact fun hshares => hfree b hmemb hidb hshares.symm
  · rcases (mem_of_register h hresult).mp hb with rfl | ⟨hmemb, -⟩
    · exact hfree a hmema hida
    · exact h.apart a hmema b hmemb hid

theorem WellFormed.unregister (h : registry.WellFormed) (id : String) :
    (registry.unregister id).2.WellFormed where
  sorted := h.sorted.filter _
  apart a ha b hb := h.apart a (List.mem_of_mem_filter ha) b (List.mem_of_mem_filter hb)

/-! ## Changes -/

/-- What may be done to a registry. -/
inductive Change
  | register (network : NetworkParameters)
  | unregister (network : NetworkParameters)

/-- The registry after a change; it stays as it is when a network is refused. -/
def change (registry : Registry) : Change → Registry
  | .register network =>
    match registry.register network with
    | .ok result => result
    | .error _ => registry
  | .unregister network => (registry.unregister network.id).2

/-- The registries that are reached from the initial ones by changes. -/
inductive Reachable : Registry → Prop
  | empty : Reachable empty
  | defaults : Reachable defaults
  | ofList {networks : List NetworkParameters} {registry : Registry}
    (h : ofList networks = .ok registry) : Reachable registry
  | change {registry : Registry} (h : Reachable registry) (change : Change) :
    Reachable (registry.change change)

theorem WellFormed.change (h : registry.WellFormed) (change : Change) :
    (registry.change change).WellFormed := by
  cases change with
  | register network =>
    rw [Registry.change]
    cases hresult : registry.register network with
    | ok result => exact h.register hresult
    | error fault => exact h
  | unregister network => exact h.unregister network.id

theorem Reachable.wellFormed (h : registry.Reachable) : registry.WellFormed := by
  induction h with
  | empty => exact wellFormed_empty
  | defaults => exact wellFormed_defaults
  | ofList h =>
    exact foldlM_register_induction (fun _ _ h => h.register) wellFormed_empty h
  | change _ change ih => exact ih.change change

/-! ## Effects -/

/-- The registry `after` has a given entry or none for one id, and for every other id the entry that
`before` has. -/
structure Updates (before : Registry) (id : String) (entry : Option NetworkParameters)
    (after : Registry) : Prop where
  get?_self : after.get? id = entry
  get?_other : ∀ other, other ≠ id → after.get? other = before.get? other

theorem WellFormed.updates_register (h : registry.WellFormed)
    (hresult : registry.register network = .ok result) :
    registry.Updates network.id (some network) result := by
  have hsorted := (h.register hresult).sorted
  constructor
  · exact (get?_eq_some_iff hsorted).mpr ⟨(mem_of_register h hresult).mpr (.inl rfl), rfl⟩
  · intro id hid
    apply Option.ext
    intro entry
    rw [get?_eq_some_iff hsorted, get?_eq_some_iff h.sorted, mem_of_register h hresult]
    refine and_congr_left fun hentry => ⟨fun hmem => ?_, fun hmem => ?_⟩
    · rcases hmem with rfl | ⟨hmem, -⟩
      · exact absurd hentry.symm hid
      · exact hmem
    · exact .inr ⟨hmem, hentry ▸ hid⟩

theorem WellFormed.updates_unregister (h : registry.WellFormed) (id : String) :
    registry.Updates id none (registry.unregister id).2 := by
  constructor
  · rw [get?_eq_none_iff]
    exact fun network hnetwork => (mem_unregister.mp hnetwork).2
  · intro other hother
    apply Option.ext
    intro entry
    rw [get?_eq_some_iff (h.unregister id).sorted, get?_eq_some_iff h.sorted, mem_unregister]
    refine and_congr_left fun hentry => and_iff_left ?_
    exact hentry ▸ hother

theorem unregister_eq_self {id : String} (h : registry.get? id = none) :
    (registry.unregister id).2 = registry := by
  obtain ⟨networks⟩ := registry
  have hall : ∀ network ∈ networks, (network.id != id) = true := fun network hnetwork =>
    bne_iff_ne.mpr (get?_eq_none_iff.mp h network hnetwork)
  exact congrArg Registry.mk (List.filter_eq_self.mpr hall)

/-- **Every registry that is reached is well-formed, and a change concerns one id only.** A network
is refused exactly when a registered network of another id shares addresses with it; the least such
id is named and nothing changes. Otherwise the network becomes the entry of its id. What is
unregistered is returned and is no entry any more. -/
theorem effects_of_reachable (h : registry.Reachable) :
    registry.WellFormed ∧
    (∀ id entry, registry.get? id = some entry ↔ entry ∈ registry.networks ∧ entry.id = id) ∧
    (∀ network,
      (∃ existing, registry.FirstConflict network existing ∧
        registry.register network = .error (.conflict network.id existing.id) ∧
        registry.change (.register network) = registry) ∨
      ((∀ other ∈ registry.networks, other.id ≠ network.id → ¬ other.SharesAddresses network) ∧
        ∃ result, registry.register network = .ok result ∧
          registry.change (.register network) = result ∧
          registry.Updates network.id (some network) result)) ∧
    ∀ network,
      registry.unregister network.id =
        (registry.get? network.id, registry.change (.unregister network)) ∧
      registry.Updates network.id none (registry.change (.unregister network)) ∧
      (registry.get? network.id = none → registry.change (.unregister network) = registry) := by
  have hform := h.wellFormed
  refine ⟨hform, fun id entry => get?_eq_some_iff hform.sorted, ?_, ?_⟩
  · intro network
    cases hresult : registry.register network with
    | error fault =>
      obtain ⟨existing, hconflict, rfl⟩ := firstConflict_of_register hform hresult
      exact .inl ⟨existing, hconflict, rfl, by rw [Registry.change, hresult]⟩
    | ok result =>
      obtain ⟨hfree, -⟩ := register_eq_ok_iff.mp hresult
      refine .inr ⟨hfree, result, rfl, ?_, hform.updates_register hresult⟩
      rw [Registry.change, hresult]
  · intro network
    exact ⟨rfl, hform.updates_unregister network.id, unregister_eq_self⟩

/-- The local test network is registered beside the default ones, and then a network with the
human-readable part of the production network in upper case is refused. -/
theorem effects_of_reachable_refused :
    defaults.Reachable ∧ (defaults.change (.register .regtest)).Reachable ∧
    defaults.Updates NetworkParameters.regtest.id (some .regtest)
      (defaults.change (.register .regtest)) ∧
    ∃ existing,
      (defaults.change (.register .regtest)).FirstConflict ⟨"clash", 1, 2, 3, some "TC"⟩ existing ∧
      (defaults.change (.register .regtest)).register ⟨"clash", 1, 2, 3, some "TC"⟩ =
        .error (.conflict "clash" existing.id) := by
  obtain ⟨-, -, hregister, -⟩ := effects_of_reachable .defaults
  have hupdates : defaults.Updates NetworkParameters.regtest.id (some .regtest)
      (defaults.change (.register .regtest)) := by
    rcases hregister .regtest with ⟨_, -, herror, -⟩ | ⟨-, result, -, hchange, hupdates⟩
    · have hok : (defaults.register .regtest).toBool = true := by decide +kernel
      rw [herror] at hok
      cases hok
    · rwa [hchange]
  have hreach := Reachable.defaults.change (.register .regtest)
  obtain ⟨-, hkeyed, hregister, -⟩ := effects_of_reachable hreach
  refine ⟨.defaults, hreach, hupdates, ?_⟩
  rcases hregister ⟨"clash", 1, 2, 3, some "TC"⟩ with ⟨existing, hfirst, herror, -⟩ | ⟨hfree, -⟩
  · exact ⟨existing, hfirst, herror⟩
  · have hmain : (defaults.change (.register .regtest)).get? "org.tdcoin.production" =
        some .mainnet := hupdates.get?_other _ (by decide)
    obtain ⟨hmem, -⟩ := (hkeyed _ _).mp hmain
    have hshares : NetworkParameters.mainnet.SharesAddresses ⟨"clash", 1, 2, 3, some "TC"⟩ :=
      .inl ⟨_, _, rfl, rfl, String.toList_inj.mp (by simp)⟩
    exact absurd hshares (hfree _ hmem (by decide))

end Registry

end CoinKeys
