import CoinKeys.Network.Configuration
import CoinKeys.Network.Scope
import CoinKeys.Proofs.Outcome
import CoinKeys.Proofs.Text.Case

/-!
# Networks that can be made

A network is only ever made with a lower-case human-readable part, so among lower-case texts it
claims its own human-readable part and no other one (`hrp_eq_of_claimsHrp`). That holds of networks
that are read from a configuration too, and of the networks of every registry, whatever is
registered and unregistered.
-/

namespace CoinKeys

namespace NetworkParameters

/-- The networks that can be made. -/
inductive Constructed : NetworkParameters → Prop
  | make (id : String) (p2pkh p2sh wif : UInt8) (hrp : Option String) :
    Constructed (.make id p2pkh p2sh wif hrp)

theorem Constructed.isUpper_hrp {network : NetworkParameters} (h : network.Constructed)
    {hrp : String} (hhrp : network.hrp = some hrp) : ∀ c ∈ hrp.toList, c.isUpper = false := by
  cases h with
  | make id p2pkh p2sh wif given =>
    obtain ⟨original, -, rfl⟩ := Option.map_eq_some_iff.mp hhrp
    exact Text.isUpper_of_mem_toLower original

theorem claimsVersion_iff {network : NetworkParameters} {version : UInt8} :
    network.claimsVersion version = true ↔ version = network.p2pkh ∨ version = network.p2sh := by
  simp [claimsVersion]

theorem claimsHrp_iff {network : NetworkParameters} {hrp : String} :
    network.claimsHrp hrp = true ↔ ∃ own, network.hrp = some own ∧ own.toLower = hrp.toLower := by
  simp only [claimsHrp, sameIgnoringCase, Option.any_eq_true, beq_iff_eq]
  rfl

@[simp] theorem claimsHrp_toLower (network : NetworkParameters) (hrp : String) :
    network.claimsHrp hrp.toLower = network.claimsHrp hrp := by
  rw [Bool.eq_iff_iff, claimsHrp_iff, claimsHrp_iff, Text.toLower_toLower]

/-- What is read from a configuration can be made. -/
theorem constructed_of_ofValues? {id p2pkh p2sh wif hrp : Json} {network : NetworkParameters}
    (h : ofValues? id p2pkh p2sh wif hrp = some network) : network.Constructed := by
  simp only [ofValues?, Option.bind_eq_bind, Option.bind_eq_some_iff, Option.pure_def,
    Option.some.injEq] at h
  obtain ⟨id, -, p2pkh, -, p2sh, -, wif, -, hrp, -, rfl⟩ := h
  exact .make id p2pkh p2sh wif hrp

theorem constructed_of_ofJson? {json : Json} {network : NetworkParameters}
    (h : ofJson? json = some network) : network.Constructed := by
  unfold ofJson? at h
  split at h
  · exact constructed_of_ofValues? h
  · exact constructed_of_ofValues? h
  · exact constructed_of_ofValues? h
  · cases h

theorem Constructed.hrp_eq_of_claimsHrp {network : NetworkParameters} (h : network.Constructed)
    {hrp : String} (hlower : ∀ c ∈ hrp.toList, c.isUpper = false)
    (hclaims : network.claimsHrp hrp = true) : network.hrp = some hrp := by
  obtain ⟨own, hown, hsame⟩ := claimsHrp_iff.mp hclaims
  rw [Text.toLower_eq_self (h.isUpper_hrp hown), Text.toLower_eq_self hlower] at hsame
  rw [hown, hsame]

end NetworkParameters

namespace Registry

/-- The registries of networks that can be made. -/
def Constructed (registry : Registry) : Prop :=
  ∀ network ∈ registry.networks, network.Constructed

theorem constructed_empty : empty.Constructed := by
  simp [Constructed, empty]

theorem constructed_defaults : defaults.Constructed := by
  intro network hnetwork
  simp only [defaults, List.mem_cons, List.not_mem_nil, or_false] at hnetwork
  rcases hnetwork with rfl | rfl
  · exact .make _ _ _ _ _
  · exact .make _ _ _ _ _

theorem eq_or_mem_of_mem_place {network other : NetworkParameters}
    {networks : List NetworkParameters} (h : other ∈ place network networks) :
    other = network ∨ other ∈ networks := by
  induction networks with
  | nil => exact .inl (List.mem_singleton.mp h)
  | cons first rest ih =>
    rw [place] at h
    split at h
    · exact List.mem_cons.mp h
    · exact (List.mem_cons.mp h).imp_right (List.mem_cons_of_mem first)
    · rcases List.mem_cons.mp h with rfl | h
      · exact .inr List.mem_cons_self
      · exact (ih h).imp_right (List.mem_cons_of_mem first)

section Changes

variable {registry result : Registry}

theorem Constructed.register (h : registry.Constructed) {network : NetworkParameters}
    (hnetwork : network.Constructed) (hresult : registry.register network = .ok result) :
    result.Constructed := by
  unfold Registry.register at hresult
  split at hresult
  · cases hresult
  · obtain rfl := Except.ok.inj hresult
    intro other hother
    rcases eq_or_mem_of_mem_place hother with rfl | hother
    · exact hnetwork
    · exact h other hother

theorem Constructed.unregister (h : registry.Constructed) (id : String) :
    (registry.unregister id).2.Constructed :=
  fun network hnetwork => h network (List.mem_of_mem_filter hnetwork)

/-- What every registration keeps holds when networks are registered one after the other. -/
theorem foldlM_register_induction {p : Registry → Prop} {networks : List NetworkParameters}
    (hregister : ∀ {before after : Registry}, ∀ network ∈ networks, p before →
      before.register network = .ok after → p after)
    (h : p registry) (hresult : networks.foldlM Registry.register registry = .ok result) :
    p result := by
  induction networks generalizing registry with
  | nil => exact pure_eq_ok_iff.mp hresult ▸ h
  | cons network networks ih =>
    obtain ⟨next, hnext, hresult⟩ := bind_eq_ok_iff.mp hresult
    refine ih (fun other hother => ?_) (hregister network List.mem_cons_self h hnext) hresult
    exact hregister other (List.mem_cons_of_mem _ hother)

theorem constructed_of_ofList {networks : List NetworkParameters}
    (hnetworks : ∀ network ∈ networks, network.Constructed)
    (hresult : ofList networks = .ok result) : result.Constructed := by
  refine foldlM_register_induction (fun network hnetwork h => ?_) constructed_empty hresult
  exact h.register (hnetworks network hnetwork)

end Changes

end Registry

end CoinKeys
