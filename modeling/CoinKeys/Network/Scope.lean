import CoinKeys.Network.Registry

/-!
# Scopes

The leading part of a decoded text must belong to a network. A reader that expects a certain
network accepts nothing else; a reader that expects none takes the first registered network that
claims the leading part.
-/

namespace CoinKeys

/-- Which networks a text may belong to. -/
inductive Scope
  /-- One expected network. -/
  | only (network : NetworkParameters)
  /-- Any network of a registry. -/
  | registered (registry : Registry)

namespace Scope

/-- One expected network, or any network of a registry when none is expected. -/
def ofExpected (registry : Registry) : Option NetworkParameters → Scope
  | some network => .only network
  | none => .registered registry

/-- The first network of a scope that claims a leading part. -/
def find? (scope : Scope) (claims : NetworkParameters → Bool) : Option NetworkParameters :=
  match scope with
  | .only network => if claims network then some network else none
  | .registered registry => registry.networks.find? claims

/-- The network that a leading part belongs to. What is reported when there is none depends on
whether a network was expected. -/
def resolve (scope : Scope) (claims : NetworkParameters → Bool) (foreign : String → ForeignFault)
    (unknown : PrefixFault) : Except Error NetworkParameters :=
  match scope.find? claims, scope with
  | some network, _ => .ok network
  | none, .only network => .error (.wrongNetwork (foreign network.id))
  | none, .registered _ => .error (.invalidPrefix unknown)

/-! ## Registered networks -/

@[simp] theorem find?_registered_claimsVersion (registry : Registry) (version : UInt8) :
    (registered registry).find? (·.claimsVersion version) = registry.resolveVersion version :=
  rfl

@[simp] theorem find?_registered_claimsHrp (registry : Registry) (hrp : String) :
    (registered registry).find? (·.claimsHrp hrp) = registry.resolveHrp hrp :=
  rfl

/-! ## Outcomes -/

theorem resolve_eq_ok_iff {scope : Scope} {claims : NetworkParameters → Bool}
    {foreign : String → ForeignFault} {unknown : PrefixFault} {network : NetworkParameters} :
    scope.resolve claims foreign unknown = .ok network ↔ scope.find? claims = some network := by
  unfold resolve
  cases scope.find? claims <;> cases scope <;> simp

theorem find?_only_eq_some_iff {network owner : NetworkParameters}
    {claims : NetworkParameters → Bool} :
    (only network).find? claims = some owner ↔ claims network = true ∧ owner = network := by
  simp only [find?]
  split
  · next hclaims => simp [hclaims, eq_comm]
  · next hclaims => simp [hclaims]

theorem claims_of_find? {scope : Scope} {network : NetworkParameters}
    {claims : NetworkParameters → Bool} (h : scope.find? claims = some network) :
    claims network = true := by
  cases scope with
  | only own =>
    obtain ⟨hclaims, rfl⟩ := find?_only_eq_some_iff.mp h
    exact hclaims
  | registered registry => exact List.find?_some h

theorem mem_of_find?_ofExpected {registry : Registry} {expected : Option NetworkParameters}
    {network : NetworkParameters} {claims : NetworkParameters → Bool}
    (h : (ofExpected registry expected).find? claims = some network) :
    network ∈ registry.networks ∨ network ∈ expected := by
  cases expected with
  | none => exact .inl (List.mem_of_find?_eq_some h)
  | some own =>
    obtain ⟨-, rfl⟩ := find?_only_eq_some_iff.mp h
    exact .inr rfl

theorem resolve_only_of_not_claims {network : NetworkParameters}
    {claims : NetworkParameters → Bool} {foreign : String → ForeignFault} {unknown : PrefixFault}
    (h : claims network = false) :
    (only network).resolve claims foreign unknown =
      .error (.wrongNetwork (foreign network.id)) := by
  simp [resolve, find?, h]

theorem resolve_registered_ne_wrongNetwork {registry : Registry}
    {claims : NetworkParameters → Bool} {foreign : String → ForeignFault} {unknown : PrefixFault}
    {fault : ForeignFault} :
    (registered registry).resolve claims foreign unknown ≠ .error (.wrongNetwork fault) := by
  unfold resolve
  cases (registered registry).find? claims <;> simp

end Scope

end CoinKeys
