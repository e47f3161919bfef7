import CoinKeys.Address.Segwit
import CoinKeys.Proofs.Network.Registry

/-!
# Resolving human-readable parts

The first network that claims a human-readable part is the only one, because two that claim it would
share addresses. So the answer does not depend on the order of the networks, and a change of the
registry shows in it only where the changed entry claims the human-readable part.

**Theorem (`resolveHrp_of_reachable`).** A network that is registered is the answer wherever it
claims the human-readable part. Everywhere else the answer is what it was, unless it was the entry
that was replaced or unregistered; then there is none. A segwit text that was resolved before a
network with a new id is registered is read as before.
-/

namespace CoinKeys

theorem SegwitAddress.decode_registered_congr {registry other : Registry} {text hrp : String}
    {values : List UInt8} (hread : Bech32.decode text = .ok (hrp, values))
    (h : registry.resolveHrp hrp = other.resolveHrp hrp) :
    decode (.registered registry) text = decode (.registered other) text := by
  have hresolve : Scope.resolve (.registered registry) (·.claimsHrp hrp) (.hrp hrp)
      (.unknownHrp hrp) = Scope.resolve (.registered other) (·.claimsHrp hrp) (.hrp hrp)
      (.unknownHrp hrp) := by
    unfold Scope.resolve
    rw [Scope.find?_registered_claimsHrp, Scope.find?_registered_claimsHrp, h]
    cases other.resolveHrp hrp <;> rfl
  simp only [decode, hread, bind, Except.bind, hresolve]

theorem NetworkParameters.sharesAddresses_of_claimsHrp {a b : NetworkParameters} {hrp : String}
    (ha : a.claimsHrp hrp = true) (hb : b.claimsHrp hrp = true) : a.SharesAddresses b := by
  obtain ⟨s, hs, hsame⟩ := claimsHrp_iff.mp ha
  obtain ⟨t, ht, htsame⟩ := claimsHrp_iff.mp hb
  exact .inl ⟨s, t, hs, ht, hsame.trans htsame.symm⟩

namespace Registry

variable {registry result : Registry} {network : NetworkParameters} {hrp : String}

theorem WellFormed.eq_of_claimsHrp (h : registry.WellFormed) {a b : NetworkParameters}
    (ha : a ∈ registry.networks) (hb : b ∈ registry.networks) (hclaima : a.claimsHrp hrp = true)
    (hclaimb : b.claimsHrp hrp = true) : a = b := by
  by_cases hid : a.id = b.id
  · exact h.sorted.eq_of_id_eq ha hb hid
  · have hshares := NetworkParameters.sharesAddresses_of_claimsHrp hclaima hclaimb
    exact absurd hshares (h.apart a ha b hb hid)

theorem WellFormed.resolveHrp_eq_some_iff (h : registry.WellFormed) :
    registry.resolveHrp hrp = some network ↔
      network ∈ registry.networks ∧ network.claimsHrp hrp = true := by
  apply find?_eq_some_iff_of_unique
  intro a ha b hb hclaima hclaimb
  exact h.eq_of_claimsHrp ha hb hclaima hclaimb

theorem WellFormed.resolveHrp_register (h : registry.WellFormed)
    (hresult : registry.register network = .ok result) (hrp : String) :
    result.resolveHrp hrp =
      if network.claimsHrp hrp then some network
      else (registry.resolveHrp hrp).filter (·.id != network.id) := by
  have hform := h.register hresult
  -- The result is well-formed, so its answer is known as soon as one of its networks claims.
  by_cases hclaims : network.claimsHrp hrp = true
  · rw [if_pos hclaims, hform.resolveHrp_eq_some_iff]
    exact ⟨(mem_of_register h hresult).mpr (.inl rfl), hclaims⟩
  · rw [if_neg hclaims]
    apply Option.ext
    intro entry
    rw [hform.resolveHrp_eq_some_iff, Option.filter_eq_some_iff, h.resolveHrp_eq_some_iff,
      mem_of_register h hresult, bne_iff_ne]
    refine ⟨fun hentry => ?_, fun hentry => ?_⟩
    · obtain ⟨rfl | ⟨hmem, hid⟩, hentry⟩ := hentry
      · exact absurd hentry hclaims
      · exact ⟨⟨hmem, hentry⟩, hid⟩
    · obtain ⟨⟨hmem, hentry⟩, hid⟩ := hentry
      exact ⟨.inr ⟨hmem, hid⟩, hentry⟩

theorem WellFormed.resolveHrp_unregister (h : registry.WellFormed) (id hrp : String) :
    (registry.unregister id).2.resolveHrp hrp = (registry.resolveHrp hrp).filter (·.id != id) := by
  apply Option.ext
  intro entry
  rw [(h.unregister id).resolveHrp_eq_some_iff, Option.filter_eq_some_iff,
    h.resolveHrp_eq_some_iff, mem_unregister, bne_iff_ne, and_right_comm]

theorem WellFormed.resolveHrp_register_of_new (h : registry.WellFormed)
    (hresult : registry.register network = .ok result) (hnew : registry.get? network.id = none)
    (hknown : (registry.resolveHrp hrp).isSome) :
    result.resolveHrp hrp = registry.resolveHrp hrp := by
  obtain ⟨owner, howner⟩ := Option.isSome_iff_exists.mp hknown
  obtain ⟨hmem, hclaims⟩ := h.resolveHrp_eq_some_iff.mp howner
  have hid : owner.id ≠ network.id := get?_eq_none_iff.mp hnew owner hmem
  rw [howner, (h.register hresult).resolveHrp_eq_some_iff, mem_of_register h hresult]
  exact ⟨.inr ⟨hmem, hid⟩, hclaims⟩

/-- **One network answers for a human-readable part, and a change shows only where the changed entry
claims it.** -/
theorem resolveHrp_of_reachable (h : registry.Reachable) :
    (∀ hrp, ∀ a ∈ registry.networks, ∀ b ∈ registry.networks,
      a.claimsHrp hrp = true → b.claimsHrp hrp = true → a = b) ∧
    (∀ network result, registry.register network = .ok result → ∀ hrp,
      result.resolveHrp hrp =
        if network.claimsHrp hrp then some network
        else (registry.resolveHrp hrp).filter (·.id != network.id)) ∧
    (∀ (network : NetworkParameters) hrp,
      (registry.unregister network.id).2.resolveHrp hrp =
        (registry.resolveHrp hrp).filter (·.id != network.id)) ∧
    ∀ (network : NetworkParameters) result, registry.register network = .ok result →
      registry.get? network.id = none →
      ∀ text hrp values, Bech32.decode text = .ok (hrp, values) →
        (registry.resolveHrp hrp).isSome →
        SegwitAddress.decode (.registered result) text =
          SegwitAddress.decode (.registered registry) text := by
  have hform := h.wellFormed
  refine ⟨?_, fun network result hresult => hform.resolveHrp_register hresult,
    fun network hrp => hform.resolveHrp_unregister network.id hrp, ?_⟩
  · intro hrp a ha b hb hclaima hclaimb
    exact hform.eq_of_claimsHrp ha hb hclaima hclaimb
  · intro network result hresult hnew text hrp values hread hknown
    have hsame := hform.resolveHrp_register_of_new hresult hnew hknown
    exact SegwitAddress.decode_registered_congr hread hsame

/-- The local test network is registered beside the default ones, and the public one is removed. -/
theorem resolveHrp_of_reachable_regtest :
    defaults.Reachable ∧ defaults.get? NetworkParameters.regtest.id = none ∧
    (defaults.unregister NetworkParameters.testnet.id).2.resolveHrp "TT" = none ∧
    Bech32.decode "tc1pw5007fpz3pq" = .ok ("tc", [1, 14, 20, 15, 15, 30]) ∧
    (defaults.resolveHrp "tc").isSome ∧
    ∃ result, defaults.register .regtest = .ok result ∧
      result.resolveHrp "TDRT" = some .regtest ∧
      SegwitAddress.decode (.registered result) "tc1pw5007fpz3pq" =
        SegwitAddress.decode (.registered defaults) "tc1pw5007fpz3pq" := by
  obtain ⟨honly, hregister, hunregister, hframe⟩ := resolveHrp_of_reachable .defaults
  have hnew : defaults.get? NetworkParameters.regtest.id = none := rfl
  have hread : Bech32.decode "tc1pw5007fpz3pq" = .ok ("tc", [1, 14, 20, 15, 15, 30]) := by
    decide +kernel
  have hknown : (defaults.resolveHrp "tc").isSome := by cbv
  have htest : defaults.resolveHrp "TT" = some .testnet :=
    wellFormed_defaults.resolveHrp_eq_some_iff.mpr ⟨by simp [defaults], by cbv⟩
  have hremoved : (defaults.unregister NetworkParameters.testnet.id).2.resolveHrp "TT" = none := by
    rw [hunregister, htest]
    simp
  refine ⟨.defaults, hnew, hremoved, hread, hknown, ?_⟩
  cases hresult : defaults.register .regtest with
  | error fault =>
    have hok : (defaults.register .regtest).toBool = true := by decide +kernel
    rw [hresult] at hok
    cases hok
  | ok result =>
    have hclaims : NetworkParameters.regtest.claimsHrp "TDRT" = true := by cbv
    refine ⟨result, rfl, ?_, hframe _ _ hresult hnew _ _ _ hread hknown⟩
    rw [hregister _ _ hresult, if_pos hclaims]

end Registry

end CoinKeys
