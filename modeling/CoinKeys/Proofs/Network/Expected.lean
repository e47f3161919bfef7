import CoinKeys.Proofs.Address.Legacy
import CoinKeys.Proofs.Address.Segwit
import CoinKeys.Proofs.Network.Resolution
import CoinKeys.Proofs.PrivateKey

/-!
# Reading with and without an expected network

The readers of legacy addresses, of segwit addresses and of private keys look at their scope once,
to find the network that claims the leading part of the text; all else follows from the text
(`ReadByClaim`). A reader that expects a network finds it or none, and a reader that expects none
finds the first registered network that claims.

**Theorem (`firstAccepting_of_reachable`).** Without an expected network a text is read exactly when
it is read for one of the registered networks, and as it is read for the one of them with the least
id. A segwit text is read for one registered network at most.
-/

namespace CoinKeys

section Readers

variable {α : Type} {read : Scope → Except Error α} {owner : α → NetworkParameters}
  {registry : Registry} {network : NetworkParameters} {result : α}

/-- A reader of a text in a scope depends on the scope only by the network that claims the leading
part of the text: `on network` is what it reads in every scope in which this is `network`. -/
def ReadByClaim (read : Scope → Except Error α) (owner : α → NetworkParameters) : Prop :=
  ∀ scope result, read scope = .ok result →
    ∃ (claims : NetworkParameters → Bool) (on : NetworkParameters → α),
      scope.find? claims = some (owner result) ∧
      ∀ other network, other.find? claims = some network →
        read other = .ok (on network) ∧ owner (on network) = network

/-- What is read without an expected network is what is read for the first of the registered
networks for which anything is read. -/
structure FirstAccepting (registry : Registry) (read : Scope → Except Error α)
    (owner : α → NetworkParameters) : Prop where
  exists_iff : (∃ result, read (.ofExpected registry none) = .ok result) ↔
    ∃ network ∈ registry.networks, ∃ result,
      read (.ofExpected registry (some network)) = .ok result
  owner_mem : ∀ result, read (.ofExpected registry none) = .ok result →
    owner result ∈ registry.networks
  read_owner : ∀ result, read (.ofExpected registry none) = .ok result →
    read (.ofExpected registry (some (owner result))) = .ok result
  least : ∀ result, read (.ofExpected registry none) = .ok result →
    ∀ network ∈ registry.networks, ∀ other,
      read (.ofExpected registry (some network)) = .ok other →
        Text.utf8 (owner result).id ≤ Text.utf8 network.id

theorem ReadByClaim.mem_and_only (h : ReadByClaim read owner)
    (hread : read (.registered registry) = .ok result) :
    owner result ∈ registry.networks ∧ read (.only (owner result)) = .ok result := by
  obtain ⟨claims, on, hfind, hon⟩ := h _ _ hread
  have hclaims : claims (owner result) = true := Scope.claims_of_find? hfind
  obtain ⟨hsame, -⟩ := hon _ _ hfind
  obtain ⟨honly, -⟩ :=
    hon (.only (owner result)) _ (Scope.find?_only_eq_some_iff.mpr ⟨hclaims, rfl⟩)
  refine ⟨List.mem_of_find?_eq_some hfind, ?_⟩
  rw [honly, ← hsame, hread]

/-- What is read for a registered network is read in the registry, for a network with an id that is
not greater. -/
theorem ReadByClaim.exists_registered (h : ReadByClaim read owner) (hform : registry.WellFormed)
    (hmem : network ∈ registry.networks) (hread : read (.only network) = .ok result) :
    ∃ first, read (.registered registry) = .ok first ∧
      Text.utf8 (owner first).id ≤ Text.utf8 network.id := by
  obtain ⟨claims, on, hfind, hon⟩ := h _ _ hread
  obtain ⟨hclaims, -⟩ := Scope.find?_only_eq_some_iff.mp hfind
  obtain ⟨first, hfirst⟩ :=
    Option.isSome_iff_exists.mp (List.find?_isSome.mpr ⟨network, hmem, hclaims⟩)
  obtain ⟨hregistered, howner⟩ := hon (.registered registry) first hfirst
  refine ⟨on first, hregistered, ?_⟩
  rw [howner]
  exact hform.sorted.least_of_find? hfirst hmem hclaims

theorem ReadByClaim.firstAccepting (h : ReadByClaim read owner) (hform : registry.WellFormed) :
    FirstAccepting registry read owner where
  exists_iff := by
    refine ⟨fun hread => ?_, fun hread => ?_⟩
    · obtain ⟨result, hread⟩ := hread
      obtain ⟨hmem, honly⟩ := h.mem_and_only hread
      exact ⟨owner result, hmem, result, honly⟩
    · obtain ⟨network, hmem, result, hread⟩ := hread
      obtain ⟨first, hfirst, -⟩ := h.exists_registered hform hmem hread
      exact ⟨first, hfirst⟩
  owner_mem _ hread := (h.mem_and_only hread).1
  read_owner _ hread := (h.mem_and_only hread).2
  least result hread network hmem other hother := by
    obtain ⟨first, hfirst, hle⟩ := h.exists_registered hform hmem hother
    obtain rfl := Except.ok.inj (hread.symm.trans hfirst)
    exact hle

end Readers

/-! ## The three readers -/

theorem LegacyAddress.readByClaim (text : String) :
    ReadByClaim (decode · text) LegacyAddress.network := by
  intro scope address h
  obtain ⟨rfl, hfind⟩ := decode_eq_ok_iff.mp h
  refine ⟨(·.claimsVersion address.version),
    fun network => ⟨network, address.version, address.hash⟩, hfind,
    fun other network hother => ⟨?_, rfl⟩⟩
  exact decode_eq_ok_iff.mpr ⟨rfl, hother⟩

theorem LegacyAddress.decode_only_of_claimsVersion (owner : NetworkParameters) (version : UInt8)
    (hash : FixedBytes 20) (network : NetworkParameters)
    (h : network.claimsVersion version = true) :
    decode (.only network) (encode ⟨owner, version, hash⟩) = .ok ⟨network, version, hash⟩ :=
  decode_eq_ok_iff.mpr ⟨rfl, Scope.find?_only_eq_some_iff.mpr ⟨h, rfl⟩⟩

theorem SegwitAddress.readByClaim (text : String) :
    ReadByClaim (decode · text) SegwitAddress.network := by
  intro scope address h
  obtain ⟨hrp, data, hread, hfind, hregroup, hprogram⟩ := decode_eq_ok_iff.mp h
  refine ⟨(·.claimsHrp hrp), fun network => ⟨network, address.witnessVersion, address.program⟩,
    hfind, fun other network hother => ⟨?_, rfl⟩⟩
  exact decode_eq_ok_iff.mpr ⟨hrp, data, hread, hother, hregroup, hprogram⟩

theorem PrivateKey.readByClaim (text : String) : ReadByClaim (decode · text) Prod.snd := by
  intro scope ⟨key, owner⟩ h
  obtain ⟨rfl, hfind⟩ := decode_eq_ok_iff.mp h
  refine ⟨(·.wif == owner.wif), fun network => (key, network), hfind,
    fun other network hother => ⟨?_, rfl⟩⟩
  have hwif : network.wif = owner.wif := eq_of_beq (Scope.claims_of_find? hother)
  refine decode_eq_ok_iff.mpr ⟨?_, hwif ▸ hother⟩
  rw [encode_eq, encode_eq, hwif]

theorem Registry.WellFormed.eq_of_decode_segwit {registry : Registry} (h : registry.WellFormed)
    {a b : NetworkParameters} (ha : a ∈ registry.networks) (hb : b ∈ registry.networks)
    {text : String} {x y : SegwitAddress} (hx : SegwitAddress.decode (.only a) text = .ok x)
    (hy : SegwitAddress.decode (.only b) text = .ok y) : a = b := by
  obtain ⟨hrp, _, hread, hfind, -, -⟩ := SegwitAddress.decode_eq_ok_iff.mp hx
  obtain ⟨_, _, hread', hfind', -, -⟩ := SegwitAddress.decode_eq_ok_iff.mp hy
  obtain ⟨rfl, -⟩ := Prod.mk.inj (Except.ok.inj (hread.symm.trans hread'))
  obtain ⟨hclaima, -⟩ := Scope.find?_only_eq_some_iff.mp hfind
  obtain ⟨hclaimb, -⟩ := Scope.find?_only_eq_some_iff.mp hfind'
  exact h.eq_of_claimsHrp ha hb hclaima hclaimb

namespace Registry

/-- **Without an expected network a text is read for the first registered network for which it can
be read.** That holds of legacy addresses, of segwit addresses and of private keys; the network of
what is read is a registered one in all fields. A segwit text is read for one registered network at
most. -/
theorem firstAccepting_of_reachable {registry : Registry} (h : registry.Reachable) (text : String) :
    FirstAccepting registry (LegacyAddress.decode · text) LegacyAddress.network ∧
    FirstAccepting registry (SegwitAddress.decode · text) SegwitAddress.network ∧
    FirstAccepting registry (PrivateKey.decode · text) Prod.snd ∧
    ∀ a ∈ registry.networks, ∀ b ∈ registry.networks, ∀ x y,
      SegwitAddress.decode (.ofExpected registry (some a)) text = .ok x →
      SegwitAddress.decode (.ofExpected registry (some b)) text = .ok y → a = b := by
  have hform := h.wellFormed
  refine ⟨(LegacyAddress.readByClaim text).firstAccepting hform,
    (SegwitAddress.readByClaim text).firstAccepting hform,
    (PrivateKey.readByClaim text).firstAccepting hform, ?_⟩
  intro a ha b hb x y hx hy
  exact hform.eq_of_decode_segwit ha hb hx hy

/-- Two networks with one version byte, of which the one with the greater id is registered first. -/
theorem firstAccepting_of_reachable_shared :
    let a : NetworkParameters := ⟨"a", 1, 2, 3, none⟩
    let b : NetworkParameters := ⟨"b", 1, 4, 3, none⟩
    let registry := (Registry.empty.change (.register b)).change (.register a)
    let text := LegacyAddress.encode ⟨b, 1, .ofNat 20 7⟩
    registry.Reachable ∧ b ∈ registry.networks ∧
      LegacyAddress.decode (.ofExpected registry (some b)) text = .ok ⟨b, 1, .ofNat 20 7⟩ ∧
      ∃ address, LegacyAddress.decode (.ofExpected registry none) text = .ok address ∧
        address.network = a := by
  intro a b registry text
  have hreach : registry.Reachable := (Reachable.empty.change _).change _
  have hnetworks : registry.networks = [a, b] := by cbv
  have hread : ∀ network : NetworkParameters, network.claimsVersion 1 = true →
      LegacyAddress.decode (.only network) text = .ok ⟨network, 1, .ofNat 20 7⟩ :=
    LegacyAddress.decode_only_of_claimsVersion _ _ _
  have ha : a ∈ registry.networks := by simp [hnetworks]
  have hb : b ∈ registry.networks := by simp [hnetworks]
  have hreada := hread a (by decide)
  have hreadb := hread b (by decide)
  have hid : ¬ Text.utf8 b.id ≤ Text.utf8 a.id := by decide
  clear_value text registry a b
  obtain ⟨⟨hexists, hmem, -, hleast⟩, -⟩ := firstAccepting_of_reachable hreach text
  obtain ⟨address, haddress⟩ := hexists.mpr ⟨b, hb, _, hreadb⟩
  refine ⟨hreach, hb, hreadb, address, haddress, ?_⟩
  have hle := hleast _ haddress a ha _ hreada
  have hown := hmem _ haddress
  simp only [hnetworks, List.mem_cons, List.not_mem_nil, or_false] at hown
  rcases hown with hown | hown
  · exact hown
  · rw [hown] at hle
    exact absurd hle hid

end Registry

end CoinKeys
