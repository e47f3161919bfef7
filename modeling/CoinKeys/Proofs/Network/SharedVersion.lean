import CoinKeys.Proofs.Address.Script
import CoinKeys.Proofs.Network.Expected

/-!
# Networks that share a version byte

A legacy address is read for every network that has its version byte, in whichever role. Two
networks therefore have texts in common as soon as they share one version byte
(`exists_readFor_both_iff`), but only networks that share both, each in its role, are kept apart
when they are registered.

**Theorem (`readers_of_reachable`).** In a registry that is reached, two networks without a
human-readable part differ in the version byte of one role at least. A text is read for at most one
of them exactly when no two of them share a version byte, and that is not ensured.

Two networks whose version bytes are crossed are both registered (`readers_of_crossed_versions`).
Their addresses have the same texts, and what is a public key hash for one of them is a script hash
for the other.
-/

namespace CoinKeys

/-! ## Shared version bytes -/

namespace NetworkParameters

/-- Two networks share a version byte of legacy addresses, in the same role or crossed. -/
def SharesVersion (a b : NetworkParameters) : Prop :=
  a.p2pkh = b.p2pkh ∨ a.p2pkh = b.p2sh ∨ a.p2sh = b.p2pkh ∨ a.p2sh = b.p2sh

theorem sharesVersion_iff {a b : NetworkParameters} :
    a.SharesVersion b ↔
      ∃ version, a.claimsVersion version = true ∧ b.claimsVersion version = true := by
  simp only [claimsVersion_iff, SharesVersion]
  refine ⟨fun h => ?_, fun h => ?_⟩
  · rcases h with h | h | h | h
    · exact ⟨a.p2pkh, .inl rfl, .inl h⟩
    · exact ⟨a.p2pkh, .inl rfl, .inr h⟩
    · exact ⟨a.p2sh, .inr rfl, .inl h⟩
    · exact ⟨a.p2sh, .inr rfl, .inr h⟩
  · obtain ⟨version, rfl | rfl, hb⟩ := h
    · exact hb.elim .inl fun hb => .inr (.inl hb)
    · exact hb.elim (fun hb => .inr (.inr (.inl hb))) fun hb => .inr (.inr (.inr hb))

/-- A network without a human-readable part shares addresses with others of that kind only, and only
when both version bytes agree. -/
theorem sharesAddresses_iff_of_hrp_eq_none {a b : NetworkParameters} (hb : b.hrp = none) :
    a.SharesAddresses b ↔ a.hrp = none ∧ a.p2pkh = b.p2pkh ∧ a.p2sh = b.p2sh := by
  simp [SharesAddresses, hb]

end NetworkParameters

/-! ## Texts read for a network -/

namespace LegacyAddress

variable {registry : Registry} {a b : NetworkParameters}

/-- A text is read as a legacy address where the network is expected. -/
def ReadFor (registry : Registry) (network : NetworkParameters) (text : String) : Prop :=
  ∃ address, decode (.ofExpected registry (some network)) text = .ok address

theorem readFor_iff {network : NetworkParameters} {text : String} :
    ReadFor registry network text ↔ ∃ version, ∃ hash : FixedBytes 20,
      network.claimsVersion version = true ∧
        text = Base58.encodeChecked (version :: hash.toList) := by
  refine ⟨fun h => ?_, fun h => ?_⟩
  · obtain ⟨address, hread⟩ := h
    obtain ⟨version, hash, hmake, rfl⟩ := decode_only_eq_ok_iff.mp hread
    obtain ⟨hclaims, rfl⟩ := make_eq_ok_iff.mp hmake
    exact ⟨version, hash, hclaims, rfl⟩
  · obtain ⟨version, hash, hclaims, rfl⟩ := h
    exact ⟨_, decode_only_of_claimsVersion network version hash network hclaims⟩

/-- The texts that are read for two networks are those of the version bytes that they share. -/
theorem readFor_both_iff {text : String} :
    (ReadFor registry a text ∧ ReadFor registry b text) ↔
      ∃ version, ∃ hash : FixedBytes 20, a.claimsVersion version = true ∧
        b.claimsVersion version = true ∧
        text = Base58.encodeChecked (version :: hash.toList) := by
  refine ⟨fun h => ?_, fun h => ?_⟩
  · obtain ⟨ha, hb⟩ := h
    obtain ⟨version, hash, hclaima, rfl⟩ := readFor_iff.mp ha
    obtain ⟨other, _, hclaimb, htext⟩ := readFor_iff.mp hb
    -- One text has one payload, and the version byte is its first byte.
    have hread := Base58.decodeChecked_encodeChecked (version :: hash.toList)
    rw [htext, Base58.decodeChecked_encodeChecked] at hread
    obtain ⟨rfl, -⟩ := List.cons.inj (Except.ok.inj hread)
    exact ⟨other, hash, hclaima, hclaimb, rfl⟩
  · obtain ⟨version, hash, hclaima, hclaimb, rfl⟩ := h
    exact ⟨readFor_iff.mpr ⟨version, hash, hclaima, rfl⟩,
      readFor_iff.mpr ⟨version, hash, hclaimb, rfl⟩⟩

theorem exists_readFor_both_iff :
    (∃ text, ReadFor registry a text ∧ ReadFor registry b text) ↔ a.SharesVersion b := by
  simp only [readFor_both_iff, NetworkParameters.sharesVersion_iff]
  refine ⟨fun h => ?_, fun h => ?_⟩
  · obtain ⟨_, version, _, hclaima, hclaimb, -⟩ := h
    exact ⟨version, hclaima, hclaimb⟩
  · obtain ⟨version, hclaima, hclaimb⟩ := h
    exact ⟨_, version, .ofNat 20 0, hclaima, hclaimb, rfl⟩

end LegacyAddress

/-! ## Registered networks -/

namespace Registry

open LegacyAddress NetworkParameters

variable {registry : Registry}

/-- The registered networks without a human-readable part. -/
def LegacyOnly (registry : Registry) (network : NetworkParameters) : Prop :=
  network ∈ registry.networks ∧ network.hrp = none

/-- A network without a human-readable part is refused for another one only if both version bytes
agree. -/
theorem exists_register_iff {network : NetworkParameters} (hnetwork : network.hrp = none) :
    (∃ result, registry.register network = .ok result) ↔
      ∀ other, registry.LegacyOnly other → other.id ≠ network.id →
        other.p2pkh ≠ network.p2pkh ∨ other.p2sh ≠ network.p2sh := by
  refine ⟨fun h other hother hid => ?_, fun h => ⟨_, register_eq_ok_iff.mpr ⟨?_, rfl⟩⟩⟩
  · obtain ⟨_, hresult⟩ := h
    obtain ⟨hmem, hhrp⟩ := hother
    have hfree := (register_eq_ok_iff.mp hresult).1 other hmem hid
    rw [sharesAddresses_iff_of_hrp_eq_none hnetwork] at hfree
    exact not_and_or.mp fun hbytes => hfree ⟨hhrp, hbytes⟩
  · intro other hmem hid hshares
    obtain ⟨hhrp, hbytes⟩ := (sharesAddresses_iff_of_hrp_eq_none hnetwork).mp hshares
    exact not_and_or.mpr (h other ⟨hmem, hhrp⟩ hid) hbytes

theorem WellFormed.readFor_unique_iff (h : registry.WellFormed) :
    (∀ text a b, registry.LegacyOnly a → registry.LegacyOnly b →
        ReadFor registry a text → ReadFor registry b text → a = b) ↔
      ∀ a b, registry.LegacyOnly a → registry.LegacyOnly b → a.id ≠ b.id →
        ¬ a.SharesVersion b := by
  refine ⟨fun hunique a b ha hb hid hshares => ?_, fun hapart text a b ha hb hreada hreadb => ?_⟩
  · obtain ⟨text, hreada, hreadb⟩ := exists_readFor_both_iff.mpr hshares
    exact hid (congrArg NetworkParameters.id (hunique text a b ha hb hreada hreadb))
  · have hshares := exists_readFor_both_iff.mp ⟨text, hreada, hreadb⟩
    by_contra hne
    exact hapart a b ha hb (fun hid => hne (h.sorted.eq_of_id_eq ha.1 hb.1 hid)) hshares

/-- **A registry keeps networks without a human-readable part apart by both version bytes at once.**
A text may be read for two of them, and is read for one of them at most exactly when no two of them
share a version byte in any roles. -/
theorem readers_of_reachable (h : registry.Reachable) :
    (∀ a b, registry.LegacyOnly a → registry.LegacyOnly b → a.id ≠ b.id →
      a.p2pkh ≠ b.p2pkh ∨ a.p2sh ≠ b.p2sh) ∧
    (∀ network, network.hrp = none → ((∃ result, registry.register network = .ok result) ↔
      ∀ other, registry.LegacyOnly other → other.id ≠ network.id →
        other.p2pkh ≠ network.p2pkh ∨ other.p2sh ≠ network.p2sh)) ∧
    (∀ a b text, (ReadFor registry a text ∧ ReadFor registry b text) ↔
      ∃ version, ∃ hash : FixedBytes 20, a.claimsVersion version = true ∧
        b.claimsVersion version = true ∧
        text = Base58.encodeChecked (version :: hash.toList)) ∧
    ((∀ text a b, registry.LegacyOnly a → registry.LegacyOnly b →
        ReadFor registry a text → ReadFor registry b text → a = b) ↔
      ∀ a b, registry.LegacyOnly a → registry.LegacyOnly b → a.id ≠ b.id →
        ¬ a.SharesVersion b) := by
  have hform := h.wellFormed
  refine ⟨fun a b ha hb hid => ?_, fun network => exists_register_iff,
    fun a b text => readFor_both_iff, hform.readFor_unique_iff⟩
  have hapart := hform.apart a ha.1 b hb.1 hid
  rw [sharesAddresses_iff_of_hrp_eq_none hb.2] at hapart
  exact not_and_or.mp fun hbytes => hapart ⟨ha.2, hbytes⟩

/-- Two networks with one version byte in common. Beside them a network with the version bytes of
the first in crossed roles is registered, and one with the same version bytes is not. -/
theorem readers_of_reachable_shared :
    let a : NetworkParameters := .make "a" 1 2 3 none
    let b : NetworkParameters := .make "b" 1 4 3 none
    let registry := (Registry.empty.change (.register a)).change (.register b)
    let text := Base58.encodeChecked (1 :: (FixedBytes.ofNat 20 7).toList)
    registry.Reachable ∧ registry.LegacyOnly a ∧ registry.LegacyOnly b ∧ a.id ≠ b.id ∧
      (a.p2pkh ≠ b.p2pkh ∨ a.p2sh ≠ b.p2sh) ∧
      (∃ result, registry.register (.make "c" 2 1 3 none) = .ok result) ∧
      (¬ ∃ result, registry.register (.make "d" 1 2 3 none) = .ok result) ∧
      (ReadFor registry a text ∧ ReadFor registry b text) ∧
      ¬ ∀ text a b, registry.LegacyOnly a → registry.LegacyOnly b →
        ReadFor registry a text → ReadFor registry b text → a = b := by
  intro a b registry text
  have hreach : registry.Reachable := (Reachable.empty.change _).change _
  have hnetworks : registry.networks = [a, b] := by cbv
  have ha : registry.LegacyOnly a := ⟨by simp [hnetworks], rfl⟩
  have hb : registry.LegacyOnly b := ⟨by simp [hnetworks], rfl⟩
  have hid : a.id ≠ b.id := by decide
  have hshares : a.SharesVersion b := .inl rfl
  obtain ⟨hapart, hregister, hread, hunique⟩ := readers_of_reachable hreach
  refine ⟨hreach, ha, hb, hid, hapart a b ha hb hid, (hregister _ rfl).mpr ?_, ?_,
    (hread a b text).mpr ⟨1, .ofNat 20 7, by decide, by decide, rfl⟩, ?_⟩
  · intro other hother _
    obtain ⟨hmem, -⟩ := hother
    simp only [hnetworks, List.mem_cons, List.not_mem_nil, or_false] at hmem
    rcases hmem with rfl | rfl <;> exact .inl (by decide)
  · intro hresult
    have hdiffers := (hregister _ rfl).mp hresult a ha (by decide)
    exact hdiffers.elim (fun h => h rfl) fun h => h rfl
  · intro hone
    exact hunique.mp hone a b ha hb hid hshares

/-- Two networks with the same version bytes in crossed roles are registered, and one text pays to a
public key hash on the first and to a script hash on the second. -/
theorem readers_of_crossed_versions :
    let a : NetworkParameters := .make "a" 1 2 3 none
    let b : NetworkParameters := .make "b" 2 1 3 none
    let registry := (Registry.empty.change (.register a)).change (.register b)
    let text := LegacyAddress.encode ⟨a, 1, .ofNat 20 7⟩
    registry.Reachable ∧ registry.LegacyOnly a ∧ registry.LegacyOnly b ∧ a.id ≠ b.id ∧
      LegacyAddress.decode (.ofExpected registry (some a)) text = .ok ⟨a, 1, .ofNat 20 7⟩ ∧
      LegacyAddress.decode (.ofExpected registry (some b)) text = .ok ⟨b, 1, .ofNat 20 7⟩ ∧
      Address.scriptType (.legacy ⟨a, 1, .ofNat 20 7⟩) = .p2pkh ∧
      Address.scriptType (.legacy ⟨b, 1, .ofNat 20 7⟩) = .p2sh := by
  intro a b registry text
  have hnetworks : registry.networks = [a, b] := by cbv
  refine ⟨(Reachable.empty.change _).change _, ⟨by simp [hnetworks], rfl⟩,
    ⟨by simp [hnetworks], rfl⟩, by decide, ?_, ?_, by decide, by decide⟩
  · exact LegacyAddress.decode_only_of_claimsVersion a 1 (.ofNat 20 7) a (by decide)
  · exact LegacyAddress.decode_only_of_claimsVersion a 1 (.ofNat 20 7) b (by decide)

end Registry

end CoinKeys
