import CoinKeys.Proofs.Address.Script
import CoinKeys.Proofs.Address.Spelling

/-!
# What holds of every address

An address is made for a network, or read from a text or a JSON value (`Obtained`). The readers do
not make an address but check the parts that they find; what they check amounts to what is checked
when an address is made (`Obtained.constructed`), because networks are only ever made with a
lower-case human-readable part.

**Theorem (`obtained_iff_wellFormed`).** The addresses that are obtained are exactly the well-formed
ones: the version byte of a legacy address is one of its network's, and a segwit address has a
human-readable part that can be written, a version that exists and a program of a length that the
version allows. Each of them has a text, and a script in which no opcode and no length wraps around.
-/

namespace CoinKeys

/-! ## Scopes of networks that can be made -/

/-- The scopes of networks that can be made. -/
inductive Scope.Constructed : Scope → Prop
  | only {network : NetworkParameters} (h : network.Constructed) : Constructed (.only network)
  | registered {registry : Registry} (h : registry.Constructed) : Constructed (.registered registry)

theorem Scope.Constructed.of_find? {scope : Scope} (h : scope.Constructed)
    {claims : NetworkParameters → Bool} {network : NetworkParameters}
    (hfind : scope.find? claims = some network) : network.Constructed := by
  cases h with
  | only h =>
    obtain ⟨-, rfl⟩ := find?_only_eq_some_iff.mp hfind
    exact h
  | registered h => exact h _ (List.mem_of_find?_eq_some hfind)

/-! ## Well-formed addresses -/

/-- The version byte is one of the network's. -/
def LegacyAddress.WellFormed (address : LegacyAddress) : Prop :=
  address.version = address.network.p2pkh ∨ address.version = address.network.p2sh

theorem LegacyAddress.wellFormed_iff_make {address : LegacyAddress} :
    address.WellFormed ↔
      make address.network address.version address.hash = .ok address := by
  rw [WellFormed, make_eq_ok_iff, NetworkParameters.claimsVersion_iff, and_iff_left rfl]

namespace SegwitAddress

/-- A human-readable part is a short text of printable characters, with letters of one case only. -/
structure IsHumanReadable (hrp : String) : Prop where
  ne_nil : hrp.toList ≠ []
  utf8Size_le : Text.utf8Size hrp.toList ≤ 83
  printable : ∀ c ∈ hrp.toList, 33 ≤ c.toNat ∧ c.toNat ≤ 126
  oneCase : (∀ c ∈ hrp.toList, c.isUpper = false) ∨ ∀ c ∈ hrp.toList, c.isLower = false

theorem isHumanReadable_iff {hrp : String} :
    IsHumanReadable hrp ↔ Bech32.hrpFault? hrp.toList = none := by
  rw [Bech32.hrpFault?_eq_none_iff, Bech32.caseClash?_eq_none_iff]
  simp only [Bech32.isHrpChar, Bool.and_eq_true, decide_eq_true_eq]
  refine ⟨fun h => ?_, fun h => ?_⟩
  · exact ⟨⟨h.ne_nil, h.utf8Size_le⟩, h.printable, h.oneCase⟩
  · obtain ⟨⟨hne, hsize⟩, hprintable, hcase⟩ := h
    exact ⟨hne, hsize, hprintable, hcase⟩

/-- The network has a human-readable part, the version exists, and it allows the length of the
program. -/
structure WellFormed (address : SegwitAddress) : Prop where
  hrp : ∃ hrp, address.network.hrp = some hrp ∧ IsHumanReadable hrp
  version_le : address.witnessVersion ≤ 16
  length_ge : 2 ≤ address.program.length
  length_le : address.program.length ≤ 40
  length_of_zero : address.witnessVersion = 0 →
    address.program.length = 20 ∨ address.program.length = 32

theorem wellFormed_iff_make {address : SegwitAddress} :
    address.WellFormed ↔
      make address.network address.witnessVersion address.program = .ok address := by
  rw [make_eq_ok_iff, checkProgram_eq_ok_iff, and_iff_left rfl]
  simp only [hrpOf_eq_ok_iff, ← isHumanReadable_iff]
  refine ⟨fun h => ?_, fun h => ?_⟩
  · exact ⟨h.hrp, h.version_le, ⟨h.length_ge, h.length_le⟩, h.length_of_zero⟩
  · obtain ⟨hhrp, hversion, ⟨hge, hle⟩, hzero⟩ := h
    exact ⟨hhrp, hversion, hge, hle, hzero⟩

end SegwitAddress

namespace Address

variable {address : Address}

/-- Either kind of address is well-formed. -/
def WellFormed : Address → Prop
  | legacy address => address.WellFormed
  | segwit address => address.WellFormed

/-! ## Ways to obtain an address -/

/-- The addresses that are made for a network, or read for an expected network or in a registry,
from a text or from a JSON value. -/
inductive Obtained : Address → Prop
  | made {network : NetworkParameters} {address : Address} (h : Constructed network address) :
    Obtained address
  | readLegacy {scope : Scope} (hscope : scope.Constructed) {text : String} {address : Address}
    (h : decodeLegacy scope text = .ok address) : Obtained address
  | readSegwit {scope : Scope} (hscope : scope.Constructed) {text : String} {address : Address}
    (h : decodeSegwit scope text = .ok address) : Obtained address
  | read {scope : Scope} (hscope : scope.Constructed) {text : String} {address : Address}
    (h : decode scope text = .ok address) : Obtained address
  | readJson {registry : Registry} (hregistry : registry.Constructed) {value : Json}
    {address : Address} (h : ofJson? registry value = some (.ok address)) : Obtained address

theorem decodeLegacy_or_decodeSegwit {scope : Scope} {text : String}
    (h : decode scope text = .ok address) :
    decodeLegacy scope text = .ok address ∨ decodeSegwit scope text = .ok address := by
  rw [decode] at h
  split at h
  · next heq => exact .inl (heq.trans h)
  · cases h
  · split at h
    · next heq => exact .inr (heq.trans h)
    · cases h
    · cases h

section Readers

variable {scope : Scope} {text : String}

theorem constructed_of_decodeLegacy (h : decodeLegacy scope text = .ok address) :
    Constructed address.network address := by
  obtain ⟨found, hread, rfl⟩ := map_eq_ok_iff.mp h
  obtain ⟨-, hfind⟩ := LegacyAddress.decode_eq_ok_iff.mp hread
  exact .legacy (LegacyAddress.make_eq_ok_iff.mpr ⟨Scope.claims_of_find? hfind, rfl⟩)

theorem constructed_of_decodeSegwit (hscope : scope.Constructed)
    (h : decodeSegwit scope text = .ok address) : Constructed address.network address := by
  obtain ⟨found, hread, rfl⟩ := map_eq_ok_iff.mp h
  obtain ⟨_, _, -, hfind, -, -⟩ := SegwitAddress.decode_eq_ok_iff.mp hread
  exact .segwit (SegwitAddress.make_of_decode (hscope.of_find? hfind) hread)

theorem constructed_of_decode (hscope : scope.Constructed) (h : decode scope text = .ok address) :
    Constructed address.network address := by
  rcases decodeLegacy_or_decodeSegwit h with h | h
  · exact constructed_of_decodeLegacy h
  · exact constructed_of_decodeSegwit hscope h

end Readers

theorem Constructed.wellFormed {network : NetworkParameters} (h : Constructed network address) :
    address.WellFormed := by
  rcases h.legacy_or_segwit with ⟨version, hash, hclaims, rfl⟩ | ⟨_, _, made, hmade, rfl⟩
  · exact LegacyAddress.wellFormed_iff_make.mpr (LegacyAddress.make_eq_ok_iff.mpr ⟨hclaims, rfl⟩)
  · obtain ⟨-, -, rfl⟩ := SegwitAddress.make_eq_ok_iff.mp hmade
    exact SegwitAddress.wellFormed_iff_make.mpr hmade

/-- Whatever way an address is obtained, it could have been made for its network. -/
theorem Obtained.wellFormed (h : Obtained address) : address.WellFormed := by
  cases h with
  | made h => exact h.wellFormed
  | readLegacy _ h => exact (constructed_of_decodeLegacy h).wellFormed
  | readSegwit hscope h => exact (constructed_of_decodeSegwit hscope h).wellFormed
  | read hscope h => exact (constructed_of_decode hscope h).wellFormed
  | readJson hregistry h =>
    obtain ⟨text, -, hread⟩ := Option.map_eq_some_iff.mp h
    exact (constructed_of_decode (.registered hregistry) hread).wellFormed

theorem WellFormed.obtained (h : address.WellFormed) : Obtained address := by
  cases address with
  | legacy address => exact .made (.legacy (LegacyAddress.wellFormed_iff_make.mp h))
  | segwit address => exact .made (.segwit (SegwitAddress.wellFormed_iff_make.mp h))

/-! ## Texts -/

theorem WellFormed.exists_encode (h : address.WellFormed) : ∃ text, address.encode = .ok text := by
  cases address with
  | legacy address => exact ⟨_, rfl⟩
  | segwit address =>
    have hmade := SegwitAddress.wellFormed_iff_make.mp h
    obtain ⟨⟨hrp, hhrp⟩, -⟩ := SegwitAddress.make_eq_ok_iff.mp hmade
    obtain ⟨text, htext, -⟩ := SegwitAddress.exists_encode_eq_ok hmade hhrp
    exact ⟨text, htext⟩

/-- **The addresses that are obtained are the well-formed ones**, each of them has a text, and no
byte of a segwit script wraps around. -/
theorem obtained_iff_wellFormed (address : Address) :
    (Obtained address ↔ address.WellFormed) ∧
    (Obtained address → (∃ text, address.encode = .ok text) ∧
      ∀ found, address = .segwit found → ∃ opcode size, IsSegwitScript found opcode size) := by
  refine ⟨⟨Obtained.wellFormed, WellFormed.obtained⟩, fun h => ⟨h.wellFormed.exists_encode, ?_⟩⟩
  rintro found rfl
  have hform : found.WellFormed := h.wellFormed
  exact exists_isSegwitScript hform.version_le hform.length_le

/-- A text is read in the registry of the default networks. -/
theorem obtained_iff_wellFormed_tc :
    decodeSegwit (.registered .defaults) "tc1pw5007fpz3pq" =
        .ok (.segwit ⟨.mainnet, 1, [0x75, 0x1e, 0xff]⟩) ∧
      Obtained (.segwit ⟨.mainnet, 1, [0x75, 0x1e, 0xff]⟩) ∧
      WellFormed (.segwit ⟨.mainnet, 1, [0x75, 0x1e, 0xff]⟩) ∧
      (∃ text, encode (.segwit ⟨.mainnet, 1, [0x75, 0x1e, 0xff]⟩) = .ok text) ∧
      ∃ opcode size, IsSegwitScript ⟨.mainnet, 1, [0x75, 0x1e, 0xff]⟩ opcode size := by
  have hwritten : Bech32.encode "tc" [1, 14, 20, 15, 15, 30] = .ok "tc1pw5007fpz3pq" := by cbv
  have hvalues := Bech32.decode_of_encode hwritten (by decide)
  have hread : decodeSegwit (.registered .defaults) "tc1pw5007fpz3pq" =
      .ok (.segwit ⟨.mainnet, 1, [0x75, 0x1e, 0xff]⟩) :=
    map_eq_ok_iff.mpr ⟨_, SegwitAddress.decode_eq_ok_iff.mpr
      ⟨"tc".toLower, [14, 20, 15, 15, 30], hvalues, by cbv, by cbv, rfl⟩, rfl⟩
  have hobtained : Obtained (.segwit ⟨.mainnet, 1, [0x75, 0x1e, 0xff]⟩) :=
    .readSegwit (.registered Registry.constructed_defaults) hread
  obtain ⟨hiff, hmakes⟩ := obtained_iff_wellFormed (.segwit ⟨.mainnet, 1, [0x75, 0x1e, 0xff]⟩)
  obtain ⟨htext, hscript⟩ := hmakes hobtained
  exact ⟨hread, hobtained, hiff.mp hobtained, htext, hscript _ rfl⟩

end Address

end CoinKeys
