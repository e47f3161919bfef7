import CoinKeys.Proofs.Address.Parse
import CoinKeys.Proofs.Address.Spelling
import CoinKeys.Proofs.Network.Resolution

/-!
# Addresses of any network are read as they are written

A human-readable part may consist of base 58 digits, leading ones included, so the text of a segwit
address may spell bytes in base 58 as well. A text of thirty-six characters or more spells more
bytes than a legacy address has, though (`LegacyAddress.exists_fault_of_long`): a leading `1` is a
byte of its own, and behind the leading ones the number of the text is large enough. So the first
reading leaves such a text to the second one.

**Theorem (`decode_encode_of_any_network`).** The text of a segwit address is read as that address
in lower case and in upper case if it has thirty-six characters or more and is not too long, and the
text of a legacy address is read as that address, for every network that is expected. A segwit
address of a registered network is read without an expected network, too.
-/

namespace CoinKeys

theorem SegwitAddress.decode_toUpper_of_encode (scope : Scope) {address : SegwitAddress}
    {text : String} (htext : address.encode = .ok text)
    (hsize : Text.utf8Size text.toList ≤ Bech32.maxLength) :
    decode scope text.toUpper = decode scope text := by
  obtain ⟨hrp, values, -, -, hencode⟩ := encode_eq_ok_iff.mp htext
  rw [decode, decode, Bech32.decode_toUpper_of_encode hencode hsize,
    Bech32.decode_of_encode hencode hsize]

theorem SegwitAddress.length_toList_of_encode {address : SegwitAddress} {text : String}
    (htext : address.encode = .ok text) (hsize : Text.utf8Size text.toList ≤ Bech32.maxLength) :
    text.toList.length = Text.utf8Size text.toList := by
  obtain ⟨hrp, values, -, -, hencode⟩ := encode_eq_ok_iff.mp htext
  have hlayout := Bech32.layout_of_encode hencode hsize
  exact (Bech32.utf8Size_of_parts hlayout.toList_eq hlayout.isHrpChar_hrp
    hlayout.isSome_data).symm

theorem Registry.WellFormed.find?_claimsHrp {registry : Registry} (h : registry.WellFormed)
    {network : NetworkParameters} (hmem : network ∈ registry.networks) {hrp : String}
    (hhrp : SegwitAddress.hrpOf network = .ok hrp) :
    (Scope.registered registry).find? (·.claimsHrp hrp.toLower) = some network := by
  rw [Scope.find?_registered_claimsHrp, h.resolveHrp_eq_some_iff]
  exact ⟨hmem, SegwitAddress.claimsHrp_of_hrpOf hhrp⟩

namespace Address

theorem exists_legacyFault_of_long (scope : Scope) {text : String}
    (hlong : 36 ≤ text.toList.length) :
    ∃ fault, decodeLegacy scope text = .error fault ∧ ∀ f, fault ≠ .wrongNetwork f := by
  obtain ⟨fault, hread, hfault⟩ := LegacyAddress.exists_fault_of_long scope hlong
  exact ⟨fault, by rw [decodeLegacy, hread]; rfl, hfault⟩

section Segwit

variable {scope : Scope} {network : NetworkParameters} {address : SegwitAddress} {hrp text : String}

/-- Both spellings of a segwit address are read in every scope in which its human-readable part
belongs to its network. -/
theorem decode_spelling_of_encode (h : Constructed network (.segwit address))
    (hhrp : SegwitAddress.hrpOf network = .ok hrp)
    (hfind : scope.find? (·.claimsHrp hrp.toLower) = some network)
    (htext : address.encode = .ok text) (hlong : 36 ≤ Text.utf8Size text.toList)
    (hsize : Text.utf8Size text.toList ≤ Bech32.maxLength) {spelling : String}
    (hspelling : spelling = text ∨ spelling = text.toUpper) :
    decode scope spelling = .ok (.segwit address) := by
  have hread := SegwitAddress.decode_of_encode h.make_segwit hhrp hfind htext hsize
  have hlength := SegwitAddress.length_toList_of_encode htext hsize
  have hboth : SegwitAddress.decode scope spelling = .ok address ∧
      36 ≤ spelling.toList.length := by
    rcases hspelling with rfl | rfl
    · exact ⟨hread, hlength ▸ hlong⟩
    · rw [SegwitAddress.decode_toUpper_of_encode scope htext hsize, Text.toList_toUpper,
        List.length_map, hlength]
      exact ⟨hread, hlong⟩
  obtain ⟨hspelled, hmany⟩ := hboth
  obtain ⟨fault, hlegacy, hfault⟩ := exists_legacyFault_of_long scope hmany
  rw [decode_eq_ok_iff_of_legacyFault hlegacy hfault, decodeSegwit, hspelled]
  rfl

theorem le_textLength_of_version_zero (h : Constructed network (.segwit address))
    (hzero : address.witnessVersion = 0) :
    36 ≤ SegwitAddress.textLength hrp address.program.length := by
  obtain ⟨-, hprogram, -⟩ := SegwitAddress.make_eq_ok_iff.mp h.make_segwit
  obtain ⟨-, -, hkinds⟩ := SegwitAddress.checkProgram_eq_ok_iff.mp hprogram
  have hlength := hkinds hzero
  rw [SegwitAddress.textLength]
  omega

end Segwit

/-- **Addresses of every network are read from their texts.** A segwit address is read from both
spellings of its text if the text has thirty-six characters or more and is not too long, where its
network is expected and where it is registered; a text of version 0 is always long enough. A legacy
address is read where its network is expected. -/
theorem decode_encode_of_any_network (network : NetworkParameters) :
    (∀ address : SegwitAddress, Constructed network (.segwit address) →
      ∃ text, address.encode = .ok text ∧
        (address.witnessVersion = 0 → 36 ≤ Text.utf8Size text.toList) ∧
        (36 ≤ Text.utf8Size text.toList → Text.utf8Size text.toList ≤ Bech32.maxLength →
          ∀ spelling, spelling = text ∨ spelling = text.toUpper →
            (∀ registry : Registry,
              decode (.ofExpected registry (some network)) spelling = .ok (.segwit address)) ∧
            ∀ registry : Registry, registry.Reachable → network ∈ registry.networks →
              decode (.ofExpected registry none) spelling = .ok (.segwit address))) ∧
    ∀ address : LegacyAddress, Constructed network (.legacy address) → ∀ registry : Registry,
      decode (.ofExpected registry (some network)) address.encode = .ok (.legacy address) := by
  refine ⟨fun address h => ?_, fun address h registry => ?_⟩
  · obtain ⟨⟨hrp, hhrp⟩, -, -⟩ := SegwitAddress.make_eq_ok_iff.mp h.make_segwit
    obtain ⟨text, htext, hlength⟩ := SegwitAddress.exists_encode_eq_ok h.make_segwit hhrp
    refine ⟨text, htext, fun hzero => ?_, fun hlong hsize spelling hspelling => ⟨?_, ?_⟩⟩
    · rw [hlength]
      exact le_textLength_of_version_zero h hzero
    · intro registry
      have hfind := SegwitAddress.find?_ofExpected_of_hrpOf registry hhrp
      exact decode_spelling_of_encode h hhrp hfind htext hlong hsize hspelling
    · intro registry hreach hmem
      have hfind := hreach.wellFormed.find?_claimsHrp hmem hhrp
      exact decode_spelling_of_encode h hhrp hfind htext hlong hsize hspelling
  · have hread : LegacyAddress.decode (.ofExpected registry (some network)) address.encode =
        .ok address := LegacyAddress.decode_only_eq_ok_iff.mpr ⟨_, _, h.make_legacy, rfl⟩
    rw [decode, decodeLegacy, hread]
    rfl

/-- A human-readable part of four ones, in upper case and with no expected network. -/
theorem decode_encode_of_any_network_ones :
    let network := NetworkParameters.make "ones" 1 2 3 (some "1111")
    let address : SegwitAddress := ⟨network, 1, List.replicate 16 7⟩
    let registry := Registry.empty.change (.register network)
    Constructed network (.segwit address) ∧ registry.Reachable ∧ network ∈ registry.networks ∧
      address.encode = .ok "11111pqurswpc8qurswpc8qurswpc8qunfm46a" ∧
      decode (.ofExpected registry none) "11111PQURSWPC8QURSWPC8QURSWPC8QUNFM46A" =
        .ok (.segwit address) ∧
      Constructed network (.p2sh network (.ofNat 20 7)) ∧
      decode (.ofExpected .empty (some network)) (LegacyAddress.encode ⟨network, 2, .ofNat 20 7⟩) =
        .ok (.p2sh network (.ofNat 20 7)) := by
  intro network address registry
  have hok : SegwitAddress.make network 1 (List.replicate 16 7) = .ok address := by cbv
  have hmade : Constructed network (.segwit address) := .segwit hok
  have hreach : registry.Reachable := .change .empty _
  have hmem : network ∈ registry.networks := List.mem_singleton.mpr rfl
  have hwritten : address.encode = .ok "11111pqurswpc8qurswpc8qurswpc8qunfm46a" := by cbv
  obtain ⟨hsegwit, hlegacy⟩ := decode_encode_of_any_network network
  obtain ⟨text, htext, -, hread⟩ := hsegwit address hmade
  obtain rfl : "11111pqurswpc8qurswpc8qurswpc8qunfm46a" = text :=
    Except.ok.inj (hwritten.symm.trans htext)
  have hupper : "11111PQURSWPC8QURSWPC8QURSWPC8QUNFM46A" =
      "11111pqurswpc8qurswpc8qurswpc8qunfm46a".toUpper := by cbv
  obtain ⟨-, hregistered⟩ := hread (by decide +kernel) (by decide +kernel) _ (.inr hupper)
  exact ⟨hmade, hreach, hmem, hwritten, hregistered registry hreach hmem,
    .p2sh _, hlegacy _ (.p2sh _) .empty⟩

end Address

end CoinKeys
