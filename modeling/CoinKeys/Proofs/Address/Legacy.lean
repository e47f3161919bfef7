import CoinKeys.Address.Legacy
import CoinKeys.Proofs.Base58.Spelling

/-!
# Legacy addresses are read as they are written

An address is read from its text, and from no other text, in every scope in which its version byte
belongs to its network (`decode_eq_ok_iff`). A reader that expects no network in particular never
reports a wrong one (`decode_registered_ne_wrongNetwork`).

**Theorem (`decode_expected_iff_make`).** A reader that expects a network accepts the texts of the
addresses that can be made for it and no others. A foreign version byte and a payload of another
length are refused as what they are.
-/

namespace CoinKeys.LegacyAddress

theorem make_eq_ok_iff {network : NetworkParameters} {version : UInt8} {hash : FixedBytes 20}
    {address : LegacyAddress} :
    make network version hash = .ok address ↔
      network.claimsVersion version = true ∧ address = ⟨network, version, hash⟩ := by
  rw [make]
  split
  · next hclaims =>
    rw [Except.ok.injEq]
    exact ⟨fun h => ⟨hclaims, h.symm⟩, fun h => h.2.symm⟩
  · next hclaims =>
    refine ⟨fun h => ?_, fun h => ?_⟩
    · cases h
    · obtain ⟨h, -⟩ := h
      exact absurd h hclaims

theorem split_eq_ok_iff {payload : Bytes} {version : UInt8} {hash : FixedBytes 20} :
    split payload = .ok (version, hash) ↔ payload = version :: hash.toList := by
  refine ⟨fun h => ?_, fun h => ?_⟩
  · rw [split.eq_def] at h
    split at h
    · cases h
    · next first rest =>
      split at h
      · next found hfound =>
        obtain ⟨rfl, rfl⟩ := Prod.mk.inj (Except.ok.inj h)
        rw [FixedBytes.ofList?_eq_some_iff.mp hfound]
      · cases h
  · obtain rfl := h
    simp [split]

theorem split_eq_error_iff {payload : Bytes} {fault : Error} :
    split payload = .error fault ↔
      payload.length ≠ 21 ∧ fault = .invalidLength (.legacyPayload payload.length) := by
  cases payload with
  | nil => simp [split, eq_comm]
  | cons version rest =>
    by_cases h : rest.length = 20 <;> simp [split, FixedBytes.ofList?, h, eq_comm]

/-- **An address is read from its text only, where its version byte belongs to its network.** -/
theorem decode_eq_ok_iff {scope : Scope} {text : String} {address : LegacyAddress} :
    decode scope text = .ok address ↔
      text = address.encode ∧
        scope.find? (·.claimsVersion address.version) = some address.network := by
  simp only [decode, bind_eq_ok_iff, Base58.decodeChecked_eq_ok_iff, pure_eq_ok_iff]
  refine ⟨fun h => ?_, fun h => ?_⟩
  · obtain ⟨payload, rfl, ⟨version, hash⟩, hsplit, network, hnetwork, rfl⟩ := h
    obtain rfl := split_eq_ok_iff.mp hsplit
    exact ⟨rfl, Scope.resolve_eq_ok_iff.mp hnetwork⟩
  · obtain ⟨rfl, hfind⟩ := h
    exact ⟨_, rfl, (address.version, address.hash), split_eq_ok_iff.mpr rfl, address.network,
      Scope.resolve_eq_ok_iff.mpr hfind, rfl⟩

theorem decode_registered_eq_ok_iff {registry : Registry} {text : String}
    {address : LegacyAddress} :
    decode (.registered registry) text = .ok address ↔
      text = address.encode ∧ registry.resolveVersion address.version = some address.network := by
  rw [decode_eq_ok_iff, Scope.find?_registered_claimsVersion]

theorem decode_registered_ne_wrongNetwork (registry : Registry) (text : String)
    (fault : ForeignFault) :
    decode (.registered registry) text ≠ .error (.wrongNetwork fault) := by
  intro h
  rcases bind_eq_error_iff.mp h with hread | ⟨payload, -, hpayload⟩
  · cases Base58.decodeChecked_eq_error_iff.mp hread
  · rcases bind_eq_error_iff.mp hpayload with hsplit | ⟨⟨version, hash⟩, -, hresolve⟩
    · obtain ⟨-, hfault⟩ := split_eq_error_iff.mp hsplit
      cases hfault
    · rcases bind_eq_error_iff.mp hresolve with hfault | ⟨network, -, hnetwork⟩
      · exact Scope.resolve_registered_ne_wrongNetwork hfault
      · cases hnetwork

/-! ## Payloads and texts of other lengths -/

theorem decode_of_length_ne {payload : Bytes} (scope : Scope) (h : payload.length ≠ 21) :
    decode scope (Base58.encodeChecked payload) =
      .error (.invalidLength (.legacyPayload payload.length)) := by
  rw [decode, Base58.decodeChecked_encodeChecked]
  have hsplit := split_eq_error_iff.mpr ⟨h, rfl⟩
  exact bind_eq_error_iff.mpr (.inr ⟨payload, rfl, bind_eq_error_iff.mpr (.inl hsplit)⟩)

theorem lt_length_of_decode {text : String} {data : Bytes} (h : Base58.decode text = .ok data)
    (hlong : 36 ≤ text.toList.length) : 25 < data.length := by
  by_contra hshort
  have hbound := Base58.pow_length_le_of_decode h
  have hchars : 58 ^ 36 ≤ 58 ^ text.toList.length := Nat.pow_le_pow_right (by decide) hlong
  have hbytes : 256 ^ data.length ≤ 256 ^ 25 :=
    Nat.pow_le_pow_right (by decide) (Nat.le_of_not_lt hshort)
  omega

/-- A text of thirty-six characters is no legacy address in any scope, and not one of a wrong
network either. -/
theorem exists_fault_of_long (scope : Scope) {text : String} (hlong : 36 ≤ text.toList.length) :
    ∃ fault, decode scope text = .error fault ∧ ∀ f, fault ≠ .wrongNetwork f := by
  cases hread : Base58.decodeChecked text with
  | error fault =>
    refine ⟨fault, by rw [decode, hread]; rfl, ?_⟩
    rintro f rfl
    cases Base58.decodeChecked_eq_error_iff.mp hread
  | ok payload =>
    obtain rfl := Base58.decodeChecked_eq_ok_iff.mp hread
    have hbytes := Base58.decode_encode (payload ++ (Base58.checksum payload).toList)
    have hlength := lt_length_of_decode hbytes hlong
    rw [List.length_append, FixedBytes.length_toList, Base58.checksumSize] at hlength
    refine ⟨_, decode_of_length_ne scope (by omega), fun f hsame => ?_⟩
    cases hsame

/-! ## One expected network -/

theorem decode_of_not_claimsVersion {network : NetworkParameters} {version : UInt8}
    (hash : FixedBytes 20) (h : network.claimsVersion version = false) :
    decode (.only network) (Base58.encodeChecked (version :: hash.toList)) =
      .error (.wrongNetwork (.version version network.id)) := by
  have hsplit : split (version :: hash.toList) = .ok (version, hash) := split_eq_ok_iff.mpr rfl
  rw [decode, Base58.decodeChecked_encodeChecked]
  refine bind_eq_error_iff.mpr (.inr ⟨_, rfl, bind_eq_error_iff.mpr (.inr ⟨_, hsplit, ?_⟩)⟩)
  exact bind_eq_error_iff.mpr (.inl (Scope.resolve_only_of_not_claims h))

theorem decode_only_eq_ok_iff {network : NetworkParameters} {text : String}
    {address : LegacyAddress} :
    decode (.only network) text = .ok address ↔
      ∃ version hash, make network version hash = .ok address ∧ text = address.encode := by
  rw [decode_eq_ok_iff, Scope.find?_only_eq_some_iff]
  simp only [make_eq_ok_iff]
  refine ⟨fun h => ?_, fun h => ?_⟩
  · obtain ⟨htext, hclaims, hnetwork⟩ := h
    exact ⟨address.version, address.hash, ⟨hclaims, hnetwork ▸ rfl⟩, htext⟩
  · obtain ⟨version, hash, ⟨hclaims, rfl⟩, htext⟩ := h
    exact ⟨htext, hclaims, rfl⟩

/-- **Where a network is expected, the texts of its addresses are read and no others.** A version
byte that is not one of the network's is refused by the reader as it is by `make`, and a payload
that is no version byte with a hash is refused with its length, whatever network is expected. -/
theorem decode_expected_iff_make (registry : Registry) (network : NetworkParameters) :
    (∀ text address, decode (.ofExpected registry (some network)) text = .ok address ↔
      ∃ version hash, make network version hash = .ok address ∧ text = address.encode) ∧
    (∀ version, version ≠ network.p2pkh → version ≠ network.p2sh → ∀ hash : FixedBytes 20,
      make network version hash = .error (.wrongNetwork (.notOwnVersion version network.id)) ∧
      decode (.ofExpected registry (some network)) (Base58.encodeChecked (version :: hash.toList)) =
        .error (.wrongNetwork (.version version network.id))) ∧
    ∀ text payload, Base58.decodeChecked text = .ok payload → payload.length ≠ 21 →
      ∀ expected, decode (.ofExpected registry expected) text =
        .error (.invalidLength (.legacyPayload payload.length)) := by
  refine ⟨fun text address => decode_only_eq_ok_iff, ?_, ?_⟩
  · intro version hp2pkh hp2sh hash
    have hclaims : network.claimsVersion version = false := by
      simp [NetworkParameters.claimsVersion, hp2pkh, hp2sh]
    refine ⟨?_, decode_of_not_claimsVersion hash hclaims⟩
    rw [make, hclaims]
    rfl
  · intro text payload hread hlength expected
    obtain rfl := Base58.decodeChecked_eq_ok_iff.mp hread
    exact decode_of_length_ne (.ofExpected registry expected) hlength

/-- A version byte of the test network where the production network is expected, and a payload
without a hash. -/
theorem decode_expected_iff_make_testnet :
    (111 : UInt8) ≠ NetworkParameters.mainnet.p2pkh ∧
      (111 : UInt8) ≠ NetworkParameters.mainnet.p2sh ∧
    make .mainnet 111 (.ofNat 20 7) =
      .error (.wrongNetwork (.notOwnVersion 111 NetworkParameters.mainnet.id)) ∧
    decode (.ofExpected .defaults (some .mainnet))
        (Base58.encodeChecked (111 :: (FixedBytes.ofNat 20 7).toList)) =
      .error (.wrongNetwork (.version 111 NetworkParameters.mainnet.id)) ∧
    Base58.decodeChecked "8M5JoSg" = .ok [65] ∧ ([65] : Bytes).length ≠ 21 ∧
    decode (.ofExpected .defaults none) "8M5JoSg" = .error (.invalidLength (.legacyPayload 1)) := by
  obtain ⟨-, hforeign, hlength⟩ := decode_expected_iff_make .defaults .mainnet
  have hp2pkh : (111 : UInt8) ≠ NetworkParameters.mainnet.p2pkh := by decide
  have hp2sh : (111 : UInt8) ≠ NetworkParameters.mainnet.p2sh := by decide
  have hread : Base58.decodeChecked "8M5JoSg" = .ok [65] := by decide +kernel
  have hshort : ([65] : Bytes).length ≠ 21 := by decide
  obtain ⟨hmake, hdecode⟩ := hforeign 111 hp2pkh hp2sh (.ofNat 20 7)
  exact ⟨hp2pkh, hp2sh, hmake, hdecode, hread, hshort, hlength _ _ hread hshort none⟩

end CoinKeys.LegacyAddress
