import CoinKeys.PrivateKey
import CoinKeys.Proofs.Base58
import CoinKeys.Proofs.Curve.Scalar

/-!
# Private keys are read as they are written

What is stored of a private key is a version byte, thirty-two bytes and perhaps a marker, and the
length tells whether the marker is there. So a payload is split in one way only
(`Stored.ofPayload_eq_ok_iff`), and whether the secret is a scalar is asked last.

**Theorem (`decode_expected_iff_encode`).** Where a network is expected, a private key is read, with
the form of its public key, from its text for that network and from no other text. What has the
shape of such a text but stores no scalar is refused as no secret key.
-/

namespace CoinKeys.PrivateKey

theorem ofBytes_eq_ok_iff {secret : FixedBytes 32} {compressed : Bool} {key : PrivateKey} :
    ofBytes secret.toList compressed = .ok key ↔
      secret = key.secret.toBytes ∧ compressed = key.compressed := by
  simp only [ofBytes, map_eq_ok_iff, Scalar.ofBytes_eq_ok_iff]
  refine ⟨fun h => ?_, fun h => ?_⟩
  · obtain ⟨scalar, rfl, rfl⟩ := h
    exact ⟨rfl, rfl⟩
  · obtain ⟨rfl, rfl⟩ := h
    exact ⟨key.secret, rfl, rfl⟩

/-! ## Payloads -/

/-- What follows the secret. -/
def markerBytes (compressed : Bool) : Bytes :=
  if compressed then [compressedMarker] else []

/-- The bytes that a private key is stored in. -/
def Stored.payload (stored : Stored) : Bytes :=
  stored.version :: (stored.secret ++ markerBytes stored.compressed)

/-- A payload is split into the parts that it is put together from, and the secret among them takes
thirty-two bytes. -/
theorem Stored.ofPayload_eq_ok_iff {payload : Bytes} {stored : Stored} :
    ofPayload payload = .ok stored ↔ stored.secret.length = 32 ∧ payload = stored.payload := by
  refine ⟨fun h => ?_, fun h => ?_⟩
  · cases payload with
    | nil => cases h
    | cons version rest =>
      -- What stands behind the first thirty-two bytes is nothing, the marker, or too much.
      have hrest := List.take_append_drop 32 rest
      simp only [ofPayload] at h
      split at h
      · next hnone =>
        split at h
        · next hlength =>
          obtain rfl := Except.ok.inj h
          rw [hnone] at hrest
          exact ⟨hlength, congrArg (version :: ·) hrest.symm⟩
        · cases h
      · next marker hmarker =>
        split at h
        · next hone =>
          obtain rfl := Except.ok.inj h
          rw [hmarker, hone] at hrest
          have hlength : rest.length - 32 = 1 := by rw [← List.length_drop, hmarker]; rfl
          exact ⟨by simp; omega, congrArg (version :: ·) hrest.symm⟩
        · cases h
      · cases h
  · obtain ⟨version, secret, compressed⟩ := stored
    obtain ⟨hlength, rfl⟩ := h
    dsimp only at hlength
    simp only [ofPayload, payload, List.take_left' hlength, List.drop_left' hlength]
    cases compressed with
    | false => exact if_pos hlength
    | true => rfl

theorem Stored.ofPayload_payload (version : UInt8) (secret : FixedBytes 32) (compressed : Bool) :
    ofPayload (payload ⟨version, secret.toList, compressed⟩) =
      .ok ⟨version, secret.toList, compressed⟩ :=
  ofPayload_eq_ok_iff.mpr ⟨secret.length_toList, rfl⟩

theorem Stored.ofPayload_of_length_ne {payload : Bytes} (hlong : payload.length ≠ 33)
    (hmarked : payload.length ≠ 34) :
    ofPayload payload = .error (.invalidLength (.privateKeyPayload payload.length)) := by
  cases payload with
  | nil => rfl
  | cons version rest =>
    rw [List.length_cons] at hlong hmarked
    simp only [ofPayload]
    split
    · next hnone =>
      have hle := List.drop_eq_nil_iff.mp hnone
      have hne : (rest.take 32).length ≠ 32 := by
        rw [List.length_take]
        omega
      rw [if_neg hne]
    · next marker hmarker =>
      have hlength := congrArg List.length hmarker
      rw [List.length_drop, List.length_singleton] at hlength
      omega
    · rfl

theorem encode_eq (key : PrivateKey) (network : NetworkParameters) :
    key.encode network = Base58.encodeChecked
      (Stored.payload ⟨network.wif, key.secret.toBytes.toList, key.compressed⟩) := by
  simp only [encode, Stored.payload, markerBytes, List.cons_append]

/-! ## Texts -/

/-- What has the shape of a stored key belongs to a network first and is a scalar second. -/
theorem decode_payload (scope : Scope) (version : UInt8) (secret : FixedBytes 32)
    (compressed : Bool) :
    decode scope (Base58.encodeChecked (Stored.payload ⟨version, secret.toList, compressed⟩)) = do
      let network ← scope.resolve (·.wif == version) (.keyVersion version)
        (.unknownKeyVersion version)
      let key ← ofBytes secret.toList compressed
      return (key, network) := by
  rw [decode, Base58.decodeChecked_encodeChecked]
  simp only [bind, Except.bind, Stored.ofPayload_payload]

theorem decode_of_length_ne {payload : Bytes} (scope : Scope) (hlong : payload.length ≠ 33)
    (hmarked : payload.length ≠ 34) :
    decode scope (Base58.encodeChecked payload) =
      .error (.invalidLength (.privateKeyPayload payload.length)) := by
  rw [decode, Base58.decodeChecked_encodeChecked]
  have hsplit := Stored.ofPayload_of_length_ne hlong hmarked
  exact bind_eq_error_iff.mpr (.inr ⟨payload, rfl, bind_eq_error_iff.mpr (.inl hsplit)⟩)

/-- **A private key is read from its text only, where its version byte belongs to its network.** -/
theorem decode_eq_ok_iff {scope : Scope} {text : String} {key : PrivateKey}
    {network : NetworkParameters} :
    decode scope text = .ok (key, network) ↔
      text = key.encode network ∧ scope.find? (·.wif == network.wif) = some network := by
  refine ⟨fun h => ?_, fun h => ?_⟩
  · simp only [decode, bind_eq_ok_iff, Base58.decodeChecked_eq_ok_iff, Stored.ofPayload_eq_ok_iff,
      Scope.resolve_eq_ok_iff, pure_eq_ok_iff] at h
    obtain ⟨_, rfl, ⟨version, bytes, compressed⟩, ⟨hlength, rfl⟩, owner, hfind, found, hkey, h⟩ := h
    obtain ⟨rfl, rfl⟩ := Prod.mk.inj h
    obtain rfl : owner.wif = version := eq_of_beq (Scope.claims_of_find? hfind)
    obtain ⟨secret, rfl⟩ : ∃ secret : FixedBytes 32, secret.toList = bytes :=
      ⟨⟨bytes, hlength⟩, rfl⟩
    obtain ⟨rfl, rfl⟩ := ofBytes_eq_ok_iff.mp hkey
    exact ⟨(encode_eq found owner).symm, hfind⟩
  · obtain ⟨rfl, hfind⟩ := h
    rw [encode_eq, decode_payload, Scope.resolve_eq_ok_iff.mpr hfind,
      ofBytes_eq_ok_iff.mpr ⟨rfl, rfl⟩]
    rfl

theorem decode_payload_of_not_scalar {network : NetworkParameters} {secret : FixedBytes 32}
    (h : secret.toNat = 0 ∨ Curve.order ≤ secret.toNat) (compressed : Bool) :
    decode (.only network)
        (Base58.encodeChecked (Stored.payload ⟨network.wif, secret.toList, compressed⟩)) =
      .error (.curve .secretKey) := by
  have hfind : (Scope.only network).find? (·.wif == network.wif) = some network :=
    Scope.find?_only_eq_some_iff.mpr ⟨beq_self_eq_true network.wif, rfl⟩
  rw [decode_payload, Scope.resolve_eq_ok_iff.mpr hfind, ofBytes,
    Scalar.ofBytes_eq_error_iff.mpr ⟨h, rfl⟩]
  rfl

/-- **Where a network is expected, a private key is read from its text for that network and from no
other text.** Thirty-two bytes that are no scalar are refused as no secret key behind the version
byte of the network, with the marker and without it. -/
theorem decode_expected_iff_encode (registry : Registry) (network : NetworkParameters) :
    (∀ text key owner, decode (.ofExpected registry (some network)) text = .ok (key, owner) ↔
      text = key.encode network ∧ owner = network) ∧
    ∀ secret : FixedBytes 32, secret.toNat = 0 ∨ Curve.order ≤ secret.toNat →
      ∀ marker ∈ ([[], [0x01]] : List Bytes),
        decode (.ofExpected registry (some network))
            (Base58.encodeChecked (network.wif :: (secret.toList ++ marker))) =
          .error (.curve .secretKey) := by
  refine ⟨fun text key owner => ?_, ?_⟩
  · rw [Scope.ofExpected, decode_eq_ok_iff, Scope.find?_only_eq_some_iff, beq_iff_eq]
    refine ⟨fun h => ?_, fun h => ?_⟩
    · obtain ⟨htext, -, rfl⟩ := h
      exact ⟨htext, rfl⟩
    · obtain ⟨htext, rfl⟩ := h
      exact ⟨htext, rfl, rfl⟩
  · intro secret hsecret marker hmarker
    simp only [List.mem_cons, List.not_mem_nil, or_false] at hmarker
    rcases hmarker with rfl | rfl
    · exact decode_payload_of_not_scalar hsecret false
    · exact decode_payload_of_not_scalar hsecret true

/-- The order of the curve with a marker behind it. -/
theorem decode_expected_iff_encode_order :
    ((FixedBytes.ofNat 32 Curve.order).toNat = 0 ∨
      Curve.order ≤ (FixedBytes.ofNat 32 Curve.order).toNat) ∧
    [0x01] ∈ ([[], [0x01]] : List Bytes) ∧
    decode (.ofExpected .defaults (some .mainnet))
        (Base58.encodeChecked (107 :: ((FixedBytes.ofNat 32 Curve.order).toList ++ [0x01]))) =
      .error (.curve .secretKey) := by
  obtain ⟨-, hrefused⟩ := decode_expected_iff_encode .defaults .mainnet
  have horder : Curve.order ≤ (FixedBytes.ofNat 32 Curve.order).toNat := by
    rw [FixedBytes.toNat_ofNat]
    decide
  have hmarker : [0x01] ∈ ([[], [0x01]] : List Bytes) := by decide
  exact ⟨.inr horder, hmarker, hrefused _ (.inr horder) _ hmarker⟩

end CoinKeys.PrivateKey
