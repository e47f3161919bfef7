import CoinKeys.Proofs.Curve.Multiplication
import CoinKeys.Proofs.EncryptedKey.Container
import CoinKeys.Proofs.EncryptedKey.Decryption
import CoinKeys.Proofs.EncryptedKey.Lock

/-!
# Multiplied mode

Keys in multiplied mode are made by two parties, none of whom knows the private key, and only their
decryption is part of the library. Here is how they are made. The owner of the passphrase has a
factor from it and from the entropy (`ownerFactor`). The maker has a factor from a seed and encrypts
the seed in two chained blocks (`multipliedContent`) under what is derived from the public key of
the owner's factor (`multipliedPayload`). The private key is the product of both factors, and that
is all that a passphrase ever unlocks in this mode (`unlockSecret_eq_ok_iff_of_multiplied`).

**Theorem (`decrypt_multiplied`).** A key that is made so decrypts to the product.
-/

namespace CoinKeys.EncryptedKey

/-! ## How a key is made -/

/-- The factor of the owner of a passphrase. If the flags have the bit `0x04`, the second half of
the entropy is a lot and a sequence number and is kept out of the expensive derivation. -/
def ownerFactor (passphrase : Bytes) (entropy : FixedBytes 8) (flags : UInt8) :
    Except Error (FixedBytes 32) :=
  if flags &&& 0x04 = 0 then Scrypt.derive ⟨14, 8, 8, 32⟩ passphrase entropy.toList
  else do
    let derived ← Scrypt.derive ⟨14, 8, 8, 32⟩ passphrase (entropy.toList.take 4)
    return Sha256.double (derived.toList ++ entropy.toList)

/-- The size of a cipher block. -/
def blockSize : Nat := 16

/-- The size of half a cipher block. -/
def halfSize : Nat := 8

/-- The entropy, the first half of the first part, and the second part. The second half of the first
part is enciphered in the second part, in front of the last bytes of the seed. -/
def multipliedContent (derived : FixedBytes 64) (entropy : FixedBytes 8) (seed : FixedBytes 24) :
    Except Error (FixedBytes 32) := do
  let cipherKey := derived.toList.drop 32
  let part₁ ← Cipher.encryptBlock cipherKey
    ((seed.slice 0 blockSize).xor (derived.slice 0 blockSize))
  let part₂ ← Cipher.encryptBlock cipherKey
    (((part₁.slice halfSize halfSize).append (seed.slice blockSize halfSize)).xor
      (derived.slice blockSize blockSize))
  return entropy.append ((part₁.slice 0 halfSize).append part₂)

/-- The bytes of the key whose private key has an address with the given hash. -/
def multipliedPayload (factor : Scalar) (addressHash : FixedBytes 4) (entropy : FixedBytes 8)
    (seed : FixedBytes 24) (flags : UInt8) : Except Error Bytes := do
  let derived ← Scrypt.derive ⟨10, 1, 1, 64⟩ (PublicKey.ofScalar factor).compressed.toList
    (addressHash.toList ++ entropy.toList)
  let content ← multipliedContent derived entropy seed
  return [0x01, 0x43, flags] ++ addressHash.toList ++ content.toList

/-! ## What decryption makes of it -/

theorem exists_form_of_flags {flags : UInt8} (h : flags ∈ [0x00, 0x04, 0x20, 0x24]) :
    ∃ form : Form, form.modeByte = 0x43 ∧ form.flags = flags ∧
      form.mode = .multiplied (flags &&& 0x04 != 0) ∧ form.compressed = (flags &&& 0x20 != 0) := by
  obtain ⟨hmodeByte, hflags⟩ := Form.IsCode.eq_ofCode (.inr ⟨rfl, h⟩)
  exact ⟨.ofCode 0x43 flags, hmodeByte, hflags, rfl, rfl⟩

theorem ownerFactor_eq_passFactor (passphrase : Bytes) (entropy : FixedBytes 8) (flags : UInt8) :
    ownerFactor passphrase entropy flags =
      passFactor passphrase entropy (flags &&& 0x04 != 0) := by
  by_cases hlot : flags &&& 0x04 = 0
  · rw [ownerFactor, if_pos hlot, hlot]
    rfl
  · have hbit : (flags &&& 0x04 != 0) = true := bne_iff_ne.mpr hlot
    rw [ownerFactor, if_neg hlot, hbit]
    rfl

theorem exists_passFactor (passphrase : Bytes) (entropy : FixedBytes 8) (hasLot : Bool) :
    ∃ factor, passFactor passphrase entropy hasLot = .ok factor := by
  have hvalid : ScryptParams.passFactor.isValid = true := by decide
  cases hasLot with
  | false => exact Scrypt.exists_derive_eq_ok hvalid passphrase entropy.toList
  | true =>
    obtain ⟨derived, h⟩ :=
      Scrypt.exists_derive_eq_ok hvalid passphrase (entropy.slice 0 4).toList
    exact ⟨_, bind_eq_ok_iff.mpr ⟨derived, h, rfl⟩⟩

theorem exists_multipliedContent (derived : FixedBytes 64) (entropy : FixedBytes 8)
    (seed : FixedBytes 24) :
    ∃ content : FixedBytes 32, multipliedContent derived entropy seed = .ok content ∧
      content.slice 0 8 = entropy ∧ (Lock.ofBytes derived).unlockSeed content = .ok seed := by
  have hkey : derived.toList.drop 32 = (Lock.ofBytes derived).cipherKey.toList := by
    rw [derived.drop_eq_slice_append 32 32 (by decide), List.drop_eq_nil_iff.mpr (by simp),
      List.append_nil]
    rfl
  obtain ⟨part₁, h₁⟩ := (Lock.ofBytes derived).exists_lockBlock_eq_ok
    (Lock.ofBytes derived).mask₁ (seed.slice 0 16)
  obtain ⟨part₂, h₂⟩ := (Lock.ofBytes derived).exists_lockBlock_eq_ok
    (Lock.ofBytes derived).mask₂ ((part₁.slice 8 8).append (seed.slice 16 8))
  refine ⟨entropy.append ((part₁.slice 0 8).append part₂), ?_, ?_, Lock.unlockSeed_eq_ok h₁ h₂⟩
  · rw [multipliedContent, hkey]
    exact bind_eq_ok_iff.mpr ⟨part₁, h₁, bind_eq_ok_iff.mpr ⟨part₂, h₂, rfl⟩⟩
  · exact FixedBytes.slice_append_left entropy _

theorem passPoint_eq_ok_iff {factor : FixedBytes 32} {point : FixedBytes 33} :
    passPoint factor = .ok point ↔
      ∃ a : Scalar, factor = a.toBytes ∧ (PublicKey.ofScalar a).compressed = point := by
  simp only [passPoint, bind_eq_ok_iff, Scalar.ofBytes_eq_ok_iff, pure_eq_ok_iff]

/-- What a passphrase unlocks in multiplied mode is the product of two scalars. -/
theorem unlockSecret_eq_ok_iff_of_multiplied {locked : EncryptedKey} {hasLot : Bool}
    (hmode : locked.form.mode = .multiplied hasLot) {passphrase : Bytes} {secret : FixedBytes 32} :
    locked.unlockSecret passphrase = .ok secret ↔
      ∃ (a b : Scalar) (lock : Lock) (seed : FixedBytes 24),
        passFactor passphrase locked.entropy hasLot = .ok a.toBytes ∧
        pointLock (PublicKey.ofScalar a).compressed locked.addressHash locked.entropy = .ok lock ∧
        lock.unlockSeed locked.content = .ok seed ∧ seedFactor seed = b.toBytes ∧
        secret = .ofNat 32 (a.val * b.val % Curve.order) := by
  simp only [unlockSecret, hmode, bind_eq_ok_iff, orBadPassphrase_eq_ok_iff, passPoint_eq_ok_iff,
    Scalar.multiplyBytes_eq_ok_iff]
  refine ⟨fun h => ?_, fun h => ?_⟩
  · obtain ⟨_, hfactor, _, ⟨a, rfl, rfl⟩, lock, hlock, seed, hseed, k, b, hk, hb, hsecret⟩ := h
    obtain rfl : k = a := Scalar.toBytes_inj.mp hk.symm
    exact ⟨k, b, lock, seed, hfactor, hlock, hseed, hb, hsecret⟩
  · obtain ⟨a, b, lock, seed, hfactor, hlock, hseed, hb, hsecret⟩ := h
    exact ⟨_, hfactor, _, ⟨a, rfl, rfl⟩, lock, hlock, seed, hseed, a, b, rfl, hb, hsecret⟩

theorem unlockSecret_eq_ok_of_multiplied {locked : EncryptedKey} {hasLot : Bool}
    {passphrase : Bytes} {lock : Lock} {seed : FixedBytes 24} {a b k : Scalar}
    (hmode : locked.form.mode = .multiplied hasLot)
    (hfactor : passFactor passphrase locked.entropy hasLot = .ok a.toBytes)
    (hlock : pointLock (PublicKey.ofScalar a).compressed locked.addressHash locked.entropy =
      .ok lock)
    (hseed : lock.unlockSeed locked.content = .ok seed) (hb : seedFactor seed = b.toBytes)
    (hk : k.val = a.val * b.val % Curve.order) :
    locked.unlockSecret passphrase = .ok k.toBytes := by
  have hsecret : k.toBytes = .ofNat 32 (a.val * b.val % Curve.order) := by rw [Scalar.toBytes, hk]
  exact (unlockSecret_eq_ok_iff_of_multiplied hmode).mpr
    ⟨a, b, lock, seed, hfactor, hlock, hseed, hb, hsecret⟩

/-! ## Decryption inverts the construction -/

/-- **A key in multiplied mode decrypts to the product of the two factors that it was made from.**
The construction succeeds whenever both factors and the product are scalars, that is, neither zero
nor as large as the order. -/
theorem decrypt_multiplied (network : NetworkParameters) {passphrase : String}
    (entropy : FixedBytes 8) (seed : FixedBytes 24) {flags : UInt8}
    (hcomposed : Text.normalize passphrase = passphrase)
    (hflags : flags ∈ [0x00, 0x04, 0x20, 0x24]) :
    ∃ factor, ownerFactor (Text.utf8 passphrase) entropy flags = .ok factor ∧
      ∀ a b k : Scalar, factor = a.toBytes → Sha256.double seed.toList = b.toBytes →
        k.val = a.val * b.val % Curve.order →
        ∃ payload, multipliedPayload a
            (hashOfAddress ((PrivateKey.mk k (flags &&& 0x20 != 0)).address network).encode)
            entropy seed flags = .ok payload ∧
          (decode network (Base58.encodeChecked payload) >>= (·.decrypt passphrase)) =
            .ok ⟨k, flags &&& 0x20 != 0⟩ := by
  obtain ⟨factor, hfactor⟩ :=
    exists_passFactor (Text.utf8 passphrase) entropy (flags &&& 0x04 != 0)
  refine ⟨factor, (ownerFactor_eq_passFactor _ _ _).trans hfactor, ?_⟩
  rintro a b k rfl hb hk
  obtain ⟨form, hmodeByte, hformFlags, hmode, hcompressed⟩ := exists_form_of_flags hflags
  let key : PrivateKey := ⟨k, flags &&& 0x20 != 0⟩
  let addressHash := hashOfAddress (key.address network).encode
  have hvalid : ScryptParams.passPoint.isValid = true := by decide
  obtain ⟨derived, hderived⟩ := Scrypt.exists_derive_eq_ok hvalid
    (PublicKey.ofScalar a).compressed.toList (addressHash.append entropy).toList
  obtain ⟨content, hcontent, hentropy, hseed⟩ := exists_multipliedContent derived entropy seed
  let locked : EncryptedKey := ⟨network, form, addressHash, content⟩
  have hpayload : multipliedPayload a addressHash entropy seed flags = .ok locked.payload := by
    refine bind_eq_ok_iff.mpr ⟨derived, hderived, bind_eq_ok_iff.mpr ⟨content, hcontent, ?_⟩⟩
    rw [pure_eq_ok_iff, payload, hmodeByte, hformFlags]
    rfl
  have hlock : pointLock (PublicKey.ofScalar a).compressed addressHash entropy =
      .ok (Lock.ofBytes derived) :=
    map_eq_ok_iff.mpr ⟨derived, hderived, rfl⟩
  have hread : decode network (Base58.encodeChecked locked.payload) = .ok locked :=
    decode_eq_ok_iff.mpr ⟨rfl, rfl⟩
  -- Decryption arrives at the factor, the lock and the seed that the key was made from.
  have hunlock : locked.decrypt passphrase = .ok key := by
    refine decrypt_eq_ok_iff.mpr ⟨?_, hcompressed.symm, rfl⟩
    rw [passphraseBytes, hcomposed]
    have hlocked : locked.entropy = entropy := hentropy
    rw [← hlocked] at hfactor hlock
    exact unlockSecret_eq_ok_of_multiplied hmode hfactor hlock hseed hb hk
  exact ⟨locked.payload, hpayload, bind_eq_ok_iff.mpr ⟨locked, hread, hunlock⟩⟩

/-- A key with a lot and a sequence number, whose public key has the short form. Its seed factor is
known, and whatever the factor of the owner is, a product of both exists. -/
theorem decrypt_multiplied_lot :
    let entropy := FixedBytes.ofNat 8 0x4fca5a9740100001
    let seed := FixedBytes.ofNat 24 1
    let b : Scalar :=
      ⟨0x1438234fc4bc4c70111dd0ce42d936a07e6d4a70319a7cdbe64763302adc7530, by decide, by decide⟩
    Text.normalize "MOLON LABE" = "MOLON LABE" ∧ (0x24 : UInt8) ∈ [0x00, 0x04, 0x20, 0x24] ∧
      Sha256.double seed.toList = b.toBytes ∧
      ∃ factor, ownerFactor (Text.utf8 "MOLON LABE") entropy 0x24 = .ok factor ∧
        ∀ a : Scalar, factor = a.toBytes →
          ∃ k : Scalar, k.val = a.val * b.val % Curve.order ∧
            ∃ payload, multipliedPayload a
                (hashOfAddress ((PrivateKey.mk k true).address .mainnet).encode)
                entropy seed 0x24 = .ok payload ∧
              (decode .mainnet (Base58.encodeChecked payload) >>= (·.decrypt "MOLON LABE")) =
                .ok ⟨k, true⟩ := by
  intro entropy seed b
  have hcomposed : Text.normalize "MOLON LABE" = "MOLON LABE" := by cbv
  have hflags : (0x24 : UInt8) ∈ [0x00, 0x04, 0x20, 0x24] := by decide
  have hb : Sha256.double seed.toList = b.toBytes := by decide +kernel
  obtain ⟨factor, hfactor, hdecrypt⟩ :=
    decrypt_multiplied .mainnet entropy seed hcomposed hflags
  refine ⟨hcomposed, hflags, hb, factor, hfactor, fun a ha => ?_⟩
  obtain ⟨k, hk⟩ := Scalar.exists_val_eq_mul a b
  exact ⟨k, hk, hdecrypt a b k ha hb hk⟩

end CoinKeys.EncryptedKey
