import CoinKeys.Proofs.EncryptedKey.Direct

/-!
# Encrypted keys on networks that share a version byte

An encrypted key carries its network along: it is read from the same texts for every network
(`decode_eq_map_onNetwork`), and no step of decryption looks at the network but the last one, which
compares the hash of an address. That address is written with one version byte of the network, so
neither the id nor any other field of the network takes part.

**Theorem (`outcome_of_same_p2pkh`).** On two networks with the same version byte for public key
hashes, a text and a passphrase give the same private key or the same fault, and a private key is
encrypted to the same text.
-/

namespace CoinKeys.EncryptedKey

variable {a b : NetworkParameters}

/-- The same key on another network. -/
def onNetwork (key : EncryptedKey) (network : NetworkParameters) : EncryptedKey :=
  { key with network }

@[simp] theorem network_onNetwork (key : EncryptedKey) (network : NetworkParameters) :
    (key.onNetwork network).network = network := rfl

@[simp] theorem encode_onNetwork (key : EncryptedKey) (network : NetworkParameters) :
    (key.onNetwork network).encode = key.encode := rfl

@[simp] theorem unlockSecret_onNetwork (key : EncryptedKey) (network : NetworkParameters)
    (passphrase : Bytes) :
    (key.onNetwork network).unlockSecret passphrase = key.unlockSecret passphrase := rfl

/-! ## Reading -/

theorem ofPayload_eq_map_onNetwork (a b : NetworkParameters) (payload : FixedBytes payloadSize) :
    ofPayload b payload = (ofPayload a payload).map (·.onNetwork b) := by
  rw [ofPayload, ofPayload]
  by_cases hmarker : payload.byte 0 = marker
  · rw [if_pos hmarker, if_pos hmarker]
    cases Form.ofBytes (payload.byte 1) (payload.byte 2) <;> rfl
  · rw [if_neg hmarker, if_neg hmarker]
    rfl

/-- **A text is read alike for all networks**, and what is wrong with it does not depend on the
network either. -/
theorem decode_eq_map_onNetwork (a b : NetworkParameters) (text : String) :
    decode b text = (decode a text).map (·.onNetwork b) := by
  rw [decode, decode]
  cases Base58.decodeChecked text with
  | error fault => rfl
  | ok bytes =>
    simp only [bind, Except.bind]
    cases FixedBytes.ofList? bytes with
    | none => rfl
    | some payload => exact ofPayload_eq_map_onNetwork a b payload

/-! ## Decryption and encryption -/

theorem addressHashOf_congr (h : a.p2pkh = b.p2pkh) (key : PrivateKey) :
    addressHashOf key a = addressHashOf key b := by
  have htext : (key.address a).encode = (key.address b).encode := by
    simp only [PrivateKey.address, LegacyAddress.encode, h]
  rw [addressHashOf, addressHashOf, htext]

theorem decrypt_onNetwork {key : EncryptedKey} (h : key.network.p2pkh = b.p2pkh)
    (passphrase : String) : (key.onNetwork b).decrypt passphrase = key.decrypt passphrase := by
  rw [decrypt, decrypt, unlockSecret_onNetwork]
  apply bind_congr
  intro secret
  apply bind_congr
  intro unlocked
  -- The network comes in only where the address of the unlocked key is hashed.
  rw [network_onNetwork, addressHashOf_congr h]
  rfl

theorem encrypt_eq_map_onNetwork (h : a.p2pkh = b.p2pkh) (key : PrivateKey) (passphrase : String) :
    encrypt key passphrase b = (encrypt key passphrase a).map (·.onNetwork b) := by
  rw [encrypt, encrypt, addressHashOf_congr h]
  cases directLock (passphraseBytes passphrase) (addressHashOf key b) with
  | error fault => rfl
  | ok lock =>
    simp only [bind, Except.bind]
    cases lock.lockSecret key.secret.toBytes <;> rfl

/-- **Networks with the same version byte for public key hashes have the same encrypted keys.** A
text is read for one as for the other, a passphrase unlocks the same private key or is refused for
the same fault, and encryption, which never fails, gives the same text. -/
theorem outcome_of_same_p2pkh (h : a.p2pkh = b.p2pkh) :
    (∀ text, decode b text = (decode a text).map (·.onNetwork b)) ∧
    (∀ text passphrase, (decode b text >>= fun locked => locked.decrypt passphrase) =
      decode a text >>= fun locked => locked.decrypt passphrase) ∧
    ∀ key passphrase, ∃ locked locked', encrypt key passphrase a = .ok locked ∧
      encrypt key passphrase b = .ok locked' ∧ locked'.encode = locked.encode := by
  refine ⟨decode_eq_map_onNetwork a b, ?_, ?_⟩
  · intro text passphrase
    rw [decode_eq_map_onNetwork a b]
    cases hread : decode a text with
    | error fault => rfl
    | ok locked =>
      obtain ⟨-, rfl⟩ := decode_eq_ok_iff.mp hread
      exact decrypt_onNetwork h passphrase
  · intro key passphrase
    obtain ⟨locked, hlocked⟩ := exists_encrypt_eq_ok key passphrase a
    refine ⟨locked, locked.onNetwork b, hlocked, ?_, encode_onNetwork locked b⟩
    rw [encrypt_eq_map_onNetwork h, hlocked]
    rfl

/-- What is encrypted for the public test network is decrypted on a network that shares nothing but
one version byte with it. -/
theorem outcome_of_same_p2pkh_foreign :
    NetworkParameters.testnet.p2pkh =
        (⟨"foreign", 111, 1, 2, some "XY"⟩ : NetworkParameters).p2pkh ∧
    ∃ text, (decode .testnet text >>= fun locked => locked.decrypt "Satoshi") =
        .ok ⟨⟨1, by decide, by decide⟩, true⟩ ∧
      (decode ⟨"foreign", 111, 1, 2, some "XY"⟩ text >>= fun locked => locked.decrypt "Satoshi") =
        .ok ⟨⟨1, by decide, by decide⟩, true⟩ ∧
      ∃ locked, encrypt ⟨⟨1, by decide, by decide⟩, true⟩ "Satoshi"
        ⟨"foreign", 111, 1, 2, some "XY"⟩ = .ok locked ∧ locked.encode = text := by
  have hp2pkh : NetworkParameters.testnet.p2pkh =
      (⟨"foreign", 111, 1, 2, some "XY"⟩ : NetworkParameters).p2pkh := rfl
  obtain ⟨-, hdecrypt, hencrypt⟩ := outcome_of_same_p2pkh hp2pkh
  obtain ⟨locked, locked', hlocked, hlocked', htext⟩ :=
    hencrypt ⟨⟨1, by decide, by decide⟩, true⟩ "Satoshi"
  obtain ⟨hnetwork, hform, -, -⟩ := encrypt_eq_ok_iff.mp hlocked
  have hmode : locked.form.mode = .direct := by rw [hform]
  have hread : decode .testnet locked.encode = .ok locked := decode_eq_ok_iff.mpr ⟨rfl, hnetwork⟩
  have hunlock : locked.decrypt "Satoshi" = .ok ⟨⟨1, by decide, by decide⟩, true⟩ := by
    rw [decrypt_eq_ok_iff_encrypt hmode, hnetwork]
    exact hlocked
  have hown : (decode .testnet locked.encode >>= fun locked => locked.decrypt "Satoshi") =
      .ok ⟨⟨1, by decide, by decide⟩, true⟩ := bind_eq_ok_iff.mpr ⟨locked, hread, hunlock⟩
  exact ⟨hp2pkh, locked.encode, hown, (hdecrypt _ _).trans hown, locked', hlocked', htext⟩

end CoinKeys.EncryptedKey
