import CoinKeys.Proofs.EncryptedKey.Container
import CoinKeys.Proofs.EncryptedKey.Decryption
import CoinKeys.Proofs.EncryptedKey.Lock

/-!
# Direct mode

Encryption and decryption are written separately, with the masks applied before the cipher in one
and after it in the other, and with the address hash computed in one and stored in the other. They
are inverse to each other all the same: a key in direct mode unlocks a private key exactly when
encrypting the private key gives that key (`decrypt_eq_ok_iff_encrypt`). Two theorems follow.

**Theorem (`decrypt_encrypt`).** What encryption makes is read from its text and decrypts to the
private key, under every passphrase with the same composed form.

**Theorem (`encrypt_of_decrypt`).** What decryption accepts is a key that encryption takes back to
the same text.
-/

namespace CoinKeys.EncryptedKey

theorem exists_directLock (passphrase : Bytes) (addressHash : FixedBytes 4) :
    ∃ lock, directLock passphrase addressHash = .ok lock := by
  have hvalid : ScryptParams.passphrase.isValid = true := by decide
  exact Scrypt.exists_map_derive_eq_ok hvalid passphrase addressHash.toList Lock.ofBytes

/-! ## Encryption as the inverse of decryption -/

theorem exists_encrypt_eq_ok (key : PrivateKey) (passphrase : String)
    (network : NetworkParameters) : ∃ locked, encrypt key passphrase network = .ok locked := by
  obtain ⟨lock, hlock⟩ :=
    exists_directLock (passphraseBytes passphrase) (addressHashOf key network)
  obtain ⟨content, hcontent⟩ := lock.exists_lockSecret_eq_ok key.secret.toBytes
  simp only [encrypt, bind_eq_ok_iff, pure_eq_ok_iff]
  exact ⟨_, lock, hlock, content, hcontent, rfl⟩

theorem encrypt_eq_ok_iff {key : PrivateKey} {passphrase : String} {network : NetworkParameters}
    {locked : EncryptedKey} :
    encrypt key passphrase network = .ok locked ↔
      locked.network = network ∧ locked.form = ⟨.direct, key.compressed⟩ ∧
        locked.addressHash = addressHashOf key network ∧
        ∃ lock, directLock (passphraseBytes passphrase) locked.addressHash = .ok lock ∧
          lock.lockSecret key.secret.toBytes = .ok locked.content := by
  simp only [encrypt, bind_eq_ok_iff, pure_eq_ok_iff]
  refine ⟨fun h => ?_, fun h => ?_⟩
  · obtain ⟨lock, hlock, content, hcontent, rfl⟩ := h
    exact ⟨rfl, rfl, rfl, lock, hlock, hcontent⟩
  · obtain ⟨_, _, _, content⟩ := locked
    dsimp only at h
    obtain ⟨rfl, rfl, rfl, lock, hlock, hcontent⟩ := h
    exact ⟨lock, hlock, content, hcontent, rfl⟩

theorem unlockSecret_eq_ok_iff_of_direct {locked : EncryptedKey}
    (hmode : locked.form.mode = .direct)
    {passphrase : Bytes} {secret : FixedBytes 32} :
    locked.unlockSecret passphrase = .ok secret ↔
      ∃ lock, directLock passphrase locked.addressHash = .ok lock ∧
        lock.lockSecret secret = .ok locked.content := by
  simp only [unlockSecret, hmode, bind_eq_ok_iff, Lock.lockSecret_eq_ok_iff]

/-- **In direct mode, a private key is unlocked from what it is encrypted to, and from nothing
else.** -/
theorem decrypt_eq_ok_iff_encrypt {locked : EncryptedKey} (hmode : locked.form.mode = .direct)
    {passphrase : String} {key : PrivateKey} :
    locked.decrypt passphrase = .ok key ↔ encrypt key passphrase locked.network = .ok locked := by
  have hform : locked.form = ⟨.direct, key.compressed⟩ ↔
      key.compressed = locked.form.compressed := by
    rw [← hmode]
    refine ⟨fun h => ?_, fun h => ?_⟩
    · exact (congrArg Form.compressed h).symm
    · rw [h]
  rw [decrypt_eq_ok_iff, encrypt_eq_ok_iff, unlockSecret_eq_ok_iff_of_direct hmode, hform]
  refine ⟨fun h => ?_, fun h => ?_⟩
  · obtain ⟨hsecret, hcompressed, hhash⟩ := h
    exact ⟨rfl, hcompressed, hhash.symm, hsecret⟩
  · obtain ⟨-, hcompressed, hhash, hsecret⟩ := h
    exact ⟨hsecret, hcompressed, hhash.symm⟩

/-! ## Encryption, then decryption -/

/-- **An encrypted private key comes back from its text, under every spelling of the
passphrase.** Encryption never fails. -/
theorem decrypt_encrypt (key : PrivateKey) (passphrase : String) (network : NetworkParameters) :
    ∃ locked, encrypt key passphrase network = .ok locked ∧
      decode network locked.encode = .ok locked ∧
      ∀ other, Text.normalize other = Text.normalize passphrase →
        locked.decrypt other = .ok key := by
  obtain ⟨locked, hlocked⟩ := exists_encrypt_eq_ok key passphrase network
  obtain ⟨hnetwork, hform, -, -⟩ := encrypt_eq_ok_iff.mp hlocked
  have hmode : locked.form.mode = .direct := by rw [hform]
  refine ⟨locked, hlocked, decode_eq_ok_iff.mpr ⟨rfl, hnetwork⟩, ?_⟩
  intro other hother
  rw [decrypt_congr hother, decrypt_eq_ok_iff_encrypt hmode, hnetwork]
  exact hlocked

/-! ## Decryption, then encryption -/

theorem Form.compressed_eq_flags (form : Form) :
    form.compressed = (form.flags &&& 0x20 != 0) :=
  congrArg Form.compressed form.ofCode_modeByte_flags.symm

/-- **A private key is accepted only from a text that is its own.** It has the form that the flags
tell and an address with the stored hash, and in direct mode encrypting it gives the text back. -/
theorem encrypt_of_decrypt {network : NetworkParameters} {text : String} {locked : EncryptedKey}
    {passphrase : String} {key : PrivateKey} (hread : decode network text = .ok locked)
    (hunlock : locked.decrypt passphrase = .ok key) :
    key.compressed = (locked.form.flags &&& 0x20 != 0) ∧
      hashOfAddress (key.address network).encode = locked.addressHash ∧
      (locked.form.mode = .direct →
        encrypt key passphrase network = .ok locked ∧ locked.encode = text) := by
  obtain ⟨htext, rfl⟩ := decode_eq_ok_iff.mp hread
  obtain ⟨-, hcompressed, hhash⟩ := decrypt_eq_ok_iff.mp hunlock
  refine ⟨?_, hhash, ?_⟩
  · rw [hcompressed, Form.compressed_eq_flags]
  · intro hmode
    exact ⟨(decrypt_eq_ok_iff_encrypt hmode).mp hunlock, htext.symm⟩

/-- The text that the secret one is encrypted to for the production network is its own. -/
theorem encrypt_of_decrypt_one : ∃ (text : String) (locked : EncryptedKey) (key : PrivateKey),
    key = ⟨⟨1, by decide, by decide⟩, true⟩ ∧
      decode .mainnet text = .ok locked ∧
      locked.decrypt "TestingOneTwoThree" = .ok key ∧
      key.compressed = (locked.form.flags &&& 0x20 != 0) ∧
      hashOfAddress (key.address .mainnet).encode = locked.addressHash ∧
      (locked.form.mode = .direct →
        encrypt key "TestingOneTwoThree" .mainnet = .ok locked ∧ locked.encode = text) := by
  obtain ⟨locked, hlocked⟩ :=
    exists_encrypt_eq_ok ⟨⟨1, by decide, by decide⟩, true⟩ "TestingOneTwoThree" .mainnet
  obtain ⟨hnetwork, hform, -, -⟩ := encrypt_eq_ok_iff.mp hlocked
  have hmode : locked.form.mode = .direct := by rw [hform]
  have hread : decode .mainnet locked.encode = .ok locked := decode_eq_ok_iff.mpr ⟨rfl, hnetwork⟩
  have hunlock : locked.decrypt "TestingOneTwoThree" = .ok ⟨⟨1, by decide, by decide⟩, true⟩ := by
    rw [decrypt_eq_ok_iff_encrypt hmode, hnetwork]
    exact hlocked
  exact ⟨_, locked, _, rfl, hread, hunlock, encrypt_of_decrypt hread hunlock⟩

end CoinKeys.EncryptedKey
