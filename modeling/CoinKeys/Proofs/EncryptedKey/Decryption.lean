import CoinKeys.EncryptedKey.Encryption
import CoinKeys.Proofs.Derivation.Scrypt
import CoinKeys.Proofs.PrivateKey

/-!
# Decryption of a private key

A passphrase unlocks a private key exactly when it unlocks the thirty-two bytes of its secret, and
form and address hash of the private key are the stored ones (`decrypt_eq_ok_iff`). This holds in
both modes.
-/

namespace CoinKeys.EncryptedKey

@[simp] theorem orBadPassphrase_eq_ok_iff {α : Type} {result : Except Error α} {a : α} :
    orBadPassphrase result = .ok a ↔ result = .ok a :=
  mapError_eq_ok_iff

/-! ## Private keys -/

/-- **A passphrase unlocks a private key when it unlocks its secret, and form and address hash are
the stored ones.** -/
theorem decrypt_eq_ok_iff {key : EncryptedKey} {passphrase : String} {unlocked : PrivateKey} :
    key.decrypt passphrase = .ok unlocked ↔
      key.unlockSecret (passphraseBytes passphrase) = .ok unlocked.secret.toBytes ∧
        unlocked.compressed = key.form.compressed ∧
        addressHashOf unlocked key.network = key.addressHash := by
  simp only [decrypt, bind_eq_ok_iff, orBadPassphrase_eq_ok_iff, PrivateKey.ofBytes_eq_ok_iff]
  refine ⟨fun h => ?_, fun h => ?_⟩
  · obtain ⟨secret, hsecret, found, ⟨rfl, hform⟩, h⟩ := h
    split at h
    · next hhash =>
      obtain rfl := pure_eq_ok_iff.mp h
      exact ⟨hsecret, hform.symm, hhash⟩
    · cases h
  · obtain ⟨hsecret, hform, hhash⟩ := h
    refine ⟨_, hsecret, unlocked, ⟨rfl, hform.symm⟩, ?_⟩
    rw [if_pos hhash]
    rfl

theorem decrypt_congr {key : EncryptedKey} {p q : String}
    (h : Text.normalize p = Text.normalize q) : key.decrypt p = key.decrypt q := by
  rw [decrypt, decrypt, passphraseBytes, passphraseBytes, h]

end CoinKeys.EncryptedKey
