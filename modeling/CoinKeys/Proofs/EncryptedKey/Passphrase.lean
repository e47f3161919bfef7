import CoinKeys.Proofs.EncryptedKey.Direct
import CoinKeys.Proofs.EncryptedKey.Multiplied

/-!
# A wrong passphrase is the only fault of decryption

Decryption derives keys with parameters that are always valid, deciphers with cipher keys that
always have the right length, and computes with numbers that may be no scalars. The first two never
fail, and a failure of the third is reported as a bad passphrase, as is a private key whose address
has another hash than the stored one.

**Theorem (`decrypt_ok_or_badPassphrase`).** Whatever an encrypted key holds, a passphrase either
unlocks a private key or is reported as bad. It is bad wherever one of the numbers on the way to the
private key (`Intermediate`) is zero or not below the order of the curve.
-/

namespace CoinKeys.EncryptedKey

variable {locked : EncryptedKey}

/-! ## Faults of the steps -/

theorem onlyFault_orBadPassphrase {α : Type} (result : Except Error α) :
    OnlyFault .badPassphrase (orBadPassphrase result) :=
  onlyFault_mapError Error.badPassphrase result

theorem exists_pointLock (point : FixedBytes 33) (addressHash : FixedBytes 4)
    (entropy : FixedBytes 8) : ∃ lock, pointLock point addressHash entropy = .ok lock := by
  have hvalid : ScryptParams.passPoint.isValid = true := by decide
  exact Scrypt.exists_map_derive_eq_ok hvalid point.toList (addressHash.append entropy).toList
    Lock.ofBytes

theorem onlyFault_unlockSecret (locked : EncryptedKey) (passphrase : Bytes) :
    OnlyFault .badPassphrase (locked.unlockSecret passphrase) := by
  unfold unlockSecret
  cases locked.form.mode with
  | direct =>
    obtain ⟨lock, hlock⟩ := exists_directLock passphrase locked.addressHash
    obtain ⟨secret, hsecret⟩ := lock.exists_unlockSecret_eq_ok locked.content
    exact onlyFault_of_ok (bind_eq_ok_iff.mpr ⟨lock, hlock, hsecret⟩)
  | multiplied hasLot =>
    obtain ⟨factor, hfactor⟩ := exists_passFactor passphrase locked.entropy hasLot
    refine .bind (onlyFault_of_ok hfactor) fun factor _ => ?_
    refine .bind (onlyFault_orBadPassphrase _) fun point _ => ?_
    obtain ⟨lock, hlock⟩ := exists_pointLock point locked.addressHash locked.entropy
    refine .bind (onlyFault_of_ok hlock) fun lock _ => ?_
    obtain ⟨seed, hseed⟩ := lock.exists_unlockSeed_eq_ok locked.content
    refine .bind (onlyFault_of_ok hseed) fun seed _ => ?_
    exact onlyFault_orBadPassphrase _

theorem onlyFault_decrypt (locked : EncryptedKey) (passphrase : String) :
    OnlyFault .badPassphrase (locked.decrypt passphrase) := by
  refine .bind (onlyFault_unlockSecret locked _) fun secret _ => ?_
  refine .bind (onlyFault_orBadPassphrase _) fun key _ => ?_
  split
  · exact onlyFault_of_ok rfl
  · intro e he
    exact (Except.error.inj he).symm

/-! ## Numbers on the way -/

/-- The numbers that have to be scalars on the way from a passphrase to a private key: in multiplied
mode the factor of the passphrase and the factor of the seed, and in both modes the secret. -/
inductive Intermediate (locked : EncryptedKey) (passphrase : Bytes) : FixedBytes 32 → Prop
  | passFactor {hasLot : Bool} {factor : FixedBytes 32}
    (hmode : locked.form.mode = .multiplied hasLot)
    (hfactor : EncryptedKey.passFactor passphrase locked.entropy hasLot = .ok factor) :
    Intermediate locked passphrase factor
  | seedFactor {hasLot : Bool} {factor : Scalar} {lock : Lock} {seed : FixedBytes 24}
    (hmode : locked.form.mode = .multiplied hasLot)
    (hfactor : EncryptedKey.passFactor passphrase locked.entropy hasLot = .ok factor.toBytes)
    (hlock : pointLock (PublicKey.ofScalar factor).compressed locked.addressHash locked.entropy =
      .ok lock)
    (hseed : lock.unlockSeed locked.content = .ok seed) :
    Intermediate locked passphrase (EncryptedKey.seedFactor seed)
  | secret {secret : FixedBytes 32} (h : locked.unlockSecret passphrase = .ok secret) :
    Intermediate locked passphrase secret

/-- The numbers on the way to a private key that is unlocked are scalars. -/
theorem Intermediate.exists_scalar_of_decrypt {passphrase : String} {value : FixedBytes 32}
    {key : PrivateKey} (h : locked.Intermediate (passphraseBytes passphrase) value)
    (hunlock : locked.decrypt passphrase = .ok key) : ∃ k : Scalar, value = k.toBytes := by
  obtain ⟨hsecret, -, -⟩ := decrypt_eq_ok_iff.mp hunlock
  cases h with
  | passFactor hmode hfactor =>
    obtain ⟨a, b, lock, seed, hpass, -⟩ := (unlockSecret_eq_ok_iff_of_multiplied hmode).mp hsecret
    rw [hfactor] at hpass
    exact ⟨a, Except.ok.inj hpass⟩
  | seedFactor hmode hfactor hlock hseed =>
    -- Each step has one result only, so the seed that was unlocked is the given one.
    obtain ⟨a, b, lock, seed, hpass, hpoint, hunlocked, hb, -⟩ :=
      (unlockSecret_eq_ok_iff_of_multiplied hmode).mp hsecret
    rw [hfactor] at hpass
    obtain rfl := Scalar.toBytes_inj.mp (Except.ok.inj hpass)
    rw [hlock] at hpoint
    obtain rfl := Except.ok.inj hpoint
    rw [hseed] at hunlocked
    obtain rfl := Except.ok.inj hunlocked
    exact ⟨b, hb⟩
  | secret h =>
    rw [h] at hsecret
    exact ⟨key.secret, Except.ok.inj hsecret⟩

/-- **A passphrase unlocks a private key, or it is bad.** Nothing else is ever reported, and a
number on the way that is no scalar makes the passphrase bad. -/
theorem decrypt_ok_or_badPassphrase (locked : EncryptedKey) (passphrase : String) :
    ((∃ key, locked.decrypt passphrase = .ok key) ∨
      locked.decrypt passphrase = .error .badPassphrase) ∧
    ∀ value, locked.Intermediate (passphraseBytes passphrase) value →
      value.toNat = 0 ∨ Curve.order ≤ value.toNat →
      locked.decrypt passphrase = .error .badPassphrase := by
  have houtcome := (onlyFault_decrypt locked passphrase).ok_or_error
  refine ⟨houtcome, fun value hvalue hrange => ?_⟩
  rcases houtcome with ⟨key, hunlock⟩ | hbad
  · obtain ⟨k, rfl⟩ := hvalue.exists_scalar_of_decrypt hunlock
    rw [k.toNat_toBytes] at hrange
    have hpos := k.pos
    have hlt := k.lt
    omega
  · exact hbad

/-- A key whose content a passphrase unlocks to zero. -/
theorem decrypt_ok_or_badPassphrase_zero : ∃ locked : EncryptedKey,
    locked.network = .mainnet ∧
    locked.Intermediate (passphraseBytes "Satoshi") (.ofNat 32 0) ∧
    ((FixedBytes.ofNat 32 0).toNat = 0 ∨ Curve.order ≤ (FixedBytes.ofNat 32 0).toNat) ∧
    locked.decrypt "Satoshi" = .error .badPassphrase := by
  obtain ⟨lock, hlock⟩ := exists_directLock (passphraseBytes "Satoshi") (.ofNat 4 0)
  obtain ⟨content, hcontent⟩ := lock.exists_lockSecret_eq_ok (.ofNat 32 0)
  let locked : EncryptedKey := ⟨.mainnet, ⟨.direct, false⟩, .ofNat 4 0, content⟩
  have hsecret : locked.unlockSecret (passphraseBytes "Satoshi") = .ok (.ofNat 32 0) :=
    (unlockSecret_eq_ok_iff_of_direct rfl).mpr ⟨lock, hlock, hcontent⟩
  have hzero : (FixedBytes.ofNat 32 0).toNat = 0 := by rw [FixedBytes.toNat_ofNat, Nat.zero_mod]
  obtain ⟨-, hbad⟩ := decrypt_ok_or_badPassphrase locked "Satoshi"
  exact ⟨locked, rfl, .secret hsecret, .inl hzero, hbad _ (.secret hsecret) (.inl hzero)⟩

end CoinKeys.EncryptedKey
