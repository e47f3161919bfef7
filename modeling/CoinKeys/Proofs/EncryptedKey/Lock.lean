import CoinKeys.EncryptedKey.Encryption
import CoinKeys.Proofs.Cipher.Aes256
import CoinKeys.Proofs.Outcome

/-!
# Locking and unlocking

A block is locked to another one exactly when the other one unlocks to it, and the same holds of the
two blocks of a secret (`Lock.lockSecret_eq_ok_iff`). A seed unlocks from its two chained blocks,
half of the first of which stands inside the second (`Lock.unlockSeed_eq_ok`). Neither locking nor
unlocking ever fails, whatever is locked.
-/

namespace CoinKeys.EncryptedKey

variable {lock : Lock}

/-! ## Blocks -/

theorem Lock.lockBlock_eq_ok_iff {mask plain locked : FixedBytes 16} :
    lock.lockBlock mask plain = .ok locked ↔ lock.unlockBlock mask locked = .ok plain := by
  rw [lockBlock, unlockBlock, Cipher.encryptBlock_eq_ok_iff, map_eq_ok_iff]
  refine ⟨fun h => ?_, fun h => ?_⟩
  · exact ⟨plain.xor mask, h, FixedBytes.xor_xor_cancel plain mask⟩
  · obtain ⟨masked, h, rfl⟩ := h
    rwa [FixedBytes.xor_xor_cancel]

theorem Lock.exists_lockBlock_eq_ok (lock : Lock) (mask plain : FixedBytes 16) :
    ∃ locked, lock.lockBlock mask plain = .ok locked :=
  Cipher.exists_encryptBlock_eq_ok lock.cipherKey (plain.xor mask)

theorem Lock.exists_unlockBlock_eq_ok (lock : Lock) (mask locked : FixedBytes 16) :
    ∃ plain, lock.unlockBlock mask locked = .ok plain := by
  obtain ⟨plain, h⟩ := Cipher.exists_decryptBlock_eq_ok lock.cipherKey locked
  exact ⟨plain.xor mask, map_eq_ok_iff.mpr ⟨plain, h, rfl⟩⟩

/-! ## Secrets -/

theorem bind_append_eq_ok_iff {first second : Except Error (FixedBytes 16)}
    {whole : FixedBytes 32} :
    (do return FixedBytes.append (← first) (← second)) = .ok whole ↔
      first = .ok (whole.slice 0 16) ∧ second = .ok (whole.slice 16 16) := by
  simp only [bind_eq_ok_iff, pure_eq_ok_iff]
  refine ⟨fun h => ?_, fun h => ?_⟩
  · obtain ⟨block₁, h₁, block₂, h₂, happend⟩ := h
    obtain ⟨rfl, rfl⟩ := FixedBytes.append_eq_iff.mp happend
    exact ⟨h₁, h₂⟩
  · obtain ⟨h₁, h₂⟩ := h
    exact ⟨_, h₁, _, h₂, FixedBytes.append_slice (m := 16) (n := 16) whole⟩

theorem exists_bind_append_eq_ok {first second : Except Error (FixedBytes 16)}
    (h₁ : ∃ block, first = .ok block) (h₂ : ∃ block, second = .ok block) :
    ∃ whole : FixedBytes 32, (do return FixedBytes.append (← first) (← second)) = .ok whole := by
  obtain ⟨block₁, rfl⟩ := h₁
  obtain ⟨block₂, rfl⟩ := h₂
  exact ⟨block₁.append block₂, rfl⟩

/-- **A secret is locked to what unlocks to it.** -/
theorem Lock.lockSecret_eq_ok_iff {secret content : FixedBytes 32} :
    lock.lockSecret secret = .ok content ↔ lock.unlockSecret content = .ok secret := by
  rw [lockSecret, unlockSecret, bind_append_eq_ok_iff, bind_append_eq_ok_iff,
    lockBlock_eq_ok_iff, lockBlock_eq_ok_iff]

theorem Lock.exists_lockSecret_eq_ok (lock : Lock) (secret : FixedBytes 32) :
    ∃ content, lock.lockSecret secret = .ok content :=
  exists_bind_append_eq_ok (lock.exists_lockBlock_eq_ok _ _) (lock.exists_lockBlock_eq_ok _ _)

theorem Lock.exists_unlockSecret_eq_ok (lock : Lock) (content : FixedBytes 32) :
    ∃ secret, lock.unlockSecret content = .ok secret :=
  exists_bind_append_eq_ok (lock.exists_unlockBlock_eq_ok _ _) (lock.exists_unlockBlock_eq_ok _ _)

/-! ## Seeds -/

theorem Lock.exists_unlockSeed_eq_ok (lock : Lock) (content : FixedBytes 32) :
    ∃ seed, lock.unlockSeed content = .ok seed := by
  obtain ⟨block₂, h₂⟩ := lock.exists_unlockBlock_eq_ok lock.mask₂ (content.slice 16 16)
  obtain ⟨block₁, h₁⟩ := lock.exists_unlockBlock_eq_ok lock.mask₁
    ((content.slice 8 8).append (block₂.slice 0 8))
  refine ⟨block₁.append (block₂.slice 8 8), ?_⟩
  exact bind_eq_ok_iff.mpr ⟨block₂, h₂, bind_eq_ok_iff.mpr ⟨block₁, h₁, rfl⟩⟩

/-- **A seed unlocks from its chained blocks.** The content stores the first half of the first
block; the second half is locked inside the second block, in front of the rest of the seed. -/
theorem Lock.unlockSeed_eq_ok {entropy : FixedBytes 8} {seed : FixedBytes 24}
    {block₁ block₂ : FixedBytes 16}
    (h₁ : lock.lockBlock lock.mask₁ (seed.slice 0 16) = .ok block₁)
    (h₂ : lock.lockBlock lock.mask₂ ((block₁.slice 8 8).append (seed.slice 16 8)) = .ok block₂) :
    lock.unlockSeed (entropy.append ((block₁.slice 0 8).append block₂)) = .ok seed := by
  have hstored :
      FixedBytes.slice (n := 32) (entropy.append ((block₁.slice 0 8).append block₂)) 8 8 =
      block₁.slice 0 8 := by
    apply FixedBytes.ext
    simp
  have hsecond : FixedBytes.slice (n := 32)
      (entropy.append ((block₁.slice 0 8).append block₂)) 16 16 = block₂ := by
    apply FixedBytes.ext
    simp [← List.append_assoc]
  have hfirst : (block₁.slice 0 8).append (block₁.slice 8 8) = block₁ :=
    FixedBytes.append_slice (m := 8) (n := 8) block₁
  -- The second block is unlocked first, since it holds the missing half of the first one.
  simp only [unlockSeed, bind_eq_ok_iff, pure_eq_ok_iff]
  rw [hstored, hsecond]
  refine ⟨_, lockBlock_eq_ok_iff.mp h₂, seed.slice 0 16, ?_, ?_⟩
  · rw [FixedBytes.slice_append_left (m := 8) (n := 8), hfirst]
    exact lockBlock_eq_ok_iff.mp h₁
  · rw [FixedBytes.slice_append_right (m := 8) (n := 8)]
    exact FixedBytes.append_slice (m := 16) (n := 8) seed

end CoinKeys.EncryptedKey
