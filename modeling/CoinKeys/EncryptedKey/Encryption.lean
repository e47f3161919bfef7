import CoinKeys.Cipher.Aes256
import CoinKeys.Derivation.Scrypt
import CoinKeys.EncryptedKey.Basic
import CoinKeys.Text.Composed

/-!
# Encryption under a passphrase

A passphrase counts in its composed form. Sixty-four bytes are derived from it, a mask for each of
two blocks and a cipher key. A block is masked and enciphered to lock it, deciphered and unmasked to
unlock it.

In direct mode the two blocks are the private key. In the other mode the passphrase gives a factor,
the public key of that factor gives the sixty-four bytes, and the two blocks, of which the second
holds half of the first, give a seed; the private key is the product of both factors.

`decrypt` accepts a passphrase only if the address of the private key has the stored hash.
-/

namespace CoinKeys.EncryptedKey

/-- The bytes of a passphrase. -/
def passphraseBytes (passphrase : String) : Bytes :=
  Text.utf8 (Text.normalize passphrase)

/-! ## Locked blocks -/

/-- What locks two blocks. -/
structure Lock where
  /-- The mask of the first block. -/
  mask₁ : FixedBytes 16
  /-- The mask of the second block. -/
  mask₂ : FixedBytes 16
  /-- The cipher key. -/
  cipherKey : FixedBytes 32

/-- The lock that sixty-four derived bytes make. -/
def Lock.ofBytes (derived : FixedBytes 64) : Lock :=
  ⟨derived.slice 0 16, derived.slice 16 16, derived.slice 32 32⟩

/-- Lock a block. -/
def Lock.lockBlock (lock : Lock) (mask block : FixedBytes 16) : Except Error (FixedBytes 16) :=
  Cipher.encryptBlock lock.cipherKey.toList (block.xor mask)

/-- Unlock a block. -/
def Lock.unlockBlock (lock : Lock) (mask block : FixedBytes 16) : Except Error (FixedBytes 16) :=
  (Cipher.decryptBlock lock.cipherKey.toList block).map (·.xor mask)

/-! ## Direct mode -/

/-- The lock that a passphrase makes in direct mode; the stored address hash is the salt. -/
def directLock (passphrase : Bytes) (addressHash : FixedBytes 4) : Except Error Lock :=
  (Scrypt.derive .passphrase passphrase addressHash.toList).map Lock.ofBytes

/-- Lock a secret. -/
def Lock.lockSecret (lock : Lock) (secret : FixedBytes 32) : Except Error (FixedBytes 32) := do
  let block₁ ← lock.lockBlock lock.mask₁ (secret.slice 0 16)
  let block₂ ← lock.lockBlock lock.mask₂ (secret.slice 16 16)
  return block₁.append block₂

/-- Unlock a secret. -/
def Lock.unlockSecret (lock : Lock) (content : FixedBytes 32) : Except Error (FixedBytes 32) := do
  let block₁ ← lock.unlockBlock lock.mask₁ (content.slice 0 16)
  let block₂ ← lock.unlockBlock lock.mask₂ (content.slice 16 16)
  return block₁.append block₂

/-! ## Multiplied mode -/

/-- The factor that a passphrase gives. With lot and sequence number, which fill the second half of
the entropy, only the first half is the salt, and the result is hashed with the whole entropy. -/
def passFactor (passphrase : Bytes) (entropy : FixedBytes 8) (hasLot : Bool) :
    Except Error (FixedBytes 32) :=
  if hasLot then do
    let factor ← Scrypt.derive .passFactor passphrase (entropy.slice 0 4).toList
    return Sha256.double (factor.toList ++ entropy.toList)
  else Scrypt.derive .passFactor passphrase entropy.toList

/-- The public key of a factor. -/
def passPoint (factor : FixedBytes 32) : Except Error (FixedBytes 33) := do
  let scalar ← Scalar.ofBytes factor.toList
  return (PublicKey.ofScalar scalar).compressed

/-- The lock that the public key of the factor makes. -/
def pointLock (point : FixedBytes 33) (addressHash : FixedBytes 4) (entropy : FixedBytes 8) :
    Except Error Lock :=
  (Scrypt.derive .passPoint point.toList (addressHash.append entropy).toList).map Lock.ofBytes

/-- Unlock the seed. The second block holds the second half of the first block in front of its own
part of the seed. -/
def Lock.unlockSeed (lock : Lock) (content : FixedBytes 32) : Except Error (FixedBytes 24) := do
  let block₂ ← lock.unlockBlock lock.mask₂ (content.slice 16 16)
  let block₁ ← lock.unlockBlock lock.mask₁ ((content.slice 8 8).append (block₂.slice 0 8))
  return block₁.append (block₂.slice 8 8)

/-- The factor that a seed gives. -/
def seedFactor (seed : FixedBytes 24) : FixedBytes 32 :=
  Sha256.double seed.toList

/-! ## Private keys -/

/-- Report any fault as a bad passphrase. -/
def orBadPassphrase {α : Type} (result : Except Error α) : Except Error α :=
  result.mapError fun _ => .badPassphrase

/-- The secret that a passphrase gives. -/
def unlockSecret (key : EncryptedKey) (passphrase : Bytes) : Except Error (FixedBytes 32) :=
  match key.form.mode with
  | .direct => do
    let lock ← directLock passphrase key.addressHash
    lock.unlockSecret key.content
  | .multiplied hasLot => do
    let factor ← passFactor passphrase key.entropy hasLot
    let point ← orBadPassphrase (passPoint factor)
    let lock ← pointLock point key.addressHash key.entropy
    let seed ← lock.unlockSeed key.content
    orBadPassphrase (Scalar.multiplyBytes factor (seedFactor seed))

/-- The stored hash of the address of a private key. -/
def addressHashOf (key : PrivateKey) (network : NetworkParameters) : FixedBytes 4 :=
  hashOfAddress (key.address network).encode

/-- The private key that a passphrase unlocks. -/
def decrypt (key : EncryptedKey) (passphrase : String) : Except Error PrivateKey := do
  let secret ← key.unlockSecret (passphraseBytes passphrase)
  let unlocked ← orBadPassphrase (PrivateKey.ofBytes secret.toList key.form.compressed)
  if addressHashOf unlocked key.network = key.addressHash then return unlocked
  else throw .badPassphrase

/-- Encrypt a private key in direct mode. -/
def encrypt (key : PrivateKey) (passphrase : String) (network : NetworkParameters) :
    Except Error EncryptedKey := do
  let addressHash := addressHashOf key network
  let lock ← directLock (passphraseBytes passphrase) addressHash
  let content ← lock.lockSecret key.secret.toBytes
  return ⟨network, ⟨.direct, key.compressed⟩, addressHash, content⟩

end CoinKeys.EncryptedKey
