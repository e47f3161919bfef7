import CoinKeys.Digest.Sha256

/-!
# HMAC and PBKDF2 over SHA-256

HMAC hashes a message under a key, and PBKDF2 stretches a password and a salt to a string of any
length by one HMAC after another. `length_pbkdf2` says that the string has the length asked for.
-/

namespace CoinKeys

/-- The key as one block of SHA-256: hashed first when it is longer, then filled up with zeros. -/
def hmacBlock (key : Bytes) : Bytes :=
  let short := if 64 < key.length then (Sha256.digest key).toList else key
  short ++ List.replicate (64 - short.length) 0

/-- HMAC-SHA-256 of a message. -/
def hmac (key message : Bytes) : FixedBytes 32 :=
  let block := hmacBlock key
  Sha256.digest (block.map (· ^^^ 0x5c) ++
    (Sha256.digest (block.map (· ^^^ 0x36) ++ message)).toList)

namespace Pbkdf2

/-- Add `count` further iterations, `latest` being the last one so far, to their sum. -/
def iterate (password : Bytes) : Nat → FixedBytes 32 → FixedBytes 32 → FixedBytes 32
  | 0, _, sum => sum
  | count + 1, latest, sum =>
    let next := hmac password latest.toList
    iterate password count next (sum.xor next)

/-- The block of 32 bytes with the number `index`. -/
def block (password salt : Bytes) (iterations index : Nat) : FixedBytes 32 :=
  let first := hmac password (salt ++ (FixedBytes.ofNat 4 index).toList)
  iterate password (iterations - 1) first first

/-- The first `count` blocks; blocks are numbered from one. -/
def blocks (password salt : Bytes) (iterations count : Nat) : Bytes :=
  (List.range count).flatMap fun i => (block password salt iterations (i + 1)).toList

theorem length_blocks (password salt : Bytes) (iterations count : Nat) :
    (blocks password salt iterations count).length = 32 * count := by
  induction count with
  | zero => rfl
  | succ count ih => simp_all [blocks, List.range_succ, Nat.mul_succ]

end Pbkdf2

/-- PBKDF2-HMAC-SHA-256: `length` bytes from a password and a salt. -/
def pbkdf2 (password salt : Bytes) (iterations length : Nat) : Bytes :=
  (Pbkdf2.blocks password salt iterations ((length + 31) / 32)).take length

@[simp] theorem length_pbkdf2 (password salt : Bytes) (iterations length : Nat) :
    (pbkdf2 password salt iterations length).length = length := by
  simp only [pbkdf2, List.length_take, Pbkdf2.length_blocks]
  omega

end CoinKeys
