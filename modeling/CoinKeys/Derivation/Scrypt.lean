import CoinKeys.Derivation.Pbkdf2
import CoinKeys.Derivation.Salsa
import CoinKeys.Error

/-!
# scrypt

scrypt derives a key from a password and a salt at a price in memory. PBKDF2 expands both to `p`
lanes of `2 * r` blocks, each lane is mixed on its own, and PBKDF2 contracts the result. Mixing a
lane fills a table with `2 ^ logN` successive states and then visits as many of them in an order
that depends on the lane itself, so the whole table has to be kept.

`Scrypt.derive` refuses parameters outside the limits of the function, and `ScryptParams.memoryCost`
says what one lane's table takes.
-/

namespace CoinKeys

open Salsa

/-- The cost parameters of one derivation. -/
structure ScryptParams where
  /-- The base two logarithm of the number of states that are kept. -/
  logN : Nat
  /-- Half the number of blocks of a lane. -/
  r : Nat
  /-- The number of lanes. -/
  p : Nat
  /-- The number of bytes derived. -/
  length : Nat
  deriving DecidableEq, Repr

namespace ScryptParams

/-- From a passphrase to the 64 bytes that encrypt a private key. -/
def passphrase : ScryptParams := ⟨14, 8, 8, 64⟩

/-- From a passphrase to the 32 bytes of a pass factor. -/
def passFactor : ScryptParams := ⟨14, 8, 8, 32⟩

/-- From a pass point to the 64 bytes that encrypt a seed. -/
def passPoint : ScryptParams := ⟨10, 1, 1, 64⟩

/-- How many states are kept, a power of two. -/
def states (params : ScryptParams) : Nat := 1 <<< params.logN

/-- A product that stays at the largest number of a machine word when it would exceed it. -/
def saturatingMul (a b : Nat) : Nat := min (a * b) (UInt64.size - 1)

/-- The bytes that one lane's table takes, as far as a machine word can tell. -/
def memoryCost (params : ScryptParams) : Nat :=
  saturatingMul (saturatingMul 128 params.states) params.r

/-- Whether the function is defined for the parameters: all sizes fit a machine word, the number of
states is below `2 ^ (16 * r)`, the lanes are not too many, and 10 to 64 bytes are asked for. -/
def isValid (params : ScryptParams) : Bool :=
  params.logN < 64 && 0 < params.r && 0 < params.p &&
    10 ≤ params.length && params.length ≤ 64 &&
    params.r * 128 * params.states < UInt64.size && params.r * 128 * params.p < UInt64.size &&
    params.logN < 16 * params.r && params.r * params.p < 0x40000000

end ScryptParams

namespace Scrypt

/-- A lane while its blocks are scrambled one after the other: the last block written, the blocks
written at places of the parity that is due next, and those of the other parity. -/
structure Mixing where
  /-- The last block written. -/
  last : Block
  /-- Blocks of the parity due next. -/
  due : Array Block
  /-- Blocks of the other parity. -/
  other : Array Block

/-- Scramble one more block together with the one before it. -/
def Mixing.push (m : Mixing) (block : Block) : Mixing :=
  let next := (m.last.xor block).scramble
  ⟨next, m.other, m.due.push next⟩

/-- Scramble the blocks of a lane in a ring, each with the one before it, and put those at even
places before those at odd ones. -/
def mixBlocks (lane : Array Block) : Array Block :=
  let mixed := lane.foldl Mixing.push ⟨lane.back?.getD .zero, #[], #[]⟩
  mixed.due ++ mixed.other

/-- Mix a lane `count` times and keep each state on the way. -/
def fill : Nat → Array Block → Array (Array Block) → Array Block × Array (Array Block)
  | 0, lane, table => (lane, table)
  | count + 1, lane, table => fill count (mixBlocks lane) (table.push lane)

/-- The number in the first two words of a lane's last block. -/
def selector (lane : Array Block) : Nat :=
  match lane.back? with
  | some block => block.w0.toNat + UInt32.size * block.w1.toNat
  | none => 0

/-- Mix a lane `count` times, each time together with the state of the table that it selects. -/
def visit (table : Array (Array Block)) : Nat → Array Block → Array Block
  | 0, lane => lane
  | count + 1, lane =>
    let chosen := table.getD (selector lane % table.size) #[]
    visit table count (mixBlocks (Array.zipWith Block.xor lane chosen))

/-- Mix a lane with a table of `states` states. -/
def mixLane (states : Nat) (lane : Array Block) : Array Block :=
  let (last, table) := fill states lane #[]
  visit table states last

/-- Mix a lane of bytes. -/
def mixBytes (states : Nat) (lane : Bytes) : Bytes :=
  let blocks := Block.listOfWords (Word.listOfLittleEndian lane)
  (mixLane states blocks.toArray).toList.flatMap fun block =>
    block.words.flatMap Word.littleEndian

/-- Derive `params.length` bytes from a password and a salt. -/
def derive (params : ScryptParams) (password salt : Bytes) :
    Except Error (FixedBytes params.length) :=
  if params.isValid then
    let laneSize := 128 * params.r
    let expanded := pbkdf2 password salt 1 (params.p * laneSize)
    let mixed := (chunks laneSize expanded).flatMap (mixBytes params.states)
    .ok ⟨pbkdf2 password mixed 1 params.length, length_pbkdf2 ..⟩
  else .error (.derivation .scryptParameters)

end Scrypt

end CoinKeys
