import CoinKeys.Address.Legacy
import CoinKeys.Address.Segwit
import CoinKeys.Curve.PublicKey
import CoinKeys.Digest.Ripemd160

/-!
# Addresses

An address is a legacy address or a segwit address, and names who is paid: the holder of a key or of
a script. Addresses are ordered by network, then legacy before segwit, then by version and hash, or
witness version and program, byte by byte.
-/

namespace CoinKeys

/-- An address of either kind. -/
inductive Address
  /-- A legacy address. -/
  | legacy (address : LegacyAddress)
  /-- A segwit address. -/
  | segwit (address : SegwitAddress)
  deriving BEq, Hashable

namespace Address

/-- The network of an address. -/
def network : Address → NetworkParameters
  | legacy address => address.network
  | segwit address => address.network

/-- The text of an address. -/
def encode : Address → Except Error String
  | legacy address => .ok address.encode
  | segwit address => address.encode

/-- The order of addresses on one network. -/
def compareOnNetwork : Address → Address → Ordering
  | legacy a, legacy b => compare a b
  | legacy _, segwit _ => .lt
  | segwit _, legacy _ => .gt
  | segwit a, segwit b => compare a b

instance : Ord Address :=
  ⟨fun a b => (compare a.network b.network).then (compareOnNetwork a b)⟩

/-- Addresses in order; equal ones stay in the order in which they came. -/
def sort (addresses : List Address) : List Address :=
  addresses.mergeSort fun a b => (compare a b).isLE

/-! ## Addresses of hashes and keys -/

/-- The address that pays to the hash of a public key. -/
def p2pkh (network : NetworkParameters) (hash : FixedBytes 20) : Address :=
  legacy ⟨network, network.p2pkh, hash⟩

/-- The address that pays to the hash of a script. -/
def p2sh (network : NetworkParameters) (hash : FixedBytes 20) : Address :=
  legacy ⟨network, network.p2sh, hash⟩

/-- The legacy address that pays to a public key in the short or the long form. -/
def ofPublicKey (network : NetworkParameters) (key : PublicKey) (compressed : Bool) : Address :=
  p2pkh network (hash160 (key.toBytes compressed))

/-- The segwit address that pays to a public key. -/
def p2wpkh (network : NetworkParameters) (key : PublicKey) : Except Error Address :=
  (SegwitAddress.make network 0 (hash160 key.compressed.toList).toList).map segwit

end Address

end CoinKeys
