import CoinKeys.Text.Offset

/-!
# Network parameters

What tells the texts of one coin network from those of another: the version bytes in front of legacy
addresses and private keys, and the human-readable part of segwit addresses, for networks that have
them. ASCII case does not matter in a human-readable part, so parameters are made with a lower-case
one.

The identity of a network is its id alone: parameters with one id are equal, hash alike and sort
together whatever else they hold, and ids are ordered by their UTF-8 bytes.
-/

namespace CoinKeys

/-- The parameters of a network. -/
structure NetworkParameters where
  /-- The name that identifies the network. -/
  id : String
  /-- The version byte of addresses that pay to a public key hash. -/
  p2pkh : UInt8
  /-- The version byte of addresses that pay to a script hash. -/
  p2sh : UInt8
  /-- The version byte of private keys. -/
  wif : UInt8
  /-- The human-readable part of segwit addresses, if the network has them. -/
  hrp : Option String

namespace NetworkParameters

/-- Parameters with the human-readable part in lower case. -/
def make (id : String) (p2pkh p2sh wif : UInt8) (hrp : Option String) : NetworkParameters :=
  ⟨id, p2pkh, p2sh, wif, hrp.map (String.map Char.toLower)⟩

/-- The production network. -/
def mainnet : NetworkParameters := make "org.tdcoin.production" 65 82 107 (some "tc")

/-- The public test network. -/
def testnet : NetworkParameters := make "org.tdcoin.test" 111 196 239 (some "tt")

/-- The local test network. It has the version bytes of the public one. -/
def regtest : NetworkParameters := make "org.tdcoin.regtest" 111 196 239 (some "tdrt")

/-! ## Identity -/

instance : BEq NetworkParameters := ⟨fun a b => a.id == b.id⟩

instance : Hashable NetworkParameters := ⟨fun a => hash a.id⟩

instance : Ord NetworkParameters := ⟨fun a b => compare (Text.utf8 a.id) (Text.utf8 b.id)⟩

/-! ## Claims on texts -/

/-- Whether two texts are equal up to ASCII case. -/
def sameIgnoringCase (a b : String) : Bool :=
  a.map Char.toLower == b.map Char.toLower

/-- Whether the network's legacy addresses may start with a version byte. -/
def claimsVersion (network : NetworkParameters) (version : UInt8) : Bool :=
  version == network.p2pkh || version == network.p2sh

/-- Whether the network's segwit addresses start with a human-readable part, in either case. -/
def claimsHrp (network : NetworkParameters) (hrp : String) : Bool :=
  network.hrp.any (sameIgnoringCase · hrp)

/-- Whether two networks may not be known at the same time: different networks with the same
human-readable part, or without one and with the same version bytes. -/
def collidesWith (a b : NetworkParameters) : Bool :=
  a != b &&
    match a.hrp, b.hrp with
    | some own, some other => sameIgnoringCase own other
    | none, none => a.p2pkh == b.p2pkh && a.p2sh == b.p2sh
    | _, _ => false

end NetworkParameters

end CoinKeys
