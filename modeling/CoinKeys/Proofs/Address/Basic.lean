import CoinKeys.Address.Basic
import CoinKeys.Proofs.Address.Legacy
import CoinKeys.Proofs.Address.Segwit

/-!
# Addresses that can be made

There are six ways to make an address of a network, and each is a case of two of them: a legacy
address has a version byte of the network, and a segwit address passes the checks of
`SegwitAddress.make` (`Constructed.legacy_or_segwit`).
-/

namespace CoinKeys.Address

/-- The addresses of a network that can be made. -/
inductive Constructed (network : NetworkParameters) : Address → Prop
  | p2pkh (hash : FixedBytes 20) : Constructed network (.p2pkh network hash)
  | p2sh (hash : FixedBytes 20) : Constructed network (.p2sh network hash)
  | ofPublicKey (key : PublicKey) (compressed : Bool) :
    Constructed network (.ofPublicKey network key compressed)
  | p2wpkh {key : PublicKey} {address : Address} (h : Address.p2wpkh network key = .ok address) :
    Constructed network address
  | legacy {version : UInt8} {hash : FixedBytes 20} {address : LegacyAddress}
    (h : LegacyAddress.make network version hash = .ok address) :
    Constructed network (.legacy address)
  | segwit {version : UInt8} {program : Bytes} {address : SegwitAddress}
    (h : SegwitAddress.make network version program = .ok address) :
    Constructed network (.segwit address)

theorem Constructed.legacy_or_segwit {network : NetworkParameters} {address : Address}
    (h : Constructed network address) :
    (∃ version hash, network.claimsVersion version = true ∧
      address = .legacy ⟨network, version, hash⟩) ∨
    ∃ version program made, SegwitAddress.make network version program = .ok made ∧
      address = .segwit made := by
  have hp2pkh : network.claimsVersion network.p2pkh = true := by
    simp [NetworkParameters.claimsVersion]
  have hp2sh : network.claimsVersion network.p2sh = true := by
    simp [NetworkParameters.claimsVersion]
  cases h with
  | p2pkh hash => exact .inl ⟨_, hash, hp2pkh, rfl⟩
  | p2sh hash => exact .inl ⟨_, hash, hp2sh, rfl⟩
  | ofPublicKey key compressed => exact .inl ⟨_, _, hp2pkh, rfl⟩
  | p2wpkh h =>
    obtain ⟨made, hmade, rfl⟩ := map_eq_ok_iff.mp h
    exact .inr ⟨_, _, made, hmade, rfl⟩
  | legacy h =>
    obtain ⟨hclaims, rfl⟩ := LegacyAddress.make_eq_ok_iff.mp h
    exact .inl ⟨_, _, hclaims, rfl⟩
  | segwit h => exact .inr ⟨_, _, _, h, rfl⟩

theorem Constructed.make_legacy {network : NetworkParameters} {address : LegacyAddress}
    (h : Constructed network (.legacy address)) :
    LegacyAddress.make network address.version address.hash = .ok address := by
  rcases h.legacy_or_segwit with ⟨version, hash, hclaims, heq⟩ | ⟨_, _, _, -, heq⟩
  · obtain rfl := legacy.inj heq
    exact LegacyAddress.make_eq_ok_iff.mpr ⟨hclaims, rfl⟩
  · cases heq

theorem Constructed.make_segwit {network : NetworkParameters} {address : SegwitAddress}
    (h : Constructed network (.segwit address)) :
    SegwitAddress.make network address.witnessVersion address.program = .ok address := by
  rcases h.legacy_or_segwit with ⟨_, _, -, heq⟩ | ⟨version, program, made, hmade, heq⟩
  · cases heq
  · obtain rfl := segwit.inj heq
    obtain ⟨-, -, rfl⟩ := SegwitAddress.make_eq_ok_iff.mp hmade
    exact hmade

end CoinKeys.Address
