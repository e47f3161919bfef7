import CoinKeys.Address.Script
import CoinKeys.Proofs.Address.Parse

/-!
# Output scripts of addresses

The kind of a legacy address is not kept beside its version byte but told from it
(`LegacyAddress.isP2sh_iff`). A network may have one version byte for both kinds, and its addresses
then all pay to the hash of a public key: the address made of a script hash is that of the same
bytes taken for a key hash, in its text as well.

**Theorem (`script_of_hash`).** Apart from that, the address made of a hash has the script of its
kind, and it is read as what it is where its network is expected.
-/

namespace CoinKeys

/-! ## Opcodes -/

theorem Opcode.toNat_push1 : Opcode.push1.toNat = 0x51 := rfl

theorem Opcode.pushNumber_cases {n : UInt8} (h : n ≤ 16) :
    (n = 0 ∧ Opcode.pushNumber n = 0) ∨
      (0x51 ≤ (Opcode.pushNumber n).toNat ∧ (Opcode.pushNumber n).toNat ≤ 0x60 ∧
        (Opcode.pushNumber n).toNat = 0x50 + n.toNat) := by
  rw [Opcode.pushNumber]
  split
  · next hzero => exact .inl ⟨hzero, rfl⟩
  · next hzero =>
    have hpos : n.toNat ≠ 0 := fun hnat => hzero (UInt8.toNat_inj.mp hnat)
    have hle : n.toNat ≤ 16 := UInt8.le_iff_toNat_le.mp h
    have hsum : (Opcode.push1 + n).toNat = 0x51 + n.toNat := by
      rw [UInt8.toNat_add, toNat_push1, Nat.mod_eq_of_lt (by omega)]
    have hone : 1 ≤ Opcode.push1 + n := by
      rw [UInt8.le_iff_toNat_le, hsum]
      exact Nat.le_add_right_of_le (by decide)
    have hnumber : (Opcode.push1 + n - 1).toNat = 0x51 + n.toNat - 1 := by
      rw [UInt8.toNat_sub_of_le _ _ hone, hsum]
      rfl
    omega

/-! ## The kind of a legacy address -/

/-- The version byte of public key hashes comes first. -/
theorem LegacyAddress.isP2sh_iff {address : LegacyAddress} :
    address.isP2sh = true ↔
      address.version ≠ address.network.p2pkh ∧ address.version = address.network.p2sh := by
  simp [LegacyAddress.isP2sh]

namespace Address

section Legacy

variable {address : LegacyAddress}

theorem script_of_isP2sh (h : address.isP2sh = true) :
    scriptType (.legacy address) = .p2sh ∧
      script (.legacy address) = [0xa9, 0x14] ++ address.hash.toList ++ [0x87] := by
  rw [scriptType, script, if_pos h, if_pos h, Opcode.pushBytes, FixedBytes.length_toList]
  exact ⟨rfl, rfl⟩

theorem script_of_not_isP2sh (h : ¬ address.isP2sh = true) :
    scriptType (.legacy address) = .p2pkh ∧
      script (.legacy address) = [0x76, 0xa9, 0x14] ++ address.hash.toList ++ [0x88, 0xac] := by
  rw [scriptType, script, if_neg h, if_neg h, Opcode.pushBytes, FixedBytes.length_toList]
  exact ⟨rfl, rfl⟩

theorem decode_encode_legacy (registry : Registry) {network : NetworkParameters}
    (h : Constructed network (.legacy address)) :
    decodeLegacy (.ofExpected registry (some network)) address.encode = .ok (.legacy address) ∧
      decode (.ofExpected registry (some network)) address.encode = .ok (.legacy address) :=
  decode_of_legacy (LegacyAddress.decode_only_eq_ok_iff.mpr ⟨_, _, h.make_legacy, rfl⟩)

end Legacy

/-! ## Scripts of witness programs -/

/-- The script is the opcode of the version, and the program behind its length in one byte. The
number of the opcode is that of an addition that does not wrap around. -/
structure IsSegwitScript (address : SegwitAddress) (opcode size : UInt8) : Prop where
  script_eq : script (.segwit address) = opcode :: size :: address.program
  size_eq : size.toNat = address.program.length
  opcode_cases : (address.witnessVersion = 0 ∧ opcode = 0) ∨
    (0x51 ≤ opcode.toNat ∧ opcode.toNat ≤ 0x60 ∧
      opcode.toNat = 0x50 + address.witnessVersion.toNat)
  sum_lt : Opcode.push1.toNat + address.witnessVersion.toNat < 256

theorem exists_isSegwitScript {address : SegwitAddress} (hversion : address.witnessVersion ≤ 16)
    (hlength : address.program.length ≤ 40) :
    ∃ opcode size, IsSegwitScript address opcode size := by
  have hle : address.witnessVersion.toNat ≤ 16 := UInt8.le_iff_toNat_le.mp hversion
  refine ⟨_, _, rfl, UInt8.toNat_ofNat_of_lt' (hlength.trans_lt (by decide)),
    Opcode.pushNumber_cases hversion, ?_⟩
  rw [Opcode.toNat_push1]
  omega

/-! ## Addresses of hashes -/

section Hashes

variable {network : NetworkParameters} {hash : FixedBytes 20}

theorem script_p2pkh :
    scriptType (p2pkh network hash) = .p2pkh ∧
      script (p2pkh network hash) = [0x76, 0xa9, 0x14] ++ hash.toList ++ [0x88, 0xac] :=
  script_of_not_isP2sh fun h => (LegacyAddress.isP2sh_iff.mp h).1 rfl

theorem script_p2sh (h : network.p2pkh ≠ network.p2sh) :
    scriptType (p2sh network hash) = .p2sh ∧
      script (p2sh network hash) = [0xa9, 0x14] ++ hash.toList ++ [0x87] :=
  script_of_isP2sh (LegacyAddress.isP2sh_iff.mpr ⟨h.symm, rfl⟩)

theorem p2sh_eq_p2pkh (h : network.p2pkh = network.p2sh) :
    p2sh network hash = p2pkh network hash := by
  rw [p2sh, p2pkh, h]

/-- **An address made of a hash pays to the hash by the script of its kind**, and keeps its kind and
script when it is read from its text. Where the network has one version byte for both kinds, the
kind is that of a public key hash. -/
theorem script_of_hash (registry : Registry) (network : NetworkParameters) (hash : FixedBytes 20) :
    (scriptType (p2pkh network hash) = .p2pkh ∧
      script (p2pkh network hash) = [0x76, 0xa9, 0x14] ++ hash.toList ++ [0x88, 0xac]) ∧
    (network.p2pkh ≠ network.p2sh → scriptType (p2sh network hash) = .p2sh ∧
      script (p2sh network hash) = [0xa9, 0x14] ++ hash.toList ++ [0x87]) ∧
    (network.p2pkh = network.p2sh → p2sh network hash = p2pkh network hash) ∧
    ∀ address ∈ [p2pkh network hash, p2sh network hash], ∃ text, address.encode = .ok text ∧
      decodeLegacy (.ofExpected registry (some network)) text = .ok address ∧
      decode (.ofExpected registry (some network)) text = .ok address := by
  refine ⟨script_p2pkh, script_p2sh, p2sh_eq_p2pkh, fun address h => ?_⟩
  simp only [List.mem_cons, List.not_mem_nil, or_false] at h
  rcases h with rfl | rfl
  · exact ⟨_, rfl, decode_encode_legacy registry (.p2pkh hash)⟩
  · exact ⟨_, rfl, decode_encode_legacy registry (.p2sh hash)⟩

/-- A script hash on the production network, and on a network with one version byte. -/
theorem script_of_hash_mainnet :
    NetworkParameters.mainnet.p2pkh ≠ NetworkParameters.mainnet.p2sh ∧
    scriptType (p2sh .mainnet ⟨List.replicate 20 7, rfl⟩) = .p2sh ∧
    script (p2sh .mainnet ⟨List.replicate 20 7, rfl⟩) =
      [0xa9, 0x14] ++ List.replicate 20 7 ++ [0x87] ∧
    p2sh (.make "one.byte" 5 5 128 none) ⟨List.replicate 20 7, rfl⟩ =
      p2pkh (.make "one.byte" 5 5 128 none) ⟨List.replicate 20 7, rfl⟩ := by
  have hbytes : NetworkParameters.mainnet.p2pkh ≠ NetworkParameters.mainnet.p2sh := by decide
  obtain ⟨-, hscript, -⟩ := script_of_hash .defaults .mainnet ⟨List.replicate 20 7, rfl⟩
  obtain ⟨-, -, hsame, -⟩ :=
    script_of_hash .defaults (.make "one.byte" 5 5 128 none) ⟨List.replicate 20 7, rfl⟩
  obtain ⟨htype, hpushes⟩ := hscript hbytes
  exact ⟨hbytes, htype, hpushes, hsame rfl⟩

/-- On a network with one version byte, the address made of a script hash pays to a public key
hash. -/
theorem script_p2sh_of_one_version :
    scriptType (p2sh (.make "one.byte" 5 5 128 none) ⟨List.replicate 20 7, rfl⟩) = .p2pkh ∧
    script (p2sh (.make "one.byte" 5 5 128 none) ⟨List.replicate 20 7, rfl⟩) =
      [0x76, 0xa9, 0x14] ++ List.replicate 20 7 ++ [0x88, 0xac] ∧
    ¬ ∀ (network : NetworkParameters) (hash : FixedBytes 20),
      scriptType (p2sh network hash) = .p2sh ∧
        script (p2sh network hash) = [0xa9, 0x14] ++ hash.toList ++ [0x87] := by
  have htype : scriptType (p2sh (.make "one.byte" 5 5 128 none) ⟨List.replicate 20 7, rfl⟩) =
      .p2pkh := by decide
  refine ⟨htype, by decide, fun h => ?_⟩
  obtain ⟨hp2sh, -⟩ := h (.make "one.byte" 5 5 128 none) ⟨List.replicate 20 7, rfl⟩
  rw [htype] at hp2sh
  cases hp2sh

end Hashes

end Address

end CoinKeys
