import CoinKeys.Address.Segwit
import CoinKeys.Proofs.Bech32.Text
import CoinKeys.Proofs.BitGroups

/-!
# Segwit addresses are read as they are written

An address that can be made has a text (`exists_encode_eq_ok`), and if the text is not too long, it
is read as that address in every scope that knows the network by its human-readable part
(`decode_of_encode`).
-/

namespace CoinKeys.SegwitAddress

/-! ## Human-readable parts -/

theorem isHrp_iff {hrp : String} : isHrp hrp = true ↔ Bech32.hrpFault? hrp.toList = none := by
  rw [Bech32.hrpFault?_eq_none_iff, Bech32.caseClash?_eq_none_iff]
  have hcase : (hrp.toList.any Char.isUpper && hrp.toList.any Char.isLower) = false ↔
      (∀ c ∈ hrp.toList, c.isUpper = false) ∨ ∀ c ∈ hrp.toList, c.isLower = false := by
    rw [Bool.and_eq_false_iff, List.any_eq_false, List.any_eq_false]
    simp
  simp only [isHrp, Bool.and_eq_true, Bool.not_eq_true', hcase, decide_eq_true_eq,
    List.all_eq_true, List.isEmpty_eq_false_iff]
  refine ⟨fun h => ?_, fun h => ?_⟩
  · obtain ⟨⟨⟨hne, hsize⟩, hletters⟩, hchars⟩ := h
    exact ⟨⟨hne, hsize⟩, hchars, hletters⟩
  · obtain ⟨⟨hne, hsize⟩, hchars, hletters⟩ := h
    exact ⟨⟨⟨hne, hsize⟩, hletters⟩, hchars⟩

theorem hrpOf_eq_ok_iff {network : NetworkParameters} {hrp : String} :
    hrpOf network = .ok hrp ↔ network.hrp = some hrp ∧ Bech32.hrpFault? hrp.toList = none := by
  rw [hrpOf, ← isHrp_iff]
  cases network.hrp with
  | none => simp
  | some own =>
    simp only [Option.some.injEq]
    split
    · next hown =>
      refine ⟨fun h => ?_, fun h => ?_⟩
      · obtain rfl := Except.ok.inj h
        exact ⟨rfl, hown⟩
      · obtain ⟨rfl, -⟩ := h
        rfl
    · next hown =>
      refine ⟨fun h => ?_, fun h => ?_⟩
      · cases h
      · obtain ⟨rfl, hhrp⟩ := h
        exact absurd hhrp hown

/-! ## Making an address -/

theorem make_eq_ok_iff {network : NetworkParameters} {version : UInt8} {program : Bytes}
    {address : SegwitAddress} :
    make network version program = .ok address ↔
      (∃ hrp, hrpOf network = .ok hrp) ∧ checkProgram version program = .ok () ∧
        address = ⟨network, version, program⟩ := by
  simp only [make, bind_eq_ok_iff, pure_eq_ok_iff]
  refine ⟨fun h => ?_, fun h => ?_⟩
  · obtain ⟨hrp, hhrp, ⟨⟩, hprogram, rfl⟩ := h
    exact ⟨⟨hrp, hhrp⟩, hprogram, rfl⟩
  · obtain ⟨⟨hrp, hhrp⟩, hprogram, rfl⟩ := h
    exact ⟨hrp, hhrp, (), hprogram, rfl⟩

theorem checkProgram_eq_ok_iff {version : UInt8} {program : Bytes} :
    checkProgram version program = .ok () ↔
      version ≤ maxVersion ∧ (2 ≤ program.length ∧ program.length ≤ 40) ∧
        (version = 0 → program.length = 20 ∨ program.length = 32) := by
  have hversion : checkVersion version = .ok () ↔ version ≤ maxVersion := by
    rw [checkVersion]
    split <;> simp_all
  have hlength : checkLength version program.length = .ok () ↔
      (2 ≤ program.length ∧ program.length ≤ 40) ∧
        (version = 0 → program.length = 20 ∨ program.length = 32) := by
    rw [checkLength]
    split
    · next hsize =>
      simp only [Bool.or_eq_true, decide_eq_true_eq] at hsize
      simp only [reduceCtorEq, false_iff]
      omega
    · next hsize =>
      simp only [Bool.or_eq_true, decide_eq_true_eq, not_or, Nat.not_lt] at hsize
      split
      · next hzero => simp_all
      · next hzero =>
        simp only [hsize, true_and, and_self, true_iff]
        intro hversion
        simpa [hversion, or_iff_not_imp_left] using hzero
  -- The checks are made one after the other, the version first.
  simp only [checkProgram, bind_eq_ok_iff, hlength]
  refine ⟨fun h => ?_, fun h => ?_⟩
  · obtain ⟨⟨⟩, hok, hprogram⟩ := h
    exact ⟨hversion.mp hok, hprogram⟩
  · obtain ⟨hle, hprogram⟩ := h
    exact ⟨(), hversion.mpr hle, hprogram⟩

/-! ## Texts -/

theorem lt_of_le_maxVersion {version : UInt8} (h : version ≤ maxVersion) : version.toNat < 32 :=
  (UInt8.le_iff_toNat_le.mp h).trans_lt (by decide)

theorem encode_eq_ok_iff {address : SegwitAddress} {text : String} :
    encode address = .ok text ↔ ∃ hrp values, hrpOf address.network = .ok hrp ∧
      BitGroups.regroup .byte .symbol true address.program = .ok values ∧
      Bech32.encode hrp (address.witnessVersion :: values) = .ok text := by
  simp only [encode, bind_eq_ok_iff]
  refine ⟨fun h => ?_, fun h => ?_⟩
  · obtain ⟨hrp, hhrp, values, hvalues, h⟩ := h
    exact ⟨hrp, values, hhrp, hvalues, h⟩
  · obtain ⟨hrp, values, hhrp, hvalues, h⟩ := h
    exact ⟨hrp, hhrp, values, hvalues, h⟩

/-- How many characters the text of a program of a given length has behind a human-readable part:
the separator, the version, the program in groups of five bits and six characters of checksum
follow. -/
def textLength (hrp : String) (size : Nat) : Nat :=
  hrp.toList.length + (8 * size + 4) / 5 + 8

theorem exists_text {hrp : String} (hfault : Bech32.hrpFault? hrp.toList = none) {version : UInt8}
    (hversion : version.toNat < 32) (program : Bytes) :
    ∃ values text, BitGroups.regroup .byte .symbol true program = .ok values ∧
      Bech32.encode hrp (version :: values) = .ok text ∧
      Text.utf8Size text.toList = textLength hrp program.length := by
  have hbytes : ∀ b ∈ program, b.toNat < 2 ^ GroupWidth.byte.bits := fun b _ => b.toNat_lt
  obtain ⟨values, padding, hvalues, hsmall, hpadding, hbits, -⟩ :=
    BitGroups.exists_regroup_padded .symbol hbytes
  have hall : ∀ v ∈ version :: values, v.toNat < 32 :=
    List.forall_mem_cons.mpr ⟨hversion, hsmall⟩
  obtain ⟨text, htext⟩ : ∃ text, Bech32.encode hrp (version :: values) = .ok text :=
    ⟨_, Bech32.encode_eq_ok_iff.mpr ⟨hall, hfault, String.toList_ofList⟩⟩
  refine ⟨values, text, hvalues, htext, ?_⟩
  have hsize := Bech32.utf8Size_of_encode htext
  simp only [textLength, GroupWidth.byte, GroupWidth.symbol, Bech32.checksumSize,
    List.length_cons] at *
  omega

theorem exists_encode_eq_ok {network : NetworkParameters} {version : UInt8} {program : Bytes}
    {address : SegwitAddress} {hrp : String} (h : make network version program = .ok address)
    (hhrp : hrpOf network = .ok hrp) :
    ∃ text, address.encode = .ok text ∧
      Text.utf8Size text.toList = textLength hrp program.length := by
  obtain ⟨-, hprogram, rfl⟩ := make_eq_ok_iff.mp h
  obtain ⟨hversion, -, -⟩ := checkProgram_eq_ok_iff.mp hprogram
  obtain ⟨-, hfault⟩ := hrpOf_eq_ok_iff.mp hhrp
  obtain ⟨values, text, hvalues, htext, hsize⟩ :=
    exists_text hfault (lt_of_le_maxVersion hversion) program
  exact ⟨text, encode_eq_ok_iff.mpr ⟨hrp, values, hhrp, hvalues, htext⟩, hsize⟩

/-- A text is read as an address whose version and program pass the checks, and whose network claims
the human-readable part. -/
theorem decode_eq_ok_iff {scope : Scope} {text : String} {address : SegwitAddress} :
    decode scope text = .ok address ↔ ∃ hrp data,
      Bech32.decode text = .ok (hrp, address.witnessVersion :: data) ∧
      scope.find? (·.claimsHrp hrp) = some address.network ∧
      BitGroups.regroup .symbol .byte false data = .ok address.program ∧
      checkProgram address.witnessVersion address.program = .ok () := by
  simp only [decode, bind_eq_ok_iff]
  refine ⟨fun h => ?_, fun h => ?_⟩
  · obtain ⟨⟨hrp, values⟩, hread, network, hnetwork, h⟩ := h
    cases values with
    | nil => cases h
    | cons version data =>
      obtain ⟨⟨⟩, -, h⟩ := bind_eq_ok_iff.mp h
      obtain ⟨program, hregroup, h⟩ := bind_eq_ok_iff.mp h
      obtain ⟨⟨⟩, hprogram, h⟩ := bind_eq_ok_iff.mp h
      obtain rfl := pure_eq_ok_iff.mp h
      exact ⟨hrp, data, hread, Scope.resolve_eq_ok_iff.mp hnetwork, hregroup, hprogram⟩
  · obtain ⟨hrp, data, hread, hnetwork, hregroup, hprogram⟩ := h
    obtain ⟨⟨⟩, hversion, -⟩ := bind_eq_ok_iff.mp hprogram
    refine ⟨_, hread, address.network, Scope.resolve_eq_ok_iff.mpr hnetwork, ?_⟩
    refine bind_eq_ok_iff.mpr ⟨(), hversion, bind_eq_ok_iff.mpr ⟨_, hregroup, ?_⟩⟩
    exact bind_eq_ok_iff.mpr ⟨(), hprogram, rfl⟩

theorem decode_of_bech32_error (scope : Scope) {text : String} {fault : Error}
    (h : Bech32.decode text = .error fault) : decode scope text = .error fault := by
  rw [decode, h]
  rfl

/-- **What is read is what would be made.** A text that spells a version and a program behind the
human-readable part of a network is read as the address that can be made of them, or refused for the
reason for which it cannot be made. -/
theorem decode_eq_make {scope : Scope} {network : NetworkParameters} {version : UInt8}
    {program : Bytes} {values : List UInt8} {hrp text : String} (hhrp : hrpOf network = .ok hrp)
    (hfind : scope.find? (·.claimsHrp hrp.toLower) = some network)
    (hvalues : BitGroups.regroup .byte .symbol true program = .ok values)
    (htext : Bech32.encode hrp (version :: values) = .ok text)
    (hsize : Text.utf8Size text.toList ≤ Bech32.maxLength) :
    decode scope text = make network version program := by
  have hread := Bech32.decode_of_encode htext hsize
  have hresolve : scope.resolve (·.claimsHrp hrp.toLower) (.hrp hrp.toLower)
      (.unknownHrp hrp.toLower) = .ok network := Scope.resolve_eq_ok_iff.mpr hfind
  have hprogram : BitGroups.regroup .symbol .byte false values = .ok program :=
    BitGroups.regroup_regroup (by decide) hvalues
  simp only [decode, make, checkProgram, hread, hhrp, hresolve, hprogram, bind, Except.bind]
  -- The reader checks the version once more, before it regroups the program.
  cases checkVersion version <;> rfl

/-- **An address is read from its text in every scope in which its human-readable part belongs to
its network.** -/
theorem decode_of_encode {scope : Scope} {network : NetworkParameters} {version : UInt8}
    {program : Bytes} {address : SegwitAddress} {hrp text : String}
    (h : make network version program = .ok address) (hhrp : hrpOf network = .ok hrp)
    (hfind : scope.find? (·.claimsHrp hrp.toLower) = some network)
    (htext : address.encode = .ok text) (hsize : Text.utf8Size text.toList ≤ Bech32.maxLength) :
    decode scope text = .ok address := by
  obtain ⟨-, -, rfl⟩ := make_eq_ok_iff.mp h
  obtain ⟨_, values, hown, hvalues, hencode⟩ := encode_eq_ok_iff.mp htext
  obtain rfl := Except.ok.inj (hhrp.symm.trans hown)
  rw [decode_eq_make hhrp hfind hvalues hencode hsize, h]

end CoinKeys.SegwitAddress
