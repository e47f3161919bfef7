import CoinKeys.Address.Parse
import CoinKeys.Proofs.Address.Basic

/-!
# Addresses of the default networks are read as they are written

A text is tried as a legacy address first, so a segwit address is only read if its text cannot be
taken for a legacy one. For the production network and the public test network it cannot. Their
segwit addresses start with `tc1` or `tt1`, all of which are base 58 digits. As a base 58 numeral, a
text with such a start and of fewer than thirty-three characters has fewer than the twenty-five
bytes of a legacy address, and one of more than thirty-four has more; in between, the version byte
is 2 or 128 (`version_of_segwitStart`), and neither belongs to one of the two networks.

**Theorem (`decode_encode_of_default`).** Every address of these networks that can be made is read
from its text, and no text with such a start is read as anything but a segwit address.
-/

namespace CoinKeys.Address

/-! ## Texts that start like a segwit address of the default networks -/

/-- The starts of the segwit addresses of the production network and of the public test network. -/
def segwitStarts : List (List Char) :=
  ["tc1".toList, "tt1".toList]

/-- The number of a start in base 58. -/
theorem value_segwitStart {start : List Char} (h : start ∈ segwitStarts) :
    (Base58.digitsOf start).length = 3 ∧ (Base58.digitsOf start).head? ≠ some 0 ∧
      (Positional.value 58 (Base58.digitsOf start) = 173594 ∨
        Positional.value 58 (Base58.digitsOf start) = 174522) := by
  simp only [segwitStarts, List.mem_cons, List.not_mem_nil, or_false] at h
  rcases h with rfl | rfl
  · exact ⟨rfl, by decide, .inl rfl⟩
  · exact ⟨rfl, by decide, .inr rfl⟩

/-- A number of twenty-five bytes that starts so in base 58 has thirty or thirty-one digits behind
the start, and its first byte is 2 or 128 accordingly. -/
theorem firstByte_of_segwitStart {lead low high version count : Nat}
    (hlead : lead = 173594 ∨ lead = 174522) (hlow : low < 58 ^ count) (hhigh : high < 256 ^ 24)
    (hversion : version < 256) (hlong : 256 ^ 24 ≤ version * 256 ^ 24 + high)
    (h : version * 256 ^ 24 + high = lead * 58 ^ count + low) : version = 2 ∨ version = 128 := by
  rcases Nat.lt_or_ge count 30 with hshort | hmany
  -- Too few digits for a number of twenty-five bytes.
  · exfalso
    have hpow : 58 ^ count ≤ 58 ^ 29 := Nat.pow_le_pow_right (by decide) (by omega)
    rcases hlead with rfl | rfl <;> omega
  · rcases Nat.lt_or_ge count 32 with hfit | hlarge
    · obtain rfl | rfl : count = 30 ∨ count = 31 := by omega
      · left
        rcases hlead with rfl | rfl <;> omega
      · right
        rcases hlead with rfl | rfl <;> omega
    -- Too many.
    · exfalso
      have hpow : 58 ^ 32 ≤ 58 ^ count := Nat.pow_le_pow_right (by decide) hlarge
      rcases hlead with rfl | rfl <;> omega

/-- **The version byte of a text that starts like a segwit address is 2 or 128, if the text spells
twenty-five bytes at all.** Texts of up to thirty-two characters spell fewer bytes and texts of more
than thirty-four spell more. -/
theorem version_of_segwitStart {start rest : List Char} (hstart : start ∈ segwitStarts)
    {text : String} (htext : text.toList = start ++ rest) {version : UInt8} {bytes : Bytes}
    (h : Base58.decode text = .ok (version :: bytes)) (hlength : bytes.length = 24) :
    version = 2 ∨ version = 128 := by
  obtain ⟨hdigits, hlead, hvalue⟩ := value_segwitStart hstart
  have happend : Base58.digitsOf text.toList = Base58.digitsOf start ++ Base58.digitsOf rest := by
    rw [htext, Base58.digitsOf, List.filterMap_append]
    rfl
  have hhead : (Base58.digitsOf text.toList).head? ≠ some 0 := by
    rwa [happend, List.head?_append_of_ne_nil _ (List.ne_nil_of_length_eq_add_one hdigits)]
  -- The number is known twice: by its digits, and by its bytes with the version in front.
  have hnumber := Base58.toNat_of_decode h
  rw [happend, Positional.value_append, Bytes.toNat_cons, hlength] at hnumber
  have hdigit : ∀ d ∈ Base58.digitsOf rest, d < 58 := fun d => Base58.lt_of_mem_digitsOf
  have hrest := Positional.value_lt (by decide) hdigit
  have hbytes := Bytes.toNat_lt bytes
  rw [hlength] at hbytes
  -- The text has no leading `1`, so the count of its bytes tells how large the number is.
  have hlong : 256 ^ 24 ≤ Bytes.toNat (version :: bytes) := by
    have hiff := Base58.length_le_iff_of_decode h hhead (n := 24)
    rw [List.length_cons, hlength] at hiff
    omega
  rw [Bytes.toNat_cons, hlength] at hlong
  have hbyte := firstByte_of_segwitStart hvalue hrest hbytes version.toNat_lt hlong hnumber
  rwa [← UInt8.toNat_inj, ← UInt8.toNat_inj]

/-! ## Which reading counts -/

theorem decode_of_legacy {scope : Scope} {text : String} {address : LegacyAddress}
    (h : LegacyAddress.decode scope text = .ok address) :
    decodeLegacy scope text = .ok (.legacy address) ∧
      decode scope text = .ok (.legacy address) := by
  have hlegacy : decodeLegacy scope text = .ok (.legacy address) := by
    rw [decodeLegacy, h]
    rfl
  exact ⟨hlegacy, by rw [decode, hlegacy]⟩

/-- After a legacy reading that fails for another reason than a wrong network, a text is what its
segwit reading is. -/
theorem decode_eq_ok_iff_of_legacyFault {scope : Scope} {text : String} {fault : Error}
    (h : decodeLegacy scope text = .error fault) (hfault : ∀ f, fault ≠ .wrongNetwork f)
    {address : Address} :
    decode scope text = .ok address ↔ decodeSegwit scope text = .ok address := by
  rw [decode, h]
  split
  · next heq => cases heq
  · next f heq => exact absurd (Except.error.inj heq) (hfault f)
  · next heq =>
    split
    · next found hfound => rw [hfound]
    · next f hforeign => rw [hforeign]
    · next segwitFault _ hsegwit => simp [hsegwit]

theorem decode_eq_segwitFault {scope : Scope} {text : String} {legacyFault segwitFault : Error}
    (hlegacy : decodeLegacy scope text = .error legacyFault)
    (hfault : ∀ f, legacyFault ≠ .wrongNetwork f)
    (hsegwit : decodeSegwit scope text = .error segwitFault)
    (hstart : startsLikeSegwit scope text = true) : decode scope text = .error segwitFault := by
  rw [decode, hlegacy]
  split
  · next heq => cases heq
  · next f heq => exact absurd (Except.error.inj heq) (hfault f)
  · rw [hsegwit, hstart]
    cases segwitFault <;> rfl

/-- **No legacy address of the default networks starts like a segwit address of theirs.** -/
theorem exists_legacyFault_of_segwitStart {start rest : List Char} (hstart : start ∈ segwitStarts)
    {text : String} (htext : text.toList = start ++ rest) :
    ∃ fault, decodeLegacy (.registered .defaults) text = .error fault ∧
      ∀ f, fault ≠ .wrongNetwork f := by
  cases hread : LegacyAddress.decode (.registered .defaults) text with
  | error fault =>
    refine ⟨fault, by rw [decodeLegacy, hread]; rfl, ?_⟩
    rintro f rfl
    exact LegacyAddress.decode_registered_ne_wrongNetwork _ _ _ hread
  | ok address =>
    exfalso
    obtain ⟨rfl, hfind⟩ := LegacyAddress.decode_registered_eq_ok_iff.mp hread
    have hbytes := Base58.decode_encode (address.version :: address.hash.toList ++
      (Base58.checksum (address.version :: address.hash.toList)).toList)
    have hversion := version_of_segwitStart hstart htext hbytes (by simp [Base58.checksumSize])
    -- Neither network claims one of these version bytes.
    rcases hversion with hversion | hversion <;> rw [hversion] at hfind <;> cases hfind

/-! ## The default networks -/

section Defaults

variable {network : NetworkParameters}

theorem resolveVersion_of_default (h : network = .mainnet ∨ network = .testnet)
    {version : UInt8} (hclaims : network.claimsVersion version = true) :
    Registry.defaults.resolveVersion version = some network := by
  simp only [NetworkParameters.claimsVersion, Bool.or_eq_true, beq_iff_eq] at hclaims
  rcases h with rfl | rfl <;> rcases hclaims with rfl | rfl <;> rfl

theorem exists_hrp_of_default (h : network = .mainnet ∨ network = .testnet) :
    ∃ hrp, SegwitAddress.hrpOf network = .ok hrp ∧ hrp.toList.length = 2 ∧
      hrp.toList.map Char.toLower ++ [Bech32.separator] ∈ segwitStarts ∧
      Registry.defaults.resolveHrp hrp.toLower = some network := by
  rcases h with rfl | rfl
  · exact ⟨"tc", by cbv, by decide, by decide, by cbv⟩
  · exact ⟨"tt", by cbv, by decide, by decide, by cbv⟩

theorem exists_start_of_encode {address : SegwitAddress} {hrp text : String}
    (hhrp : SegwitAddress.hrpOf address.network = .ok hrp) (h : address.encode = .ok text) :
    ∃ rest, text.toList = hrp.toList.map Char.toLower ++ [Bech32.separator] ++ rest := by
  obtain ⟨_, values, hown, -, hencode⟩ := SegwitAddress.encode_eq_ok_iff.mp h
  obtain rfl := Except.ok.inj (hhrp.symm.trans hown)
  obtain ⟨-, -, htext⟩ := Bech32.encode_eq_ok_iff.mp hencode
  exact ⟨_, by rw [htext, List.append_assoc]; rfl⟩

theorem exists_decodeSegwit_of_default (hnetwork : network = .mainnet ∨ network = .testnet)
    {version : UInt8} {program : Bytes} {address : SegwitAddress}
    (h : SegwitAddress.make network version program = .ok address) :
    ∃ start ∈ segwitStarts, ∃ text rest, address.encode = .ok text ∧ text.toList = start ++ rest ∧
      SegwitAddress.decode (.registered .defaults) text = .ok address := by
  obtain ⟨hrp, hhrp, hlength, hstart, hresolve⟩ := exists_hrp_of_default hnetwork
  rw [← Scope.find?_registered_claimsHrp] at hresolve
  obtain ⟨-, hprogram, rfl⟩ := SegwitAddress.make_eq_ok_iff.mp h
  obtain ⟨-, ⟨-, hmax⟩, -⟩ := SegwitAddress.checkProgram_eq_ok_iff.mp hprogram
  obtain ⟨text, htext, hsize⟩ := SegwitAddress.exists_encode_eq_ok h hhrp
  have hshort : Text.utf8Size text.toList ≤ Bech32.maxLength := by
    rw [hsize, SegwitAddress.textLength, Bech32.maxLength]
    omega
  obtain ⟨rest, hrest⟩ := exists_start_of_encode hhrp htext
  exact ⟨_, hstart, text, rest, htext, hrest,
    SegwitAddress.decode_of_encode h hhrp hresolve htext hshort⟩

theorem exists_decode_of_constructed (hnetwork : network = .mainnet ∨ network = .testnet)
    {address : Address} (h : Constructed network address) :
    address.network = network ∧
      ∃ text, address.encode = .ok text ∧ decode (.registered .defaults) text = .ok address := by
  rcases h.legacy_or_segwit with ⟨version, hash, hclaims, rfl⟩ |
    ⟨version, program, made, hmade, rfl⟩
  · refine ⟨rfl, _, rfl, ?_⟩
    have hread : LegacyAddress.decode (.registered .defaults)
        (LegacyAddress.encode ⟨network, version, hash⟩) = .ok ⟨network, version, hash⟩ :=
      LegacyAddress.decode_registered_eq_ok_iff.mpr
        ⟨rfl, resolveVersion_of_default hnetwork hclaims⟩
    exact (decode_of_legacy hread).2
  · obtain ⟨start, hstart, text, rest, htext, hrest, hread⟩ :=
      exists_decodeSegwit_of_default hnetwork hmade
    obtain ⟨-, -, rfl⟩ := SegwitAddress.make_eq_ok_iff.mp hmade
    obtain ⟨fault, hlegacy, hfault⟩ := exists_legacyFault_of_segwitStart hstart hrest
    refine ⟨rfl, text, htext, ?_⟩
    rw [decode_eq_ok_iff_of_legacyFault hlegacy hfault, decodeSegwit, hread]
    rfl

/-- **Every address of the default networks is read from its text, in all fields.** A text that
starts like a segwit address of theirs is never read as a legacy address, whatever its checksum: the
version bytes that it may spell belong to none of them. -/
theorem decode_encode_of_default (hnetwork : network = .mainnet ∨ network = .testnet)
    {address : Address} (h : Constructed network address) :
    (∃ text, address.encode = .ok text ∧
      decode (.registered .defaults) text = .ok address ∧
      ofJson? .defaults (.text text) = some (.ok address) ∧
      networkOf .defaults text = .ok network) ∧
    ∀ start ∈ segwitStarts, ∀ (text : String) (rest : List Char), text.toList = start ++ rest →
      (∀ (version : UInt8) (bytes : Bytes), Base58.decode text = .ok (version :: bytes) →
        bytes.length = 24 → version = 2 ∨ version = 128) ∧
      ∀ found, decode (.registered .defaults) text = .ok found ↔
        decodeSegwit (.registered .defaults) text = .ok found := by
  refine ⟨?_, fun start hstart text rest htext => ?_⟩
  · obtain ⟨hown, text, htext, hread⟩ := exists_decode_of_constructed hnetwork h
    refine ⟨text, htext, hread, congrArg some hread, ?_⟩
    rw [networkOf, hread, ← hown]
    rfl
  · obtain ⟨fault, hlegacy, hfault⟩ := exists_legacyFault_of_segwitStart hstart htext
    exact ⟨fun _ _ => version_of_segwitStart hstart htext,
      fun _ => decode_eq_ok_iff_of_legacyFault hlegacy hfault⟩

/-- The text of a program of fifteen bytes has thirty-four characters, as many as that of a legacy
address. -/
theorem decode_encode_of_default_fifteen :
    (NetworkParameters.mainnet = .mainnet ∨ NetworkParameters.mainnet = .testnet) ∧
      Constructed .mainnet (.segwit ⟨.mainnet, 1, List.replicate 15 0xff⟩) ∧
      ∃ text, encode (.segwit ⟨.mainnet, 1, List.replicate 15 0xff⟩) = .ok text ∧
        decode (.registered .defaults) text =
          .ok (.segwit ⟨.mainnet, 1, List.replicate 15 0xff⟩) ∧
        ofJson? .defaults (.text text) =
          some (.ok (.segwit ⟨.mainnet, 1, List.replicate 15 0xff⟩)) ∧
        networkOf .defaults text = .ok .mainnet := by
  have hmade : Constructed .mainnet (.segwit ⟨.mainnet, 1, List.replicate 15 0xff⟩) :=
    .segwit (SegwitAddress.make_eq_ok_iff.mpr ⟨⟨"tc", by cbv⟩, rfl, rfl⟩)
  exact ⟨.inl rfl, hmade, (decode_encode_of_default (.inl rfl) hmade).1⟩

end Defaults

end CoinKeys.Address
