import CoinKeys.Proofs.Address.Segwit
import CoinKeys.Proofs.Bech32.Case
import CoinKeys.Proofs.Network.Parameters

/-!
# Spellings of segwit addresses

A text that is read as a segwit address is the one that is written for the address, or that one in
upper case: each step of reading can be undone in one way only. The bits that regrouping drops are
the padding that writing adds, and the checksum, the human-readable part and the network follow from
the rest.

**Theorem (`spelling_of_decode`).** Every address that is read can be made, and has at most two
spellings.

**Theorem (`decode_encode_eq_make`).** Of the texts behind the human-readable part of a network,
those are read as addresses whose version and program make one, and the others are refused for the
same reason.

**Theorem (`decode_encode_iff_textLength`).** The text of an address that is made is read as that
address exactly when it is no longer than the reader allows. The constructor does not see to that: a
long human-readable part and a long program together have a longer text
(`decode_encode_of_long_hrp`).
-/

namespace CoinKeys.SegwitAddress

/-! ## Texts that are read -/

theorem encode_of_decode {scope : Scope} {text : String} {address : SegwitAddress}
    (hnetwork : address.network.Constructed) (h : decode scope text = .ok address) :
    address.encode = .ok text.toLower := by
  obtain ⟨hrp, data, hread, hfind, hregroup, -⟩ := decode_eq_ok_iff.mp h
  have hwritten := Bech32.encode_of_decode hread
  obtain ⟨-, hfault, -⟩ := Bech32.encode_eq_ok_iff.mp hwritten
  have hown : address.network.hrp = some hrp :=
    hnetwork.hrp_eq_of_claimsHrp (Bech32.isUpper_of_decode hread) (Scope.claims_of_find? hfind)
  have hvalues : BitGroups.regroup .byte .symbol true address.program = .ok data :=
    BitGroups.regroup_of_strict hregroup
  exact encode_eq_ok_iff.mpr ⟨hrp, data, hrpOf_eq_ok_iff.mpr ⟨hown, hfault⟩, hvalues, hwritten⟩

theorem make_of_decode {scope : Scope} {text : String} {address : SegwitAddress}
    (hnetwork : address.network.Constructed) (h : decode scope text = .ok address) :
    make address.network address.witnessVersion address.program = .ok address := by
  obtain ⟨_, _, -, -, -, hprogram⟩ := decode_eq_ok_iff.mp h
  obtain ⟨hrp, _, hhrp, -⟩ := encode_eq_ok_iff.mp (encode_of_decode hnetwork h)
  exact make_eq_ok_iff.mpr ⟨⟨hrp, hhrp⟩, hprogram, rfl⟩

/-- **Every address that is read can be made, and has at most two spellings**: the text that is
written for it, and that text in upper case, whatever the registry and the expected network are. -/
theorem spelling_of_decode {registry : Registry} {expected : Option NetworkParameters}
    (hregistry : registry.Constructed) (hexpected : ∀ network ∈ expected, network.Constructed)
    {text : String} {address : SegwitAddress}
    (h : decode (.ofExpected registry expected) text = .ok address) :
    ∃ own, address.encode = .ok own ∧ (∀ c ∈ own.toList, c.isUpper = false) ∧
      (text = own ∨ text = own.toUpper) ∧
      (∀ (scope : Scope) (other : String), decode scope other = .ok address →
        other = own ∨ other = own.toUpper) ∧
      make address.network address.witnessVersion address.program = .ok address := by
  have hnetwork : address.network.Constructed := by
    obtain ⟨_, _, -, hfind, -, -⟩ := decode_eq_ok_iff.mp h
    rcases Scope.mem_of_find?_ofExpected hfind with hmem | hmem
    · exact hregistry _ hmem
    · exact hexpected _ hmem
  have hown := encode_of_decode hnetwork h
  have hspelling : ∀ (scope : Scope) (other : String), decode scope other = .ok address →
      other = text.toLower ∨ other = text.toLower.toUpper := by
    intro scope other hother
    obtain ⟨_, _, hread, -, -, -⟩ := decode_eq_ok_iff.mp hother
    -- Both texts are in lower case the one that is written for the address.
    have hsame : other.toLower = text.toLower :=
      Except.ok.inj ((encode_of_decode hnetwork hother).symm.trans hown)
    rw [← hsame]
    exact Bech32.eq_toLower_or_eq_toUpper_of_decode hread
  exact ⟨text.toLower, hown, Text.isUpper_of_mem_toLower text, hspelling _ text h, hspelling,
    make_of_decode hnetwork h⟩

/-- An upper-case text of an address of the production network, read with no expected network. -/
theorem spelling_of_decode_upper :
    Registry.defaults.Constructed ∧
      (∀ network ∈ (none : Option NetworkParameters), network.Constructed) ∧
      decode (.ofExpected .defaults none) "TC1PW5007FPZ3PQ" =
        .ok ⟨.mainnet, 1, [0x75, 0x1e, 0xff]⟩ ∧
      ∃ own, encode ⟨.mainnet, 1, [0x75, 0x1e, 0xff]⟩ = .ok own ∧
        "TC1PW5007FPZ3PQ" ∈ [own, own.toUpper] := by
  have hexpected : ∀ network ∈ (none : Option NetworkParameters), network.Constructed := by simp
  have hwritten : Bech32.encode "tc" [1, 14, 20, 15, 15, 30] = .ok "tc1pw5007fpz3pq" := by cbv
  have hread := Bech32.decode_toUpper_of_encode hwritten (by decide)
  have hupper : "tc1pw5007fpz3pq".toUpper = "TC1PW5007FPZ3PQ" := by cbv
  rw [hupper] at hread
  have haddress : decode (.ofExpected .defaults none) "TC1PW5007FPZ3PQ" =
      .ok ⟨.mainnet, 1, [0x75, 0x1e, 0xff]⟩ :=
    decode_eq_ok_iff.mpr ⟨"tc".toLower, [14, 20, 15, 15, 30], hread, by cbv, by cbv, rfl⟩
  obtain ⟨own, hown, -, hspelling, -⟩ :=
    spelling_of_decode Registry.constructed_defaults hexpected haddress
  exact ⟨Registry.constructed_defaults, hexpected, haddress, own, hown, by simpa using hspelling⟩

/-! ## Texts that are written -/

theorem make_cases {network : NetworkParameters} {hrp : String} (hhrp : hrpOf network = .ok hrp)
    (version : UInt8) (program : Bytes) :
    make network version program = .ok ⟨network, version, program⟩ ∨
      make network version program = .error (.invalidWitnessVersion version) ∨
      ∃ fault, make network version program = .error (.invalidLength fault) := by
  have hmake : make network version program =
      (checkProgram version program).map fun _ => ⟨network, version, program⟩ := by
    rw [make, hhrp]
    rfl
  rw [hmake, checkProgram, checkVersion]
  split
  · exact .inr (.inl rfl)
  · rw [checkLength]
    split
    · exact .inr (.inr ⟨_, rfl⟩)
    · split
      · exact .inr (.inr ⟨_, rfl⟩)
      · exact .inl rfl

/-- **A program is accepted from a text as it is accepted by the constructor.** -/
theorem decode_encode_eq_make {network : NetworkParameters} {hrp : String}
    (hhrp : hrpOf network = .ok hrp) {version : UInt8} (hversion : version.toNat < 32)
    (program : Bytes) :
    ∃ values text, BitGroups.regroup .byte .symbol true program = .ok values ∧
      Bech32.encode hrp (version :: values) = .ok text ∧
      (Text.utf8Size text.toList ≤ Bech32.maxLength → ∀ registry : Registry,
        decode (.ofExpected registry (some network)) text = make network version program) ∧
      (make network version program = .ok ⟨network, version, program⟩ ∨
        make network version program = .error (.invalidWitnessVersion version) ∨
        ∃ fault, make network version program = .error (.invalidLength fault)) := by
  obtain ⟨hown, hfault⟩ := hrpOf_eq_ok_iff.mp hhrp
  obtain ⟨values, text, hvalues, htext, -⟩ := exists_text hfault hversion program
  refine ⟨values, text, hvalues, htext, fun hsize registry => ?_, make_cases hhrp version program⟩
  have hclaims : network.claimsHrp hrp.toLower = true :=
    NetworkParameters.claimsHrp_iff.mpr ⟨hrp, hown, (Text.toLower_toLower hrp).symm⟩
  have hfind : (Scope.ofExpected registry (some network)).find? (·.claimsHrp hrp.toLower) =
      some network := if_pos hclaims
  exact decode_eq_make hhrp hfind hvalues htext hsize

/-- A version that does not exist, with an empty program. -/
theorem decode_encode_eq_make_seventeen :
    hrpOf .mainnet = .ok "tc" ∧ (17 : UInt8).toNat < 32 ∧
      ∃ text, Bech32.encode "tc" [17] = .ok text ∧
        decode (.ofExpected .empty (some .mainnet)) text = .error (.invalidWitnessVersion 17) := by
  have hhrp : hrpOf .mainnet = .ok "tc" := by cbv
  have hversion : (17 : UInt8).toNat < 32 := by decide
  obtain ⟨values, text, hvalues, htext, hread, -⟩ :=
    decode_encode_eq_make hhrp hversion []
  cases hvalues
  have hsize : Text.utf8Size text.toList ≤ Bech32.maxLength := by
    rw [Bech32.utf8Size_of_encode htext]
    decide
  exact ⟨hhrp, hversion, text, htext, (hread hsize .empty).trans (by cbv)⟩

/-! ## Texts that are too long -/

theorem claimsHrp_of_hrpOf {network : NetworkParameters} {hrp : String}
    (h : hrpOf network = .ok hrp) : network.claimsHrp hrp.toLower = true := by
  obtain ⟨hown, -⟩ := hrpOf_eq_ok_iff.mp h
  exact NetworkParameters.claimsHrp_iff.mpr ⟨hrp, hown, (Text.toLower_toLower hrp).symm⟩

theorem find?_ofExpected_of_hrpOf (registry : Registry) {network : NetworkParameters} {hrp : String}
    (h : hrpOf network = .ok hrp) :
    (Scope.ofExpected registry (some network)).find? (·.claimsHrp hrp.toLower) = some network :=
  if_pos (claimsHrp_of_hrpOf h)

/-- **An address is read from its text exactly when the text is no longer than the reader allows.**
The constructor bounds the human-readable part and the program, and each bound leaves room for the
other one to be short only; a text that is too long is refused for its length, whatever the registry
is. -/
theorem decode_encode_iff_textLength {network : NetworkParameters} {version : UInt8}
    {program : Bytes} {address : SegwitAddress} (h : make network version program = .ok address) :
    ∃ hrp text, network.hrp = some hrp ∧ address.encode = .ok text ∧
      Text.utf8Size text.toList = textLength hrp program.length ∧
      ∀ registry : Registry,
        (decode (.ofExpected registry (some network)) text = .ok address ↔
          textLength hrp program.length ≤ Bech32.maxLength) ∧
        (Bech32.maxLength < textLength hrp program.length →
          decode (.ofExpected registry (some network)) text =
            .error (.invalidLength (.bech32Text (textLength hrp program.length)))) := by
  obtain ⟨⟨hrp, hhrp⟩, -, -⟩ := make_eq_ok_iff.mp h
  obtain ⟨hown, -⟩ := hrpOf_eq_ok_iff.mp hhrp
  obtain ⟨text, htext, hsize⟩ := exists_encode_eq_ok h hhrp
  refine ⟨hrp, text, hown, htext, hsize, fun registry => ?_⟩
  have hlong : Bech32.maxLength < textLength hrp program.length →
      decode (.ofExpected registry (some network)) text =
        .error (.invalidLength (.bech32Text (textLength hrp program.length))) := by
    rw [← hsize]
    exact fun hmore => decode_of_bech32_error _ (Bech32.decode_of_long hmore)
  refine ⟨⟨fun hread => ?_, fun hfits => ?_⟩, hlong⟩
  · by_contra hmore
    rw [hlong (Nat.lt_of_not_le hmore)] at hread
    cases hread
  · have hfind := find?_ofExpected_of_hrpOf registry hhrp
    exact decode_of_encode h hhrp hfind htext (hsize.trans_le hfits)

/-- A human-readable part of thirty characters and a script hash make the longest text that is
read. -/
theorem decode_encode_iff_textLength_ninety :
    let network := NetworkParameters.make "private" 1 2 3 (some "privatetestnetworkoftdcoinuser")
    let address : SegwitAddress := ⟨network, 0, List.replicate 32 7⟩
    make network 0 (List.replicate 32 7) = .ok address ∧
    ∃ text, address.encode = .ok text ∧ Text.utf8Size text.toList = 90 ∧
      ∀ registry, decode (.ofExpected registry (some network)) text = .ok address := by
  intro network address
  have hmade : make network 0 (List.replicate 32 7) = .ok address := by cbv
  obtain ⟨hrp, text, hown, htext, hsize, hread⟩ := decode_encode_iff_textLength hmade
  have hlower : "privatetestnetworkoftdcoinuser".map Char.toLower =
      "privatetestnetworkoftdcoinuser" := by cbv
  obtain rfl : "privatetestnetworkoftdcoinuser" = hrp := hlower ▸ Option.some.inj hown
  have hlength :
      textLength "privatetestnetworkoftdcoinuser" (List.replicate 32 (7 : UInt8)).length = 90 := by
    decide +kernel
  rw [hlength] at hsize hread
  exact ⟨hmade, text, htext, hsize, fun registry => (hread registry).1.mpr (Nat.le_refl 90)⟩

/-- With one character more in the human-readable part, the constructor makes an address whose text
is not read. -/
theorem decode_encode_of_long_hrp :
    let network := NetworkParameters.make "private" 1 2 3 (some "privatetestnetworkoftdcoinusers")
    let address : SegwitAddress := ⟨network, 0, List.replicate 32 7⟩
    let text :=
      "privatetestnetworkoftdcoinusers1qqurswpc8qurswpc8qurswpc8qurswpc8qurswpc8qurswpc8qurshwn60l"
    make network 0 (List.replicate 32 7) = .ok address ∧ address.encode = .ok text ∧
      ∀ registry, decode (.ofExpected registry (some network)) text =
        .error (.invalidLength (.bech32Text 91)) := by
  intro network address text
  have hsize : Text.utf8Size text.toList = 91 := by decide +kernel
  have hrefused : Bech32.decode text = .error (.invalidLength (.bech32Text 91)) := by
    rw [Bech32.decode_of_long (by rw [hsize]; decide), hsize]
  exact ⟨by cbv, by cbv, fun registry => decode_of_bech32_error _ hrefused⟩

end CoinKeys.SegwitAddress
