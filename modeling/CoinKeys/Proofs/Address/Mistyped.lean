import CoinKeys.Proofs.Address.Parse
import CoinKeys.Proofs.Bech32.Substitution
import CoinKeys.Proofs.Network.Parameters

/-!
# A mistyped segwit address is refused for its checksum

One or two wrong characters of the data part make the checksum wrong (`Bech32.decode_of_altered`). A
text is tried as a legacy address as well, though, and the fault of that reading is the one that is
reported unless the text starts like a segwit address. Both are settled by what stands before the
data part, which a mistyped text keeps up to the last separator (`Mistyped.exists_eq_append`):

* it is still a human-readable part of the scope, so the fault of the segwit reading counts, and
* it is still `tc1` or `tt1` at its start, so the text is no legacy address
  (`exists_legacyFault_of_segwitStart`), though many texts of thirty-three and thirty-four
  characters spell twenty-five bytes in base 58.

**Theorem (`decode_eq_invalidChecksum_of_mistyped`).** With one or two characters of its data part
replaced, the text of a segwit address of the default networks is read neither as an address nor as
a bad legacy address: the checksum is reported.
-/

namespace CoinKeys

namespace Bech32

/-- `changed` comes from `text` when one or two characters behind the last separator are replaced by
other lower-case data characters. -/
inductive Mistyped (text changed : String) : Prop
  | intro {hrp data data' : List Char} (htext : text.toList = hrp ++ separator :: data)
    (hlast : separator ∉ data) (hchanged : changed.toList = hrp ++ separator :: data')
    (hlength : data'.length = data.length) (hne : data' ≠ data)
    (hdistance : distance data data' ≤ 2) (hchars : data' ⊆ alphabet)

theorem exists_valueChar_of_mem_alphabet {c : Char} (h : c ∈ alphabet) :
    ∃ v : UInt8, v.toNat < 32 ∧ valueChar v = c := by
  obtain ⟨i, hi, rfl⟩ := List.getElem_of_mem h
  have hlength : alphabet.length = 32 := by decide +kernel
  have hvalue : (UInt8.ofNat i).toNat = i :=
    UInt8.toNat_ofNat_of_lt' ((hi.trans_eq hlength).trans (by decide))
  exact ⟨UInt8.ofNat i, by omega, by rw [valueChar, hvalue, List.getD_eq_getElem _ _ hi]⟩

theorem isSome_value?_of_mem_alphabet {c : Char} (h : c ∈ alphabet) :
    (value? c).isSome = true := by
  obtain ⟨v, hv, rfl⟩ := exists_valueChar_of_mem_alphabet h
  rw [value?_valueChar hv]
  rfl

theorem isUpper_of_mem_alphabet {c : Char} (h : c ∈ alphabet) : c.isUpper = false := by
  obtain ⟨v, hv, rfl⟩ := exists_valueChar_of_mem_alphabet h
  exact (valueChar_spec hv).2.2

theorem Substituted.of_lower {count : Nat} {chars changed : List Char}
    (hlength : changed.length = chars.length) (hne : changed ≠ chars)
    (hdistance : distance chars changed ≤ count) (hlower : ∀ c ∈ chars, c.isUpper = false)
    (hlower' : ∀ c ∈ changed, c.isUpper = false) : Substituted count chars changed where
  length_eq := hlength
  ne := hne
  distance_le := hdistance
  toLower_ne := by
    intro p hp hdiffer
    have hmem := List.of_mem_zip hp
    rwa [Char.toLower_eq_of_not_isUpper (by simp [hlower p.1 hmem.1]),
      Char.toLower_eq_of_not_isUpper (by simp [hlower' p.2 hmem.2])]

section Mistyped

variable {text changed : String}

theorem Mistyped.altered_and_lower (h : Mistyped text changed)
    (hlower : ∀ c ∈ text.toList, c.isUpper = false) :
    Altered text changed ∧ ∀ c ∈ changed.toList, c.isUpper = false := by
  cases h with
  | @intro hrp data data' htext hlast hchanged hlength hne hdistance hchars =>
    rw [htext, List.forall_mem_append, List.forall_mem_cons] at hlower
    obtain ⟨hhrp, hseparator, hdata⟩ := hlower
    have hdata' : ∀ c ∈ data', c.isUpper = false :=
      fun c hc => isUpper_of_mem_alphabet (hchars hc)
    refine ⟨.data htext hlast hchanged (.of_lower hlength hne hdistance hdata hdata')
      fun c hc => isSome_value?_of_mem_alphabet (hchars hc), ?_⟩
    rw [hchanged]
    exact List.forall_mem_append.mpr ⟨hhrp, List.forall_mem_cons.mpr ⟨hseparator, hdata'⟩⟩

/-- **A mistyped text is no text any more.** -/
theorem Mistyped.decode_eq (h : Mistyped text changed)
    (hlower : ∀ c ∈ text.toList, c.isUpper = false) {result : String × List UInt8}
    (hread : decode text = .ok result) : decode changed = .error .invalidChecksum := by
  obtain ⟨haltered, hlower'⟩ := h.altered_and_lower hlower
  exact decode_of_altered hread haltered (caseClash?_eq_none_iff.mpr (.inl hlower'))

/-- A mistyped text keeps all that stands before its last separator. -/
theorem Mistyped.exists_split (h : Mistyped text changed) : ∃ hrp data data',
    Text.splitLast? separator text.toList = some (hrp, data) ∧
      Text.splitLast? separator changed.toList = some (hrp, data') := by
  obtain ⟨htext, hlast, hchanged, -, -, -, hchars⟩ := h
  refine ⟨_, _, _, Text.splitLast?_eq_some_iff.mpr ⟨htext, hlast⟩,
    Text.splitLast?_eq_some_iff.mpr ⟨hchanged, fun hmem => ?_⟩⟩
  have hvalue := isSome_value?_of_mem_alphabet (hchars hmem)
  rw [value?_separator] at hvalue
  cases hvalue

theorem Mistyped.exists_eq_append (h : Mistyped text changed) {start rest : List Char}
    (hstart : text.toList = start ++ [separator] ++ rest) :
    ∃ rest', changed.toList = start ++ [separator] ++ rest' := by
  obtain ⟨htext, hlast, hchanged, -, -, -, -⟩ := h
  simp only [htext, List.append_assoc, List.singleton_append] at hstart ⊢
  rcases List.append_eq_append_iff.mp hstart with ⟨gap, rfl, hgap⟩ | ⟨gap, rfl, hgap⟩
  -- No separator follows the last one, so the start is all that stands before it.
  · cases gap with
    | nil => exact ⟨_, by rw [hchanged, List.append_nil]⟩
    | cons c gap =>
      obtain ⟨-, rfl⟩ := List.cons.inj hgap
      simp at hlast
  -- The start ends with an earlier separator, or with the last one.
  · cases gap with
    | nil => exact ⟨_, by rw [hchanged, List.append_nil]⟩
    | cons c gap =>
      obtain ⟨rfl, -⟩ := List.cons.inj hgap
      exact ⟨_, by rw [hchanged, List.append_assoc, List.cons_append]⟩

end Mistyped

end Bech32

namespace Address

open Bech32 (Mistyped)

theorem startsLikeSegwit_of_decode {scope : Scope} {text : String} {address : SegwitAddress}
    (h : SegwitAddress.decode scope text = .ok address) : startsLikeSegwit scope text = true := by
  obtain ⟨hrp, values, hread, hfind, -, -⟩ := SegwitAddress.decode_eq_ok_iff.mp h
  obtain ⟨before, after, hlayout, -, rfl, -⟩ := Bech32.decode_eq_ok_iff.mp hread
  have hlower : String.ofList (before.map Char.toLower) = (String.ofList before).toLower := by
    rw [← String.toList_inj, Text.toList_toLower, String.toList_ofList, String.toList_ofList]
  simp only [hlower, NetworkParameters.claimsHrp_toLower] at hfind
  simp only [startsLikeSegwit, hlayout.split, hfind, Option.isSome_some]

theorem startsLikeSegwit_of_mistyped {scope : Scope} {text changed : String}
    (h : Mistyped text changed) : startsLikeSegwit scope changed = startsLikeSegwit scope text := by
  obtain ⟨hrp, data, data', hsplit, hsplit'⟩ := h.exists_split
  rw [startsLikeSegwit, startsLikeSegwit, hsplit, hsplit']

theorem exists_eq_append_separator {start : List Char} (h : start ∈ segwitStarts) :
    ∃ hrp, start = hrp ++ [Bech32.separator] := by
  simp only [segwitStarts, List.mem_cons, List.not_mem_nil, or_false] at h
  rcases h with rfl | rfl
  · exact ⟨"tc".toList, by decide⟩
  · exact ⟨"tt".toList, by decide⟩

section Defaults

variable {network : NetworkParameters} {address : SegwitAddress}

/-- A mistyped text of a segwit address of the default networks is read in neither form. -/
theorem decode_of_mistyped (hnetwork : network = .mainnet ∨ network = .testnet)
    (h : Constructed network (.segwit address)) {text changed : String}
    (htext : address.encode = .ok text) (hmistyped : Mistyped text changed) :
    decode (.registered .defaults) changed = .error .invalidChecksum := by
  obtain ⟨start, hstart, text', rest, htext', hrest, hread⟩ :=
    exists_decodeSegwit_of_default hnetwork h.make_segwit
  obtain rfl := Except.ok.inj (htext.symm.trans htext')
  obtain ⟨_, _, -, -, hencode⟩ := SegwitAddress.encode_eq_ok_iff.mp htext
  obtain ⟨_, _, hdecode, -, -, -⟩ := SegwitAddress.decode_eq_ok_iff.mp hread
  have hsegwit : decodeSegwit (.registered .defaults) changed = .error .invalidChecksum := by
    rw [decodeSegwit, SegwitAddress.decode_of_bech32_error _
      (hmistyped.decode_eq (Bech32.isUpper_of_mem_encode hencode) hdecode)]
    rfl
  obtain ⟨hrp, rfl⟩ := exists_eq_append_separator hstart
  obtain ⟨rest', hrest'⟩ := hmistyped.exists_eq_append hrest
  obtain ⟨fault, hlegacy, hfault⟩ := exists_legacyFault_of_segwitStart hstart hrest'
  have hstarts : startsLikeSegwit (.registered .defaults) changed = true :=
    (startsLikeSegwit_of_mistyped hmistyped).trans (startsLikeSegwit_of_decode hread)
  exact decode_eq_segwitFault hlegacy hfault hsegwit hstarts

/-- **A mistyped segwit address of the default networks is refused for its checksum**, wherever no
network is expected. -/
theorem decode_eq_invalidChecksum_of_mistyped
    (hnetwork : network = .mainnet ∨ network = .testnet)
    (h : Constructed network (.segwit address)) :
    ∃ text, address.encode = .ok text ∧ ∀ changed, Mistyped text changed →
      decode (.ofExpected .defaults none) changed = .error .invalidChecksum ∧
      ofJson? .defaults (.text changed) = some (.error .invalidChecksum) ∧
      networkOf .defaults changed = .error .invalidChecksum := by
  obtain ⟨_, -, text, -, htext, -, -⟩ := exists_decodeSegwit_of_default hnetwork h.make_segwit
  refine ⟨text, htext, fun changed hmistyped => ?_⟩
  have hrefused := decode_of_mistyped hnetwork h htext hmistyped
  refine ⟨hrefused, congrArg some hrefused, ?_⟩
  rw [networkOf, hrefused]
  rfl

/-- Two exchanged characters of a text with as many characters as a legacy address has. -/
theorem decode_eq_invalidChecksum_of_mistyped_exchanged :
    (NetworkParameters.mainnet = .mainnet ∨ NetworkParameters.mainnet = .testnet) ∧
      Constructed .mainnet (.segwit ⟨.mainnet, 1, List.replicate 15 0xaa⟩) ∧
      Mistyped "tc1p424242424242424242424242kkk2vj" "tc1p424242424242424242424242kkk2jv" ∧
      decode (.ofExpected .defaults none) "tc1p424242424242424242424242kkk2jv" =
        .error .invalidChecksum ∧
      ofJson? .defaults (.text "tc1p424242424242424242424242kkk2jv") =
        some (.error .invalidChecksum) ∧
      networkOf .defaults "tc1p424242424242424242424242kkk2jv" = .error .invalidChecksum := by
  have hmade : Constructed .mainnet (.segwit ⟨.mainnet, 1, List.replicate 15 0xaa⟩) :=
    .segwit (SegwitAddress.make_eq_ok_iff.mpr ⟨⟨"tc", by cbv⟩, rfl, rfl⟩)
  have hwritten : SegwitAddress.encode ⟨.mainnet, 1, List.replicate 15 0xaa⟩ =
      .ok "tc1p424242424242424242424242kkk2vj" := by cbv
  have hmistyped :
      Mistyped "tc1p424242424242424242424242kkk2vj" "tc1p424242424242424242424242kkk2jv" :=
    @Mistyped.intro _ _ "tc".toList "p424242424242424242424242kkk2vj".toList
      "p424242424242424242424242kkk2jv".toList (by decide +kernel) (by decide +kernel)
      (by decide +kernel) (by decide +kernel) (by decide +kernel) (by decide +kernel)
      (by decide +kernel)
  obtain ⟨text, htext, hread⟩ := decode_eq_invalidChecksum_of_mistyped (.inl rfl) hmade
  obtain rfl := Except.ok.inj (hwritten.symm.trans htext)
  exact ⟨.inl rfl, hmade, hmistyped, hread _ hmistyped⟩

end Defaults

end Address

end CoinKeys
