import CoinKeys.Address.Segwit
import CoinKeys.Proofs.Bech32.Distance
import CoinKeys.Proofs.Bech32.Text

/-!
# Wrong characters are noticed

A wrong data character is one wrong symbol. A wrong character of the human-readable part may be two
of them, since its high and its low bits stand in different places. The symbol string of a text has
at most 173 symbols, so the distance of the code applies (`three_le_distance`).

**Theorem (`decode_of_altered`).** A text that is read is not read any more when one or two
characters of its data part, or one of its human-readable part, are replaced: the checksum is
reported, and so no address is moved to another network.
-/

namespace CoinKeys.Bech32

open Text

/-! ## Replaced characters -/

/-- `changed` comes from `chars` when at least one and at most `count` characters are replaced, none
of them by the same letter in the other case. -/
structure Substituted (count : Nat) (chars changed : List Char) : Prop where
  length_eq : changed.length = chars.length
  ne : changed ≠ chars
  distance_le : distance chars changed ≤ count
  toLower_ne : ∀ p ∈ chars.zip changed, p.1 ≠ p.2 → p.1.toLower ≠ p.2.toLower

/-- `changed` comes from `text` when one or two characters of the data part are replaced by data
characters, or one character of the human-readable part by another one that may stand there. -/
inductive Altered (text changed : String) : Prop
  | data {hrp data data' : List Char} (htext : text.toList = hrp ++ separator :: data)
    (hlast : separator ∉ data) (hchanged : changed.toList = hrp ++ separator :: data')
    (hsubstituted : Substituted 2 data data') (hchars : ∀ c ∈ data', (value? c).isSome = true)
  | hrp {hrp hrp' data : List Char} (htext : text.toList = hrp ++ separator :: data)
    (hlast : separator ∉ data) (hchanged : changed.toList = hrp' ++ separator :: data)
    (hsubstituted : Substituted 1 hrp hrp') (hchars : ∀ c ∈ hrp', isHrpChar c = true)

theorem Substituted.map_toLower_ne {count : Nat} {chars changed : List Char}
    (h : Substituted count chars changed) : chars.map Char.toLower ≠ changed.map Char.toLower := by
  intro heq
  refine h.ne (eq_of_distance_eq_zero h.length_eq.symm ?_).symm
  refine List.countP_eq_zero.mpr fun p hp => ?_
  obtain ⟨i, hi, rfl⟩ := List.getElem_of_mem hp
  have hsame : (chars.zip changed)[i].1.toLower = (chars.zip changed)[i].2.toLower := by
    have hi' := congrArg (·[i]?) heq
    simp only [List.length_zip] at hi
    simpa [List.getElem?_eq_getElem (show i < chars.length by omega),
      List.getElem?_eq_getElem (show i < changed.length by omega)] using hi'
  by_contra hne
  exact h.toLower_ne _ hp (by simpa using hne) hsame

/-! ## Symbols of the data part -/

section Data

variable {data data' : List Char}

theorem filterMap_value?_eq_map (h : ∀ c ∈ data, (value? c).isSome = true) :
    data.filterMap value? = data.map fun c => (value? c).getD 0 := by
  induction data with
  | nil => rfl
  | cons c data ih =>
    obtain ⟨v, hv⟩ := Option.isSome_iff_exists.mp (h c List.mem_cons_self)
    rw [List.filterMap_cons_some hv, List.map_cons, hv,
      ih fun d hd => h d (List.mem_cons_of_mem _ hd)]
    rfl

theorem distance_filterMap_value?_le (h : ∀ c ∈ data, (value? c).isSome = true)
    (h' : ∀ c ∈ data', (value? c).isSome = true) (hlength : data.length = data'.length) :
    distance (data.filterMap value?) (data'.filterMap value?) ≤ distance data data' := by
  rw [filterMap_value?_eq_map h, filterMap_value?_eq_map h']
  exact distance_map_le _ hlength

theorem filterMap_value?_ne (h : ∀ c ∈ data, (value? c).isSome = true)
    (h' : ∀ c ∈ data', (value? c).isSome = true)
    (hne : data.map Char.toLower ≠ data'.map Char.toLower) :
    data.filterMap value? ≠ data'.filterMap value? := by
  intro heq
  rw [← map_valueChar_filterMap h, ← map_valueChar_filterMap h', heq] at hne
  exact hne rfl

end Data

/-! ## Symbols of the human-readable part -/

section Hrp

variable {hrp hrp' : List Char}

@[simp] theorem length_hrpSymbols : (hrpSymbols hrp).length = 2 * hrp.length + 1 := by
  simp [hrpSymbols]
  omega

theorem toNat_hrpSymbol {c : Char} (h : isHrpChar c = true) :
    (UInt8.ofNat (c.toNat / 32)).toNat = c.toNat / 32 ∧
      (UInt8.ofNat (c.toNat % 32)).toNat = c.toNat % 32 ∧ c.toNat / 32 < 32 := by
  have hsize : UInt8.size = 256 := rfl
  simp only [isHrpChar, Bool.and_eq_true, decide_eq_true_eq] at h
  exact ⟨UInt8.toNat_ofNat_of_lt' (by omega), UInt8.toNat_ofNat_of_lt' (by omega), by omega⟩

theorem lt_of_mem_hrpSymbols (h : ∀ c ∈ hrp, isHrpChar c = true) :
    ∀ s ∈ hrpSymbols hrp, s.toNat < 32 := by
  intro s hs
  rcases List.mem_append.mp hs with hs | hs
  · obtain ⟨c, hc, rfl⟩ := List.mem_map.mp hs
    obtain ⟨hhigh, -, hlt⟩ := toNat_hrpSymbol (h c hc)
    rwa [hhigh]
  · rcases List.mem_cons.mp hs with rfl | hs
    · decide
    · obtain ⟨c, hc, rfl⟩ := List.mem_map.mp hs
      obtain ⟨-, hlow, -⟩ := toNat_hrpSymbol (h c hc)
      rw [hlow]
      exact Nat.mod_lt _ (by decide)

theorem distance_hrpSymbols_le (hlength : hrp.length = hrp'.length) :
    distance (hrpSymbols hrp) (hrpSymbols hrp') ≤ 2 * distance hrp hrp' := by
  rw [hrpSymbols, hrpSymbols, distance_append (by simpa using hlength), distance_cons, if_pos rfl]
  have hhigh := distance_map_le (fun c => UInt8.ofNat (c.toNat / 32)) hlength
  have hlow := distance_map_le (fun c => UInt8.ofNat (c.toNat % 32)) hlength
  omega

/-- The numbers of the characters are put together from their high and their low bits. -/
theorem map_toNat_eq_zipWith (h : ∀ c ∈ hrp, isHrpChar c = true) :
    hrp.map Char.toNat = List.zipWith (fun high low => 32 * high.toNat + low.toNat)
      (hrp.map fun c => UInt8.ofNat (c.toNat / 32))
      (hrp.map fun c => UInt8.ofNat (c.toNat % 32)) := by
  rw [List.zipWith_map, List.zipWith_self]
  refine List.map_congr_left fun c hc => ?_
  obtain ⟨hhigh, hlow, -⟩ := toNat_hrpSymbol (h c hc)
  rw [hhigh, hlow, Nat.div_add_mod]

theorem eq_of_hrpSymbols_eq (h : ∀ c ∈ hrp, isHrpChar c = true)
    (h' : ∀ c ∈ hrp', isHrpChar c = true) (hlength : hrp.length = hrp'.length)
    (heq : hrpSymbols hrp = hrpSymbols hrp') : hrp = hrp' := by
  obtain ⟨hhigh, hrest⟩ := List.append_inj heq (by simpa using hlength)
  obtain ⟨-, hlow⟩ := List.cons.inj hrest
  have hnumbers : hrp.map Char.toNat = hrp'.map Char.toNat := by
    rw [map_toNat_eq_zipWith h, map_toNat_eq_zipWith h', hhigh, hlow]
  exact List.map_injective_iff.mpr (fun a b hab => Char.toNat_inj.mp hab) hnumbers

end Hrp

/-! ## Detection -/

theorem isValid_eq_false {hrp hrp' : List Char} {symbols symbols' : List UInt8}
    (hvalid : isValid hrp symbols = true) (hhrp : ∀ c ∈ hrp, isHrpChar c = true)
    (hhrp' : ∀ c ∈ hrp', isHrpChar c = true) (hsymbols : ∀ s ∈ symbols, s.toNat < 32)
    (hsymbols' : ∀ s ∈ symbols', s.toNat < 32) (hlength : hrp.length = hrp'.length)
    (hlength' : symbols.length = symbols'.length)
    (hmax : hrp.length + 1 + symbols.length ≤ maxLength)
    (hne : hrpSymbols hrp ++ symbols ≠ hrpSymbols hrp' ++ symbols')
    (hnear : distance (hrpSymbols hrp) (hrpSymbols hrp') + distance symbols symbols' ≤ 2) :
    isValid hrp' symbols' = false := by
  by_contra hother
  have hresidue : residue (hrpSymbols hrp ++ symbols) = residue (hrpSymbols hrp' ++ symbols') := by
    rw [isValid, beq_iff_eq] at hvalid
    rw [Bool.not_eq_false, isValid, beq_iff_eq] at hother
    rw [hvalid, hother]
  have hsize : (hrpSymbols hrp ++ symbols).length ≤ 1023 := by
    rw [List.length_append, length_hrpSymbols]
    simp only [maxLength] at hmax
    omega
  -- With one residue the strings would be three places apart, and they are not.
  have hfar := three_le_distance
    (List.forall_mem_append.mpr ⟨lt_of_mem_hrpSymbols hhrp, hsymbols⟩)
    (List.forall_mem_append.mpr ⟨lt_of_mem_hrpSymbols hhrp', hsymbols'⟩)
    (by simp [hlength, hlength']) hsize hresidue hne
  rw [distance_append (by simp [hlength])] at hfar
  omega

section Altered

variable {text : String} {hrp hrp' data data' : List Char} {result : String × List UInt8}

theorem Layout.isValid_of_decode (h : Layout text hrp data) (hread : decode text = .ok result) :
    isValid (hrp.map Char.toLower) (data.filterMap value?) = true := by
  rw [decode_of_layout h] at hread
  split at hread
  · next hvalid => exact hvalid
  · cases hread

theorem layout_of_decode (hread : decode text = .ok result)
    (htext : text.toList = hrp ++ separator :: data) (hlast : separator ∉ data) :
    Layout text hrp data := by
  obtain ⟨before, after, hlayout⟩ := exists_layout_of_decode hread
  have hsplit := hlayout.split
  rw [splitLast?_eq_some_iff.mpr ⟨htext, hlast⟩, Option.some.injEq, Prod.mk.injEq] at hsplit
  obtain ⟨rfl, rfl⟩ := hsplit
  exact hlayout

/-- Other characters of the same number keep the layout if they may stand where they do. -/
theorem Layout.replace (h : Layout text hrp data) {changed : String}
    (hchanged : changed.toList = hrp' ++ separator :: data') (hlength : hrp'.length = hrp.length)
    (hlength' : data'.length = data.length) (hcase : caseClash? changed.toList = none)
    (hhrp : ∀ c ∈ hrp', isHrpChar c = true) (hdata : ∀ c ∈ data', (value? c).isSome = true) :
    Layout changed hrp' data' where
  toList_eq := hchanged
  length_le := by
    have hle := h.length_le
    rw [h.toList_eq, List.length_append, List.length_cons] at hle
    rwa [hchanged, List.length_append, List.length_cons, hlength, hlength']
  oneCase := hcase
  hrp_ne_nil := by
    rintro rfl
    exact h.hrp_ne_nil (List.length_eq_zero_iff.mp hlength.symm)
  checksumSize_le := hlength'.symm ▸ h.checksumSize_le
  isHrpChar_hrp := hhrp
  isSome_data := hdata

theorem decode_eq_invalidChecksum {changed : String} (h : Layout text hrp data)
    (hread : decode text = .ok result) (h' : Layout changed hrp' data')
    (hlength : hrp.length = hrp'.length) (hlength' : data.length = data'.length)
    (hne : hrpSymbols (hrp.map Char.toLower) ++ data.filterMap value? ≠
      hrpSymbols (hrp'.map Char.toLower) ++ data'.filterMap value?)
    (hnear : 2 * distance hrp hrp' + distance data data' ≤ 2) :
    decode changed = .error .invalidChecksum := by
  have hhrp : distance (hrpSymbols (hrp.map Char.toLower)) (hrpSymbols (hrp'.map Char.toLower)) ≤
      2 * distance hrp hrp' :=
    (distance_hrpSymbols_le (by simpa using hlength)).trans
      (Nat.mul_le_mul_left 2 (distance_map_le _ hlength))
  have hdata := distance_filterMap_value?_le h.isSome_data h'.isSome_data hlength'
  have hmax := h.length_le
  rw [h.toList_eq, List.length_append, List.length_cons] at hmax
  have hinvalid : isValid (hrp'.map Char.toLower) (data'.filterMap value?) = false := by
    refine isValid_eq_false (h.isValid_of_decode hread) (by simpa using h.isHrpChar_hrp)
      (by simpa using h'.isHrpChar_hrp) lt_of_mem_filterMap_value? lt_of_mem_filterMap_value?
      (by simpa using hlength) ?_ ?_ hne (by omega)
    · rw [length_filterMap_value? h.isSome_data, length_filterMap_value? h'.isSome_data, hlength']
    · rw [List.length_map, length_filterMap_value? h.isSome_data]
      omega
  rw [decode_of_layout h', hinvalid]
  rfl

end Altered

/-- What is left of a text after one or two replacements is laid out as it was, with another symbol
string. -/
theorem decode_of_altered {text changed : String} {result : String × List UInt8}
    (hread : decode text = .ok result) (haltered : Altered text changed)
    (hcase : caseClash? changed.toList = none) : decode changed = .error .invalidChecksum := by
  cases haltered with
  | @data hrp data data' htext hlast hchanged hsubstituted hchars =>
    have h := layout_of_decode hread htext hlast
    have hlength := hsubstituted.length_eq
    have h' := h.replace hchanged rfl hlength hcase h.isHrpChar_hrp hchars
    -- The human-readable part stays, so the two data parts decide.
    refine decode_eq_invalidChecksum h hread h' rfl hlength.symm ?_ ?_
    · rw [ne_eq, List.append_right_inj]
      exact filterMap_value?_ne h.isSome_data hchars hsubstituted.map_toLower_ne
    · rw [distance_self]
      simpa using hsubstituted.distance_le
  | @hrp hrp hrp' data htext hlast hchanged hsubstituted hchars =>
    have h := layout_of_decode hread htext hlast
    have hlength := hsubstituted.length_eq
    have h' := h.replace hchanged hlength rfl hcase hchars h.isSome_data
    -- A character is two symbols here, so one replacement is all that the distance allows.
    refine decode_eq_invalidChecksum h hread h' hlength.symm rfl ?_ ?_
    · rw [ne_eq, List.append_left_inj]
      intro heq
      exact hsubstituted.map_toLower_ne (eq_of_hrpSymbols_eq (by simpa using h.isHrpChar_hrp)
        (by simpa using hchars) (by simpa using hlength.symm) heq)
    · rw [distance_self]
      have hone := hsubstituted.distance_le
      omega

/-- **A text that is read is refused for its checksum after one or two replacements**, as a text and
as an address of any network. -/
theorem decode_altered_eq_invalidChecksum {text changed : String} {result : String × List UInt8}
    (hread : decode text = .ok result) (haltered : Altered text changed)
    (hcase : (∀ c ∈ changed.toList, c.isUpper = false) ∨ ∀ c ∈ changed.toList, c.isLower = false) :
    decode changed = .error .invalidChecksum ∧
      ∀ scope : Scope, SegwitAddress.decode scope changed = .error .invalidChecksum := by
  have hrefused := decode_of_altered hread haltered (caseClash?_eq_none_iff.mpr hcase)
  refine ⟨hrefused, fun scope => ?_⟩
  rw [SegwitAddress.decode, hrefused]
  rfl

/-- One character makes the human-readable part of the production network that of the public test
network. -/
theorem decode_altered_eq_invalidChecksum_testnet :
    decode "tc1pw5007fpz3pq" = .ok ("tc", [1, 14, 20, 15, 15, 30]) ∧
      Altered "tc1pw5007fpz3pq" "tt1pw5007fpz3pq" ∧
      (∀ c ∈ "tt1pw5007fpz3pq".toList, c.isUpper = false) ∧
      SegwitAddress.decode (.registered .defaults) "tt1pw5007fpz3pq" =
        .error .invalidChecksum := by
  have hwritten : encode "tc" [1, 14, 20, 15, 15, 30] = .ok "tc1pw5007fpz3pq" := by cbv
  have hread := decode_of_encode hwritten (by decide)
  have hhrp : "tc".toLower = "tc" := by cbv
  rw [hhrp] at hread
  have htext : "tc1pw5007fpz3pq".toList =
      "tc".toList ++ separator :: "pw5007fpz3pq".toList := by decide +kernel
  have hchanged : "tt1pw5007fpz3pq".toList =
      "tt".toList ++ separator :: "pw5007fpz3pq".toList := by decide +kernel
  have hsubstituted : Substituted 1 "tc".toList "tt".toList :=
    ⟨by decide, by decide, by decide, by decide⟩
  have haltered : Altered "tc1pw5007fpz3pq" "tt1pw5007fpz3pq" :=
    .hrp htext (by decide) hchanged hsubstituted (by simp [isHrpChar])
  have hcase : ∀ c ∈ "tt1pw5007fpz3pq".toList, c.isUpper = false := by simp
  exact ⟨hread, haltered, hcase,
    (decode_altered_eq_invalidChecksum hread haltered (.inl hcase)).2 _⟩

end CoinKeys.Bech32
