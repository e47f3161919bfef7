import CoinKeys.Proofs.BitGroups

/-!
# Regrouping cuts a string of bits

Every value of a width is a binary numeral with that many digits, so a list of values is a string of
bits (`bitString`). Regrouping reads the string through a word of thirty-two bits (`Carry`): a value
goes to the low end of the word, and groups are taken off the high end as soon as they are full.

The invariant has two parts, each kept by every value that is read:

* *room*: the word holds fewer bits than a group has (`Fits`), so no shift of it loses a bit,
  however many values are read (`Fits.exact`), and
* *agreement*: the groups that are written and the bits in the word spell the bits that were read
  (`Written`).

**Theorem (`regroup_bitString`).** The first value that does not fit its width is refused. Otherwise
the groups with padding are the whole string and zeros behind it. The groups without padding are the
string up to the bits that are left, and those must be fewer than a value has and all zero.
-/

namespace CoinKeys.BitGroups

open Positional

/-! ## Strings of bits -/

/-- The bits of values of a width, the most significant bit of each value first. -/
def bitString (width : GroupWidth) (values : List UInt8) : List Nat :=
  values.flatMap fun v => fixedDigits 2 width.bits v.toNat

/-- The groups are the string of bits, cut into groups of a width. -/
structure IsCut (width : GroupWidth) (bits : List Nat) (groups : List UInt8) : Prop where
  lt : ∀ g ∈ groups, g.toNat < 2 ^ width.bits
  bitString_eq : bitString width groups = bits

/-- The bits at the end of the string that do not fill a group. -/
def leftBits (source target : GroupWidth) (values : List UInt8) : List Nat :=
  (bitString source values).drop (target.bits * (source.bits * values.length / target.bits))

section BitString

variable (width : GroupWidth)

theorem bitString_append (xs ys : List UInt8) :
    bitString width (xs ++ ys) = bitString width xs ++ bitString width ys :=
  List.flatMap_append

theorem bitString_singleton (v : UInt8) :
    bitString width [v] = fixedDigits 2 width.bits v.toNat :=
  List.flatMap_singleton ..

@[simp] theorem length_bitString (values : List UInt8) :
    (bitString width values).length = width.bits * values.length := by
  simp [bitString, List.length_flatMap, Nat.mul_comm]

variable {width}

/-- The bits of values are the binary digits of the number of the values. -/
theorem bitString_eq {values : List UInt8} (h : ∀ v ∈ values, v.toNat < 2 ^ width.bits) :
    bitString width values = fixedDigits 2 (width.bits * values.length)
      (value (2 ^ width.bits) (values.map UInt8.toNat)) := by
  induction values with
  | nil => rfl
  | cons v values ih =>
    obtain ⟨-, hvalues⟩ := List.forall_mem_cons.mp h
    rw [← List.singleton_append, bitString_append, bitString_singleton, ih hvalues,
      List.singleton_append, List.map_cons, value_cons, List.length_map, ← Nat.pow_mul,
      List.length_cons, Nat.mul_succ, Nat.add_comm (width.bits * values.length),
      fixedDigits_mul_add 2 _ _ (value_lt_two_pow hvalues)]

theorem one_mem_fixedDigits_iff {count n : Nat} (h : n < 2 ^ count) :
    1 ∈ fixedDigits 2 count n ↔ n ≠ 0 := by
  induction count generalizing n with
  | zero =>
    have hzero : n = 0 := by simpa using h
    simp [fixedDigits, hzero]
  | succ count ih =>
    rw [Nat.pow_succ] at h
    rw [fixedDigits, List.mem_append, ih (by omega), List.mem_singleton]
    omega

end BitString

/-! ## Full groups -/

section FullGroups

variable {width : GroupWidth} {word : UInt32} {count : Nat}

theorem lt_of_mem_fullGroups (h : count < 32) {g : UInt8} (hg : g ∈ fullGroups width word count) :
    g.toNat < 2 ^ width.bits := by
  have hmem := List.mem_map_of_mem (f := UInt8.toNat) hg
  rw [map_toNat_fullGroups width word h] at hmem
  exact lt_of_mem_fixedDigits (Nat.two_pow_pos _) hmem

theorem bitString_fullGroups (h : count < 32) :
    bitString width (fullGroups width word count) =
      fixedDigits 2 (width.bits * (count / width.bits))
        (word.toNat / 2 ^ (count % width.bits)) := by
  have hlength : (fullGroups width word count).length = count / width.bits := by simp [fullGroups]
  rw [bitString_eq fun g => lt_of_mem_fullGroups h, map_toNat_fullGroups width word h, hlength,
    value_fixedDigits, ← Nat.pow_mul, fixedDigits_mod]

end FullGroups

/-! ## The word -/

/-- What is carried from one value to the next: a word, and how many of its bits are not written
yet. -/
structure Carry where
  /-- The word. -/
  word : UInt32
  /-- The number of bits. -/
  count : Nat

namespace Carry

variable {source target : GroupWidth} {carry : Carry}

/-- The bits that are not written yet. -/
def bits (carry : Carry) : List Nat :=
  fixedDigits 2 carry.count carry.word.toNat

/-- The word with the bits of one value more at its low end. -/
def filled (source : GroupWidth) (carry : Carry) (v : UInt8) : UInt32 :=
  carry.word <<< UInt32.ofNat source.bits ||| v.toUInt32

/-- What is carried on when the full groups are taken off. -/
def next (source target : GroupWidth) (carry : Carry) (v : UInt8) : Carry :=
  let left := (carry.count + source.bits) % target.bits
  ⟨carry.filled source v &&& lowMask left, left⟩

/-- What is carried behind some values. -/
def after (source target : GroupWidth) (values : List UInt8) : Carry :=
  values.foldl (next source target) ⟨0, 0⟩

theorem after_concat (source target : GroupWidth) (values : List UInt8) (v : UInt8) :
    after source target (values ++ [v]) = (after source target values).next source target v := by
  rw [after, List.foldl_append]
  rfl

/-- The bits that are not written yet fall short of a group, and the word has no others. -/
structure Fits (target : GroupWidth) (carry : Carry) : Prop where
  count_lt : carry.count < target.bits
  word_lt : carry.word.toNat < 2 ^ carry.count

theorem fits_next (source target : GroupWidth) (carry : Carry) (v : UInt8) :
    (carry.next source target v).Fits target := by
  have htarget := target.le_eight
  have hleft : (carry.count + source.bits) % target.bits < target.bits := Nat.mod_lt _ target.pos
  refine ⟨hleft, ?_⟩
  rw [next, toNat_and_lowMask _ (by omega)]
  exact Nat.mod_lt _ (Nat.two_pow_pos _)

theorem fits_after (source target : GroupWidth) (values : List UInt8) :
    (after source target values).Fits target := by
  induction values using List.reverseRecOn with
  | nil => exact ⟨target.pos, Nat.zero_lt_one⟩
  | append_singleton values v _ =>
    rw [after_concat]
    exact fits_next source target _ v

/-- No shift of the word loses a bit, neither the one that makes room for a value nor the one that
fills the last group. -/
structure Exact (source target : GroupWidth) (carry : Carry) : Prop where
  count_lt : carry.count + source.bits < 16
  filled_eq : ∀ v : UInt8, v.toNat < 2 ^ source.bits →
    (carry.filled source v).toNat = carry.word.toNat * 2 ^ source.bits + v.toNat
  filled_lt : ∀ v : UInt8, v.toNat < 2 ^ source.bits →
    carry.word.toNat * 2 ^ source.bits + v.toNat < 2 ^ (carry.count + source.bits)
  last_eq : (carry.word <<< UInt32.ofNat (target.bits - carry.count)).toNat =
    carry.word.toNat * 2 ^ (target.bits - carry.count)

theorem Fits.exact (h : carry.Fits target) (source : GroupWidth) : carry.Exact source target := by
  have hcount := h.count_lt
  have hsource := source.le_eight
  have htarget := target.le_eight
  refine ⟨by omega, fun v hv => ?_, fun v hv => ?_, ?_⟩
  · exact toNat_shiftLeft_or (by omega) (mul_two_pow_lt_word h.word_lt (by omega)) hv
  · have hmul := Nat.mul_le_mul_right (2 ^ source.bits) h.word_lt
    rw [Nat.succ_mul] at hmul
    rw [Nat.pow_add]
    omega
  · exact toNat_shiftLeft (by omega) (mul_two_pow_lt_word h.word_lt (by omega))

/-- A value that fits its width is read into the word, and the full groups are written. -/
theorem regroupFrom_cons (pad : Bool) (carry : Carry) {v : UInt8} (hv : v.toNat < 2 ^ source.bits)
    (rest : List UInt8) :
    regroupFrom source target pad carry.word carry.count (v :: rest) =
      (regroupFrom source target pad (carry.next source target v).word
        (carry.next source target v).count rest).map
      (fullGroups target (carry.filled source v) (carry.count + source.bits) ++ ·) := by
  rw [regroupFrom, if_neg (shiftRight_ne_zero_iff.not.mpr hv.not_ge)]
  rfl

/-- The full groups and what is carried on spell what was carried and the value. -/
theorem Fits.bits_append (h : carry.Fits target) {v : UInt8} (hv : v.toNat < 2 ^ source.bits) :
    carry.bits ++ fixedDigits 2 source.bits v.toNat =
      bitString target (fullGroups target (carry.filled source v) (carry.count + source.bits)) ++
        (carry.next source target v).bits := by
  have hexact := h.exact source
  have hcount := hexact.count_lt
  have htarget := target.le_eight
  have hleft : (carry.count + source.bits) % target.bits < 32 :=
    (Nat.mod_lt _ target.pos).trans_le (by omega)
  rw [bits, ← fixedDigits_mul_add 2 _ _ hv, ← hexact.filled_eq v hv,
    bitString_fullGroups (by omega), bits, next, toNat_and_lowMask _ hleft, fixedDigits_mod,
    ← fixedDigits_add, Nat.div_add_mod]

/-- These groups are written by the time some values are read: with what is carried they spell the
bits of the values, and regrouping goes on behind them from what is carried. -/
structure Written (source target : GroupWidth) (before written : List UInt8) : Prop where
  lt : ∀ g ∈ written, g.toNat < 2 ^ target.bits
  bitString_eq : bitString source before =
    bitString target written ++ (after source target before).bits
  regroup_append : ∀ pad rest, regroup source target pad (before ++ rest) =
    (regroupFrom source target pad (after source target before).word
      (after source target before).count rest).map (written ++ ·)

theorem Written.nil (source target : GroupWidth) : Written source target [] [] where
  lt := by simp
  bitString_eq := rfl
  regroup_append pad rest := by
    show regroup source target pad rest = (regroupFrom source target pad 0 0 rest).map ([] ++ ·)
    rw [regroup]
    cases regroupFrom source target pad 0 0 rest <;> rfl

theorem Written.concat {before written : List UInt8} (h : Written source target before written)
    {v : UInt8} (hv : v.toNat < 2 ^ source.bits) :
    Written source target (before ++ [v]) (written ++ fullGroups target
      ((after source target before).filled source v)
      ((after source target before).count + source.bits)) := by
  have hfits := fits_after source target before
  have hcount := (hfits.exact source).count_lt
  refine ⟨?_, ?_, fun pad rest => ?_⟩
  · intro g hg
    rcases List.mem_append.mp hg with hg | hg
    · exact h.lt g hg
    · exact lt_of_mem_fullGroups (by omega) hg
  · rw [bitString_append, bitString_append, bitString_singleton, h.bitString_eq, after_concat,
      List.append_assoc, List.append_assoc, hfits.bits_append hv]
  · rw [List.append_assoc, List.singleton_append, h.regroup_append, regroupFrom_cons pad _ hv,
      after_concat]
    cases regroupFrom source target pad _ _ rest <;> simp [Except.map]

/-- Values that fit their width are all read. -/
theorem exists_written (target : GroupWidth) {before : List UInt8}
    (hbefore : ∀ v ∈ before, v.toNat < 2 ^ source.bits) :
    ∃ written, Written source target before written := by
  induction before using List.reverseRecOn with
  | nil => exact ⟨[], .nil source target⟩
  | append_singleton before v ih =>
    obtain ⟨hbefore, hv⟩ := List.forall_mem_append.mp hbefore
    obtain ⟨written, hwritten⟩ := ih hbefore
    exact ⟨_, hwritten.concat (hv v (List.mem_singleton_self v))⟩

theorem Written.div_mod {values written : List UInt8} (h : Written source target values written) :
    source.bits * values.length / target.bits = written.length ∧
      source.bits * values.length % target.bits = (after source target values).count := by
  have hcount := (fits_after source target values).count_lt
  have hlength := congrArg List.length h.bitString_eq
  rw [List.length_append, length_bitString, length_bitString, bits, length_fixedDigits] at hlength
  rw [hlength, Nat.mul_add_div target.pos, Nat.mul_add_mod, Nat.div_eq_of_lt hcount,
    Nat.mod_eq_of_lt hcount]
  exact ⟨rfl, rfl⟩

theorem Written.leftBits_eq {values written : List UInt8}
    (h : Written source target values written) :
    leftBits source target values = (after source target values).bits := by
  obtain ⟨hgroups, -⟩ := h.div_mod
  rw [leftBits, hgroups, h.bitString_eq, List.drop_left' (length_bitString ..)]

theorem Fits.exists_lastGroup (h : carry.Fits target) (source : GroupWidth) :
    ∃ groups padding, lastGroup source target true carry.word carry.count = .ok groups ∧
      padding < target.bits ∧ IsCut target (carry.bits ++ List.replicate padding 0) groups := by
  rw [lastGroup_padded h.count_lt h.word_lt]
  split
  · next hpos =>
    have hcount := h.count_lt
    have hfill : carry.count + (target.bits - carry.count) = target.bits := by omega
    have hlt := mul_two_pow_lt h.word_lt (target.bits - carry.count)
    rw [hfill] at hlt
    have hgroup : (UInt8.ofNat (carry.word.toNat * 2 ^ (target.bits - carry.count))).toNat =
        carry.word.toNat * 2 ^ (target.bits - carry.count) :=
      UInt8.toNat_ofNat_of_lt' (hlt.trans_le (two_pow_bits_le target))
    -- To shift a word is to write zeros behind its digits.
    have hdigits := fixedDigits_mul_add 2 carry.count carry.word.toNat
      (Nat.two_pow_pos (target.bits - carry.count))
    rw [hfill, Nat.add_zero, fixedDigits_zero] at hdigits
    refine ⟨_, target.bits - carry.count, rfl, by omega, fun g hg => ?_, ?_⟩
    · rwa [List.mem_singleton.mp hg, hgroup]
    · rw [bitString_singleton, hgroup, hdigits, bits]
  · next hzero =>
    refine ⟨_, 0, rfl, target.pos, by simp, ?_⟩
    rw [bits, Nat.eq_zero_of_not_pos hzero]
    rfl

end Carry

/-! ## Regrouping -/

section Regroup

variable {source : GroupWidth} {values : List UInt8}

/-- The first value that does not fit its width is refused, whatever is read before it. -/
theorem regroupFrom_of_find? (target : GroupWidth) {v : UInt8}
    (h : values.find? (fun v => 2 ^ source.bits ≤ v.toNat) = some v) (pad : Bool) (word : UInt32)
    (count : Nat) : regroupFrom source target pad word count values = .error (.invalidData v) := by
  induction values generalizing word count with
  | nil => cases h
  | cons first values ih =>
    simp only [regroupFrom, shiftRight_ne_zero_iff]
    split
    · next hfirst =>
      rw [List.find?_cons_of_pos (by simpa using hfirst)] at h
      rw [Option.some.inj h]
    · next hfirst =>
      rw [List.find?_cons_of_neg (by simpa using hfirst)] at h
      rw [ih h]
      rfl

theorem exists_regroup_bitString (target : GroupWidth)
    (hvalues : ∀ v ∈ values, v.toNat < 2 ^ source.bits) :
    ∃ groups padding, regroup source target true values = .ok groups ∧
      groups.length = (source.bits * values.length + target.bits - 1) / target.bits ∧
      IsCut target (bitString source values ++ List.replicate padding 0) groups := by
  obtain ⟨written, hwritten⟩ := Carry.exists_written target hvalues
  obtain ⟨last, padding, hlast, hpadding, hcut⟩ :=
    (Carry.fits_after source target values).exists_lastGroup source
  have hregroup : regroup source target true values = .ok (written ++ last) := by
    have happend := hwritten.regroup_append true []
    rwa [List.append_nil, regroupFrom, hlast] at happend
  have hbits : bitString target (written ++ last) =
      bitString source values ++ List.replicate padding 0 := by
    rw [bitString_append, hcut.bitString_eq, hwritten.bitString_eq, List.append_assoc]
  refine ⟨written ++ last, padding, hregroup, ?_,
    List.forall_mem_append.mpr ⟨hwritten.lt, hcut.lt⟩, hbits⟩
  -- The bits of the groups are counted, and padding is less than a group.
  have hlength : (written ++ last).length * target.bits =
      source.bits * values.length + padding := by
    rw [Nat.mul_comm, ← length_bitString, hbits, List.length_append, length_bitString,
      List.length_replicate]
  refine (Nat.div_eq_of_lt_le ?_ ?_).symm
  · omega
  · rw [Nat.succ_mul]
    omega

theorem regroup_strict_cases (target : GroupWidth)
    (hvalues : ∀ v ∈ values, v.toNat < 2 ^ source.bits) :
    ∃ written, written.length = source.bits * values.length / target.bits ∧
      IsCut target ((bitString source values).take (target.bits * written.length)) written ∧
      regroup source target false values =
        if source.bits ≤ source.bits * values.length % target.bits then .error .invalidPadding
        else if 1 ∈ leftBits source target values then .error .nonZeroPadding
        else .ok written := by
  obtain ⟨written, hwritten⟩ := Carry.exists_written target hvalues
  have hfits := Carry.fits_after source target values
  obtain ⟨hgroups, hleft⟩ := hwritten.div_mod
  refine ⟨written, hgroups.symm, ⟨hwritten.lt, ?_⟩, ?_⟩
  · rw [hwritten.bitString_eq, List.take_left' (length_bitString ..)]
  · have happend := hwritten.regroup_append false []
    rw [List.append_nil, regroupFrom, lastGroup_strict hfits.count_lt hfits.word_lt] at happend
    rw [happend, hleft, hwritten.leftBits_eq]
    simp only [Carry.bits, one_mem_fixedDigits_iff hfits.word_lt, apply_ite (Except.map _)]
    simp [Except.map]

/-- **Regrouping cuts the string of bits of the values into groups.** -/
theorem regroup_bitString (source target : GroupWidth) (values : List UInt8) :
    (∀ v, values.find? (fun v => 2 ^ source.bits ≤ v.toNat) = some v →
      ∀ pad, regroup source target pad values = .error (.invalidData v)) ∧
    ((∀ v ∈ values, v.toNat < 2 ^ source.bits) →
      (∃ groups padding, regroup source target true values = .ok groups ∧
        groups.length = (source.bits * values.length + target.bits - 1) / target.bits ∧
        IsCut target (bitString source values ++ List.replicate padding 0) groups) ∧
      ∃ groups, groups.length = source.bits * values.length / target.bits ∧
        IsCut target ((bitString source values).take (target.bits * groups.length)) groups ∧
        regroup source target false values =
          if source.bits ≤ source.bits * values.length % target.bits then .error .invalidPadding
          else if 1 ∈ leftBits source target values then .error .nonZeroPadding
          else .ok groups) ∧
    ∀ before rest, values = before ++ rest → (∀ v ∈ before, v.toNat < 2 ^ source.bits) →
      (∃ written, Carry.Written source target before written) ∧
        (Carry.after source target before).Exact source target := by
  refine ⟨fun v hv pad => regroupFrom_of_find? target hv pad 0 0, fun hvalues => ⟨?_, ?_⟩, ?_⟩
  · exact exists_regroup_bitString target hvalues
  · exact regroup_strict_cases target hvalues
  · intro before rest _ hbefore
    exact ⟨Carry.exists_written target hbefore,
      (Carry.fits_after source target before).exact source⟩

/-- Ten bits of symbols are a byte and two zeros; two other bits, seven bits or a symbol of six bits
are refused. -/
theorem regroup_bitString_symbol_byte :
    (∀ pad, regroup .symbol .byte pad [31, 32, 0] = .error (.invalidData 32)) ∧
    (∃ groups padding, regroup .symbol .byte true [31, 28] = .ok groups ∧ groups.length = 2 ∧
      IsCut .byte ([1, 1, 1, 1, 1, 1, 1, 1, 0, 0] ++ List.replicate padding 0) groups) ∧
    (∃ groups, IsCut .byte [1, 1, 1, 1, 1, 1, 1, 1] groups ∧
      regroup .symbol .byte false [31, 28] = .ok groups) ∧
    regroup .symbol .byte false [31, 29] = .error .nonZeroPadding ∧
    regroup .symbol .byte false [31, 28, 0] = .error .invalidPadding ∧
    (Carry.after .symbol .byte [31]).Exact .symbol .byte := by
  obtain ⟨hwide, -⟩ := regroup_bitString .symbol .byte [31, 32, 0]
  obtain ⟨-, hfits, hbefore⟩ := regroup_bitString .symbol .byte [31, 28]
  obtain ⟨hpadded, groups, hlength, hcut, hstrict⟩ := hfits (by simp [GroupWidth.symbol])
  obtain ⟨-, _, -, -, hleft⟩ :=
    (regroup_bitString .symbol .byte [31, 29]).2.1 (by simp [GroupWidth.symbol])
  obtain ⟨-, _, -, -, hmany⟩ :=
    (regroup_bitString .symbol .byte [31, 28, 0]).2.1 (by simp [GroupWidth.symbol])
  rw [hlength] at hcut
  exact ⟨hwide 32 (by simp [GroupWidth.symbol]), hpadded, ⟨groups, hcut, hstrict⟩, hleft, hmany,
    (hbefore [31] [28] rfl (by simp [GroupWidth.symbol])).2⟩

end Regroup

end CoinKeys.BitGroups
