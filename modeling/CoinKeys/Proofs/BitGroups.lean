import CoinKeys.BitGroups
import CoinKeys.Proofs.Bytes
import CoinKeys.Proofs.Outcome

/-!
# Regrouping keeps the number

Values of `source` bits are the digits of a base `2 ^ source` numeral, and groups of `target` bits
those of a base `2 ^ target` numeral. The word that regrouping carries along holds the bits that are
not written yet, so after any number of values the groups written so far and the word together
denote the number of the values read (`regroupFrom_eq`).

**Theorem (`regroup_inverse`).** Values that can be regrouped strictly are what padding makes of
their groups, and padded groups are regrouped strictly to the values again exactly when the padding
falls short of a value, as it does when they are not wider than the values.
-/

namespace CoinKeys.BitGroups

open Positional

/-! ## Digits -/

theorem two_le_two_pow_bits (width : GroupWidth) : 2 ≤ 2 ^ width.bits :=
  Nat.pow_le_pow_right (n := 2) (by decide) width.pos

theorem two_pow_bits_le (width : GroupWidth) : 2 ^ width.bits ≤ 256 :=
  (Nat.pow_le_pow_right (by decide) width.le_eight).trans (by decide : 2 ^ 8 ≤ 256)

theorem lt_of_mem_map_toNat {width : GroupWidth} {values : List UInt8}
    (h : ∀ v ∈ values, v.toNat < 2 ^ width.bits) :
    ∀ d ∈ values.map UInt8.toNat, d < 2 ^ width.bits := by
  intro d hd
  obtain ⟨v, hv, rfl⟩ := List.mem_map.mp hd
  exact h v hv

theorem map_toNat_digits (width : GroupWidth) (count n : Nat) :
    ((fixedDigits (2 ^ width.bits) count n).map UInt8.ofNat).map UInt8.toNat =
      fixedDigits (2 ^ width.bits) count n :=
  Bytes.map_toNat_map_ofNat fun _ hd =>
    (lt_of_mem_fixedDigits (Nat.two_pow_pos _) hd).trans_le (two_pow_bits_le width)

theorem lt_of_mem_digits {width : GroupWidth} {count n : Nat} {g : UInt8}
    (h : g ∈ (fixedDigits (2 ^ width.bits) count n).map UInt8.ofNat) :
    g.toNat < 2 ^ width.bits := by
  have hmem := List.mem_map_of_mem (f := UInt8.toNat) h
  rw [map_toNat_digits] at hmem
  exact lt_of_mem_fixedDigits (Nat.two_pow_pos _) hmem

/-! ## Words -/

theorem shiftRight_ne_zero_iff {width : GroupWidth} {v : UInt8} :
    v.toNat >>> width.bits ≠ 0 ↔ 2 ^ width.bits ≤ v.toNat := by
  rw [Nat.shiftRight_eq_div_pow, Nat.div_ne_zero_iff]
  simp

theorem toNat_lowMask {count : Nat} (h : count < 32) : (lowMask count).toNat = 2 ^ count - 1 := by
  have hlt : 2 ^ count < 2 ^ 32 := Nat.pow_lt_pow_right (by decide) h
  have hshift : ((1 : UInt32) <<< UInt32.ofNat count).toNat = 2 ^ count := by
    rw [UInt32.toNat_shiftLeft, UInt32.toNat_ofNat_of_lt' (h.trans (by decide)),
      Nat.mod_eq_of_lt h, UInt32.toNat_one, Nat.one_shiftLeft, Nat.mod_eq_of_lt hlt]
  have hle : (1 : UInt32) ≤ 1 <<< UInt32.ofNat count := by
    rw [UInt32.le_iff_toNat_le, hshift]
    exact Nat.one_le_two_pow
  rw [lowMask, UInt32.toNat_sub_of_le _ _ hle, hshift]
  rfl

theorem toNat_and_lowMask (word : UInt32) {count : Nat} (h : count < 32) :
    (word &&& lowMask count).toNat = word.toNat % 2 ^ count := by
  rw [UInt32.toNat_and, toNat_lowMask h, Nat.and_two_pow_sub_one_eq_mod]

theorem toNat_shiftLeft {word : UInt32} {count : Nat} (h : count < 32)
    (hword : word.toNat * 2 ^ count < 2 ^ 32) :
    (word <<< UInt32.ofNat count).toNat = word.toNat * 2 ^ count := by
  rw [UInt32.toNat_shiftLeft, UInt32.toNat_ofNat_of_lt' (h.trans (by decide)),
    Nat.mod_eq_of_lt h, Nat.shiftLeft_eq, Nat.mod_eq_of_lt hword]

theorem mul_two_pow_lt {n count : Nat} (h : n < 2 ^ count) (shift : Nat) :
    n * 2 ^ shift < 2 ^ (count + shift) := by
  rw [Nat.pow_add]
  exact Nat.mul_lt_mul_of_pos_right h (Nat.two_pow_pos shift)

theorem mul_two_pow_lt_word {word : UInt32} {count shift : Nat} (hword : word.toNat < 2 ^ count)
    (h : count + shift ≤ 32) : word.toNat * 2 ^ shift < 2 ^ 32 :=
  (mul_two_pow_lt hword shift).trans_le (Nat.pow_le_pow_right (by decide) h)

theorem toNat_shiftLeft_or {word : UInt32} {value : UInt8} {count : Nat} (h : count < 32)
    (hword : word.toNat * 2 ^ count < 2 ^ 32) (hvalue : value.toNat < 2 ^ count) :
    (word <<< UInt32.ofNat count ||| value.toUInt32).toNat =
      word.toNat * 2 ^ count + value.toNat := by
  rw [UInt32.toNat_or, toNat_shiftLeft h hword, UInt8.toNat_toUInt32, Nat.mul_comm,
    Nat.two_pow_add_eq_or_of_lt hvalue]

theorem toNat_ofNat_mod (n : Nat) {count : Nat} (h : count < 32) :
    (UInt32.ofNat (n % 2 ^ count)).toNat = n % 2 ^ count := by
  have hlt : 2 ^ count < 2 ^ 32 := Nat.pow_lt_pow_right (by decide) h
  exact UInt32.toNat_ofNat_of_lt' ((Nat.mod_lt _ (Nat.two_pow_pos count)).trans hlt)

/-! ## Groups -/

theorem toNat_group (width : GroupWidth) (word : UInt32) {shift : Nat} (h : shift < 32) :
    (group width word shift).toNat = word.toNat / 2 ^ shift % 2 ^ width.bits := by
  have hwidth := width.le_eight
  have hlt : word.toNat / 2 ^ shift % 2 ^ width.bits < 2 ^ 8 :=
    (Nat.mod_lt _ (Nat.two_pow_pos _)).trans_le (Nat.pow_le_pow_right (by decide) hwidth)
  rw [group, UInt32.toNat_toUInt8, toNat_and_lowMask _ (by omega), UInt32.toNat_shiftRight,
    UInt32.toNat_ofNat_of_lt' (h.trans (by decide)), Nat.mod_eq_of_lt h,
    Nat.shiftRight_eq_div_pow, Nat.mod_eq_of_lt hlt]

theorem map_range_eq_fixedDigits (base count n : Nat) :
    (List.range count).map (fun i => n / base ^ (count - (i + 1)) % base) =
      fixedDigits base count n := by
  induction count generalizing n with
  | zero => rfl
  | succ count ih =>
    rw [List.range_succ, List.map_append, fixedDigits, ← ih]
    congr 1
    · apply List.map_congr_left
      intro i hi
      have hi := List.mem_range.mp hi
      have hexp : count + 1 - (i + 1) = count - (i + 1) + 1 := by omega
      rw [hexp, Nat.pow_succ', Nat.div_div_eq_div_mul]
    · simp

theorem map_toNat_fullGroups (width : GroupWidth) (word : UInt32) {count : Nat} (h : count < 32) :
    (fullGroups width word count).map UInt8.toNat =
      fixedDigits (2 ^ width.bits) (count / width.bits)
        (word.toNat / 2 ^ (count % width.bits)) := by
  rw [fullGroups, List.map_map, ← map_range_eq_fixedDigits]
  apply List.map_congr_left
  intro i hi
  have hi := List.mem_range.mp hi
  have hcount : count - (i + 1) * width.bits =
      count % width.bits + width.bits * (count / width.bits - (i + 1)) := by
    have hdiv := Nat.mod_add_div count width.bits
    have hle : (i + 1) * width.bits ≤ count / width.bits * width.bits :=
      Nat.mul_le_mul_right _ hi
    rw [Nat.mul_sub, Nat.mul_comm width.bits (count / width.bits), Nat.mul_comm width.bits (i + 1)]
    rw [Nat.mul_comm] at hdiv
    omega
  rw [Function.comp_apply, toNat_group _ _ (by omega), hcount, Nat.pow_add, Nat.pow_mul,
    Nat.div_div_eq_div_mul]

/-! ## Cutting off a part -/

/-- The digits above the last bits of a number that is put together from two parts. -/
theorem fixedDigits_quotient (width count n : Nat) {bits m : Nat} (h : m < 2 ^ bits) :
    fixedDigits (2 ^ width) (count + bits / width) ((n * 2 ^ bits + m) / 2 ^ (bits % width)) =
      fixedDigits (2 ^ width) count n ++
        fixedDigits (2 ^ width) (bits / width) (m / 2 ^ (bits % width)) := by
  have hbits : 2 ^ bits = 2 ^ (bits % width) * (2 ^ width) ^ (bits / width) := by
    rw [← Nat.pow_mul, ← Nat.pow_add, Nat.mod_add_div]
  rw [hbits] at h
  rw [hbits, Nat.mul_left_comm, Nat.mul_add_div (Nat.two_pow_pos _)]
  exact fixedDigits_mul_add _ _ _ (Nat.div_lt_of_lt_mul h)

theorem mod_quotient (width n bits m : Nat) :
    (n * 2 ^ bits + m) % 2 ^ (bits % width) = m % 2 ^ (bits % width) := by
  obtain ⟨k, hk⟩ := Nat.pow_dvd_pow 2 (Nat.mod_le bits width)
  rw [hk, Nat.mul_left_comm, Nat.mul_add_mod]

/-! ## Runs -/

section Runs

variable {source target : GroupWidth}

/-- The number of the bits of a word and of the values behind it. -/
def numberOf (source : GroupWidth) (word : UInt32) (values : List UInt8) : Nat :=
  word.toNat * 2 ^ (source.bits * values.length) +
    value (2 ^ source.bits) (values.map UInt8.toNat)

theorem value_lt_two_pow {width : GroupWidth} {values : List UInt8}
    (h : ∀ v ∈ values, v.toNat < 2 ^ width.bits) :
    value (2 ^ width.bits) (values.map UInt8.toNat) < 2 ^ (width.bits * values.length) := by
  have hlt := value_lt (two_le_two_pow_bits width) (lt_of_mem_map_toNat h)
  rwa [List.length_map, ← Nat.pow_mul] at hlt

/-- Reading one value more: its bits go to the low end of the word. -/
theorem numberOf_cons {word : UInt32} {v : UInt8} {values : List UInt8}
    (hword : word.toNat * 2 ^ source.bits < 2 ^ 32) (hv : v.toNat < 2 ^ source.bits) :
    numberOf source word (v :: values) =
      numberOf source (word <<< UInt32.ofNat source.bits ||| v.toUInt32) values := by
  have hwidth := source.le_eight
  rw [numberOf, numberOf, toNat_shiftLeft_or (by omega) hword hv, List.map_cons, value_cons,
    List.length_map, List.length_cons, Nat.mul_succ, Nat.pow_add, ← Nat.pow_mul]
  ring

/-- Full groups are taken off the high end of the word; the number of the rest goes on behind. -/
theorem numberOf_eq_add (word : UInt32) {values : List UInt8} {left : Nat} (h : left < 32) :
    numberOf source word values =
      word.toNat / 2 ^ left * 2 ^ (left + source.bits * values.length) +
        numberOf source (word &&& lowMask left) values := by
  have hsplit := Nat.div_add_mod word.toNat (2 ^ left)
  rw [numberOf, numberOf, toNat_and_lowMask word h, Nat.pow_add]
  generalize word.toNat / 2 ^ left = high at hsplit ⊢
  generalize word.toNat % 2 ^ left = low at hsplit ⊢
  rw [← hsplit]
  ring

theorem numberOf_lt {word : UInt32} {values : List UInt8}
    (hvalues : ∀ v ∈ values, v.toNat < 2 ^ source.bits) {count : Nat}
    (hword : word.toNat < 2 ^ count) :
    numberOf source word values < 2 ^ (count + source.bits * values.length) := by
  have hvalue := value_lt_two_pow hvalues
  have hle := Nat.mul_le_mul_right (2 ^ (source.bits * values.length)) hword
  rw [numberOf, Nat.pow_add]
  rw [Nat.succ_mul] at hle
  omega

/-- **The groups written and the bits that are left denote the number of the bits read.** The bits
that are left make the last group. -/
theorem regroupFrom_eq (pad : Bool) {values : List UInt8}
    (hvalues : ∀ v ∈ values, v.toNat < 2 ^ source.bits) {word : UInt32} {count : Nat}
    (hcount : count < target.bits) (hword : word.toNat < 2 ^ count) :
    regroupFrom source target pad word count values =
      (lastGroup source target pad
        (UInt32.ofNat (numberOf source word values %
          2 ^ ((count + source.bits * values.length) % target.bits)))
        ((count + source.bits * values.length) % target.bits)).map
      ((fixedDigits (2 ^ target.bits) ((count + source.bits * values.length) / target.bits)
        (numberOf source word values /
          2 ^ ((count + source.bits * values.length) % target.bits))).map UInt8.ofNat ++ ·) := by
  induction values generalizing word count with
  | nil =>
    have hnumber : numberOf source word [] = word.toNat := by simp [numberOf]
    rw [List.length_nil, Nat.mul_zero, Nat.add_zero, Nat.mod_eq_of_lt hcount,
      Nat.div_eq_of_lt hcount, hnumber, Nat.mod_eq_of_lt hword, UInt32.ofNat_toNat, regroupFrom]
    cases lastGroup source target pad word count <;> rfl
  | cons v values ih =>
    have hv : v.toNat < 2 ^ source.bits := hvalues v List.mem_cons_self
    have hrest : ∀ w ∈ values, w.toNat < 2 ^ source.bits := fun w hw =>
      hvalues w (List.mem_cons_of_mem _ hw)
    have hsource := source.le_eight
    have htarget := target.le_eight
    have hfit : word.toNat * 2 ^ source.bits < 2 ^ 32 := mul_two_pow_lt_word hword (by omega)
    have hleft : (count + source.bits) % target.bits < target.bits := Nat.mod_lt _ target.pos
    rw [numberOf_cons hfit hv, regroupFrom, if_neg (shiftRight_ne_zero_iff.not.mpr hv.not_ge)]
    simp only
    generalize word <<< UInt32.ofNat source.bits ||| v.toUInt32 = next
    generalize hlast : (count + source.bits) % target.bits = left at hleft ⊢
    have hleft32 : left < 32 := by omega
    have hmasked : (next &&& lowMask left).toNat < 2 ^ left := by
      rw [toNat_and_lowMask next hleft32]
      exact Nat.mod_lt _ (Nat.two_pow_pos left)
    have hgroups : fullGroups target next (count + source.bits) =
        (fixedDigits (2 ^ target.bits) ((count + source.bits) / target.bits)
          (next.toNat / 2 ^ left)).map UInt8.ofNat := by
      rw [← hlast, ← map_toNat_fullGroups target next (by omega), Bytes.map_ofNat_map_toNat]
    have hbits : count + source.bits * (v :: values).length =
        target.bits * ((count + source.bits) / target.bits) +
          (left + source.bits * values.length) := by
      have hdiv := Nat.div_add_mod (count + source.bits) target.bits
      rw [List.length_cons, Nat.mul_succ]
      omega
    -- The groups in the word come off first; the bits that are left are those of the induction
    -- hypothesis.
    rw [ih hrest hleft hmasked, hbits, Nat.mul_add_mod, Nat.mul_add_div target.pos,
      numberOf_eq_add next hleft32, fixedDigits_quotient _ _ _ (numberOf_lt hrest hmasked),
      mod_quotient, hgroups]
    cases lastGroup source target pad _ _ <;> simp [Except.map]

end Runs

/-! ## The last group -/

section LastGroup

variable {source target : GroupWidth} {word : UInt32} {count : Nat}

theorem toNat_justified (hcount : count ≤ target.bits) (hword : word.toNat < 2 ^ count) :
    ((word <<< UInt32.ofNat (target.bits - count)) &&& lowMask target.bits).toNat =
      word.toNat * 2 ^ (target.bits - count) := by
  have htarget := target.le_eight
  have hlt : word.toNat * 2 ^ (target.bits - count) < 2 ^ target.bits := by
    have hmul := mul_two_pow_lt hword (target.bits - count)
    rwa [Nat.add_sub_cancel' hcount] at hmul
  have hfit : word.toNat * 2 ^ (target.bits - count) < 2 ^ 32 :=
    mul_two_pow_lt_word hword (by omega)
  rw [toNat_and_lowMask _ (by omega), toNat_shiftLeft (by omega) hfit, Nat.mod_eq_of_lt hlt]

theorem lastGroup_padded (hcount : count < target.bits) (hword : word.toNat < 2 ^ count) :
    lastGroup source target true word count =
      .ok (if 0 < count then [UInt8.ofNat (word.toNat * 2 ^ (target.bits - count))] else []) := by
  have hbyte : ∀ w : UInt32, w.toUInt8 = UInt8.ofNat w.toNat := by
    intro w
    apply UInt8.toNat_inj.mp
    simp
  simp only [lastGroup, if_pos]
  rw [← toNat_justified hcount.le hword, hbyte]

theorem lastGroup_strict (hcount : count < target.bits) (hword : word.toNat < 2 ^ count) :
    lastGroup source target false word count =
      if source.bits ≤ count then .error .invalidPadding
      else if word.toNat ≠ 0 then .error .nonZeroPadding
      else .ok [] := by
  have hzero : (word <<< UInt32.ofNat (target.bits - count)) &&& lowMask target.bits = 0 ↔
      word.toNat = 0 := by
    rw [← UInt32.toNat_inj, toNat_justified hcount.le hword]
    simp
  simp only [lastGroup, Bool.false_eq_true, if_false, ne_eq, hzero]

theorem lastGroup_strict_eq_ok_iff (hcount : count < target.bits) (hword : word.toNat < 2 ^ count)
    {groups : List UInt8} :
    lastGroup source target false word count = .ok groups ↔
      count < source.bits ∧ word.toNat = 0 ∧ groups = [] := by
  rw [lastGroup_strict hcount hword]
  split
  · next hfull => simp [Nat.not_lt.mpr hfull]
  · next hfull =>
    split
    · next hword => simp [hword]
    · next hword => simp [not_not.mp hword, Nat.lt_of_not_le hfull, eq_comm]

end LastGroup

/-! ## Whole lists -/

section Lists

variable {source target : GroupWidth} {values : List UInt8}

theorem lt_of_regroupFrom_eq_ok {pad : Bool} {word : UInt32} {count : Nat} {groups : List UInt8}
    (h : regroupFrom source target pad word count values = .ok groups) :
    ∀ v ∈ values, v.toNat < 2 ^ source.bits := by
  induction values generalizing word count groups with
  | nil => simp
  | cons v values ih =>
    rw [regroupFrom] at h
    split at h
    · cases h
    · next hvalid =>
      obtain ⟨rest, hrest, -⟩ := map_eq_ok_iff.mp h
      have hv : v.toNat < 2 ^ source.bits :=
        Nat.lt_of_not_le (shiftRight_ne_zero_iff.not.mp hvalid)
      exact List.forall_mem_cons.mpr ⟨hv, ih hrest⟩

/-- The groups of a list are the digits of its number, down to the bits that are left. -/
theorem regroup_eq (pad : Bool) (hvalues : ∀ v ∈ values, v.toNat < 2 ^ source.bits) {n bits : Nat}
    (hn : value (2 ^ source.bits) (values.map UInt8.toNat) = n)
    (hbits : source.bits * values.length = bits) :
    regroup source target pad values =
      (lastGroup source target pad (UInt32.ofNat (n % 2 ^ (bits % target.bits)))
        (bits % target.bits)).map
      ((fixedDigits (2 ^ target.bits) (bits / target.bits)
        (n / 2 ^ (bits % target.bits))).map UInt8.ofNat ++ ·) := by
  have hnumber : numberOf source 0 values = n := by simp [numberOf, hn]
  rw [regroup, regroupFrom_eq pad hvalues target.pos (by simp), hnumber, hbits, Nat.zero_add]

theorem padding_cases {width bits padding count : Nat} (hpadding : padding < width)
    (hbits : bits + padding = width * count) :
    (bits % width = 0 ∧ padding = 0 ∧ count = bits / width) ∨
      (0 < bits % width ∧ bits % width + padding = width ∧ count = bits / width + 1) := by
  have hdiv := Nat.div_add_mod bits width
  have hmod := Nat.mod_lt bits (Nat.zero_lt_of_lt hpadding)
  -- Padding is less than a group, so it makes one group more or none.
  rcases Nat.lt_or_ge (bits / width) count with hlt | hge
  · right
    have hle := Nat.mul_le_mul_left width hlt
    rw [Nat.mul_succ] at hle
    have hcount : count = bits / width + 1 := by
      rcases Nat.lt_or_ge (bits / width + 1) count with hmore | hless
      · have hmul := Nat.mul_le_mul_left width hmore
        rw [Nat.mul_succ, Nat.mul_succ] at hmul
        omega
      · omega
    rw [hcount, Nat.mul_succ] at hbits
    omega
  · left
    have hle := Nat.mul_le_mul_left width hge
    have hcount : count = bits / width := by
      rcases Nat.lt_or_ge count (bits / width) with hless | hmore
      · have hmul := Nat.mul_le_mul_left width hless
        rw [Nat.mul_succ] at hmul
        omega
      · omega
    omega

theorem regroup_padded (hvalues : ∀ v ∈ values, v.toNat < 2 ^ source.bits) {padding count : Nat}
    (hpadding : padding < target.bits)
    (hbits : source.bits * values.length + padding = target.bits * count) :
    regroup source target true values =
      .ok ((fixedDigits (2 ^ target.bits) count
        (value (2 ^ source.bits) (values.map UInt8.toNat) * 2 ^ padding)).map UInt8.ofNat) := by
  generalize hn : value (2 ^ source.bits) (values.map UInt8.toNat) = n
  generalize htotal : source.bits * values.length = bits at hbits
  have htarget := target.le_eight
  have hleft : bits % target.bits < target.bits := Nat.mod_lt _ target.pos
  have hword := toNat_ofNat_mod n (hleft.trans (by omega))
  have hlow : n % 2 ^ (bits % target.bits) < 2 ^ (bits % target.bits) :=
    Nat.mod_lt _ (Nat.two_pow_pos _)
  rw [regroup_eq true hvalues hn htotal, lastGroup_padded hleft (hword.trans_lt hlow), hword]
  rcases padding_cases hpadding hbits with ⟨hrest, rfl, rfl⟩ | ⟨hrest, hfill, rfl⟩
  · simp [hrest, Except.map]
  · -- The padding moves the bits that are left to the high end of their group.
    have hpow : 2 ^ target.bits = 2 ^ (bits % target.bits) * 2 ^ padding := by
      rw [← Nat.pow_add, hfill]
    have hquotient : n * 2 ^ padding / 2 ^ target.bits = n / 2 ^ (bits % target.bits) := by
      rw [hpow, Nat.mul_div_mul_right _ _ (Nat.two_pow_pos _)]
    have hremainder : n * 2 ^ padding % 2 ^ target.bits =
        n % 2 ^ (bits % target.bits) * 2 ^ padding := by
      rw [hpow, Nat.mul_mod_mul_right]
    have hshift : target.bits - bits % target.bits = padding := by omega
    rw [if_pos hrest, hshift, fixedDigits, hquotient, hremainder, List.map_append]
    rfl

theorem regroup_strict_eq_ok_iff (hvalues : ∀ v ∈ values, v.toNat < 2 ^ source.bits)
    {groups : List UInt8} :
    regroup source target false values = .ok groups ↔
      source.bits * values.length % target.bits < source.bits ∧
        value (2 ^ source.bits) (values.map UInt8.toNat) %
          2 ^ (source.bits * values.length % target.bits) = 0 ∧
        groups = (fixedDigits (2 ^ target.bits) (source.bits * values.length / target.bits)
          (value (2 ^ source.bits) (values.map UInt8.toNat) /
            2 ^ (source.bits * values.length % target.bits))).map UInt8.ofNat := by
  generalize hn : value (2 ^ source.bits) (values.map UInt8.toNat) = n
  generalize htotal : source.bits * values.length = bits
  have htarget := target.le_eight
  have hleft : bits % target.bits < target.bits := Nat.mod_lt _ target.pos
  have hword := toNat_ofNat_mod n (hleft.trans (by omega))
  have hlow : n % 2 ^ (bits % target.bits) < 2 ^ (bits % target.bits) :=
    Nat.mod_lt _ (Nat.two_pow_pos _)
  rw [regroup_eq false hvalues hn htotal]
  simp only [map_eq_ok_iff, lastGroup_strict_eq_ok_iff hleft (hword.trans_lt hlow), hword]
  refine ⟨fun h => ?_, fun h => ?_⟩
  · obtain ⟨_, ⟨hfew, hzero, rfl⟩, rfl⟩ := h
    exact ⟨hfew, hzero, List.append_nil _⟩
  · obtain ⟨hfew, hzero, rfl⟩ := h
    exact ⟨[], ⟨hfew, hzero, rfl⟩, List.append_nil _⟩

theorem exists_padding (width : GroupWidth) (bits : Nat) :
    ∃ padding count, padding < width.bits ∧ bits + padding = width.bits * count := by
  have hdiv := Nat.div_add_mod bits width.bits
  have hmod := Nat.mod_lt bits width.pos
  by_cases hrest : bits % width.bits = 0
  · exact ⟨0, bits / width.bits, width.pos, by omega⟩
  · exact ⟨width.bits - bits % width.bits, bits / width.bits + 1, by omega,
      by rw [Nat.mul_succ]; omega⟩

/-- **Padded groups denote the number with zeros behind it, fewer than fill a group.** -/
theorem exists_regroup_padded (target : GroupWidth)
    (hvalues : ∀ v ∈ values, v.toNat < 2 ^ source.bits) :
    ∃ groups padding, regroup source target true values = .ok groups ∧
      (∀ g ∈ groups, g.toNat < 2 ^ target.bits) ∧ padding < target.bits ∧
      source.bits * values.length + padding = target.bits * groups.length ∧
      value (2 ^ target.bits) (groups.map UInt8.toNat) =
        value (2 ^ source.bits) (values.map UInt8.toNat) * 2 ^ padding := by
  obtain ⟨padding, count, hpadding, hbits⟩ :=
    exists_padding target (source.bits * values.length)
  generalize hn : value (2 ^ source.bits) (values.map UInt8.toNat) = n
  have hlt : n * 2 ^ padding < (2 ^ target.bits) ^ count := by
    have hmul := mul_two_pow_lt (hn ▸ value_lt_two_pow hvalues) padding
    rwa [hbits, Nat.pow_mul] at hmul
  refine ⟨(fixedDigits (2 ^ target.bits) count (n * 2 ^ padding)).map UInt8.ofNat, padding, ?_,
    fun g => lt_of_mem_digits, hpadding, ?_, ?_⟩
  · rw [regroup_padded hvalues hpadding hbits, hn]
  · rw [hbits, List.length_map, length_fixedDigits]
  · rw [map_toNat_digits, value_fixedDigits, Nat.mod_eq_of_lt hlt]

/-- Padded groups are regrouped to the values again when the padding falls short of a value. -/
theorem regroup_regroup_iff {groups : List UInt8}
    (hgroups : regroup source target true values = .ok groups) :
    regroup target source false groups = .ok values ↔
      target.bits * groups.length < source.bits * (values.length + 1) := by
  have hvalues := lt_of_regroupFrom_eq_ok hgroups
  obtain ⟨_, padding, hpadded, hsmall, hlast, hbits, hnumber⟩ :=
    exists_regroup_padded target hvalues
  obtain rfl := Except.ok.inj (hgroups.symm.trans hpadded)
  rw [regroup_strict_eq_ok_iff hsmall, ← hbits, Nat.mul_add_mod, Nat.mul_succ, hnumber]
  refine ⟨fun h => ?_, fun h => ?_⟩
  · obtain ⟨-, -, heq⟩ := h
    -- As many values come back as there were, so the padding did not make another one.
    have hcount := congrArg List.length heq
    rw [List.length_map, length_fixedDigits, Nat.mul_add_div source.pos] at hcount
    have hpadding := (Nat.div_eq_zero_iff_lt source.pos).mp (by omega : padding / source.bits = 0)
    omega
  · have hpadding : padding < source.bits := Nat.lt_of_add_lt_add_left h
    have hread : fixedDigits (2 ^ source.bits) values.length
        (value (2 ^ source.bits) (values.map UInt8.toNat)) = values.map UInt8.toNat := by
      rw [← List.length_map (f := UInt8.toNat)]
      exact fixedDigits_value (two_le_two_pow_bits source) (lt_of_mem_map_toNat hvalues)
    rw [Nat.mod_eq_of_lt hpadding, Nat.mul_add_div source.pos, Nat.div_eq_of_lt hpadding,
      Nat.add_zero, Nat.mul_div_cancel _ (Nat.two_pow_pos _), hread, Bytes.map_ofNat_map_toNat]
    exact ⟨hlast, Nat.mul_mod_left _ _, rfl⟩

/-- **Groups that are not wider than the values are regrouped to the values again.** -/
theorem regroup_regroup (h : target.bits ≤ source.bits) {groups : List UInt8}
    (hgroups : regroup source target true values = .ok groups) :
    regroup target source false groups = .ok values := by
  have hvalues := lt_of_regroupFrom_eq_ok hgroups
  obtain ⟨_, padding, hpadded, -, hpadding, hbits, -⟩ := exists_regroup_padded target hvalues
  obtain rfl := Except.ok.inj (hgroups.symm.trans hpadded)
  rw [regroup_regroup_iff hgroups, ← hbits, Nat.mul_succ]
  omega

/-- **Values are regrouped strictly only if they are what the groups are regrouped to with
padding.** The bits that a strict regrouping drops are the zeros that padding puts back. -/
theorem regroup_of_strict {groups : List UInt8}
    (hgroups : regroup source target false values = .ok groups) :
    regroup target source true groups = .ok values := by
  have hvalues := lt_of_regroupFrom_eq_ok hgroups
  obtain ⟨hfew, hzero, heq⟩ := (regroup_strict_eq_ok_iff hvalues).mp hgroups
  have hnumber := value_lt_two_pow hvalues
  have hread := fixedDigits_value (two_le_two_pow_bits source) (lt_of_mem_map_toNat hvalues)
  rw [List.length_map] at hread
  have hbits := Nat.div_add_mod (source.bits * values.length) target.bits
  -- From here on the values and the groups count by their number and their sizes only.
  generalize value (2 ^ source.bits) (values.map UInt8.toNat) = n at hzero heq hnumber hread
  generalize source.bits * values.length % target.bits = left at hfew hzero heq hbits
  generalize source.bits * values.length / target.bits = count at heq hbits
  have hmap : groups.map UInt8.toNat = fixedDigits (2 ^ target.bits) count (n / 2 ^ left) := by
    rw [heq, map_toNat_digits]
  have hlength : groups.length = count := by
    simpa using congrArg List.length hmap
  have hsmall : ∀ g ∈ groups, g.toNat < 2 ^ target.bits := heq ▸ fun g => lt_of_mem_digits
  have hquotient : n / 2 ^ left < (2 ^ target.bits) ^ count := by
    rw [← hbits, Nat.pow_add, Nat.mul_comm, Nat.pow_mul] at hnumber
    exact Nat.div_lt_of_lt_mul hnumber
  rw [regroup_padded hsmall hfew (hlength ▸ hbits), hmap, value_fixedDigits,
    Nat.mod_eq_of_lt hquotient, Nat.div_mul_cancel (Nat.dvd_of_mod_eq_zero hzero), hread,
    Bytes.map_ofNat_map_toNat]

/-- **Regrouping there and back gives the values again.** Without padding on the way there, padding
brings back the bits that were dropped. With padding on the way there, it must fall short of a
value, as it does when the groups are not wider than the values. -/
theorem regroup_inverse (source target : GroupWidth) (values groups : List UInt8) :
    (regroup source target false values = .ok groups →
      regroup target source true groups = .ok values) ∧
    (regroup source target true values = .ok groups →
      (target.bits ≤ source.bits → regroup target source false groups = .ok values) ∧
      (regroup target source false groups = .ok values ↔
        target.bits * groups.length < source.bits * (values.length + 1))) :=
  ⟨regroup_of_strict, fun h => ⟨fun hle => regroup_regroup hle h, regroup_regroup_iff h⟩⟩

/-- Bytes and symbols are regrouped to each other. A padded bit makes a byte of eight bits, and is
not what comes back from it. -/
theorem regroup_inverse_symbol_byte :
    regroup .symbol .byte false [31, 28] = .ok [255] ∧
    regroup .byte .symbol true [255] = .ok [31, 28] ∧
    regroup .byte .symbol true [0x75, 0x1e] = .ok [14, 20, 15, 0] ∧
    GroupWidth.symbol.bits ≤ GroupWidth.byte.bits ∧
    regroup .symbol .byte false [14, 20, 15, 0] = .ok [0x75, 0x1e] ∧
    regroup ⟨1, by decide, by decide⟩ .byte true [1] = .ok [128] ∧
    regroup .byte ⟨1, by decide, by decide⟩ false [128] ≠ .ok [1] := by
  have hstrict : regroup .symbol .byte false [31, 28] = .ok [255] := by rfl
  have hpadded : regroup .byte .symbol true [0x75, 0x1e] = .ok [14, 20, 15, 0] := by rfl
  have hle : GroupWidth.symbol.bits ≤ GroupWidth.byte.bits := by decide
  have hbit : regroup ⟨1, by decide, by decide⟩ .byte true [1] = .ok [128] := by rfl
  obtain ⟨hback, -⟩ := (regroup_inverse .byte .symbol [0x75, 0x1e] [14, 20, 15, 0]).2 hpadded
  obtain ⟨-, hiff⟩ := (regroup_inverse ⟨1, by decide, by decide⟩ .byte [1] [128]).2 hbit
  exact ⟨hstrict, (regroup_inverse .symbol .byte [31, 28] [255]).1 hstrict, hpadded, hle,
    hback hle, hbit, hiff.not.mpr (by decide)⟩

end Lists

end CoinKeys.BitGroups
