import CoinKeys.Positional
import Mathlib.Data.Nat.Digits.Lemmas
import Mathlib.Tactic.Ring

/-!
# Numerals denote numbers

A numeral whose digits are below the base is determined by its number and, if it may start with
zeros, by how many digits it has: `fixedDigits_value` and `digits_value`. So writing a numeral in
another base loses nothing.

**Theorem (`convert_convert`).** Converting a numeral to another base and back gives the numeral
that one started from, leading zeros included.

Digit lists of the library are most significant first, those of Mathlib least significant first;
`value_eq_ofDigits` and `digits_eq_reverse` are the bridge between them.
-/

namespace CoinKeys.Positional

variable {base : Nat}

/-! ## The number of a numeral -/

@[simp] theorem value_nil (base : Nat) : value base [] = 0 := rfl

theorem value_concat (base : Nat) (numeral : List Nat) (digit : Nat) :
    value base (numeral ++ [digit]) = value base numeral * base + digit := by
  simp [value]

theorem value_eq_ofDigits (base : Nat) (numeral : List Nat) :
    value base numeral = Nat.ofDigits base numeral.reverse := by
  induction numeral using List.reverseRecOn with
  | nil => rfl
  | append_singleton numeral digit ih =>
    rw [value_concat, ih, List.reverse_append, List.reverse_singleton, List.singleton_append,
      Nat.ofDigits_cons]
    ring

theorem value_append (base : Nat) (high low : List Nat) :
    value base (high ++ low) = value base high * base ^ low.length + value base low := by
  simp only [value_eq_ofDigits, List.reverse_append, Nat.ofDigits_append, List.length_reverse]
  ring

theorem value_cons (base digit : Nat) (numeral : List Nat) :
    value base (digit :: numeral) = digit * base ^ numeral.length + value base numeral := by
  simpa [value] using value_append base [digit] numeral

@[simp] theorem value_replicate_zero (base count : Nat) :
    value base (List.replicate count 0) = 0 := by
  simp [value_eq_ofDigits, Nat.ofDigits_replicate_zero]

theorem value_lt (hb : 2 ≤ base) {numeral : List Nat} (hd : ∀ d ∈ numeral, d < base) :
    value base numeral < base ^ numeral.length := by
  rw [value_eq_ofDigits, ← List.length_reverse]
  exact Nat.ofDigits_lt_base_pow_length hb fun d h => hd d (List.mem_reverse.mp h)

theorem eq_of_value_eq (hb : 2 ≤ base) {xs ys : List Nat} (hl : xs.length = ys.length)
    (hx : ∀ d ∈ xs, d < base) (hy : ∀ d ∈ ys, d < base) (h : value base xs = value base ys) :
    xs = ys := by
  rw [value_eq_ofDigits, value_eq_ofDigits] at h
  have hrev := Nat.ofDigits_inj_of_len_eq hb (by simpa using hl)
    (fun d hd => hx d (List.mem_reverse.mp hd)) (fun d hd => hy d (List.mem_reverse.mp hd)) h
  exact List.reverse_injective hrev

/-! ## Numerals of a fixed length -/

theorem lt_of_mem_fixedDigits (hb : 0 < base) {count n d : Nat}
    (h : d ∈ fixedDigits base count n) : d < base := by
  induction count generalizing n with
  | zero => simp [fixedDigits] at h
  | succ count ih =>
    rcases List.mem_append.mp h with h | h
    · exact ih h
    · rw [List.mem_singleton.mp h]
      exact Nat.mod_lt _ hb

theorem value_fixedDigits (base count n : Nat) :
    value base (fixedDigits base count n) = n % base ^ count := by
  induction count generalizing n with
  | zero => simp [fixedDigits, Nat.mod_one]
  | succ count ih =>
    rw [fixedDigits, value_concat, ih, Nat.pow_succ', Nat.mod_mul]
    ring

theorem fixedDigits_value (hb : 2 ≤ base) {numeral : List Nat} (hd : ∀ d ∈ numeral, d < base) :
    fixedDigits base numeral.length (value base numeral) = numeral := by
  refine eq_of_value_eq hb (by simp) (fun d h => lt_of_mem_fixedDigits (by omega) h) hd ?_
  rw [value_fixedDigits, Nat.mod_eq_of_lt (value_lt hb hd)]

/-- The first `i` of `i + j` digits are those of the quotient by `base ^ j`. -/
theorem fixedDigits_add (base i j n : Nat) :
    fixedDigits base (i + j) n = fixedDigits base i (n / base ^ j) ++ fixedDigits base j n := by
  induction j generalizing n with
  | zero => simp [fixedDigits]
  | succ j ih =>
    rw [← Nat.add_assoc, fixedDigits, ih, fixedDigits, Nat.div_div_eq_div_mul, Nat.pow_succ',
      List.append_assoc]

theorem fixedDigits_zero (base count : Nat) :
    fixedDigits base count 0 = List.replicate count 0 := by
  induction count with
  | zero => rfl
  | succ count ih =>
    rw [fixedDigits, Nat.zero_div, Nat.zero_mod, ih, List.replicate_succ']

theorem fixedDigits_mod (base count n : Nat) :
    fixedDigits base count (n % base ^ count) = fixedDigits base count n := by
  induction count generalizing n with
  | zero => rfl
  | succ count ih =>
    rw [fixedDigits, fixedDigits, Nat.pow_succ', Nat.mod_mul_right_div_self, ih,
      Nat.mod_mul_right_mod]

theorem fixedDigits_mul_add (base i n : Nat) {j m : Nat} (h : m < base ^ j) :
    fixedDigits base (i + j) (n * base ^ j + m) = fixedDigits base i n ++ fixedDigits base j m := by
  have hpos : 0 < base ^ j := Nat.zero_lt_of_lt h
  have hhigh : (n * base ^ j + m) / base ^ j = n := by
    rw [Nat.mul_comm, Nat.mul_add_div hpos, Nat.div_eq_of_lt h, Nat.add_zero]
  have hlow : (n * base ^ j + m) % base ^ j = m := by
    rw [Nat.mul_add_mod_self_right, Nat.mod_eq_of_lt h]
  rw [fixedDigits_add, hhigh, ← fixedDigits_mod base j (n * base ^ j + m), hlow]

/-! ## Numerals without leading zeros -/

theorem digitsOnto_eq (hb : 2 ≤ base) (steps : Nat) (acc : List Nat) {n : Nat}
    (hn : n < base ^ steps) :
    digitsOnto base steps n acc = (Nat.digits base n).reverse ++ acc := by
  induction steps generalizing n acc with
  | zero =>
    have hzero : n = 0 := by simpa using hn
    simp [digitsOnto, hzero]
  | succ steps ih =>
    rw [digitsOnto]
    split
    · next hzero => simp [hzero]
    · next hpos =>
      have hlt : n / base < base ^ steps := by
        rw [Nat.div_lt_iff_lt_mul (by omega)]
        simpa [Nat.pow_succ] using hn
      rw [ih _ hlt, Nat.digits_def' hb (Nat.pos_of_ne_zero hpos)]
      simp

theorem digits_eq_reverse (hb : 2 ≤ base) (n : Nat) :
    digits base n = (Nat.digits base n).reverse := by
  have hn : n < base ^ (n.log2 + 1) :=
    Nat.lt_log2_self.trans_le (Nat.pow_le_pow_left hb _)
  rw [digits, digitsOnto_eq hb _ _ hn, List.append_nil]

theorem value_digits (hb : 2 ≤ base) (n : Nat) : value base (digits base n) = n := by
  rw [value_eq_ofDigits, digits_eq_reverse hb, List.reverse_reverse, Nat.ofDigits_digits]

theorem lt_of_mem_digits (hb : 2 ≤ base) {n d : Nat} (h : d ∈ digits base n) : d < base := by
  rw [digits_eq_reverse hb, List.mem_reverse] at h
  exact Nat.digits_lt_base hb h

theorem head?_digits_ne_zero (hb : 2 ≤ base) (n : Nat) : (digits base n).head? ≠ some 0 := by
  rw [digits_eq_reverse hb, List.head?_reverse]
  intro h
  have hne : Nat.digits base n ≠ [] := by
    intro hnil
    simp [hnil] at h
  rw [List.getLast?_eq_some_getLast hne, Option.some.injEq] at h
  exact Nat.getLast_digit_ne_zero base (Nat.digits_ne_nil_iff_ne_zero.mp hne) h

theorem digits_value (hb : 2 ≤ base) {numeral : List Nat} (hd : ∀ d ∈ numeral, d < base)
    (hz : numeral.head? ≠ some 0) : digits base (value base numeral) = numeral := by
  rw [digits_eq_reverse hb, value_eq_ofDigits, Nat.digits_ofDigits base hb, List.reverse_reverse]
  · exact fun d h => hd d (List.mem_reverse.mp h)
  · intro hne hlast
    apply hz
    rw [List.getLast_reverse] at hlast
    rw [List.head?_eq_some_head (by simpa using hne), hlast]

/-- The number of digits counts the powers of the base up to the number. -/
theorem length_digits_le_iff (hb : 2 ≤ base) {n count : Nat} :
    (digits base n).length ≤ count ↔ n < base ^ count := by
  rw [digits_eq_reverse hb, List.length_reverse, Nat.digits_length_le_iff hb]

theorem pow_length_digits_le (hb : 2 ≤ base) {n : Nat} (hn : n ≠ 0) :
    base ^ (digits base n).length ≤ base * n := by
  rw [digits_eq_reverse hb, List.length_reverse]
  exact Nat.base_pow_length_digits_le base n hb hn

/-- In front of its last digits, a number has the digits of its quotient. -/
theorem digits_eq_append (hb : 2 ≤ base) (count : Nat) {n : Nat} (hn : n / base ^ count ≠ 0) :
    digits base n = digits base (n / base ^ count) ++ fixedDigits base count n := by
  -- A numeral with the number of `n` and no leading zero is that of `n`, so the digits are never
  -- compared one by one.
  generalize hnumeral :
    digits base (n / base ^ count) ++ fixedDigits base count n = numeral
  have hlt : ∀ d ∈ numeral, d < base := by
    intro d hd
    rw [← hnumeral, List.mem_append] at hd
    rcases hd with hd | hd
    · exact lt_of_mem_digits hb hd
    · exact lt_of_mem_fixedDigits (by omega) hd
  have hhead : numeral.head? ≠ some 0 := by
    have hne : digits base (n / base ^ count) ≠ [] := by
      intro hnil
      have hvalue := value_digits hb (n / base ^ count)
      rw [hnil, value_nil] at hvalue
      exact hn hvalue.symm
    rw [← hnumeral, List.head?_append_of_ne_nil _ hne]
    exact head?_digits_ne_zero hb _
  have hvalue : value base numeral = n := by
    rw [← hnumeral, value_append, value_digits hb, value_fixedDigits, length_fixedDigits,
      Nat.div_add_mod']
  rw [← digits_value hb hlt hhead, hvalue]

/-! ## Conversion -/

theorem leadingZeros_replicate_append (count : Nat) {numeral : List Nat}
    (hz : numeral.head? ≠ some 0) : leadingZeros (List.replicate count 0 ++ numeral) = count := by
  have htail : numeral.takeWhile (· == 0) = [] := by
    cases numeral with
    | nil => rfl
    | cons d numeral =>
      have hd : d ≠ 0 := by simpa using hz
      simp [hd]
  rw [leadingZeros, List.takeWhile_append_of_pos (by simp), htail]
  simp

/-- A numeral is its leading zeros followed by the numeral of its number. -/
theorem replicate_append_digits (hb : 2 ≤ base) {numeral : List Nat}
    (hd : ∀ d ∈ numeral, d < base) :
    List.replicate (leadingZeros numeral) 0 ++ digits base (value base numeral) = numeral := by
  induction numeral with
  | nil =>
    simp [leadingZeros, digits_eq_reverse hb]
  | cons d numeral ih =>
    by_cases hzero : d = 0
    · subst hzero
      have hvalue : value base (0 :: numeral) = value base numeral := by simp [value_cons]
      rw [hvalue]
      simpa [leadingZeros, List.replicate_succ] using ih fun d h => hd d (List.mem_cons_of_mem _ h)
    · rw [digits_value hb hd (by simpa using hzero)]
      simp [leadingZeros, hzero]

theorem lt_of_mem_convert (source : Nat) {target : Nat} (ht : 2 ≤ target) {numeral : List Nat}
    {d : Nat} (h : d ∈ convert source target numeral) : d < target := by
  rcases List.mem_append.mp h with h | h
  · rw [List.eq_of_mem_replicate h]
    omega
  · exact lt_of_mem_digits ht h

theorem leadingZeros_convert (source : Nat) {target : Nat} (ht : 2 ≤ target)
    (numeral : List Nat) : leadingZeros (convert source target numeral) = leadingZeros numeral :=
  leadingZeros_replicate_append _ (head?_digits_ne_zero ht _)

theorem value_convert (source : Nat) {target : Nat} (ht : 2 ≤ target) (numeral : List Nat) :
    value target (convert source target numeral) = value source numeral := by
  rw [convert, value_append, value_replicate_zero, value_digits ht, Nat.zero_mul, Nat.zero_add]

/-- A numeral in the larger of two bases has few digits only if it has few in the smaller one. -/
theorem pow_length_le_convert {source target : Nat} (hs : 2 ≤ source) (h : source ≤ target)
    {numeral : List Nat} (hd : ∀ d ∈ numeral, d < source) :
    source ^ numeral.length ≤ source * target ^ (convert source target numeral).length := by
  have ht : 2 ≤ target := hs.trans h
  generalize hn : value source numeral = n
  -- A leading zero stays one digit, and it counts for more in the larger base.
  have hzeros : source ^ leadingZeros numeral ≤ target ^ leadingZeros numeral :=
    Nat.pow_le_pow_left h _
  have hdigits :
      source ^ (digits source n).length ≤ source * target ^ (digits target n).length := by
    rcases Nat.eq_zero_or_pos n with rfl | hpos
    · simpa [digits_eq_reverse hs, digits_eq_reverse ht] using Nat.one_le_of_lt hs
    · have hlt : n < target ^ (digits target n).length := (length_digits_le_iff ht).mp le_rfl
      exact (pow_length_digits_le hs hpos.ne').trans (Nat.mul_le_mul_left source hlt.le)
  have hlength : numeral.length = leadingZeros numeral + (digits source n).length := by
    conv_lhs => rw [← replicate_append_digits hs hd]
    rw [List.length_append, List.length_replicate, hn]
  calc source ^ numeral.length
      = source ^ leadingZeros numeral * source ^ (digits source n).length := by
        rw [hlength, Nat.pow_add]
    _ ≤ target ^ leadingZeros numeral * (source * target ^ (digits target n).length) :=
        Nat.mul_le_mul hzeros hdigits
    _ = source * target ^ (convert source target numeral).length := by
        rw [convert, List.length_append, List.length_replicate, hn, Nat.pow_add]
        ring

theorem eq_convert_iff (source : Nat) {target : Nat} (ht : 2 ≤ target) {numeral other : List Nat}
    (hd : ∀ d ∈ other, d < target) :
    other = convert source target numeral ↔
      leadingZeros other = leadingZeros numeral ∧ value target other = value source numeral := by
  refine ⟨fun h => ?_, fun h => ?_⟩
  · obtain rfl := h
    exact ⟨leadingZeros_convert source ht numeral, value_convert source ht numeral⟩
  · obtain ⟨hzeros, hvalue⟩ := h
    rw [convert, ← hzeros, ← hvalue, replicate_append_digits ht hd]

/-- **Conversion is undone by conversion back.** -/
theorem convert_convert {source target : Nat} (hs : 2 ≤ source) (ht : 2 ≤ target)
    {numeral : List Nat} (hd : ∀ d ∈ numeral, d < source) :
    convert target source (convert source target numeral) = numeral := by
  rw [convert, leadingZeros_convert source ht, value_convert source ht,
    replicate_append_digits hs hd]

end CoinKeys.Positional
