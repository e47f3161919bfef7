import CoinKeys.Derivation.Scrypt
import CoinKeys.Proofs.Bytes
import CoinKeys.Proofs.Outcome

/-!
# The memory that a derivation takes

While a lane is mixed, a table of `2 ^ logN` states is kept, each of `2 * r` blocks of 64 bytes
(`IsTable.fill`). `ScryptParams.memoryCost` is the price of that table as a machine word can tell
it: a product that stays at the largest word once a factor takes it there. Cutting after each factor
is the same as cutting the whole product once (`memoryCost_eq`), since the only factor that could
lower a product that was cut is zero.

Parameters are accepted under the rules of `ScryptParams.Accepted`, whatever is derived from. For
accepted parameters the price is not cut, so it is the size of every table that is filled
(`tableBytes_eq_memoryCost`).
-/

namespace CoinKeys

namespace ScryptParams

variable {params : ScryptParams}

/-! ## Saturating products -/

theorem saturatingMul_of_le {a b : Nat} (h : a * b ≤ UInt64.size - 1) :
    saturatingMul a b = a * b :=
  Nat.min_eq_left h

theorem saturatingMul_of_ge {a b : Nat} (h : UInt64.size - 1 ≤ a * b) :
    saturatingMul a b = UInt64.size - 1 :=
  Nat.min_eq_right h

theorem saturatingMul_saturatingMul (a b c : Nat) :
    saturatingMul (saturatingMul a b) c = min (a * b * c) (UInt64.size - 1) := by
  by_cases hfits : a * b ≤ UInt64.size - 1
  · rw [saturatingMul_of_le hfits]
    rfl
  · -- The first product is cut. It stays there, unless the last factor is zero.
    have hcut : UInt64.size - 1 ≤ a * b := Nat.le_of_not_le hfits
    rw [saturatingMul_of_ge hcut]
    rcases Nat.eq_zero_or_pos c with rfl | hc
    · simp [saturatingMul]
    · have hwhole : UInt64.size - 1 ≤ a * b * c := hcut.trans (Nat.le_mul_of_pos_right _ hc)
      rw [saturatingMul_of_ge (Nat.le_mul_of_pos_right _ hc), Nat.min_eq_right hwhole]

/-! ## The price -/

theorem states_eq (params : ScryptParams) : params.states = 2 ^ params.logN :=
  Nat.one_shiftLeft params.logN

theorem toNat_shiftLeft_eq_states (h : params.logN < 64) :
    ((1 : UInt64) <<< UInt64.ofNat params.logN).toNat = params.states := by
  have hpow : 2 ^ params.logN < 2 ^ 64 := Nat.pow_lt_pow_right (by decide) h
  have hshift : (UInt64.ofNat params.logN).toNat = params.logN :=
    UInt64.toNat_ofNat_of_lt' (h.trans (by decide))
  rw [UInt64.toNat_shiftLeft, hshift, Nat.mod_eq_of_lt h, UInt64.toNat_one, Nat.one_shiftLeft,
    Nat.mod_eq_of_lt hpow, states_eq]

theorem memoryCost_eq (params : ScryptParams) :
    params.memoryCost = min (128 * 2 ^ params.logN * params.r) (2 ^ 64 - 1) := by
  unfold memoryCost
  rw [saturatingMul_saturatingMul, states_eq]
  rfl

/-- States of no blocks take nothing, though the product was cut before it became zero. -/
example : (⟨63, 0, 1, 64⟩ : ScryptParams).memoryCost = 0 := by
  decide

/-! ## Accepted parameters -/

/-- The rules for parameters: the table of a lane and all lanes together have sizes of a machine
word, the number of states is below `2 ^ (16 * r)`, the blocks of PBKDF2 that the lanes take can be
numbered in 32 bits, and 10 to 64 bytes are asked for. -/
structure Accepted (params : ScryptParams) : Prop where
  logN_lt : params.logN < 64
  r_pos : 0 < params.r
  p_pos : 0 < params.p
  le_length : 10 ≤ params.length
  length_le : params.length ≤ 64
  table_lt : params.r * 128 * 2 ^ params.logN < 2 ^ 64
  lanes_lt : params.r * 128 * params.p < 2 ^ 64
  logN_lt_r : params.logN < 16 * params.r
  blocks_lt : params.r * params.p < 2 ^ 30

theorem isValid_iff : params.isValid = true ↔ params.Accepted := by
  simp only [isValid, Bool.and_eq_true, decide_eq_true_eq, states_eq]
  refine ⟨fun h => ?_, fun h => ?_⟩
  · obtain ⟨⟨⟨⟨⟨⟨⟨⟨h₁, h₂⟩, h₃⟩, h₄⟩, h₅⟩, h₆⟩, h₇⟩, h₈⟩, h₉⟩ := h
    exact ⟨h₁, h₂, h₃, h₄, h₅, h₆, h₇, h₈, h₉⟩
  · obtain ⟨h₁, h₂, h₃, h₄, h₅, h₆, h₇, h₈, h₉⟩ := h
    exact ⟨⟨⟨⟨⟨⟨⟨⟨h₁, h₂⟩, h₃⟩, h₄⟩, h₅⟩, h₆⟩, h₇⟩, h₈⟩, h₉⟩

theorem Accepted.product_lt (h : params.Accepted) :
    128 * 2 ^ params.logN * params.r < 2 ^ 64 := by
  calc 128 * 2 ^ params.logN * params.r = params.r * 128 * 2 ^ params.logN := by ring
    _ < 2 ^ 64 := h.table_lt

/-- The price of accepted parameters is not cut. -/
theorem Accepted.memoryCost_eq (h : params.Accepted) :
    params.memoryCost = 128 * 2 ^ params.logN * params.r := by
  rw [ScryptParams.memoryCost_eq]
  exact Nat.min_eq_left (Nat.le_pred_of_lt h.product_lt)

end ScryptParams

namespace Scrypt

open Salsa

variable {params : ScryptParams} {password salt : Bytes}

/-- The lanes that a derivation mixes, one after the other. -/
def lanes (params : ScryptParams) (password salt : Bytes) : List Bytes :=
  chunks (128 * params.r) (pbkdf2 password salt 1 (params.p * (128 * params.r)))

theorem derive_eq_ok (h : params.Accepted) (password salt : Bytes) :
    derive params password salt =
      .ok ⟨pbkdf2 password ((lanes params password salt).flatMap (mixBytes params.states)) 1
        params.length, length_pbkdf2 ..⟩ := by
  unfold derive
  rw [if_pos (ScryptParams.isValid_iff.mpr h)]
  rfl

theorem exists_derive_eq_ok (h : params.isValid = true) (password salt : Bytes) :
    ∃ derived, derive params password salt = .ok derived :=
  ⟨_, derive_eq_ok (ScryptParams.isValid_iff.mp h) password salt⟩

theorem exists_map_derive_eq_ok (h : params.isValid = true) (password salt : Bytes) {α : Type}
    (f : FixedBytes params.length → α) :
    ∃ a, (derive params password salt).map f = .ok a := by
  obtain ⟨derived, hderived⟩ := exists_derive_eq_ok h password salt
  exact ⟨f derived, map_eq_ok_iff.mpr ⟨derived, hderived, rfl⟩⟩

theorem derive_eq_error (h : ¬ params.Accepted) (password salt : Bytes) :
    derive params password salt = .error (.derivation .scryptParameters) := by
  unfold derive
  rw [if_neg (fun hvalid => h (ScryptParams.isValid_iff.mp hvalid))]

theorem accepted_of_derive {key : FixedBytes params.length}
    (h : derive params password salt = .ok key) : params.Accepted := by
  by_contra hrefused
  rw [derive_eq_error hrefused] at h
  cases h

/-! ## The table of a lane -/

/-- Mixing writes one block for each block that it reads. -/
theorem Mixing.size_push (m : Mixing) (block : Block) :
    (m.push block).due.size + (m.push block).other.size = m.due.size + m.other.size + 1 := by
  simp only [push, Array.size_push]
  omega

theorem size_foldl_push (blocks : List Block) (m : Mixing) :
    (blocks.foldl Mixing.push m).due.size + (blocks.foldl Mixing.push m).other.size =
      m.due.size + m.other.size + blocks.length := by
  induction blocks generalizing m with
  | nil => rfl
  | cons block blocks ih =>
    rw [List.foldl_cons, ih, Mixing.size_push, List.length_cons]
    omega

@[simp] theorem size_mixBlocks (lane : Array Block) : (mixBlocks lane).size = lane.size := by
  unfold mixBlocks
  rw [Array.size_append, ← Array.foldl_toList, size_foldl_push]
  simp

/-- A table of `count` states of `size` blocks each. -/
structure IsTable (count size : Nat) (table : Array (Array Block)) : Prop where
  size_eq : table.size = count
  size_state : ∀ state ∈ table, state.size = size

theorem isTable_empty (size : Nat) : IsTable 0 size #[] :=
  ⟨rfl, by simp⟩

theorem IsTable.push {count size : Nat} {table : Array (Array Block)}
    (h : IsTable count size table) {state : Array Block} (hstate : state.size = size) :
    IsTable (count + 1) size (table.push state) := by
  refine ⟨by rw [Array.size_push, h.size_eq], fun other hother => ?_⟩
  rcases Array.mem_push.mp hother with hmem | rfl
  · exact h.size_state other hmem
  · exact hstate

/-- Filling adds as many states as it is told to, all of the size of the lane. -/
theorem IsTable.fill {size : Nat} (count : Nat) {filled : Nat} {lane : Array Block}
    {table : Array (Array Block)} (h : IsTable filled size table) (hlane : lane.size = size) :
    IsTable (filled + count) size (fill count lane table).2 := by
  induction count generalizing filled lane table with
  | zero => exact h
  | succ count ih =>
    -- The state that is pushed has the size of the lane, and so has the next one.
    have hnext := ih (h.push hlane) ((size_mixBlocks lane).trans hlane)
    rwa [Nat.add_right_comm, Nat.add_assoc] at hnext

/-- The bytes that a table takes: sixteen words of four bytes for each block. -/
def tableBytes (table : Array (Array Block)) : Nat :=
  (table.toList.map fun state => 64 * state.size).sum

theorem IsTable.tableBytes_eq {count size : Nat} {table : Array (Array Block)}
    (h : IsTable count size table) : tableBytes table = count * (64 * size) := by
  have hconst : table.toList.map (fun state => 64 * state.size) =
      table.toList.map fun _ => 64 * size := by
    refine List.map_congr_left fun state hstate => ?_
    rw [h.size_state state (Array.mem_toList_iff.mp hstate)]
  unfold tableBytes
  rw [hconst, List.map_const', List.sum_replicate_nat, Array.length_toList, h.size_eq]

/-! ## Lanes -/

theorem length_listOfLittleEndian (count : Nat) {bytes : Bytes} (h : bytes.length = 4 * count) :
    (Word.listOfLittleEndian bytes).length = count := by
  induction count generalizing bytes with
  | zero =>
    rw [List.length_eq_zero_iff.mp h]
    rfl
  | succ count ih =>
    match bytes, h with
    | _ :: _ :: _ :: _ :: rest, h =>
      simp only [List.length_cons] at h
      rw [Word.listOfLittleEndian, List.length_cons, ih (by omega)]

theorem length_listOfWords (count : Nat) {words : List UInt32} (h : words.length = 16 * count) :
    (Block.listOfWords words).length = count := by
  induction count generalizing words with
  | zero =>
    rw [List.length_eq_zero_iff.mp h]
    rfl
  | succ count ih =>
    match words, h with
    | _ :: _ :: _ :: _ :: _ :: _ :: _ :: _ :: _ :: _ :: _ :: _ :: _ :: _ :: _ :: _ :: rest, h =>
      simp only [List.length_cons] at h
      rw [Block.listOfWords, List.length_cons, ih (by omega)]

/-- The blocks of a lane of bytes. -/
def laneBlocks (lane : Bytes) : Array Block :=
  (Block.listOfWords (Word.listOfLittleEndian lane)).toArray

theorem size_laneBlocks {r : Nat} {lane : Bytes} (h : lane.length = 128 * r) :
    (laneBlocks lane).size = 2 * r := by
  have hwords : (Word.listOfLittleEndian lane).length = 16 * (2 * r) :=
    length_listOfLittleEndian _ (by omega)
  unfold laneBlocks
  rw [List.size_toArray, length_listOfWords _ hwords]

theorem length_lanes (h : 0 < params.r) (password salt : Bytes) :
    (lanes params password salt).length = params.p := by
  have hsize : 0 < 128 * params.r := Nat.mul_pos (by decide) h
  unfold lanes
  rw [length_chunks, length_pbkdf2, Nat.mul_div_cancel _ hsize]

theorem length_of_mem_lanes {lane : Bytes} (h : lane ∈ lanes params password salt) :
    lane.length = 128 * params.r :=
  length_of_mem_chunks h

/-- **The price of accepted parameters is the size of the table of each lane.** -/
theorem tableBytes_eq_memoryCost (h : params.Accepted) {lane : Bytes}
    (hlane : lane ∈ lanes params password salt) :
    tableBytes (fill params.states (laneBlocks lane) #[]).2 = params.memoryCost := by
  have hsize := size_laneBlocks (length_of_mem_lanes hlane)
  have htable := (isTable_empty (2 * params.r)).fill params.states hsize
  rw [htable.tableBytes_eq, h.memoryCost_eq, ScryptParams.states_eq]
  ring

/-- **What a derivation takes and gives.** The price is the product of its three factors, cut once
at the largest machine word. Exactly the accepted parameters derive something, from every password
and salt, and then as many bytes as were asked for; all others are refused. The price of a
derivation is the whole product, and each of the `p` lanes that are mixed fills a table of that
size. -/
theorem memoryCost_of_derive (params : ScryptParams) :
    (params.logN < 64 → ((1 : UInt64) <<< UInt64.ofNat params.logN).toNat = params.states ∧
      params.memoryCost = min (128 * 2 ^ params.logN * params.r) (2 ^ 64 - 1)) ∧
    ∀ password salt : Bytes,
      (params.Accepted → ∃ key, derive params password salt = .ok key) ∧
      (¬ params.Accepted → derive params password salt = .error (.derivation .scryptParameters)) ∧
      ∀ key, derive params password salt = .ok key →
        key.toList = pbkdf2 password ((lanes params password salt).flatMap (mixBytes params.states))
          1 params.length ∧
        key.toList.length = params.length ∧
        params.memoryCost = 128 * 2 ^ params.logN * params.r ∧ params.memoryCost < 2 ^ 64 ∧
        (lanes params password salt).length = params.p ∧
        ∀ lane ∈ lanes params password salt,
          tableBytes (fill params.states (laneBlocks lane) #[]).2 = params.memoryCost := by
  refine ⟨fun h => ?_, fun password salt => ⟨fun h => ?_, fun h => ?_, fun key hkey => ?_⟩⟩
  · exact ⟨ScryptParams.toNat_shiftLeft_eq_states h, ScryptParams.memoryCost_eq params⟩
  · exact ⟨_, derive_eq_ok h password salt⟩
  · exact derive_eq_error h password salt
  · have h := accepted_of_derive hkey
    have hmixed := Except.ok.inj (hkey.symm.trans (derive_eq_ok h password salt))
    refine ⟨congrArg FixedBytes.toList hmixed, key.length_toList, h.memoryCost_eq, ?_,
      length_lanes h.r_pos password salt, ?_⟩
    · rw [h.memoryCost_eq]
      exact h.product_lt
    · intro lane hlane
      exact tableBytes_eq_memoryCost h hlane

/-- The table of a lane may take half of all the bytes that a machine word can count, and the price
still tells its size. The least power of two that a word cannot count is cut, and refused. -/
theorem memoryCost_of_derive_half :
    let half : ScryptParams := ⟨54, 4, 1, 64⟩
    let full : ScryptParams := ⟨57, 1, 1, 64⟩
    (half.memoryCost = 2 ^ 63 ∧ ∃ key, derive half [] [] = .ok key ∧ key.toList.length = 64 ∧
      ∃ lane, lanes half [] [] = [lane] ∧
        tableBytes (fill half.states (laneBlocks lane) #[]).2 = 2 ^ 63) ∧
    full.memoryCost = 2 ^ 64 - 1 ∧
      derive full [] [] = .error (.derivation .scryptParameters) := by
  intro half full
  obtain ⟨-, hhalf⟩ := memoryCost_of_derive half
  obtain ⟨hfull, hrefuse⟩ := memoryCost_of_derive full
  refine ⟨?_, ?_, ?_⟩
  · have haccepted : half.Accepted := ScryptParams.isValid_iff.mp (by decide)
    obtain ⟨haccept, -, hcost⟩ := hhalf [] []
    obtain ⟨key, hkey⟩ := haccept haccepted
    obtain ⟨-, hlength, hprice, -, hlanes, htable⟩ := hcost key hkey
    obtain ⟨lane, hlane⟩ := List.length_eq_one_iff.mp hlanes
    have hvalue : half.memoryCost = 2 ^ 63 := by
      rw [hprice]
      norm_num [half]
    rw [hvalue, hlane] at htable
    exact ⟨hvalue, key, hkey, hlength, lane, hlane, htable lane (List.mem_singleton_self lane)⟩
  · rw [(hfull (by decide)).2]
    norm_num [full]
  · have hrefused : ¬ full.Accepted := fun h => absurd (ScryptParams.isValid_iff.mpr h) (by decide)
    exact (hrefuse [] []).2.1 hrefused

end Scrypt

end CoinKeys
