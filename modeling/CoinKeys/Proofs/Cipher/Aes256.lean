import CoinKeys.Cipher.Aes256
import CoinKeys.Proofs.Cipher.Byte

/-!
# AES-256 is undone by its decryption

Each step of a round has an inverse: the substitution of the bytes, the shift of the rows, the
mixing of the columns and the addition of a key. Mixing is multiplication by a circulant matrix, and
the product of the two circulant matrices is the identity in either order.

**Theorem (`encryptBlock_eq_ok_iff`).** A block is encrypted to another one under a key exactly when
the other one is decrypted to it.
-/

namespace CoinKeys.Cipher

/-! ## Columns -/

namespace Column

theorem map_map (f g : UInt8 → UInt8) (c : Column) : (c.map g).map f = c.map (f ∘ g) := rfl

theorem map_eq_self {f : UInt8 → UInt8} (h : ∀ b, f b = b) (c : Column) : c.map f = c := by
  simp [map, h]

theorem add_add_cancel (c d : Column) : (c.add d).add d = c := by
  simp only [add, UInt8.xor_assoc, UInt8.xor_self, UInt8.xor_zero]

theorem circulant_circulant (a0 a1 a2 a3 b0 b1 b2 b3 : UInt8) (c : Column) :
    (c.circulant b0 b1 b2 b3).circulant a0 a1 a2 a3 =
      c.circulant
        (mul a0 b0 ^^^ mul a1 b3 ^^^ mul a2 b2 ^^^ mul a3 b1)
        (mul a0 b1 ^^^ mul a1 b0 ^^^ mul a2 b3 ^^^ mul a3 b2)
        (mul a0 b2 ^^^ mul a1 b1 ^^^ mul a2 b0 ^^^ mul a3 b3)
        (mul a0 b3 ^^^ mul a1 b2 ^^^ mul a2 b1 ^^^ mul a3 b0) := by
  simp only [circulant, mul_xor, xor_mul, mul_assoc, mk.injEq]
  refine ⟨?_, ?_, ?_, ?_⟩ <;> ac_rfl

theorem circulant_one (c : Column) : c.circulant 1 0 0 0 = c := by
  simp [circulant]

theorem unmix_mix (c : Column) : c.mix.unmix = c := by
  have h := circulant_circulant 14 11 13 9 2 3 1 1 c
  exact h.trans (circulant_one c)

theorem mix_unmix (c : Column) : c.unmix.mix = c := by
  have h := circulant_circulant 2 3 1 1 14 11 13 9 c
  exact h.trans (circulant_one c)

end Column

/-! ## Squares -/

namespace Square

theorem map_map (f g : Column → Column) (s : Square) : (s.map g).map f = s.map (f ∘ g) := rfl

theorem map_eq_self {f : Column → Column} (h : ∀ c, f c = c) (s : Square) : s.map f = s := by
  simp [map, h]

theorem add_add_cancel (s t : Square) : (s.add t).add t = s := by
  simp [add, Column.add_add_cancel]

theorem unshiftRows_shiftRows (s : Square) : s.shiftRows.unshiftRows = s := rfl

theorem shiftRows_unshiftRows (s : Square) : s.unshiftRows.shiftRows = s := rfl

theorem ofBlock_toBlock (s : Square) : ofBlock s.toBlock = s := rfl

theorem toBlock_ofBlock (block : FixedBytes 16) : (ofBlock block).toBlock = block := by
  obtain ⟨bytes, h⟩ := block
  match bytes, h with
  | [_, _, _, _, _, _, _, _, _, _, _, _, _, _, _, _], _ => rfl

end Square

/-! ## Rounds -/

theorem unscatter_scatter (s : Square) : unscatter (scatter s) = s := by
  rw [unscatter, scatter, Square.unshiftRows_shiftRows, Square.map_map]
  refine Square.map_eq_self (fun c => ?_) s
  rw [Function.comp_apply, Column.map_map]
  exact Column.map_eq_self unsubstitute_substitute c

theorem scatter_unscatter (s : Square) : scatter (unscatter s) = s := by
  have hbytes : (s.unshiftRows.map (Column.map unsubstitute)).map (Column.map substitute) =
      s.unshiftRows := by
    rw [Square.map_map]
    refine Square.map_eq_self (fun c => ?_) s.unshiftRows
    rw [Function.comp_apply, Column.map_map]
    exact Column.map_eq_self substitute_unsubstitute c
  rw [scatter, unscatter, hbytes, Square.shiftRows_unshiftRows]

theorem map_unmix_map_mix (s : Square) : (s.map Column.mix).map Column.unmix = s := by
  rw [Square.map_map]
  exact Square.map_eq_self Column.unmix_mix s

theorem map_mix_map_unmix (s : Square) : (s.map Column.unmix).map Column.mix = s := by
  rw [Square.map_map]
  exact Square.map_eq_self Column.mix_unmix s

theorem unrounds_rounds (keys : List Square) (s : Square) : unrounds keys (rounds keys s) = s := by
  induction keys generalizing s with
  | nil => rfl
  | cons key keys ih =>
    -- The last round leaves out the mixing of columns.
    cases keys with
    | nil => rw [rounds, unrounds, Square.add_add_cancel, unscatter_scatter]
    | cons next keys =>
      rw [rounds, unrounds, ih, Square.add_add_cancel, map_unmix_map_mix, unscatter_scatter]
      · exact List.cons_ne_nil next keys
      · exact List.cons_ne_nil next keys

theorem rounds_unrounds (keys : List Square) (s : Square) : rounds keys (unrounds keys s) = s := by
  induction keys generalizing s with
  | nil => rfl
  | cons key keys ih =>
    cases keys with
    | nil => rw [rounds, unrounds, scatter_unscatter, Square.add_add_cancel]
    | cons next keys =>
      rw [unrounds, rounds, scatter_unscatter, map_mix_map_unmix, Square.add_add_cancel, ih]
      · exact List.cons_ne_nil next keys
      · exact List.cons_ne_nil next keys

theorem decryptSquare_encryptSquare (keys : List Square) (s : Square) :
    decryptSquare keys (encryptSquare keys s) = s := by
  cases keys with
  | nil => rfl
  | cons key keys => rw [encryptSquare, decryptSquare, unrounds_rounds, Square.add_add_cancel]

theorem encryptSquare_decryptSquare (keys : List Square) (s : Square) :
    encryptSquare keys (decryptSquare keys s) = s := by
  cases keys with
  | nil => rfl
  | cons key keys => rw [decryptSquare, encryptSquare, Square.add_add_cancel, rounds_unrounds]

/-! ## Blocks -/

/-- **Decryption undoes encryption, and encryption decryption.** -/
theorem encryptBlock_eq_ok_iff {key : Bytes} {plain secret : FixedBytes 16} :
    encryptBlock key plain = .ok secret ↔ decryptBlock key secret = .ok plain := by
  unfold encryptBlock decryptBlock
  split
  · constructor <;> intro h
    · rw [← Except.ok.inj h, Square.ofBlock_toBlock, decryptSquare_encryptSquare,
        Square.toBlock_ofBlock]
    · rw [← Except.ok.inj h, Square.ofBlock_toBlock, encryptSquare_decryptSquare,
        Square.toBlock_ofBlock]
  · constructor <;> intro h <;> cases h

theorem exists_encryptBlock_eq_ok (key : FixedBytes 32) (plain : FixedBytes 16) :
    ∃ secret, encryptBlock key.toList plain = .ok secret :=
  ⟨_, if_pos key.length_toList⟩

theorem exists_decryptBlock_eq_ok (key : FixedBytes 32) (secret : FixedBytes 16) :
    ∃ plain, decryptBlock key.toList secret = .ok plain :=
  ⟨_, if_pos key.length_toList⟩

end CoinKeys.Cipher
