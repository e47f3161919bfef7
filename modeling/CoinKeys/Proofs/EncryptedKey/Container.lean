import CoinKeys.EncryptedKey.Basic
import CoinKeys.Proofs.Base58
import CoinKeys.Proofs.Outcome

/-!
# The text of an encrypted key

Six pairs of a mode byte and flags stand for a form (`Form.IsCode`), each for its own
(`Form.ofCode`).

**Theorem (`decode_eq_ok_iff`).** An encrypted key is read, in all fields, from its text and from no
other text. The network is the one that the reader was given.
-/

namespace CoinKeys.EncryptedKey

theorem length_payload (key : EncryptedKey) : key.payload.length = payloadSize := by
  simp [payload, payloadSize]

/-! ## Mode and flags -/

/-- The pairs of a mode byte and flags that stand for a form. In direct mode two bits of the flags
are always set, in multiplied mode never. -/
def Form.IsCode (modeByte flags : UInt8) : Prop :=
  modeByte = 0x42 ∧ flags ∈ [0xc0, 0xe0] ∨ modeByte = 0x43 ∧ flags ∈ [0x00, 0x04, 0x20, 0x24]

/-- The form that a mode byte and flags stand for. The bit `0x04` of the flags tells of a lot and a
sequence number, and the bit `0x20` of the short form of public keys. -/
def Form.ofCode (modeByte flags : UInt8) : Form :=
  ⟨if modeByte = 0x42 then .direct else .multiplied (flags &&& 0x04 != 0), flags &&& 0x20 != 0⟩

theorem Form.isCode (form : Form) : IsCode form.modeByte form.flags := by
  obtain ⟨mode, compressed⟩ := form
  cases mode with
  | direct =>
    refine .inl ⟨rfl, ?_⟩
    cases compressed <;> decide
  | multiplied hasLot =>
    refine .inr ⟨rfl, ?_⟩
    cases hasLot <;> cases compressed <;> decide

theorem Form.ofCode_modeByte_flags (form : Form) : ofCode form.modeByte form.flags = form := by
  obtain ⟨mode, compressed⟩ := form
  cases mode with
  | direct => cases compressed <;> rfl
  | multiplied hasLot => cases hasLot <;> cases compressed <;> rfl

theorem Form.IsCode.eq_ofCode {modeByte flags : UInt8} (h : IsCode modeByte flags) :
    (ofCode modeByte flags).modeByte = modeByte ∧ (ofCode modeByte flags).flags = flags := by
  simp only [IsCode, List.mem_cons, List.not_mem_nil, or_false] at h
  rcases h with ⟨rfl, rfl | rfl⟩ | ⟨rfl, rfl | rfl | rfl | rfl⟩ <;> exact ⟨rfl, rfl⟩

theorem fitsDirect_iff (flags : UInt8) : fitsDirect flags = true ↔ flags ∈ [0xc0, 0xe0] :=
  forall_byte (p := fun flags => fitsDirect flags = true ↔ flags ∈ [0xc0, 0xe0])
    (by decide +kernel) flags

theorem fitsMultiplied_iff (flags : UInt8) :
    fitsMultiplied flags = true ↔ flags ∈ [0x00, 0x04, 0x20, 0x24] :=
  forall_byte (p := fun flags => fitsMultiplied flags = true ↔ flags ∈ [0x00, 0x04, 0x20, 0x24])
    (by decide +kernel) flags

/-- The masks on the flags leave these six pairs and no others. -/
theorem Form.ofBytes_eq_ok_iff_isCode {modeByte flags : UInt8} {form : Form} :
    Form.ofBytes modeByte flags = .ok form ↔
      IsCode modeByte flags ∧ ofCode modeByte flags = form := by
  simp only [Form.ofBytes, IsCode, ofCode, ← fitsDirect_iff, ← fitsMultiplied_iff]
  -- The mode decides which mask is tested, so the other list of flags drops out.
  by_cases hdirect : modeByte = 0x42
  · subst hdirect
    by_cases hfits : fitsDirect flags = true <;>
      simp [hfits, directMode, compressedFlag]
  · by_cases hmultiplied : modeByte = 0x43
    · subst hmultiplied
      by_cases hfits : fitsMultiplied flags = true <;>
        simp [hfits, directMode, multipliedMode, compressedFlag, lotFlag]
    · simp [hdirect, hmultiplied, directMode, multipliedMode]

theorem Form.ofBytes_modeByte_flags (form : Form) :
    Form.ofBytes form.modeByte form.flags = .ok form :=
  ofBytes_eq_ok_iff_isCode.mpr ⟨form.isCode, form.ofCode_modeByte_flags⟩

theorem Form.ofBytes_eq_ok_iff {modeByte flags : UInt8} {form : Form} :
    Form.ofBytes modeByte flags = .ok form ↔ form.modeByte = modeByte ∧ form.flags = flags := by
  refine ⟨fun h => ?_, fun h => ?_⟩
  · obtain ⟨hcode, rfl⟩ := ofBytes_eq_ok_iff_isCode.mp h
    exact hcode.eq_ofCode
  · obtain ⟨rfl, rfl⟩ := h
    exact form.ofBytes_modeByte_flags

/-! ## Fields -/

theorem fields_of_payload (payload : FixedBytes payloadSize) :
    payload.toList = payload.byte 0 :: payload.byte 1 :: payload.byte 2 ::
      ((payload.slice 3 4).toList ++ (payload.slice 7 32).toList) := by
  have hend : payload.toList.drop 39 = [] := List.drop_eq_nil_iff.mpr (by simp [payloadSize])
  rw [← List.drop_zero (l := payload.toList), payload.drop_eq_byte_cons 0 (by decide),
    payload.drop_eq_byte_cons 1 (by decide), payload.drop_eq_byte_cons 2 (by decide),
    payload.drop_eq_slice_append 3 4 (by decide), payload.drop_eq_slice_append 7 32 (by decide),
    hend, List.append_nil]

theorem ofPayload_eq_ok_iff {network : NetworkParameters} {payload : FixedBytes payloadSize}
    {key : EncryptedKey} :
    ofPayload network payload = .ok key ↔ payload.toList = key.payload ∧ key.network = network := by
  rw [fields_of_payload, EncryptedKey.payload, ofPayload]
  refine ⟨fun h => ?_, fun h => ?_⟩
  · split at h
    · next hmarker =>
      obtain ⟨form, hform, hkey⟩ := bind_eq_ok_iff.mp h
      obtain ⟨hmode, hflags⟩ := Form.ofBytes_eq_ok_iff.mp hform
      obtain rfl := pure_eq_ok_iff.mp hkey
      simp [hmarker, hmode, hflags]
    · cases h
  · obtain ⟨hbytes, rfl⟩ := h
    simp only [List.cons_append, List.nil_append, List.cons.injEq] at hbytes
    obtain ⟨hmarker, hmode, hflags, hrest⟩ := hbytes
    obtain ⟨hhash, hcontent⟩ := List.append_inj hrest (by simp [payloadSize])
    rw [if_pos hmarker, hmode, hflags, Form.ofBytes_modeByte_flags, FixedBytes.ext hhash,
      FixedBytes.ext hcontent]
    rfl

/-- **An encrypted key is read from its text only.** -/
theorem decode_eq_ok_iff {network : NetworkParameters} {text : String} {key : EncryptedKey} :
    decode network text = .ok key ↔ text = key.encode ∧ key.network = network := by
  have hsize : FixedBytes.ofList? key.payload = some ⟨key.payload, key.length_payload⟩ :=
    FixedBytes.ofList?_eq_some_iff.mpr rfl
  simp only [decode, bind_eq_ok_iff, Base58.decodeChecked_eq_ok_iff]
  refine ⟨fun h => ?_, fun h => ?_⟩
  · obtain ⟨bytes, rfl, h⟩ := h
    split at h
    · next payload hpayload =>
      obtain ⟨hbytes, hnetwork⟩ := ofPayload_eq_ok_iff.mp h
      rw [FixedBytes.ofList?_eq_some_iff.mp hpayload, hbytes]
      exact ⟨rfl, hnetwork⟩
    · cases h
  · obtain ⟨rfl, hnetwork⟩ := h
    refine ⟨key.payload, rfl, ?_⟩
    rw [hsize]
    exact ofPayload_eq_ok_iff.mpr ⟨rfl, hnetwork⟩

theorem decode_of_length_ne {payload : Bytes} (network : NetworkParameters)
    (h : payload.length ≠ payloadSize) :
    decode network (Base58.encodeChecked payload) =
      .error (.invalidLength (.encryptedKeyPayload payload.length)) := by
  have hsize : (FixedBytes.ofList? payload : Option (FixedBytes payloadSize)) = none := dif_neg h
  rw [decode, Base58.decodeChecked_encodeChecked]
  refine bind_eq_error_iff.mpr (.inr ⟨payload, rfl, ?_⟩)
  rw [hsize]

end CoinKeys.EncryptedKey
