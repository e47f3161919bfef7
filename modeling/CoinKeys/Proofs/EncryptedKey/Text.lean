import CoinKeys.Proofs.EncryptedKey.Direct

/-!
# The texts of encrypted keys

Reading and writing an encrypted key are inverse to each other (`decode_eq_ok_iff`). Here the texts
are told without the writer: a text is accepted exactly when it is the checked text of thirty-nine
bytes that hold the number one, one of six pairs of a mode byte and flags, four bytes of an address
hash and thirty-two bytes of content.

**Theorem (`decode_iff_fields`).** Such a text, and no other one, is read, as the key that holds
these fields on the network that the reader was given. What is read or encrypted is read again from
its own text.
-/

namespace CoinKeys.EncryptedKey

/-- The checked text of the number one, a mode byte, flags, an address hash and content. -/
def textOf (modeByte flags : UInt8) (addressHash : FixedBytes 4) (content : FixedBytes 32) :
    String :=
  Base58.encodeChecked ([0x01, modeByte, flags] ++ addressHash.toList ++ content.toList)

theorem encode_of_isCode {modeByte flags : UInt8} (h : Form.IsCode modeByte flags)
    (network : NetworkParameters) (addressHash : FixedBytes 4) (content : FixedBytes 32) :
    encode ⟨network, .ofCode modeByte flags, addressHash, content⟩ =
      textOf modeByte flags addressHash content := by
  obtain ⟨hmodeByte, hflags⟩ := h.eq_ofCode
  rw [encode, payload, textOf, hmodeByte, hflags, marker]

theorem decode_eq_ok_iff_isCode {network : NetworkParameters} {text : String}
    {key : EncryptedKey} :
    decode network text = .ok key ↔
      ∃ modeByte flags addressHash content, Form.IsCode modeByte flags ∧
        text = textOf modeByte flags addressHash content ∧
        key = ⟨network, .ofCode modeByte flags, addressHash, content⟩ := by
  rw [decode_eq_ok_iff]
  refine ⟨fun h => ?_, fun h => ?_⟩
  · obtain ⟨rfl, rfl⟩ := h
    have hcode := key.form.isCode
    have hform := key.form.ofCode_modeByte_flags
    have hkey : key = ⟨key.network, .ofCode key.form.modeByte key.form.flags, key.addressHash,
        key.content⟩ := by
      rw [hform]
    refine ⟨key.form.modeByte, key.form.flags, key.addressHash, key.content, hcode, ?_, hkey⟩
    rw [← encode_of_isCode hcode key.network, ← hkey]
  · obtain ⟨modeByte, flags, addressHash, content, hcode, rfl, rfl⟩ := h
    exact ⟨(encode_of_isCode hcode network addressHash content).symm, rfl⟩

/-- **The texts of encrypted keys are those of six kinds of thirty-nine bytes, and each is read as
the key that holds its fields.** A key that is read has the text that it was read from, and so has a
key that encryption makes. -/
theorem decode_iff_fields (network : NetworkParameters) :
    (∀ text key, decode network text = .ok key ↔
      ∃ modeByte flags addressHash content, Form.IsCode modeByte flags ∧
        text = textOf modeByte flags addressHash content ∧
        key = ⟨network, .ofCode modeByte flags, addressHash, content⟩) ∧
    (∀ modeByte flags, Form.IsCode modeByte flags →
      (Form.ofCode modeByte flags).modeByte = modeByte ∧
        (Form.ofCode modeByte flags).flags = flags) ∧
    (∀ text key, decode network text = .ok key →
      key.encode = text ∧ decode network key.encode = .ok key) ∧
    ∀ secret passphrase key, encrypt secret passphrase network = .ok key →
      decode network key.encode = .ok key := by
  refine ⟨fun text key => decode_eq_ok_iff_isCode, fun modeByte flags h => h.eq_ofCode, ?_, ?_⟩
  · intro text key hread
    obtain ⟨rfl, -⟩ := decode_eq_ok_iff.mp hread
    exact ⟨rfl, hread⟩
  · intro secret passphrase key hencrypt
    obtain ⟨hnetwork, -⟩ := encrypt_eq_ok_iff.mp hencrypt
    exact decode_eq_ok_iff.mpr ⟨rfl, hnetwork⟩

/-- A text in direct mode for the long form of public keys. -/
theorem decode_iff_fields_direct :
    Form.IsCode 0x42 0xc0 ∧ (Form.ofCode 0x42 0xc0).modeByte = 0x42 ∧
    (∃ key, decode .mainnet "6PRVWUbkzzsbcVac2qwfssoUJAN1Xhrg6bNk8J7Nzm5H7kxEbn2Nh2ZoGg" = .ok key ∧
      key.form = ⟨.direct, false⟩ ∧ key.addressHash = .ofNat 4 0xe957a24a ∧
      key.encode = "6PRVWUbkzzsbcVac2qwfssoUJAN1Xhrg6bNk8J7Nzm5H7kxEbn2Nh2ZoGg") ∧
    ∃ key, encrypt ⟨⟨1, by decide, by decide⟩, true⟩ "Satoshi" .mainnet = .ok key ∧
      decode .mainnet key.encode = .ok key := by
  obtain ⟨haccepted, hcodes, hread, hencrypted⟩ := decode_iff_fields .mainnet
  have hcode : Form.IsCode 0x42 0xc0 := .inl ⟨rfl, by decide⟩
  have htext : "6PRVWUbkzzsbcVac2qwfssoUJAN1Xhrg6bNk8J7Nzm5H7kxEbn2Nh2ZoGg" =
      textOf 0x42 0xc0 (.ofNat 4 0xe957a24a)
        (.ofNat 32 0xd357fafb81c71f8375a9a4d0ac02bad5f6c87c4b459fabe34c0c314b33708ec3) := by
    decide +kernel
  have hdecode := (haccepted _ _).mpr ⟨_, _, _, _, hcode, htext, rfl⟩
  obtain ⟨key, hkey⟩ := exists_encrypt_eq_ok ⟨⟨1, by decide, by decide⟩, true⟩ "Satoshi" .mainnet
  refine ⟨hcode, (hcodes _ _ hcode).1, ⟨_, hdecode, rfl, rfl, (hread _ _ hdecode).1⟩, key, hkey, ?_⟩
  exact hencrypted _ _ _ hkey

end CoinKeys.EncryptedKey
