import CoinKeys.Proofs.Address.Legacy
import CoinKeys.Proofs.EncryptedKey.Container
import CoinKeys.Proofs.PrivateKey

/-!
# The formats of checked texts

Legacy addresses, private keys and encrypted keys are all written in checked base 58. A network may
have any version bytes, so the first byte of a payload tells nothing: private keys of one network
may start as the addresses of another one do, or as encrypted keys. What tells the formats apart is
the length of the payload, and every reader asks for it before it looks at any byte or network.

**Theorem (`refused_by_other_formats`).** A text that a reader of one format accepts is refused for
the length of its payload by every reader of another format, whatever networks the readers know.
-/

namespace CoinKeys

/-- A format of checked texts. -/
inductive CheckedFormat
  | legacyAddress
  | privateKey
  | encryptedKey
  deriving DecidableEq

namespace CheckedFormat

/-- What a text of the format spells. -/
def Value : CheckedFormat → Type
  | legacyAddress => LegacyAddress
  | privateKey => PrivateKey × NetworkParameters
  | encryptedKey => EncryptedKey

/-- How many bytes a payload of the format has. -/
def sizes : CheckedFormat → List Nat
  | legacyAddress => [21]
  | privateKey => [33, 34]
  | encryptedKey => [39]

/-- What is reported of a payload that has another size. -/
def misfit : CheckedFormat → Nat → LengthFault
  | legacyAddress => .legacyPayload
  | privateKey => .privateKeyPayload
  | encryptedKey => .encryptedKeyPayload

/-- The size of a payload belongs to one format at most. -/
theorem eq_of_mem_sizes {a b : CheckedFormat} {size : Nat} (ha : size ∈ a.sizes)
    (hb : size ∈ b.sizes) : a = b := by
  cases a <;> cases b <;> simp [sizes] at ha hb ⊢ <;> omega

end CheckedFormat

/-- A reader of a format, with what it knows about networks. -/
inductive CheckedReader
  | legacyAddress (registry : Registry) (expected : Option NetworkParameters)
  | privateKey (registry : Registry) (expected : Option NetworkParameters)
  | encryptedKey (network : NetworkParameters)

namespace CheckedReader

/-- The format that the reader reads. -/
def format : CheckedReader → CheckedFormat
  | legacyAddress _ _ => .legacyAddress
  | privateKey _ _ => .privateKey
  | encryptedKey _ => .encryptedKey

/-- What the reader makes of a text. -/
def read : (reader : CheckedReader) → String → Except Error reader.format.Value
  | legacyAddress registry expected => LegacyAddress.decode (.ofExpected registry expected)
  | privateKey registry expected => PrivateKey.decode (.ofExpected registry expected)
  | encryptedKey network => EncryptedKey.decode network

/-! ## Sizes of payloads -/

theorem exists_payload_of_read {reader : CheckedReader} {text : String}
    {value : reader.format.Value} (h : reader.read text = .ok value) :
    ∃ payload : Bytes, payload.length ∈ reader.format.sizes ∧
      text = Base58.encodeChecked payload := by
  cases reader with
  | legacyAddress registry expected =>
    obtain ⟨rfl, -⟩ := LegacyAddress.decode_eq_ok_iff.mp h
    exact ⟨_, by simp [format, CheckedFormat.sizes], rfl⟩
  | privateKey registry expected =>
    obtain ⟨key, network⟩ := value
    obtain ⟨rfl, -⟩ := PrivateKey.decode_eq_ok_iff.mp h
    refine ⟨_, ?_, PrivateKey.encode_eq key network⟩
    cases hcompressed : key.compressed <;>
      simp [PrivateKey.Stored.payload, PrivateKey.markerBytes, format, CheckedFormat.sizes]
  | encryptedKey network =>
    obtain ⟨rfl, -⟩ := EncryptedKey.decode_eq_ok_iff.mp h
    exact ⟨_, List.mem_singleton.mpr (EncryptedKey.length_payload _), rfl⟩

theorem read_of_not_mem_sizes {reader : CheckedReader} {payload : Bytes}
    (h : payload.length ∉ reader.format.sizes) :
    reader.read (Base58.encodeChecked payload) =
      .error (.invalidLength (reader.format.misfit payload.length)) := by
  cases reader with
  | legacyAddress registry expected =>
    have hne : payload.length ≠ 21 := by simpa [format, CheckedFormat.sizes] using h
    exact LegacyAddress.decode_of_length_ne (.ofExpected registry expected) hne
  | privateKey registry expected =>
    have hne : payload.length ≠ 33 ∧ payload.length ≠ 34 := by
      simpa [format, CheckedFormat.sizes] using h
    exact PrivateKey.decode_of_length_ne (.ofExpected registry expected) hne.1 hne.2
  | encryptedKey network =>
    have hne : payload.length ≠ 39 := by simpa [format, CheckedFormat.sizes] using h
    exact EncryptedKey.decode_of_length_ne network hne

/-- **A text of one format is refused by the readers of the others, for the length of its
payload.** So no text is accepted by readers of two formats. -/
theorem refused_by_other_formats {reader : CheckedReader} {text : String}
    {value : reader.format.Value} (h : reader.read text = .ok value) :
    ∃ size ∈ reader.format.sizes, ∀ other : CheckedReader, other.format ≠ reader.format →
      other.read text = .error (.invalidLength (other.format.misfit size)) ∧
        ∀ value, other.read text ≠ .ok value := by
  obtain ⟨payload, hsize, rfl⟩ := exists_payload_of_read h
  refine ⟨payload.length, hsize, fun other hformat => ?_⟩
  have hother : payload.length ∉ other.format.sizes := by
    intro hmem
    exact hformat (CheckedFormat.eq_of_mem_sizes hmem hsize)
  have hrefused := read_of_not_mem_sizes hother
  refine ⟨hrefused, fun value hvalue => ?_⟩
  rw [hrefused] at hvalue
  cases hvalue

/-- A network whose version bytes are all the first byte of encrypted keys. -/
theorem refused_by_other_formats_one :
    (CheckedReader.privateKey .defaults (some ⟨"one", 1, 1, 1, none⟩)).read
        (PrivateKey.encode ⟨⟨1, by decide, by decide⟩, true⟩ ⟨"one", 1, 1, 1, none⟩) =
      .ok (⟨⟨1, by decide, by decide⟩, true⟩, ⟨"one", 1, 1, 1, none⟩) ∧
    CheckedFormat.legacyAddress ≠ .privateKey ∧ CheckedFormat.encryptedKey ≠ .privateKey ∧
    ∃ size ∈ [33, 34],
      LegacyAddress.decode (.only ⟨"one", 1, 1, 1, none⟩)
          (PrivateKey.encode ⟨⟨1, by decide, by decide⟩, true⟩ ⟨"one", 1, 1, 1, none⟩) =
        .error (.invalidLength (.legacyPayload size)) ∧
      EncryptedKey.decode ⟨"one", 1, 1, 1, none⟩
          (PrivateKey.encode ⟨⟨1, by decide, by decide⟩, true⟩ ⟨"one", 1, 1, 1, none⟩) =
        .error (.invalidLength (.encryptedKeyPayload size)) := by
  have hread : (CheckedReader.privateKey .defaults (some ⟨"one", 1, 1, 1, none⟩)).read
      (PrivateKey.encode ⟨⟨1, by decide, by decide⟩, true⟩ ⟨"one", 1, 1, 1, none⟩) =
      .ok (⟨⟨1, by decide, by decide⟩, true⟩, ⟨"one", 1, 1, 1, none⟩) :=
    PrivateKey.decode_eq_ok_iff.mpr ⟨rfl, rfl⟩
  have hlegacy : CheckedFormat.legacyAddress ≠ .privateKey := by decide
  have hencrypted : CheckedFormat.encryptedKey ≠ .privateKey := by decide
  obtain ⟨size, hsize, hrefused⟩ := refused_by_other_formats hread
  have haddress := hrefused (.legacyAddress .defaults (some ⟨"one", 1, 1, 1, none⟩)) hlegacy
  have hlocked := hrefused (.encryptedKey ⟨"one", 1, 1, 1, none⟩) hencrypted
  exact ⟨hread, hlegacy, hencrypted, size, hsize, haddress.1, hlocked.1⟩

end CheckedReader

end CoinKeys
