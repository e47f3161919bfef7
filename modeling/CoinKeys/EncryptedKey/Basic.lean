import CoinKeys.PrivateKey

/-!
# Encrypted private keys

A private key that is protected by a passphrase (BIP38) takes thirty-nine bytes in checked base 58:

| size | what it holds |
|---|---|
| 1 | the number one |
| 1 | the mode |
| 1 | the flags |
| 4 | a hash of the address of the key |
| 32 | the encrypted content |

Mode and flags say in one of six ways how the content was made (`Form`). Reading checks the length,
the first byte, the mode and the flags, in this order. Which bits of the flags may be set depends on
the mode.
-/

namespace CoinKeys

/-- What the content of an encrypted key holds. -/
inductive EncryptedKey.Mode
  /-- The encrypted private key itself. -/
  | direct
  /-- Entropy of the owner and an encrypted seed. The private key is the product of a factor from
  the passphrase and a factor from the seed; the entropy may hold a lot and a sequence number. -/
  | multiplied (hasLot : Bool)
  deriving DecidableEq, Hashable, Repr

/-- How the content of an encrypted key was made, and whether the key has the short form of public
keys. -/
structure EncryptedKey.Form where
  /-- What the content holds. -/
  mode : EncryptedKey.Mode
  /-- Whether the public key of the key is written in the short form. -/
  compressed : Bool
  deriving DecidableEq, Hashable, Repr

/-- An encrypted private key on a network. -/
structure EncryptedKey where
  /-- The network. -/
  network : NetworkParameters
  /-- How the content was made. -/
  form : EncryptedKey.Form
  /-- The hash of the address of the key. -/
  addressHash : FixedBytes 4
  /-- The encrypted content. -/
  content : FixedBytes 32
  deriving BEq, Hashable

namespace EncryptedKey

/-! ## Mode and flags -/

/-- The mode byte of direct mode. -/
def directMode : UInt8 := 0x42

/-- The mode byte of multiplied mode. -/
def multipliedMode : UInt8 := 0x43

/-- The two bits of the flags that are set in direct mode, and only there. -/
def directFlag : UInt8 := 0xc0

/-- The bit of the flags for the short form of public keys. -/
def compressedFlag : UInt8 := 0x20

/-- The bit of the flags for a lot and a sequence number. -/
def lotFlag : UInt8 := 0x04

/-- The mode byte. -/
def Form.modeByte (form : Form) : UInt8 :=
  match form.mode with
  | .direct => directMode
  | .multiplied _ => multipliedMode

/-- The flags. -/
def Form.flags (form : Form) : UInt8 :=
  let short := if form.compressed then compressedFlag else 0
  match form.mode with
  | .direct => directFlag ||| short
  | .multiplied hasLot => (if hasLot then lotFlag else 0) ||| short

/-- Whether flags may stand in direct mode: both of its bits are set, and otherwise that for the
short form at most. -/
def fitsDirect (flags : UInt8) : Bool :=
  flags &&& directFlag == directFlag && flags &&& ~~~(directFlag ||| compressedFlag) == 0

/-- Whether flags may stand in multiplied mode: at most the bits for the short form and for a lot are
set. -/
def fitsMultiplied (flags : UInt8) : Bool :=
  flags &&& ~~~(compressedFlag ||| lotFlag) == 0

/-- The form with a mode byte and flags. -/
def Form.ofBytes (modeByte flags : UInt8) : Except Error Form :=
  let compressed := flags &&& compressedFlag != 0
  if modeByte = directMode then
    if fitsDirect flags then .ok ⟨.direct, compressed⟩ else .error (.invalidFlags flags)
  else if modeByte = multipliedMode then
    if fitsMultiplied flags then .ok ⟨.multiplied (flags &&& lotFlag != 0), compressed⟩
    else .error (.invalidFlags flags)
  else .error (.invalidPrefix (.encryptedKeyMode modeByte))

/-! ## Text -/

/-- How many bytes an encrypted key takes. -/
def payloadSize : Nat := 39

/-- The first byte of every encrypted key. -/
def marker : UInt8 := 0x01

/-- The bytes of an encrypted key. -/
def payload (key : EncryptedKey) : Bytes :=
  [marker, key.form.modeByte, key.form.flags] ++ key.addressHash.toList ++ key.content.toList

/-- The text of an encrypted key. -/
def encode (key : EncryptedKey) : String :=
  Base58.encodeChecked key.payload

/-- The encrypted key with the given bytes. -/
def ofPayload (network : NetworkParameters) (payload : FixedBytes payloadSize) :
    Except Error EncryptedKey :=
  if payload.byte 0 = marker then do
    let form ← Form.ofBytes (payload.byte 1) (payload.byte 2)
    return ⟨network, form, payload.slice 3 4, payload.slice 7 32⟩
  else .error (.invalidPrefix (.encryptedKey (payload.byte 0)))

/-- The encrypted key that a text spells. -/
def decode (network : NetworkParameters) (text : String) : Except Error EncryptedKey := do
  let bytes ← Base58.decodeChecked text
  match FixedBytes.ofList? bytes with
  | some payload => ofPayload network payload
  | none => .error (.invalidLength (.encryptedKeyPayload bytes.length))

/-! ## Parts of the content -/

/-- The entropy of the owner. -/
def entropy (key : EncryptedKey) : FixedBytes 8 :=
  key.content.slice 0 8

/-- The lot and the sequence number that the entropy holds, in twenty and twelve bits. -/
def lotSequence (key : EncryptedKey) : Option (Nat × Nat) :=
  match key.form.mode with
  | .multiplied true =>
    let number := (key.entropy.slice 4 4).toNat
    some (number / 4096, number % 4096)
  | _ => none

/-- The hash of an address that is stored with the key. -/
def hashOfAddress (address : String) : FixedBytes 4 :=
  (Sha256.double (Text.utf8 address)).slice 0 4

end EncryptedKey

end CoinKeys
