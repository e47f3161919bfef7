import CoinKeys.Text.Quoted

/-!
# Errors

What can be wrong with a text, a key or a network, as causes: every constructor names one fault and
carries what its message shows. `Error.message` and `NetworkError.message` are the wording.
-/

namespace CoinKeys

/-- What is wrong with a set of networks, or with the name of one. -/
inductive NetworkError
  /-- The network `id` would share addresses with the registered network `existing`. -/
  | conflict (id existing : String)
  /-- No well-known network has this name. -/
  | unknownNetwork (name : String)
  deriving DecidableEq, Repr

/-- A length that a format does not allow. Lengths are in bytes. -/
inductive LengthFault
  /-- Decoded base 58 data that cannot hold a checksum. -/
  | checksummedData (found : Nat)
  /-- A Bech32 text outside the limits. -/
  | bech32Text (found : Nat)
  /-- A Bech32 text whose data part cannot hold a checksum. -/
  | bech32Data
  /-- A human-readable part that is empty or too long. -/
  | humanReadablePart
  /-- The payload of a legacy address. -/
  | legacyPayload (found : Nat)
  /-- A segwit address without a witness version. -/
  | noWitnessVersion
  /-- A witness program outside the limits. -/
  | witnessProgram (found : Nat)
  /-- A witness program of version 0 that is neither a key hash nor a script hash. -/
  | witnessProgramVersion0 (found : Nat)
  /-- The payload of a private key. -/
  | privateKeyPayload (found : Nat)
  /-- The payload of an encrypted private key. -/
  | encryptedKeyPayload (found : Nat)
  deriving DecidableEq, Repr

/-- A leading part that no format or no network starts with. -/
inductive PrefixFault
  /-- A Bech32 text without separator. -/
  | noSeparator
  /-- A Bech32 text that starts with its separator. -/
  | noHumanReadablePart
  /-- No registered network uses the version byte for addresses. -/
  | unknownVersion (version : UInt8)
  /-- No registered network uses the human-readable part. -/
  | unknownHrp (hrp : String)
  /-- The network has no segwit addresses. -/
  | noSegwit (network : String)
  /-- The network's human-readable part is not one that Bech32 allows. -/
  | invalidHrp (hrp : String)
  /-- No registered network uses the version byte for private keys. -/
  | unknownKeyVersion (version : UInt8)
  /-- The first byte of an encrypted private key. -/
  | encryptedKey (byte : UInt8)
  /-- The mode byte of an encrypted private key. -/
  | encryptedKeyMode (byte : UInt8)
  deriving DecidableEq, Repr

/-- A valid text, or a version byte, that belongs to another network than the one expected. -/
inductive ForeignFault
  /-- An address is made with a version byte that is not the network's. -/
  | notOwnVersion (version : UInt8) (network : String)
  /-- An address has a version byte that is not the network's. -/
  | version (version : UInt8) (network : String)
  /-- An address has a human-readable part that is not the network's. -/
  | hrp (hrp network : String)
  /-- A private key has a version byte that is not the network's. -/
  | keyVersion (version : UInt8) (network : String)
  deriving DecidableEq, Repr

/-- A failed key derivation or block cipher. -/
inductive DerivationFault
  /-- Cost parameters outside what scrypt allows. -/
  | scryptParameters
  /-- A cipher key that is not 32 bytes long. -/
  | cipherKey (found : Nat)
  deriving DecidableEq, Repr

/-- A value that is no key of the curve. -/
inductive CurveFault
  /-- Bytes that are no secret key. -/
  | secretKey
  /-- Bytes that are no public key. -/
  | publicKey
  /-- A factor that is zero or not below the order of the curve. -/
  | factor
  deriving DecidableEq, Repr

/-- Why an address or a key could not be read or written. -/
inductive Error
  /-- A character that may not stand where it does, and the number of bytes before it. -/
  | invalidCharacter (char : Char) (offset : Nat)
  /-- The checksum does not belong to the data. -/
  | invalidChecksum
  /-- A part has a length that the format does not allow. -/
  | invalidLength (fault : LengthFault)
  /-- The leading part belongs to no format or no known network. -/
  | invalidPrefix (fault : PrefixFault)
  /-- The text belongs to another network. -/
  | wrongNetwork (fault : ForeignFault)
  /-- A witness version that does not exist. -/
  | invalidWitnessVersion (version : UInt8)
  /-- Bits left over after regrouping are not all zero. -/
  | nonZeroPadding
  /-- A whole group is left over after regrouping. -/
  | invalidPadding
  /-- A value does not fit its group, or a marker byte is not one. -/
  | invalidData (value : UInt8)
  /-- Flags that the mode of an encrypted key does not allow. -/
  | invalidFlags (flags : UInt8)
  /-- The passphrase does not unlock the key. -/
  | badPassphrase
  /-- Key derivation or encryption failed. -/
  | derivation (fault : DerivationFault)
  /-- A value is no key of the curve. -/
  | curve (fault : CurveFault)
  /-- A set of networks is refused. -/
  | network (fault : NetworkError)
  /-- A passphrase search without any thread. -/
  | noThreads
  deriving DecidableEq, Repr

/-! ## Wording -/

open Text

/-- The message for an error about networks. -/
def NetworkError.message : NetworkError → String
  | .conflict id existing => s!"Network {id} collides with registered network {existing}"
  | .unknownNetwork name => s!"Unknown network type: {name}"

/-- The detail of a message about a length. -/
def LengthFault.detail : LengthFault → String
  | .checksummedData found => s!"{found} bytes is too short for a checksummed payload"
  | .bech32Text found => s!"bech32 string of {found} characters is outside 8..=90"
  | .bech32Data => "data part shorter than the checksum"
  | .humanReadablePart => "invalid human-readable part or data length"
  | .legacyPayload found => s!"legacy address payload of {found} bytes, expected 21"
  | .noWitnessVersion => "missing witness version"
  | .witnessProgram found => s!"witness program of {found} bytes is outside 2..=40"
  | .witnessProgramVersion0 found =>
    s!"version 0 witness program of {found} bytes, expected 20 or 32"
  | .privateKeyPayload found => s!"WIF payload of {found} bytes, expected 33 or 34"
  | .encryptedKeyPayload found => s!"BIP38 payload of {found} bytes, expected 39"

/-- The detail of a message about a leading part. -/
def PrefixFault.detail : PrefixFault → String
  | .noSeparator => "missing separator"
  | .noHumanReadablePart => "missing human-readable part"
  | .unknownVersion version => s!"no known network uses version {version}"
  | .unknownHrp hrp => "no known network uses hrp " ++ quoteString hrp
  | .noSegwit network => s!"network {network} has no segwit hrp"
  | .invalidHrp hrp => "invalid segwit hrp " ++ quoteString hrp
  | .unknownKeyVersion version => s!"unknown WIF version {version}"
  | .encryptedKey byte => "BIP38 prefix 0x" ++ hexByte byte
  | .encryptedKeyMode byte => "BIP38 mode 0x" ++ hexByte byte

/-- The detail of a message about another network. -/
def ForeignFault.detail : ForeignFault → String
  | .notOwnVersion byte network =>
    s!"version {byte} is not a legacy address version of {network}"
  | .version byte network => s!"version {byte} does not belong to {network}"
  | .hrp text network => "hrp " ++ quoteString text ++ s!" does not belong to {network}"
  | .keyVersion byte network => s!"WIF version {byte} is not used by {network}"

/-- The detail of a message about key derivation. -/
def DerivationFault.detail : DerivationFault → String
  | .scryptParameters => "invalid scrypt parameters: invalid scrypt parameters"
  | .cipherKey found => s!"AES-256 key must be 32 bytes, got {found}"

/-- The detail of a message about the curve. -/
def CurveFault.detail : CurveFault → String
  | .secretKey => "malformed or out-of-range secret key"
  | .publicKey => "malformed public key"
  | .factor => "bad tweak"

/-- The message for an error. -/
def Error.message : Error → String
  | .invalidCharacter char offset =>
    "Invalid character " ++ quoteChar char ++ s!" at position {offset}"
  | .invalidChecksum => "Checksum does not validate"
  | .invalidLength fault => "Invalid data length: " ++ fault.detail
  | .invalidPrefix fault => "Invalid prefix: " ++ fault.detail
  | .wrongNetwork fault => "Address belongs to a different network: " ++ fault.detail
  | .invalidWitnessVersion version => s!"Invalid witness version: {version}"
  | .nonZeroPadding => "Non-zero padding in bit conversion"
  | .invalidPadding => "Excess padding in bit conversion"
  | .invalidData value => s!"Invalid data value: {value}"
  | .invalidFlags flags => "Invalid BIP38 flags: 0x" ++ hexByte flags
  | .badPassphrase => "Bad passphrase"
  | .derivation fault => "Key derivation error: " ++ fault.detail
  | .curve fault => "Secp256k1 error: " ++ fault.detail
  | .network fault => "Network error: " ++ fault.message
  | .noThreads => "Configuration error: passphrase search needs at least one thread"

end CoinKeys
