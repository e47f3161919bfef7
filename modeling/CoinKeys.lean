import CoinKeys.Address.Basic
import CoinKeys.Address.Legacy
import CoinKeys.Address.Parse
import CoinKeys.Address.Script
import CoinKeys.Address.Segwit
import CoinKeys.Base58
import CoinKeys.Bech32
import CoinKeys.Bech32.Parts
import CoinKeys.Bech32.Residue
import CoinKeys.BitGroups
import CoinKeys.Bytes
import CoinKeys.Cipher.Aes256
import CoinKeys.Cipher.Byte
import CoinKeys.Curve.Field
import CoinKeys.Curve.Point
import CoinKeys.Curve.PublicKey
import CoinKeys.Curve.Scalar
import CoinKeys.Derivation.Pbkdf2
import CoinKeys.Derivation.Salsa
import CoinKeys.Derivation.Scrypt
import CoinKeys.Digest.Ripemd160
import CoinKeys.Digest.Sha256
import CoinKeys.Digest.Word
import CoinKeys.EncryptedKey.Basic
import CoinKeys.EncryptedKey.Encryption
import CoinKeys.EncryptedKey.Search
import CoinKeys.Error
import CoinKeys.Json
import CoinKeys.Network.Configuration
import CoinKeys.Network.Parameters
import CoinKeys.Network.Registry
import CoinKeys.Network.Scope
import CoinKeys.Network.WellKnown
import CoinKeys.Positional
import CoinKeys.PrivateKey
import CoinKeys.Proofs.Address.AnyNetwork
import CoinKeys.Proofs.Address.Basic
import CoinKeys.Proofs.Address.Invariant
import CoinKeys.Proofs.Address.Legacy
import CoinKeys.Proofs.Address.Mistyped
import CoinKeys.Proofs.Address.Order
import CoinKeys.Proofs.Address.Parse
import CoinKeys.Proofs.Address.Script
import CoinKeys.Proofs.Address.ScriptForm
import CoinKeys.Proofs.Address.Segwit
import CoinKeys.Proofs.Address.Spelling
import CoinKeys.Proofs.Base58
import CoinKeys.Proofs.Base58.Spelling
import CoinKeys.Proofs.Bech32.Case
import CoinKeys.Proofs.Bech32.Distance
import CoinKeys.Proofs.Bech32.Offender
import CoinKeys.Proofs.Bech32.Parts
import CoinKeys.Proofs.Bech32.Place
import CoinKeys.Proofs.Bech32.Rejection
import CoinKeys.Proofs.Bech32.Residue
import CoinKeys.Proofs.Bech32.Substitution
import CoinKeys.Proofs.Bech32.Text
import CoinKeys.Proofs.BitGroups
import CoinKeys.Proofs.BitGroups.BitString
import CoinKeys.Proofs.Bytes
import CoinKeys.Proofs.Cipher.Aes256
import CoinKeys.Proofs.Cipher.Byte
import CoinKeys.Proofs.Curve.Multiplication
import CoinKeys.Proofs.Curve.Order
import CoinKeys.Proofs.Curve.Scalar
import CoinKeys.Proofs.Derivation.Scrypt
import CoinKeys.Proofs.EncryptedKey.Container
import CoinKeys.Proofs.EncryptedKey.Decryption
import CoinKeys.Proofs.EncryptedKey.Direct
import CoinKeys.Proofs.EncryptedKey.Lock
import CoinKeys.Proofs.EncryptedKey.Multiplied
import CoinKeys.Proofs.EncryptedKey.Network
import CoinKeys.Proofs.EncryptedKey.Passphrase
import CoinKeys.Proofs.EncryptedKey.Search
import CoinKeys.Proofs.EncryptedKey.Shape
import CoinKeys.Proofs.EncryptedKey.Text
import CoinKeys.Proofs.Formats
import CoinKeys.Proofs.Network.Configuration
import CoinKeys.Proofs.Network.Expected
import CoinKeys.Proofs.Network.Order
import CoinKeys.Proofs.Network.RegistrationOrder
import CoinKeys.Proofs.Network.Registry
import CoinKeys.Proofs.Network.Resolution
import CoinKeys.Proofs.Network.SharedVersion
import CoinKeys.Proofs.Network.WellKnown
import CoinKeys.Proofs.Numeral
import CoinKeys.Proofs.Outcome
import CoinKeys.Proofs.PrivateKey
import CoinKeys.Proofs.Text.First
import CoinKeys.Proofs.Text.Lowercase
import CoinKeys.Proofs.Text.Offset
import CoinKeys.Text.Cased
import CoinKeys.Text.CombiningClass
import CoinKeys.Text.Composed
import CoinKeys.Text.Composition
import CoinKeys.Text.Decomposition
import CoinKeys.Text.Lowercase
import CoinKeys.Text.Offset
import CoinKeys.Text.Quoted
import CoinKeys.Text.Table
import CoinKeys.Text.Unprintable
