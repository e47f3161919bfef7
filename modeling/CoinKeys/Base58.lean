import CoinKeys.Digest.Sha256
import CoinKeys.Error
import CoinKeys.Text.Offset

/-!
# Base 58

Bytes are written as a base 58 numeral over an alphabet without the look-alikes `0`, `O`, `I` and
`l`; each leading zero byte becomes a leading `1`. Every text over the alphabet is the spelling of
exactly one byte string.

The checked form appends the first four bytes of the double SHA-256 hash of the payload before
writing it, and refuses data that does not end with them.
-/

namespace CoinKeys.Base58

/-- The digits, least first. -/
def alphabet : List Char :=
  "123456789ABCDEFGHJKLMNPQRSTUVWXYZabcdefghijkmnopqrstuvwxyz".toList

/-- The value of a digit. -/
def digit? (c : Char) : Option Nat :=
  alphabet.findIdx? (· == c)

/-- The digit of a value below 58. -/
def digitChar (value : Nat) : Char :=
  alphabet.getD value '1'

/-- The base 58 text of a byte string. -/
def encode (data : Bytes) : String :=
  String.ofList ((Positional.convert 256 58 (data.map UInt8.toNat)).map digitChar)

/-- The byte string that a base 58 text spells. The first character outside the alphabet is
reported with its place. -/
def decode (text : String) : Except Error Bytes :=
  match Text.findOffset? (fun c => (digit? c).isNone) text.toList with
  | some place => .error (.invalidCharacter place.char place.offset)
  | none =>
    .ok ((Positional.convert 58 256 (text.toList.filterMap digit?)).map UInt8.ofNat)

/-! ## The checked form -/

/-- How many bytes a checksum takes. -/
def checksumSize : Nat := 4

/-- The first four bytes of the double SHA-256 hash. -/
def checksum (payload : Bytes) : FixedBytes checksumSize :=
  (Sha256.double payload).slice 0 checksumSize

/-- The base 58 text of a payload followed by its checksum. -/
def encodeChecked (payload : Bytes) : String :=
  encode (payload ++ (checksum payload).toList)

/-- Split the checksum off and compare it. -/
def verifyChecksum (data : Bytes) : Except Error Bytes :=
  if data.length < checksumSize then .error (.invalidLength (.checksummedData data.length))
  else
    let payload := data.take (data.length - checksumSize)
    if (checksum payload).toList = data.drop (data.length - checksumSize) then .ok payload
    else .error .invalidChecksum

/-- The payload that a checked base 58 text spells. -/
def decodeChecked (text : String) : Except Error Bytes :=
  decode text >>= verifyChecksum

end CoinKeys.Base58
