import CoinKeys.Address.Basic

/-!
# Output scripts

Money is paid to an address by an output script. A legacy address has the script that compares the
hash of what is presented; a segwit address has a script of two pushes, its version and its program.
-/

namespace CoinKeys

/-- The standard shapes of output scripts. -/
inductive OutputScriptType
  /-- Pays to the hash of a public key. -/
  | p2pkh
  /-- Pays to the hash of a script. -/
  | p2sh
  /-- Pays to a witness program that is the hash of a public key. -/
  | p2wpkh
  /-- Pays to a witness program that is the hash of a script. -/
  | p2wsh
  /-- Pays to any other witness program. -/
  | witnessUnknown
  deriving DecidableEq, Repr

/-! ## Opcodes -/

namespace Opcode

/-- Push nothing, the number zero. -/
def push0 : UInt8 := 0x00

/-- Push the number one; the numbers up to sixteen follow. -/
def push1 : UInt8 := 0x51

/-- Duplicate the top of the stack. -/
def dup : UInt8 := 0x76

/-- Compare the two top elements. -/
def equal : UInt8 := 0x87

/-- Compare the two top elements and stop if they differ. -/
def equalVerify : UInt8 := 0x88

/-- Hash the top element by SHA-256 and RIPEMD-160. -/
def hash160 : UInt8 := 0xa9

/-- Check a signature. -/
def checkSig : UInt8 := 0xac

/-- Push a number of at most sixteen. -/
def pushNumber (n : UInt8) : UInt8 := if n = 0 then push0 else push1 + n - 1

/-- Push a string of at most seventy-five bytes. -/
def pushBytes (bytes : Bytes) : Bytes := UInt8.ofNat bytes.length :: bytes

end Opcode

/-! ## Scripts of addresses -/

namespace Address

/-- The shape of the script that pays to an address. -/
def scriptType : Address → OutputScriptType
  | legacy address => if address.isP2sh then .p2sh else .p2pkh
  | segwit address =>
    if address.witnessVersion = 0 && address.program.length = 20 then .p2wpkh
    else if address.witnessVersion = 0 && address.program.length = 32 then .p2wsh
    else .witnessUnknown

/-- The script that pays to an address. -/
def script : Address → Bytes
  | legacy address =>
    let hash := Opcode.pushBytes address.hash.toList
    if address.isP2sh then Opcode.hash160 :: hash ++ [Opcode.equal]
    else Opcode.dup :: Opcode.hash160 :: hash ++ [Opcode.equalVerify, Opcode.checkSig]
  | segwit address =>
    Opcode.pushNumber address.witnessVersion :: Opcode.pushBytes address.program

end Address

end CoinKeys
