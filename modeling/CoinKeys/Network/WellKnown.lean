import CoinKeys.Error
import CoinKeys.Network.Parameters
import CoinKeys.Text.Lowercase

/-!
# Well-known networks

Three networks are known by name: the production network, the public test network and the local test
network. Names are read in any case, and the first two networks have a second name each.
-/

namespace CoinKeys

/-- A well-known network. -/
inductive Network
  /-- The production network. -/
  | tdcoin
  /-- The public test network. -/
  | testnet
  /-- The local test network. -/
  | regtest
  deriving DecidableEq, Hashable, Ord, Repr

namespace Network

/-- The parameters of a network. -/
def params : Network → NetworkParameters
  | tdcoin => .mainnet
  | testnet => .testnet
  | regtest => .regtest

/-- The name that is written. -/
def name : Network → String
  | tdcoin => "tdcoin"
  | testnet => "testnet"
  | regtest => "regtest"

/-- Every well-known network. -/
def all : List Network := [tdcoin, testnet, regtest]

/-- The network whose parameters have an id. -/
def ofId? (id : String) : Option Network :=
  all.find? (·.params.id == id)

@[simp] theorem ofId?_id (network : Network) : ofId? network.params.id = some network := by
  cases network <;> decide

/-- The network that is written by a name. -/
def ofName? (name : String) : Option Network :=
  all.find? (·.name == name)

@[simp] theorem ofName?_name (network : Network) : ofName? network.name = some network := by
  cases network <;> decide

/-- The second name of a network. -/
def alias? : Network → Option String
  | tdcoin => some "mainnet"
  | testnet => some "test"
  | regtest => none

/-- Whether a lower-case name is one of the network's. -/
def answersTo (network : Network) (name : String) : Bool :=
  network.name == name || network.alias? == some name

/-- The network with a name, in any case. -/
def parse (text : String) : Except NetworkError Network :=
  match all.find? (·.answersTo (Text.lowercase text)) with
  | some network => .ok network
  | none => .error (.unknownNetwork text)

end Network

end CoinKeys
