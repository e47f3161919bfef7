import CoinKeys.Error
import CoinKeys.Network.Parameters

/-!
# Registry of networks

A registry holds at most one network for each id, in the order of the ids, and no two that collide.
Registering a network replaces the one with its id; a network that collides with another is refused.
A version byte or a human-readable part is resolved to the first network that claims it.
-/

namespace CoinKeys

/-- A set of networks. -/
structure Registry where
  /-- The networks in the order of their ids. -/
  networks : List NetworkParameters

namespace Registry

/-- The registry without networks. -/
def empty : Registry := ⟨[]⟩

/-- The registry of the production network and the public test network. -/
def defaults : Registry := ⟨[.mainnet, .testnet]⟩

/-! ## Changes -/

/-- Put a network into its place, in place of the one with its id. -/
def place (network : NetworkParameters) : List NetworkParameters → List NetworkParameters
  | [] => [network]
  | first :: rest =>
    match compare network first with
    | .lt => network :: first :: rest
    | .eq => network :: rest
    | .gt => first :: place network rest

/-- Add a network unless it collides with another; the first one that it collides with is named. -/
def register (registry : Registry) (network : NetworkParameters) : Except NetworkError Registry :=
  match registry.networks.find? (·.collidesWith network) with
  | some existing => .error (.conflict network.id existing.id)
  | none => .ok ⟨place network registry.networks⟩

/-- Register networks one after the other. -/
def ofList (networks : List NetworkParameters) : Except NetworkError Registry :=
  networks.foldlM register empty

/-- The network with an id. -/
def get? (registry : Registry) (id : String) : Option NetworkParameters :=
  registry.networks.find? (·.id == id)

/-- Remove the network with an id, and return it. -/
def unregister (registry : Registry) (id : String) : Option NetworkParameters × Registry :=
  (registry.get? id, ⟨registry.networks.filter (·.id != id)⟩)

/-! ## Queries -/

/-- Whether a network with an id is registered. -/
def contains (registry : Registry) (id : String) : Bool :=
  (registry.get? id).isSome

/-- How many networks are registered. -/
def size (registry : Registry) : Nat :=
  registry.networks.length

/-- Whether no network is registered. -/
def isEmpty (registry : Registry) : Bool :=
  registry.networks.isEmpty

/-- The first network whose legacy addresses may start with a version byte. -/
def resolveVersion (registry : Registry) (version : UInt8) : Option NetworkParameters :=
  registry.networks.find? (·.claimsVersion version)

/-- The first network whose segwit addresses start with a human-readable part. -/
def resolveHrp (registry : Registry) (hrp : String) : Option NetworkParameters :=
  registry.networks.find? (·.claimsHrp hrp)

end Registry

end CoinKeys
