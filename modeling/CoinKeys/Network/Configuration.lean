import CoinKeys.Json
import CoinKeys.Network.WellKnown

/-!
# Networks in configuration

The parameters of a network are configured by an object with one member for each of them, or by the
list of their values in the order of `fields`; the human-readable part may be left out. What is read
passes through `NetworkParameters.make`, so a human-readable part is lower-case afterwards. A
well-known network is configured by its name.
-/

namespace CoinKeys

namespace NetworkParameters

/-- The names of the parameters, in order. -/
def fields : List String :=
  ["id", "p2pkh_version", "p2sh_version", "wif_version", "segwit_hrp"]

/-- The parameters with the given values. -/
def ofValues? (id p2pkh p2sh wif hrp : Json) : Option NetworkParameters := do
  return make (← id.text?) (← p2pkh.byte?) (← p2sh.byte?) (← wif.byte?) (← hrp.optionalText?)

/-- The parameters that a JSON value configures. -/
def ofJson? : Json → Option NetworkParameters
  | .list [id, p2pkh, p2sh, wif] => ofValues? id p2pkh p2sh wif .null
  | .list [id, p2pkh, p2sh, wif, hrp] => ofValues? id p2pkh p2sh wif hrp
  | .object members => do
    let values := fields.map fun name => (Json.member? name members).getD .null
    match values with
    | [id, p2pkh, p2sh, wif, hrp] => ofValues? id p2pkh p2sh wif hrp
    | _ => none
  | _ => none

/-- The object that configures the parameters. -/
def toJson (network : NetworkParameters) : Json :=
  .object (fields.zip [.text network.id, .ofByte network.p2pkh, .ofByte network.p2sh,
    .ofByte network.wif, .ofOptionalText network.hrp])

end NetworkParameters

namespace Network

/-- The well-known network that a JSON value names: a text, or an object whose only member has the
name and no value. -/
def ofJson? : Json → Option Network
  | .text name => ofName? name
  | .object [(name, .null)] => ofName? name
  | _ => none

/-- The JSON value that names a well-known network. -/
def toJson (network : Network) : Json :=
  .text network.name

@[simp] theorem ofJson?_toJson (network : Network) : ofJson? network.toJson = some network :=
  ofName?_name network

end Network

end CoinKeys
