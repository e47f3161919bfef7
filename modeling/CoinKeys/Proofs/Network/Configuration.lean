import CoinKeys.Network.Configuration
import CoinKeys.Proofs.Network.Resolution

/-!
# Networks read from a configuration

A configuration gives the five parameters as they are (`Configures`), and the network that is read
has the human-readable part in lower case (`lowered`). Lower case is a normal form: two networks
with one lower-case form answer alike, register alike and are written alike.

**Theorem (`configured_up_to_case`).** The network that a configuration gives is the one that is
made of the given parameters; it is written to an object that is read as the same network; and
nothing that a registry does depends on the case in which the human-readable part was given.

To put all human-readable parts of a registry into lower case commutes with what the registry does
(`register_lowered`, `resolveHrp_lowered`). So whatever is asked of two registries that differ in
the case of human-readable parts has answers that differ in that case only, and a refusal is the
same.
-/

namespace CoinKeys

/-! ## Parts of JSON values -/

namespace Json

variable {json : Json}

theorem text?_eq_some_iff {value : String} : json.text? = some value ↔ json = .text value := by
  cases json <;> simp [text?]

theorem byte?_eq_some_iff {value : UInt8} : json.byte? = some value ↔ json = .ofByte value := by
  refine ⟨fun h => ?_, fun h => ?_⟩
  · unfold byte? at h
    split at h
    · split at h
      · next digits hbyte =>
        obtain rfl := Option.some.inj h
        have hdigits : ((UInt8.ofNat digits.toNat).toNat : Int) = digits := by
          rw [UInt8.toNat_ofNat_of_lt' (by simp only [UInt8.size]; omega)]
          omega
        rw [ofByte, hdigits]
      · cases h
    · cases h
  · subst h
    have hlt : (value.toNat : Int) < 256 := by
      have := value.toNat_lt
      omega
    simp [byte?, ofByte, hlt]

theorem optionalText?_eq_some_iff {value : Option String} :
    json.optionalText? = some value ↔ json = .ofOptionalText value := by
  cases value <;> cases json <;> simp [optionalText?, text?, ofOptionalText]

/-- Where an absent member counts as the absent value, one with another value is there. -/
theorem getD_null_eq_iff {member : Option Json} (h : json ≠ .null) :
    member.getD .null = json ↔ member = some json := by
  cases member with
  | none => simp [h.symm]
  | some value => simp

theorem getD_null_eq_text_iff {member : Option Json} {value : String} :
    member.getD .null = .text value ↔ member = some (.text value) :=
  getD_null_eq_iff (by simp)

theorem getD_null_eq_ofByte_iff {member : Option Json} {value : UInt8} :
    member.getD .null = .ofByte value ↔ member = some (.ofByte value) :=
  getD_null_eq_iff (by simp [ofByte])

end Json

namespace NetworkParameters

variable {a b network : NetworkParameters}

/-! ## The parameters that are given -/

/-- A JSON value gives parameters as they are: a list has them in order, and an object has a member
for each. The human-readable part may be left out. -/
inductive Configures : Json → NetworkParameters → Prop
  | list (given : NetworkParameters) :
    Configures (.list [.text given.id, .ofByte given.p2pkh, .ofByte given.p2sh, .ofByte given.wif,
      .ofOptionalText given.hrp]) given
  | shortList (id : String) (p2pkh p2sh wif : UInt8) :
    Configures (.list [.text id, .ofByte p2pkh, .ofByte p2sh, .ofByte wif])
      ⟨id, p2pkh, p2sh, wif, none⟩
  | object {members : List (String × Json)} {given : NetworkParameters}
    (id : Json.member? "id" members = some (.text given.id))
    (p2pkh : Json.member? "p2pkh_version" members = some (.ofByte given.p2pkh))
    (p2sh : Json.member? "p2sh_version" members = some (.ofByte given.p2sh))
    (wif : Json.member? "wif_version" members = some (.ofByte given.wif))
    (hrp : (Json.member? "segwit_hrp" members).getD .null = .ofOptionalText given.hrp) :
    Configures (.object members) given

/-- The network with its human-readable part in lower case, as `make` makes it. -/
def lowered (network : NetworkParameters) : NetworkParameters :=
  make network.id network.p2pkh network.p2sh network.wif network.hrp

theorem ofValues?_eq_some_iff {id p2pkh p2sh wif hrp : Json} :
    ofValues? id p2pkh p2sh wif hrp = some network ↔
      ∃ given : NetworkParameters, id = .text given.id ∧ p2pkh = .ofByte given.p2pkh ∧
        p2sh = .ofByte given.p2sh ∧ wif = .ofByte given.wif ∧ hrp = .ofOptionalText given.hrp ∧
        network = given.lowered := by
  simp only [ofValues?, Option.bind_eq_bind, Option.bind_eq_some_iff, Option.pure_def,
    Option.some.injEq, Json.text?_eq_some_iff, Json.byte?_eq_some_iff,
    Json.optionalText?_eq_some_iff]
  refine ⟨fun h => ?_, fun h => ?_⟩
  · obtain ⟨id, hid, p2pkh, hp2pkh, p2sh, hp2sh, wif, hwif, hrp, hhrp, hnetwork⟩ := h
    exact ⟨⟨id, p2pkh, p2sh, wif, hrp⟩, hid, hp2pkh, hp2sh, hwif, hhrp, hnetwork.symm⟩
  · obtain ⟨given, hid, hp2pkh, hp2sh, hwif, hhrp, hnetwork⟩ := h
    exact ⟨_, hid, _, hp2pkh, _, hp2sh, _, hwif, _, hhrp, hnetwork.symm⟩

theorem Configures.ofJson?_eq {json : Json} {given : NetworkParameters}
    (h : Configures json given) : ofJson? json = some given.lowered := by
  cases h with
  | list => exact ofValues?_eq_some_iff.mpr ⟨given, rfl, rfl, rfl, rfl, rfl, rfl⟩
  | shortList id p2pkh p2sh wif =>
    exact ofValues?_eq_some_iff.mpr ⟨⟨id, p2pkh, p2sh, wif, none⟩, rfl, rfl, rfl, rfl, rfl, rfl⟩
  | object hid hp2pkh hp2sh hwif hhrp =>
    refine ofValues?_eq_some_iff.mpr ⟨given, ?_, ?_, ?_, ?_, hhrp, rfl⟩
    · exact Json.getD_null_eq_text_iff.mpr hid
    · exact Json.getD_null_eq_ofByte_iff.mpr hp2pkh
    · exact Json.getD_null_eq_ofByte_iff.mpr hp2sh
    · exact Json.getD_null_eq_ofByte_iff.mpr hwif

/-- A network is read exactly from what gives its parameters, in any case of the human-readable
part. -/
theorem ofJson?_eq_some_iff {json : Json} :
    ofJson? json = some network ↔ ∃ given, Configures json given ∧ network = given.lowered := by
  refine ⟨fun h => ?_, fun h => ?_⟩
  · unfold ofJson? at h
    -- Without a human-readable part, with all parameters, or by their names.
    split at h
    · obtain ⟨given, rfl, rfl, rfl, rfl, hhrp, rfl⟩ := ofValues?_eq_some_iff.mp h
      obtain ⟨id, p2pkh, p2sh, wif, _ | hrp⟩ := given
      · exact ⟨_, .shortList id p2pkh p2sh wif, rfl⟩
      · cases hhrp
    · obtain ⟨given, rfl, rfl, rfl, rfl, rfl, rfl⟩ := ofValues?_eq_some_iff.mp h
      exact ⟨given, .list given, rfl⟩
    · obtain ⟨given, hid, hp2pkh, hp2sh, hwif, hhrp, rfl⟩ := ofValues?_eq_some_iff.mp h
      refine ⟨given, .object ?_ ?_ ?_ ?_ hhrp, rfl⟩
      · exact Json.getD_null_eq_text_iff.mp hid
      · exact Json.getD_null_eq_ofByte_iff.mp hp2pkh
      · exact Json.getD_null_eq_ofByte_iff.mp hp2sh
      · exact Json.getD_null_eq_ofByte_iff.mp hwif
    · cases h
  · obtain ⟨given, hgiven, rfl⟩ := h
    exact hgiven.ofJson?_eq

theorem configures_toJson (network : NetworkParameters) : Configures network.toJson network :=
  .object rfl rfl rfl rfl rfl

/-! ## Lower case -/

@[simp] theorem hrp_lowered : network.lowered.hrp = network.hrp.map String.toLower := rfl

@[simp] theorem lowered_lowered : network.lowered.lowered = network.lowered := by
  simp [lowered, make, Option.map_map, Function.comp_def]

theorem constructed_lowered (network : NetworkParameters) : network.lowered.Constructed :=
  .make _ _ _ _ _

@[simp] theorem claimsHrp_lowered (network : NetworkParameters) (hrp : String) :
    network.lowered.claimsHrp hrp = network.claimsHrp hrp := by
  rw [Bool.eq_iff_iff, claimsHrp_iff, claimsHrp_iff, hrp_lowered]
  cases network.hrp <;> simp

theorem claimsHrp_congr (h : a.lowered = b.lowered) {s t : String} (hcase : s.toLower = t.toLower) :
    a.claimsHrp s = b.claimsHrp t := by
  calc a.claimsHrp s = a.lowered.claimsHrp s.toLower := by simp
    _ = b.lowered.claimsHrp t.toLower := by rw [h, hcase]
    _ = b.claimsHrp t := by simp

theorem sharesAddresses_lowered : a.lowered.SharesAddresses b.lowered ↔ a.SharesAddresses b := by
  simp only [SharesAddresses, hrp_lowered]
  cases a.hrp <;> cases b.hrp <;> simp [lowered, make]

theorem collidesWith_lowered (a b : NetworkParameters) :
    a.lowered.collidesWith b.lowered = a.collidesWith b := by
  rw [Bool.eq_iff_iff, collidesWith_iff, collidesWith_iff, sharesAddresses_lowered]
  rfl

end NetworkParameters

namespace Registry

variable {registry other : Registry} {network : NetworkParameters}

/-- The registry with all human-readable parts in lower case. -/
def lowered (registry : Registry) : Registry :=
  ⟨registry.networks.map NetworkParameters.lowered⟩

theorem place_lowered (network : NetworkParameters) (networks : List NetworkParameters) :
    place network.lowered (networks.map .lowered) = (place network networks).map .lowered := by
  induction networks with
  | nil => rfl
  | cons first rest ih =>
    -- The place depends on the id, which keeps its case.
    have hcompare : compare network.lowered first.lowered = compare network first := rfl
    rw [List.map_cons, place, place, hcompare]
    cases compare network first with
    | lt => rfl
    | eq => rfl
    | gt => rw [List.map_cons, ih]

theorem register_lowered (registry : Registry) (network : NetworkParameters) :
    registry.lowered.register network.lowered = (registry.register network).map lowered := by
  have hfind : registry.lowered.networks.find? (·.collidesWith network.lowered) =
      (registry.networks.find? (·.collidesWith network)).map .lowered := by
    simp [lowered, List.find?_map, NetworkParameters.collidesWith_lowered]
  rw [register, register, hfind]
  cases registry.networks.find? (·.collidesWith network) with
  | some existing => rfl
  | none =>
    have hplace := place_lowered network registry.networks
    exact congrArg (fun networks => Except.ok (Registry.mk networks)) hplace

theorem resolveHrp_lowered (registry : Registry) (hrp : String) :
    registry.lowered.resolveHrp hrp = (registry.resolveHrp hrp).map .lowered := by
  simp [resolveHrp, lowered, List.find?_map]

theorem resolveHrp_toLower (registry : Registry) (hrp : String) :
    registry.resolveHrp hrp.toLower = registry.resolveHrp hrp := by
  simp [resolveHrp]

/-- Two registries that differ in the case of human-readable parts register networks that do so with
the same outcome up to it. -/
theorem register_congr {a b : NetworkParameters} (hregistry : registry.lowered = other.lowered)
    (h : a.lowered = b.lowered) :
    (registry.register a).map lowered = (other.register b).map lowered := by
  rw [← register_lowered, ← register_lowered, hregistry, h]

theorem resolveHrp_congr (hregistry : registry.lowered = other.lowered) {s t : String}
    (hcase : s.toLower = t.toLower) :
    (registry.resolveHrp s).map NetworkParameters.lowered =
      (other.resolveHrp t).map NetworkParameters.lowered := by
  rw [← resolveHrp_lowered, ← resolveHrp_lowered, ← resolveHrp_toLower, hregistry, hcase,
    resolveHrp_toLower]

end Registry

namespace NetworkParameters

/-- **A network that is read is made of the given parameters, and the case in which its
human-readable part was given does not matter.** It has no upper-case letter there, it is read again
from the object that it is written to, and where it is registered it is the answer for its
human-readable part in any case. Let `given` be the network with its human-readable part in another
case. A configuration of `given` is read as the network, `given` claims the same texts, and where it
is registered, in registries that may differ in case too, the outcome and all later answers are
those for the network up to case. -/
theorem configured_up_to_case {json : Json} {network : NetworkParameters}
    (h : ofJson? json = some network) :
    (∃ given, Configures json given ∧
      network = make given.id given.p2pkh given.p2sh given.wif given.hrp) ∧
    (∀ hrp, network.hrp = some hrp → ∀ c ∈ hrp.toList, c.isUpper = false) ∧
    ofJson? network.toJson = some network ∧
    (∀ registry : Registry, registry.Reachable → network ∈ registry.networks →
      ∀ own hrp, network.hrp = some own → hrp.toLower = own.toLower →
        registry.resolveHrp hrp = some network) ∧
    ∀ given : NetworkParameters, given.lowered = network →
      (∀ other, Configures other given → ofJson? other = some network) ∧
      (∀ s t : String, s.toLower = t.toLower → given.claimsHrp s = network.claimsHrp t) ∧
      ∀ registry other : Registry, registry.lowered = other.lowered →
        (registry.register given).map Registry.lowered =
          (other.register network).map Registry.lowered ∧
        ∀ s t : String, s.toLower = t.toLower →
          (registry.resolveHrp s).map NetworkParameters.lowered =
            (other.resolveHrp t).map NetworkParameters.lowered := by
  obtain ⟨given, hgiven, rfl⟩ := ofJson?_eq_some_iff.mp h
  refine ⟨⟨given, hgiven, rfl⟩, fun hrp => (constructed_lowered given).isUpper_hrp, ?_, ?_, ?_⟩
  · rw [(configures_toJson given.lowered).ofJson?_eq, lowered_lowered]
  · intro registry hreach hmem own hrp hown hcase
    have hclaims := claimsHrp_iff.mpr ⟨own, hown, hcase.symm⟩
    exact hreach.wellFormed.resolveHrp_eq_some_iff.mpr ⟨hmem, hclaims⟩
  · intro spelled hspelled
    have hsame : spelled.lowered = given.lowered.lowered := hspelled.trans lowered_lowered.symm
    refine ⟨fun other hother => ?_, fun s t => claimsHrp_congr hsame, ?_⟩
    · rw [hother.ofJson?_eq, hspelled]
    · intro registry other hregistry
      exact ⟨Registry.register_congr hregistry hsame,
        fun s t => Registry.resolveHrp_congr hregistry⟩

/-- An object and a list that give the human-readable part of the production network in different
cases are read as one network, which is refused beside the default ones. -/
theorem configured_up_to_case_mixed :
    let network := make "coin" 5 6 7 (some "Tc")
    let given : NetworkParameters := ⟨"coin", 5, 6, 7, some "TC"⟩
    ofJson? (.object [("segwit_hrp", .text "Tc"), ("id", .text "coin"),
      ("p2pkh_version", .ofByte 5), ("p2sh_version", .ofByte 6), ("wif_version", .ofByte 7)]) =
        some network ∧
    ofJson? (.list [.text "coin", .ofByte 5, .ofByte 6, .ofByte 7, .text "TC"]) = some network ∧
    ofJson? network.toJson = some network ∧
    given.claimsHrp "tC" = true ∧
    (Registry.defaults.register given).map Registry.lowered =
      .error (.conflict "coin" "org.tdcoin.production") := by
  intro network given
  have hread : ofJson? (.object [("segwit_hrp", .text "Tc"), ("id", .text "coin"),
      ("p2pkh_version", .ofByte 5), ("p2sh_version", .ofByte 6), ("wif_version", .ofByte 7)]) =
      some network := rfl
  have hgiven : given.lowered = network := by
    have hspelled : "TC".toLower = "Tc".toLower := String.toList_inj.mp (by simp)
    exact congrArg (fun hrp => NetworkParameters.mk "coin" 5 6 7 (some hrp)) hspelled
  have hclaims : network.claimsHrp "TC" = true :=
    claimsHrp_iff.mpr ⟨_, rfl, String.toList_inj.mp (by simp)⟩
  have hrefused : (Registry.defaults.register network).map Registry.lowered =
      .error (.conflict "coin" "org.tdcoin.production") := by
    have hshares : NetworkParameters.mainnet.SharesAddresses network :=
      .inl ⟨_, _, rfl, rfl, String.toList_inj.mp (by simp)⟩
    have hcollides := collidesWith_iff.mpr ⟨by decide, hshares⟩
    have hfind : Registry.defaults.networks.find? (·.collidesWith network) = some .mainnet :=
      List.find?_cons_of_pos hcollides
    rw [Registry.register, hfind]
    rfl
  obtain ⟨-, -, hagain, -, hcase⟩ := configured_up_to_case hread
  obtain ⟨hother, hclaim, hregistry⟩ := hcase given hgiven
  obtain ⟨hregister, -⟩ := hregistry .defaults .defaults rfl
  refine ⟨hread, hother _ (.list given), hagain, ?_, hregister.trans hrefused⟩
  rw [hclaim "tC" "TC" (String.toList_inj.mp (by simp)), hclaims]

end NetworkParameters

end CoinKeys
