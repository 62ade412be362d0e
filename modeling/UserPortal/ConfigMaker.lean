import UserPortal.Json.Value

/-!
# Device configurations

Port of `src/ConfigMaker.cpp`. The configuration of a gateway is the one it runs, with a default SSID and
a default key on its radios; the configuration of a mesh device is the gateway's, with dynamic addressing
on every interface and without the parental-control rules. Both are stored by sections.

`Stringifier::stringify` is a parameter, of which nothing is assumed.
-/

namespace UserPortal.ConfigMaker

/-- `meshInterface["ipv4"] = {{"addressing", "dynamic"}}`, where assigning into `null` makes an
object and into any other value throws. -/
def meshInterface (j : Json) : Option Json :=
  match j.object?, j with
  | some iface, _ => some (.obj (iface.set "ipv4" (.obj [("addressing", .str "dynamic")])))
  | none, .null => some (.obj [("ipv4", .obj [("addressing", .str "dynamic")])])
  | none, _ => none

/-- The interfaces of a mesh device; a section which is not an array is kept as it is. -/
def meshInterfaces (cfg : Json.Object) : Option Json.Object :=
  match cfg.getArray? "interfaces" with
  | some interfaces => (interfaces.mapM meshInterface).map fun xs => cfg.set "interfaces" (.arr xs)
  | none => some cfg

/-- `BuildMeshConfig` -/
def buildMeshConfig (inputConfig : Option Json.Object) : Option Json.Object :=
  match inputConfig.bind fun o => o.getObject? "configuration" with
  | some cfg => (meshInterfaces cfg).map fun c => c.remove "config-raw"
  | none => none

/-! ## Validation -/

/-- The mode of an SSID entry. -/
def bssMode (ssid : Json) : Option String := ssid.object?.bind fun o => o.getString? "bss-mode"

/-- The checks of a downstream interface and its SSIDs. -/
def validateDownstream (iface : Json.Object) (ssids : List Json) : Bool :=
  ((iface.getObject? "ipv4").bind fun ipv4 => ipv4.getString? "addressing") = some "static" &&
  ((iface.getObject? "tunnel").bind fun tunnel => tunnel.getString? "proto") = some "mesh" &&
  !ssids.isEmpty &&
  ssids.all (fun ssid => (bssMode ssid).isSome) &&
  ssids.any (fun ssid => bssMode ssid = some "ap") &&
  ssids.any (fun ssid => bssMode ssid = some "mesh")

/-- The role of an interface. -/
def role (iface : Json) : Option String := iface.object?.bind fun o => o.getString? "role"

/-- The checks of one interface. -/
def validateInterface (j : Json) : Bool :=
  match j.object?, role j with
  | some iface, some "upstream" => ((iface.getArray? "ssids").getD []).isEmpty
  | some iface, some "downstream" => validateDownstream iface ((iface.getArray? "ssids").getD [])
  | _, _ => false

/-- `ValidateConfig` -/
def validateConfig (deviceConfig : Option Json.Object) : Bool :=
  match deviceConfig.bind fun o => o.getObject? "configuration" with
  | none => false
  | some configuration =>
    match configuration.getArray? "interfaces" with
    | none => false
    | some interfaces =>
      !interfaces.isEmpty && interfaces.all validateInterface &&
        interfaces.any fun iface => role iface = some "downstream"

/-! ## Sections -/

/-- `ProvObjects::DeviceConfigurationElement` -/
structure DeviceConfigurationElement where
  name : String
  description : String := ""
  weight : Nat
  configuration : String
  deriving DecidableEq

/-- `DeviceConfigurationElement::to_json` -/
def DeviceConfigurationElement.toJson (e : DeviceConfigurationElement) : Json :=
  .obj [("configuration", .str e.configuration), ("description", .str e.description),
    ("name", .str e.name), ("weight", .int e.weight)]

variable (stringify : Json.Object → String)

/-- `AppendWeightedSection`: a section which is neither an object nor an array is left out. -/
def weightedSection (field : String × Json) : Option DeviceConfigurationElement :=
  match field.2 with
  | .arr _ | .obj _ =>
    some { name := field.1, weight := 1, configuration := stringify [(field.1, field.2)] }
  | _ => none

/-- `AppendWeightedSections` -/
def appendWeightedSections (config : Json.Object) : List DeviceConfigurationElement :=
  config.filterMap (weightedSection stringify)

/-! ## Gateways -/

/-- `BuildDefaultSsid` -/
def buildDefaultSsid (deviceMac : String) : String :=
  "OpenWifi-" ++
    if 8 < deviceMac.length then String.ofList (deviceMac.toList.drop 8) else deviceMac

/-- The default name and key of an SSID entry. -/
def defaultSsid (newSsid newPassword : String) (j : Json) : Json :=
  match j.object? with
  | none => j
  | some ssid =>
    match ssid.getString? "bss-mode", ssid.getObject? "encryption" with
    | some "ap", some encryption =>
      .obj ((ssid.set "name" (.str newSsid)).set "encryption"
        (.obj (encryption.set "key" (.str newPassword))))
    | some "mesh", some encryption =>
      .obj (ssid.set "encryption" (.obj (encryption.set "key" (.str newPassword))))
    | _, _ => j

/-- The default names and keys of an interface. -/
def defaultInterface (newSsid newPassword : String) (j : Json) : Json :=
  match j.object? with
  | none => j
  | some iface =>
    match iface.getArray? "ssids" with
    | none => j
    | some ssids => .obj (iface.set "ssids" (.arr (ssids.map (defaultSsid newSsid newPassword))))

/-- `BuildGatewayConfig`: the sections of the configuration, `none` when it is not valid. -/
def buildGatewayConfig (deviceConfig : Option Json.Object) (deviceMac : String) :
    Option (List DeviceConfigurationElement) :=
  if validateConfig deviceConfig then
    let newConfig := (deviceConfig.bind fun o => o.getObject? "configuration").getD []
    let interfaces := (newConfig.getArray? "interfaces").getD []
    some (appendWeightedSections stringify (newConfig.set "interfaces"
      (.arr (interfaces.map (defaultInterface (buildDefaultSsid deviceMac) deviceMac.toUpper)))))
  else none

/-! ## Valid configurations -/

/-- A valid configuration is one of an interface list. -/
lemma validateConfig_inv {deviceConfig : Option Json.Object} (h : validateConfig deviceConfig = true) :
    ∃ o configuration interfaces, deviceConfig = some o ∧
      o.getObject? "configuration" = some configuration ∧
      configuration.getArray? "interfaces" = some interfaces ∧ interfaces.all validateInterface = true := by
  rw [validateConfig] at h
  split at h
  case h_1 => cases h
  case h_2 configuration eq =>
    split at h
    case h_1 => cases h
    case h_2 interfaces eq' =>
      obtain ⟨o, rfl, eq⟩ := Option.bind_eq_some_iff.mp eq
      rw [Bool.and_eq_true, Bool.and_eq_true] at h
      exact ⟨o, configuration, interfaces, rfl, eq, eq', h.1.2⟩

/-- Every valid interface can be made one of a mesh device. -/
lemma meshInterface_of_valid {iface : Json} (h : validateInterface iface = true) :
    ∃ j, meshInterface iface = some j := by
  cases iface with
  | obj o => exact ⟨_, rfl⟩
  | _ => cases h

/-- A mesh configuration can be made of every valid configuration. -/
lemma buildMeshConfig_of_valid {deviceConfig : Option Json.Object}
    (h : validateConfig deviceConfig = true) : ∃ meshConfig, buildMeshConfig deviceConfig = some meshConfig := by
  obtain ⟨o, configuration, interfaces, rfl, eq, eq', valid⟩ := validateConfig_inv h
  have all : ∃ xs, interfaces.mapM meshInterface = some xs := by
    clear eq'
    induction interfaces with
    | nil => exact ⟨[], rfl⟩
    | cons iface interfaces ih =>
      rw [List.all_cons, Bool.and_eq_true] at valid
      obtain ⟨j, hj⟩ := meshInterface_of_valid valid.1
      obtain ⟨xs, hxs⟩ := ih valid.2
      exact ⟨j :: xs, by rw [List.mapM_cons, hj, hxs]; rfl⟩
  obtain ⟨xs, hxs⟩ := all
  refine ⟨(configuration.set "interfaces" (.arr xs)).remove "config-raw", ?_⟩
  simp only [buildMeshConfig, Option.bind_some, eq, meshInterfaces, eq', hxs, Option.map_some]

end UserPortal.ConfigMaker
