import UserPortal.ConfigMaker
import UserPortal.Json.Ordered

/-!
# Mesh configurations

`BuildMeshConfig` prints the configuration of the gateway with one JSON library, edits what another
library reads, prints that and reads it back with the first. Where the libraries read each other's texts,
the mesh configuration is the gateway's in everything but the addressing of its interfaces and its
`config-raw`.
-/

namespace UserPortal.ConfigMaker

/-- The arguments of `BuildMeshConfig`, which are references. -/
structure MeshArguments where
  inputConfig : Option Json.Object
  outputConfig : Option Json.Object

/-- What is changed in the configuration, `none` where it throws. -/
def editMesh : Json → Option Json
  | .obj cfg => (meshInterfaces cfg).map fun c => .obj (c.remove "config-raw")
  | cfg => some cfg

section Libraries

variable (stringify dump : Json → String) (parse parsePoco : String → Option Json)

/-- `BuildMeshConfig` over the texts: `stringify` and `parsePoco` are those of one library, `dump` and
`parse` those of the other. -/
def buildMeshConfigText (args : MeshArguments) : Bool × MeshArguments :=
  match args.inputConfig.bind fun o => o.getObject? "configuration" with
  | none => (false, { args with outputConfig := none })
  | some gatewayConfig =>
    match ((parse (stringify (.obj gatewayConfig))).bind editMesh).bind fun cfg =>
        (parsePoco (dump cfg)).bind Json.object? with
    | some outputConfig => (true, { args with outputConfig := some outputConfig })
    | none => (false, { args with outputConfig := none })

end Libraries

/-! ## Interfaces -/

/-- The `ipv4` of a mesh interface. -/
def dynamicAddressing : Json := .obj [("addressing", .str "dynamic")]

/-- The interface of a mesh device is the gateway's, with dynamic addressing. -/
structure DynamicOf (iface meshIface : Json.Object) : Prop where
  ipv4 : meshIface.get? "ipv4" = some dynamicAddressing
  others : ∀ k, "ipv4" ≠ k → meshIface.get? k = iface.get? k

/-- A mesh configuration is the gateway's, with dynamic addressing and without `config-raw`. -/
structure MeshOf (config meshConfig : Json.Object) : Prop where
  interfaces : ∃ ifaces meshIfaces,
    config.getArray? "interfaces" = some (ifaces.map .obj) ∧
    meshConfig.getArray? "interfaces" = some (meshIfaces.map .obj) ∧
    List.Forall₂ DynamicOf ifaces meshIfaces
  configRaw : meshConfig.get? "config-raw" = none
  others : ∀ k, "interfaces" ≠ k → "config-raw" ≠ k → meshConfig.get? k = config.get? k

lemma mapM_meshInterface (ifaces : List Json.Object) :
    (ifaces.map Json.obj).mapM meshInterface =
      some ((ifaces.map fun iface => iface.set "ipv4" dynamicAddressing).map .obj) := by
  induction ifaces with
  | nil => rfl
  | cons iface ifaces ih =>
    rw [List.map_cons, List.mapM_cons, ih]
    rfl

lemma dynamicOf_set (ifaces : List Json.Object) :
    List.Forall₂ DynamicOf ifaces (ifaces.map fun iface => iface.set "ipv4" dynamicAddressing) := by
  induction ifaces with
  | nil => exact .nil
  | cons iface ifaces ih =>
    refine .cons ⟨iface.get?_set_self "ipv4" _, ?_⟩ ih
    intro k ne
    exact iface.get?_set_of_ne _ ne

variable {config : Json.Object} {ifaces : List Json.Object}

/-- The interfaces with dynamic addressing are ordered. -/
lemma isOrdered_dynamic (ord : config.IsOrdered)
    (eq : config.getArray? "interfaces" = some (ifaces.map .obj)) :
    (Json.arr ((ifaces.map fun iface => iface.set "ipv4" dynamicAddressing).map .obj)).isOrdered =
      true := by
  refine Json.isOrdered_arr.mpr ?_
  intro j mem
  obtain ⟨_, h, rfl⟩ := List.mem_map.mp mem
  obtain ⟨iface, hi, rfl⟩ := List.mem_map.mp h
  have dynamic : dynamicAddressing.isOrdered = true := by decide
  have this : iface.IsOrdered := ord.getArray? eq _ (List.mem_map_of_mem hi)
  exact this.set "ipv4" dynamic

/-- The edited configuration. -/
lemma editMesh_spec (ord : config.IsOrdered)
    (eq : config.getArray? "interfaces" = some (ifaces.map .obj)) :
    ∃ meshConfig : Json.Object, editMesh (.obj config) = some (.obj meshConfig) ∧ meshConfig.IsOrdered ∧
      MeshOf config meshConfig := by
  refine ⟨(config.set "interfaces" (.arr ((ifaces.map fun iface =>
    iface.set "ipv4" dynamicAddressing).map .obj))).remove "config-raw", ?_, ?_, ?_, ?_, ?_⟩
  · rw [editMesh, meshInterfaces, eq]
    dsimp only
    rw [mapM_meshInterface]
    rfl
  · exact (ord.set _ (isOrdered_dynamic ord eq)).remove _
  · refine ⟨ifaces, _, eq, ?_, dynamicOf_set ifaces⟩
    rw [Json.Object.getArray?_eq_some, Json.Object.get?_remove_of_ne _ (by decide),
      Json.Object.get?_set_self]
  · exact Json.Object.get?_remove_self ..
  · intro k ne ne'
    rw [Json.Object.get?_remove_of_ne _ ne', Json.Object.get?_set_of_ne _ _ ne]

/-! ## The configuration -/

variable {stringify dump : Json → String} {parse parsePoco : String → Option Json}

/-- The texts make no difference: they carry what `BuildMeshConfig` makes of the value. -/
lemma buildMeshConfigText_eq (reads : Json.Reads parse stringify) (readsBack : Json.Reads parsePoco dump)
    {device meshConfig : Json.Object} {outputConfig : Option Json.Object}
    (ord : config.IsOrdered)
    (found : device.getObject? "configuration" = some config)
    (edit : editMesh (.obj config) = some (.obj meshConfig)) (ordered : meshConfig.IsOrdered) :
    buildMeshConfigText stringify dump parse parsePoco ⟨some device, outputConfig⟩ =
      (true, ⟨some device, some meshConfig⟩) := by
  rw [buildMeshConfigText, Option.bind_some, found]
  dsimp only
  rw [reads _ ord, Option.bind_some, edit, Option.bind_some, readsBack _ ordered]
  rfl

/-- It is what the model without texts computes. -/
theorem editMesh_eq_buildMeshConfig {device : Json.Object}
    (found : device.getObject? "configuration" = some config) :
    editMesh (.obj config) = (buildMeshConfig (some device)).map .obj := by
  rw [buildMeshConfig, Option.bind_some, found, editMesh, Option.map_map]
  rfl

/-- `BuildMeshConfig` succeeds on every configuration of interfaces which are objects, and changes their
addressing and `config-raw` only; the configuration it is given is left as it is. -/
theorem buildMeshConfig_frame (reads : Json.Reads parse stringify)
    (readsBack : Json.Reads parsePoco dump) {device : Json.Object} {outputConfig : Option Json.Object}
    (ord : device.IsOrdered) (found : device.getObject? "configuration" = some config)
    (eq : config.getArray? "interfaces" = some (ifaces.map .obj)) :
    ∃ meshConfig : Json.Object,
      buildMeshConfigText stringify dump parse parsePoco ⟨some device, outputConfig⟩ =
        (true, ⟨some device, some meshConfig⟩) ∧
      meshConfig.IsOrdered ∧ MeshOf config meshConfig := by
  have ordered := ord.getObject? found
  obtain ⟨meshConfig, edit, isOrdered, meshOf⟩ := editMesh_spec ordered eq
  exact ⟨meshConfig, buildMeshConfigText_eq reads readsBack ordered found edit isOrdered, isOrdered,
    meshOf⟩

namespace OneInterface

/-- A gateway with one interface and a rule. -/
def gateway : Json.Object :=
  [("config-raw", .arr [.arr [.str "set", .str "firewall.pc_rule_g1", .str "rule"]]),
    ("interfaces", .arr [.obj [("ipv4", .obj [("addressing", .str "static")]),
      ("ssids", .arr [.obj [("bss-mode", .str "ap"), ("name", .str "home")]])]]),
    ("uuid", .int 1)]

/-- Its mesh configuration has the SSID, dynamic addressing, and no rule. -/
theorem buildMeshConfig_frame_gateway :
    ∃ meshConfig : Json.Object,
      buildMeshConfigText Json.condense Json.condense Json.ofText Json.ofText
        ⟨some [("configuration", .obj gateway)], none⟩ =
        (true, ⟨some [("configuration", .obj gateway)], some meshConfig⟩) ∧
      meshConfig.IsOrdered ∧ MeshOf gateway meshConfig := by
  have eq : gateway.getArray? "interfaces" =
      some ([[("ipv4", .obj [("addressing", .str "static")]),
        ("ssids", .arr [.obj [("bss-mode", .str "ap"), ("name", .str "home")]])]].map .obj) := by
    rfl
  exact buildMeshConfig_frame Json.reads_condense Json.reads_condense (by decide) rfl eq

end OneInterface

end UserPortal.ConfigMaker
