import Mathlib.Data.List.Forall2
import UserPortal.ConfigMaker.Sections

/-!
# New gateways

`BuildGatewayConfig` gives the SSIDs of a new gateway a name and a key which are made of its MAC address:
an access point gets both, the mesh backhaul the key. An SSID without an `encryption` object is passed
over.
-/

namespace UserPortal.ConfigMaker

/-! ## SSIDs -/

/-- The SSIDs of an interface. -/
def ssidsOf (iface : Json) : List Json := (iface.object?.bind fun o => o.getArray? "ssids").getD []

/-- The `encryption` of an SSID, when it is an object. -/
def encryptionOf (ssid : Json) : Option Json.Object :=
  ssid.object?.bind fun o => o.getObject? "encryption"

/-- The name of an SSID. -/
def nameOf (ssid : Json) : Option String := ssid.object?.bind fun o => o.getString? "name"

/-- The key of an SSID. -/
def keyOf (ssid : Json) : Option String := (encryptionOf ssid).bind fun e => e.getString? "key"

/-- A relation between the SSIDs of two lists of interfaces, in order. -/
def EachSsid (r : Json → Json → Prop) (interfaces interfaces' : List Json) : Prop :=
  List.Forall₂ (fun iface iface' => List.Forall₂ r (ssidsOf iface) (ssidsOf iface')) interfaces
    interfaces'

/-- The SSID of a gateway which keeps no credentials of the SSID fetched from it. -/
structure KeepsNone (deviceMac : String) (fetched stored : Json) : Prop where
  ap : bssMode stored = some "ap" →
    nameOf stored = some (buildDefaultSsid deviceMac) ∧ keyOf stored = some deviceMac.toUpper
  mesh : bssMode stored = some "mesh" → keyOf stored = some deviceMac.toUpper
  name : bssMode stored = some "ap" ∨ bssMode stored = some "mesh" →
    ∀ n, nameOf fetched = some n → nameOf stored ≠ some n
  key : bssMode stored = some "ap" ∨ bssMode stored = some "mesh" →
    ∀ k, keyOf fetched = some k → keyOf stored ≠ some k

/-- The SSID with the credentials of a new gateway, where it has an `encryption`. The name of the mesh
backhaul stays as it was. -/
structure Reset (deviceMac : String) (fetched stored : Json) : Prop where
  mode : bssMode stored = bssMode fetched
  ap : bssMode stored = some "ap" → (encryptionOf stored).isSome = true →
    nameOf stored = some (buildDefaultSsid deviceMac) ∧ keyOf stored = some deviceMac.toUpper
  mesh : bssMode stored = some "mesh" → (encryptionOf stored).isSome = true →
    keyOf stored = some deviceMac.toUpper ∧ nameOf stored = nameOf fetched

/-- What the loop makes of an SSID. -/
lemma defaultSsid_reset (deviceMac : String) (ssid : Json) :
    Reset deviceMac ssid (defaultSsid (buildDefaultSsid deviceMac) deviceMac.toUpper ssid) := by
  rw [defaultSsid]
  split
  case h_1 none_ =>
    -- not an object: it has no mode
    refine ⟨rfl, ?_, ?_⟩ <;>
    · intro mode
      rw [bssMode, none_] at mode
      cases mode
  case h_2 o eq =>
    split
    case h_1 encryption mode found =>
      refine ⟨?_, ?_, ?_⟩
      · rw [bssMode, bssMode, eq, Json.object?, Option.bind_some, Option.bind_some,
          Json.Object.getString?_set_of_ne _ _ (by decide),
          Json.Object.getString?_set_of_ne _ _ (by decide)]
      · intro _ _
        rw [nameOf, keyOf, encryptionOf, Json.object?, Option.bind_some, Option.bind_some,
          Json.Object.getString?_set_of_ne _ _ (by decide), Json.Object.getString?_set_self,
          Json.Object.getObject?_set_self, Option.bind_some, Json.Object.getString?_set_self]
        exact ⟨rfl, rfl⟩
      · intro isMesh
        rw [bssMode, Json.object?, Option.bind_some, Json.Object.getString?_set_of_ne _ _ (by decide),
          Json.Object.getString?_set_of_ne _ _ (by decide), mode] at isMesh
        exact absurd isMesh (by decide)
    case h_2 encryption mode found =>
      refine ⟨?_, ?_, ?_⟩
      · rw [bssMode, bssMode, eq, Json.object?, Option.bind_some, Option.bind_some,
          Json.Object.getString?_set_of_ne _ _ (by decide)]
      · intro isAp
        rw [bssMode, Json.object?, Option.bind_some, Json.Object.getString?_set_of_ne _ _ (by decide),
          mode] at isAp
        exact absurd isAp (by decide)
      · intro _ _
        rw [nameOf, nameOf, keyOf, encryptionOf, eq, Json.object?, Option.bind_some, Option.bind_some,
          Option.bind_some, Json.Object.getString?_set_of_ne _ _ (by decide),
          Json.Object.getObject?_set_self, Option.bind_some, Json.Object.getString?_set_self]
        exact ⟨rfl, rfl⟩
    case h_3 notAp notMesh =>
      -- it is kept: another mode, or no `encryption`
      have found : ∀ mode, bssMode ssid = some mode → o.getString? "bss-mode" = some mode := by
        intro mode h
        rwa [bssMode, eq, Option.bind_some] at h
      have encryption : (encryptionOf ssid).isSome = true →
          ∃ e, o.getObject? "encryption" = some e := by
        intro h
        rw [encryptionOf, eq, Option.bind_some] at h
        exact Option.isSome_iff_exists.mp h
      refine ⟨rfl, ?_, ?_⟩
      · intro isAp h
        obtain ⟨e, he⟩ := encryption h
        exact absurd he (notAp e (found _ isAp))
      · intro isMesh h
        obtain ⟨e, he⟩ := encryption h
        exact absurd he (notMesh e (found _ isMesh))

/-- The SSIDs of an interface, after the loop. -/
lemma ssidsOf_defaultInterface (newSsid newPassword : String) (iface : Json) :
    ssidsOf (defaultInterface newSsid newPassword iface) =
      (ssidsOf iface).map (defaultSsid newSsid newPassword) := by
  rw [defaultInterface]
  split
  case h_1 none_ => rw [ssidsOf, none_]; rfl
  case h_2 o eq =>
    split
    case h_1 none_ => rw [ssidsOf, eq, Option.bind_some, none_]; rfl
    case h_2 ssids found =>
      rw [ssidsOf, ssidsOf, eq, Json.object?, Option.bind_some, Option.bind_some,
        Json.Object.getArray?_set_self, found]
      rfl

lemma eachSsid_reset (deviceMac : String) (interfaces : List Json) :
    EachSsid (Reset deviceMac) interfaces
      (interfaces.map (defaultInterface (buildDefaultSsid deviceMac) deviceMac.toUpper)) := by
  refine List.forall₂_map_right_iff.mpr (List.forall₂_same.mpr ?_)
  intro iface _
  rw [ssidsOf_defaultInterface]
  refine List.forall₂_map_right_iff.mpr (List.forall₂_same.mpr ?_)
  intro ssid _
  exact defaultSsid_reset deviceMac ssid

/-! ## Order -/

lemma isOrdered_defaultSsid (newSsid newPassword : String) {ssid : Json} (ord : ssid.isOrdered = true) :
    (defaultSsid newSsid newPassword ssid).isOrdered = true := by
  have text : ∀ s, (Json.str s).isOrdered = true := fun _ => rfl
  rw [defaultSsid]
  split
  case h_1 => exact ord
  case h_2 o eq =>
    cases Json.object?_eq_some.mp eq
    have ord : Json.Object.IsOrdered o := ord
    split
    case h_1 encryption _ found =>
      exact (ord.set "name" (text _)).set "encryption" ((ord.getObject? found).set "key" (text _))
    case h_2 encryption _ found =>
      exact ord.set "encryption" ((ord.getObject? found).set "key" (text _))
    case h_3 => exact ord

lemma isOrdered_defaultInterface (newSsid newPassword : String) {iface : Json}
    (ord : iface.isOrdered = true) : (defaultInterface newSsid newPassword iface).isOrdered = true := by
  rw [defaultInterface]
  split
  case h_1 => exact ord
  case h_2 o eq =>
    cases Json.object?_eq_some.mp eq
    have ord : Json.Object.IsOrdered o := ord
    split
    case h_1 => exact ord
    case h_2 ssids found =>
      refine ord.set "ssids" (Json.isOrdered_arr.mpr ?_)
      intro ssid mem
      obtain ⟨fetched, h, rfl⟩ := List.mem_map.mp mem
      exact isOrdered_defaultSsid _ _ (ord.getArray? found _ h)

/-! ## Configurations -/

/-- A section is kept. -/
lemma get?_sectionsOf {config : Json.Object} {k : String} {v : Json} (ord : config.IsOrdered)
    (found : config.get? k = some v) (isSection : isSection v = true) :
    (sectionsOf config).get? k = some v :=
  (ord.filter _).get?_of_mem (List.mem_filter.mpr ⟨Json.Object.mem_of_get? found, isSection⟩)

variable {print : Json → String} {parse : String → Option Json}

/-- The configuration which is stored for a new gateway: the one fetched, with the defaults. -/
lemma buildGatewayConfig_stored (reads : Json.Reads parse print) {device : Json.Object}
    {deviceMac : String} {sections_ : List DeviceConfigurationElement} (ord : device.IsOrdered)
    (built : buildGatewayConfig (fun o => print (.obj o)) (some device) deviceMac = some sections_) :
    ∃ config interfaces stored,
      device.getObject? "configuration" = some config ∧
      config.getArray? "interfaces" = some interfaces ∧
      storedConfig parse sections_ = some stored ∧
      stored.getArray? "interfaces" = some (interfaces.map
        (defaultInterface (buildDefaultSsid deviceMac) deviceMac.toUpper)) := by
  rw [buildGatewayConfig] at built
  split at built
  case isFalse => cases built
  case isTrue valid =>
    obtain ⟨_, config, interfaces, eq, found, eq', _⟩ := validateConfig_inv valid
    cases eq
    rw [Option.bind_some, found, Option.getD_some] at built
    dsimp only at built
    rw [eq', Option.getD_some] at built
    cases built
    have ordered := ord.getObject? found
    have items : (Json.arr (interfaces.map (defaultInterface (buildDefaultSsid deviceMac)
        deviceMac.toUpper))).isOrdered = true := by
      refine Json.isOrdered_arr.mpr ?_
      intro j mem
      obtain ⟨iface, h, rfl⟩ := List.mem_map.mp mem
      exact isOrdered_defaultInterface _ _ (ordered.getArray? eq' _ h)
    have ordered' := ordered.set "interfaces" items
    refine ⟨config, interfaces, _, found, eq', storedConfig_appendWeightedSections reads ordered', ?_⟩
    exact Json.Object.getArray?_eq_some.mpr (get?_sectionsOf ordered' (config.get?_set_self _ _) rfl)

/-- The configuration which is stored for a new gateway has its SSIDs reset. -/
theorem buildGatewayConfig_resets (reads : Json.Reads parse print) {device : Json.Object}
    {deviceMac : String} {sections_ : List DeviceConfigurationElement} (ord : device.IsOrdered)
    (built : buildGatewayConfig (fun o => print (.obj o)) (some device) deviceMac = some sections_) :
    ∃ config interfaces stored storedInterfaces,
      device.getObject? "configuration" = some config ∧
      config.getArray? "interfaces" = some interfaces ∧
      storedConfig parse sections_ = some stored ∧
      stored.getArray? "interfaces" = some storedInterfaces ∧
      EachSsid (Reset deviceMac) interfaces storedInterfaces := by
  obtain ⟨config, interfaces, stored, found, eq, read, eq'⟩ := buildGatewayConfig_stored reads ord built
  exact ⟨config, interfaces, stored, _, found, eq, read, eq', eachSsid_reset deviceMac interfaces⟩

namespace Backhaul

/-- The SSIDs of a gateway, which both have an `encryption`. -/
def ssids : List Json :=
  [.obj [("bss-mode", .str "ap"), ("encryption", .obj [("key", .str "previous")]),
      ("name", .str "home")],
    .obj [("bss-mode", .str "mesh"), ("encryption", .obj [("key", .str "previous")]),
      ("name", .str "backhaul")]]

def interfaces : List Json :=
  [.obj [("ipv4", .obj [("addressing", .str "static")]), ("role", .str "downstream"),
    ("ssids", .arr ssids), ("tunnel", .obj [("proto", .str "mesh")])]]

def device : Json.Object := [("configuration", .obj [("interfaces", .arr interfaces)])]

/-- The sections which are stored for it. -/
def stored : List DeviceConfigurationElement :=
  (buildGatewayConfig (fun o => Json.condense (.obj o)) (some device) "020000000001").getD []

lemma built : buildGatewayConfig (fun o => Json.condense (.obj o)) (some device) "020000000001" =
    some stored := by
  rw [stored]
  rfl

/-- Its SSIDs are reset. -/
theorem backhaul_reset :
    ∃ config fetched stored' storedInterfaces,
      device.getObject? "configuration" = some config ∧
      config.getArray? "interfaces" = some fetched ∧
      storedConfig Json.ofText stored = some stored' ∧
      stored'.getArray? "interfaces" = some storedInterfaces ∧
      EachSsid (Reset "020000000001") fetched storedInterfaces :=
  buildGatewayConfig_resets Json.reads_condense (by decide) built

/-- The name of the backhaul is stored as it was fetched. -/
theorem backhaul_name_kept :
    buildGatewayConfig (fun o => Json.condense (.obj o)) (some device) "020000000001" = some stored ∧
    ∃ stored' storedInterfaces,
      storedConfig Json.ofText stored = some stored' ∧
      stored'.getArray? "interfaces" = some storedInterfaces ∧
      ¬ EachSsid (KeepsNone "020000000001") interfaces storedInterfaces := by
  obtain ⟨config, fetched, stored', found, eq, read, eq'⟩ :=
    buildGatewayConfig_stored Json.reads_condense (by decide) built
  cases found
  cases eq
  refine ⟨built, stored', _, read, eq', ?_⟩
  intro each
  obtain ⟨first, _⟩ := List.forall₂_cons.mp each
  rw [ssidsOf_defaultInterface] at first
  obtain ⟨_, second⟩ := List.forall₂_cons.mp first
  obtain ⟨mesh, _⟩ := List.forall₂_cons.mp second
  exact mesh.name (.inr rfl) "backhaul" rfl rfl

end Backhaul

end UserPortal.ConfigMaker
