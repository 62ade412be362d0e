import UserPortal.Interaction.Failure
import UserPortal.Sdk.Gw

/-!
# The SSIDs of a configuration

`ssidEntries` are the entries of a configuration which a client can join: the objects of the `ssids`
arrays of its interfaces, but the mesh backhaul. `ApplySsidOverrides` gives every one of them the
requested name and key; stamping a configuration, replacing its `config-raw` and turning it into a mesh
configuration leave them as they are.
-/

namespace UserPortal.Sdk.Gw
open Interaction

/-- The entries of an `ssids` array. -/
def entriesOf (ssids : List Json) : List Json.Object :=
  (ssids.filterMap Json.object?).filter fun ssid => !isMesh ssid

/-- The entries of an interface. -/
def interfaceEntries (iface : Json) : List Json.Object :=
  entriesOf ((iface.object?.bind fun o => o.getArray? "ssids").getD [])

/-- The entries of a configuration. -/
def ssidEntries (config : Json.Object) : List Json.Object :=
  ((config.getArray? "interfaces").getD []).flatMap interfaceEntries

/-- An entry carries the requested name and key. -/
def EntryCarries (req : SsidRequest) (ssid : Json.Object) : Prop :=
  ssid.getString? "name" = some req.name ∧
    (ssid.getObject? "encryption").bind (fun e => e.getString? "key") = some req.password

/-- Every entry of the configuration carries the requested name and key. -/
def CarriesSsid (req : SsidRequest) (config : Json.Object) : Prop :=
  ∀ ssid ∈ ssidEntries config, EntryCarries req ssid

instance (req : SsidRequest) (ssid : Json.Object) : Decidable (EntryCarries req ssid) :=
  inferInstanceAs (Decidable (_ ∧ _))

instance (req : SsidRequest) (config : Json.Object) : Decidable (CarriesSsid req config) :=
  inferInstanceAs (Decidable (∀ ssid ∈ ssidEntries config, EntryCarries req ssid))

lemma ssidEntries_of_interfaces {a b : Json.Object} (eq : a.get? "interfaces" = b.get? "interfaces") :
    ssidEntries a = ssidEntries b := by
  rw [ssidEntries, ssidEntries, Json.Object.getArray?, Json.Object.getArray?, eq]

lemma ssidEntries_set_of_ne (config : Json.Object) {k : String} (v : Json) (ne : k ≠ "interfaces") :
    ssidEntries (config.set k v) = ssidEntries config :=
  ssidEntries_of_interfaces (config.get?_set_of_ne v ne)

lemma ssidEntries_remove_of_ne (config : Json.Object) {k : String} (ne : k ≠ "interfaces") :
    ssidEntries (config.remove k) = ssidEntries config :=
  ssidEntries_of_interfaces (config.get?_remove_of_ne ne)

@[simp] lemma ssidEntries_stampConfig (config : Json.Object) (now : Nat) :
    ssidEntries (stampConfig config now) = ssidEntries config :=
  ssidEntries_set_of_ne config _ (by decide)

@[simp] lemma ssidEntries_updateConfigRaw (config : Json.Object) (last : Option Json.Object) :
    ssidEntries (updateConfigRaw config last) = ssidEntries config := by
  rw [updateConfigRaw]
  split
  · exact ssidEntries_set_of_ne config _ (by decide)
  · exact ssidEntries_remove_of_ne config (by decide)

/-! ## Overrides -/

/-- What an entry of an `ssids` array becomes. -/
lemma overrideSsid_inv {req : SsidRequest} {j j' : Json} (h : overrideSsid req j = .ok j') :
    ∀ ssid, j'.object? = some ssid → isMesh ssid = false → EntryCarries req ssid := by
  intro ssid obj mesh
  rw [overrideSsid] at h
  split at h
  case h_1 o eq =>
    split at h
    case isTrue isM =>
      cases h
      rw [eq] at obj
      cases obj
      rw [mesh] at isM
      cases isM
    case isFalse =>
      split at h
      case h_1 encryption _ =>
        cases h
        cases obj
        refine ⟨?_, ?_⟩
        · rw [Json.Object.getString?_set_of_ne _ _ (by decide), Json.Object.getString?_set_self]
        · rw [Json.Object.getObject?_set_self, Option.bind_some, Json.Object.getString?_set_self]
      case h_2 => cases h
  case h_2 no =>
    cases h
    rw [no] at obj
    cases obj

/-- The entries of an overridden `ssids` array carry the request. -/
lemma entriesOf_carries {req : SsidRequest} {ssids ssids' : List Json}
    (h : ssids.mapM (overrideSsid req) = .ok ssids') :
    ∀ ssid ∈ entriesOf ssids', EntryCarries req ssid := by
  intro ssid mem
  obtain ⟨mem, mesh⟩ := List.mem_filter.mp mem
  obtain ⟨j', hj', obj⟩ := List.mem_filterMap.mp mem
  obtain ⟨j, _, eq⟩ := mapM_ok_mem h j' hj'
  exact overrideSsid_inv eq ssid obj (by simpa using mesh)

/-- The entries of an overridden interface carry the request. -/
lemma overrideInterface_inv {req : SsidRequest} {j : Json} {r : Json × Bool}
    (h : overrideInterface req j = .ok r) : ∀ ssid ∈ interfaceEntries r.1, EntryCarries req ssid := by
  -- an interface without SSIDs is kept, and has no entries
  have none_ : ∀ o : Option (List Json), (o = none ∨ o = some []) → entriesOf (o.getD []) = [] := by
    rintro o (rfl | rfl)
    · rfl
    · rfl
  intro ssid mem
  rw [overrideInterface] at h
  split at h
  case h_1 iface eq =>
    split at h
    case h_1 no =>
      cases h
      rw [interfaceEntries, eq, Option.bind_some, none_ _ (.inl no)] at mem
      cases mem
    case h_2 no =>
      cases h
      rw [interfaceEntries, eq, Option.bind_some, none_ _ (.inr no)] at mem
      cases mem
    case h_3 ssids _ _ =>
      obtain ⟨ssids', eq', h⟩ := except_bind_ok h
      cases h
      have arr : (iface.set "ssids" (.arr ssids')).getArray? "ssids" = some ssids' :=
        Json.Object.getArray?_set_self ..
      rw [interfaceEntries, Json.object?, Option.bind_some, arr] at mem
      exact entriesOf_carries eq' ssid mem
  case h_2 no =>
    cases h
    rw [interfaceEntries, no] at mem
    cases mem

/-- `ApplySsidOverrides` gives every entry the requested name and key. -/
lemma overrideInterfaces_carries {req : SsidRequest} {config config' : Json.Object}
    (h : overrideInterfaces req config = .ok config') : CarriesSsid req config' := by
  rw [overrideInterfaces] at h
  split at h
  case h_1 => cases h
  case h_2 => cases h
  case h_3 interfaces _ _ =>
    obtain ⟨overridden, eq, h⟩ := except_bind_ok h
    split at h
    case isFalse => cases h
    case isTrue =>
      cases h
      intro ssid mem
      rw [ssidEntries, Json.Object.getArray?_set_self] at mem
      obtain ⟨j, hj, mem⟩ := List.mem_flatMap.mp mem
      obtain ⟨r, hr, rfl⟩ := List.mem_map.mp hj
      obtain ⟨x, _, eq'⟩ := mapM_ok_mem eq r hr
      exact overrideInterface_inv eq' ssid mem

/-- The other fields of the configuration are left as they are. -/
lemma overrideInterfaces_get? {req : SsidRequest} {config config' : Json.Object} {k : String}
    (h : overrideInterfaces req config = .ok config') (ne : "interfaces" ≠ k) :
    config'.get? k = config.get? k := by
  rw [overrideInterfaces] at h
  split at h
  case h_1 => cases h
  case h_2 => cases h
  case h_3 interfaces _ _ =>
    obtain ⟨overridden, _, h⟩ := except_bind_ok h
    split at h
    case isFalse => cases h
    case isTrue =>
      cases h
      exact config.get?_set_of_ne _ ne

/-! ## Mesh configurations -/

lemma meshInterface_entries {j j' : Json} (h : ConfigMaker.meshInterface j = some j') :
    interfaceEntries j' = interfaceEntries j := by
  unfold ConfigMaker.meshInterface at h
  split at h
  case h_1 iface eq =>
    cases h
    rw [interfaceEntries, interfaceEntries, eq, Json.object?, Option.bind_some, Option.bind_some,
      Json.Object.getArray?_set_of_ne _ _ (by decide)]
  case h_2 =>
    cases h
    rfl
  case h_3 => cases h

/-- A mesh configuration has the SSIDs of the gateway. -/
lemma buildMeshConfig_entries {deviceObj config meshConfig : Json.Object}
    (cfg : deviceObj.getObject? "configuration" = some config)
    (h : ConfigMaker.buildMeshConfig (some deviceObj) = some meshConfig) :
    ssidEntries meshConfig = ssidEntries config := by
  rw [ConfigMaker.buildMeshConfig] at h
  rw [Option.bind_some, cfg] at h
  obtain ⟨c, h1, rfl⟩ := Option.map_eq_some_iff.mp h
  rw [ssidEntries_remove_of_ne c (by decide)]
  rw [ConfigMaker.meshInterfaces] at h1
  split at h1
  case h_1 interfaces eq =>
    obtain ⟨xs, eq', rfl⟩ := Option.map_eq_some_iff.mp h1
    rw [ssidEntries, ssidEntries, Json.Object.getArray?_set_self, eq]
    exact mapM_some_flatMap (fun _ _ => meshInterface_entries) eq'
  case h_2 =>
    cases h1
    rfl

end UserPortal.Sdk.Gw
