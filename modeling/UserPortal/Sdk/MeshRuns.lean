import UserPortal.Json.Print
import UserPortal.Sdk.SetConfigTraces

/-!
# SSID changes over runs of configure requests

A run is a sequence of `SetConfig` calls, each with whatever the other services have answered. A call
which changes SSIDs and succeeds has reached the mesh when the last configuration which every mesh
device got, in this call or before, carries the requested SSID.

The call compares only the gateway's configuration with the requested one. Where the gateway already
has it, because an earlier call has failed at a mesh device, the mesh is not configured.
-/

namespace UserPortal.Sdk.Gw
open Interaction Program

/-- A `SetConfig` call, its events and what it returned. -/
structure ConfigureStep (conv : Conversions) (condense : Json.Object → String) where
  bearerToken : String
  body : Option Json.Object
  subscriberDevices : List SubscriberDevice
  gatewaySerial : String
  subscriberId : String
  events : List Portal.Event
  result : CallResult
  /-- the gateway is one of the devices -/
  gateway_mem : ∃ d ∈ subscriberDevices, d.serialNumber = gatewaySerial
  trace : Trace (setConfig conv condense bearerToken body subscriberDevices gatewaySerial subscriberId)
    events result

variable {conv : Conversions} {condense : Json.Object → String}

/-- The events of a run. -/
def history (run : List (ConfigureStep conv condense)) : List Portal.Event :=
  run.flatMap fun s => s.events

lemma history_concat (run : List (ConfigureStep conv condense)) (s : ConfigureStep conv condense) :
    history (run ++ [s]) = history run ++ s.events := by
  rw [history, List.flatMap_append, List.flatMap_singleton]
  rfl

namespace ConfigureStep

variable (s : ConfigureStep conv condense)

/-- The call changes SSIDs and succeeds. -/
def ChangesSsid : Prop :=
  s.result.success = true ∧ ∃ b, s.body = some b ∧ b.has "ssid" = true

/-- The last configuration of every mesh device carries the requested SSID. -/
def MeshCarries (tr : List Portal.Event) : Prop :=
  ∃ b req, s.body = some b ∧ parseSsid conv b = .ok req ∧
    ∀ d ∈ s.subscriberDevices, IsMeshDevice s.gatewaySerial d →
      ∃ c, lastConfigured d.serialNumber tr = some c ∧ CarriesSsid req c

/-- The fetched configuration already is what the call asks for. -/
def Repeats : Prop :=
  ∃ b config updated, s.body = some b ∧ fetchedConfig s.events = some config ∧
    updatedConfig conv b config s.events = .ok updated ∧ condense updated = condense config

variable {s}

/-- A mesh device is not the gateway, so there are two devices. -/
lemma one_lt_devices {d : SubscriberDevice} (hd : d ∈ s.subscriberDevices)
    (mesh : IsMeshDevice s.gatewaySerial d) : 1 < s.subscriberDevices.length := by
  obtain ⟨g, hg, serial⟩ := s.gateway_mem
  have ne : d ≠ g := by
    intro e
    have other := mesh.2
    rw [← serial, e, isSameSerial_self] at other
    cases other
  cases eq : s.subscriberDevices with
  | nil =>
    rw [eq] at hd
    cases hd
  | cons x xs =>
    cases xs with
    | nil =>
      rw [eq] at hd hg
      exact absurd ((List.mem_singleton.mp hd).trans (List.mem_singleton.mp hg).symm) ne
    | cons y ys => exact Nat.lt_add_of_pos_left (Nat.succ_pos _)

/-- A call which repeats what the gateway has configures nothing. -/
lemma events_of_repeats (ok : s.result.success = true) (rep : s.Repeats) (serial : String) :
    s.events.filterMap (configured serial) = [] := by
  obtain ⟨b, deviceObj, config, updated, access, push, body, events, succeeds⟩ :=
    setConfig_success ok s.trace
  obtain ⟨b', config', updated', body', fetched, updates, same⟩ := rep
  obtain rfl := Option.some.inj (body.symm.trans body')
  rw [events, fetchedConfig, succeeds.fetched] at fetched
  cases fetched
  have updates' := succeeds.updates
  rw [events, updatedConfig, succeeds.lastMutation_eq, ← updatedConfig, updates'] at updates
  cases updates
  rcases succeeds.pushes with ⟨_, rfl⟩ | ⟨differ, _⟩
  · rw [events, List.append_nil, List.filterMap_cons_none (configured_getConfig ..),
      filterMap_accessEvents succeeds.access_events]
  · exact absurd same differ

/-- A call which does not repeat what the gateway has reaches every mesh device. -/
lemma meshCarries_of_changes (changes : s.ChangesSsid) (rep : ¬ s.Repeats) (tr : List Portal.Event) :
    s.MeshCarries (tr ++ s.events) := by
  obtain ⟨ok, b', body', ssid⟩ := changes
  obtain ⟨b, deviceObj, config, updated, access, push, body, events, succeeds⟩ :=
    setConfig_success ok s.trace
  obtain rfl := Option.some.inj (body.symm.trans body')
  obtain ⟨req, parsed, carries⟩ := succeeds.carries ssid
  refine ⟨b, req, body, parsed, ?_⟩
  intro d hd mesh
  rcases succeeds.pushes with ⟨same, _⟩ | ⟨_, pushed⟩
  · refine absurd ⟨b, config, updated, body, ?_, ?_, same⟩ rep
    · rw [events, fetchedConfig, succeeds.fetched]
    · rw [events, updatedConfig, succeeds.lastMutation_eq, ← updatedConfig, succeeds.updates]
  · obtain ⟨only, _, all⟩ := pushConfig_inv pushed
    have reached := all ssid (one_lt_devices hd mesh) d hd mesh
    -- the last configuration of the device is one of this push
    obtain ⟨c, hc⟩ := Option.isSome_iff_exists.mp (List.getLast?_isSome.mpr reached)
    refine ⟨c, ?_, ?_⟩
    · rw [lastConfigured, events, List.filterMap_append,
        List.filterMap_cons_none (configured_getConfig ..), List.filterMap_append,
        List.getLast?_append, List.getLast?_append, hc]
      rfl
    · rw [CarriesSsid, only d.serialNumber c (List.mem_of_getLast? hc)]
      exact carries

/-- A successful change of SSIDs has reached the mesh exactly when it changes the gateway or the mesh
already carried the SSID. -/
lemma meshCarries_iff (changes : s.ChangesSsid) (tr : List Portal.Event) :
    s.MeshCarries (tr ++ s.events) ↔ (s.Repeats → s.MeshCarries tr) := by
  by_cases rep : s.Repeats
  · have same : ∀ serial, lastConfigured serial (tr ++ s.events) = lastConfigured serial tr := by
      intro serial
      rw [lastConfigured, List.filterMap_append, events_of_repeats changes.1 rep, List.append_nil,
        lastConfigured]
    simp only [MeshCarries, same, rep, true_implies]
  · exact ⟨fun _ h => absurd h rep, fun _ => meshCarries_of_changes changes rep tr⟩

end ConfigureStep

/-- In a run, every successful change of SSIDs has reached the mesh exactly when each one whose
request the gateway already carried finds the mesh carrying it as well. -/
theorem reachesMesh_iff (run : List (ConfigureStep conv condense)) :
    (∀ before s after, run = before ++ s :: after → s.ChangesSsid →
      s.MeshCarries (history (before ++ [s]))) ↔
    ∀ before s after, run = before ++ s :: after → s.ChangesSsid → s.Repeats →
      s.MeshCarries (history before) := by
  refine ⟨?_, ?_⟩
  · intro h before s after eq changes
    apply (ConfigureStep.meshCarries_iff changes _).mp
    rw [← history_concat]
    exact h before s after eq changes
  · intro h before s after eq changes
    rw [history_concat]
    exact (ConfigureStep.meshCarries_iff changes _).mpr (h before s after eq changes)

/-! ### A retry after a failure at a mesh device -/

namespace Retry

/-- The configuration of a gateway with one interface, which has one SSID. -/
def config (name password : String) : Json.Object :=
  [("interfaces", .arr [.obj [("ssids", .arr [.obj
    [("encryption", .obj [("key", .str password)]), ("name", .str name)]])]])]

def body : Json.Object := [("ssid", .obj [("name", .str "home"), ("password", .str "password")])]

def devices : List SubscriberDevice :=
  [{ serialNumber := "gateway", deviceGroup := "olg" }, { serialNumber := "mesh" }]

/-- The gateway answers with a configuration. -/
def fetch (config : Json.Object) : Portal.Event :=
  ⟨.call (getConfigCall "" "gateway"),
    some ⟨HTTPStatus.ok, .json (.obj [("configuration", .obj config)])⟩⟩

/-- The configuration which the first call gives to the gateway. -/
def pushed : Json.Object := stampConfig (config "home" "password") 0

/-- The configuration which it sends to the mesh device. -/
def meshConfig : Json.Object :=
  stampConfig ((ConfigMaker.buildMeshConfig (some [("configuration", .obj pushed)])).getD []) 0

/-- The gateway is configured, but the mesh device does not answer. -/
def first : ConfigureStep Conversions.strict Json.Object.condense where
  bearerToken := ""
  body := some body
  subscriberDevices := devices
  gatewaySerial := "gateway"
  subscriberId := "subscriber"
  events := [fetch (config "guest" "openwifi"),
    ⟨.now, 0⟩, ⟨.call (configureCall "" "gateway" pushed 0), some ⟨HTTPStatus.ok, .json (.obj [])⟩⟩,
    ⟨.now, 0⟩, ⟨.call (configureCall "" "mesh" meshConfig 0), none⟩]
  result := CallResult.failure HTTPStatus.gatewayTimeout none
  gateway_mem := ⟨_, List.mem_cons_self .., rfl⟩
  trace := trace_iff_replay.mpr (by decide +kernel)

/-- The same request again. -/
def retry : ConfigureStep Conversions.strict Json.Object.condense where
  bearerToken := ""
  body := some body
  subscriberDevices := devices
  gatewaySerial := "gateway"
  subscriberId := "subscriber"
  events := [fetch pushed]
  result := { success := true, status := HTTPStatus.ok, response := some [] }
  gateway_mem := ⟨_, List.mem_cons_self .., rfl⟩
  trace := trace_iff_replay.mpr (by decide +kernel)

/-- The retry succeeds, and the mesh device was never configured. -/
theorem retry_not_reached :
    ¬ ∀ before (s : ConfigureStep Conversions.strict Json.Object.condense) after,
      [first, retry] = before ++ s :: after → s.ChangesSsid →
        s.MeshCarries (history (before ++ [s])) := by
  intro h
  obtain ⟨b, req, _, _, all⟩ := h [first] retry [] rfl ⟨rfl, body, rfl, by decide⟩
  obtain ⟨c, last, _⟩ := all { serialNumber := "mesh" } (by decide) ⟨by decide, by decide⟩
  have none : lastConfigured "mesh" (history [first, retry]) = none := by decide
  rw [List.singleton_append, none] at last
  cases last

end Retry

end UserPortal.Sdk.Gw
