import UserPortal.Sdk.SetConfigTraces

/-!
# What an event tells about the services

`fetched` is the configuration of a device which an event has returned, `produced` the snapshot of the
rules which the parental-control service has returned with a change.
-/

namespace UserPortal.Sdk.Gw
open Interaction Program

/-- The configuration of a device which an event has returned. -/
def fetched (serial : String) : Portal.Event → Option Json.Object
  | ⟨.call c, some ⟨status, .json (.obj deviceObj)⟩⟩ =>
    if c.verb = .get ∧ c.service = uSERVICE_GATEWAY ∧ c.endPoint = "/api/v1/device/" ++ serial ∧
        status = HTTPStatus.ok then
      Json.Object.getObject? deviceObj "configuration"
    else none
  | _ => none

/-- The parental-control service has accepted a change. -/
def isMutation : Portal.Event → Bool
  | ⟨.call c, some r⟩ =>
    c.service = uSERVICE_MANGO_PARENTAL_CONTROL && c.verb ≠ .get && r.status = HTTPStatus.ok
  | _ => false

/-- The snapshot with which a change was answered. -/
def produced (e : Portal.Event) : Option (List Json) :=
  (mutationResponse e).bind fun o =>
    (RestApi.extractConfigRawSnapshot (some o) true).bind fun configRaw => configRaw

/-- The snapshot with which the last change was answered. -/
def lastProduced (tr : List Portal.Event) : Option (List Json) := (tr.filterMap produced).getLast?

lemma fetched_getConfigCall {bearerToken serial : String} {deviceObj config : Json.Object}
    (cfg : deviceObj.getObject? "configuration" = some config) :
    fetched serial ⟨.call (getConfigCall bearerToken serial),
      some ⟨HTTPStatus.ok, .json (.obj deviceObj)⟩⟩ = some config := by
  rw [fetched, if_pos ⟨rfl, rfl, rfl, rfl⟩]
  exact cfg

/-- Only a GET returns a configuration. -/
lemma fetched_inv {serial : String} {e : Portal.Event} {config : Json.Object}
    (h : fetched serial e = some config) :
    ∃ c answer, e = ⟨.call c, answer⟩ ∧ c.verb = .get ∧ c.service = uSERVICE_GATEWAY := by
  unfold fetched at h
  split at h
  case h_1 c status deviceObj =>
    split at h
    case isTrue m => exact ⟨c, _, rfl, m.1, m.2.1⟩
    case isFalse => cases h
  case h_2 => cases h

/-- What returns a configuration changes none. -/
lemma configured_of_fetched {serial : String} {e : Portal.Event} {config : Json.Object}
    (h : fetched serial e = some config) : configured serial e = none := by
  obtain ⟨c, answer, rfl, get, _⟩ := fetched_inv h
  apply configured_of_verb
  rw [get]
  exact nofun

lemma produced_inv {e : Portal.Event} {cmds : List Json} (h : produced e = some cmds) :
    ∃ o, mutationResponse e = some o ∧
      RestApi.extractConfigRawSnapshot (some o) true = some (some cmds) := by
  obtain ⟨o, isMut, h⟩ := Option.bind_eq_some_iff.mp h
  obtain ⟨configRaw, ext, rfl⟩ := Option.bind_eq_some_iff.mp h
  exact ⟨o, isMut, ext⟩

lemma produced_of_mutationResponse {e : Portal.Event} (h : mutationResponse e = none) :
    produced e = none := by
  rw [produced, h]
  rfl

lemma isMutation_of_mutationResponse {e : Portal.Event} {o : Json.Object}
    (h : mutationResponse e = some o) : isMutation e = true := by
  obtain ⟨c, rfl, service, verb⟩ := mutationResponse_inv h
  simp [isMutation, service, verb]

/-- What changes the rules does not configure a device. -/
lemma configured_of_produced {serial : String} {e : Portal.Event} {cmds : List Json}
    (h : produced e = some cmds) : configured serial e = none := by
  obtain ⟨o, isMut, _⟩ := produced_inv h
  exact configured_accessEvent (.inr ⟨o, isMut⟩)

/-! ## Snapshots -/

/-- A snapshot which was extracted from an object is its `config-raw`. -/
lemma extract_get? {o : Json.Object} {required : Bool} {cmds : List Json}
    (h : RestApi.extractConfigRawSnapshot (some o) required = some (some cmds)) :
    o.get? "config-raw" = some (.arr cmds) := by
  simp only [RestApi.extractConfigRawSnapshot] at h
  split at h
  case h_1 => split at h <;> cases h
  case h_2 => cases h
  case h_3 configRaw eq =>
    split at h
    case isTrue =>
      cases h
      exact eq
    case isFalse => cases h
  case h_4 => cases h

/-- What is extracted where a `config-raw` is required is also extracted where it is not. -/
lemma extract_of_required {o : Json.Object} {required : Bool} {configRaw : Option (List Json)}
    (h : RestApi.extractConfigRawSnapshot (some o) true = some configRaw) :
    RestApi.extractConfigRawSnapshot (some o) required = some configRaw := by
  simp only [RestApi.extractConfigRawSnapshot] at h ⊢
  split at h
  case h_1 => cases h
  case h_2 eq => exact h
  case h_3 configRaw' eq => exact h
  case h_4 => cases h

/-- A configuration runs the commands of a snapshot; an empty one may be left out. -/
def RunsSnapshot (config : Json.Object) (cmds : List Json) : Prop :=
  config.get? "config-raw" = some (.arr cmds) ∨ cmds = [] ∧ config.get? "config-raw" = none

instance (config : Json.Object) (cmds : List Json) : Decidable (RunsSnapshot config cmds) :=
  inferInstanceAs (Decidable (_ ∨ _ ∧ _))

lemma runsSnapshot_of_get? {a b : Json.Object} {cmds : List Json}
    (eq : a.get? "config-raw" = b.get? "config-raw") : RunsSnapshot a cmds ↔ RunsSnapshot b cmds := by
  rw [RunsSnapshot, RunsSnapshot, eq]

lemma runsSnapshot_stampConfig {config : Json.Object} {now : Nat} {cmds : List Json} :
    RunsSnapshot (stampConfig config now) cmds ↔ RunsSnapshot config cmds :=
  runsSnapshot_of_get? (config.get?_set_of_ne _ (by decide))

/-- The configuration updated with a snapshot runs it. -/
lemma updateConfigRaw_runsSnapshot {config o : Json.Object} {cmds : List Json}
    (h : RestApi.extractConfigRawSnapshot (some o) true = some (some cmds)) :
    RunsSnapshot (updateConfigRaw config (some o)) cmds := by
  have ext : RestApi.extractConfigRawSnapshot (some o) false = some (some cmds) := extract_of_required h
  rw [updateConfigRaw, Option.bind_some, ext]
  cases cmds with
  | nil => exact .inr ⟨rfl, config.get?_remove_self _⟩
  | cons cmd cmds => exact .inl (config.get?_set_self _ _)

/-! ## Successful configure requests -/

namespace Succeeds

variable {conv : Conversions} {condense : Json.Object → String} {bearerToken gatewaySerial : String}
  {b : Json.Object} {devices : List SubscriberDevice} {deviceObj config updated : Json.Object}
  {access push : List Portal.Event}

/-- The configuration of a successful configure request runs the snapshot of its last change. -/
lemma snapshot
    (h : Succeeds conv condense bearerToken b devices gatewaySerial deviceObj config updated access push)
    (answered : ∀ e ∈ access, isMutation e = true → (produced e).isSome) :
    (∀ cmds, lastProduced access = some cmds → RunsSnapshot updated cmds) ∧
      (lastProduced access = none → updated.get? "config-raw" = config.get? "config-raw") := by
  cases client : b.has "client" with
  | true =>
    obtain ⟨pre, e, o, rfl, isMut⟩ := h.access_last client
    obtain ⟨cmds, prod⟩ := Option.isSome_iff_exists.mp
      (answered e (by simp) (isMutation_of_mutationResponse isMut))
    have last : lastProduced (pre ++ [e]) = some cmds := by
      rw [lastProduced, List.filterMap_append, List.filterMap_cons_some prod, List.filterMap_nil,
        List.getLast?_concat]
    have lastMut : lastMutation (pre ++ [e]) = some o := by
      rw [lastMutation, List.filterMap_append, List.filterMap_cons_some isMut, List.filterMap_nil,
        List.getLast?_concat]
    obtain ⟨o', isMut', ext⟩ := produced_inv prod
    rw [isMut] at isMut'
    cases isMut'
    have updates := h.updates
    rw [updatedConfig, client, lastMut] at updates
    obtain ⟨mid, _, updates⟩ := except_map_ok updates
    rw [last]
    refine ⟨?_, fun none => by cases none⟩
    intro cmds' eq
    cases eq
    rw [← updates]
    exact updateConfigRaw_runsSnapshot ext
  | false =>
    have updates := h.updates
    rw [h.access_none client, lastProduced, List.filterMap_nil, List.getLast?_nil]
    refine ⟨fun cmds eq => (by cases eq), fun _ => ?_⟩
    rw [updatedConfig, client] at updates
    obtain ⟨mid, applied, updates⟩ := except_map_ok updates
    cases updates
    split at applied
    case isTrue =>
      obtain ⟨req, _, applied⟩ := except_bind_ok applied
      exact overrideInterfaces_get? applied (by decide)
    case isFalse =>
      cases applied
      rfl

/-- The configuration of a successful configure request without an SSID keeps the SSIDs. -/
lemma entries
    (h : Succeeds conv condense bearerToken b devices gatewaySerial deviceObj config updated access push)
    (no : b.has "ssid" = false) : ssidEntries updated = ssidEntries config := by
  have updates := h.updates
  rw [updatedConfig, no] at updates
  obtain ⟨mid, applied, updates⟩ := except_map_ok updates
  cases applied
  cases updates
  split
  case isTrue => exact ssidEntries_updateConfigRaw _ _
  case isFalse => rfl

end Succeeds

end UserPortal.Sdk.Gw
