import UserPortal.Json.Print
import UserPortal.RestApi.SubscriberDeviceTraces

/-!
# The gateway of a subscriber

The first device of a subscriber becomes its gateway: the group of a new device is read off the number of
the devices there are, and a new mesh device takes its configuration from the gateway. Deleting a device
does not look at its group.

`run_hasGateway_iff`: over a run of requests which succeed, one after another, the subscriber has exactly
one gateway whenever it has a device, and can add a further one, exactly when no request deletes the
gateway while there are other devices.
-/

namespace UserPortal.RestApi.SubscriberDevices
open Interaction Program Sdk Sdk.Prov ConfigMaker

/-! ## Requests -/

/-- A request which adds or deletes a device; the path of the request names it. -/
inductive DeviceRequest where
  | add (binding : String)
  | delete (binding : String)

/-- The steps of a request. -/
def DeviceRequest.steps (conv : Conversions) (stringify : Json.Object → String)
    (user : Security.UserInfoAndPolicy) : DeviceRequest → Handling Unit
  | add binding => addDevice conv stringify user binding
  | delete binding => deleteDevice user binding

/-- The user is the subscriber. -/
structure IsSubscriber (subscriberId operatorId : String) (user : Security.UserInfoAndPolicy) : Prop where
  id_eq : user.userinfo.id = subscriberId
  owner_eq : user.userinfo.owner = operatorId

section Runs

variable (conv : Conversions) (stringify : Json.Object → String) (subscriberId operatorId : String)

/-- A request of the subscriber which succeeds. -/
structure DeviceStep where
  user : Security.UserInfoAndPolicy
  subscriber : IsSubscriber subscriberId operatorId user
  request : DeviceRequest
  before : Store
  events : List Portal.Event
  after : Store
  succeeds : Trace (request.steps conv stringify user).run events (.ok ())
  accepted : Accepts (provisions conv subscriberId operatorId) before events after

/-- Requests which are handled one after another, from a store to a store. -/
inductive DeviceRun (start : Store) :
    List (DeviceStep conv stringify subscriberId operatorId) → Store → Prop where
  | nil : DeviceRun start [] start
  | snoc {steps : List (DeviceStep conv stringify subscriberId operatorId)} {s : Store}
    (step : DeviceStep conv stringify subscriberId operatorId) :
    DeviceRun start steps s →
    step.before = s →
    DeviceRun start (steps ++ [step]) step.after

/-- The other services serve a new device: the inventory has it, the configuration it depends on is valid,
and provisioning answers what it is asked. -/
structure Cooperates (e : Portal.Event) : Prop where
  lists : ∀ token id owner answer, e = ⟨.call (getDevicesCall token id owner), answer⟩ →
    ∃ devices, fetchedDevices conv answer = some devices
  finds : ∀ token serial answer, e = ⟨.call (getDeviceCall token serial), answer⟩ →
    Succeeds answer ∨ Unknown answer
  inventories : ∀ token mac answer, e = ⟨.call (inventoryCall token mac), answer⟩ →
    InInventory conv answer
  runs : ∀ token serial answer, e = ⟨.call (Gw.getConfigCall token serial), answer⟩ → RunsValid answer
  stores : ∀ token body answer, e = ⟨.call (createCall token body), answer⟩ → Stored conv answer

/-- A subscriber with a device has exactly one gateway. -/
def HasGateway (s : Store) : Prop :=
  s.devicesOf subscriberId operatorId ≠ [] →
    (s.devicesOf subscriberId operatorId).countP (fun r => r.deviceGroup = "olg") = 1

/-- Every request which adds a valid device with no record succeeds. -/
def AddsFurther (s : Store) : Prop :=
  ∀ user binding mac tr r s', IsSubscriber subscriberId operatorId user → subscriberId ≠ "" →
    Utils.normalizeMac binding = some mac → (∀ record ∈ s, record.serialNumber ≠ mac) →
    Trace (addDevice conv stringify user binding).run tr r →
    Accepts (provisions conv subscriberId operatorId) s tr s' → (∀ e ∈ tr, Cooperates conv e) →
      r = .ok ()

variable {conv stringify subscriberId operatorId} in
/-- The request deletes the gateway while the subscriber has other devices. -/
def DeviceStep.TakesGateway (step : DeviceStep conv stringify subscriberId operatorId) : Prop :=
  ∃ binding mac, step.request = .delete binding ∧ Utils.normalizeMac binding = some mac ∧
    (∃ r ∈ step.before.devicesOf subscriberId operatorId,
      r.deviceGroup = "olg" ∧ r.serialNumber = mac) ∧
    ∃ r ∈ step.before.devicesOf subscriberId operatorId, r.serialNumber ≠ mac

end Runs

/-! ## What a step does -/

section Steps

variable {conv : Conversions} {stringify : Json.Object → String} {subscriberId operatorId : String}

lemma normalizeMac_ne_empty {binding mac : String} (h : Utils.normalizeMac binding = some mac) :
    mac ≠ "" := by
  unfold Utils.normalizeMac at h
  dsimp only at h
  split at h
  case isTrue valid =>
    cases h
    intro empty
    have len := congrArg (fun s => s.toList.length) empty
    simp only [String.toList_ofList, List.length_map] at len
    rw [valid.1] at len
    cases len
  case isFalse => cases h

/-- The group of a new device, by the devices which are stored. -/
lemma newDeviceGroup_of_listed {devices : List Gw.SubscriberDevice} {records : List Record}
    (listed : devices.map (fun d => (d.serialNumber, d.deviceGroup)) =
      records.map fun r => (r.serialNumber, r.deviceGroup)) :
    newDeviceGroup devices = if records = [] then "olg" else "ap" := by
  have len := congrArg List.length listed
  rw [List.length_map, List.length_map] at len
  cases devices with
  | nil =>
    obtain rfl := List.length_eq_zero_iff.mp len.symm
    rfl
  | cons d devices =>
    cases records with
    | nil => cases len
    | cons r records => rfl

variable {user : Security.UserInfoAndPolicy} {binding : String} {before after : Store}
  {tr : List Portal.Event}

/-- Adding a device stores a record of the group which the devices give it. -/
lemma addDevice_stores (subscriber : IsSubscriber subscriberId operatorId user)
    (h : Trace (addDevice conv stringify user binding).run tr (.ok ()))
    (acc : Accepts (provisions conv subscriberId operatorId) before tr after) :
    ∃ mac, mac ≠ "" ∧ after.devicesOf subscriberId operatorId =
      before.devicesOf subscriberId operatorId ++ [{
        serialNumber := mac, subscriberId, operatorId,
        deviceGroup := if before.devicesOf subscriberId operatorId = [] then "olg" else "ap" }] := by
  obtain ⟨rfl, rfl⟩ := subscriber
  rcases addDevice_inv h with ⟨_, sent, failed⟩ |
    ⟨mac, list, devices, middle, configuration, stored, valid, fetched, reads, rfl, iff⟩
  · cases failed
  · obtain ⟨s1, ⟨answers, eq1⟩, acc1⟩ := accepts_cons.mp acc
    obtain ⟨s2, acc2, acc3⟩ := accepts_append.mp acc1
    obtain ⟨s3, ⟨_, eq3⟩, acc4⟩ := accepts_cons.mp acc3
    obtain rfl := accepts_nil.mp acc4
    obtain rfl := accepts_quiet (fun e he => (reads e he).quiet) acc2
    have list_quiet : Quiet (listEvent user list) := quiet_get rfl
    rw [next_of_quiet list_quiet] at eq1
    subst eq1
    have listed := answers.listing_devices devices (by
      rw [listEvent, listing_getDevices, fetched]
      rfl)
    obtain ⟨o, rfl, _⟩ := iff.mp rfl
    have record : created (createEvent user mac devices configuration
        (some ⟨HTTPStatus.ok, .json (.obj o)⟩)) =
          some ⟨mac, user.userinfo.id, user.userinfo.owner, newDeviceGroup devices⟩ :=
      (created_create ..).trans (if_pos rfl)
    refine ⟨mac, normalizeMac_ne_empty valid, ?_⟩
    rw [eq3, next_of_created record, newDeviceGroup_of_listed listed, Store.devicesOf, List.filter_append]
    congr 1
    exact List.filter_cons_of_pos (by simp)

/-- Deleting a device removes its record. -/
lemma deleteDevice_removes (h : Trace (deleteDevice user binding).run tr (.ok ()))
    (acc : Accepts (provisions conv subscriberId operatorId) before tr after) :
    ∃ mac, Utils.normalizeMac binding = some mac ∧ after.devicesOf subscriberId operatorId =
      (before.devicesOf subscriberId operatorId).filter fun r => r.serialNumber ≠ mac := by
  rcases deleteDevice_inv h with ⟨_, sent, failed⟩ | ⟨mac, answer, ⟨_, valid⟩, rfl, iff⟩
  · cases failed
  · obtain ⟨s1, ⟨_, eq1⟩, acc1⟩ := accepts_cons.mp acc
    obtain rfl := accepts_nil.mp acc1
    refine ⟨mac, valid, ?_⟩
    rw [eq1, next_of_deleted ((deleted_delete ..).trans (if_pos (iff.mp rfl))), Store.devicesOf,
      Store.devicesOf, List.filter_filter, List.filter_filter]
    congr 1
    funext r
    rw [Bool.and_comm]

end Steps

/-! ## The invariant -/

section Invariant

variable {conv : Conversions} {stringify : Json.Object → String} {subscriberId operatorId : String}
  {s : Store} {step : DeviceStep conv stringify subscriberId operatorId}

/-- The subscriber's records are ones which the portal has stored. -/
def WellFormed (subscriberId operatorId : String) (s : Store) : Prop :=
  ∀ r ∈ s.devicesOf subscriberId operatorId,
    (r.deviceGroup = "olg" ∨ r.deviceGroup = "ap") ∧ r.serialNumber ≠ ""

lemma DeviceStep.wellFormed (h : WellFormed subscriberId operatorId step.before) :
    WellFormed subscriberId operatorId step.after := by
  intro r hr
  cases eq : step.request with
  | add binding =>
    have succeeds := step.succeeds
    rw [eq] at succeeds
    obtain ⟨mac, ne, after⟩ := addDevice_stores step.subscriber succeeds step.accepted
    rw [after] at hr
    rcases List.mem_append.mp hr with hr | hr
    · exact h r hr
    · cases List.mem_singleton.mp hr
      refine ⟨?_, ne⟩
      dsimp only
      split
      case isTrue => exact .inl rfl
      case isFalse => exact .inr rfl
  | delete binding =>
    have succeeds := step.succeeds
    rw [eq] at succeeds
    obtain ⟨mac, _, after⟩ := deleteDevice_removes succeeds step.accepted
    rw [after] at hr
    exact h r (List.mem_filter.mp hr).1

/-- A step which does not take the gateway keeps it. -/
lemma DeviceStep.hasGateway (keeps : ¬ step.TakesGateway)
    (h : HasGateway subscriberId operatorId step.before) :
    HasGateway subscriberId operatorId step.after := by
  intro some
  cases eq : step.request with
  | add binding =>
    have succeeds := step.succeeds
    rw [eq] at succeeds
    obtain ⟨mac, _, after⟩ := addDevice_stores step.subscriber succeeds step.accepted
    rw [after, List.countP_append]
    by_cases first : step.before.devicesOf subscriberId operatorId = []
    · rw [first]
      rfl
    · rw [h first, if_neg first]
      rfl
  | delete binding =>
    have succeeds := step.succeeds
    rw [eq] at succeeds
    obtain ⟨mac, valid, after⟩ := deleteDevice_removes succeeds step.accepted
    rw [after] at some ⊢
    obtain ⟨r, rest⟩ := List.exists_mem_of_ne_nil _ some
    obtain ⟨mem, other⟩ := List.mem_filter.mp rest
    have one := h (List.ne_nil_of_mem mem)
    rw [List.countP_filter, ← one]
    -- no gateway is among the records of the deleted device
    apply List.countP_congr
    intro r' mem'
    have stays : r'.deviceGroup = "olg" → r'.serialNumber ≠ mac := fun gateway deleted =>
      keeps ⟨binding, mac, eq, valid, ⟨r', mem', gateway, deleted⟩, r, mem, of_decide_eq_true other⟩
    simp only [decide_eq_true_eq, Bool.and_eq_true]
    exact ⟨fun both => both.1, fun gateway => ⟨gateway, stays gateway⟩⟩

/-- A step which takes the gateway leaves the other devices without one. -/
lemma DeviceStep.not_hasGateway (takes : step.TakesGateway)
    (h : HasGateway subscriberId operatorId step.before) :
    ¬ HasGateway subscriberId operatorId step.after := by
  obtain ⟨binding, mac, eq, valid, ⟨gateway, mem, group, serial⟩, other, mem', ne⟩ := takes
  have succeeds := step.succeeds
  rw [eq] at succeeds
  obtain ⟨mac', valid', after⟩ := deleteDevice_removes succeeds step.accepted
  obtain rfl := Option.some_inj.mp (valid.symm.trans valid')
  intro has
  have one := h (List.ne_nil_of_mem mem)
  have stays : other ∈ step.after.devicesOf subscriberId operatorId := by
    rw [after]
    exact List.mem_filter.mpr ⟨mem', decide_eq_true ne⟩
  have one' := has (List.ne_nil_of_mem stays)
  rw [after] at one'
  -- the deleted gateway was a second one
  have split := List.countP_eq_countP_filter_add (step.before.devicesOf subscriberId operatorId)
    (fun r => r.deviceGroup = "olg") fun r => r.serialNumber ≠ mac
  rw [one, one'] at split
  have none := List.countP_eq_zero.mp (Nat.add_left_cancel split).symm gateway
    (List.mem_filter.mpr ⟨mem, by simp [serial]⟩)
  exact none (decide_eq_true group)

section Listed

variable {devices : List Gw.SubscriberDevice} {records : List Record}

/-- A device which is listed has a record. -/
lemma record_of_listed (listed : devices.map (fun d => (d.serialNumber, d.deviceGroup)) =
      records.map fun r => (r.serialNumber, r.deviceGroup))
    {d : Gw.SubscriberDevice} (hd : d ∈ devices) : ∃ r ∈ records, r.serialNumber = d.serialNumber := by
  have pair : (d.serialNumber, d.deviceGroup) ∈ records.map fun r => (r.serialNumber, r.deviceGroup) := by
    rw [← listed]
    exact List.mem_map_of_mem hd
  obtain ⟨r, hr, eq⟩ := List.mem_map.mp pair
  exact ⟨r, hr, (Prod.mk.inj eq).1⟩

/-- A device which has a record is listed. -/
lemma device_of_listed (listed : devices.map (fun d => (d.serialNumber, d.deviceGroup)) =
      records.map fun r => (r.serialNumber, r.deviceGroup))
    {r : Record} (hr : r ∈ records) : ∃ d ∈ devices, d.deviceGroup = r.deviceGroup := by
  have pair : (r.serialNumber, r.deviceGroup) ∈ devices.map fun d => (d.serialNumber, d.deviceGroup) := by
    rw [listed]
    exact List.mem_map_of_mem hr
  obtain ⟨d, hd, eq⟩ := List.mem_map.mp pair
  exact ⟨d, hd, (Prod.mk.inj eq).2⟩

/-- The gateway is found among the devices which are listed. -/
lemma findGatewaySerial_of_listed
    (listed : devices.map (fun d => (d.serialNumber, d.deviceGroup)) =
      records.map fun r => (r.serialNumber, r.deviceGroup))
    (serials : ∀ r ∈ records, r.serialNumber ≠ "") {gateway : Record} (mem : gateway ∈ records)
    (group : gateway.deviceGroup = "olg") : ActionHandler.findGatewaySerial devices ≠ none := by
  rw [ActionHandler.findGatewaySerial]
  cases eq : devices.find? fun device => Utils.toLower device.deviceGroup = "olg" with
  | none =>
    obtain ⟨d, hd, same⟩ := device_of_listed listed mem
    have lower := List.find?_eq_none.mp eq d hd
    rw [same, group] at lower
    exact absurd rfl lower
  | some d =>
    obtain ⟨r, hr, same⟩ := record_of_listed listed (List.mem_of_find?_eq_some eq)
    dsimp only
    rw [if_neg (same ▸ serials r hr)]
    exact nofun

/-- A device without a record is not listed. -/
lemma unlisted_of_new {mac : String}
    (listed : devices.map (fun d => (d.serialNumber, d.deviceGroup)) =
      (s.devicesOf subscriberId operatorId).map fun r => (r.serialNumber, r.deviceGroup))
    (new : ∀ record ∈ s, record.serialNumber ≠ mac) : ∀ d ∈ devices, d.serialNumber ≠ mac := by
  intro d hd eq
  obtain ⟨r, hr, same⟩ := record_of_listed listed hd
  exact new r (List.mem_filter.mp hr).1 (same.trans eq)

/-- There is a configuration for a further device: that of the new gateway, or what the gateway gives
the mesh. -/
lemma prepareConfiguration_succeeds (wellFormed : WellFormed subscriberId operatorId s)
    (h : HasGateway subscriberId operatorId s)
    (listed : devices.map (fun d => (d.serialNumber, d.deviceGroup)) =
      (s.devicesOf subscriberId operatorId).map fun r => (r.serialNumber, r.deviceGroup))
    {mac : String} {tr : List Portal.Event} {r : Except HandlerAnswer (List DeviceConfigurationElement)}
    (trace : Trace (prepareConfiguration stringify mac devices).run tr r)
    (cooperates : ∀ e ∈ tr, Cooperates conv e) : ∃ configuration, r = .ok configuration := by
  rcases prepareConfiguration_inv trace with ⟨serial, answer, rfl, ok⟩ | ⟨some, missing, _⟩
  · exact ok ((cooperates _ (List.mem_cons_self ..)).runs _ _ answer rfl)
  · have records : s.devicesOf subscriberId operatorId ≠ [] := by
      intro empty
      rw [empty] at listed
      exact some (List.map_eq_nil_iff.mp listed)
    have one := h records
    obtain ⟨gateway, mem, group⟩ := List.countP_pos_iff.mp (one ▸ Nat.one_pos)
    exact absurd missing (findGatewaySerial_of_listed listed (fun r hr => (wellFormed r hr).2) mem
      (of_decide_eq_true group))

end Listed

/-- A subscriber who has a gateway, or no device, can add a further device. -/
lemma addsFurther (wellFormed : WellFormed subscriberId operatorId s)
    (h : HasGateway subscriberId operatorId s) :
    AddsFurther conv stringify subscriberId operatorId s := by
  intro user binding mac tr r s' subscriber id valid new trace acc cooperates
  obtain ⟨rfl, rfl⟩ := subscriber
  -- the request is valid
  obtain ⟨_, tr1, mac', rfl, h1, trace1⟩ := trace_attempt_bind_of_ok trace fun _ _ r1 _ h1 =>
    ⟨mac, ((validateInputs_inv h1).2 mac).mpr ⟨id, valid⟩⟩
  obtain ⟨rfl, ok⟩ := validateInputs_inv h1
  obtain rfl := Option.some_inj.mp (valid.symm.trans ((ok mac').mp rfl).2)
  -- the devices are listed
  obtain ⟨_, tr2, devices, rfl, h2, trace2⟩ := trace_attempt_bind_of_ok trace1 fun _ _ r1 split h2 => by
    obtain ⟨list, rfl, ok⟩ := fetchSubscriberDevices_inv h2
    obtain ⟨devices, fetched⟩ :=
      (cooperates (listEvent user list) (by rw [split]; exact List.mem_cons_self ..)).lists _ _ _ list rfl
    exact ⟨devices, (ok devices).mpr fetched⟩
  obtain ⟨list, rfl, ok⟩ := fetchSubscriberDevices_inv h2
  have fetched := (ok devices).mp rfl
  obtain ⟨s1, ⟨answers, eq1⟩, acc1⟩ := accepts_cons.mp acc
  rw [next_of_quiet (quiet_get rfl)] at eq1
  subst eq1
  have listed := answers.listing_devices devices (by
    rw [listing_getDevices, fetched]
    rfl)
  have coop2 : ∀ e ∈ tr2, Cooperates conv e := (List.forall_mem_cons.mp cooperates).2
  -- the device has no record
  obtain ⟨_, tr3, _, rfl, h3, trace3⟩ := trace_attempt_bind_of_ok trace2 fun _ _ r1 split h3 => by
    rcases isDeviceAlreadyProvisioned_inv h3 with ⟨⟨d, hd, eq⟩, _⟩ | ⟨_, answer, rfl, ok⟩
    · exact absurd eq (unlisted_of_new listed new d hd)
    · refine ⟨(), ok.mpr ?_⟩
      rcases (coop2 _ (by rw [split]; exact List.mem_cons_self ..)).finds _ _ answer rfl
        with found | unknown
      · subst split
        obtain ⟨_, ⟨answers, _⟩, _⟩ := accepts_cons.mp acc1
        obtain ⟨record, mem, eq⟩ := answers.found_stored mac (found_getDevice _ _ found)
        exact absurd eq (new record mem)
      · exact unknown
  have coop3 := (List.forall_mem_append.mp coop2).2
  -- the inventory has the device
  obtain ⟨_, tr4, _, rfl, h4, trace4⟩ := trace_attempt_bind_of_ok trace3 fun _ _ r1 split h4 => by
    obtain ⟨answer, rfl, ok⟩ := isDevicePresentInInventory_inv h4
    exact ⟨(), ok.mpr ((coop3 _ (by rw [split]; exact List.mem_cons_self ..)).inventories _ _
      answer rfl)⟩
  have coop4 := (List.forall_mem_append.mp coop3).2
  -- there is a configuration for the device
  obtain ⟨_, tr5, configuration, rfl, h5, trace5⟩ :=
    trace_attempt_bind_of_ok trace4 fun _ _ r1 split h5 => by
      apply prepareConfiguration_succeeds wellFormed h listed h5
      rw [split] at coop4
      exact (List.forall_mem_append.mp coop4).1
  have coop5 := (List.forall_mem_append.mp coop4).2
  -- the record is stored
  obtain ⟨answer, rfl, ok⟩ := createProvisioningRecord_inv trace5
  exact ok.mpr ((coop5 _ (List.mem_singleton.mpr rfl)).stores _ _ answer rfl)

end Invariant

/-! ## Runs -/

section Runs

variable {conv : Conversions} {stringify : Json.Object → String} {subscriberId operatorId : String}
  {start s : Store} {steps : List (DeviceStep conv stringify subscriberId operatorId)}

lemma wellFormed_of_empty (empty : start.devicesOf subscriberId operatorId = []) :
    WellFormed subscriberId operatorId start := by
  intro r hr
  rw [empty] at hr
  cases hr

/-- The records of a run are ones which the portal has stored. -/
lemma DeviceRun.wellFormed (run : DeviceRun conv stringify subscriberId operatorId start steps s)
    (empty : start.devicesOf subscriberId operatorId = []) : WellFormed subscriberId operatorId s := by
  induction run with
  | nil => exact wellFormed_of_empty empty
  | snoc step _ eq ih =>
    subst eq
    exact step.wellFormed ih

/-- The subscriber has a gateway at the end of a run whose steps keep it. -/
lemma DeviceRun.hasGateway (run : DeviceRun conv stringify subscriberId operatorId start steps s)
    (empty : start.devicesOf subscriberId operatorId = [])
    (keeps : ∀ step ∈ steps, ¬ step.TakesGateway) : HasGateway subscriberId operatorId s := by
  induction run with
  | nil => exact fun some => absurd empty some
  | snoc step _ eq ih =>
    subst eq
    obtain ⟨before, last⟩ := List.forall_mem_append.mp keeps
    exact step.hasGateway (last step (List.mem_singleton.mpr rfl)) (ih before)

/-- Whenever a subscriber has a device, exactly one of them is its gateway, and a further device can be
added, exactly when no request deletes the gateway while there are other devices. -/
theorem run_hasGateway_iff (run : DeviceRun conv stringify subscriberId operatorId start steps s)
    (empty : start.devicesOf subscriberId operatorId = []) :
    (∀ step ∈ steps, HasGateway subscriberId operatorId step.after ∧
        AddsFurther conv stringify subscriberId operatorId step.after) ↔
      ∀ step ∈ steps, ¬ step.TakesGateway := by
  refine ⟨?_, ?_⟩
  · intro has
    induction run with
    | nil => exact nofun
    | snoc step run eq ih =>
      subst eq
      obtain ⟨before, last⟩ := List.forall_mem_append.mp has
      have keeps := ih before
      refine List.forall_mem_append.mpr ⟨keeps, List.forall_mem_singleton.mpr fun takes => ?_⟩
      exact step.not_hasGateway takes (run.hasGateway empty keeps) (List.forall_mem_singleton.mp last).1
  · intro keeps
    induction run with
    | nil => exact nofun
    | snoc step run eq ih =>
      have has := (DeviceRun.snoc step run eq).hasGateway empty keeps
      have wellFormed := (DeviceRun.snoc step run eq).wellFormed empty
      refine List.forall_mem_append.mpr ⟨ih (List.forall_mem_append.mp keeps).1, ?_⟩
      exact List.forall_mem_singleton.mpr ⟨has, addsFurther wellFormed has⟩

end Runs

namespace TwoDevices

/-- A subscriber. -/
def user : Security.UserInfoAndPolicy where
  webtoken := { accessToken := "token" }
  userinfo := { id := "subscriber", owner := "operator" }

/-- The configuration of a device. -/
def config : Json.Object :=
  [("configuration", .obj [("interfaces", .arr [.obj [
    ("ipv4", .obj [("addressing", .str "static")]),
    ("role", .str "downstream"),
    ("ssids", .arr [.obj [("bss-mode", .str "ap")], .obj [("bss-mode", .str "mesh")]]),
    ("tunnel", .obj [("proto", .str "mesh")])]])])]

/-- A reply with an object. -/
def reply (o : Json.Object) : Option Reply := some ⟨HTTPStatus.ok, .json (.obj o)⟩

def missing : Option Reply := some ⟨HTTPStatus.notFound, .json (.obj [])⟩

/-- A device in a reply. -/
def deviceJson (serial group : String) : Json :=
  .obj [("deviceGroup", .str group), ("serialNumber", .str serial)]

/-- The events of a request which adds a device: the devices which are listed, the device whose
configuration is fetched, and the configuration which is stored. -/
def addEvents (mac : String) (list : Option Reply) (devices : List Gw.SubscriberDevice) (source : String)
    (configuration : List DeviceConfigurationElement) : List Portal.Event :=
  [listEvent user list, ⟨.call (getDeviceCall "token" mac), missing⟩,
    ⟨.call (inventoryCall "" mac), reply []⟩, ⟨.call (Gw.getConfigCall "" source), reply config⟩,
    createEvent user mac devices configuration (reply [])]

def gatewayEvents : List Portal.Event :=
  addEvents "aaaaaaaaaaaa" missing [] "aaaaaaaaaaaa"
    ((buildGatewayConfig Json.Object.condense (some config) "aaaaaaaaaaaa").getD [])

def meshEvents : List Portal.Event :=
  addEvents "bbbbbbbbbbbb" (reply [("subscriberDevices", .arr [deviceJson "aaaaaaaaaaaa" "olg"])])
    [{ serialNumber := "aaaaaaaaaaaa", deviceGroup := "olg" }] "aaaaaaaaaaaa"
    (appendWeightedSections Json.Object.condense ((buildMeshConfig (some config)).getD []))

def deleteEvents : List Portal.Event := [⟨.call (deleteCall "token" "aaaaaaaaaaaa"), reply []⟩]

/-- The store of a subscriber's devices. -/
def store (devices : List (String × String)) : Store :=
  devices.map fun d => {
    serialNumber := d.1, subscriberId := "subscriber", operatorId := "operator", deviceGroup := d.2 }

/-- The subscriber adds a first device. -/
def first : DeviceStep Conversions.strict Json.Object.condense "subscriber" "operator" where
  user := user
  subscriber := ⟨rfl, rfl⟩
  request := .add "AA:AA:AA:AA:AA:AA"
  before := store []
  events := gatewayEvents
  after := store [("aaaaaaaaaaaa", "olg")]
  succeeds := trace_iff_replay.mpr (by decide +kernel)
  accepted := accepts_of_answers _ _ _ (by decide +kernel)

/-- The subscriber adds a second device. -/
def second : DeviceStep Conversions.strict Json.Object.condense "subscriber" "operator" where
  user := user
  subscriber := ⟨rfl, rfl⟩
  request := .add "BB:BB:BB:BB:BB:BB"
  before := store [("aaaaaaaaaaaa", "olg")]
  events := meshEvents
  after := store [("aaaaaaaaaaaa", "olg"), ("bbbbbbbbbbbb", "ap")]
  succeeds := trace_iff_replay.mpr (by decide +kernel)
  accepted := accepts_of_answers _ _ _ (by decide +kernel)

/-- The subscriber deletes the first device. -/
def third : DeviceStep Conversions.strict Json.Object.condense "subscriber" "operator" where
  user := user
  subscriber := ⟨rfl, rfl⟩
  request := .delete "AA:AA:AA:AA:AA:AA"
  before := store [("aaaaaaaaaaaa", "olg"), ("bbbbbbbbbbbb", "ap")]
  events := deleteEvents
  after := store [("bbbbbbbbbbbb", "ap")]
  succeeds := trace_iff_replay.mpr (by decide +kernel)
  accepted := accepts_of_answers _ _ _ (by decide +kernel)

lemma added : DeviceRun Conversions.strict Json.Object.condense "subscriber" "operator" (store [])
    [first, second] second.after :=
  .snoc second (.snoc first .nil rfl) rfl

/-- The first of two devices which are added is the gateway, and a third can be added. -/
theorem added_hasGateway :
    HasGateway "subscriber" "operator" second.after ∧
      AddsFurther Conversions.strict Json.Object.condense "subscriber" "operator" second.after := by
  have keeps : ∀ step ∈ [first, second], ¬ step.TakesGateway := by
    intro step mem takes
    obtain ⟨binding, mac, request, _⟩ := takes
    rcases List.mem_cons.mp mem with rfl | mem
    · cases request
    · cases List.mem_singleton.mp mem
      cases request
  exact (run_hasGateway_iff added rfl).mpr keeps second (by simp)

/-- Deleting the gateway leaves the second device without one. -/
theorem deleted_noGateway :
    ¬ ∀ (start s : Store)
      (steps : List (DeviceStep Conversions.strict Json.Object.condense "subscriber" "operator")),
      DeviceRun Conversions.strict Json.Object.condense "subscriber" "operator" start steps s →
        start.devicesOf "subscriber" "operator" = [] →
          ∀ step ∈ steps, HasGateway "subscriber" "operator" step.after := by
  intro all
  have has := all (store []) third.after [first, second, third] (.snoc third added rfl) rfl third (by simp)
  have some : third.after.devicesOf "subscriber" "operator" ≠ [] := by decide +kernel
  have none : (third.after.devicesOf "subscriber" "operator").countP
      (fun r => r.deviceGroup = "olg") = 0 := by decide +kernel
  rw [HasGateway, none] at has
  cases has some

end TwoDevices

end UserPortal.RestApi.SubscriberDevices
