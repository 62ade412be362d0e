import UserPortal.RestApi.SubscriberDevices
import UserPortal.Sdk.Provisioning
import UserPortal.Sdk.Traces

/-!
# What adding and deleting a device asks

Each step of the handler asks at most one service, and the answer decides whether it goes on. Adding a
device asks for the devices of the subscriber first and stores the new record last (`addDevice_inv`); in
between nothing is stored.
-/

namespace UserPortal.RestApi.SubscriberDevices
open Interaction Program Sdk Sdk.Prov ConfigMaker

variable {conv : Conversions} {stringify : Json.Object → String} {user : Security.UserInfoAndPolicy}
  {method binding mac : String} {existingDevices : List Gw.SubscriberDevice} {tr : List Portal.Event}

/-- A lenient call is answered with a success. -/
lemma lenient_ok (previous : Option Json.Object) {answer : Option Reply} :
    (OpenAPIRequest.lenient previous answer).1 = HTTPStatus.ok ↔ Succeeds answer := by
  cases answer with
  | none => exact ⟨nofun, nofun⟩
  | some r => exact (Option.some_inj (a := r.status) (b := HTTPStatus.ok)).symm

/-! ## The steps -/

/-- When the inputs are accepted. -/
lemma validateInputs_inv {r : Except HandlerAnswer String}
    (h : Trace (validateInputs user method binding).run tr r) :
    tr = [] ∧ (∀ mac, r = .ok mac ↔ user.userinfo.id ≠ "" ∧ Utils.normalizeMac binding = some mac) := by
  rw [validateInputs] at h
  split at h
  case isTrue empty =>
    obtain ⟨rfl, rfl⟩ := trace_attempt_throw.mp h
    exact ⟨rfl, fun mac => ⟨nofun, fun valid => absurd empty valid.1⟩⟩
  case isFalse id =>
    split at h
    case h_1 mac eq =>
      obtain ⟨rfl, rfl⟩ := trace_attempt_pure.mp h
      refine ⟨rfl, fun mac' => ?_⟩
      rw [eq, Except.ok.injEq, Option.some_inj]
      exact ⟨fun e => ⟨id, e⟩, fun e => e.2⟩
    case h_2 eq =>
      obtain ⟨rfl, rfl⟩ := trace_attempt_throw.mp h
      refine ⟨rfl, fun mac' => ⟨nofun, fun valid => ?_⟩⟩
      rw [eq] at valid
      cases valid.2

/-- What fetching the devices has done. -/
lemma fetchSubscriberDevices_inv {r : Except HandlerAnswer (List Gw.SubscriberDevice)}
    (h : Trace (fetchSubscriberDevices conv user).run tr r) :
    ∃ answer, tr = [⟨.call (getDevicesCall "" user.userinfo.id user.userinfo.owner), answer⟩] ∧
      ∀ devices, r = .ok devices ↔ fetchedDevices conv answer = some devices := by
  obtain ⟨tr1, tr2, ⟨devices, status, response⟩, rfl, h1, h2⟩ := trace_attempt_lift_bind.mp h
  obtain ⟨answer, rfl, listed, eq⟩ := getDevices_inv h1
  obtain rfl : status = (OpenAPIRequest.lenient (some []) answer).1 := congrArg Prod.fst eq
  dsimp only at h2 listed
  refine ⟨answer, ?_⟩
  rw [fetchedDevices]
  by_cases ok : (OpenAPIRequest.lenient (some []) answer).1 = HTTPStatus.ok
  · rw [if_pos ok]
    rw [listedInto, if_pos ⟨rfl, rfl, ok⟩] at listed
    rw [← listed]
    cases devices with
    | some devices =>
      obtain ⟨rfl, rfl⟩ := trace_attempt_pure.mp h2
      refine ⟨rfl, fun devices' => ?_⟩
      rw [Except.ok.injEq, Option.some_inj]
    | none =>
      dsimp only at h2
      rw [if_neg (by rw [ok]; decide)] at h2
      obtain ⟨rfl, rfl⟩ := trace_attempt_throw.mp h2
      refine ⟨rfl, fun devices' => ⟨?_, ?_⟩⟩
      · intro eq
        cases eq
      · intro eq
        cases eq
  · rw [if_neg ok]
    rw [listedInto, if_neg fun cond => ok cond.2.2] at listed
    subst listed
    dsimp only at h2
    split at h2
    case isTrue missing =>
      obtain ⟨rfl, rfl⟩ := trace_attempt_pure.mp h2
      refine ⟨rfl, fun devices' => ?_⟩
      rw [if_pos missing, Except.ok.injEq, Option.some_inj]
    case isFalse other =>
      obtain ⟨rfl, rfl⟩ := trace_attempt_throw.mp h2
      refine ⟨rfl, fun devices' => ⟨?_, ?_⟩⟩
      · intro eq
        cases eq
      · intro eq
        rw [if_neg other] at eq
        cases eq

/-- The service does not know the device. -/
def Unknown (answer : Option Reply) : Prop := answer.map Reply.status = some HTTPStatus.notFound

/-- What the check for an assigned device has done. -/
lemma isDeviceAlreadyProvisioned_inv {r : Except HandlerAnswer Unit}
    (h : Trace (isDeviceAlreadyProvisioned conv user mac existingDevices).run tr r) :
    (∃ device ∈ existingDevices, device.serialNumber = mac) ∧ tr = [] ∧ (∃ sent, r = .error sent) ∨
      (∀ device ∈ existingDevices, device.serialNumber ≠ mac) ∧
        ∃ answer, tr = [⟨.call (getDeviceCall user.webtoken.accessToken mac), answer⟩] ∧
          (r = .ok () ↔ Unknown answer) := by
  rw [isDeviceAlreadyProvisioned] at h
  split at h
  case isTrue listed =>
    obtain ⟨rfl, rfl⟩ := trace_attempt_throw.mp h
    obtain ⟨device, mem, eq⟩ := List.any_eq_true.mp listed
    exact .inl ⟨⟨device, mem, of_decide_eq_true eq⟩, rfl, _, rfl⟩
  case isFalse unlisted =>
    refine .inr ⟨?_, ?_⟩
    · intro device mem eq
      exact unlisted (List.any_eq_true.mpr ⟨device, mem, decide_eq_true eq⟩)
    · obtain ⟨tr1, tr2, a, rfl, h1, h2⟩ := trace_attempt_lift_bind.mp h
      obtain ⟨answer, rfl, rfl⟩ := getDevice_inv h1
      refine ⟨answer, ?_⟩
      have unknown : Unknown answer ↔
          (OpenAPIRequest.lenient (some []) answer).1 = HTTPStatus.notFound := by
        cases answer with
        | none => exact ⟨nofun, nofun⟩
        | some r => exact Option.some_inj
      rw [unknown]
      dsimp only at h2
      split at h2
      case isTrue found =>
        obtain ⟨rfl, rfl⟩ := trace_attempt_throw.mp h2
        refine ⟨rfl, nofun, fun missing => ?_⟩
        rw [missing] at found
        cases found
      case isFalse =>
        split at h2
        case isTrue other =>
          obtain ⟨rfl, rfl⟩ := trace_attempt_throw.mp h2
          exact ⟨rfl, nofun, fun missing => absurd missing other⟩
        case isFalse missing =>
          obtain ⟨rfl, rfl⟩ := trace_attempt_pure.mp h2
          exact ⟨rfl, fun _ => not_not.mp missing, fun _ => rfl⟩

/-- The inventory has the device. -/
def InInventory (conv : Conversions) (answer : Option Reply) : Prop :=
  Succeeds answer ∧ (OpenAPIRequest.lenient (some []) answer).2.any (inventoryTagReads conv) = true

/-- What the check of the inventory has done. -/
lemma isDevicePresentInInventory_inv {r : Except HandlerAnswer Unit}
    (h : Trace (isDevicePresentInInventory conv mac).run tr r) :
    ∃ answer, tr = [⟨.call (inventoryCall "" mac), answer⟩] ∧
      (r = .ok () ↔ InInventory conv answer) := by
  obtain ⟨tr1, tr2, present, rfl, h1, h2⟩ := trace_attempt_lift_bind.mp h
  obtain ⟨answer, rfl, rfl⟩ := inventoryHas_inv h1
  refine ⟨answer, ?_⟩
  rw [InInventory, ← lenient_ok (some [])]
  split at h2
  case isTrue present =>
    obtain ⟨rfl, rfl⟩ := trace_attempt_pure.mp h2
    rw [Bool.and_eq_true, decide_eq_true_eq] at present
    exact ⟨rfl, fun _ => present, fun _ => rfl⟩
  case isFalse missing =>
    obtain ⟨rfl, rfl⟩ := trace_attempt_throw.mp h2
    rw [Bool.and_eq_true, decide_eq_true_eq] at missing
    exact ⟨rfl, nofun, fun present => absurd present missing⟩

/-- A device runs a valid configuration. -/
def RunsValid (answer : Option Reply) : Prop :=
  (OpenAPIRequest.lenient none answer).1 = HTTPStatus.ok ∧
    validateConfig (OpenAPIRequest.lenient none answer).2 = true

/-- A device with a valid configuration has a `configuration`. -/
lemma hasConfiguration_of_valid {response : Option Json.Object} (h : validateConfig response = true) :
    Gw.hasConfiguration response = true := by
  obtain ⟨o, configuration, _, rfl, eq, _⟩ := validateConfig_inv h
  exact Json.Object.has_of_getObject? eq

/-- A device which runs a valid configuration is read. -/
lemma getConfig_of_valid {serial : String} {r : CallResult}
    (h : Trace (Gw.getConfig "" serial) tr r) :
    ∃ answer, tr = [⟨.call (Gw.getConfigCall "" serial), answer⟩] ∧
      (RunsValid answer → r.success = true ∧ validateConfig r.response = true) := by
  obtain ⟨answer, rfl, success, eq⟩ := Gw.getConfig_inv h
  refine ⟨answer, rfl, ?_⟩
  rintro ⟨ok, valid⟩
  rw [← eq] at ok valid
  refine ⟨?_, valid⟩
  rw [success, hasConfiguration_of_valid valid, Bool.and_true]
  exact decide_eq_true ok

/-- A gateway gets a configuration where its own one is valid. -/
lemma prepareGatewayConfiguration_inv {r : Except HandlerAnswer (List DeviceConfigurationElement)}
    (h : Trace (prepareGatewayConfiguration stringify mac).run tr r) :
    ∃ answer, tr = [⟨.call (Gw.getConfigCall "" mac), answer⟩] ∧
      (RunsValid answer → ∃ configuration, r = .ok configuration) := by
  obtain ⟨tr1, tr2, a, rfl, h1, h2⟩ := trace_attempt_lift_bind.mp h
  obtain ⟨answer, rfl, runs⟩ := getConfig_of_valid h1
  refine ⟨answer, ?_⟩
  split at h2
  case isTrue =>
    cases built : buildGatewayConfig stringify a.response mac with
    | some configuration =>
      rw [built] at h2
      obtain ⟨rfl, rfl⟩ := trace_attempt_pure.mp h2
      exact ⟨rfl, fun _ => ⟨configuration, rfl⟩⟩
    | none =>
      rw [built] at h2
      obtain ⟨rfl, rfl⟩ := trace_attempt_throw.mp h2
      refine ⟨rfl, fun valid => ?_⟩
      rw [buildGatewayConfig, if_pos (runs valid).2] at built
      cases built
  case isFalse failed =>
    obtain ⟨rfl, rfl⟩ := trace_attempt_throw.mp h2
    exact ⟨rfl, fun valid => absurd (runs valid).1 failed⟩

/-- A mesh device gets a configuration where there is a gateway whose one is valid. -/
lemma prepareMeshConfiguration_inv {r : Except HandlerAnswer (List DeviceConfigurationElement)}
    (h : Trace (prepareMeshConfiguration stringify existingDevices).run tr r) :
    (∃ serial answer, tr = [⟨.call (Gw.getConfigCall "" serial), answer⟩] ∧
        (RunsValid answer → ∃ configuration, r = .ok configuration)) ∨
      ActionHandler.findGatewaySerial existingDevices = none ∧ tr = [] ∧ ∃ sent, r = .error sent := by
  rw [prepareMeshConfiguration] at h
  cases gateway : ActionHandler.findGatewaySerial existingDevices with
  | none =>
    rw [gateway] at h
    obtain ⟨rfl, rfl⟩ := trace_attempt_throw.mp h
    exact .inr ⟨rfl, rfl, _, rfl⟩
  | some gatewayMac =>
    rw [gateway] at h
    obtain ⟨tr1, tr2, a, rfl, h1, h2⟩ := trace_attempt_lift_bind.mp h
    obtain ⟨answer, rfl, runs⟩ := getConfig_of_valid h1
    refine .inl ⟨gatewayMac, answer, ?_⟩
    split at h2
    case isTrue failed =>
      obtain ⟨rfl, rfl⟩ := trace_attempt_throw.mp h2
      refine ⟨rfl, fun valid => ?_⟩
      rw [(runs valid).1] at failed
      cases failed
    case isFalse =>
      split at h2
      case isTrue invalid =>
        obtain ⟨rfl, rfl⟩ := trace_attempt_throw.mp h2
        refine ⟨rfl, fun valid => ?_⟩
        rw [(runs valid).2] at invalid
        cases invalid
      case isFalse =>
        cases built : buildMeshConfig a.response with
        | some meshConfig =>
          rw [built] at h2
          obtain ⟨rfl, rfl⟩ := trace_attempt_pure.mp h2
          exact ⟨rfl, fun _ => ⟨_, rfl⟩⟩
        | none =>
          rw [built] at h2
          obtain ⟨rfl, rfl⟩ := trace_attempt_throw.mp h2
          refine ⟨rfl, fun valid => ?_⟩
          obtain ⟨meshConfig, eq⟩ := buildMeshConfig_of_valid (runs valid).2
          rw [eq] at built
          cases built

/-- The configuration of the device or of the gateway is fetched, unless there is no gateway. -/
lemma prepareConfiguration_inv {r : Except HandlerAnswer (List DeviceConfigurationElement)}
    (h : Trace (prepareConfiguration stringify mac existingDevices).run tr r) :
    (∃ serial answer, tr = [⟨.call (Gw.getConfigCall "" serial), answer⟩] ∧
        (RunsValid answer → ∃ configuration, r = .ok configuration)) ∨
      existingDevices ≠ [] ∧ ActionHandler.findGatewaySerial existingDevices = none ∧ tr = [] ∧
        ∃ sent, r = .error sent := by
  rw [prepareConfiguration] at h
  split at h
  case isTrue =>
    obtain ⟨answer, eq, valid⟩ := prepareGatewayConfiguration_inv h
    exact .inl ⟨mac, answer, eq, valid⟩
  case isFalse mesh =>
    rcases prepareMeshConfiguration_inv h with fetched | missing
    · exact .inl fetched
    · refine .inr ⟨?_, missing⟩
      rintro rfl
      exact mesh rfl

/-- The record is stored. -/
def Stored (conv : Conversions) (answer : Option Reply) : Prop :=
  ∃ o, answer = some ⟨HTTPStatus.ok, .json (.obj o)⟩ ∧ subscriberDeviceReads conv o = true

/-- What creating the record has done. -/
lemma createProvisioningRecord_inv {configuration : List DeviceConfigurationElement}
    {r : Except HandlerAnswer Unit}
    (h : Trace (createProvisioningRecord conv user mac existingDevices configuration).run tr r) :
    ∃ answer, tr = [⟨.call (createCall user.webtoken.accessToken (createBody (newDeviceName existingDevices)
        mac user.userinfo.id user.userinfo.owner (newDeviceGroup existingDevices) configuration)),
        answer⟩] ∧
      (r = .ok () ↔ Stored conv answer) := by
  obtain ⟨tr1, tr2, ⟨created, callStatus, callResponse⟩, rfl, h1, h2⟩ := trace_attempt_lift_bind.mp h
  obtain ⟨answer, rfl, eq⟩ := createSubsciberDevice_inv h1
  have created_eq := congrArg Prod.fst eq
  refine ⟨answer, ?_⟩
  have stored : ((OpenAPIRequest.strict (some []) answer).1 = HTTPStatus.ok ∧
      (OpenAPIRequest.strict (some []) answer).2.any (subscriberDeviceReads conv) = true) ↔
        Stored conv answer := by
    refine ⟨?_, ?_⟩
    · rintro ⟨ok, reads⟩
      obtain ⟨⟨status, body⟩, o, rfl, rfl, rfl, eq⟩ := OpenAPIRequest.strict_ok ok
      rw [eq] at reads
      exact ⟨o, rfl, reads⟩
    · rintro ⟨o, rfl, reads⟩
      exact ⟨rfl, reads⟩
  have iff : created = true ↔ Stored conv answer := by
    rw [← stored, show created = _ from created_eq, Bool.and_eq_true, decide_eq_true_eq]
  dsimp only at h2
  split at h2
  case isTrue created =>
    obtain ⟨rfl, rfl⟩ := trace_attempt_pure.mp h2
    exact ⟨rfl, fun _ => iff.mp created, fun _ => rfl⟩
  case isFalse failed =>
    obtain ⟨rfl, rfl⟩ := trace_attempt_throw.mp h2
    exact ⟨rfl, nofun, fun created => absurd (iff.mpr created) failed⟩

/-! ## The requests -/

/-- An event which reads something else than the devices of a subscriber. -/
def Reads (e : Portal.Event) : Prop :=
  ∃ c answer, e = ⟨.call c, answer⟩ ∧ c.verb = .get ∧ c.queryData = []

/-- What only reads changes no record. -/
lemma Reads.quiet {e : Portal.Event} (h : Reads e) : Quiet e := by
  obtain ⟨c, answer, rfl, get, _⟩ := h
  exact quiet_get get

/-- Nor does it list the devices. -/
lemma Reads.listing_eq {e : Portal.Event} (h : Reads e) (subscriberId operatorId : String) :
    listing conv subscriberId operatorId e = none := by
  obtain ⟨c, answer, rfl, _, query⟩ := h
  rw [listing]
  apply if_neg
  intro eq
  rw [eq] at query
  cases query

/-- Preparing a configuration only reads. -/
lemma prepareConfiguration_reads {r : Except HandlerAnswer (List DeviceConfigurationElement)}
    (h : Trace (prepareConfiguration stringify mac existingDevices).run tr r) : ∀ e ∈ tr, Reads e := by
  rcases prepareConfiguration_inv h with ⟨serial, answer, rfl, _⟩ | ⟨_, _, rfl, _⟩
  · intro e he
    cases List.mem_singleton.mp he
    exact ⟨_, answer, rfl, rfl, rfl⟩
  · exact nofun

/-- The event which stores the record of a new device. -/
def createEvent (user : Security.UserInfoAndPolicy) (mac : String) (devices : List Gw.SubscriberDevice)
    (configuration : List DeviceConfigurationElement) (answer : Option Reply) : Portal.Event :=
  ⟨.call (createCall user.webtoken.accessToken (createBody (newDeviceName devices) mac user.userinfo.id
    user.userinfo.owner (newDeviceGroup devices) configuration)), answer⟩

/-- The event which lists the devices of a subscriber. -/
def listEvent (user : Security.UserInfoAndPolicy) (answer : Option Reply) : Portal.Event :=
  ⟨.call (getDevicesCall "" user.userinfo.id user.userinfo.owner), answer⟩

/-- A request which adds a device lists the devices of the subscriber, then only reads, and stores the
record at its end, if it comes to it. Else it stores nothing. -/
lemma addDevice_inv {r : Except HandlerAnswer Unit}
    (h : Trace (addDevice conv stringify user binding).run tr r) :
    (∀ e ∈ tr, Quiet e) ∧ (∃ sent, r = .error sent) ∨
      ∃ mac list devices middle configuration stored,
        Utils.normalizeMac binding = some mac ∧ fetchedDevices conv list = some devices ∧
        (∀ e ∈ middle, Reads e) ∧
        tr = listEvent user list :: (middle ++ [createEvent user mac devices configuration stored]) ∧
        (r = .ok () ↔ Stored conv stored) := by
  rcases trace_attempt_bind.mp h with ⟨sent, rfl, h1⟩ | ⟨tr1, tr2, mac, rfl, h1, h2⟩
  · obtain ⟨rfl, _⟩ := validateInputs_inv h1
    exact .inl ⟨nofun, sent, rfl⟩
  obtain ⟨rfl, valid⟩ := validateInputs_inv h1
  rw [List.nil_append]
  have valid := ((valid mac).mp rfl).2
  rcases trace_attempt_bind.mp h2 with ⟨sent, rfl, h3⟩ | ⟨tr3, tr4, devices, rfl, h3, h4⟩
  · obtain ⟨list, rfl, _⟩ := fetchSubscriberDevices_inv h3
    refine .inl ⟨?_, sent, rfl⟩
    intro e he
    cases List.mem_singleton.mp he
    exact quiet_get rfl
  obtain ⟨list, rfl, fetched⟩ := fetchSubscriberDevices_inv h3
  have fetched := (fetched devices).mp rfl
  have listQuiet : Quiet (listEvent user list) := quiet_get rfl
  -- what comes after the listing: either it only reads and fails, or it ends with the record
  suffices rest : (∀ e ∈ tr4, Reads e) ∧ (∃ sent, r = .error sent) ∨
      ∃ middle configuration stored, (∀ e ∈ middle, Reads e) ∧
        tr4 = middle ++ [createEvent user mac devices configuration stored] ∧
        (r = .ok () ↔ Stored conv stored) by
    rcases rest with ⟨reads, failed⟩ | ⟨middle, configuration, stored, reads, rfl, iff⟩
    · exact .inl ⟨List.forall_mem_cons.mpr ⟨listQuiet, fun e he => (reads e he).quiet⟩, failed⟩
    · exact .inr ⟨mac, list, devices, middle, configuration, stored, valid, fetched, reads, rfl, iff⟩
  have foundReads : ∀ {tr r}, Trace (isDeviceAlreadyProvisioned conv user mac devices).run tr r →
      ∀ e ∈ tr, Reads e := by
    intro tr r h
    rcases isDeviceAlreadyProvisioned_inv h with ⟨_, rfl, _⟩ | ⟨_, answer, rfl, _⟩
    · exact nofun
    · intro e he
      cases List.mem_singleton.mp he
      exact ⟨_, answer, rfl, rfl, rfl⟩
  have inventoryReads : ∀ {tr r}, Trace (isDevicePresentInInventory conv mac).run tr r →
      ∀ e ∈ tr, Reads e := by
    intro tr r h
    obtain ⟨answer, rfl, _⟩ := isDevicePresentInInventory_inv h
    intro e he
    cases List.mem_singleton.mp he
    exact ⟨_, answer, rfl, rfl, rfl⟩
  rcases trace_attempt_bind.mp h4 with ⟨sent, rfl, h5⟩ | ⟨tr5, tr6, _, rfl, h5, h6⟩
  · exact .inl ⟨foundReads h5, sent, rfl⟩
  rcases trace_attempt_bind.mp h6 with ⟨sent, rfl, h7⟩ | ⟨tr7, tr8, _, rfl, h7, h8⟩
  · exact .inl ⟨List.forall_mem_append.mpr ⟨foundReads h5, inventoryReads h7⟩, sent, rfl⟩
  rcases trace_attempt_bind.mp h8 with ⟨sent, rfl, h9⟩ | ⟨tr9, tr10, configuration, rfl, h9, h10⟩
  · exact .inl ⟨List.forall_mem_append.mpr ⟨foundReads h5, List.forall_mem_append.mpr
      ⟨inventoryReads h7, prepareConfiguration_reads h9⟩⟩, sent, rfl⟩
  obtain ⟨stored, rfl, iff⟩ := createProvisioningRecord_inv h10
  refine .inr ⟨tr5 ++ (tr7 ++ tr9), configuration, stored, ?_, ?_, iff⟩
  · exact List.forall_mem_append.mpr ⟨foundReads h5, List.forall_mem_append.mpr
      ⟨inventoryReads h7, prepareConfiguration_reads h9⟩⟩
  · rw [List.append_assoc, List.append_assoc]
    rfl

/-- A request which deletes a device removes its record, unless it fails. -/
lemma deleteDevice_inv {r : Except HandlerAnswer Unit}
    (h : Trace (deleteDevice user binding).run tr r) :
    tr = [] ∧ (∃ sent, r = .error sent) ∨
      ∃ mac answer, (user.userinfo.id ≠ "" ∧ Utils.normalizeMac binding = some mac) ∧
        tr = [⟨.call (deleteCall user.webtoken.accessToken mac), answer⟩] ∧
        (r = .ok () ↔ Succeeds answer) := by
  rcases trace_attempt_bind.mp h with ⟨sent, rfl, h1⟩ | ⟨tr1, tr2, mac, rfl, h1, h2⟩
  · exact .inl ⟨(validateInputs_inv h1).1, sent, rfl⟩
  obtain ⟨rfl, valid⟩ := validateInputs_inv h1
  obtain ⟨tr3, tr4, a, rfl, h3, h4⟩ := trace_attempt_lift_bind.mp h2
  obtain ⟨answer, rfl, rfl⟩ := deleteSubscriberDevice_inv h3
  refine .inr ⟨mac, answer, (valid mac).mp rfl, ?_⟩
  rw [← lenient_ok (some [])]
  dsimp only at h4
  split at h4
  case isTrue deleted =>
    obtain ⟨rfl, rfl⟩ := trace_attempt_pure.mp h4
    exact ⟨rfl, fun _ => of_decide_eq_true deleted, fun _ => rfl⟩
  case isFalse failed =>
    obtain ⟨rfl, rfl⟩ := trace_attempt_throw.mp h4
    exact ⟨rfl, nofun, fun ok => absurd (decide_eq_true ok) failed⟩

end UserPortal.RestApi.SubscriberDevices
