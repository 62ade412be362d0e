import UserPortal.RestApi.GatewayRequests
import UserPortal.RestApi.SubscriberDeviceTraces
import UserPortal.Sdk.ClientAccessDrift

/-!
# Whose devices the portal acts on

The requests of a subscriber which reach a call that changes a device: the actions, adding and deleting
a device, and the changes of the parental-control rules. Every such call but one names a device which
provisioning has listed for the subscriber before; deleting a device names the MAC address of the path,
which nothing has looked up.
-/

namespace UserPortal.RestApi.OwnDevices
open Interaction Program Calendar Sdk Sdk.Prov

/-- What a subscriber asks of the portal. -/
inductive Request where
  | action (parameters : List (String × String)) (parsedBody : Option Json.Object)
  | addDevice (binding : String)
  | deleteDevice (binding : String)
  | mutation (m : ParentalControl.Mutation)

section Handle

variable (conv : Conversions) (stringify condense : Json.Object → String)
  (locateZone : String → Option Zone) (user : Security.UserInfoAndPolicy)

/-- What the portal does for a request, with the answers it sends. -/
def Request.handle : Request → Portal (List HandlerAnswer)
  | action parameters parsedBody => do
    let sent ← ActionHandler.doPost conv condense user parameters parsedBody
    return [sent]
  | addDevice binding => do
    let sent ← SubscriberDevices.doPost conv stringify user binding
    return [sent]
  | deleteDevice binding => do
    let sent ← SubscriberDevices.doDelete user binding
    return [sent]
  | mutation m =>
    m.handle conv locateZone user.webtoken.accessToken user.userinfo.id user.userinfo.owner

/-- The response object into which a request has the devices of the subscriber read. -/
def Request.previous : Request → Option Json.Object
  | mutation _ => none
  | _ => some []

/-- Wherever the devices of the subscriber are listed, they are `devices`. -/
def Lists (request : Request) (devices : List Gw.SubscriberDevice) (tr : List Portal.Event) : Prop :=
  ∀ answer listed, ⟨.call (getDevicesCall "" user.userinfo.id user.userinfo.owner), answer⟩ ∈ tr →
    listedInto conv request.previous
        ⟨.call (getDevicesCall "" user.userinfo.id user.userinfo.owner), answer⟩ = some listed →
      listed = devices

end Handle

/-- A call which changes a device: a command to the gateway service, or the removal of a record. -/
def ChangesDevice : Portal.Event → Prop
  | ⟨.call c, _⟩ =>
    c.service = uSERVICE_GATEWAY ∧ c.verb ≠ .get ∨
      c.service = uSERVICE_PROVISIONING ∧ c.verb = .delete
  | _ => False

/-- Where the commands of the gateway service are found, below the path of a device. -/
def commands : List String := ["/configure", "/reboot", "/leds", "/factory", "/upgrade"]

/-- The device which a call names. -/
def Names (serial : String) : Portal.Event → Prop
  | ⟨.call c, _⟩ =>
    c.service = uSERVICE_GATEWAY ∧ c.body.get? "serialNumber" = some (.str serial) ∧
        (∃ command ∈ commands, c.endPoint = "/api/v1/device/" ++ serial ++ command) ∨
      c.service = uSERVICE_PROVISIONING ∧ c.endPoint = "/api/v1/subscriberDevice/" ++ serial
  | _ => False

/-- An event which changes a device changes one of these. -/
def ActsOn (devices : List Gw.SubscriberDevice) (e : Portal.Event) : Prop :=
  ChangesDevice e → ∃ device ∈ devices, Names device.serialNumber e

section Events

variable {devices : List Gw.SubscriberDevice} {c : Call} {answer : Option Reply}

/-- The two services are not one. -/
lemma provisioning_ne_gateway : uSERVICE_PROVISIONING ≠ uSERVICE_GATEWAY := nofun

/-- Reading the clock acts on no device. -/
lemma actsOn_now (t : Int) : ActsOn devices ⟨.now, t⟩ := nofun

/-- Nor does a GET. -/
lemma actsOn_get (h : c.verb = .get) : ActsOn devices ⟨.call c, answer⟩ := by
  rintro (⟨_, verb⟩ | ⟨_, verb⟩)
  · exact absurd h verb
  · rw [h] at verb
    cases verb

/-- Nor does a call of another service. -/
lemma actsOn_service (gateway : c.service ≠ uSERVICE_GATEWAY)
    (provisioning : c.service ≠ uSERVICE_PROVISIONING) : ActsOn devices ⟨.call c, answer⟩ := by
  rintro (⟨service, _⟩ | ⟨service, _⟩)
  · exact absurd service gateway
  · exact absurd service provisioning

/-- The parental-control service changes no device. -/
lemma actsOn_parentalControl (h : c.service = uSERVICE_MANGO_PARENTAL_CONTROL) :
    ActsOn devices ⟨.call c, answer⟩ := by
  apply actsOn_service
  · rw [h]
    exact nofun
  · rw [h]
    exact nofun

/-- A call to the gateway service which names a device of the list in its path and in its body. -/
lemma actsOn_command {serial command : String} (mem : ∃ device ∈ devices, device.serialNumber = serial)
    (known : command ∈ commands) (service : c.service = uSERVICE_GATEWAY)
    (endPoint : c.endPoint = "/api/v1/device/" ++ serial ++ command)
    (body : c.body.get? "serialNumber" = some (.str serial)) : ActsOn devices ⟨.call c, answer⟩ := by
  intro _
  obtain ⟨device, mem, rfl⟩ := mem
  exact ⟨device, mem, .inl ⟨service, body, command, known, endPoint⟩⟩

end Events

/-! ## The gateway service -/

section Gateway

variable {devices : List Gw.SubscriberDevice} {serial : String}

/-- Reading a configuration acts on no device. -/
lemma getConfig_actsOn (bearerToken mac : String) :
    Asks (ActsOn devices) (Gw.getConfig bearerToken mac) := by
  intro tr r h e he
  obtain ⟨answer, rfl, _⟩ := Gw.getConfig_inv h
  rw [List.mem_singleton.mp he]
  exact actsOn_get rfl

/-- A push acts on a device of the list. -/
lemma configure_actsOn (mem : ∃ device ∈ devices, device.serialNumber = serial) (bearerToken : String)
    (config : Json.Object) : Asks (ActsOn devices) (Gw.configure bearerToken serial config) :=
  Gw.configure_asks actsOn_now (fun _ _ _ => actsOn_command mem (.head _) rfl rfl rfl) config

/-- So does a command. -/
lemma executeGatewayCommand_actsOn {command : String} {body : Json.Object}
    (mem : ∃ device ∈ devices, device.serialNumber = serial) (known : command ∈ commands)
    (names : body.get? "serialNumber" = some (.str serial)) (bearerToken : String) :
    Asks (ActsOn devices)
      (Gw.executeGatewayCommand bearerToken ("/api/v1/device/" ++ serial ++ command) body) := by
  intro tr r h e he
  obtain ⟨answer, rest, rfl, h1⟩ := OpenAPIRequest.trace_post_bind.mp h
  obtain ⟨rfl, _⟩ := trace_pure.mp h1
  rw [List.mem_singleton.mp he]
  exact actsOn_command mem known rfl rfl names

/-- The client-access changes go to the parental-control service. -/
lemma updateClientAccess_actsOn (conv : Conversions) (config body : Json.Object)
    (subscriberId : String) :
    Asks (ActsOn devices) (Gw.updateClientAccess conv config body subscriberId).run := by
  intro tr r h e he
  rcases (Gw.updateClientAccess_commits h).1 e he with ⟨t, rfl⟩ | change
  · exact actsOn_now t
  · obtain ⟨op, answer⟩ := e
    cases op with
    | now => exact actsOn_now answer
    | call c =>
      have service := (Bool.and_eq_true_iff.mp change).1
      exact actsOn_parentalControl (of_decide_eq_true service)

/-- `SetConfig` acts on the gateway it is given and on the mesh devices it is given. -/
lemma setConfig_actsOn (conv : Conversions) (condense : Json.Object → String)
    (mem : ∃ device ∈ devices, device.serialNumber = serial) (bearerToken : String)
    (body : Option Json.Object) (subscriberId : String) :
    Asks (ActsOn devices)
      (Gw.setConfig conv condense bearerToken body devices serial subscriberId) := by
  have steps : Asks (ActsOn devices)
      (Gw.setConfigSteps conv condense bearerToken body devices serial subscriberId).run := by
    unfold Gw.setConfigSteps
    split
    case h_1 => exact .attempt_throw _
    case h_2 body =>
      refine (Gw.ensure_asks _ _).attempt_bind fun _ => ?_
      refine (Gw.ensure_asks _ _).attempt_bind fun _ => ?_
      refine (Gw.fetchGateway_asks fun _ => actsOn_get rfl).attempt_bind fun fetched => ?_
      refine ((Gw.updateSsid_asks _ _ _).mono fun _ => False.elim).attempt_bind fun mid => ?_
      refine (updateClientAccess_actsOn _ _ _ _).attempt_bind fun updated => ?_
      split
      case isTrue => exact .attempt_pure _
      case isFalse =>
        refine Gw.pushConfig_asks (configure_actsOn mem _) ?_ _
        exact fun device listed _ => configure_actsOn ⟨device, listed, rfl⟩ _
  refine steps.bind fun r => ?_
  cases r with
  | ok _ => exact .pure _
  | error _ => exact .pure _

end Gateway

/-! ## The actions -/

section Action

variable {conv : Conversions} {condense : Json.Object → String} {user : Security.UserInfoAndPolicy}
  {devices : List Gw.SubscriberDevice} {tr : List Portal.Event}

/-- The gateway is one of the devices. -/
lemma findGatewaySerial_mem {serial : String}
    (h : ActionHandler.findGatewaySerial devices = some serial) :
    ∃ device ∈ devices, device.serialNumber = serial := by
  rw [ActionHandler.findGatewaySerial] at h
  split at h
  case h_1 device found =>
    split at h
    case isTrue => cases h
    case isFalse =>
      cases h
      exact ⟨device, List.mem_of_find?_eq_some found, rfl⟩
  case h_2 => cases h

/-- The device with a MAC address is one of the devices. -/
lemma resolveTargetSerial_mem {mac serial : String}
    (h : ActionHandler.resolveTargetSerial devices mac = some serial) :
    ∃ device ∈ devices, device.serialNumber = serial := by
  rw [ActionHandler.resolveTargetSerial] at h
  split at h
  case h_1 device found =>
    split at h
    case isTrue => cases h
    case isFalse =>
      cases h
      exact ⟨device, List.mem_of_find?_eq_some found, rfl⟩
  case h_2 => cases h

/-- Each command names the device it is given. -/
lemma executeCommand_actsOn {targetSerial : String}
    (mem : ∃ device ∈ devices, device.serialNumber = targetSerial) (ctx : ActionHandler.ActionContext) :
    Asks (ActsOn devices) (ActionHandler.executeCommand ctx targetSerial) := by
  have returns : ∀ {p : Portal CallResult}, Asks (ActsOn devices) p →
      Asks (ActsOn devices) (ActionHandler.returnCommand p) := fun h => h.bind fun _ => .pure _
  rw [ActionHandler.executeCommand]
  refine .ite ?_ (.ite ?_ (.ite ?_ (.ite ?_ (.pure _))))
  · exact returns (executeGatewayCommand_actsOn mem (by decide) rfl _)
  · exact returns (executeGatewayCommand_actsOn mem (by decide) rfl _)
  · exact returns (executeGatewayCommand_actsOn mem (by decide) rfl _)
  · exact returns (executeGatewayCommand_actsOn mem (by decide) rfl _)

/-- Once the devices are listed, an action acts on these. -/
lemma execute_actsOn (parsedBody : Json.Object) (ctx : ActionHandler.ActionContext) :
    Asks (ActsOn devices) (ActionHandler.execute conv condense user parsedBody ctx devices).run := by
  rw [ActionHandler.execute]
  split
  case h_1 => exact .attempt_throw _
  case h_2 gatewaySerial gateway =>
    split
    case isTrue =>
      apply Asks.attempt_lift
      refine (setConfig_actsOn conv condense (findGatewaySerial_mem gateway) _ _ _).bind fun r => ?_
      exact .pure _
    case isFalse =>
      split
      case h_1 => exact .attempt_throw _
      case h_2 targetSerial target =>
        exact (executeCommand_actsOn (resolveTargetSerial_mem target) ctx).attempt_lift

/-- Reading a field asks nothing. -/
lemma assignIfPresent_asks {α : Type} (convert : Json → Option α) (o : Json.Object) (field : String)
    (value : α) :
    Asks (fun _ => False) (ActionHandler.assignIfPresent convert o field value).run := by
  rw [ActionHandler.assignIfPresent]
  split
  case h_1 => exact .attempt_pure _
  case h_2 =>
    split
    case h_1 => exact .attempt_pure _
    case h_2 => exact .attempt_throw _

/-- Nor does the check of a MAC. -/
lemma checkMac_asks (command mac : String) :
    Asks (fun _ => False) (ActionHandler.checkMac command mac).run := by
  rw [ActionHandler.checkMac]
  split
  case isTrue => exact .attempt_pure _
  case isFalse =>
    split
    case isTrue => exact .attempt_throw _
    case isFalse =>
      split
      case h_1 => exact .attempt_pure _
      case h_2 => exact .attempt_throw _

/-- Reading the request asks nothing. -/
lemma parseRequest_asks (conv : Conversions) (parameters : List (String × String))
    (parsedBody : Json.Object) :
    Asks (fun _ => False) (ActionHandler.parseRequest conv parameters parsedBody).run := by
  unfold ActionHandler.parseRequest
  dsimp only
  split
  case isTrue => exact .attempt_throw _
  case isFalse =>
    refine (assignIfPresent_asks _ _ _ _).attempt_bind fun _ => ?_
    refine (checkMac_asks _ _).attempt_bind fun _ => ?_
    refine (assignIfPresent_asks _ _ _ _).attempt_bind fun _ => ?_
    refine (assignIfPresent_asks _ _ _ _).attempt_bind fun _ => ?_
    refine (assignIfPresent_asks _ _ _ _).attempt_bind fun _ => ?_
    refine (assignIfPresent_asks _ _ _ _).attempt_bind fun _ => ?_
    refine (assignIfPresent_asks _ _ _ _).attempt_bind fun _ => ?_
    exact .attempt_pure _

/-- The devices with which an action goes on are those which provisioning has listed. -/
lemma fetchSubscriberDevices_inv {r : Except HandlerAnswer (List Gw.SubscriberDevice)}
    (h : Trace (ActionHandler.fetchSubscriberDevices conv user).run tr r) :
    ∃ answer, tr = [⟨.call (getDevicesCall "" user.userinfo.id user.userinfo.owner), answer⟩] ∧
      ∀ listed, r = .ok listed → listedInto conv (some [])
        ⟨.call (getDevicesCall "" user.userinfo.id user.userinfo.owner), answer⟩ = some listed := by
  obtain ⟨tr1, tr2, ⟨listed, callStatus, callResponse⟩, rfl, h1, h2⟩ := trace_attempt_lift_bind.mp h
  obtain ⟨answer, rfl, eq, _⟩ := getDevices_inv h1
  refine ⟨answer, ?_⟩
  dsimp only at h2 eq
  rw [← eq]
  cases listed with
  | none =>
    dsimp only at h2
    split at h2
    case isTrue =>
      obtain ⟨rfl, rfl⟩ := trace_attempt_throw.mp h2
      exact ⟨rfl, nofun⟩
    case isFalse =>
      split at h2
      case isTrue =>
        obtain ⟨rfl, rfl⟩ := trace_attempt_throw.mp h2
        exact ⟨rfl, nofun⟩
      case isFalse =>
        obtain ⟨rfl, rfl⟩ := trace_attempt_throw.mp h2
        exact ⟨rfl, nofun⟩
  | some listed =>
    dsimp only at h2
    split at h2
    case isTrue =>
      obtain ⟨rfl, rfl⟩ := trace_attempt_throw.mp h2
      exact ⟨rfl, nofun⟩
    case isFalse =>
      obtain ⟨rfl, rfl⟩ := trace_attempt_pure.mp h2
      refine ⟨rfl, fun listed' ok => ?_⟩
      cases ok
      rfl

/-- An action lists the devices of the subscriber, then acts on these. -/
lemma act_actsOn {parameters : List (String × String)} {parsedBody : Json.Object}
    {r : Except HandlerAnswer (Bool × HandlerAnswer)}
    (h : Trace (ActionHandler.act conv condense user parameters parsedBody).run tr r)
    (lists : ∀ answer listed,
      ⟨.call (getDevicesCall "" user.userinfo.id user.userinfo.owner), answer⟩ ∈ tr →
      listedInto conv (some [])
        ⟨.call (getDevicesCall "" user.userinfo.id user.userinfo.owner), answer⟩ = some listed →
      listed = devices) :
    ∀ e ∈ tr, ActsOn devices e := by
  rcases trace_attempt_bind.mp h with ⟨_, _, h1⟩ | ⟨tr1, tr2, ctx, rfl, h1, h2⟩
  · exact fun e he => (parseRequest_asks _ _ _ _ _ h1 e he).elim
  obtain rfl : tr1 = [] := List.eq_nil_iff_forall_not_mem.mpr (parseRequest_asks _ _ _ _ _ h1)
  rw [List.nil_append] at lists ⊢
  rcases trace_attempt_bind.mp h2 with ⟨_, _, h3⟩ | ⟨tr3, tr4, listed, rfl, h3, h4⟩
  · obtain ⟨answer, rfl, _⟩ := fetchSubscriberDevices_inv h3
    intro e he
    rw [List.mem_singleton.mp he]
    exact actsOn_get rfl
  · obtain ⟨answer, rfl, fetched⟩ := fetchSubscriberDevices_inv h3
    obtain rfl := lists answer listed (.head _) (fetched listed rfl)
    intro e he
    rcases List.mem_cons.mp he with rfl | he
    · exact actsOn_get rfl
    · exact execute_actsOn _ _ _ _ h4 e he

end Action

/-! ## The changes of the rules -/

section Mutation

variable {conv : Conversions} {locateZone : String → Option Zone} {devices : List Gw.SubscriberDevice}
  {bearerToken subscriberId operatorId : String} {tr : List Portal.Event}

/-- The gateway which is given a snapshot is one of the devices. -/
lemma gatewaySerialOf_mem (found : ParentalControl.gatewaySerialOf devices ≠ "") :
    ∃ device ∈ devices, device.serialNumber = ParentalControl.gatewaySerialOf devices := by
  rw [ParentalControl.gatewaySerialOf] at found ⊢
  split at found
  case h_1 device eq => exact ⟨device, List.mem_of_find?_eq_some eq, rfl⟩
  case h_2 => exact absurd rfl found

/-- Replacing the rules acts on a device of the list. -/
lemma replaceConfigRaw_actsOn {serial : String}
    (mem : ∃ device ∈ devices, device.serialNumber = serial) (configRaw : List Json) :
    Asks (ActsOn devices) (ParentalControl.replaceConfigRaw bearerToken serial configRaw) := by
  refine (getConfig_actsOn _ _).bind fun r => ?_
  split
  case isTrue =>
    split
    case h_1 => exact .pure _
    case h_2 => exact (configure_actsOn mem _ _).bind fun _ => .pure _
  case isFalse => exact .pure _

/-- Applying a snapshot lists the devices of the subscriber, then acts on these. -/
lemma applyConfigRaw_actsOn {configRaw : Option (List Json)}
    {result : ParentalControl.ApplyConfigRawResult}
    (h : Trace (ParentalControl.applyConfigRaw conv bearerToken subscriberId operatorId configRaw) tr
      result)
    (lists : ∀ answer listed, ⟨.call (getDevicesCall "" subscriberId operatorId), answer⟩ ∈ tr →
      listedInto conv none ⟨.call (getDevicesCall "" subscriberId operatorId), answer⟩ = some listed →
      listed = devices) :
    ∀ e ∈ tr, ActsOn devices e := by
  unfold ParentalControl.applyConfigRaw at h
  split at h
  case h_1 =>
    obtain ⟨rfl, _⟩ := trace_pure.mp h
    exact nofun
  case h_2 configRaw =>
    split at h
    case isTrue =>
      obtain ⟨rfl, _⟩ := trace_pure.mp h
      exact nofun
    case isFalse =>
      obtain ⟨tr1, rest, ⟨listed, _⟩, rfl, h1, h2⟩ := trace_bind.mp h
      obtain ⟨answer, rfl, eq, _⟩ := getDevices_inv h1
      suffices acts : ∀ e ∈ rest, ActsOn devices e by
        intro e he
        rcases List.mem_cons.mp he with rfl | he
        · exact actsOn_get rfl
        · exact acts e he
      dsimp only at h2 eq
      cases listed with
      | none =>
        obtain ⟨rfl, _⟩ := trace_pure.mp h2
        exact nofun
      | some listed =>
        obtain rfl := lists answer listed (.head _) eq.symm
        dsimp only at h2
        split at h2
        case isTrue =>
          obtain ⟨rfl, _⟩ := trace_pure.mp h2
          exact nofun
        case isFalse found =>
          exact replaceConfigRaw_actsOn (gatewaySerialOf_mem found) configRaw rest _ h2

/-- A change of the rules asks the parental-control service, and then applies its snapshot. -/
lemma mutation_actsOn {m : ParentalControl.Mutation} {sent : List HandlerAnswer}
    (h : Trace (m.handle conv locateZone bearerToken subscriberId operatorId) tr sent)
    (lists : ∀ answer listed, ⟨.call (getDevicesCall "" subscriberId operatorId), answer⟩ ∈ tr →
      listedInto conv none ⟨.call (getDevicesCall "" subscriberId operatorId), answer⟩ = some listed →
      listed = devices) :
    ∀ e ∈ tr, ActsOn devices e := by
  obtain ⟨tr1, rest, mutation, rfl, h1, h2⟩ := trace_bind.mp h
  obtain ⟨e0, rfl, call⟩ := ParentalControl.Mutation.call_inv h1
  suffices acts : ∀ e ∈ rest, ActsOn devices e by
    intro e he
    rcases List.mem_cons.mp he with rfl | he
    · obtain ⟨c, answer, rfl, service⟩ := call.event
      exact actsOn_parentalControl service
    · exact acts e he
  replace lists := fun answer listed mem => lists answer listed (List.mem_append_right _ mem)
  unfold ParentalControl.handleParentalControlMutationResult at h2
  split at h2
  case isTrue =>
    obtain ⟨rfl, _⟩ := trace_pure.mp h2
    exact nofun
  case isFalse =>
    obtain ⟨tr2, tr3, applied, rfl, h3, h4⟩ := trace_bind.mp h2
    have first : ∀ e ∈ tr2, ActsOn devices e := by
      unfold ParentalControl.applyConfigRawFromMutationResponse at h3
      split at h3
      case h_1 =>
        obtain ⟨rfl, _⟩ := trace_pure.mp h3
        exact nofun
      case h_2 =>
        obtain ⟨rfl, _⟩ := trace_pure.mp h3
        exact nofun
      case h_3 =>
        obtain ⟨tr4, tr5, result, rfl, h5, h6⟩ := trace_bind.mp h3
        obtain ⟨rfl, _⟩ := trace_pure.mp h6
        rw [List.append_nil] at lists ⊢
        exact applyConfigRaw_actsOn h5
          fun answer listed mem => lists answer listed (List.mem_append_left _ mem)
    have second : ∀ e ∈ tr3, ActsOn devices e := by
      dsimp only at h4
      split at h4
      case isTrue =>
        obtain ⟨rfl, _⟩ := trace_pure.mp h4
        exact nofun
      case isFalse =>
        obtain ⟨tr4, tr5, answers, rfl, h5, h6⟩ := trace_bind.mp h4
        obtain ⟨rfl, _⟩ := trace_pure.mp h6
        rw [List.append_nil]
        intro e he
        obtain ⟨t, rfl⟩ := (ParentalControl.answerMutation_inv h5).1 e he
        exact actsOn_now t
    exact List.forall_mem_append.mpr ⟨first, second⟩

end Mutation

/-! ## Adding and deleting a device -/

section Device

variable {conv : Conversions} {stringify : Json.Object → String} {user : Security.UserInfoAndPolicy}
  {devices : List Gw.SubscriberDevice}

/-- What only reads acts on no device. -/
lemma reads_actsOn {e : Portal.Event} (h : SubscriberDevices.Reads e) : ActsOn devices e := by
  obtain ⟨c, answer, rfl, get, _⟩ := h
  exact actsOn_get get

/-- Adding a device changes none. -/
lemma addDevice_actsOn (binding : String) :
    Asks (ActsOn devices) (SubscriberDevices.addDevice conv stringify user binding).run := by
  rw [SubscriberDevices.addDevice]
  apply Asks.attempt_bind
  · intro tr r h e he
    obtain ⟨rfl, _⟩ := SubscriberDevices.validateInputs_inv h
    cases he
  intro mac
  apply Asks.attempt_bind
  · intro tr r h e he
    obtain ⟨answer, rfl, _⟩ := SubscriberDevices.fetchSubscriberDevices_inv h
    rw [List.mem_singleton.mp he]
    exact actsOn_get rfl
  intro existingDevices
  apply Asks.attempt_bind
  · intro tr r h e he
    rcases SubscriberDevices.isDeviceAlreadyProvisioned_inv h with ⟨_, rfl, _⟩ | ⟨_, answer, rfl, _⟩
    · cases he
    · rw [List.mem_singleton.mp he]
      exact actsOn_get rfl
  intro _
  apply Asks.attempt_bind
  · intro tr r h e he
    obtain ⟨answer, rfl, _⟩ := SubscriberDevices.isDevicePresentInInventory_inv h
    rw [List.mem_singleton.mp he]
    exact actsOn_get rfl
  intro _
  apply Asks.attempt_bind
  · exact fun tr r h e he => reads_actsOn (SubscriberDevices.prepareConfiguration_reads h e he)
  intro configuration tr r h e he
  obtain ⟨answer, rfl, _⟩ := SubscriberDevices.createProvisioningRecord_inv h
  rw [List.mem_singleton.mp he]
  rintro (⟨service, _⟩ | ⟨_, verb⟩)
  · exact absurd service provisioning_ne_gateway
  · cases verb

end Device

/-! ## The requests -/

section Requests

variable {conv : Conversions} {stringify condense : Json.Object → String}
  {locateZone : String → Option Zone} {user : Security.UserInfoAndPolicy} {request : Request}
  {devices : List Gw.SubscriberDevice} {tr : List Portal.Event} {sent : List HandlerAnswer}

/-- The trace of a request is that of its handler. -/
lemma trace_handler {p : Portal HandlerAnswer}
    (h : Trace (do let sent ← p; return [sent] : Portal (List HandlerAnswer)) tr sent) :
    ∃ answer, Trace p tr answer := trace_of_bind h fun _ _ h => (trace_pure.mp h).1

/-- The trace of a handler is that of its steps. -/
lemma trace_steps {method : String} {steps : Handling Unit} {answer : HandlerAnswer}
    (h : Trace (SubscriberDevices.answer method steps) tr answer) : ∃ r, Trace steps.run tr r := by
  apply trace_of_bind h
  intro r tr2 h2
  cases r with
  | ok _ => exact (trace_pure.mp h2).1
  | error _ => exact (trace_pure.mp h2).1

/-- The trace of an action is that of its steps. -/
lemma trace_act {parameters : List (String × String)} {parsedBody : Option Json.Object}
    {answer : HandlerAnswer}
    (h : Trace (ActionHandler.doPost conv condense user parameters parsedBody) tr answer) :
    ∃ r, Trace (ActionHandler.act conv condense user parameters (parsedBody.getD [])).run tr r := by
  apply trace_of_bind h
  intro r tr2 h2
  cases r with
  | ok _ => exact (trace_pure.mp h2).1
  | error _ => exact (trace_pure.mp h2).1

/-- Every request but the one which deletes a device acts on the devices which are listed. -/
lemma handle_actsOn (h : Trace (request.handle conv stringify condense locateZone user) tr sent)
    (lists : Lists conv user request devices tr) (other : ∀ binding, request ≠ .deleteDevice binding) :
    ∀ e ∈ tr, ActsOn devices e := by
  cases request with
  | action parameters parsedBody =>
    obtain ⟨answer, h1⟩ := trace_handler h
    obtain ⟨r, h2⟩ := trace_act h1
    exact act_actsOn h2 lists
  | addDevice binding =>
    obtain ⟨answer, h1⟩ := trace_handler h
    obtain ⟨r, h2⟩ := trace_steps h1
    exact addDevice_actsOn binding tr r h2
  | deleteDevice binding => exact absurd rfl (other binding)
  | mutation m => exact mutation_actsOn h lists

/-- The call which deletes a device changes it, and names no other. -/
lemma actsOn_deleteCall {bearerToken mac : String} {answer : Option Reply} :
    ActsOn devices ⟨.call (deleteCall bearerToken mac), answer⟩ ↔
      ∃ device ∈ devices, device.serialNumber = mac := by
  have named : ∀ serial, Names serial ⟨.call (deleteCall bearerToken mac), answer⟩ ↔ serial = mac := by
    intro serial
    refine ⟨?_, ?_⟩
    · rintro (⟨service, _⟩ | ⟨_, endPoint⟩)
      · exact absurd service provisioning_ne_gateway
      · have e := congrArg String.toList endPoint
        simp only [deleteCall, String.toList_append, List.append_cancel_left_eq,
          String.toList_inj] at e
        exact e.symm
    · rintro rfl
      exact .inr ⟨rfl, rfl⟩
  refine ⟨?_, ?_⟩
  · intro acts
    obtain ⟨device, mem, names⟩ := acts (.inr ⟨rfl, rfl⟩)
    exact ⟨device, mem, (named _).mp names⟩
  · rintro ⟨device, mem, eq⟩ _
    exact ⟨device, mem, (named _).mpr eq⟩

/-- A request to delete a device gets as far as the call, whatever it is answered. -/
lemma delete_trace {binding mac : String} (id : user.userinfo.id ≠ "")
    (valid : Utils.normalizeMac binding = some mac) (answer : Option Reply) :
    ∃ sent, Trace (Request.handle conv stringify condense locateZone user (.deleteDevice binding))
      [⟨.call (deleteCall user.webtoken.accessToken mac), answer⟩] sent := by
  have inputs : Trace (SubscriberDevices.validateInputs user "DELETE" binding).run [] (.ok mac) := by
    rw [SubscriberDevices.validateInputs, if_neg id, valid]
    exact .ret _
  have deletes : ∃ r, Trace (deleteSubscriberDevice user.webtoken.accessToken mac)
      [⟨.call (deleteCall user.webtoken.accessToken mac), answer⟩] r :=
    ⟨_, OpenAPIRequest.trace_delete_bind.mpr ⟨answer, [], rfl, .ret _⟩⟩
  obtain ⟨⟨deleted, callStatus, callResponse⟩, deletes⟩ := deletes
  have steps : ∃ r, Trace (SubscriberDevices.deleteDevice user binding).run
      [⟨.call (deleteCall user.webtoken.accessToken mac), answer⟩] r := by
    cases deleted with
    | true =>
      refine ⟨Except.ok (), trace_attempt_bind.mpr (.inr ⟨[], _, mac, rfl, inputs, ?_⟩)⟩
      exact trace_attempt_lift_bind.mpr ⟨_, [], _, rfl, deletes, trace_attempt_pure.mpr ⟨rfl, rfl⟩⟩
    | false =>
      refine ⟨Except.error (HandlerAnswer.forwardErrorResponse callStatus callResponse),
        trace_attempt_bind.mpr (.inr ⟨[], _, mac, rfl, inputs, ?_⟩)⟩
      exact trace_attempt_lift_bind.mpr ⟨_, [], _, rfl, deletes, trace_attempt_throw.mpr ⟨rfl, rfl⟩⟩
  obtain ⟨r, steps⟩ := steps
  have answered : ∃ sent, Trace (SubscriberDevices.doDelete user binding)
      [⟨.call (deleteCall user.webtoken.accessToken mac), answer⟩] sent := by
    cases r with
    | ok _ => exact ⟨_, trace_bind.mpr ⟨_, [], _, rfl, steps, .ret _⟩⟩
    | error sent => exact ⟨_, trace_bind.mpr ⟨_, [], _, rfl, steps, .ret sent⟩⟩
  obtain ⟨sent, answered⟩ := answered
  exact ⟨[sent], trace_bind.mpr ⟨_, [], _, rfl, answered, .ret _⟩⟩

/-- A request to delete a device acts on no other than the one whose MAC address it names. -/
lemma delete_actsOn {binding : String}
    (h : Trace (Request.handle conv stringify condense locateZone user (.deleteDevice binding)) tr sent)
    (own : ∀ mac, user.userinfo.id ≠ "" → Utils.normalizeMac binding = some mac →
      ∃ device ∈ devices, device.serialNumber = mac) : ∀ e ∈ tr, ActsOn devices e := by
  obtain ⟨answer, h1⟩ := trace_handler h
  obtain ⟨r, h2⟩ := trace_steps h1
  rcases SubscriberDevices.deleteDevice_inv h2 with ⟨rfl, _⟩ | ⟨mac, answer, ⟨id, valid⟩, rfl, _⟩
  · exact nofun
  · intro e he
    rw [List.mem_singleton.mp he]
    exact actsOn_deleteCall.mpr (own mac id valid)

/-- A request acts on the devices of its subscriber only, whatever provisioning lists as these, exactly
where it does not delete another device by its MAC address. -/
theorem request_actsOn_iff (conv : Conversions) (stringify condense : Json.Object → String)
    (locateZone : String → Option Zone) (user : Security.UserInfoAndPolicy) (request : Request)
    (devices : List Gw.SubscriberDevice) :
    (∀ tr sent, Trace (request.handle conv stringify condense locateZone user) tr sent →
      Lists conv user request devices tr →
      ∀ e ∈ tr, ChangesDevice e → ∃ device ∈ devices, Names device.serialNumber e) ↔
      ∀ binding mac, request = .deleteDevice binding → user.userinfo.id ≠ "" →
        Utils.normalizeMac binding = some mac → ∃ device ∈ devices, device.serialNumber = mac := by
  refine ⟨?_, ?_⟩
  · rintro acts binding mac rfl id valid
    obtain ⟨sent, h⟩ := @delete_trace conv stringify condense locateZone user binding mac id valid none
    -- nothing is listed, so the devices may be any
    have lists : Lists conv user (.deleteDevice binding) devices
        [⟨.call (deleteCall user.webtoken.accessToken mac), none⟩] := by
      intro answer listed mem
      cases List.mem_singleton.mp mem
    exact actsOn_deleteCall.mp (acts _ sent h lists _ (.head _))
  · intro own tr sent h lists
    cases request with
    | deleteDevice binding => exact delete_actsOn h fun mac => own binding mac rfl
    | action parameters parsedBody => exact handle_actsOn h lists fun _ => nofun
    | addDevice binding => exact handle_actsOn h lists fun _ => nofun
    | mutation m => exact handle_actsOn h lists fun _ => nofun

end Requests

namespace OtherSubscriber

def user : Security.UserInfoAndPolicy where
  userinfo := { id := "subscriber", owner := "operator" }
  webtoken := { accessToken := "token" }

def devices : List Gw.SubscriberDevice := [{ serialNumber := "aaaaaaaaaaaa", deviceGroup := "olg" }]

/-- The device of another subscriber is deleted by its MAC address. -/
def events : List Portal.Event :=
  [⟨.call (deleteCall "token" "bbbbbbbbbbbb"), some ⟨HTTPStatus.ok, .text ""⟩⟩]

/-- The deletion of a device which the subscriber does not have. -/
lemma trace_events :
    Trace (Request.handle Conversions.strict Json.Object.condense Json.Object.condense (fun _ => none) user
      (.deleteDevice "BB:BB:BB:BB:BB:BB")) events [HandlerAnswer.success "DELETE"] :=
  trace_iff_replay.mpr (by decide +kernel)

/-- The request succeeds, and acts on a device which is not the subscriber's. -/
theorem deleted_notOwn :
    ¬ ∀ tr sent, Trace (Request.handle Conversions.strict Json.Object.condense Json.Object.condense
        (fun _ => none) user (.deleteDevice "BB:BB:BB:BB:BB:BB")) tr sent →
      Lists Conversions.strict user (.deleteDevice "BB:BB:BB:BB:BB:BB") devices tr →
      ∀ e ∈ tr, ChangesDevice e → ∃ device ∈ devices, Names device.serialNumber e := by
  intro acts
  have lists : Lists Conversions.strict user (.deleteDevice "BB:BB:BB:BB:BB:BB") devices events := by
    intro answer listed mem
    cases List.mem_singleton.mp mem
  obtain ⟨device, mem, eq⟩ := actsOn_deleteCall.mp (acts events _ trace_events lists _ (.head _))
  rw [List.mem_singleton.mp mem] at eq
  exact absurd eq (by decide)

end OtherSubscriber

end UserPortal.RestApi.OwnDevices
