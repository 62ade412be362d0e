import UserPortal.RestApi.ErrorStatuses
import UserPortal.RestApi.GatewayRequests
import UserPortal.RestApi.MutationAnswers

/-!
# The endpoints which change the rules

Nine of the twelve endpoints end in `HandleParentalControlMutationResult`. Creating or changing a group
returns the object of the parental-control service as it is, and creating a schedule returns it
normalized; these three give nothing to the gateway.
-/

namespace UserPortal.RestApi.ParentalControl
open Interaction Program Calendar Sdk

/-- The endpoints of the portal which change the parental-control rules. -/
inductive Endpoint where
  | createGroup (body : Json.Object)
  | updateGroup (groupId : String) (body : Json.Object)
  | createSchedule (body : Json.Object) (timezone : String)
  | mutation (m : Mutation)

namespace Endpoint

/-- The end of `RESTAPI_groups_list_handler::DoPost` and of `RESTAPI_groups_handler::DoPut`. A call which
succeeds has a response. -/
def answerGroup (r : CallResult) : List HandlerAnswer :=
  if r.success then [HandlerAnswer.returnObject (r.response.getD [])]
  else [forwardParentalControlErrorResponse r.status r.response]

/-- The end of the handler of an endpoint: the call and the answers to the subscriber. -/
def handle (conv : Conversions) (locateZone : String → Option Zone)
    (bearerToken subscriberId operatorId : String) : Endpoint → Portal (List HandlerAnswer)
  | createGroup body => do
    let r ← ParentalControl.createGroup subscriberId body
    return answerGroup r
  | updateGroup groupId body => do
    let r ← ParentalControl.updateGroup subscriberId groupId body
    return answerGroup r
  | createSchedule body timezone => do
    let r ← ParentalControl.createSchedule subscriberId body
    if r.success = false then return [forwardParentalControlErrorResponse r.status r.response]
    else answerMutation conv locateZone "POST" r.response .returnNormalizedScheduleObject timezone
  | mutation m => m.handle conv locateZone bearerToken subscriberId operatorId

/-- The endpoints whose handler ends in `HandleParentalControlMutationResult`. -/
def isMutation : Endpoint → Bool
  | mutation _ => true
  | _ => false

/-- The endpoints which return a group. -/
def returnsGroup : Endpoint → Bool
  | createGroup _ | updateGroup .. => true
  | _ => false

end Endpoint

/-- A well-formed snapshot which is not null. -/
def Carries (o : Json.Object) (configRaw : List Json) : Prop :=
  o.get? "config-raw" = some (.arr configRaw) ∧ configRaw.all isConfigRawCommand = true

/-- The answer shows no `config-raw`. -/
def Hidden (answer : HandlerAnswer) : Prop :=
  ∀ o, answer.document = some o → o.has "config-raw" = false

section Snapshots

variable (conv : Conversions) (locateZone : String → Option Zone)

/-- A snapshot is given to the gateway before a success is answered. -/
def Endpoint.Pushes (endpoint : Endpoint) : Prop :=
  ∀ bearerToken subscriberId operatorId c o configRaw rest sent, Carries o configRaw →
    Trace (endpoint.handle conv locateZone bearerToken subscriberId operatorId)
      (⟨.call c, some ⟨HTTPStatus.ok, .json (.obj o)⟩⟩ :: rest) sent →
    ∃ answer, sent = [answer] ∧ (IsSuccess answer.status →
      ∃ applied nows, rest = applied ++ nows ∧ (∀ e ∈ nows, ∃ t, e = ⟨.now, t⟩) ∧
        GatewayUpdated conv bearerToken subscriberId operatorId (some o) applied)

/-- A snapshot is not shown to the subscriber. -/
def Endpoint.Hides (endpoint : Endpoint) : Prop :=
  ∀ bearerToken subscriberId operatorId c o configRaw rest sent, Carries o configRaw →
    Trace (endpoint.handle conv locateZone bearerToken subscriberId operatorId)
      (⟨.call c, some ⟨HTTPStatus.ok, .json (.obj o)⟩⟩ :: rest) sent →
    ∃ answer, sent = [answer] ∧ Hidden answer

end Snapshots

/-! ## What the answers show -/

section Hidden

variable {conv : Conversions} {locateZone : String → Option Zone}
  {method bearerToken subscriberId operatorId normalizeTimezone : String} {configRawRequired : Bool}
  {successResponse : MutationSuccessResponse} {tr : List Portal.Event}

lemma hidden_unAuthorized {e : ErrorMsg} : Hidden (HandlerAnswer.unAuthorized method e) := by
  intro o eq
  cases eq
  rfl

lemma hidden_internalError {e : ErrorMsg} : Hidden (HandlerAnswer.internalError method e) := by
  intro o eq
  cases eq
  rfl

lemma hidden_success : Hidden (HandlerAnswer.success method) := by
  intro o eq
  rw [HandlerAnswer.success] at eq
  dsimp only at eq
  split at eq
  case isTrue => cases eq
  case isFalse =>
    cases eq
    rfl

lemma hidden_returnObject {o : Json.Object} (removed : o.has "config-raw" = false) :
    Hidden (HandlerAnswer.returnObject o) := by
  intro o' eq
  cases eq
  exact removed

/-- The errors of the snapshot show nothing of it. -/
lemma handleApplyConfigRawResult_hidden (result : ApplyConfigRawResult) :
    ∀ answer ∈ (handleApplyConfigRawResult method result).2, Hidden answer := by
  cases result with
  | noConfigApplyNeeded => exact nofun
  | applied => exact nofun
  | missingOperatorId => exact List.forall_mem_singleton.mpr hidden_unAuthorized
  | provisioningLookupFailed => exact List.forall_mem_singleton.mpr hidden_internalError
  | missingGatewaySerial => exact List.forall_mem_singleton.mpr hidden_internalError
  | gatewayConfigLoadFailed => exact List.forall_mem_singleton.mpr hidden_internalError
  | gatewayConfigMalformed => exact List.forall_mem_singleton.mpr hidden_internalError
  | gatewayConfigureFailed => exact List.forall_mem_singleton.mpr hidden_internalError

lemma applyConfigRawFromMutationResponse_hidden {response : Option Json.Object}
    {r : Bool × List HandlerAnswer}
    (h : Trace (applyConfigRawFromMutationResponse conv method bearerToken subscriberId operatorId
      response configRawRequired) tr r) : ∀ answer ∈ r.2, Hidden answer := by
  unfold applyConfigRawFromMutationResponse at h
  split at h
  case h_1 =>
    rw [(trace_pure.mp h).2]
    exact List.forall_mem_singleton.mpr hidden_internalError
  case h_2 =>
    rw [(trace_pure.mp h).2]
    exact nofun
  case h_3 =>
    obtain ⟨tr1, tr2, result, rfl, _, h2⟩ := trace_bind.mp h
    rw [(trace_pure.mp h2).2]
    exact handleApplyConfigRawResult_hidden result

/-- An applied change shows no snapshot, unless the object is returned as it is. -/
lemma answerMutation_hidden {response : Option Json.Object} {sent : List HandlerAnswer}
    (mode : successResponse ≠ .returnObject)
    (h : Trace (answerMutation conv locateZone method response successResponse normalizeTimezone) tr
      sent) : ∀ answer ∈ sent, Hidden answer := by
  unfold answerMutation at h
  split at h
  case h_1 =>
    rw [(trace_pure.mp h).2]
    exact List.forall_mem_singleton.mpr hidden_success
  case h_2 =>
    rw [(trace_pure.mp h).2]
    exact List.forall_mem_singleton.mpr hidden_internalError
  case h_3 => exact absurd rfl mode
  case h_4 =>
    rw [(trace_pure.mp h).2]
    exact List.forall_mem_singleton.mpr (hidden_returnObject (Json.Object.has_remove_self _ _))
  case h_5 =>
    obtain ⟨t, rest, rfl, h1⟩ := trace_perform_bind.mp h
    split at h1
    case h_1 normalized =>
      rw [(trace_pure.mp h1).2]
      exact List.forall_mem_singleton.mpr
        (hidden_returnObject (normalizeScheduleResponse_has normalized))
    case h_2 =>
      rw [(trace_pure.mp h1).2]
      exact List.forall_mem_singleton.mpr hidden_internalError

/-- Nothing that is answered to a successful change shows a snapshot, unless the object is returned as it
is. -/
lemma handleParentalControlMutationResult_hidden {mutation : CallResult} {sent : List HandlerAnswer}
    (success : mutation.success = true) (mode : successResponse ≠ .returnObject)
    (h : Trace (handleParentalControlMutationResult conv locateZone method bearerToken mutation
      subscriberId operatorId configRawRequired successResponse normalizeTimezone) tr sent) :
    ∀ answer ∈ sent, Hidden answer := by
  rw [handleParentalControlMutationResult] at h
  rw [if_neg (by rw [success]; decide)] at h
  obtain ⟨tr1, tr2, ⟨goesOn, errors⟩, rfl, h1, h2⟩ := trace_bind.mp h
  have hiddenErrors := applyConfigRawFromMutationResponse_hidden h1
  dsimp only at h2 hiddenErrors
  split at h2
  case isTrue =>
    rw [(trace_pure.mp h2).2]
    exact hiddenErrors
  case isFalse =>
    obtain ⟨tr3, tr4, answers, rfl, h3, h4⟩ := trace_bind.mp h2
    rw [(trace_pure.mp h4).2]
    intro answer mem
    rcases List.mem_append.mp mem with mem | mem
    · exact hiddenErrors answer mem
    · exact answerMutation_hidden mode h3 answer mem

end Hidden

/-! ## The endpoints -/

section Endpoints

variable {conv : Conversions} {locateZone : String → Option Zone}
  {bearerToken subscriberId operatorId : String} {c : Call} {o : Json.Object} {configRaw : List Json}
  {rest : List Portal.Event} {sent : List HandlerAnswer}

lemma Carries.extract (carries : Carries o configRaw) (required : Bool) :
    extractConfigRawSnapshot (some o) required = some (some configRaw) := by
  obtain ⟨present, wellFormed⟩ := carries
  simp only [extractConfigRawSnapshot, present]
  exact if_pos wellFormed

/-- A change which is answered with an object returns it. -/
lemma Mutation.call_response {m : Mutation} {r : CallResult}
    (h : Trace (m.call subscriberId) [⟨.call c, some ⟨HTTPStatus.ok, .json (.obj o)⟩⟩] r) :
    r.response = some o := by
  have post : ∀ {endpoint body timeoutMs},
      Trace (ParentalControl.executePostObject endpoint body timeoutMs)
        [⟨.call c, some ⟨HTTPStatus.ok, .json (.obj o)⟩⟩] r → r.response = some o := by
    intro endpoint body timeoutMs h
    obtain ⟨answer, same, _, eq⟩ := ParentalControl.executePostObject_inv h
    cases same
    exact congrArg Prod.snd eq
  have put : ∀ {endpoint body timeoutMs},
      Trace (ParentalControl.executePutObject endpoint body timeoutMs)
        [⟨.call c, some ⟨HTTPStatus.ok, .json (.obj o)⟩⟩] r → r.response = some o := by
    intro endpoint body timeoutMs h
    obtain ⟨answer, same, _, eq⟩ := ParentalControl.executePutObject_inv h
    cases same
    exact congrArg Prod.snd eq
  have delete : ∀ {endpoint timeoutMs accept},
      Trace (ParentalControl.executeDelete endpoint timeoutMs accept)
        [⟨.call c, some ⟨HTTPStatus.ok, .json (.obj o)⟩⟩] r → r.response = some o := by
    intro endpoint timeoutMs accept h
    obtain ⟨answer, same, _, eq⟩ := ParentalControl.executeDelete_inv h
    cases same
    exact congrArg Prod.snd eq
  cases m with
  | deleteGroup groupId => exact delete h
  | updateSchedule scheduleId body timezone => exact put h
  | deleteSchedule scheduleId => exact delete h
  | createGroupDevice groupId body => exact post h
  | createGroupDevicesV2 groupId body => exact post h
  | deleteGroupDevice groupId clientMac => exact delete h
  | createGroupSchedule groupId body => exact post h
  | replaceGroupSchedules groupId body => exact put h
  | deleteGroupSchedule groupId scheduleId => exact delete h

/-- A change which is answered with a snapshot has succeeded. -/
lemma Mutation.call_carries {m : Mutation} {tr1 tr2 : List Portal.Event} {r : CallResult}
    (carries : Carries o configRaw) (h : Trace (m.call subscriberId) tr1 r)
    (split : (⟨.call c, some ⟨HTTPStatus.ok, .json (.obj o)⟩⟩ : Portal.Event) :: rest = tr1 ++ tr2) :
    tr2 = rest ∧ r.success = true ∧ r.response = some o := by
  obtain ⟨_, _, rfl, result⟩ := Mutation.call_answered h
  cases split
  have status : r.status = HTTPStatus.ok := by
    rw [Expects.Result, if_neg (by simp [Body.parse])] at result
    exact result.1
  obtain ⟨e, eq, call⟩ := Mutation.call_inv h
  cases eq
  have accepted := call.accepted status
  have change : c.service = uSERVICE_MANGO_PARENTAL_CONTROL ∧ c.verb ≠ .get := by
    simpa [Gw.isMutation] using accepted
  have produced : Gw.produced ⟨.call c, some ⟨HTTPStatus.ok, .json (.obj o)⟩⟩ = some configRaw := by
    simp [Gw.produced, Gw.mutationResponse, change, carries.extract]
  exact ⟨rfl, (call.response configRaw produced).1, Mutation.call_response h⟩

/-- What `HandleParentalControlMutationResult` does with a snapshot: the gateway is given it before a
success is answered, and the answer does not show it. -/
lemma Mutation.handle_carries {m : Mutation} (carries : Carries o configRaw)
    (h : Trace (m.handle conv locateZone bearerToken subscriberId operatorId)
      (⟨.call c, some ⟨HTTPStatus.ok, .json (.obj o)⟩⟩ :: rest) sent) :
    ∃ answer, sent = [answer] ∧ Hidden answer ∧ (IsSuccess answer.status →
      ∃ applied nows, rest = applied ++ nows ∧ (∀ e ∈ nows, ∃ t, e = ⟨.now, t⟩) ∧
        GatewayUpdated conv bearerToken subscriberId operatorId (some o) applied) := by
  obtain ⟨tr1, tr2, r, split, h1, h2⟩ := trace_bind.mp h
  obtain ⟨rfl, success, response⟩ := Mutation.call_carries carries h1 split
  have hidden := handleParentalControlMutationResult_hidden success (by cases m <;> exact nofun) h2
  obtain ⟨answer, rfl, status⟩ := handleParentalControlMutationResult_inv h2
  refine ⟨answer, rfl, hidden answer (List.mem_singleton_self answer), fun ok => ?_⟩
  rcases status with ⟨failed, _⟩ | ⟨_, error | ⟨_, _, applied, nows, rfl, clock, upToDate⟩⟩
  · rw [success] at failed
    cases failed
  · exact absurd ok error
  · refine ⟨applied, nows, rfl, clock, ?_⟩
    rw [response] at upToDate
    rcases upToDate with ⟨absent, _⟩ | ⟨cmds, present, applies⟩
    · rw [carries.extract] at absent
      cases absent
    · rw [carries.extract] at present
      cases present
      exact applies.gatewayUpdated carries.1

/-- A schedule is created without its snapshot being shown. -/
lemma createSchedule_hides {body : Json.Object} {timezone : String} :
    (Endpoint.createSchedule body timezone).Hides conv locateZone := by
  intro bearerToken subscriberId operatorId c o configRaw rest sent carries h
  obtain ⟨tr1, tr2, r, split, h1, h2⟩ := trace_bind.mp h
  obtain ⟨answer, rfl, ok, eq⟩ := ParentalControl.executePostObject_inv h1
  cases split
  obtain ⟨status, response⟩ : r.status = HTTPStatus.ok ∧ r.response = some o := Prod.mk.inj eq
  have success : r.success = true := by
    rw [ok, status, response]
    rfl
  rw [if_neg (by rw [success]; decide)] at h2
  obtain ⟨_, answer, rfl, _⟩ := answerMutation_inv h2
  have mode : MutationSuccessResponse.returnNormalizedScheduleObject ≠ .returnObject := nofun
  exact ⟨answer, rfl, answerMutation_hidden mode h2 answer (List.mem_singleton_self answer)⟩

end Endpoints

/-- The endpoints which end in `HandleParentalControlMutationResult` give the snapshot to the gateway
before they answer a success, and no endpoint shows it but those which return a group. -/
theorem endpoint_treatsSnapshot (conv : Conversions) (locateZone : String → Option Zone)
    (endpoint : Endpoint) :
    (endpoint.isMutation = true → endpoint.Pushes conv locateZone) ∧
      (endpoint.returnsGroup = false → endpoint.Hides conv locateZone) := by
  cases endpoint with
  | createGroup body => exact ⟨nofun, nofun⟩
  | updateGroup groupId body => exact ⟨nofun, nofun⟩
  | createSchedule body timezone => exact ⟨nofun, fun _ => createSchedule_hides⟩
  | mutation m =>
    refine ⟨fun _ => ?_, fun _ => ?_⟩
    · intro bearerToken subscriberId operatorId c o configRaw rest sent carries h
      obtain ⟨answer, eq, _, pushed⟩ := Mutation.handle_carries carries h
      exact ⟨answer, eq, pushed⟩
    · intro bearerToken subscriberId operatorId c o configRaw rest sent carries h
      obtain ⟨answer, eq, hidden, _⟩ := Mutation.handle_carries carries h
      exact ⟨answer, eq, hidden⟩

/-- A group which is created with a snapshot is returned with it, and the gateway is not given it. -/
theorem createGroup_showsSnapshot :
    ¬ ∀ (conv : Conversions) (locateZone : String → Option Zone) (endpoint : Endpoint),
      endpoint.Pushes conv locateZone ∧ endpoint.Hides conv locateZone := by
  intro all
  obtain ⟨pushes, hides⟩ := all Conversions.strict (fun _ => none) (.createGroup [])
  have carries : Carries [("config-raw", .arr [.arr [.str "set", .str "a", .str "b"]])]
      [.arr [.str "set", .str "a", .str "b"]] := ⟨rfl, rfl⟩
  have created : Trace ((Endpoint.createGroup []).handle Conversions.strict (fun _ => none) "" "subscriber"
      "operator") [⟨.call (ParentalControl.serviceCall .post "/api/v1/subscribers/subscriber/groups" []
        60000), some ⟨HTTPStatus.ok,
          .json (.obj [("config-raw", .arr [.arr [.str "set", .str "a", .str "b"]])])⟩⟩]
      [HandlerAnswer.returnObject [("config-raw", .arr [.arr [.str "set", .str "a", .str "b"]])]] := by
    apply trace_iff_replay.mpr
    decide +kernel
  obtain ⟨answer, eq, hidden⟩ := hides _ _ _ _ _ _ _ _ carries created
  cases eq
  have shown := hidden _ rfl
  cases shown

end UserPortal.RestApi.ParentalControl
