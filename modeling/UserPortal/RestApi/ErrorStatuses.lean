import UserPortal.RestApi.MutationTraces

/-!
# The status of a failed call

A call to the parental-control service fails when the status is not 200, and also when the body is not
the one expected. In both cases the handler forwards the status which it was answered with.

* `Operation`: what the handlers ask of the parental-control service.
* `Expects`: the reply with which an operation succeeds.
* `failure_notSuccess_iff`: the replies after which a failure is never answered with a 2xx status.
-/

namespace UserPortal.RestApi.ParentalControl
open Interaction Program Calendar Sdk

/-- What the handlers ask of the parental-control service. -/
inductive Operation where
  | getGroups
  | createGroup (body : Json.Object)
  | getGroup (groupId : String)
  | updateGroup (groupId : String) (body : Json.Object)
  | getSchedules
  | createSchedule (body : Json.Object)
  | getSchedule (scheduleId : String)
  | getScheduleGroups (scheduleId : String)
  | getGroupDevices (groupId : String)
  | getGroupDevice (groupId clientMac : String)
  | getGroupSchedules (groupId : String)
  | getGroupSchedule (groupId scheduleId : String)
  | mutation (m : Mutation)

namespace Operation

/-- The result of a list call, without the list. -/
def withoutArray (call : Portal (CallResult × Option (List Json))) : Portal CallResult := do
  let (r, _) ← call
  return r

/-- The call of an operation. -/
def call (subscriberId : String) : Operation → Portal CallResult
  | getGroups => withoutArray (ParentalControl.getGroups subscriberId)
  | createGroup body => ParentalControl.createGroup subscriberId body
  | getGroup groupId => ParentalControl.getGroup subscriberId groupId
  | updateGroup groupId body => ParentalControl.updateGroup subscriberId groupId body
  | getSchedules => withoutArray (ParentalControl.getSchedules subscriberId)
  | createSchedule body => ParentalControl.createSchedule subscriberId body
  | getSchedule scheduleId => ParentalControl.getSchedule subscriberId scheduleId
  | getScheduleGroups scheduleId => withoutArray (ParentalControl.getScheduleGroups subscriberId scheduleId)
  | getGroupDevices groupId => withoutArray (ParentalControl.getGroupDevices subscriberId groupId)
  | getGroupDevice groupId clientMac => ParentalControl.getGroupDevice subscriberId groupId clientMac
  | getGroupSchedules groupId => withoutArray (ParentalControl.getGroupSchedules subscriberId groupId)
  | getGroupSchedule groupId scheduleId =>
    ParentalControl.getGroupSchedule subscriberId groupId scheduleId
  | mutation m => m.call subscriberId

/-- What a handler answers when its call has failed. -/
def answerFailure (conv : Conversions) (locateZone : String → Option Zone)
    (bearerToken subscriberId operatorId : String) (r : CallResult) :
    Operation → Portal (List HandlerAnswer)
  | mutation m =>
    handleParentalControlMutationResult conv locateZone m.method bearerToken r subscriberId operatorId
      m.configRawRequired m.successResponse m.normalizeTimezone
  | _ => return [forwardParentalControlErrorResponse r.status r.response]

end Operation

/-- The reply with which an operation succeeds. -/
structure Expects where
  /-- the body of an error has to be an object as well -/
  strict : Bool
  /-- the check of the body -/
  accepts : Body → Bool

namespace Expects

/-- The body is an array. -/
def array : Expects where
  strict := false
  accepts
    | .json (.arr _) => true
    | _ => false

/-- The body is an object. -/
def object (strict : Bool) : Expects where
  strict := strict
  accepts body := body.parse.isSome

/-- The body of a deletion. -/
def deletion (accept : Bool → Option Json.Object → Bool) : Expects where
  strict := false
  accepts body := accept body.isEmpty body.parse

/-- The result of a call which was answered with a reply, or was not answered. -/
def Result (x : Expects) (answer : Option Reply) (r : CallResult) : Prop :=
  match answer with
  | none => r.success = false ∧ r.status = HTTPStatus.gatewayTimeout
  | some reply =>
    if x.strict = true ∧ reply.body.parse = none then
      r.success = false ∧ r.status = HTTPStatus.gatewayTimeout
    else r.status = reply.status ∧ r.success = (reply.status = HTTPStatus.ok && x.accepts reply.body)

end Expects

/-- The reply with which a change of the rules succeeds. -/
def Mutation.expects : Mutation → Expects
  | deleteGroup .. | deleteSchedule .. => .deletion ParentalControl.emptyOrObject
  | deleteGroupDevice .. | deleteGroupSchedule .. => .deletion ParentalControl.objectWithConfigRaw
  | updateSchedule .. | createGroupDevice .. | createGroupDevicesV2 .. | createGroupSchedule ..
  | replaceGroupSchedules .. => .object true

/-- The reply with which an operation succeeds. -/
def Operation.expects : Operation → Expects
  | getGroups | getSchedules | getScheduleGroups _ | getGroupDevices _ | getGroupSchedules _ => .array
  | getGroup _ | getSchedule _ | getGroupDevice .. | getGroupSchedule .. => .object false
  | createGroup _ | updateGroup .. | createSchedule _ => .object true
  | mutation m => m.expects

/-! ## The results of the calls -/

section Calls

variable {endpoint : String} {body : Json.Object} {timeoutMs : Nat} {tr : List Portal.Event}
  {r : CallResult}

/-- A call is answered once, as is expected of it. -/
def Answered (x : Expects) (tr : List Portal.Event) (r : CallResult) : Prop :=
  ∃ c answer, tr = [⟨.call c, answer⟩] ∧ x.Result answer r

/-- The result of a call which is answered. -/
lemma Expects.result_some {x : Expects} {reply : Reply} (parsed : x.strict = true → reply.body.parse ≠ none)
    (status : r.status = reply.status)
    (ok : r.success = (reply.status = HTTPStatus.ok && x.accepts reply.body)) :
    x.Result (some reply) r := by
  rw [Expects.Result, if_neg fun h => parsed h.1 h.2]
  exact ⟨status, ok⟩

/-- What a GET of an array is answered. -/
lemma executeGetArray_answered
    (h : Trace (Operation.withoutArray (ParentalControl.executeGetArray endpoint)) tr r) :
    Answered .array tr r := by
  obtain ⟨tr1, tr2, ⟨r', elements⟩, rfl, h1, h2⟩ := trace_bind.mp h
  obtain ⟨rfl, rfl⟩ := trace_pure.mp h2
  obtain ⟨answer, rfl, ok, eq⟩ := ParentalControl.executeGetArray_inv h1
  refine ⟨_, answer, rfl, ?_⟩
  dsimp only at ok eq
  cases answer with
  | none =>
    obtain ⟨status, eq⟩ := Prod.mk.inj eq
    obtain ⟨rfl, _⟩ := Prod.mk.inj eq
    exact ⟨by simp [ok], status⟩
  | some reply =>
    have found : r.status = reply.status ∧ elements.isSome = Expects.array.accepts reply.body := by
      unfold OpenAPIRequest.lenientArray at eq
      dsimp only at eq
      split at eq
      case h_1 body =>
        obtain ⟨status, eq⟩ := Prod.mk.inj eq
        obtain ⟨rfl, _⟩ := Prod.mk.inj eq
        exact ⟨status, by simp [Expects.array, body]⟩
      case h_2 notArray =>
        obtain ⟨status, eq⟩ := Prod.mk.inj eq
        obtain ⟨rfl, _⟩ := Prod.mk.inj eq
        refine ⟨status, ?_⟩
        rw [Expects.array]
        dsimp only
        split
        case h_1 body elements eq => exact absurd eq (notArray elements)
        case h_2 => rfl
    apply Expects.result_some
    · intro strict
      cases strict
    · exact found.1
    · rw [ok, found.1, found.2]

/-- What a GET of an object is answered. -/
lemma executeGetObject_answered (h : Trace (ParentalControl.executeGetObject endpoint) tr r) :
    Answered (.object false) tr r := by
  obtain ⟨answer, rfl, ok, eq⟩ := ParentalControl.executeGetObject_inv h
  refine ⟨_, answer, rfl, ?_⟩
  rcases OpenAPIRequest.lenient_inv eq with ⟨rfl, status, none⟩ | ⟨reply, rfl, status, response⟩
  · exact ⟨by simp [ok, none], status⟩
  · apply Expects.result_some
    · exact nofun
    · exact status
    · rw [ok, status, response]
      rfl

/-- The result of a call whose reply has to be an object. -/
lemma result_strict {answer : Option Reply}
    (ok : r.success = (r.status = HTTPStatus.ok && r.response.isSome))
    (eq : (r.status, r.response) = OpenAPIRequest.strict none answer) :
    (Expects.object true).Result answer r := by
  cases answer with
  | none =>
    obtain ⟨status, none⟩ := Prod.mk.inj eq
    exact ⟨by simp [ok, none], status⟩
  | some reply =>
    cases parsed : reply.body.parse with
    | none =>
      simp only [OpenAPIRequest.strict, parsed] at eq
      obtain ⟨status, none⟩ := Prod.mk.inj eq
      rw [Expects.Result, if_pos ⟨rfl, parsed⟩]
      exact ⟨by simp [ok, none], status⟩
    | some o =>
      simp only [OpenAPIRequest.strict, parsed] at eq
      obtain ⟨status, response⟩ := Prod.mk.inj eq
      apply Expects.result_some
      · intro _ none
        rw [parsed] at none
        cases none
      · exact status
      · simp [ok, status, response, Expects.object, parsed]

/-- What a POST is answered. -/
lemma executePostObject_answered
    (h : Trace (ParentalControl.executePostObject endpoint body timeoutMs) tr r) :
    Answered (.object true) tr r := by
  obtain ⟨answer, rfl, ok, eq⟩ := ParentalControl.executePostObject_inv h
  exact ⟨_, answer, rfl, result_strict ok eq⟩

/-- What a PUT is answered. -/
lemma executePutObject_answered
    (h : Trace (ParentalControl.executePutObject endpoint body timeoutMs) tr r) :
    Answered (.object true) tr r := by
  obtain ⟨answer, rfl, ok, eq⟩ := ParentalControl.executePutObject_inv h
  exact ⟨_, answer, rfl, result_strict ok eq⟩

/-- What a DELETE is answered. -/
lemma executeDelete_answered {accept : Bool → Option Json.Object → Bool}
    (h : Trace (ParentalControl.executeDelete endpoint timeoutMs accept) tr r) :
    Answered (.deletion accept) tr r := by
  obtain ⟨answer, rfl, ok, eq⟩ := ParentalControl.executeDelete_inv h
  refine ⟨_, answer, rfl, ?_⟩
  rcases OpenAPIRequest.lenient_inv eq with ⟨rfl, status, none⟩ | ⟨reply, rfl, status, response⟩
  · refine ⟨?_, status⟩
    rw [ok, status]
    rfl
  · apply Expects.result_some
    · exact nofun
    · exact status
    · rw [ok, status, response]
      rfl

/-- What each of the mutations is answered. -/
lemma Mutation.call_answered {subscriberId : String} {m : Mutation}
    (h : Trace (m.call subscriberId) tr r) : Answered m.expects tr r := by
  cases m with
  | deleteGroup groupId => exact executeDelete_answered h
  | updateSchedule scheduleId body timezone => exact executePutObject_answered h
  | deleteSchedule scheduleId => exact executeDelete_answered h
  | createGroupDevice groupId body => exact executePostObject_answered h
  | createGroupDevicesV2 groupId body => exact executePostObject_answered h
  | deleteGroupDevice groupId clientMac => exact executeDelete_answered h
  | createGroupSchedule groupId body => exact executePostObject_answered h
  | replaceGroupSchedules groupId body => exact executePutObject_answered h
  | deleteGroupSchedule groupId scheduleId => exact executeDelete_answered h

/-- Every operation is answered as is expected of it. -/
lemma Operation.call_answered {subscriberId : String} {op : Operation}
    (h : Trace (op.call subscriberId) tr r) : Answered op.expects tr r := by
  cases op with
  | getGroups => exact executeGetArray_answered h
  | createGroup body => exact executePostObject_answered h
  | getGroup groupId => exact executeGetObject_answered h
  | updateGroup groupId body => exact executePutObject_answered h
  | getSchedules => exact executeGetArray_answered h
  | createSchedule body => exact executePostObject_answered h
  | getSchedule scheduleId => exact executeGetObject_answered h
  | getScheduleGroups scheduleId => exact executeGetArray_answered h
  | getGroupDevices groupId => exact executeGetArray_answered h
  | getGroupDevice groupId clientMac => exact executeGetObject_answered h
  | getGroupSchedules groupId => exact executeGetArray_answered h
  | getGroupSchedule groupId scheduleId => exact executeGetObject_answered h
  | mutation m => exact Mutation.call_answered h

/-- A single call has a trace for each answer. -/
lemma trace_of_ask {p : Portal CallResult} {c : Call} {f : Option Reply → CallResult}
    (eq : p = .ask (.call c) fun answer => .ret (f answer)) (answer : Option Reply) :
    ∃ c r, Trace p [⟨.call c, answer⟩] r := by
  subst eq
  exact ⟨c, f answer, trace_ask.mpr ⟨answer, [], rfl, .ret _⟩⟩

/-- Every operation sends one call, which may be answered with anything. -/
lemma Operation.call_total (op : Operation) (subscriberId : String) (answer : Option Reply) :
    ∃ c r, Trace (op.call subscriberId) [⟨.call c, answer⟩] r := by
  cases op with
  | mutation m =>
    cases m with
    | _ => exact trace_of_ask rfl answer
  | _ => exact trace_of_ask rfl answer

end Calls

/-! ## The answers to the subscriber -/

section Answers

variable {conv : Conversions} {locateZone : String → Option Zone}
  {bearerToken subscriberId operatorId : String}

/-- Whatever the operation was, a failure is answered once, with the status of the call. -/
lemma Operation.answerFailure_eq (op : Operation) {r : CallResult} (failed : r.success = false) :
    op.answerFailure conv locateZone bearerToken subscriberId operatorId r =
      return [forwardParentalControlErrorResponse r.status r.response] := by
  cases op with
  | mutation m => exact if_pos failed
  | _ => rfl

/-- A failure of an operation is not answered with a 2xx status, when its call is answered so. -/
def NeverSuccess (conv : Conversions) (locateZone : String → Option Zone)
    (bearerToken subscriberId operatorId : String) (op : Operation) (answer : Option Reply) : Prop :=
  ∀ c r tr sent, Trace (op.call subscriberId) [⟨.call c, answer⟩] r → r.success = false →
    Trace (op.answerFailure conv locateZone bearerToken subscriberId operatorId r) tr sent →
    ∀ a ∈ sent, ¬ IsSuccess a.status

/-- A reply with a 2xx status is a 200 with the expected body, or has no object where one is parsed. -/
def Expects.Fits (x : Expects) (answer : Option Reply) : Prop :=
  ∀ reply, answer = some reply → IsSuccess reply.status →
    reply.status = HTTPStatus.ok ∧ x.accepts reply.body = true ∨
      x.strict = true ∧ reply.body.parse = none

/-- A result which failed with a 2xx status comes from a reply which does not fit. -/
lemma Expects.fits_iff {x : Expects} {answer : Option Reply} {r : CallResult}
    (result : x.Result answer r) : x.Fits answer ↔ (r.success = false → ¬ IsSuccess r.status) := by
  cases answer with
  | none =>
    refine ⟨fun _ _ => ?_, fun _ => nofun⟩
    rw [result.2]
    decide
  | some reply =>
    rw [Expects.Result] at result
    split at result
    case isTrue unparsed =>
      refine ⟨?_, ?_⟩
      · intro _ _
        rw [result.2]
        decide
      · intro _ reply' eq _
        cases eq
        exact .inr unparsed
    case isFalse parsed =>
      obtain ⟨status, ok⟩ := result
      refine ⟨?_, ?_⟩
      · intro fits failed success
        rw [status] at success
        rcases fits reply rfl success with ⟨eq, accepts⟩ | unparsed
        · rw [ok, eq, accepts] at failed
          cases failed
        · exact parsed unparsed
      · intro h reply' eq success
        cases eq
        have done : r.success = true := by
          cases failed : r.success with
          | true => rfl
          | false => exact absurd (status ▸ success) (h failed)
        rw [ok, Bool.and_eq_true_iff, decide_eq_true_iff] at done
        exact .inl done

/-- A failed call is never answered with a success status, exactly when the reply fits. -/
theorem failure_notSuccess_iff (conv : Conversions) (locateZone : String → Option Zone)
    (bearerToken subscriberId operatorId : String) (op : Operation) (answer : Option Reply) :
    NeverSuccess conv locateZone bearerToken subscriberId operatorId op answer ↔
      op.expects.Fits answer := by
  refine ⟨?_, ?_⟩
  · intro never
    obtain ⟨c, r, h⟩ := op.call_total subscriberId answer
    obtain ⟨c', answer', eq, result⟩ := Operation.call_answered h
    cases eq
    apply (Expects.fits_iff result).mpr
    intro failed success
    have answers : Trace (op.answerFailure conv locateZone bearerToken subscriberId operatorId r) []
        [forwardParentalControlErrorResponse r.status r.response] := by
      rw [op.answerFailure_eq failed]
      exact trace_pure.mpr ⟨rfl, rfl⟩
    apply never c r [] _ h failed answers _ (List.mem_singleton_self _)
    rwa [forwardParentalControlErrorResponse_status]
  · intro fits c r tr sent h failed h' a ha
    obtain ⟨c', answer', eq, result⟩ := Operation.call_answered h
    cases eq
    rw [op.answerFailure_eq failed] at h'
    obtain ⟨_, rfl⟩ := trace_pure.mp h'
    rw [List.mem_singleton.mp ha, forwardParentalControlErrorResponse_status]
    exact (Expects.fits_iff result).mp fits failed

/-- A deletion which is answered 200 without the new rules has failed, and is answered 200. -/
theorem deletion_answered_success :
    ¬ ∀ (conv : Conversions) (locateZone : String → Option Zone)
      (bearerToken subscriberId operatorId : String) (op : Operation) (answer : Option Reply),
      NeverSuccess conv locateZone bearerToken subscriberId operatorId op answer := by
  intro never
  have failed : Trace (Operation.call "subscriber" (.mutation (.deleteGroupDevice "group" "client")))
      [⟨.call (ParentalControl.serviceCall .delete
          "/api/v1/subscribers/subscriber/groups/group/devices/client" [] 120000),
        some ⟨HTTPStatus.ok, .json (.obj [])⟩⟩] ⟨false, HTTPStatus.ok, some []⟩ := by
    apply trace_iff_replay.mpr
    decide +kernel
  have answered : Trace (Operation.answerFailure Conversions.strict (fun _ => none) "" "subscriber"
      "operator" ⟨false, HTTPStatus.ok, some []⟩ (.mutation (.deleteGroupDevice "group" "client"))) []
      [HandlerAnswer.forwardErrorResponse HTTPStatus.ok (some [])] := by
    apply trace_iff_replay.mpr
    decide +kernel
  have status := never _ _ _ _ _ _ _ _ _ _ _ failed rfl answered _ (List.mem_singleton_self _)
  exact status ⟨le_refl 200, show 200 < 300 by decide⟩

end Answers

end UserPortal.RestApi.ParentalControl
