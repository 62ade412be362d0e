import UserPortal.RestApi.Mutations
import UserPortal.Sdk.Observed

/-!
# What a change of the rules has done

The traces of `HandleParentalControlMutationResult`: it answers once, and where it goes on after a
snapshot, the gateway was given that snapshot.
-/

namespace UserPortal.RestApi.ParentalControl
open Interaction Program Calendar Sdk

/-- A 2xx status. -/
def IsSuccess (status : HTTPStatus) : Prop := 200 ≤ status ∧ status < 300

instance (status : HTTPStatus) : Decidable (IsSuccess status) :=
  inferInstanceAs (Decidable (_ ∧ _))

lemma not_isSuccess_unAuthorized {method : String} {e : ErrorMsg} :
    ¬ IsSuccess (HandlerAnswer.unAuthorized method e).status := show ¬ IsSuccess 403 by decide

lemma not_isSuccess_internalError {method : String} {e : ErrorMsg} :
    ¬ IsSuccess (HandlerAnswer.internalError method e).status := show ¬ IsSuccess 500 by decide

section Apply

variable {conv : Conversions} {bearerToken resolvedSerial subscriberId operatorId : String}
  {configRaw : List Json} {tr : List Portal.Event} {result : ApplyConfigRawResult}

/-- The events of a successful replacement: the record is fetched, the clock read, the gateway
configured. -/
structure Replaces (bearerToken resolvedSerial : String) (configRaw : List Json)
    (tr : List Portal.Event) (config sent : Json.Object) : Prop where
  events : ∃ (deviceObj : Json.Object) (t : Int) (answer : Option Reply),
    deviceObj.getObject? "configuration" = some config ∧
    sent = Gw.stampConfig (config.set "config-raw" (.arr configRaw)) (Utils.now t) ∧
    tr = [⟨.call (Gw.getConfigCall bearerToken resolvedSerial),
        some ⟨HTTPStatus.ok, .json (.obj deviceObj)⟩⟩,
      ⟨.now, t⟩,
      ⟨.call (Gw.configureCall bearerToken resolvedSerial sent (Utils.now t)), answer⟩] ∧
    (OpenAPIRequest.strict none answer).1 = HTTPStatus.ok

lemma replaceConfigRaw_inv
    (h : Trace (replaceConfigRaw bearerToken resolvedSerial configRaw) tr result) :
    result = .applied ∧ (∃ config sent, Replaces bearerToken resolvedSerial configRaw tr config sent) ∨
      result = .gatewayConfigLoadFailed ∨ result = .gatewayConfigMalformed ∨
      result = .gatewayConfigureFailed := by
  obtain ⟨tr1, tr2, r, rfl, h1, h2⟩ := trace_bind.mp h
  split at h2
  case isFalse => exact .inr (.inl (trace_pure.mp h2).2)
  case isTrue ok =>
    obtain ⟨answer, rfl, eq, len⟩ := Gw.getConfig_inv h1
    rw [eq, Bool.and_eq_true_iff, decide_eq_true_iff] at ok
    split at h2
    case h_1 => exact .inr (.inr (.inl (trace_pure.mp h2).2))
    case h_2 config cfg =>
      obtain ⟨deviceObj, resp, cfg⟩ := Option.bind_eq_some_iff.mp cfg
      rw [resp, ok.1] at len
      obtain ⟨⟨status, body⟩, rfl, rfl, eq'⟩ := OpenAPIRequest.lenient_some (congrArg Prod.snd len).symm
      rw [eq'] at len
      cases len
      obtain ⟨tr3, tr4, ⟨r', sent⟩, rfl, h3, h4⟩ := trace_bind.mp h2
      obtain ⟨rfl, rfl⟩ := trace_pure.mp h4
      obtain ⟨t, answer', rfl, rfl, s, eq''⟩ := Gw.configure_inv h3
      dsimp only
      split
      case isTrue success =>
        refine .inl ⟨rfl, config, _, deviceObj, t, answer', cfg, rfl, rfl, ?_⟩
        rw [← eq'']
        exact s.mp success
      case isFalse => exact .inr (.inr (.inr rfl))

/-- The gateway of the subscriber, the first of its devices which is in the gateway group, is given the
snapshot. -/
def Applies (conv : Conversions) (bearerToken subscriberId operatorId : String) (configRaw : List Json)
    (tr : List Portal.Event) : Prop :=
  ∃ answer devices rest config sent,
    tr = ⟨.call (Prov.getDevicesCall "" subscriberId operatorId), answer⟩ :: rest ∧
    Prov.listed conv ⟨.call (Prov.getDevicesCall "" subscriberId operatorId), answer⟩ = some devices ∧
    gatewaySerialOf devices ≠ "" ∧ Replaces bearerToken (gatewaySerialOf devices) configRaw rest config sent

lemma applyConfigRaw_inv
    (h : Trace (applyConfigRaw conv bearerToken subscriberId operatorId (some configRaw)) tr result) :
    result = .applied ∧ Applies conv bearerToken subscriberId operatorId configRaw tr ∨
      result ≠ .applied ∧ result ≠ .noConfigApplyNeeded := by
  rw [applyConfigRaw] at h
  dsimp only at h
  split at h
  case isTrue =>
    rw [(trace_pure.mp h).2]
    exact .inr ⟨nofun, nofun⟩
  case isFalse =>
    obtain ⟨tr1, rest, ⟨devices, status, response⟩, rfl, h1, h2⟩ := trace_bind.mp h
    obtain ⟨answer, rfl, listed, -⟩ := Prov.getDevices_inv h1
    dsimp only at h2 listed
    split at h2
    case h_1 =>
      rw [(trace_pure.mp h2).2]
      exact .inr ⟨nofun, nofun⟩
    case h_2 devices =>
      split at h2
      case isTrue =>
        rw [(trace_pure.mp h2).2]
        exact .inr ⟨nofun, nofun⟩
      case isFalse found =>
        rcases replaceConfigRaw_inv h2 with ⟨rfl, config, sent, replaces⟩ | rfl | rfl | rfl
        · exact .inl ⟨rfl, answer, devices, rest, config, sent, rfl, listed.symm, found, replaces⟩
        · exact .inr ⟨nofun, nofun⟩
        · exact .inr ⟨nofun, nofun⟩
        · exact .inr ⟨nofun, nofun⟩

/-- The handler goes on exactly where the snapshot was applied or was not needed. -/
lemma handleApplyConfigRawResult_goesOn {method : String} :
    (handleApplyConfigRawResult method result).1 = true ↔
      result = .applied ∨ result = .noConfigApplyNeeded := by
  cases result <;> simp [handleApplyConfigRawResult]

/-- The handler answers with an error exactly where it does not go on. -/
lemma handleApplyConfigRawResult_sent (method : String) (result : ApplyConfigRawResult) :
    (handleApplyConfigRawResult method result).1 = true ∧
        (handleApplyConfigRawResult method result).2 = [] ∨
      (handleApplyConfigRawResult method result).1 = false ∧ ∃ answer,
        (handleApplyConfigRawResult method result).2 = [answer] ∧ ¬ IsSuccess answer.status := by
  cases result with
  | noConfigApplyNeeded => exact .inl ⟨rfl, rfl⟩
  | applied => exact .inl ⟨rfl, rfl⟩
  | missingOperatorId => exact .inr ⟨rfl, _, rfl, not_isSuccess_unAuthorized⟩
  | provisioningLookupFailed => exact .inr ⟨rfl, _, rfl, not_isSuccess_internalError⟩
  | missingGatewaySerial => exact .inr ⟨rfl, _, rfl, not_isSuccess_internalError⟩
  | gatewayConfigLoadFailed => exact .inr ⟨rfl, _, rfl, not_isSuccess_internalError⟩
  | gatewayConfigMalformed => exact .inr ⟨rfl, _, rfl, not_isSuccess_internalError⟩
  | gatewayConfigureFailed => exact .inr ⟨rfl, _, rfl, not_isSuccess_internalError⟩

variable {method : String} {mutationResponse : Option Json.Object} {configRawRequired : Bool}

/-- Either the handler goes on, having applied the snapshot if there is one, or it has answered with an
error. -/
lemma applyConfigRawFromMutationResponse_inv {r : Bool × List HandlerAnswer}
    (h : Trace (applyConfigRawFromMutationResponse conv method bearerToken subscriberId operatorId
      mutationResponse configRawRequired) tr r) :
    r = (true, []) ∧
        (extractConfigRawSnapshot mutationResponse configRawRequired = some none ∧ tr = [] ∨
          ∃ configRaw,
            extractConfigRawSnapshot mutationResponse configRawRequired = some (some configRaw) ∧
            Applies conv bearerToken subscriberId operatorId configRaw tr) ∨
      ∃ answer, r = (false, [answer]) ∧ ¬ IsSuccess answer.status := by
  rw [applyConfigRawFromMutationResponse] at h
  split at h
  case h_1 =>
    obtain ⟨_, rfl⟩ := trace_pure.mp h
    exact .inr ⟨_, rfl, not_isSuccess_internalError⟩
  case h_2 absent =>
    obtain ⟨rfl, rfl⟩ := trace_pure.mp h
    exact .inl ⟨rfl, .inl ⟨absent, rfl⟩⟩
  case h_3 configRaw present =>
    obtain ⟨tr1, tr2, result, rfl, h1, h2⟩ := trace_bind.mp h
    obtain ⟨rfl, rfl⟩ := trace_pure.mp h2
    rw [List.append_nil]
    rcases applyConfigRaw_inv h1 with ⟨rfl, applies⟩ | ⟨ne1, ne2⟩
    · exact .inl ⟨rfl, .inr ⟨configRaw, present, applies⟩⟩
    · rcases handleApplyConfigRawResult_sent method result
        with ⟨goesOn, _⟩ | ⟨stops, answer, sent, error⟩
      · rcases handleApplyConfigRawResult_goesOn.mp goesOn with rfl | rfl
        · exact absurd rfl ne1
        · exact absurd rfl ne2
      · exact .inr ⟨answer, Prod.ext stops sent, error⟩

end Apply

section Answers

variable {conv : Conversions} {locateZone : String → Option Zone}
  {method bearerToken subscriberId operatorId normalizeTimezone : String} {configRawRequired : Bool}
  {successResponse : MutationSuccessResponse} {tr : List Portal.Event}

/-- A normalized schedule has no `config-raw`. -/
lemma normalizeScheduleResponse_has {sysNow : Int} {timezoneStr : String} {schedule out : Json.Object}
    (h : normalizeScheduleResponse conv locateZone sysNow timezoneStr schedule = (true, out)) :
    out.has "config-raw" = false := by
  rw [normalizeScheduleResponse] at h
  split at h
  case isTrue => cases h
  case isFalse =>
    split at h
    case h_2 => cases h
    case h_1 =>
      split at h
      case isTrue => cases h
      case isFalse =>
        split at h
        case h_1 => cases h
        case h_2 =>
          dsimp only at h
          split at h
          case h_1 => cases h
          case h_2 =>
            split at h
            case h_2 => cases h
            case h_1 =>
              cases h
              exact Json.Object.has_remove_self _ _

/-- The answer has no `config-raw` in the modes which hide it. -/
def HidesConfigRaw (successResponse : MutationSuccessResponse) (answer : HandlerAnswer) : Prop :=
  match successResponse with
  | .returnObjectWithoutConfigRaw | .returnNormalizedScheduleObject =>
    ∃ o, answer.document = some o ∧ o.has "config-raw" = false
  | _ => True

/-- A handler whose change was applied answers once, having asked at most for the time. -/
lemma answerMutation_inv {response : Option Json.Object} {sent : List HandlerAnswer}
    (h : Trace (answerMutation conv locateZone method response successResponse normalizeTimezone) tr
      sent) :
    (∀ e ∈ tr, ∃ t, e = ⟨.now, t⟩) ∧ ∃ answer, sent = [answer] ∧
      (¬ IsSuccess answer.status ∨
        answer.status = HTTPStatus.ok ∧ HidesConfigRaw successResponse answer) := by
  unfold answerMutation at h
  split at h
  case h_1 =>
    obtain ⟨rfl, rfl⟩ := trace_pure.mp h
    exact ⟨nofun, _, rfl, .inr ⟨rfl, trivial⟩⟩
  case h_2 =>
    obtain ⟨rfl, rfl⟩ := trace_pure.mp h
    exact ⟨nofun, _, rfl, .inl not_isSuccess_internalError⟩
  case h_3 =>
    obtain ⟨rfl, rfl⟩ := trace_pure.mp h
    exact ⟨nofun, _, rfl, .inr ⟨rfl, trivial⟩⟩
  case h_4 response =>
    obtain ⟨rfl, rfl⟩ := trace_pure.mp h
    exact ⟨nofun, _, rfl, .inr ⟨rfl, _, rfl, Json.Object.has_remove_self _ _⟩⟩
  case h_5 response =>
    obtain ⟨t, rest, rfl, h1⟩ := trace_perform_bind.mp h
    split at h1
    case h_1 out normalized =>
      obtain ⟨rfl, rfl⟩ := trace_pure.mp h1
      refine ⟨fun e he => ⟨t, List.mem_singleton.mp he⟩, _, rfl, .inr ⟨rfl, out, rfl, ?_⟩⟩
      exact normalizeScheduleResponse_has normalized
    case h_2 =>
      obtain ⟨rfl, rfl⟩ := trace_pure.mp h1
      exact ⟨fun e he => ⟨t, List.mem_singleton.mp he⟩, _, rfl, .inl not_isSuccess_internalError⟩

variable {mutation : CallResult}

/-- The gateway is up to date with a reply: there is no snapshot in it, or the gateway was given it. -/
def UpToDate (conv : Conversions) (bearerToken subscriberId operatorId : String)
    (response : Option Json.Object) (configRawRequired : Bool) (tr : List Portal.Event) : Prop :=
  extractConfigRawSnapshot response configRawRequired = some none ∧ tr = [] ∨
    ∃ configRaw, extractConfigRawSnapshot response configRawRequired = some (some configRaw) ∧
      Applies conv bearerToken subscriberId operatorId configRaw tr

/-- What the answer to a mutation result tells. -/
lemma handleParentalControlMutationResult_inv {sent : List HandlerAnswer}
    (h : Trace (handleParentalControlMutationResult conv locateZone method bearerToken mutation
      subscriberId operatorId configRawRequired successResponse normalizeTimezone) tr sent) :
    ∃ answer, sent = [answer] ∧
      (mutation.success = false ∧ answer.status = mutation.status ∨
        mutation.success = true ∧
          (¬ IsSuccess answer.status ∨
            answer.status = HTTPStatus.ok ∧ HidesConfigRaw successResponse answer ∧
            ∃ applied nows, tr = applied ++ nows ∧ (∀ e ∈ nows, ∃ t, e = ⟨.now, t⟩) ∧
              UpToDate conv bearerToken subscriberId operatorId mutation.response configRawRequired
                applied)) := by
  rw [handleParentalControlMutationResult] at h
  split at h
  case isTrue failed =>
    obtain ⟨_, rfl⟩ := trace_pure.mp h
    exact ⟨_, rfl, .inl ⟨failed, forwardParentalControlErrorResponse_status _ _⟩⟩
  case isFalse success =>
    have success : mutation.success = true := by simpa using success
    obtain ⟨applied, rest, r, rfl, h1, h2⟩ := trace_bind.mp h
    rcases applyConfigRawFromMutationResponse_inv h1 with ⟨rfl, upToDate⟩ | ⟨answer, rfl, error⟩
    · dsimp only at h2
      rw [if_neg (by decide)] at h2
      obtain ⟨nows, tr2, answers, rfl, h3, h4⟩ := trace_bind.mp h2
      obtain ⟨rfl, rfl⟩ := trace_pure.mp h4
      obtain ⟨clock, answer, rfl, status⟩ := answerMutation_inv h3
      refine ⟨answer, rfl, .inr ⟨success, ?_⟩⟩
      rcases status with error | ⟨ok, hides⟩
      · exact .inl error
      · exact .inr ⟨ok, hides, applied, nows, by rw [List.append_nil], clock, upToDate⟩
    · dsimp only at h2
      rw [if_pos rfl] at h2
      obtain ⟨_, rfl⟩ := trace_pure.mp h2
      exact ⟨answer, rfl, .inr ⟨success, .inl error⟩⟩

end Answers

end UserPortal.RestApi.ParentalControl
