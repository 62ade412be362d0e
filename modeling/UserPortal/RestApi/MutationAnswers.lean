import UserPortal.RestApi.MutationTraces

/-!
# What the answer to a change of the rules means

`HandleParentalControlMutationResult` answers once. A 2xx answer means that the change was made and that
the gateway was given its rules, unless the change itself has failed with a 2xx status: this status is
forwarded.
-/

namespace UserPortal.RestApi.ParentalControl
open Interaction Program Calendar Sdk

/-- A reply has no rules for the gateway: its `config-raw` is null, or absent where none is required. -/
def NothingToApply (response : Option Json.Object) (configRawRequired : Bool) : Prop :=
  response.bind (fun o => o.get? "config-raw") = some .null ∨
    configRawRequired = false ∧ response.bind (fun o => o.get? "config-raw") = none

/-- Nothing but the rules and the stamp of a configuration was replaced. -/
structure OnlyRulesReplaced (config sent : Json.Object) (configRaw : List Json) (now : Nat) : Prop where
  rules : sent.get? "config-raw" = some (.arr configRaw)
  stamp : sent.get? "uuid" = some (.int now)
  others : ∀ k, k ≠ "config-raw" → k ≠ "uuid" → sent.get? k = config.get? k

/-- The rules of a reply were given to the first gateway of the subscriber: its devices are listed, the
configuration of the gateway is fetched, and accepted with the rules replaced. -/
structure GatewayUpdated (conv : Conversions) (bearerToken subscriberId operatorId : String)
    (response : Option Json.Object) (tr : List Portal.Event) : Prop where
  updates : ∃ (o : Json.Object) (configRaw : List Json) (listing : Option Reply)
    (devices : List Gw.SubscriberDevice) (device : Gw.SubscriberDevice)
    (deviceObj config sent : Json.Object) (t : Int) (answer : Option Reply),
    response = some o ∧ o.get? "config-raw" = some (.arr configRaw) ∧
    Prov.listed conv ⟨.call (Prov.getDevicesCall "" subscriberId operatorId), listing⟩ = some devices ∧
    (devices.find? fun d => Utils.toLower d.deviceGroup = "olg") = some device ∧
    deviceObj.getObject? "configuration" = some config ∧
    OnlyRulesReplaced config sent configRaw (Utils.now t) ∧
    (OpenAPIRequest.strict none answer).1 = HTTPStatus.ok ∧
    tr = [⟨.call (Prov.getDevicesCall "" subscriberId operatorId), listing⟩,
      ⟨.call (Gw.getConfigCall bearerToken device.serialNumber),
        some ⟨HTTPStatus.ok, .json (.obj deviceObj)⟩⟩,
      ⟨.now, t⟩,
      ⟨.call (Gw.configureCall bearerToken device.serialNumber sent (Utils.now t)), answer⟩]

/-- Nothing is extracted exactly where there is nothing to apply. -/
lemma extract_eq_none_iff {response : Option Json.Object} {required : Bool} :
    extractConfigRawSnapshot response required = some none ↔ NothingToApply response required := by
  unfold extractConfigRawSnapshot NothingToApply
  cases response with
  | none => cases required <;> simp
  | some o =>
    dsimp only [Option.bind_some]
    cases value : o.get? "config-raw" with
    | none => cases required <;> simp
    | some v =>
      cases v with
      | null => simp
      | arr configRaw =>
        dsimp only
        split <;> simp
      | _ => simp

/-- Where there is a gateway serial, it is the one of the first device of the gateway group. -/
lemma gatewaySerialOf_find {devices : List Gw.SubscriberDevice} (found : gatewaySerialOf devices ≠ "") :
    ∃ device, (devices.find? fun d => Utils.toLower d.deviceGroup = "olg") = some device ∧
      gatewaySerialOf devices = device.serialNumber := by
  rw [gatewaySerialOf] at found ⊢
  split
  case h_1 device eq => exact ⟨device, eq, rfl⟩
  case h_2 eq =>
    rw [eq] at found
    exact absurd rfl found

lemma onlyRulesReplaced (config : Json.Object) (configRaw : List Json) (now : Nat) :
    OnlyRulesReplaced config (Gw.stampConfig (config.set "config-raw" (.arr configRaw)) now) configRaw
      now where
  rules := by
    rw [Gw.stampConfig, Json.Object.get?_set_of_ne _ _ (by decide), Json.Object.get?_set_self]
  stamp := Json.Object.get?_set_self _ _ _
  others k ne1 ne2 := by
    rw [Gw.stampConfig, Json.Object.get?_set_of_ne _ _ ne2.symm, Json.Object.get?_set_of_ne _ _ ne1.symm]

section Answers

variable {conv : Conversions} {locateZone : String → Option Zone}
  {method bearerToken subscriberId operatorId normalizeTimezone : String} {configRawRequired : Bool}
  {successResponse : MutationSuccessResponse} {mutation : CallResult}

/-- Rules which were applied have updated the gateway. -/
lemma Applies.gatewayUpdated {o : Json.Object} {configRaw : List Json} {tr : List Portal.Event}
    (present : o.get? "config-raw" = some (.arr configRaw))
    (h : Applies conv bearerToken subscriberId operatorId configRaw tr) :
    GatewayUpdated conv bearerToken subscriberId operatorId (some o) tr := by
  obtain ⟨listing, devices, rest, config, sent, rfl, listed, found, replaces⟩ := h
  obtain ⟨deviceObj, t, answer, cfg, rfl, rfl, ok⟩ := replaces.events
  obtain ⟨device, first, serial⟩ := gatewaySerialOf_find found
  refine ⟨o, configRaw, listing, devices, device, deviceObj, config, _, t, answer, rfl, present, listed,
    first, cfg, onlyRulesReplaced config configRaw (Utils.now t), ok, ?_⟩
  rw [serial]

/-- What a 2xx answer means: the change was made, and the gateway was updated unless the reply has nothing
for it; in between and afterwards at most the clock is read. -/
structure MutationDone (conv : Conversions) (bearerToken subscriberId operatorId : String)
    (mutation : CallResult) (configRawRequired : Bool) (successResponse : MutationSuccessResponse)
    (tr : List Portal.Event) (answer : HandlerAnswer) : Prop where
  success : mutation.success = true
  updated : ∃ applied nows, tr = applied ++ nows ∧ (∀ e ∈ nows, ∃ t, e = ⟨.now, t⟩) ∧
    (NothingToApply mutation.response configRawRequired ∧ applied = [] ∨
      GatewayUpdated conv bearerToken subscriberId operatorId mutation.response applied)
  hides : HidesConfigRaw successResponse answer

/-- A change of the rules is answered once, and with a 2xx status only when it is done. -/
def AnswersTruly (conv : Conversions) (locateZone : String → Option Zone)
    (method bearerToken subscriberId operatorId : String) (mutation : CallResult)
    (configRawRequired : Bool) (successResponse : MutationSuccessResponse) (normalizeTimezone : String) :
    Prop :=
  ∀ tr sent, Trace (handleParentalControlMutationResult conv locateZone method bearerToken mutation
      subscriberId operatorId configRawRequired successResponse normalizeTimezone) tr sent →
    ∃ answer, sent = [answer] ∧ (IsSuccess answer.status →
      MutationDone conv bearerToken subscriberId operatorId mutation configRawRequired successResponse tr
        answer)

/-- A change of the rules is answered truly unless it has failed with a 2xx status. -/
theorem mutation_answersTruly_iff (conv : Conversions) (locateZone : String → Option Zone)
    (method bearerToken subscriberId operatorId : String) (mutation : CallResult)
    (configRawRequired : Bool) (successResponse : MutationSuccessResponse) (normalizeTimezone : String) :
    AnswersTruly conv locateZone method bearerToken subscriberId operatorId mutation configRawRequired
        successResponse normalizeTimezone ↔
      mutation.success = true ∨ ¬ IsSuccess mutation.status := by
  refine ⟨?_, ?_⟩
  · intro truly
    cases success : mutation.success with
    | true => exact .inl rfl
    | false =>
      refine .inr fun status => ?_
      have forwards : Trace (handleParentalControlMutationResult conv locateZone method bearerToken
          mutation subscriberId operatorId configRawRequired successResponse normalizeTimezone) []
          [forwardParentalControlErrorResponse mutation.status mutation.response] := by
        rw [handleParentalControlMutationResult, if_pos success]
        exact trace_pure.mpr ⟨rfl, rfl⟩
      obtain ⟨answer, eq, done⟩ := truly _ _ forwards
      cases eq
      have made := (done (by rwa [forwardParentalControlErrorResponse_status])).success
      rw [success] at made
      cases made
  · intro fits tr sent h
    obtain ⟨answer, rfl, status⟩ := handleParentalControlMutationResult_inv h
    refine ⟨answer, rfl, fun success => ?_⟩
    rcases status with ⟨failed, same⟩ | ⟨made, error | ⟨_, hides, applied, nows, rfl, clock, upToDate⟩⟩
    · -- a failure, whose status was forwarded
      rcases fits with made | error
      · rw [failed] at made
        cases made
      · rw [same] at success
        exact absurd success error
    · exact absurd success error
    · refine ⟨made, ⟨applied, nows, rfl, clock, ?_⟩, hides⟩
      rcases upToDate with ⟨absent, nil⟩ | ⟨configRaw, present, applies⟩
      · exact .inl ⟨extract_eq_none_iff.mp absent, nil⟩
      · cases response : mutation.response with
        | none =>
          rw [response] at present
          cases configRawRequired <;> cases present
        | some o =>
          rw [response] at present
          exact .inr (applies.gatewayUpdated (Gw.extract_get? present))

/-- A change which has failed with a status 200 is answered 200. -/
theorem failure_answered_success :
    ¬ ∀ (conv : Conversions) (locateZone : String → Option Zone)
      (method bearerToken subscriberId operatorId : String) (mutation : CallResult)
      (configRawRequired : Bool) (successResponse : MutationSuccessResponse)
      (normalizeTimezone : String),
      AnswersTruly conv locateZone method bearerToken subscriberId operatorId mutation configRawRequired
        successResponse normalizeTimezone := by
  intro truly
  have answered : Trace (handleParentalControlMutationResult Conversions.strict (fun _ => none) "DELETE"
      "" ⟨false, HTTPStatus.ok, some []⟩ "subscriber" "operator" true .ok "") []
      [HandlerAnswer.forwardErrorResponse HTTPStatus.ok (some [])] := by
    apply trace_iff_replay.mpr
    decide +kernel
  obtain ⟨answer, eq, done⟩ := truly _ _ _ _ _ _ _ _ _ _ _ _ answered
  cases eq
  have made := (done ⟨le_refl 200, show 200 < 300 by decide⟩).success
  cases made

end Answers

end UserPortal.RestApi.ParentalControl
