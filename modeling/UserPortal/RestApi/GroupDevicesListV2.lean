import UserPortal.Data.FirstOccurrences
import UserPortal.Framework.AddressCodecs
import UserPortal.RestApi.MutationTraces

/-!
# The devices of a group

Port of `src/RESTAPI/RESTAPI_group_devices_list_v2_handler.cpp` and of `ValidateAuthPreconditions`. The
handler checks the request, spells every MAC in the same way and sends each address once.

`doPost_canonicalises`: the parental-control service is called exactly where all addresses are accepted,
with the first occurrences of their canonical spellings.
-/

namespace UserPortal.RestApi

namespace ParentalControl

/-- `ValidateAuthPreconditions` -/
def validateAuthPreconditions (method subscriberId operatorId : String) (requireOperatorId : Bool) :
    Except HandlerAnswer Unit :=
  if subscriberId = "" then .error (HandlerAnswer.unAuthorized method Errors.invalidSubscriberId)
  else if requireOperatorId ∧ operatorId = "" then
    .error (HandlerAnswer.unAuthorized method Errors.operatorIdMustExist)
  else .ok ()

end ParentalControl

namespace GroupDevicesListV2
open Interaction Program Calendar Data Sdk ParentalControl Utils

/-- What `DoPost` reads of a request: its subscriber, the binding of the group and the body, if it was
parsed. -/
structure Request where
  subscriberId : String
  operatorId : String
  groupId : String
  parsedBody : Option Json.Object

/-- `BadRequest`, which ends the handler. -/
def refuse {α : Type} (e : ErrorMsg) (extra : String) : Except HandlerAnswer α :=
  .error (HandlerAnswer.badRequest "POST" e extra)

/-- The variables of the loop over the addresses. -/
structure Sanitized where
  seenMacs : List String
  downstreamMacs : List String

/-- The body of the loop. What is left of a refused address is named in the answer. -/
def sanitizeMac (st : Sanitized) : Json → Except HandlerAnswer Sanitized
  | .str rawMac =>
    match normalizeMacInPlace rawMac with
    | (false, rawMac) => refuse Errors.missingOrInvalidParameters ("Invalid MAC address: " ++ rawMac)
    | (true, rawMac) =>
      let canonicalMac := serialToMAC rawMac
      if canonicalMac ∈ st.seenMacs then .ok st
      else .ok {
        seenMacs := canonicalMac :: st.seenMacs
        downstreamMacs := st.downstreamMacs ++ [canonicalMac] }
  | _ => refuse Errors.missingOrInvalidParameters "Each element in client_macs must be a string"

/-- The group has to be one. -/
def checkGroupId (groupId : String) : Except HandlerAnswer Unit :=
  if groupId = "" then refuse Errors.missingUUID ""
  else if validUUID groupId = false then refuse Errors.unknownId ""
  else .ok ()

/-- The array of the body, which is its only field. -/
def readMacs : Option Json.Object → Except HandlerAnswer (List Json)
  | none => refuse Errors.invalidJSONDocument ""
  | some body =>
    match body.find? fun field => field.1 ≠ "client_macs" with
    | some (name, _) => refuse Errors.missingOrInvalidParameters ("Unknown field: " ++ name)
    | none =>
      match body.get? "client_macs" with
      | some (.arr macsArray) =>
        if macsArray.length = 0 then
          refuse Errors.missingOrInvalidParameters "client_macs must contain at least one MAC address"
        else if 100 < macsArray.length then
          refuse Errors.missingOrInvalidParameters "client_macs must not exceed 100 MAC addresses"
        else .ok macsArray
      | _ =>
        refuse Errors.missingOrInvalidParameters "client_macs is required and must be an array"

/-- The addresses which `DoPost` sends, after all of its checks. -/
def checkRequest (request : Request) : Except HandlerAnswer (List String) := do
  validateAuthPreconditions "POST" request.subscriberId request.operatorId true
  checkGroupId request.groupId
  let macsArray ← readMacs request.parsedBody
  let st ← macsArray.foldlM sanitizeMac ⟨[], []⟩
  return st.downstreamMacs

/-- `RESTAPI_group_devices_list_v2_handler::DoPost` -/
def doPost (conv : Conversions) (locateZone : String → Option Zone) (bearerToken : String)
    (request : Request) : Portal (List HandlerAnswer) :=
  match checkRequest request with
  | .error answer => return [answer]
  | .ok macs =>
    (Mutation.createGroupDevicesV2 request.groupId [("client_macs", .arr (macs.map .str))]).handle conv
      locateZone bearerToken request.subscriberId request.operatorId

/-! ## What is sent -/

/-- The address which an element spells, in its normal form. -/
def address? : Json → Option String
  | .str raw => normalizeMac raw
  | _ => none

/-- The array is sent: it has 1 to 100 elements, all of them strings which `NormalizeMac` accepts. -/
structure Admitted (macs : List Json) : Prop where
  some : 1 ≤ macs.length
  few : macs.length ≤ 100
  addresses : ∀ e ∈ macs, ∃ raw, e = .str raw ∧ (normalizeMacInPlace raw).1 = true

/-- The canonical spellings of the addresses, each at its first occurrence. -/
def canonicalMacs (macs : List Json) : List String :=
  (macs.filterMap address?).eraseDups.map serialToMAC

/-- The elements are the same addresses in other separators and letter case. -/
def Respelled : List Json → List Json → Prop :=
  List.Forall₂ fun e e' => ∃ raw raw', e = .str raw ∧ e' = .str raw' ∧
    toLower (withoutSeparators raw) = toLower (withoutSeparators raw')

/-- The body is an object with the array of some addresses and nothing else. -/
def IsBodyOf (macs : List Json) (parsedBody : Option Json.Object) : Prop :=
  ∃ body, parsedBody = some body ∧ (∀ field ∈ body, field.1 = "client_macs") ∧
    body.get? "client_macs" = some (.arr macs)

/-- The request is one of a subscriber with an operator about a group, and brings an array and nothing
else. -/
structure Request.Brings (request : Request) (macs : List Json) : Prop where
  subscriber : request.subscriberId ≠ ""
  operator : request.operatorId ≠ ""
  group : validUUID request.groupId = true
  body : IsBodyOf macs request.parsedBody

/-- The request of `CreateGroupDevicesV2`. -/
def devicesCall (subscriberId groupId : String) (macs : List String) : Call :=
  ParentalControl.serviceCall .post
    ("/api/v2/subscribers/" ++ subscriberId ++ "/groups/" ++ groupId ++ "/devices")
    [("client_macs", .arr (macs.map .str))] 120000

/-- The calls of the parental-control service. -/
def serviceCalls (tr : List Portal.Event) : List Call :=
  (Portal.calls tr).filter fun c => c.service = uSERVICE_MANGO_PARENTAL_CONTROL

/-! ## The loop -/

variable {e : Json} {macs : List Json} {st : Sanitized} {normal : String} {done : List String}

/-- An address is a string which is normalized. -/
lemma address?_eq_some {normal : String} :
    address? e = some normal ↔ ∃ raw, e = .str raw ∧ normalizeMacInPlace raw = (true, normal) := by
  refine ⟨?_, ?_⟩
  · intro h
    cases e with
    | str raw => exact ⟨raw, rfl, normalizeMacInPlace_of_some h⟩
    | _ => cases h
  · intro h
    obtain ⟨raw, rfl, accepted⟩ := h
    rw [address?, normalizeMac_eq, accepted]
    rfl

/-- A string which is no address is refused. -/
lemma address?_eq_none (h : address? e = none) {raw : String} (eq : e = .str raw) :
    (normalizeMacInPlace raw).1 = false := by
  rw [eq] at h
  exact normalizeMacInPlace_of_none h

/-- What the loop has collected of some addresses. -/
structure Collected (done : List String) (st : Sanitized) : Prop where
  seen : ∀ mac, mac ∈ st.seenMacs ↔ mac ∈ done.map serialToMAC
  downstream : st.downstreamMacs = (done.map serialToMAC).eraseDups

/-- An address is collected, unless it was seen before. -/
lemma sanitizeMac_address (h : address? e = some normal) :
    sanitizeMac st e = .ok (if serialToMAC normal ∈ st.seenMacs then st else {
      seenMacs := serialToMAC normal :: st.seenMacs
      downstreamMacs := st.downstreamMacs ++ [serialToMAC normal] }) := by
  obtain ⟨raw, rfl, accepted⟩ := address?_eq_some.mp h
  rw [sanitizeMac, accepted]
  dsimp only
  by_cases old : serialToMAC normal ∈ st.seenMacs
  · rw [if_pos old, if_pos old]
  · rw [if_neg old, if_neg old]

/-- Anything else ends the loop. -/
lemma sanitizeMac_other (h : address? e = none) : ∃ answer, sanitizeMac st e = .error answer := by
  cases e with
  | str raw =>
    have refused := address?_eq_none h rfl
    rw [sanitizeMac]
    cases eq : normalizeMacInPlace raw with
    | mk accepted rawMac =>
      rw [eq] at refused
      cases refused
      exact ⟨_, rfl⟩
  | _ => exact ⟨_, rfl⟩

/-- One more address is collected. -/
lemma Collected.step (collected : Collected done st) (normal : String) :
    Collected (done ++ [normal]) (if serialToMAC normal ∈ st.seenMacs then st else {
      seenMacs := serialToMAC normal :: st.seenMacs
      downstreamMacs := st.downstreamMacs ++ [serialToMAC normal] }) := by
  have known := collected.seen (serialToMAC normal)
  by_cases old : serialToMAC normal ∈ st.seenMacs
  · rw [if_pos old]
    refine ⟨fun mac => ?_, ?_⟩
    · rw [collected.seen, List.map_append, List.mem_append, List.map_singleton, List.mem_singleton]
      refine ⟨.inl, fun mem => mem.elim id fun eq => ?_⟩
      rw [eq]
      exact known.mp old
    · rw [List.map_append, List.map_singleton, eraseDups_concat, if_pos (known.mp old)]
      exact collected.downstream
  · rw [if_neg old]
    refine ⟨fun mac => ?_, ?_⟩
    · rw [List.map_append, List.mem_append, List.map_singleton, List.mem_singleton, List.mem_cons,
        collected.seen]
      exact or_comm
    · rw [List.map_append, List.map_singleton, eraseDups_concat, if_neg (mt known.mpr old),
        collected.downstream]

/-- The loop goes through where every element is an address, and has collected them. -/
lemma sanitizeMacs_spec (collected : Collected done st) (macs : List Json) :
    (∃ st', macs.foldlM sanitizeMac st = .ok st' ∧ (∀ e ∈ macs, ∃ normal, address? e = some normal) ∧
      Collected (done ++ macs.filterMap address?) st') ∨
    (∃ answer, macs.foldlM sanitizeMac st = .error answer) ∧ ∃ e ∈ macs, address? e = none := by
  induction macs generalizing st done with
  | nil =>
    refine .inl ⟨st, rfl, fun e mem => absurd mem List.not_mem_nil, ?_⟩
    rw [List.filterMap_nil, List.append_nil]
    exact collected
  | cons e macs ih =>
    rw [List.foldlM_cons]
    cases spells : address? e with
    | none =>
      obtain ⟨answer, eq⟩ := sanitizeMac_other spells
      rw [eq]
      exact .inr ⟨⟨answer, rfl⟩, e, List.mem_cons_self .., spells⟩
    | some normal =>
      rw [sanitizeMac_address spells]
      rcases ih (collected.step normal) with ⟨st', run, all, collected'⟩ | ⟨error, e', mem, none⟩
      · refine .inl ⟨st', run, ?_, ?_⟩
        · intro e' mem
          rcases List.mem_cons.mp mem with rfl | mem
          · exact ⟨normal, spells⟩
          · exact all e' mem
        · rw [List.filterMap_cons_some spells, ← List.singleton_append, ← List.append_assoc]
          exact collected'
      · exact .inr ⟨error, e', List.mem_cons_of_mem _ mem, none⟩

/-- A collected address is a serial number. -/
lemma validSerialNumber_of_address (mem : normal ∈ macs.filterMap address?) :
    validSerialNumber normal = true := by
  obtain ⟨e, _, spells⟩ := List.mem_filterMap.mp mem
  obtain ⟨raw, rfl, accepted⟩ := address?_eq_some.mp spells
  exact validSerialNumber_of_normalizeMac spells

/-- Different addresses have different canonical spellings. -/
lemma canonicalMacs_eq (macs : List Json) :
    canonicalMacs macs = ((macs.filterMap address?).map serialToMAC).eraseDups := by
  rw [canonicalMacs, eraseDups_map]
  intro a memA b memB eq
  exact serialToMAC_inj (validSerialNumber_of_address memA) (validSerialNumber_of_address memB) eq

/-- No address is sent twice. -/
lemma canonicalMacs_nodup (macs : List Json) : (canonicalMacs macs).Nodup := by
  rw [canonicalMacs_eq]
  exact nodup_eraseDups _

/-- The loop from its start. -/
lemma sanitizeMacs_start (macs : List Json) :
    (∃ st, macs.foldlM sanitizeMac ⟨[], []⟩ = .ok st ∧ st.downstreamMacs = canonicalMacs macs ∧
      ∀ e ∈ macs, ∃ normal, address? e = some normal) ∨
    (∃ answer, macs.foldlM sanitizeMac ⟨[], []⟩ = .error answer) ∧ ∃ e ∈ macs, address? e = none := by
  have start : Collected [] ⟨[], []⟩ := ⟨fun mac => Iff.rfl, rfl⟩
  rcases sanitizeMacs_spec start macs with ⟨st, run, all, collected⟩ | refused
  · refine .inl ⟨st, run, ?_, all⟩
    rw [canonicalMacs_eq]
    exact collected.downstream
  · exact .inr refused

/-- A list is admitted which has between 1 and 100 addresses, and nothing else. -/
lemma admitted_iff :
    Admitted macs ↔
      1 ≤ macs.length ∧ macs.length ≤ 100 ∧ ∀ e ∈ macs, ∃ normal, address? e = some normal := by
  have same : (∀ e ∈ macs, ∃ normal, address? e = some normal) ↔
      ∀ e ∈ macs, ∃ raw, e = .str raw ∧ (normalizeMacInPlace raw).1 = true := by
    refine forall₂_congr fun e _ => ⟨fun ⟨normal, spells⟩ => ?_, fun ⟨raw, eq, accepted⟩ => ?_⟩
    · obtain ⟨raw, eq, accepted⟩ := address?_eq_some.mp spells
      exact ⟨raw, eq, congrArg Prod.fst accepted⟩
    · have both : normalizeMacInPlace raw = (true, (normalizeMacInPlace raw).2) := by rw [← accepted]
      exact ⟨_, address?_eq_some.mpr ⟨raw, eq, both⟩⟩
  rw [same]
  exact ⟨fun h => ⟨h.some, h.few, h.addresses⟩, fun h => ⟨h.1, h.2.1, h.2.2⟩⟩

/-! ## The request -/

variable {request : Request} {sent : List String}

/-- The preconditions are a subscriber and an operator. -/
lemma validateAuthPreconditions_eq_ok {method subscriberId operatorId : String} :
    validateAuthPreconditions method subscriberId operatorId true = .ok () ↔
      subscriberId ≠ "" ∧ operatorId ≠ "" := by
  rw [validateAuthPreconditions]
  by_cases subscriber : subscriberId = ""
  · rw [if_pos subscriber]
    exact iff_of_false (fun eq => by cases eq) fun both => both.1 subscriber
  · rw [if_neg subscriber]
    by_cases operator : operatorId = ""
    · rw [if_pos ⟨rfl, operator⟩]
      exact iff_of_false (fun eq => by cases eq) fun both => both.2 operator
    · rw [if_neg fun both => operator both.2]
      exact iff_of_true rfl ⟨subscriber, operator⟩

/-- A group id passes as a UUID. -/
lemma checkGroupId_eq_ok {groupId : String} :
    checkGroupId groupId = .ok () ↔ validUUID groupId = true := by
  rw [checkGroupId, refuse]
  by_cases missing : groupId = ""
  · rw [if_pos missing, missing]
    exact iff_of_false (fun eq => by cases eq) (by decide)
  · rw [if_neg missing]
    cases valid : validUUID groupId with
    | false =>
      rw [if_pos rfl]
      exact iff_of_false (fun eq => by cases eq) Bool.false_ne_true
    | true =>
      rw [if_neg (by decide)]
      exact iff_of_true rfl rfl

/-- A body with no other field has the array which it has. -/
lemma isBodyOf_iff {body : Json.Object} {macsArray : List Json}
    (only : ∀ field ∈ body, field.1 = "client_macs")
    (given : body.get? "client_macs" = some (.arr macsArray)) :
    IsBodyOf macs (some body) ↔ macsArray = macs := by
  refine ⟨?_, ?_⟩
  · intro h
    obtain ⟨_, eq, _, given'⟩ := h
    cases eq
    rw [given] at given'
    cases given'
    rfl
  · intro eq
    exact ⟨body, rfl, only, eq ▸ given⟩

/-- The addresses of a body are read if there are between 1 and 100. -/
lemma readMacs_eq_ok {parsedBody : Option Json.Object} :
    readMacs parsedBody = .ok macs ↔
      IsBodyOf macs parsedBody ∧ 1 ≤ macs.length ∧ macs.length ≤ 100 := by
  unfold readMacs refuse
  cases parsedBody with
  | none => exact iff_of_false (fun eq => by cases eq) fun h => by obtain ⟨⟨_, eq, _⟩, _⟩ := h; cases eq
  | some body =>
    dsimp only
    cases unknown : body.find? fun field => field.1 ≠ "client_macs" with
    | some field =>
      refine iff_of_false (fun eq => by cases eq) fun h => ?_
      obtain ⟨⟨_, eq, only, _⟩, _⟩ := h
      cases eq
      have other := List.find?_some unknown
      rw [decide_eq_true_eq] at other
      exact other (only field (List.mem_of_find?_eq_some unknown))
    | none =>
      have only : ∀ field ∈ body, field.1 = "client_macs" := by
        intro field mem
        have known := List.find?_eq_none.mp unknown field mem
        rwa [decide_eq_true_eq, not_not] at known
      dsimp only
      split
      case h_1 macsArray given =>
        rw [isBodyOf_iff only given]
        by_cases none : macsArray.length = 0
        · rw [if_pos none]
          refine iff_of_false (fun eq => by cases eq) fun h => ?_
          rw [← h.1, none] at h
          exact absurd h.2.1 (by decide)
        · rw [if_neg none]
          by_cases many : 100 < macsArray.length
          · rw [if_pos many]
            refine iff_of_false (fun eq => by cases eq) fun h => ?_
            rw [← h.1] at h
            exact absurd h.2.2 (Nat.not_le.mpr many)
          · rw [if_neg many, Except.ok.injEq]
            refine ⟨fun eq => ?_, fun h => h.1⟩
            rw [← eq]
            exact ⟨rfl, Nat.pos_of_ne_zero none, Nat.not_lt.mp many⟩
      case h_2 other =>
        refine iff_of_false (fun eq => by cases eq) fun h => ?_
        obtain ⟨⟨_, eq, _, given⟩, _⟩ := h
        cases eq
        exact other macs given

/-- The loop goes through if all are addresses, and collects their canonical spellings. -/
lemma sanitizeMacs_eq_ok :
    (∃ st, macs.foldlM sanitizeMac ⟨[], []⟩ = .ok st ∧ st.downstreamMacs = sent) ↔
      (∀ e ∈ macs, ∃ normal, address? e = some normal) ∧ sent = canonicalMacs macs := by
  rcases sanitizeMacs_start macs with ⟨st, run, eq, all⟩ | ⟨⟨answer, run⟩, e, mem, none⟩
  · rw [run]
    refine ⟨?_, ?_⟩
    · intro h
      obtain ⟨_, same, rfl⟩ := h
      cases same
      exact ⟨all, eq⟩
    · intro h
      exact ⟨st, rfl, h.2 ▸ eq⟩
  · rw [run]
    refine ⟨?_, ?_⟩
    · intro h
      obtain ⟨_, same, _⟩ := h
      cases same
    · intro h
      obtain ⟨normal, spells⟩ := h.1 e mem
      rw [none] at spells
      cases spells

/-- A request passes all checks exactly where it brings an array which is admitted. -/
lemma checkRequest_eq_ok :
    checkRequest request = .ok sent ↔
      ∃ macs, request.Brings macs ∧ Admitted macs ∧ sent = canonicalMacs macs := by
  rw [checkRequest, except_bind_eq_ok]
  refine ⟨?_, ?_⟩
  · intro h
    obtain ⟨_, auth, h1⟩ := h
    obtain ⟨_, group, h2⟩ := except_bind_ok h1
    obtain ⟨macs, body, h3⟩ := except_bind_ok h2
    obtain ⟨st, run, eq⟩ := except_bind_ok h3
    obtain ⟨subscriber, operator⟩ := validateAuthPreconditions_eq_ok.mp auth
    obtain ⟨body, some, few⟩ := readMacs_eq_ok.mp body
    obtain ⟨all, eq⟩ := sanitizeMacs_eq_ok.mp ⟨st, run, Except.ok.inj eq⟩
    exact ⟨macs, ⟨subscriber, operator, checkGroupId_eq_ok.mp group, body⟩,
      admitted_iff.mpr ⟨some, few, all⟩, eq⟩
  · intro h
    obtain ⟨macs, brings, admitted, eq⟩ := h
    obtain ⟨some, few, all⟩ := admitted_iff.mp admitted
    obtain ⟨st, run, eq⟩ := sanitizeMacs_eq_ok.mpr ⟨all, eq⟩
    refine ⟨(), validateAuthPreconditions_eq_ok.mpr ⟨brings.subscriber, brings.operator⟩, ?_⟩
    rw [except_bind_eq_ok]
    refine ⟨(), checkGroupId_eq_ok.mpr brings.group, ?_⟩
    rw [except_bind_eq_ok]
    refine ⟨macs, readMacs_eq_ok.mpr ⟨brings.body, some, few⟩, ?_⟩
    rw [except_bind_eq_ok]
    exact ⟨st, run, congrArg Except.ok eq⟩

/-! ## The calls -/

section Calls

variable {conv : Conversions} {locateZone : String → Option Zone} {tr : List Portal.Event}
  {answers : List HandlerAnswer}

/-- The event is no call of the parental-control service. -/
def Elsewhere (e : Portal.Event) : Prop :=
  ∀ c, e.1 = .call c → c.service ≠ uSERVICE_MANGO_PARENTAL_CONTROL

/-- A call of another service goes elsewhere. -/
lemma elsewhere_call {c : Call} {answer : Option Reply}
    (other : c.service ≠ uSERVICE_MANGO_PARENTAL_CONTROL) : Elsewhere ⟨.call c, answer⟩ := by
  intro c' eq
  cases eq
  exact other

/-- A configuration is replaced without the parental-control service. -/
lemma replaceConfigRaw_elsewhere (bearerToken serial : String) (configRaw : List Json) :
    Asks Elsewhere (replaceConfigRaw bearerToken serial configRaw) := by
  have fetch : Asks Elsewhere (Gw.getConfig bearerToken serial) := by
    intro tr r h e he
    obtain ⟨answer, rfl, _⟩ := Gw.getConfig_inv h
    rw [List.mem_singleton.mp he]
    exact elsewhere_call (by decide : uSERVICE_GATEWAY ≠ uSERVICE_MANGO_PARENTAL_CONTROL)
  refine fetch.bind fun r => ?_
  split
  case isTrue =>
    split
    case h_1 => exact .pure _
    case h_2 =>
      refine Asks.bind ?_ fun _ => .pure _
      apply Gw.configure_asks
      · intro t c eq
        cases eq
      · intro config now answer
        exact elsewhere_call (by decide : uSERVICE_GATEWAY ≠ uSERVICE_MANGO_PARENTAL_CONTROL)
  case isFalse => exact .pure _

/-- A snapshot is applied without it. -/
lemma applyConfigRaw_elsewhere (bearerToken subscriberId operatorId : String)
    (configRaw : Option (List Json)) :
    Asks Elsewhere (applyConfigRaw conv bearerToken subscriberId operatorId configRaw) := by
  unfold applyConfigRaw
  split
  case h_1 => exact .pure _
  case h_2 =>
    refine .ite (.pure _) ?_
    have lists : Asks Elsewhere (Prov.getDevices conv "" subscriberId operatorId none) := by
      intro tr r h e he
      obtain ⟨answer, rfl, _⟩ := Prov.getDevices_inv h
      rw [List.mem_singleton.mp he]
      exact elsewhere_call (by decide : uSERVICE_PROVISIONING ≠ uSERVICE_MANGO_PARENTAL_CONTROL)
    refine lists.bind fun listed => ?_
    split
    split
    case h_1 => exact .pure _
    case h_2 => exact .ite (.pure _) (replaceConfigRaw_elsewhere _ _ _)

/-- What follows a change of the rules is between the portal, the provisioning service and the gateway. -/
lemma handleParentalControlMutationResult_elsewhere (method bearerToken : String) (mutation : CallResult)
    (subscriberId operatorId : String) (configRawRequired : Bool)
    (successResponse : MutationSuccessResponse) (normalizeTimezone : String) :
    Asks Elsewhere (handleParentalControlMutationResult conv locateZone method bearerToken mutation
      subscriberId operatorId configRawRequired successResponse normalizeTimezone) := by
  refine .ite (.pure _) ?_
  refine Asks.bind ?_ fun r => ?_
  · rw [applyConfigRawFromMutationResponse]
    split
    case h_1 => exact .pure _
    case h_2 => exact .pure _
    case h_3 => exact (applyConfigRaw_elsewhere _ _ _ _).bind fun _ => .pure _
  · refine .ite (.pure _) (Asks.bind ?_ fun _ => .pure _)
    unfold answerMutation
    split
    case h_5 =>
      refine .perform_bind (fun t c eq => by cases eq) fun t => ?_
      split
      case h_1 => exact .pure _
      case h_2 => exact .pure _
    all_goals exact .pure _

/-- What goes elsewhere is no call of the service. -/
lemma serviceCalls_elsewhere (h : ∀ e ∈ tr, Elsewhere e) : serviceCalls tr = [] := by
  induction tr with
  | nil => rfl
  | cons e tr ih =>
    have ih := ih fun e' mem => h e' (List.mem_cons_of_mem _ mem)
    obtain ⟨op, answer⟩ := e
    cases op with
    | now => exact ih
    | call c =>
      have other := h ⟨.call c, answer⟩ (List.mem_cons_self ..) c rfl
      rw [serviceCalls, Portal.calls_call, List.filter_cons_of_neg (by simpa using other)]
      exact ih

/-- A call of the service is one. -/
lemma serviceCalls_call {c : Call} {answer : Option Reply}
    (own : c.service = uSERVICE_MANGO_PARENTAL_CONTROL) :
    serviceCalls (⟨.call c, answer⟩ :: tr) = c :: serviceCalls tr := by
  rw [serviceCalls, Portal.calls_call, List.filter_cons_of_pos (by simpa using own)]
  rfl

/-- An admitted request calls the service once. -/
lemma doPost_serviceCalls {bearerToken : String} (admits : checkRequest request = .ok sent)
    (h : Trace (doPost conv locateZone bearerToken request) tr answers) :
    serviceCalls tr = [devicesCall request.subscriberId request.groupId sent] := by
  rw [doPost, admits] at h
  obtain ⟨tr1, tr2, r, rfl, h1, h2⟩ := trace_bind.mp h
  obtain ⟨answer, rfl, _⟩ := ParentalControl.executePostObject_inv h1
  have rest := serviceCalls_elsewhere (handleParentalControlMutationResult_elsewhere _ _ _ _ _ _ _ _ _ _ h2)
  exact (serviceCalls_call rfl).trans (congrArg _ rest)

/-- Any other request is answered without a call. -/
lemma doPost_refused {bearerToken : String} {answer : HandlerAnswer}
    (refused : checkRequest request = .error answer)
    (h : Trace (doPost conv locateZone bearerToken request) tr answers) : serviceCalls tr = [] := by
  rw [doPost, refused] at h
  rw [(trace_pure.mp h).1]
  rfl

/-- The spelling of an address does not matter. -/
lemma address?_congr {e e' : Json}
    (same : ∃ raw raw', e = .str raw ∧ e' = .str raw' ∧
      toLower (withoutSeparators raw) = toLower (withoutSeparators raw')) :
    address? e = address? e' := by
  obtain ⟨raw, raw', rfl, rfl, eq⟩ := same
  exact normalizeMac_congr eq

/-- Nor does that of the addresses of a list. -/
lemma Respelled.address? {macs' : List Json} (respelled : Respelled macs macs') :
    macs.map address? = macs'.map address? := by
  induction respelled with
  | nil => rfl
  | cons same _ ih => rw [List.map_cons, List.map_cons, address?_congr same, ih]

end Calls

/-- A bulk request is canonicalised: the service is called exactly where the request brings 1 to 100
strings which are addresses, once and with the first occurrences of their canonical spellings. These are
distinct, and the same for any other spelling of the addresses. -/
theorem doPost_canonicalises (conv : Conversions) (locateZone : String → Option Zone)
    (bearerToken : String) :
    (∀ request tr answers, Trace (doPost conv locateZone bearerToken request) tr answers →
      (serviceCalls tr ≠ [] ↔ ∃ macs, request.Brings macs ∧ Admitted macs) ∧
      ∀ macs, request.Brings macs → Admitted macs →
        serviceCalls tr = [devicesCall request.subscriberId request.groupId (canonicalMacs macs)]) ∧
    (∀ macs, (canonicalMacs macs).Nodup) ∧
    ∀ macs macs', Respelled macs macs' →
      (Admitted macs' ↔ Admitted macs) ∧ canonicalMacs macs' = canonicalMacs macs := by
  refine ⟨fun request tr answers h => ⟨?_, ?_⟩, canonicalMacs_nodup, ?_⟩
  · cases checked : checkRequest request with
    | error answer =>
      rw [doPost_refused checked h]
      refine iff_of_false (fun ne => ne rfl) fun brought => ?_
      obtain ⟨macs, brings, admitted⟩ := brought
      rw [checkRequest_eq_ok.mpr ⟨macs, brings, admitted, rfl⟩] at checked
      cases checked
    | ok sent =>
      rw [doPost_serviceCalls checked h]
      obtain ⟨macs, brings, admitted, _⟩ := checkRequest_eq_ok.mp checked
      exact iff_of_true (List.cons_ne_nil _ _) ⟨macs, brings, admitted⟩
  · intro macs brings admitted
    exact doPost_serviceCalls (checkRequest_eq_ok.mpr ⟨macs, brings, admitted, rfl⟩) h
  · intro macs macs' respelled
    have same := respelled.address?
    have len := congrArg List.length same
    rw [List.length_map, List.length_map] at len
    have all : ∀ xs : List Json, (∀ e ∈ xs, ∃ normal, address? e = some normal) ↔
        ∀ a ∈ xs.map address?, ∃ normal, a = some normal := by
      intro xs
      rw [List.forall_mem_map]
    refine ⟨?_, ?_⟩
    · rw [admitted_iff, admitted_iff, all, all macs, len, same]
    · have squeezed : ∀ xs : List Json, xs.filterMap address? = (xs.map address?).filterMap id := by
        intro xs
        rw [List.filterMap_map]
        rfl
      rw [canonicalMacs, canonicalMacs, squeezed, squeezed, same]

end GroupDevicesListV2

end UserPortal.RestApi
