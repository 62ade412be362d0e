import UserPortal.Interaction.Knowledge
import UserPortal.RestApi.RuleHandlers

/-!
# What a request about rules may lead to

A request about the parental-control rules calls the parental-control service at most once, below the path of its
own subscriber and with segments which cannot leave it. Everything else is asked about the same subscriber, or about
something which an earlier answer has named: the location of its first venue, and its gateway, which is only given
a configuration it had, with the snapshot which the service has answered.
-/

namespace UserPortal.RestApi.ParentalControl
open Interaction Program Calendar Sdk Utils
open GroupDevicesListV2 (Elsewhere elsewhere_call)

/-! ## Paths -/

/-- A segment of a path which neither ends the path nor leaves it. -/
def PlainSegment (s : String) : Prop :=
  s.toList ≠ [] ∧ ∀ c ∈ s.toList, c.isAlphanum = true ∨ c = '-' ∨ c = ':'

instance (s : String) : Decidable (PlainSegment s) :=
  decidable_of_iff (s.toList.isEmpty = false ∧ s.toList.all (fun c => c.isAlphanum || c == '-' || c == ':') = true)
    (by simp [PlainSegment, or_assoc])

/-- A path of the parental-control service which belongs to a subscriber. -/
inductive IsOwnPath (subscriberId : String) : String → Prop where
  | v1 : IsOwnPath subscriberId ("/api/v1/subscribers/" ++ subscriberId)
  | v2 : IsOwnPath subscriberId ("/api/v2/subscribers/" ++ subscriberId)
  | under {path segment : String} :
    IsOwnPath subscriberId path → PlainSegment segment → IsOwnPath subscriberId (path ++ "/" ++ segment)

section Paths

variable {subscriberId path name id text : String}

lemma plainSegment_groups : PlainSegment "groups" := by decide

lemma plainSegment_schedules : PlainSegment "schedules" := by decide

lemma plainSegment_devices : PlainSegment "devices" := by decide

/-- A list below a path. -/
lemma IsOwnPath.list (own : IsOwnPath subscriberId path) (plain : PlainSegment name)
    (spells : text = "/" ++ name) : IsOwnPath subscriberId (path ++ text) := by
  rw [spells, ← String.append_assoc]
  exact own.under plain

/-- An entry of a list below a path. -/
lemma IsOwnPath.entry (own : IsOwnPath subscriberId path) (plain : PlainSegment name) (known : PlainSegment id)
    (spells : text = "/" ++ name ++ "/") : IsOwnPath subscriberId (path ++ text ++ id) := by
  have split : path ++ text ++ id = path ++ "/" ++ name ++ "/" ++ id := by
    rw [spells, ← String.append_assoc, ← String.append_assoc]
  rw [split]
  exact (own.under plain).under known

/-- Hexadecimal digits are letters or digits. -/
lemma isAlphanum_of_isXDigit {c : Char} (digit : isXDigit c = true) : c.isAlphanum = true := by
  revert digit
  apply forall_xdigit
  decide

/-- A UUID neither ends a path nor leaves it. -/
lemma plainSegment_uuid (valid : validUUID id = true) : PlainSegment id := by
  rw [validUUID, Bool.and_eq_true, Bool.and_eq_true, List.all_eq_true, List.any_eq_true] at valid
  obtain ⟨⟨_, all⟩, dash, mem, _⟩ := valid
  refine ⟨List.ne_nil_of_mem mem, fun c here => ?_⟩
  have allowed := all c here
  rw [Bool.or_eq_true, decide_eq_true_eq] at allowed
  rcases allowed with rfl | digit
  · exact .inr (.inl rfl)
  · exact .inl (isAlphanum_of_isXDigit digit)

/-- An address with colons neither ends a path nor leaves it. -/
lemma plainSegment_mac {mac normal : String} (spells : normalizeMac mac = some normal) :
    PlainSegment (serialToMAC normal) := by
  obtain ⟨len, digits⟩ := validSerialNumber_iff.mp (validSerialNumber_of_normalizeMac spells)
  have chars : ∀ c ∈ (serialToMAC normal).toList, c ∈ normal.toList ∨ c = ':' := by
    unfold serialToMAC
    generalize normal.toList = text at len
    match text, len with
    | [a, b, c, d, e, f, g, h, i, j, k, l], _ =>
      intro c mem
      simp only [List.length_cons, List.length_nil, lt_irrefl, if_false, List.take_succ_cons, List.take_zero,
        String.toList_ofList, List.mem_cons, List.not_mem_nil, or_false, Nat.reduceAdd] at mem ⊢
      tauto
  have nonempty : (serialToMAC normal).toList ≠ [] := by
    unfold serialToMAC
    generalize normal.toList = text at len
    match text, len with
    | [a, b, c, d, e, f, g, h, i, j, k, l], _ => simp
  refine ⟨nonempty, fun c mem => ?_⟩
  rcases chars c mem with digit | rfl
  · exact .inl (isAlphanum_of_isXDigit (digits c digit))
  · exact .inr (.inr rfl)

end Paths

/-! ## What is permitted -/

section Permitted

variable (conv : Conversions) (bearerToken subscriberId operatorId : String)

/-- The devices of the subscriber were listed, and the first one of the gateway group is this. -/
def KnowsGateway (known : List Portal.Event) (gateway : String) : Prop :=
  ∃ listing devices, ⟨.call (Prov.getDevicesCall "" subscriberId operatorId), listing⟩ ∈ known ∧
    Prov.listed conv ⟨.call (Prov.getDevicesCall "" subscriberId operatorId), listing⟩ = some devices ∧
    gatewaySerialOf devices = gateway ∧ gateway ≠ ""

/-- The gateway was read, with this configuration. -/
def KnowsConfiguration (known : List Portal.Event) (gateway : String) (config : Json.Object) : Prop :=
  ∃ (status : HTTPStatus) (o : Json.Object),
    ⟨.call (Gw.getConfigCall bearerToken gateway), some ⟨status, .json (.obj o)⟩⟩ ∈ known ∧
    o.getObject? "configuration" = some config

/-- A change of the rules was answered with this snapshot. -/
def KnowsSnapshot (known : List Portal.Event) (configRaw : List Json) : Prop :=
  ∃ c status o, ⟨.call c, some ⟨status, .json (.obj o)⟩⟩ ∈ known ∧
    c.service = uSERVICE_MANGO_PARENTAL_CONTROL ∧ c.verb ≠ .get ∧ Carries o configRaw

/-- What may be asked for a subscriber after what is known. Only a request which changes the rules goes to the
gateway. -/
inductive Permitted (changes : Bool) (known : List Portal.Event) : Portal.Event → Prop where
  | clock (t : Int) : Permitted changes known ⟨.now, t⟩
  /-- The only call of the parental-control service. -/
  | rules {verb : Verb} {path : String} {body : Json.Object} {timeoutMs : Nat} (answer : Option Reply) :
    (∀ e ∈ known, Elsewhere e) → (verb = .get ∨ changes = true) → IsOwnPath subscriberId path →
    Permitted changes known ⟨.call (ParentalControl.serviceCall verb path body timeoutMs), answer⟩
  | venues (answer : Option Reply) :
    Permitted changes known ⟨.call (Prov.getVenuesCall subscriberId), answer⟩
  /-- The location of the first venue. -/
  | location {listing : Option Reply} {venue : Prov.Venue} {venues : List Prov.Venue} (answer : Option Reply) :
    ⟨.call (Prov.getVenuesCall subscriberId), listing⟩ ∈ known →
    Prov.venuesIn conv listing = some (venue :: venues) →
    Permitted changes known ⟨.call (Prov.getLocationCall venue.location), answer⟩
  | devices (answer : Option Reply) :
    changes = true → operatorId ≠ "" →
    Permitted changes known ⟨.call (Prov.getDevicesCall "" subscriberId operatorId), answer⟩
  | configuration {gateway : String} (answer : Option Reply) :
    changes = true → KnowsGateway conv subscriberId operatorId known gateway →
    Permitted changes known ⟨.call (Gw.getConfigCall bearerToken gateway), answer⟩
  /-- The gateway is given the configuration it has, with the snapshot of the change in it. -/
  | configure {gateway : String} {config : Json.Object} {configRaw : List Json} {now : Nat}
    (answer : Option Reply) :
    changes = true → KnowsGateway conv subscriberId operatorId known gateway →
    KnowsConfiguration bearerToken known gateway config → KnowsSnapshot known configRaw →
    Permitted changes known ⟨.call (Gw.configureCall bearerToken gateway
      (Gw.stampConfig (config.set "config-raw" (.arr configRaw)) now) now), answer⟩

end Permitted

/-! ## The ids of a request -/

/-- What a change puts into the path of its call. -/
def Mutation.ids : Mutation → List String
  | deleteGroup groupId | createGroupDevice groupId _ | createGroupDevicesV2 groupId _
  | createGroupSchedule groupId _ | replaceGroupSchedules groupId _ => [groupId]
  | updateSchedule scheduleId _ _ | deleteSchedule scheduleId => [scheduleId]
  | deleteGroupDevice groupId clientMac => [groupId, clientMac]
  | deleteGroupSchedule groupId scheduleId => [groupId, scheduleId]

def Endpoint.ids : Endpoint → List String
  | createGroup _ | createSchedule _ _ => []
  | updateGroup groupId _ => [groupId]
  | mutation m => m.ids

def ObjectQuery.ids : ObjectQuery → List String
  | group groupId => [groupId]
  | groupDevice groupId clientMac => [groupId, clientMac]
  | groupSchedule groupId scheduleId => [groupId, scheduleId]

def ArrayQuery.ids : ArrayQuery → List String
  | groups => []
  | groupDevices groupId => [groupId]
  | scheduleGroups scheduleId => [scheduleId]

def Work.ids : Work → List String
  | showObject query => query.ids
  | showArray query => query.ids
  | showSchedules | createSchedule _ => []
  | showGroupSchedules groupId => [groupId]
  | showSchedule scheduleId | updateSchedule scheduleId _ => [scheduleId]
  | change endpoint => endpoint.ids

/-- The work which only shows something. -/
def Work.reads : Work → Bool
  | showObject _ | showArray _ | showSchedule _ | showSchedules | showGroupSchedules _ => true
  | _ => false

section Ids

variable {conv : Conversions} {request : RulesRequest} {handler : Handler} {work : Work}

/-- Only the handlers of `DoGet` go on to work which shows something. -/
lemma Handler.Passes.reads (passes : handler.Passes conv request work) : work.reads = handler.reads := by
  cases passes <;> rfl

lemma forall_singleton {P : String → Prop} {a : String} (h : P a) : ∀ b ∈ [a], P b :=
  List.forall_mem_singleton.mpr h

lemma forall_pair {P : String → Prop} {a b : String} (ha : P a) (hb : P b) : ∀ c ∈ [a, b], P c :=
  List.forall_mem_cons.mpr ⟨ha, forall_singleton hb⟩

/-- What a request puts into a path was checked before. -/
lemma Handler.Passes.plain (passes : handler.Passes conv request work) : ∀ id ∈ work.ids, PlainSegment id := by
  cases passes with
  | listGroups => exact nofun
  | addGroup => exact nofun
  | listSchedules => exact nofun
  | addSchedule => exact nofun
  | readGroup _ valid => exact forall_singleton (plainSegment_uuid valid)
  | replaceGroup _ valid => exact forall_singleton (plainSegment_uuid valid)
  | removeGroup _ valid => exact forall_singleton (plainSegment_uuid valid)
  | listGroupDevices _ valid => exact forall_singleton (plainSegment_uuid valid)
  | addGroupDevice _ valid => exact forall_singleton (plainSegment_uuid valid)
  | addGroupDevices _ valid => exact forall_singleton (plainSegment_uuid valid)
  | listGroupSchedules _ valid => exact forall_singleton (plainSegment_uuid valid)
  | addGroupSchedule _ valid => exact forall_singleton (plainSegment_uuid valid)
  | replaceGroupSchedules _ valid => exact forall_singleton (plainSegment_uuid valid)
  | readSchedule _ valid => exact forall_singleton (plainSegment_uuid valid)
  | replaceSchedule _ valid => exact forall_singleton (plainSegment_uuid valid)
  | removeSchedule _ valid => exact forall_singleton (plainSegment_uuid valid)
  | listScheduleGroups _ valid => exact forall_singleton (plainSegment_uuid valid)
  | readGroupDevice _ valid spells => exact forall_pair (plainSegment_uuid valid) (plainSegment_mac spells)
  | removeGroupDevice _ valid spells => exact forall_pair (plainSegment_uuid valid) (plainSegment_mac spells)
  | readGroupSchedule _ valid valid' => exact forall_pair (plainSegment_uuid valid) (plainSegment_uuid valid')
  | removeGroupSchedule _ valid valid' => exact forall_pair (plainSegment_uuid valid) (plainSegment_uuid valid')

end Ids

/-! ## The calls of the parental-control service -/

section Calls

variable {subscriberId path : String} {body : Json.Object} {timeoutMs : Nat} {tr : List Portal.Event}
  {r : CallResult}

/-- Where the lists of a subscriber are. -/
lemma ownGroups : IsOwnPath subscriberId ("/api/v1/subscribers/" ++ subscriberId ++ "/groups") :=
  IsOwnPath.v1.list plainSegment_groups rfl

/-- The list of the schedules belongs to the subscriber. -/
lemma ownSchedules : IsOwnPath subscriberId ("/api/v1/subscribers/" ++ subscriberId ++ "/schedules") :=
  IsOwnPath.v1.list plainSegment_schedules rfl

/-- So does each group. -/
lemma ownGroup {groupId : String} (plain : PlainSegment groupId) :
    IsOwnPath subscriberId ("/api/v1/subscribers/" ++ subscriberId ++ "/groups/" ++ groupId) :=
  IsOwnPath.v1.entry plainSegment_groups plain rfl

/-- So does each schedule. -/
lemma ownSchedule {scheduleId : String} (plain : PlainSegment scheduleId) :
    IsOwnPath subscriberId ("/api/v1/subscribers/" ++ subscriberId ++ "/schedules/" ++ scheduleId) :=
  IsOwnPath.v1.entry plainSegment_schedules plain rfl

/-- A call which changes the rules of a subscriber, whose response was read off the answer. -/
def Writes (subscriberId : String) (tr : List Portal.Event) (r : CallResult) : Prop :=
  ∃ verb path body timeoutMs answer,
    tr = [⟨.call (ParentalControl.serviceCall verb path body timeoutMs), answer⟩] ∧ verb ≠ .get ∧
    IsOwnPath subscriberId path ∧
    ∀ o, r.response = some o → ∃ status, answer = some ⟨status, .json (.obj o)⟩

/-- A response which had to parse is the object which was answered. -/
lemma strict_response {status : HTTPStatus} {response : Option Json.Object} {answer : Option Reply}
    {o : Json.Object} (eq : (status, response) = OpenAPIRequest.strict none answer) (some_ : response = some o) :
    ∃ status, answer = some ⟨status, .json (.obj o)⟩ := by
  rw [some_] at eq
  cases answer with
  | none => cases eq
  | some reply =>
    obtain ⟨status', replied⟩ := reply
    cases parsed : replied.parse with
    | none =>
      simp only [OpenAPIRequest.strict, parsed] at eq
      cases eq
    | some o' =>
      simp only [OpenAPIRequest.strict, parsed] at eq
      cases eq
      exact ⟨status, by rw [Body.parse_eq_some.mp parsed]⟩

/-- A response which was read off a request without an earlier one is the object which was answered. -/
lemma lenient_response {status : HTTPStatus} {response : Option Json.Object} {answer : Option Reply}
    {o : Json.Object} (eq : (status, response) = OpenAPIRequest.lenient none answer) (some_ : response = some o) :
    ∃ status, answer = some ⟨status, .json (.obj o)⟩ := by
  rw [some_] at eq
  obtain ⟨reply, rfl, body, _⟩ := OpenAPIRequest.lenient_some (congrArg Prod.snd eq).symm
  exact ⟨reply.status, by rw [← body]⟩

/-- A `POST` below the path of the subscriber. -/
lemma writes_post (own : IsOwnPath subscriberId path)
    (h : Trace (ParentalControl.executePostObject path body timeoutMs) tr r) : Writes subscriberId tr r := by
  obtain ⟨answer, rfl, _, eq⟩ := ParentalControl.executePostObject_inv h
  exact ⟨_, _, _, _, answer, rfl, nofun, own, fun o => strict_response eq⟩

/-- A `PUT` below the path of the subscriber. -/
lemma writes_put (own : IsOwnPath subscriberId path)
    (h : Trace (ParentalControl.executePutObject path body timeoutMs) tr r) : Writes subscriberId tr r := by
  obtain ⟨answer, rfl, _, eq⟩ := ParentalControl.executePutObject_inv h
  exact ⟨_, _, _, _, answer, rfl, nofun, own, fun o => strict_response eq⟩

/-- A `DELETE` below the path of the subscriber. -/
lemma writes_delete {accept : Bool → Option Json.Object → Bool} (own : IsOwnPath subscriberId path)
    (h : Trace (ParentalControl.executeDelete path timeoutMs accept) tr r) : Writes subscriberId tr r := by
  obtain ⟨answer, rfl, _, eq⟩ := ParentalControl.executeDelete_inv h
  exact ⟨_, _, _, _, answer, rfl, nofun, own, fun o => lenient_response eq⟩

/-- A change is a call below the path of the subscriber, if its ids are plain. -/
lemma Mutation.call_writes {m : Mutation} (plain : ∀ id ∈ m.ids, PlainSegment id)
    (h : Trace (m.call subscriberId) tr r) : Writes subscriberId tr r := by
  cases m with
  | deleteGroup groupId => exact writes_delete (ownGroup (plain _ (.head _))) h
  | updateSchedule scheduleId body timezone => exact writes_put (ownSchedule (plain _ (.head _))) h
  | deleteSchedule scheduleId => exact writes_delete (ownSchedule (plain _ (.head _))) h
  | createGroupDevice groupId body => exact writes_post ((ownGroup (plain _ (.head _))).list plainSegment_devices rfl) h
  | createGroupDevicesV2 groupId body =>
    have group : IsOwnPath subscriberId ("/api/v2/subscribers/" ++ subscriberId ++ "/groups/" ++ groupId) :=
      IsOwnPath.v2.entry plainSegment_groups (plain _ (.head _)) rfl
    exact writes_post (group.list plainSegment_devices rfl) h
  | deleteGroupDevice groupId clientMac =>
    exact writes_delete ((ownGroup (plain _ (.head _))).entry plainSegment_devices (plain _ (.tail _ (.head _))) rfl) h
  | createGroupSchedule groupId body =>
    exact writes_post ((ownGroup (plain _ (.head _))).list plainSegment_schedules rfl) h
  | replaceGroupSchedules groupId body =>
    exact writes_put ((ownGroup (plain _ (.head _))).list plainSegment_schedules rfl) h
  | deleteGroupSchedule groupId scheduleId =>
    exact writes_delete ((ownGroup (plain _ (.head _))).entry plainSegment_schedules (plain _ (.tail _ (.head _))) rfl)
      h

end Calls

/-! ## Each part is permitted -/

section Parts

variable {conv : Conversions} {locateZone : String → Option Zone} {bearerToken subscriberId operatorId : String}
  {changes : Bool} {known : List Portal.Event}

/-- The call of a change is permitted as long as the service was not called before. -/
lemma Writes.permitted {tr : List Portal.Event} {r : CallResult} (writes : Writes subscriberId tr r)
    (before : ∀ e ∈ known, Elsewhere e) :
    Follows (Permitted conv bearerToken subscriberId operatorId true) known tr := by
  obtain ⟨verb, path, body, timeoutMs, answer, rfl, _, own, _⟩ := writes
  exact .singleton (.rules answer before (.inr rfl) own)

/-- An object of the subscriber may be asked for. -/
lemma getObject_permitted {path : String} (own : IsOwnPath subscriberId path)
    (before : ∀ e ∈ known, Elsewhere e) :
    AsksAfter (Permitted conv bearerToken subscriberId operatorId changes) known
      (ParentalControl.executeGetObject path) := by
  intro tr r h
  obtain ⟨answer, rfl, _⟩ := ParentalControl.executeGetObject_inv h
  exact .singleton (.rules answer before (.inl rfl) own)

/-- So may an array. -/
lemma getArray_permitted {path : String} (own : IsOwnPath subscriberId path)
    (before : ∀ e ∈ known, Elsewhere e) :
    AsksAfter (Permitted conv bearerToken subscriberId operatorId changes) known
      (ParentalControl.executeGetArray path) := by
  intro tr r h
  obtain ⟨answer, rfl, _⟩ := ParentalControl.executeGetArray_inv h
  exact .singleton (.rules answer before (.inl rfl) own)

/-- The objects which are shown belong to the subscriber. -/
lemma ObjectQuery.permitted {query : ObjectQuery} (plain : ∀ id ∈ query.ids, PlainSegment id)
    (before : ∀ e ∈ known, Elsewhere e) :
    AsksAfter (Permitted conv bearerToken subscriberId operatorId changes) known (query.call subscriberId) := by
  cases query with
  | group groupId => exact getObject_permitted (ownGroup (plain _ (.head _))) before
  | groupDevice groupId clientMac =>
    exact getObject_permitted
      ((ownGroup (plain _ (.head _))).entry plainSegment_devices (plain _ (.tail _ (.head _))) rfl) before
  | groupSchedule groupId scheduleId =>
    exact getObject_permitted
      ((ownGroup (plain _ (.head _))).entry plainSegment_schedules (plain _ (.tail _ (.head _))) rfl) before

/-- The arrays which are shown belong to the subscriber. -/
lemma ArrayQuery.permitted {query : ArrayQuery} (plain : ∀ id ∈ query.ids, PlainSegment id)
    (before : ∀ e ∈ known, Elsewhere e) :
    AsksAfter (Permitted conv bearerToken subscriberId operatorId changes) known (query.call subscriberId) := by
  cases query with
  | groups => exact getArray_permitted ownGroups before
  | groupDevices groupId =>
    exact getArray_permitted ((ownGroup (plain _ (.head _))).list plainSegment_devices rfl) before
  | scheduleGroups scheduleId =>
    exact getArray_permitted ((ownSchedule (plain _ (.head _))).list plainSegment_groups rfl) before

/-- Where a time zone is resolved, only the provisioning service is asked. -/
lemma Resolves.elsewhere {tr : List Portal.Event} {found : Option Prov.Location}
    (resolves : Resolves conv subscriberId tr found) : ∀ e ∈ tr, Elsewhere e := by
  have elsewhere : ∀ {c : Call} {answer : Option Reply}, c.service = uSERVICE_PROVISIONING →
      Elsewhere ⟨.call c, answer⟩ := by
    intro c answer service
    apply elsewhere_call
    rw [service]
    decide
  cases resolves with
  | noVenue listing => exact List.forall_mem_singleton.mpr (elsewhere rfl)
  | asked listed placed =>
    exact List.forall_mem_cons.mpr ⟨elsewhere rfl, List.forall_mem_singleton.mpr (elsewhere rfl)⟩

/-- Resolving a time zone asks for the venues of the subscriber, and for the location of the first one. -/
lemma Resolves.permitted {tr : List Portal.Event} {found : Option Prov.Location}
    (resolves : Resolves conv subscriberId tr found) :
    Follows (Permitted conv bearerToken subscriberId operatorId changes) known tr := by
  cases resolves with
  | noVenue listing => exact .singleton (.venues listing)
  | asked listed placed =>
    refine .cons (.venues _) (.singleton (.location _ ?_ listed))
    exact List.mem_append_right _ (List.mem_singleton_self _)

/-- Steps which resolve the time zone first, and are permitted where only the provisioning service was asked. -/
lemma permitted_resolving {method : String} {f : String → Handling (List Sent)}
    (steps : ∀ known timezone, (∀ e ∈ known, Elsewhere e) →
      AsksAfter (Permitted conv bearerToken subscriberId operatorId changes) known (f timezone).run) :
    AsksAfter (Permitted conv bearerToken subscriberId operatorId changes) []
      (resolveSubscriberTimezone conv locateZone method subscriberId >>= f).run := by
  refine AsksAfter.attempt_bind ?_ fun tr timezone h => ?_
  · intro tr r h
    obtain ⟨found, resolves, _⟩ := resolveSubscriberTimezone_inv h
    exact resolves.permitted
  · obtain ⟨found, resolves, _⟩ := resolveSubscriberTimezone_inv h
    exact steps _ timezone resolves.elsewhere

/-- Showing schedules reads the clock only. -/
lemma showNormalized_permitted {method timezone : String} (schedule : Json.Object) :
    AsksAfter (Permitted conv bearerToken subscriberId operatorId changes) known
      (showNormalized conv locateZone method timezone schedule).run := by
  refine AsksAfter.attempt_lift_bind ?_ fun tr t h => ?_
  · intro tr t h
    rw [trace_perform.mp h]
    exact .singleton (.clock t)
  · split
    case h_1 => exact .attempt_pure _
    case h_2 => exact .attempt_throw _

/-- To show schedules, only the clock is read. -/
lemma showAllNormalized_permitted {method timezone : String} (schedules : List Json) :
    AsksAfter (Permitted conv bearerToken subscriberId operatorId changes) known
      (showAllNormalized conv locateZone method timezone schedules).run := by
  induction schedules generalizing known with
  | nil => exact .attempt_pure _
  | cons schedule rest ih =>
    cases schedule with
    | obj schedule =>
      refine (showNormalized_permitted schedule).attempt_bind fun tr shown h => ?_
      exact ih.attempt_bind fun tr' others h' => .attempt_pure _
    | null => exact .attempt_throw _
    | bool b => exact .attempt_throw _
    | int n => exact .attempt_throw _
    | frac m e => exact .attempt_throw _
    | str text => exact .attempt_throw _
    | arr elements => exact .attempt_throw _

/-- So it is to convert a request. -/
lemma toUtc_permitted {method timezone : String} (req : ParsedScheduleRequest) :
    AsksAfter (Permitted conv bearerToken subscriberId operatorId changes) known
      (toUtc conv locateZone method timezone req).run := by
  refine AsksAfter.attempt_lift_bind ?_ fun tr t h => ?_
  · intro tr t h
    rw [trace_perform.mp h]
    exact .singleton (.clock t)
  · split
    case h_1 => exact .attempt_throw _
    case h_2 => exact .attempt_pure _

/-- Converting a request does not call the service. -/
lemma toUtc_elsewhere {method timezone : String} {req : ParsedScheduleRequest} {tr : List Portal.Event}
    {r : Except HandlerAnswer ParsedScheduleRequest}
    (h : Trace (toUtc conv locateZone method timezone req).run tr r) : ∀ e ∈ tr, Elsewhere e := by
  obtain ⟨tr1, tr2, t, rfl, h1, h2⟩ := trace_attempt_lift_bind.mp h
  have rest : tr2 = [] := by
    split at h2
    case h_1 => exact (trace_attempt_throw.mp h2).1
    case h_2 => exact (trace_attempt_pure.mp h2).1
  rw [rest, trace_perform.mp h1]
  exact List.forall_mem_singleton.mpr nofun

/-- A call which is permitted may be shown. -/
lemma showCall_permitted {method timezone : String} {call : Portal CallResult}
    (asks : AsksAfter (Permitted conv bearerToken subscriberId operatorId changes) known call) :
    AsksAfter (Permitted conv bearerToken subscriberId operatorId changes) known
      (showCall conv locateZone method timezone call).run := by
  refine asks.attempt_lift_bind fun tr r h => ?_
  split
  case isTrue => exact .attempt_throw _
  case isFalse => exact (showNormalized_permitted _).attempt_bind fun _ _ _ => .attempt_pure _

/-- An error of the steps is sent without asking anything more. -/
lemma sends_permitted {steps : Handling (List Sent)}
    (asks : AsksAfter (Permitted conv bearerToken subscriberId operatorId changes) known steps.run) :
    AsksAfter (Permitted conv bearerToken subscriberId operatorId changes) known (sends steps) :=
  asks.bind fun _ _ _ => .pure _

/-- A list may be asked for once the time zone is resolved. -/
lemma showList_permitted {call : Portal (CallResult × Option (List Json))}
    (asks : ∀ known, (∀ e ∈ known, Elsewhere e) →
      AsksAfter (Permitted conv bearerToken subscriberId operatorId changes) known call) :
    AsksAfter (Permitted conv bearerToken subscriberId operatorId changes) []
      (showList conv locateZone subscriberId call).run := by
  refine permitted_resolving fun known timezone before => ?_
  refine (asks known before).attempt_lift_bind fun tr r h => ?_
  split
  split
  case isTrue => exact .attempt_throw _
  case isFalse => exact (showAllNormalized_permitted _).attempt_bind fun _ _ _ => .attempt_pure _

/-! ### Changes -/

/-- A listed gateway is given the configuration it has, with a snapshot which was answered. -/
lemma replaceConfigRaw_permitted {gateway : String} {configRaw : List Json}
    (found : KnowsGateway conv subscriberId operatorId known gateway) (snapshot : KnowsSnapshot known configRaw) :
    AsksAfter (Permitted conv bearerToken subscriberId operatorId true) known
      (replaceConfigRaw bearerToken gateway configRaw) := by
  refine AsksAfter.bind ?_ fun tr r h => ?_
  · intro tr r h
    obtain ⟨answer, rfl, _⟩ := Gw.getConfig_inv h
    exact .singleton (.configuration answer rfl found)
  · obtain ⟨answer, rfl, _, read⟩ := Gw.getConfig_inv h
    refine .ite (fun _ => ?_) fun _ => .pure _
    split
    case h_1 => exact .pure _
    case h_2 config holds =>
      obtain ⟨o, response, holds⟩ := Option.bind_eq_some_iff.mp holds
      obtain ⟨status, rfl⟩ := lenient_response read response
      refine AsksAfter.bind ?_ fun _ _ _ => .pure _
      intro tr' r' h'
      obtain ⟨t, answer', rfl, same, _⟩ := Gw.configure_inv h'
      rw [same]
      refine .cons (.clock t) (.singleton (.configure answer' rfl ?_ ?_ ?_))
      · obtain ⟨listing, devices, mem, rest⟩ := found
        exact ⟨listing, devices, by simp [mem], rest⟩
      · exact ⟨status, o, by simp, holds⟩
      · obtain ⟨c, status', o', mem, rest⟩ := snapshot
        exact ⟨c, status', o', by simp [mem], rest⟩

/-- A snapshot which was answered is applied to the gateway of the subscriber. -/
lemma applyConfigRaw_permitted {configRaw : List Json} (snapshot : KnowsSnapshot known configRaw) :
    AsksAfter (Permitted conv bearerToken subscriberId operatorId true) known
      (applyConfigRaw conv bearerToken subscriberId operatorId (some configRaw)) := by
  unfold applyConfigRaw
  refine .ite (fun _ => .pure _) fun operator => ?_
  refine AsksAfter.bind ?_ fun tr r h => ?_
  · intro tr r h
    obtain ⟨listing, rfl, _⟩ := Prov.getDevices_inv h
    exact .singleton (.devices listing rfl operator)
  · obtain ⟨listing, rfl, listed, _⟩ := Prov.getDevices_inv h
    obtain ⟨devices, _⟩ := r
    cases devices with
    | none => exact .pure _
    | some devices =>
      refine .ite (fun _ => .pure _) fun serial => ?_
      apply replaceConfigRaw_permitted
      · exact ⟨listing, devices, List.mem_append_right _ (List.mem_singleton_self _), listed.symm, rfl, serial⟩
      · obtain ⟨c, status, o, mem, rest⟩ := snapshot
        exact ⟨c, status, o, List.mem_append_left _ mem, rest⟩

/-- A snapshot which is extracted is carried by the response. -/
lemma carries_of_extract {response : Option Json.Object} {required : Bool} {configRaw : List Json}
    (eq : extractConfigRawSnapshot response required = some (some configRaw)) :
    ∃ o, response = some o ∧ Carries o configRaw := by
  cases response with
  | none => cases required <;> cases eq
  | some o =>
    refine ⟨o, rfl, ?_⟩
    rw [extractConfigRawSnapshot] at eq
    split at eq
    case h_1 => cases required <;> cases eq
    case h_2 => cases eq
    case h_3 commands present =>
      split at eq
      case isTrue wellFormed =>
        cases eq
        exact ⟨present, wellFormed⟩
      case isFalse => cases eq
    case h_4 => cases eq

/-- To answer a change, at most the clock is read. -/
lemma answerMutation_permitted {method timezone : String} {response : Option Json.Object}
    {successResponse : MutationSuccessResponse} :
    AsksAfter (Permitted conv bearerToken subscriberId operatorId true) known
      (answerMutation conv locateZone method response successResponse timezone) := by
  unfold answerMutation
  split
  case h_5 =>
    refine AsksAfter.bind ?_ fun tr t h => ?_
    · intro tr t h
      rw [trace_perform.mp h]
      exact .singleton (.clock t)
    · split
      case h_1 => exact .pure _
      case h_2 => exact .pure _
  all_goals exact .pure _

/-- A change is permitted in all that follows from it. -/
lemma Mutation.permitted {m : Mutation} (plain : ∀ id ∈ m.ids, PlainSegment id)
    (before : ∀ e ∈ known, Elsewhere e) :
    AsksAfter (Permitted conv bearerToken subscriberId operatorId true) known
      (m.handle conv locateZone bearerToken subscriberId operatorId) := by
  refine AsksAfter.bind ?_ fun tr r h => ?_
  · exact fun tr r h => (Mutation.call_writes plain h).permitted before
  · obtain ⟨verb, path, body, timeoutMs, answer, rfl, change, own, response⟩ := Mutation.call_writes plain h
    refine .ite (fun _ => .pure _) fun _ => ?_
    refine AsksAfter.bind ?_ fun tr' goesOn h' => ?_
    · unfold applyConfigRawFromMutationResponse
      split
      case h_1 => exact .pure _
      case h_2 => exact .pure _
      case h_3 configRaw extracted =>
        refine AsksAfter.bind ?_ fun _ _ _ => .pure _
        obtain ⟨o, present, carries⟩ := carries_of_extract extracted
        obtain ⟨status, rfl⟩ := response o present
        exact applyConfigRaw_permitted
          ⟨_, status, o, List.mem_append_right _ (List.mem_singleton_self _), rfl, change, carries⟩
    · refine .ite (fun _ => .pure _) fun _ => ?_
      exact answerMutation_permitted.bind fun _ _ _ => .pure _

/-- So is every request which changes something. -/
lemma Endpoint.permitted {endpoint : Endpoint} (plain : ∀ id ∈ endpoint.ids, PlainSegment id) :
    AsksAfter (Permitted conv bearerToken subscriberId operatorId true) []
      (endpoint.handle conv locateZone bearerToken subscriberId operatorId) := by
  cases endpoint with
  | createGroup body =>
    refine AsksAfter.bind ?_ fun _ _ _ => .pure _
    exact fun tr r h => (writes_post ownGroups h).permitted (List.forall_mem_nil _)
  | updateGroup groupId body =>
    refine AsksAfter.bind ?_ fun _ _ _ => .pure _
    exact fun tr r h => (writes_put (ownGroup (plain _ (.head _))) h).permitted (List.forall_mem_nil _)
  | createSchedule body timezone =>
    refine AsksAfter.bind ?_ fun _ _ _ => ?_
    · exact fun tr r h => (writes_post ownSchedules h).permitted (List.forall_mem_nil _)
    · exact .ite (fun _ => .pure _) fun _ => answerMutation_permitted
  | mutation m => exact Mutation.permitted plain (List.forall_mem_nil _)

/-- Whatever the handlers go on to is permitted, if the ids of the request are plain. -/
lemma Work.permitted {work : Work} (plain : ∀ id ∈ work.ids, PlainSegment id) :
    AsksAfter (Permitted conv bearerToken subscriberId operatorId (!work.reads)) []
      (work.run conv locateZone bearerToken subscriberId operatorId) := by
  cases work with
  | showObject query => exact (ObjectQuery.permitted plain (List.forall_mem_nil _)).bind fun _ _ _ => .pure _
  | showArray query => exact (ArrayQuery.permitted plain (List.forall_mem_nil _)).bind fun _ _ _ => .pure _
  | showSchedule scheduleId =>
    refine sends_permitted (permitted_resolving fun known timezone before => ?_)
    exact showCall_permitted (getObject_permitted (ownSchedule (plain _ (.head _))) before)
  | showSchedules =>
    exact sends_permitted (showList_permitted fun known before => getArray_permitted ownSchedules before)
  | showGroupSchedules groupId =>
    refine sends_permitted (showList_permitted fun known before => ?_)
    exact getArray_permitted ((ownGroup (plain _ (.head _))).list plainSegment_schedules rfl) before
  | createSchedule req =>
    refine sends_permitted (permitted_resolving fun known timezone before => ?_)
    refine (toUtc_permitted req).attempt_bind fun tr req h => ?_
    apply showCall_permitted
    exact fun tr' r h' => (writes_post ownSchedules h').permitted
      (List.forall_mem_append.mpr ⟨before, toUtc_elsewhere h⟩)
  | updateSchedule scheduleId req =>
    refine sends_permitted (permitted_resolving fun known timezone before => ?_)
    refine (toUtc_permitted req).attempt_bind fun tr req h => ?_
    have schedule : ∀ id ∈ (Mutation.updateSchedule scheduleId (buildScheduleRequestBody req) timezone).ids,
        PlainSegment id := plain
    refine AsksAfter.attempt_lift_bind ?_ fun _ _ _ => .attempt_pure _
    exact Mutation.permitted schedule (List.forall_mem_append.mpr ⟨before, toUtc_elsewhere h⟩)
  | change endpoint => exact (Endpoint.permitted plain).bind fun _ _ _ => .pure _

end Parts

/-! ## What is sent -/

section Sent

variable {conv : Conversions} {locateZone : String → Option Zone}
  {bearerToken subscriberId operatorId : String} {tr : List Portal.Event} {sent : List Sent}

/-- Steps which send one thing, or are ended by an answer. -/
def SendsOne (steps : Handling (List Sent)) : Prop :=
  ∀ tr sent, Trace steps.run tr (.ok sent) → ∃ one, sent = [one]

/-- What follows decides what is sent. -/
lemma SendsOne.bind {α : Type} {x : Handling α} {f : α → Handling (List Sent)} (rest : ∀ a, SendsOne (f a)) :
    SendsOne (x >>= f) := by
  intro tr sent h
  rcases trace_attempt_bind.mp h with ⟨_, eq, _⟩ | ⟨tr1, tr2, a, rfl, _, h2⟩
  · cases eq
  · exact rest a tr2 sent h2

/-- Steps which send this one thing. -/
lemma sendsOne_pure (one : Sent) : SendsOne (pure [one]) := by
  intro tr sent h
  obtain ⟨_, eq⟩ := trace_attempt_pure.mp h
  cases eq
  exact ⟨one, rfl⟩

/-- Steps which are ended by an answer. -/
lemma sendsOne_throw (answer : HandlerAnswer) : SendsOne (throw answer) := by
  intro tr sent h
  obtain ⟨_, eq⟩ := trace_attempt_throw.mp h
  cases eq

/-- What is sent in the end is one answer, or the one thing of the steps. -/
lemma sends_one {steps : Handling (List Sent)} (one : SendsOne steps) (h : Trace (sends steps) tr sent) :
    ∃ answer, sent = [answer] := by
  obtain ⟨r, h1, rfl⟩ := trace_sends h
  cases r with
  | ok sent => exact one tr sent h1
  | error answer => exact ⟨_, rfl⟩

/-- The object of a call is shown once. -/
lemma sendsOne_showCall {method timezone : String} {call : Portal CallResult} :
    SendsOne (showCall conv locateZone method timezone call) := by
  refine SendsOne.bind fun r => ?_
  split
  case isTrue => exact sendsOne_throw _
  case isFalse => exact SendsOne.bind fun shown => sendsOne_pure _

/-- A list is shown once. -/
lemma sendsOne_showList {call : Portal (CallResult × Option (List Json))} :
    SendsOne (showList conv locateZone subscriberId call) := by
  refine SendsOne.bind fun timezone => SendsOne.bind fun r => ?_
  split
  split
  case isTrue => exact sendsOne_throw _
  case isFalse => exact SendsOne.bind fun shown => sendsOne_pure _

/-- A change is answered once. -/
lemma Mutation.handle_one {m : Mutation} {answers : List HandlerAnswer}
    (h : Trace (m.handle conv locateZone bearerToken subscriberId operatorId) tr answers) :
    ∃ answer, answers = [answer] := by
  obtain ⟨tr1, tr2, r, rfl, _, h2⟩ := trace_bind.mp h
  obtain ⟨answer, rfl, _⟩ := handleParentalControlMutationResult_inv h2
  exact ⟨answer, rfl⟩

/-- So is every request which changes something. -/
lemma Endpoint.handle_one {endpoint : Endpoint} {answers : List HandlerAnswer}
    (h : Trace (endpoint.handle conv locateZone bearerToken subscriberId operatorId) tr answers) :
    ∃ answer, answers = [answer] := by
  have group : ∀ {r : CallResult} {tr : List Portal.Event}, Trace (pure (answerGroup r)) tr answers →
      ∃ answer, answers = [answer] := by
    intro r tr h
    obtain ⟨_, rfl⟩ := trace_pure.mp h
    rw [answerGroup]
    split
    case isTrue => exact ⟨_, rfl⟩
    case isFalse => exact ⟨_, rfl⟩
  cases endpoint with
  | createGroup body =>
    obtain ⟨tr1, tr2, r, rfl, _, h2⟩ := trace_bind.mp h
    exact group h2
  | updateGroup groupId body =>
    obtain ⟨tr1, tr2, r, rfl, _, h2⟩ := trace_bind.mp h
    exact group h2
  | createSchedule body timezone =>
    obtain ⟨tr1, tr2, r, rfl, _, h2⟩ := trace_bind.mp h
    split at h2
    case isTrue =>
      obtain ⟨_, rfl⟩ := trace_pure.mp h2
      exact ⟨_, rfl⟩
    case isFalse =>
      obtain ⟨_, answer, rfl, _⟩ := answerMutation_inv h2
      exact ⟨answer, rfl⟩
  | mutation m => exact Mutation.handle_one h

/-- Whatever the handlers go on to, one thing is sent. -/
lemma Work.run_one {work : Work}
    (h : Trace (work.run conv locateZone bearerToken subscriberId operatorId) tr sent) :
    ∃ one, sent = [one] := by
  cases work with
  | showObject query =>
    obtain ⟨tr1, tr2, r, rfl, _, h2⟩ := trace_bind.mp h
    exact ⟨_, (trace_pure.mp h2).2⟩
  | showArray query =>
    obtain ⟨tr1, tr2, r, rfl, _, h2⟩ := trace_bind.mp h
    exact ⟨_, (trace_pure.mp h2).2⟩
  | showSchedule scheduleId => exact sends_one (SendsOne.bind fun timezone => sendsOne_showCall) h
  | showSchedules => exact sends_one sendsOne_showList h
  | showGroupSchedules groupId => exact sends_one sendsOne_showList h
  | createSchedule req =>
    exact sends_one (SendsOne.bind fun timezone => SendsOne.bind fun req => sendsOne_showCall) h
  | updateSchedule scheduleId req =>
    refine sends_one (SendsOne.bind fun timezone => SendsOne.bind fun req => ?_) h
    intro tr sent h
    obtain ⟨tr1, tr2, answers, rfl, h1, h2⟩ := trace_attempt_lift_bind.mp h
    obtain ⟨answer, rfl⟩ := Mutation.handle_one h1
    obtain ⟨_, eq⟩ := trace_attempt_pure.mp h2
    cases eq
    exact ⟨_, rfl⟩
  | change endpoint =>
    obtain ⟨tr1, tr2, answers, rfl, h1, h2⟩ := trace_bind.mp h
    obtain ⟨answer, rfl⟩ := Endpoint.handle_one h1
    exact ⟨_, (trace_pure.mp h2).2⟩

end Sent

/-- A request which passes comes from a subscriber. -/
lemma Handler.Passes.subscriber {conv : Conversions} {request : RulesRequest} {handler : Handler} {work : Work}
    (passes : handler.Passes conv request work) : request.subscriberId ≠ "" := by
  cases passes with
  | addGroupDevice operator => exact operator.1
  | addGroupDevices operator => exact operator.1
  | removeGroupDevice operator => exact operator.1
  | addGroupSchedule operator => exact operator.1
  | replaceGroupSchedules operator => exact operator.1
  | removeGroupSchedule operator => exact operator.1
  | _ => assumption

/-- A handler sends one thing, after it has asked what is permitted. -/
lemma Handler.run_permitted {conv : Conversions} {locateZone : String → Option Zone} {bearerToken : String}
    {handler : Handler} {request : RulesRequest} {tr : List Portal.Event} {sent : List Sent}
    (h : Trace (handler.run conv locateZone bearerToken request) tr sent) :
    (∃ one, sent = [one]) ∧
      Follows (Permitted conv bearerToken request.subscriberId request.operatorId (!handler.reads)) [] tr ∧
      (tr ≠ [] → request.subscriberId ≠ "") := by
  have judged : Judges (handler.check conv request) _ := handler.judges
  rw [Handler.run] at h
  cases checked : handler.check conv request with
  | error answer =>
    rw [checked] at h
    obtain ⟨rfl, rfl⟩ := trace_pure.mp h
    exact ⟨⟨_, rfl⟩, .nil [], fun asks => absurd rfl asks⟩
  | ok work =>
    rw [checked] at h
    have passes := (judged.passes work).mp checked
    refine ⟨Work.run_one h, ?_, fun _ => passes.subscriber⟩
    rw [← passes.reads]
    exact Work.permitted passes.plain tr sent h

/-- The first call of a subscriber: below its path at the parental-control service, or for its venues. -/
def BeginsOwn (subscriberId : String) (tr : List Portal.Event) : Prop :=
  ∃ c answer rest, tr = ⟨.call c, answer⟩ :: rest ∧
    ((∃ verb path body timeoutMs, c = ParentalControl.serviceCall verb path body timeoutMs ∧
      IsOwnPath subscriberId path) ∨ c = Prov.getVenuesCall subscriberId)

/-- The provisioning service is another one. -/
lemma provisioning_ne_parental : uSERVICE_PROVISIONING ≠ uSERVICE_MANGO_PARENTAL_CONTROL := nofun

/-- Nothing is known before the first call, so that a call of the parental-control service which is permitted there
is below the path of the subscriber. -/
lemma Begins.own {conv : Conversions} {bearerToken subscriberId operatorId : String} {changes : Bool}
    {tr : List Portal.Event} (begins : Begins subscriberId tr)
    (follows : Follows (Permitted conv bearerToken subscriberId operatorId changes) [] tr) :
    BeginsOwn subscriberId tr := by
  obtain ⟨c, answer, rest, rfl, whom⟩ := begins
  rcases whom with service | venues
  · refine ⟨c, answer, rest, rfl, .inl ?_⟩
    cases follows with
    | cons first _ =>
      cases first with
      | rules _ _ _ own => exact ⟨_, _, _, _, rfl, own⟩
      | venues => exact absurd service provisioning_ne_parental
      | location _ listing => cases listing
      | devices => exact absurd service provisioning_ne_parental
      | configuration _ _ gateway =>
        obtain ⟨_, _, mem, _⟩ := gateway
        cases mem
      | configure _ _ gateway =>
        obtain ⟨_, _, mem, _⟩ := gateway
        cases mem
  · exact ⟨c, answer, rest, rfl, .inr venues⟩

/-- A request which does not pass the checks of its handler is answered with 400 or 403, and nothing is asked
of another service; a request which passes always leads to a call, and the first one is its own subscriber's. -/
theorem handler_refuses_iff {conv : Conversions} {locateZone : String → Option Zone} {bearerToken : String}
    {handler : Handler} {request : RulesRequest} {tr : List Portal.Event} {sent : List Sent}
    (h : Trace (handler.run conv locateZone bearerToken request) tr sent) :
    (tr = [] ↔ ¬ ∃ work, handler.Passes conv request work) ∧
      (tr = [] → ∃ answer, sent = [.answer answer] ∧
        (answer.status = HTTPStatus.badRequest ∨ answer.status = HTTPStatus.forbidden)) ∧
      (tr ≠ [] → BeginsOwn request.subscriberId tr) := by
  have judged : Judges (handler.check conv request) _ := handler.judges
  obtain ⟨_, follows, _⟩ := handler.run_permitted h
  rw [Handler.run] at h
  cases checked : handler.check conv request with
  | error answer =>
    rw [checked] at h
    obtain ⟨rfl, rfl⟩ := trace_pure.mp h
    refine ⟨iff_of_true rfl ?_, fun _ => ⟨answer, rfl, judged.refused answer checked⟩, fun ne => absurd rfl ne⟩
    intro passed
    obtain ⟨work, passed⟩ := passed
    rw [(judged.passes work).mpr passed] at checked
    cases checked
  | ok work =>
    rw [checked] at h
    have begins := Work.begins h
    have ne : tr ≠ [] := by
      obtain ⟨c, answer, rest, rfl, _⟩ := begins
      exact List.cons_ne_nil _ _
    refine ⟨iff_of_false ne ?_, fun nil => absurd nil ne, fun _ => begins.own follows⟩
    exact fun none => none ⟨work, (judged.passes work).mp checked⟩

/-- A group is asked for, and shown. -/
theorem readGroup_begins :
    (∃ work, Handler.readGroup.Passes .strict ⟨"s", "", "a-1", "", "", none⟩ work) ∧
      BeginsOwn "s" [⟨.call (ParentalControl.serviceCall .get "/api/v1/subscribers/s/groups/a-1" [] 60000),
        some ⟨HTTPStatus.ok, .json (.obj [("id", .str "a-1")])⟩⟩] := by
  have asked : Trace (Handler.readGroup.run .strict (fun _ => none) "t" ⟨"s", "", "a-1", "", "", none⟩)
      [⟨.call (ParentalControl.serviceCall .get "/api/v1/subscribers/s/groups/a-1" [] 60000),
        some ⟨HTTPStatus.ok, .json (.obj [("id", .str "a-1")])⟩⟩]
      [.answer (HandlerAnswer.returnObject [("id", .str "a-1")])] := trace_iff_replay.mpr rfl
  obtain ⟨passes, _, begins⟩ := handler_refuses_iff asked
  have ne := List.cons_ne_nil (⟨.call (ParentalControl.serviceCall .get "/api/v1/subscribers/s/groups/a-1" [] 60000),
    some ⟨HTTPStatus.ok, .json (.obj [("id", .str "a-1")])⟩⟩ : Portal.Event) []
  exact ⟨not_not.mp (mt passes.mpr ne), begins ne⟩

/-- Every request about rules is answered once, and what it asks on the way is permitted after what it was
answered: in particular the parental-control service is called at most once, below the subscriber of the
request, and a request which reads changes nothing. -/
theorem handler_confined {conv : Conversions} {locateZone : String → Option Zone} {bearerToken : String}
    {handler : Handler} {request : RulesRequest} {tr : List Portal.Event} {sent : List Sent}
    (h : Trace (handler.run conv locateZone bearerToken request) tr sent) :
    (∃ one, sent = [one]) ∧ ∀ known e rest, tr = known ++ e :: rest →
      Permitted conv bearerToken request.subscriberId request.operatorId (!handler.reads) known e := by
  obtain ⟨one, follows, _⟩ := handler.run_permitted h
  refine ⟨one, fun known e rest eq => ?_⟩
  rw [eq] at follows
  exact follows.split

namespace RemovedGroup

/-- The gateway in its present configuration. -/
def config : Json.Object := [("uuid", .int 1)]

/-- The rules which are left when the group is gone. -/
def configRaw : List Json := [.arr [.str "set", .str "firewall", .str "rule"]]

def deletion : Portal.Event :=
  ⟨.call (ParentalControl.serviceCall .delete "/api/v1/subscribers/s/groups/a-1" [] 60000),
    some ⟨HTTPStatus.ok, .json (.obj [("config-raw", .arr configRaw)])⟩⟩

/-- What is asked until the gateway is configured. -/
def known : List Portal.Event :=
  [deletion,
    ⟨.call (Prov.getDevicesCall "" "s" "op"), some ⟨HTTPStatus.ok, .json (.obj [("subscriberDevices",
      .arr [.obj [("serialNumber", .str "gateway"), ("deviceGroup", .str "olg")]])])⟩⟩,
    ⟨.call (Gw.getConfigCall "t" "gateway"), some ⟨HTTPStatus.ok, .json (.obj [("configuration", .obj config)])⟩⟩,
    ⟨.now, 7000000⟩]

def configuration : Portal.Event :=
  ⟨.call (Gw.configureCall "t" "gateway" (Gw.stampConfig (config.set "config-raw" (.arr configRaw)) 7) 7),
    some ⟨HTTPStatus.ok, .json (.obj [])⟩⟩

/-- A group is removed, and the rules which are left are applied to the gateway of the subscriber. -/
theorem removeGroup_confined :
    (∃ one, [Sent.answer (HandlerAnswer.success "DELETE")] = [one]) ∧
      Permitted .strict "t" "s" "op" true known configuration := by
  have removes : Trace (Handler.removeGroup.run .strict (fun _ => none) "t" ⟨"s", "op", "a-1", "", "", none⟩)
      (known ++ [configuration]) [.answer (HandlerAnswer.success "DELETE")] := trace_iff_replay.mpr rfl
  obtain ⟨one, permitted⟩ := handler_confined removes
  exact ⟨one, permitted known configuration [] rfl⟩

end RemovedGroup

end UserPortal.RestApi.ParentalControl
