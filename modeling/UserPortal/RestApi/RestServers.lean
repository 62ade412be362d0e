import UserPortal.Framework.Admission
import UserPortal.RestApi.LocationConfinement
import UserPortal.RestApi.Routers
import UserPortal.RestApi.RuleConfinement
import UserPortal.RestApi.TopologyRequests

/-!
# The servers

Port of `createRequestHandler` and `CallServer` of `src/framework/RESTAPI_ExtServer.cpp`,
`src/framework/RESTAPI_IntServer.cpp` and `src/framework/RESTAPI_IntServer.h`, with the classes of handlers which
serve the rules, the topology and the location of a subscriber: from the request line to the calls of the other
services.

A request to one of these classes is answered once, or ends with a number of its query which is too large. Whatever it
asks another service is asked for the user whom the authentication has vouched for, after what was answered before.
-/

namespace UserPortal.RequestHandler
open Interaction Program Security Calendar Routing Data
open RestApi.ParentalControl (Handler RulesRequest Sent)

/-! ## The classes of handlers -/

section Classes

variable (conv : Conversions) (parser : DateTimeParser) (locateZone : String → Option Zone) (internal : Bool)

/-- `RESTAPI_UnknownRequestHandler` -/
def unknownRequestHandler : RESTAPIHandler where
  methods := []
  internal := internal

/-- `RESTAPI_topology_handler` -/
def topologyHandler : RESTAPIHandler where
  methods := ["GET", "OPTIONS"]
  internal := internal
  rates := {}
  subOnlyService := true
  doGet ctx := answering (RestApi.TopologyHandler.doGet conv parser locateZone ctx.user)

/-- `RESTAPI_subscriber_location_handler` -/
def subscriberLocationHandler : RESTAPIHandler where
  methods := ["GET", "POST", "PUT", "DELETE", "OPTIONS"]
  internal := internal
  rates := {}
  subOnlyService := true
  doGet ctx := answering (RestApi.SubscriberLocation.doGet conv ctx.user)
  doPost ctx := answering (RestApi.SubscriberLocation.doPost conv locateZone ctx.user ctx.parsedBody)
  doPut ctx := answering (RestApi.SubscriberLocation.doPut conv locateZone ctx.user ctx.parsedBody)
  doDelete ctx := answering (RestApi.SubscriberLocation.doDelete conv ctx.user)

section Rules

variable (bindings : BindingMap)

/-- `GetBinding` -/
def getBinding (name default : String) : String := (bindings.get? (Utils.toLower name)).getD default

/-- What a handler of rules reads of a request. -/
def rulesRequest (ctx : Context) : RulesRequest where
  subscriberId := ctx.user.userinfo.id
  operatorId := ctx.user.userinfo.owner
  groupId := getBinding bindings "group_id" ""
  scheduleId := getBinding bindings "schedule_id" ""
  clientMac := getBinding bindings "client_mac" ""
  parsedBody := ctx.parsedBody

/-- What is sent, as an answer: an answer holds no array. -/
def answerFor : Sent → HandlerAnswer
  | .answer a => a
  | .rawJSON _ => { status := HTTPStatus.ok, document := none }

/-- All of it is sent. -/
def respondAll : List Sent → Serving Unit
  | [] => return ()
  | sent :: rest => do
    respond (answerFor sent)
    respondAll rest

/-- A function of a handler of rules. -/
def ruling (handler : Handler) (ctx : Context) : Doing Unit := do
  let sent ← (liftM (ofSteps (AuthSteps.ofPortal
    (handler.run conv locateZone ctx.user.webtoken.accessToken (rulesRequest bindings ctx)))) :
      Doing (List Sent))
  liftM (respondAll sent)

/-- The function of a class for a method; one which the class leaves empty does nothing. -/
def operation (operations : List (String × Handler)) (method : String) (ctx : Context) : Doing Unit :=
  match operations.lookup method with
  | some handler => ruling conv locateZone bindings handler ctx
  | none => pure ()

/-- A class of handlers of rules, by the methods for which it has a function. -/
def rulesHandler (operations : List (String × Handler)) : RESTAPIHandler where
  methods := operations.map Prod.fst ++ ["OPTIONS"]
  internal := internal
  subOnlyService := true
  doGet := operation conv locateZone bindings operations "GET"
  doPost := operation conv locateZone bindings operations "POST"
  doDelete := operation conv locateZone bindings operations "DELETE"
  doPut := operation conv locateZone bindings operations "PUT"

/-- `RESTAPI_groups_list_handler` -/
def groupsListHandler : RESTAPIHandler :=
  rulesHandler conv locateZone internal bindings [("GET", .listGroups), ("POST", .addGroup)]

/-- `RESTAPI_groups_handler` -/
def groupsHandler : RESTAPIHandler :=
  rulesHandler conv locateZone internal bindings
    [("GET", .readGroup), ("PUT", .replaceGroup), ("DELETE", .removeGroup)]

/-- `RESTAPI_schedules_list_handler` -/
def schedulesListHandler : RESTAPIHandler :=
  rulesHandler conv locateZone internal bindings [("GET", .listSchedules), ("POST", .addSchedule)]

/-- `RESTAPI_schedules_handler` -/
def schedulesHandler : RESTAPIHandler :=
  rulesHandler conv locateZone internal bindings
    [("GET", .readSchedule), ("PUT", .replaceSchedule), ("DELETE", .removeSchedule)]

/-- `RESTAPI_group_devices_list_handler` -/
def groupDevicesListHandler : RESTAPIHandler :=
  rulesHandler conv locateZone internal bindings [("GET", .listGroupDevices), ("POST", .addGroupDevice)]

/-- `RESTAPI_group_devices_list_v2_handler` -/
def groupDevicesListV2Handler : RESTAPIHandler :=
  rulesHandler conv locateZone internal bindings [("POST", .addGroupDevices)]

/-- `RESTAPI_group_devices_handler` -/
def groupDevicesHandler : RESTAPIHandler :=
  rulesHandler conv locateZone internal bindings [("GET", .readGroupDevice), ("DELETE", .removeGroupDevice)]

/-- `RESTAPI_group_schedules_list_handler` -/
def groupSchedulesListHandler : RESTAPIHandler :=
  rulesHandler conv locateZone internal bindings
    [("GET", .listGroupSchedules), ("POST", .addGroupSchedule), ("PUT", .replaceGroupSchedules)]

/-- `RESTAPI_group_schedules_handler` -/
def groupSchedulesHandler : RESTAPIHandler :=
  rulesHandler conv locateZone internal bindings [("GET", .readGroupSchedule), ("DELETE", .removeGroupSchedule)]

/-- `RESTAPI_schedule_groups_list_handler` -/
def scheduleGroupsListHandler : RESTAPIHandler :=
  rulesHandler conv locateZone internal bindings [("GET", .listScheduleGroups)]

end Rules

/-- The classes which serve the rules, the topology and the location of a subscriber. -/
def handlerOf (bindings : BindingMap) : Route → Option RESTAPIHandler
  | .topology => some (topologyHandler conv parser locateZone internal)
  | .subscriberLocation => some (subscriberLocationHandler conv locateZone internal)
  | .groupsList => some (groupsListHandler conv locateZone internal bindings)
  | .groups => some (groupsHandler conv locateZone internal bindings)
  | .schedulesList => some (schedulesListHandler conv locateZone internal bindings)
  | .schedules => some (schedulesHandler conv locateZone internal bindings)
  | .groupDevicesList => some (groupDevicesListHandler conv locateZone internal bindings)
  | .groupDevicesListV2 => some (groupDevicesListV2Handler conv locateZone internal bindings)
  | .groupDevices => some (groupDevicesHandler conv locateZone internal bindings)
  | .groupSchedulesList => some (groupSchedulesListHandler conv locateZone internal bindings)
  | .groupSchedules => some (groupSchedulesHandler conv locateZone internal bindings)
  | .scheduleGroupsList => some (scheduleGroupsListHandler conv locateZone internal bindings)
  | _ => none

end Classes

/-! ## The functions of the handlers -/

section Functions

variable {P : List Portal.Event → Portal.Event → Prop} {service : Service} {parser : DateTimeParser}
  {locateZone : String → Option Zone} {internal : Bool} {bindings : BindingMap} {request : HTTPServerRequest}
  {user : UserInfoAndPolicy} {ctx : Context} {tr : List Event} {r : Except Thrown Unit}

/-- What is asked for a user who is named. -/
def Named (user : UserInfoAndPolicy) (P : List Portal.Event → Portal.Event → Prop) (known : List Portal.Event)
    (e : Portal.Event) : Prop := user.userinfo.id ≠ "" ∧ P known e

/-- What may be asked another service for a user. -/
def Allowed (service : Service) (locateZone : String → Option Zone) (changes : Bool) (user : UserInfoAndPolicy) :
    Route → List Portal.Event → Portal.Event → Prop
  | .topology =>
    Named user (RestApi.TopologyHandler.Permitted service.conv user.userinfo.id user.userinfo.owner)
  | .subscriberLocation =>
    Named user (RestApi.SubscriberLocation.Permitted service.conv locateZone user.userinfo.id changes)
  | _ =>
    Named user (RestApi.ParentalControl.Permitted service.conv user.webtoken.accessToken user.userinfo.id
      user.userinfo.owner changes)

/-- Steps which are refused to a user who is not named. -/
lemma asks_named {α : Type} {steps : Handling α} {answer : HandlerAnswer} (asks : AsksAfter P [] steps.run)
    (refuses : user.userinfo.id = "" → steps = throw answer) : AsksAfter (Named user P) [] steps.run := by
  by_cases unnamed : user.userinfo.id = ""
  · rw [refuses unnamed]
    exact .attempt_throw _
  · exact asks.mono fun _ _ permitted => ⟨unnamed, permitted⟩

/-- The topology is answered after calls which are allowed. -/
lemma topology_answersAfter {changes : Bool} : AnswersAfter (Allowed service locateZone changes user .topology)
    (answering (RestApi.TopologyHandler.doGet service.conv parser locateZone user)) :=
  answering_answersAfter (asks_returned (asks_named RestApi.TopologyHandler.showTopology_fetches.asks fun unnamed =>
    if_pos unnamed))

/-- So is a location which is shown. -/
lemma showLocation_answersAfter : AnswersAfter (Allowed service locateZone false user .subscriberLocation)
    (answering (RestApi.SubscriberLocation.doGet service.conv user)) :=
  answering_answersAfter (asks_returned (asks_named RestApi.SubscriberLocation.showLocation_confines.asks fun unnamed =>
    if_pos unnamed))

/-- So is one which is changed. -/
lemma updateLocation_answersAfter {parsedBody : Option Json.Object} :
    AnswersAfter (Allowed service locateZone true user .subscriberLocation)
      (answering (RestApi.SubscriberLocation.doPut service.conv locateZone user parsedBody)) :=
  answering_answersAfter (asks_returned
    (asks_named RestApi.SubscriberLocation.updateLocation_confines.asks fun unnamed => if_pos unnamed))

/-- So is one which is created. -/
lemma createLocation_answersAfter {parsedBody : Option Json.Object} :
    AnswersAfter (Allowed service locateZone true user .subscriberLocation)
      (answering (RestApi.SubscriberLocation.doPost service.conv locateZone user parsedBody)) :=
  answering_answersAfter (asks_answer (asks_named RestApi.SubscriberLocation.createLocation_confines.asks fun unnamed =>
    if_pos unnamed))

/-- And one which is deleted. -/
lemma deleteLocation_answersAfter : AnswersAfter (Allowed service locateZone true user .subscriberLocation)
    (answering (RestApi.SubscriberLocation.doDelete service.conv user)) :=
  answering_answersAfter (asks_answer (asks_named RestApi.SubscriberLocation.deleteLocation_confines.asks fun unnamed =>
    if_pos unnamed))

/-- What may be asked for a request about rules. -/
def Ruled (service : Service) (changes : Bool) (user : UserInfoAndPolicy) :
    List Portal.Event → Portal.Event → Prop :=
  Named user (RestApi.ParentalControl.Permitted service.conv user.webtoken.accessToken user.userinfo.id
    user.userinfo.owner changes)

/-- So is a request about the rules. -/
lemma ruling_answersAfter {handler : Handler} :
    AnswersAfter (Ruled service (!handler.reads) ctx.user) (ruling service.conv locateZone bindings handler ctx) := by
  intro tr r h
  obtain ⟨calls, sent, post, rfl, runs, rest⟩ := trace_portal_bind.mp h
  obtain ⟨⟨one, rfl⟩, follows, named⟩ := handler.run_permitted runs
  obtain ⟨u, rfl, responds⟩ := trace_attempt_lift.mp rest
  obtain ⟨tr1, tr2, u, rfl, first, none⟩ := trace_bind.mp responds
  obtain rfl := trace_respond.mp first
  obtain ⟨rfl, _⟩ := trace_pure.mp none
  refine ⟨rfl, calls, answerFor one, rfl, ?_⟩
  cases calls with
  | nil => exact .nil []
  | cons e calls => exact follows.mono fun _ _ permitted => ⟨named (List.cons_ne_nil _ _), permitted⟩

/-- Every function of a class serves one of the four methods, and reads exactly where the method is `GET`. -/
def Proper (operations : List (String × Handler)) : Prop :=
  ∀ o ∈ operations, o.1 ∈ ["GET", "POST", "DELETE", "PUT"] ∧ o.2.reads = decide (o.1 = "GET")

instance (operations : List (String × Handler)) : Decidable (Proper operations) :=
  inferInstanceAs (Decidable (∀ o ∈ operations, _))

/-- The function of a class of rules is called which has the method of the request. -/
lemma call_rulesHandler {operations : List (String × Handler)}
    (method : request.method ∈ ["GET", "POST", "DELETE", "PUT"]) :
    call (rulesHandler service.conv locateZone internal bindings operations) request ctx =
      operation service.conv locateZone bindings operations request.method ctx := by
  simp only [List.mem_cons, List.not_mem_nil, or_false] at method
  rcases method with method | method | method | method <;> rw [call, method] <;> rfl

/-- A handler of rules answers after calls which its subscriber may make. -/
lemma rulesHandler_answersAfter {operations : List (String × Handler)} (proper : Proper operations)
    (mem : request.method ∈ (rulesHandler service.conv locateZone internal bindings operations).methods)
    (ne : request.method ≠ "OPTIONS") :
    AnswersAfter (Ruled service (decide (request.method ≠ "GET")) ctx.user)
      (call (rulesHandler service.conv locateZone internal bindings operations) request ctx) := by
  have served : request.method ∈ operations.map Prod.fst :=
    (List.mem_append.mp mem).resolve_right fun options => ne (List.mem_singleton.mp options)
  obtain ⟨o, here, same⟩ := List.mem_map.mp served
  have known : (operations.lookup request.method).isSome = true :=
    List.lookup_isSome_iff.mpr ⟨o, here, beq_iff_eq.mpr same.symm⟩
  obtain ⟨handler, found⟩ := Option.isSome_iff_exists.mp known
  obtain ⟨before, after, split, _⟩ := List.lookup_eq_some_iff.mp found
  have listed : (request.method, handler) ∈ operations := by
    rw [split]
    exact List.mem_append_right _ (List.mem_cons_self ..)
  obtain ⟨method, reads⟩ := proper _ listed
  rw [call_rulesHandler method, operation, found]
  have changes : (!handler.reads) = decide (request.method ≠ "GET") := by
    rw [reads, decide_not]
  rw [← changes]
  exact ruling_answersAfter

end Functions

/-! ## The servers -/

section Servers

variable (service : Service) (parser : DateTimeParser) (locateZone : String → Option Zone) (internal : Bool)

/-- `createRequestHandler` with `CallServer`: the class of the path with its bindings, or the one of unknown paths;
nothing where the URI is none. -/
def createRequestHandler (uri : String) : Option (Option (Route × BindingMap)) :=
  (service.uris.parse uri).map fun u => if internal then intRouter u.path else extRouter u.path

/-- A server serves a request; the classes which are not modelled here are given. -/
def serve (others : Route → RESTAPIHandler) (request : HTTPServerRequest) : Doing Unit :=
  match createRequestHandler service internal request.uri with
  | none => pure ()
  | some none => handleRequest service (unknownRequestHandler internal) request
  | some (some (route, bindings)) =>
    handleRequest service
      ((handlerOf service.conv parser locateZone internal bindings route).getD (others route)) request

variable {service parser locateZone internal} {bindings : BindingMap} {route : Route} {h : RESTAPIHandler}
  {request : HTTPServerRequest} {others : Route → RESTAPIHandler} {tr : List Event} {r : Except Thrown Unit}

/-- A class of these serves the topology, the location, or rules. -/
lemma handlerOf_cases (found : handlerOf service.conv parser locateZone internal bindings route = some h) :
    (route = .topology ∧ h = topologyHandler service.conv parser locateZone internal) ∨
      (route = .subscriberLocation ∧ h = subscriberLocationHandler service.conv locateZone internal) ∨
      ∃ operations, h = rulesHandler service.conv locateZone internal bindings operations ∧ Proper operations ∧
        ∀ changes user, Allowed service locateZone changes user route = Ruled service changes user := by
  cases route with
  | topology =>
    cases found
    exact .inl ⟨rfl, rfl⟩
  | subscriberLocation =>
    cases found
    exact .inr (.inl ⟨rfl, rfl⟩)
  | groupsList | groups | schedulesList | schedules | groupDevicesList | groupDevicesListV2 | groupDevices
  | groupSchedulesList | groupSchedules | scheduleGroupsList =>
    cases found
    exact .inr (.inr ⟨_, rfl, by decide, fun _ _ => rfl⟩)
  | _ => cases found

/-- These classes authenticate a subscriber. -/
lemma handlerOf_authorizes (found : handlerOf service.conv parser locateZone internal bindings route = some h) :
    h.alwaysAuthorize = true ∧ h.subOnlyService = true ∧ h.internal = internal := by
  rcases handlerOf_cases found with ⟨_, rfl⟩ | ⟨_, rfl⟩ | ⟨_, rfl, _⟩ <;> exact ⟨rfl, rfl, rfl⟩

/-- The topology handler answers after calls which are allowed. -/
lemma topologyHandler_answersAfter {ctx : Context} (ne : request.method ≠ "OPTIONS")
    (mem : request.method ∈ (topologyHandler service.conv parser locateZone internal).methods) :
    AnswersAfter (Allowed service locateZone (decide (request.method ≠ "GET")) ctx.user .topology)
      (call (topologyHandler service.conv parser locateZone internal) request ctx) := by
  have get : request.method = "GET" := (List.mem_pair.mp mem).resolve_right ne
  rw [call, if_pos get]
  exact topology_answersAfter

/-- So does the handler of the location. -/
lemma subscriberLocationHandler_answersAfter {ctx : Context} (ne : request.method ≠ "OPTIONS")
    (mem : request.method ∈ (subscriberLocationHandler service.conv locateZone internal).methods) :
    AnswersAfter (Allowed service locateZone (decide (request.method ≠ "GET")) ctx.user .subscriberLocation)
      (call (subscriberLocationHandler service.conv locateZone internal) request ctx) := by
  simp only [subscriberLocationHandler, List.mem_cons, List.not_mem_nil, or_false] at mem
  rcases mem with method | method | method | method | method
  · rw [call, method]
    exact showLocation_answersAfter
  · rw [call, method]
    exact createLocation_answersAfter
  · rw [call, method]
    exact updateLocation_answersAfter
  · rw [call, method]
    exact deleteLocation_answersAfter
  · exact absurd method ne

/-- A function of these classes answers once, after it has asked what is allowed. -/
lemma handlerOf_answersAfter (found : handlerOf service.conv parser locateZone internal bindings route = some h)
    {ctx : Context} (ne : request.method ≠ "OPTIONS") (mem : request.method ∈ h.methods) :
    AnswersAfter (Allowed service locateZone (decide (request.method ≠ "GET")) ctx.user route)
      (call h request ctx) := by
  rcases handlerOf_cases found with ⟨rfl, rfl⟩ | ⟨rfl, rfl⟩ | ⟨operations, rfl, proper, same⟩
  · exact topologyHandler_answersAfter ne mem
  · exact subscriberLocationHandler_answersAfter ne mem
  · rw [same]
    exact rulesHandler_answersAfter proper mem ne

end Servers

/-- A request to one of these classes is answered once, or ends with a number which is too large. Before that it asks
other services about its own credential, and then what is allowed for the user whom the authentication has vouched
for. -/
theorem requests_isolated {service : Service} {parser : DateTimeParser} {locateZone : String → Option Zone}
    {internal : Bool} {others : Route → RESTAPIHandler} {request : HTTPServerRequest} {route : Route}
    {bindings : BindingMap} {tr : List Event} {r : Except Thrown Unit}
    (serves : Trace (serve service parser locateZone internal others request).run tr r)
    (dispatched : createRequestHandler service internal request.uri = some (some (route, bindings)))
    (modelled : (handlerOf service.conv parser locateZone internal bindings route).isSome) :
    Served service internal true request
      (fun user => Allowed service locateZone (decide (request.method ≠ "GET")) user route) tr r := by
  obtain ⟨h, found⟩ := Option.isSome_iff_exists.mp modelled
  obtain ⟨always, sub, same⟩ := handlerOf_authorizes found
  rw [serve, dispatched] at serves
  dsimp only at serves
  rw [found, Option.getD_some] at serves
  rw [← sub, ← same]
  exact handleRequest_served always (fun ctx ne mem => handlerOf_answersAfter found ne mem) serves

namespace GroupRemoval

def request : HTTPServerRequest where
  method := "DELETE"
  uri := "/api/v1/groups/a-1"

def user : UserInfoAndPolicy where
  userinfo := { id := "s" }

/-- The token is cached, and the service does not answer. -/
def events : List Event :=
  [⟨.auth (.getToken ""), some user⟩, ⟨.auth (.portal .now), (0 : Int)⟩,
    ⟨.auth (.portal (.call (Sdk.ParentalControl.serviceCall .delete "/api/v1/subscribers/s/groups/a-1" [] 60000))),
      none⟩,
    respondEvent (RestApi.ParentalControl.forwardParentalControlErrorResponse HTTPStatus.gatewayTimeout none)]

/-- The bindings of the path. -/
def bindings : BindingMap := (OrderedMap.empty : BindingMap).assign "group_id" "a-1"

/-- The path of the request leads to the handler of the groups. -/
lemma dispatched : createRequestHandler .plain false request.uri = some (some (.groups, bindings)) := by
  rfl

/-- The request is served without a session. -/
lemma serves : Trace (serve .plain .canonical (fun _ => none) false (fun _ => unknownRequestHandler false) request).run
    events (.ok ()) := by
  rw [serve, dispatched]
  exact trace_iff_replay.mpr (by rfl)

/-- The deletion of a group is isolated. -/
theorem removal_isolated : Served .plain false true request
    (fun user => Allowed .plain (fun _ => none) true user .groups) events (.ok ()) :=
  requests_isolated serves dispatched rfl

end GroupRemoval

end UserPortal.RequestHandler
