import UserPortal.RestApi.AcceptedSchedules
import UserPortal.RestApi.GroupDevicesListV2
import UserPortal.RestApi.MutationEndpoints
import UserPortal.RestApi.SubscriberTimezone

/-!
# The handlers of the parental-control rules

Port of the handlers of groups, schedules and their links: `RESTAPI_groups_handler`,
`RESTAPI_groups_list_handler`, `RESTAPI_group_devices_handler`, `RESTAPI_group_devices_list_handler`,
`RESTAPI_group_devices_list_v2_handler`, `RESTAPI_group_schedules_handler`,
`RESTAPI_group_schedules_list_handler`, `RESTAPI_schedules_handler`, `RESTAPI_schedules_list_handler` and
`RESTAPI_schedule_groups_list_handler`. Each checks the request and then goes on to one piece of work.

`Handler.judges`: which requests pass the checks, with the work they lead to; `Work.begins`: whatever a handler goes
on to, another service is called.
-/

namespace UserPortal.RestApi.ParentalControl
open Interaction Program Calendar Sdk Utils

/-- What the handlers read of a request: its user, its bindings and the body, if it was parsed. -/
structure RulesRequest where
  subscriberId : String
  /-- the owner of the user -/
  operatorId : String := ""
  groupId : String := ""
  scheduleId : String := ""
  clientMac : String := ""
  parsedBody : Option Json.Object := none

/-- What is sent to the subscriber: an answer, or the array which `ReturnRawJSON` is given. -/
inductive Sent where
  | answer (a : HandlerAnswer)
  | rawJSON (elements : List Json)
  deriving DecidableEq

/-- What is read as an object. -/
inductive ObjectQuery where
  | group (groupId : String)
  | groupDevice (groupId clientMac : String)
  | groupSchedule (groupId scheduleId : String)

/-- What is read as an array, and returned as it is. -/
inductive ArrayQuery where
  | groups
  | groupDevices (groupId : String)
  | scheduleGroups (scheduleId : String)

/-- What a handler goes on to once its checks have passed. -/
inductive Work where
  | showObject (query : ObjectQuery)
  | showArray (query : ArrayQuery)
  | showSchedule (scheduleId : String)
  | showSchedules
  | showGroupSchedules (groupId : String)
  | createSchedule (req : ParsedScheduleRequest)
  | updateSchedule (scheduleId : String) (req : ParsedScheduleRequest)
  | change (endpoint : Endpoint)

/-! ## Checks -/

section Checks

variable (method : String) (request : RulesRequest)

/-- The subscriber has to be known. -/
def checkSubscriber : Except HandlerAnswer Unit :=
  if request.subscriberId = "" then
    .error (HandlerAnswer.unAuthorized method Errors.invalidSubscriberId)
  else .ok ()

/-- The preconditions of a change. -/
def checkAuth (requireOperatorId : Bool) : Except HandlerAnswer Unit :=
  validateAuthPreconditions method request.subscriberId request.operatorId requireOperatorId

/-- A binding has to be a UUID. -/
def checkUUID (uuid : String) : Except HandlerAnswer Unit :=
  if uuid = "" then .error (HandlerAnswer.badRequest method Errors.missingUUID "")
  else if validUUID uuid = false then .error (HandlerAnswer.badRequest method Errors.unknownId "")
  else .ok ()

/-- A refused body or binding. -/
def refuse {α : Type} (extra : String) : Except HandlerAnswer α :=
  .error (HandlerAnswer.badRequest method Errors.missingOrInvalidParameters extra)

/-- An address in its canonical spelling. -/
def readMac (mac extra : String) : Except HandlerAnswer String :=
  match normalizeMac mac with
  | none => refuse method extra
  | some normal => .ok (serialToMAC normal)

/-- The body has to be parsed, and has no other fields. -/
def readBody (allowed : List String) : Except HandlerAnswer Json.Object :=
  match request.parsedBody with
  | none => .error (HandlerAnswer.badRequest method Errors.invalidJSONDocument "")
  | some parsedBody =>
    match parsedBody.getNames.find? fun name => name ∉ allowed with
    | some name => refuse method ("Unknown field: " ++ name)
    | none => .ok parsedBody

/-- The string of a field. -/
def readString (parsedBody : Json.Object) (field extra : String) : Except HandlerAnswer String :=
  match parsedBody.getString? field with
  | none => refuse method extra
  | some s => .ok s

/-- The name of a group. -/
def readName (parsedBody : Json.Object) : Except HandlerAnswer String := do
  let nameVal ← readString method parsedBody "name" "name is required"
  if trim nameVal = "" then refuse method "name must be non-empty" else return trim nameVal

/-- The description of a group is added to its body, if there is one. -/
def setDescription (parsedBody body : Json.Object) : Except HandlerAnswer Json.Object :=
  match parsedBody.get? "description" with
  | none => .ok body
  | some .null => .ok (body.set "description" .null)
  | some (.str descVal) => .ok (body.set "description" (.str (trim descVal)))
  | some _ => refuse method "description must be a string or null"

/-- The body of a group which is sent. -/
def readGroup : Except HandlerAnswer Json.Object := do
  let parsedBody ← readBody method request ["name", "description"]
  let nameVal ← readName method parsedBody
  setDescription method parsedBody (Json.Object.set [] "name" (.str nameVal))

/-- The loop over the schedules of a group, which are distinct. -/
def checkScheduleIds : List String → List Json → Except HandlerAnswer Unit
  | _, [] => .ok ()
  | uniqueIds, .str id :: entries =>
    if validUUID id = false then refuse method "invalid UUID in schedule_ids"
    else if id ∈ uniqueIds then refuse method "duplicate UUID in schedule_ids"
    else checkScheduleIds (id :: uniqueIds) entries
  | _, _ :: _ => refuse method "schedule_ids entries must be strings"

/-- The body of a request with a schedule of a group, which is forwarded. -/
def readGroupSchedule : Except HandlerAnswer Json.Object := do
  let parsedBody ← readBody method request ["schedule_id"]
  let scheduleId ← readString method parsedBody "schedule_id" "schedule_id is required and must be a string"
  if validUUID scheduleId = false then refuse method "schedule_id is not a valid UUID" else return parsedBody

/-- The body of a request with the schedules of a group, which is forwarded. -/
def readGroupSchedules : Except HandlerAnswer Json.Object := do
  let parsedBody ← readBody method request ["schedule_ids"]
  match parsedBody.getArray? "schedule_ids" with
  | none => refuse method "schedule_ids is required and must be an array"
  | some scheduleIdsArray =>
    checkScheduleIds method [] scheduleIdsArray
    return parsedBody

/-- The schedule of a body. -/
def readSchedule (conv : Conversions) (enabledRequired : Bool) : Except HandlerAnswer ParsedScheduleRequest :=
  match request.parsedBody with
  | none => .error (HandlerAnswer.badRequest method Errors.invalidJSONDocument "")
  | some parsedBody =>
    match parseAndValidateScheduleRequest conv parsedBody enabledRequired with
    | .error extra => refuse method extra
    | .ok req => .ok req

end Checks

/-! ## Handlers -/

section Handlers

variable (conv : Conversions) (request : RulesRequest)

/-- `RESTAPI_groups_list_handler::DoGet` -/
def GroupsListHandler.doGet : Except HandlerAnswer Work := do
  checkSubscriber "GET" request
  return .showArray .groups

/-- `RESTAPI_groups_list_handler::DoPost` -/
def GroupsListHandler.doPost : Except HandlerAnswer Work := do
  checkSubscriber "POST" request
  let body ← readGroup "POST" request
  return .change (.createGroup body)

/-- `RESTAPI_groups_handler::DoGet` -/
def GroupsHandler.doGet : Except HandlerAnswer Work := do
  checkSubscriber "GET" request
  checkUUID "GET" request.groupId
  return .showObject (.group request.groupId)

/-- `RESTAPI_groups_handler::DoPut` -/
def GroupsHandler.doPut : Except HandlerAnswer Work := do
  checkAuth "PUT" request false
  checkUUID "PUT" request.groupId
  let body ← readGroup "PUT" request
  return .change (.updateGroup request.groupId body)

/-- `RESTAPI_groups_handler::DoDelete` -/
def GroupsHandler.doDelete : Except HandlerAnswer Work := do
  checkAuth "DELETE" request false
  checkUUID "DELETE" request.groupId
  return .change (.mutation (.deleteGroup request.groupId))

/-- `RESTAPI_group_devices_list_handler::DoGet` -/
def GroupDevicesListHandler.doGet : Except HandlerAnswer Work := do
  checkSubscriber "GET" request
  checkUUID "GET" request.groupId
  return .showArray (.groupDevices request.groupId)

/-- `RESTAPI_group_devices_list_handler::DoPost` -/
def GroupDevicesListHandler.doPost : Except HandlerAnswer Work := do
  checkAuth "POST" request true
  checkUUID "POST" request.groupId
  let parsedBody ← readBody "POST" request ["client_mac"]
  let clientMac ← readString "POST" parsedBody "client_mac" "client_mac is required and must be a string"
  let normalizedMac ← readMac "POST" clientMac "client_mac is not a valid MAC address"
  return .change (.mutation (.createGroupDevice request.groupId [("client_mac", .str normalizedMac)]))

/-- `RESTAPI_group_devices_list_v2_handler::DoPost` -/
def GroupDevicesListV2Handler.doPost : Except HandlerAnswer Work := do
  let macs ← GroupDevicesListV2.checkRequest
    ⟨request.subscriberId, request.operatorId, request.groupId, request.parsedBody⟩
  return .change (.mutation (.createGroupDevicesV2 request.groupId [("client_macs", .arr (macs.map .str))]))

/-- `RESTAPI_group_devices_handler::DoGet`; an empty address is no address either. -/
def GroupDevicesHandler.doGet : Except HandlerAnswer Work := do
  checkSubscriber "GET" request
  checkUUID "GET" request.groupId
  let normalizedMac ← readMac "GET" request.clientMac "client_mac is missing or invalid"
  return .showObject (.groupDevice request.groupId normalizedMac)

/-- `RESTAPI_group_devices_handler::DoDelete` -/
def GroupDevicesHandler.doDelete : Except HandlerAnswer Work := do
  checkAuth "DELETE" request true
  checkUUID "DELETE" request.groupId
  let normalizedMac ← readMac "DELETE" request.clientMac "client_mac is missing or invalid"
  return .change (.mutation (.deleteGroupDevice request.groupId normalizedMac))

/-- `RESTAPI_group_schedules_list_handler::DoGet` -/
def GroupSchedulesListHandler.doGet : Except HandlerAnswer Work := do
  checkSubscriber "GET" request
  checkUUID "GET" request.groupId
  return .showGroupSchedules request.groupId

/-- `RESTAPI_group_schedules_list_handler::DoPost` -/
def GroupSchedulesListHandler.doPost : Except HandlerAnswer Work := do
  checkAuth "POST" request true
  checkUUID "POST" request.groupId
  let parsedBody ← readGroupSchedule "POST" request
  return .change (.mutation (.createGroupSchedule request.groupId parsedBody))

/-- `RESTAPI_group_schedules_list_handler::DoPut` -/
def GroupSchedulesListHandler.doPut : Except HandlerAnswer Work := do
  checkAuth "PUT" request true
  checkUUID "PUT" request.groupId
  let parsedBody ← readGroupSchedules "PUT" request
  return .change (.mutation (.replaceGroupSchedules request.groupId parsedBody))

/-- `RESTAPI_group_schedules_handler::DoGet` -/
def GroupSchedulesHandler.doGet : Except HandlerAnswer Work := do
  checkSubscriber "GET" request
  checkUUID "GET" request.groupId
  checkUUID "GET" request.scheduleId
  return .showObject (.groupSchedule request.groupId request.scheduleId)

/-- `RESTAPI_group_schedules_handler::DoDelete` -/
def GroupSchedulesHandler.doDelete : Except HandlerAnswer Work := do
  checkAuth "DELETE" request true
  checkUUID "DELETE" request.groupId
  checkUUID "DELETE" request.scheduleId
  return .change (.mutation (.deleteGroupSchedule request.groupId request.scheduleId))

/-- `RESTAPI_schedules_list_handler::DoGet` -/
def SchedulesListHandler.doGet : Except HandlerAnswer Work := do
  checkSubscriber "GET" request
  return .showSchedules

/-- `RESTAPI_schedules_list_handler::DoPost` -/
def SchedulesListHandler.doPost : Except HandlerAnswer Work := do
  checkSubscriber "POST" request
  let req ← readSchedule "POST" request conv false
  return .createSchedule req

/-- `RESTAPI_schedules_handler::DoGet` -/
def SchedulesHandler.doGet : Except HandlerAnswer Work := do
  checkSubscriber "GET" request
  checkUUID "GET" request.scheduleId
  return .showSchedule request.scheduleId

/-- `RESTAPI_schedules_handler::DoPut` -/
def SchedulesHandler.doPut : Except HandlerAnswer Work := do
  checkAuth "PUT" request false
  checkUUID "PUT" request.scheduleId
  let req ← readSchedule "PUT" request conv true
  return .updateSchedule request.scheduleId req

/-- `RESTAPI_schedules_handler::DoDelete` -/
def SchedulesHandler.doDelete : Except HandlerAnswer Work := do
  checkAuth "DELETE" request false
  checkUUID "DELETE" request.scheduleId
  return .change (.mutation (.deleteSchedule request.scheduleId))

/-- `RESTAPI_schedule_groups_list_handler::DoGet` -/
def ScheduleGroupsListHandler.doGet : Except HandlerAnswer Work := do
  checkSubscriber "GET" request
  checkUUID "GET" request.scheduleId
  return .showArray (.scheduleGroups request.scheduleId)

end Handlers

/-- The handlers, by what they are asked to do. -/
inductive Handler where
  | listGroups
  | addGroup
  | readGroup
  | replaceGroup
  | removeGroup
  | listGroupDevices
  | addGroupDevice
  | addGroupDevices
  | readGroupDevice
  | removeGroupDevice
  | listGroupSchedules
  | addGroupSchedule
  | replaceGroupSchedules
  | readGroupSchedule
  | removeGroupSchedule
  | listSchedules
  | addSchedule
  | readSchedule
  | replaceSchedule
  | removeSchedule
  | listScheduleGroups
  deriving DecidableEq

namespace Handler

/-- The checks of a handler, and what it goes on to. -/
def check (conv : Conversions) : Handler → RulesRequest → Except HandlerAnswer Work
  | listGroups => GroupsListHandler.doGet
  | addGroup => GroupsListHandler.doPost
  | readGroup => GroupsHandler.doGet
  | replaceGroup => GroupsHandler.doPut
  | removeGroup => GroupsHandler.doDelete
  | listGroupDevices => GroupDevicesListHandler.doGet
  | addGroupDevice => GroupDevicesListHandler.doPost
  | addGroupDevices => GroupDevicesListV2Handler.doPost
  | readGroupDevice => GroupDevicesHandler.doGet
  | removeGroupDevice => GroupDevicesHandler.doDelete
  | listGroupSchedules => GroupSchedulesListHandler.doGet
  | addGroupSchedule => GroupSchedulesListHandler.doPost
  | replaceGroupSchedules => GroupSchedulesListHandler.doPut
  | readGroupSchedule => GroupSchedulesHandler.doGet
  | removeGroupSchedule => GroupSchedulesHandler.doDelete
  | listSchedules => SchedulesListHandler.doGet
  | addSchedule => SchedulesListHandler.doPost conv
  | readSchedule => SchedulesHandler.doGet
  | replaceSchedule => SchedulesHandler.doPut conv
  | removeSchedule => SchedulesHandler.doDelete
  | listScheduleGroups => ScheduleGroupsListHandler.doGet

/-- The handlers of `DoGet`. -/
def reads : Handler → Bool
  | listGroups | readGroup | listGroupDevices | readGroupDevice | listGroupSchedules | readGroupSchedule
  | listSchedules | readSchedule | listScheduleGroups => true
  | _ => false

end Handler

/-! ## Work -/

/-- The object of a call is returned, or its error is forwarded. -/
def answerObject (r : CallResult) : HandlerAnswer :=
  if r.success then HandlerAnswer.returnObject (r.response.getD [])
  else forwardParentalControlErrorResponse r.status r.response

/-- The array of a call is returned, or its error is forwarded. A call which succeeds has an array. -/
def answerArray (r : CallResult × Option (List Json)) : Sent :=
  if r.1.success then .rawJSON (r.2.getD [])
  else .answer (forwardParentalControlErrorResponse r.1.status r.1.response)

def ObjectQuery.call (subscriberId : String) : ObjectQuery → Portal CallResult
  | group groupId => ParentalControl.getGroup subscriberId groupId
  | groupDevice groupId clientMac => ParentalControl.getGroupDevice subscriberId groupId clientMac
  | groupSchedule groupId scheduleId => ParentalControl.getGroupSchedule subscriberId groupId scheduleId

def ArrayQuery.call (subscriberId : String) : ArrayQuery → Portal (CallResult × Option (List Json))
  | groups => ParentalControl.getGroups subscriberId
  | groupDevices groupId => ParentalControl.getGroupDevices subscriberId groupId
  | scheduleGroups scheduleId => ParentalControl.getScheduleGroups subscriberId scheduleId

section Work

variable (conv : Conversions) (locateZone : String → Option Zone)

/-- A schedule as it is shown, or an internal error. -/
def showNormalized (method timezone : String) (schedule : Json.Object) : Handling Json.Object := do
  let t ← Portal.clock
  match normalizeScheduleResponse conv locateZone t timezone schedule with
  | (true, schedule) => return schedule
  | (false, _) => throw (HandlerAnswer.internalError method Errors.internalError)

/-- The loop over the schedules of a list: all of them are shown, or none. -/
def showAllNormalized (method timezone : String) : List Json → Handling (List Json)
  | [] => return []
  | .obj schedule :: rest => do
    let shown ← showNormalized conv locateZone method timezone schedule
    let others ← showAllNormalized method timezone rest
    return .obj shown :: others
  | _ :: _ => throw (HandlerAnswer.internalError method Errors.internalError)

/-- A list of schedules is shown, in the time zone of the subscriber. -/
def showList (subscriberId : String) (call : Portal (CallResult × Option (List Json))) :
    Handling (List Sent) := do
  let timezone ← resolveSubscriberTimezone conv locateZone "GET" subscriberId
  let (r, arrayResponse) ← call
  if r.success = false then throw (forwardParentalControlErrorResponse r.status r.response)
  else
    let shown ← showAllNormalized conv locateZone "GET" timezone (arrayResponse.getD [])
    return [.rawJSON shown]

/-- The times of a schedule in UTC, or an internal error. -/
def toUtc (method timezone : String) (req : ParsedScheduleRequest) : Handling ParsedScheduleRequest := do
  let t ← Portal.clock
  match convertScheduleTimesToUtc conv locateZone t timezone req with
  | none => throw (HandlerAnswer.internalError method Errors.internalError)
  | some req => return req

/-- The object of a call is shown as a schedule, or its error is forwarded. -/
def showCall (method timezone : String) (call : Portal CallResult) : Handling (List Sent) := do
  let r ← call
  if r.success = false then throw (forwardParentalControlErrorResponse r.status r.response)
  else
    let shown ← showNormalized conv locateZone method timezone (r.response.getD [])
    return [.answer (HandlerAnswer.returnObject shown)]

/-- What is sent where steps have ended. -/
def sentFor : Except HandlerAnswer (List Sent) → List Sent
  | .ok sent => sent
  | .error answer => [.answer answer]

def sends (steps : Handling (List Sent)) : Portal (List Sent) := do
  let r ← steps.run
  return sentFor r

/-- What the handlers do after their checks. -/
def Work.run (bearerToken subscriberId operatorId : String) : Work → Portal (List Sent)
  | showObject query => do
    let r ← query.call subscriberId
    return [.answer (answerObject r)]
  | showArray query => do
    let r ← query.call subscriberId
    return [answerArray r]
  | showSchedule scheduleId => sends do
    let timezone ← resolveSubscriberTimezone conv locateZone "GET" subscriberId
    showCall conv locateZone "GET" timezone (ParentalControl.getSchedule subscriberId scheduleId)
  | showSchedules => sends (showList conv locateZone subscriberId (ParentalControl.getSchedules subscriberId))
  | showGroupSchedules groupId =>
    sends (showList conv locateZone subscriberId (ParentalControl.getGroupSchedules subscriberId groupId))
  | createSchedule req => sends do
    let timezone ← resolveSubscriberTimezone conv locateZone "POST" subscriberId
    let req ← toUtc conv locateZone "POST" timezone req
    showCall conv locateZone "POST" timezone
      (ParentalControl.createSchedule subscriberId (buildScheduleRequestBody req))
  | updateSchedule scheduleId req => sends do
    let timezone ← resolveSubscriberTimezone conv locateZone "PUT" subscriberId
    let req ← toUtc conv locateZone "PUT" timezone req
    let answers ← (Mutation.updateSchedule scheduleId (buildScheduleRequestBody req) timezone).handle conv
      locateZone bearerToken subscriberId operatorId
    return answers.map .answer
  | change endpoint => do
    let answers ← endpoint.handle conv locateZone bearerToken subscriberId operatorId
    return answers.map .answer

/-- A request is answered by its handler. -/
def Handler.run (bearerToken : String) (handler : Handler) (request : RulesRequest) : Portal (List Sent) :=
  match handler.check conv request with
  | .error answer => return [.answer answer]
  | .ok work => work.run conv locateZone bearerToken request.subscriberId request.operatorId

end Work

/-! ## Which requests pass -/

/-- The body has only fields with these names. -/
def Only (allowed : List String) (body : Json.Object) : Prop := ∀ name ∈ body.getNames, name ∈ allowed

/-- The body of a request describes a group, which is sent. -/
inductive IsGroup (parsedBody : Json.Object) : Json.Object → Prop where
  | undescribed {name : String} :
    Only ["name", "description"] parsedBody → parsedBody.get? "name" = some (.str name) → trim name ≠ "" →
    parsedBody.get? "description" = none →
    IsGroup parsedBody (Json.Object.set [] "name" (.str (trim name)))
  | cleared {name : String} :
    Only ["name", "description"] parsedBody → parsedBody.get? "name" = some (.str name) → trim name ≠ "" →
    parsedBody.get? "description" = some .null →
    IsGroup parsedBody ((Json.Object.set [] "name" (.str (trim name))).set "description" .null)
  | described {name description : String} :
    Only ["name", "description"] parsedBody → parsedBody.get? "name" = some (.str name) → trim name ≠ "" →
    parsedBody.get? "description" = some (.str description) →
    IsGroup parsedBody
      ((Json.Object.set [] "name" (.str (trim name))).set "description" (.str (trim description)))

/-- The body of a request holds a string, and nothing else. -/
def HoldsOnly (parsedBody : Json.Object) (field value : String) : Prop :=
  Only [field] parsedBody ∧ parsedBody.get? field = some (.str value)

/-- The body of a request holds the distinct schedules of a group, and nothing else. -/
def HoldsSchedules (parsedBody : Json.Object) (ids : List String) : Prop :=
  Only ["schedule_ids"] parsedBody ∧ parsedBody.get? "schedule_ids" = some (.arr (ids.map .str)) ∧
    (∀ id ∈ ids, validUUID id = true) ∧ ids.Nodup

/-- The request comes from a subscriber, who has an operator. -/
def RulesRequest.HasOperator (r : RulesRequest) : Prop := r.subscriberId ≠ "" ∧ r.operatorId ≠ ""

/-- A request passes the checks of a handler, which goes on to some work. -/
inductive Handler.Passes (conv : Conversions) (r : RulesRequest) : Handler → Work → Prop where
  | listGroups : r.subscriberId ≠ "" → Passes conv r .listGroups (.showArray .groups)
  | addGroup {o body : Json.Object} :
    r.subscriberId ≠ "" → r.parsedBody = some o → IsGroup o body →
    Passes conv r .addGroup (.change (.createGroup body))
  | readGroup :
    r.subscriberId ≠ "" → validUUID r.groupId = true →
    Passes conv r .readGroup (.showObject (.group r.groupId))
  | replaceGroup {o body : Json.Object} :
    r.subscriberId ≠ "" → validUUID r.groupId = true → r.parsedBody = some o → IsGroup o body →
    Passes conv r .replaceGroup (.change (.updateGroup r.groupId body))
  | removeGroup :
    r.subscriberId ≠ "" → validUUID r.groupId = true →
    Passes conv r .removeGroup (.change (.mutation (.deleteGroup r.groupId)))
  | listGroupDevices :
    r.subscriberId ≠ "" → validUUID r.groupId = true →
    Passes conv r .listGroupDevices (.showArray (.groupDevices r.groupId))
  | addGroupDevice {o : Json.Object} {mac normal : String} :
    r.HasOperator → validUUID r.groupId = true → r.parsedBody = some o → HoldsOnly o "client_mac" mac →
    normalizeMac mac = some normal →
    Passes conv r .addGroupDevice
      (.change (.mutation (.createGroupDevice r.groupId [("client_mac", .str (serialToMAC normal))])))
  | addGroupDevices {macs : List Json} :
    r.HasOperator → validUUID r.groupId = true → GroupDevicesListV2.IsBodyOf macs r.parsedBody →
    GroupDevicesListV2.Admitted macs →
    Passes conv r .addGroupDevices
      (.change (.mutation (.createGroupDevicesV2 r.groupId
        [("client_macs", .arr ((GroupDevicesListV2.canonicalMacs macs).map .str))])))
  | readGroupDevice {normal : String} :
    r.subscriberId ≠ "" → validUUID r.groupId = true → normalizeMac r.clientMac = some normal →
    Passes conv r .readGroupDevice (.showObject (.groupDevice r.groupId (serialToMAC normal)))
  | removeGroupDevice {normal : String} :
    r.HasOperator → validUUID r.groupId = true → normalizeMac r.clientMac = some normal →
    Passes conv r .removeGroupDevice
      (.change (.mutation (.deleteGroupDevice r.groupId (serialToMAC normal))))
  | listGroupSchedules :
    r.subscriberId ≠ "" → validUUID r.groupId = true →
    Passes conv r .listGroupSchedules (.showGroupSchedules r.groupId)
  | addGroupSchedule {o : Json.Object} {id : String} :
    r.HasOperator → validUUID r.groupId = true → r.parsedBody = some o → HoldsOnly o "schedule_id" id →
    validUUID id = true →
    Passes conv r .addGroupSchedule (.change (.mutation (.createGroupSchedule r.groupId o)))
  | replaceGroupSchedules {o : Json.Object} {ids : List String} :
    r.HasOperator → validUUID r.groupId = true → r.parsedBody = some o → HoldsSchedules o ids →
    Passes conv r .replaceGroupSchedules (.change (.mutation (.replaceGroupSchedules r.groupId o)))
  | readGroupSchedule :
    r.subscriberId ≠ "" → validUUID r.groupId = true → validUUID r.scheduleId = true →
    Passes conv r .readGroupSchedule (.showObject (.groupSchedule r.groupId r.scheduleId))
  | removeGroupSchedule :
    r.HasOperator → validUUID r.groupId = true → validUUID r.scheduleId = true →
    Passes conv r .removeGroupSchedule
      (.change (.mutation (.deleteGroupSchedule r.groupId r.scheduleId)))
  | listSchedules : r.subscriberId ≠ "" → Passes conv r .listSchedules .showSchedules
  | addSchedule {o : Json.Object} {req : ParsedScheduleRequest} :
    r.subscriberId ≠ "" → r.parsedBody = some o →
    ReadOff conv o false req →
    Passes conv r .addSchedule (.createSchedule req)
  | readSchedule :
    r.subscriberId ≠ "" → validUUID r.scheduleId = true →
    Passes conv r .readSchedule (.showSchedule r.scheduleId)
  | replaceSchedule {o : Json.Object} {req : ParsedScheduleRequest} :
    r.subscriberId ≠ "" → validUUID r.scheduleId = true → r.parsedBody = some o →
    ReadOff conv o true req →
    Passes conv r .replaceSchedule (.updateSchedule r.scheduleId req)
  | removeSchedule :
    r.subscriberId ≠ "" → validUUID r.scheduleId = true →
    Passes conv r .removeSchedule (.change (.mutation (.deleteSchedule r.scheduleId)))
  | listScheduleGroups :
    r.subscriberId ≠ "" → validUUID r.scheduleId = true →
    Passes conv r .listScheduleGroups (.showArray (.scheduleGroups r.scheduleId))

/-! ## Judgements -/

/-- What a check passes on; where it does not, it answers with a bad request or refuses the user. -/
structure Judges {α : Type} (check : Except HandlerAnswer α) (Passes : α → Prop) : Prop where
  passes : ∀ a, check = .ok a ↔ Passes a
  refused : ∀ answer, check = .error answer →
    answer.status = HTTPStatus.badRequest ∨ answer.status = HTTPStatus.forbidden

namespace Judges

variable {α β : Type} {P Q : α → Prop} {check : Except HandlerAnswer α}

/-- A check which passes this on. -/
lemma ok (a : α) : Judges (.ok a) fun b => b = a := by
  refine ⟨fun b => ⟨?_, ?_⟩, nofun⟩
  · intro eq
    cases eq
    rfl
  · intro eq
    rw [eq]

/-- A check which refuses with 400 or 403. -/
lemma error {answer : HandlerAnswer}
    (status : answer.status = HTTPStatus.badRequest ∨ answer.status = HTTPStatus.forbidden) :
    Judges (.error answer : Except HandlerAnswer α) fun _ => False := by
  refine ⟨fun _ => ⟨nofun, False.elim⟩, ?_⟩
  intro other eq
  cases eq
  exact status

/-- The same may be passed on in other words. -/
lemma congr (h : Judges check P) (same : ∀ a, P a ↔ Q a) : Judges check Q :=
  ⟨fun a => (h.passes a).trans (same a), h.refused⟩

/-- A check which is followed by another one. -/
lemma bind {f : α → Except HandlerAnswer β} {R : α → β → Prop} (h : Judges check P)
    (rest : ∀ a, P a → Judges (f a) (R a)) : Judges (check >>= f) fun b => ∃ a, P a ∧ R a b := by
  refine ⟨?_, ?_⟩
  · intro b
    rw [except_bind_eq_ok]
    refine ⟨?_, ?_⟩
    · intro both
      obtain ⟨a, first, second⟩ := both
      have passed := (h.passes a).mp first
      exact ⟨a, passed, ((rest a passed).passes b).mp second⟩
    · intro both
      obtain ⟨a, passed, second⟩ := both
      exact ⟨a, (h.passes a).mpr passed, ((rest a passed).passes b).mpr second⟩
  · intro answer stopped
    cases eq : check with
    | error first =>
      rw [eq] at stopped
      cases stopped
      exact h.refused _ eq
    | ok a =>
      rw [eq] at stopped
      exact (rest a ((h.passes a).mp eq)).refused answer stopped

/-- A check which depends on a condition. -/
lemma ite {c : Prop} [Decidable c] {x y : Except HandlerAnswer α} (hx : c → Judges x P)
    (hy : ¬ c → Judges y P) : Judges (if c then x else y) P := by
  by_cases h : c
  · rw [if_pos h]
    exact hx h
  · rw [if_neg h]
    exact hy h

/-- A check which refuses in one case only. -/
lemma guarded {c : Prop} [Decidable c] {x y : Except HandlerAnswer α} {R : Prop} (hx : Judges x fun _ => False)
    (hy : Judges y P) (same : R ↔ ¬ c) : Judges (if c then x else y) fun a => R ∧ P a := by
  refine Judges.ite (fun h => ?_) fun h => ?_
  · exact hx.congr fun a => ⟨False.elim, fun both => same.mp both.1 h⟩
  · exact hy.congr fun a => ⟨fun passed => ⟨same.mpr h, passed⟩, fun both => both.2⟩

end Judges

section Judgements

variable {method extra field : String} {request : RulesRequest} {parsedBody : Json.Object}
  {allowed : List String}

/-- A refusal passes nothing on. -/
lemma judges_refuse {α : Type} : Judges (refuse method extra : Except HandlerAnswer α) fun _ => False :=
  .error (.inl rfl)

/-- Nor does a bad request. -/
lemma judges_bad {α : Type} {e : ErrorMsg} :
    Judges (.error (HandlerAnswer.badRequest method e extra) : Except HandlerAnswer α) fun _ => False :=
  .error (.inl rfl)

/-- Nor does a refused user. -/
lemma judges_unAuthorized {α : Type} {e : ErrorMsg} :
    Judges (.error (HandlerAnswer.unAuthorized method e) : Except HandlerAnswer α) fun _ => False :=
  .error (.inr rfl)

/-- The subscriber is known. -/
lemma judges_subscriber : Judges (checkSubscriber method request) fun _ => request.subscriberId ≠ "" :=
  (judges_unAuthorized.guarded (.ok ()) Iff.rfl).congr fun _ => and_iff_left rfl

/-- The preconditions of a change are a subscriber and, where it is required, an operator. -/
lemma judges_auth {required : Bool} : Judges (checkAuth method request required) fun _ =>
    request.subscriberId ≠ "" ∧ (required = true → request.operatorId ≠ "") := by
  have operator : (required = true → request.operatorId ≠ "") ↔
      ¬ (required = true ∧ request.operatorId = "") := not_and.symm
  have judged : Judges (checkAuth method request required) _ :=
    judges_unAuthorized.guarded (judges_unAuthorized.guarded (.ok ()) operator) Iff.rfl
  exact judged.congr fun _ => and_congr_right fun _ => and_iff_left rfl

/-- A binding passes as a UUID. -/
lemma judges_uuid {uuid : String} : Judges (checkUUID method uuid) fun _ => validUUID uuid = true := by
  have known : validUUID uuid = true ↔ ¬ validUUID uuid = false := by
    rw [Bool.not_eq_false]
  have judged : Judges (checkUUID method uuid) _ :=
    judges_bad.guarded (judges_bad.guarded (.ok ()) known) (Iff.rfl : ¬ uuid = "" ↔ _)
  refine judged.congr fun _ => ?_
  refine ⟨fun both => both.2.1, fun valid => ⟨?_, valid, rfl⟩⟩
  intro empty
  rw [empty] at valid
  cases valid

/-- An address passes in its canonical spelling. -/
lemma judges_mac {mac : String} : Judges (readMac method mac extra) fun canonical =>
    ∃ normal, normalizeMac mac = some normal ∧ canonical = serialToMAC normal := by
  rw [readMac]
  cases normalizeMac mac with
  | none => exact judges_refuse.congr fun _ => ⟨False.elim, fun both => by obtain ⟨_, eq, _⟩ := both; cases eq⟩
  | some normal =>
    refine (Judges.ok (serialToMAC normal)).congr fun canonical => ?_
    exact ⟨fun eq => ⟨normal, rfl, eq⟩, fun both => by obtain ⟨_, eq, same⟩ := both; cases eq; exact same⟩

/-- A body passes which has the allowed fields only. -/
lemma judges_body : Judges (readBody method request allowed) fun o =>
    request.parsedBody = some o ∧ Only allowed o := by
  rw [readBody]
  cases request.parsedBody with
  | none => exact (Judges.error (.inl rfl)).congr fun _ => ⟨False.elim, fun both => nomatch both.1⟩
  | some parsedBody =>
    dsimp only
    cases unknown : parsedBody.getNames.find? fun name => name ∉ allowed with
    | some name =>
      refine judges_refuse.congr fun o => ⟨False.elim, fun both => ?_⟩
      obtain ⟨eq, only⟩ := both
      cases eq
      have other := List.find?_some unknown
      rw [decide_eq_true_eq] at other
      exact other (only name (List.mem_of_find?_eq_some unknown))
    | none =>
      have only : Only allowed parsedBody := by
        intro name mem
        have known := List.find?_eq_none.mp unknown name mem
        rwa [decide_eq_true_eq, not_not] at known
      refine (Judges.ok parsedBody).congr fun o => ⟨?_, ?_⟩
      · intro eq
        rw [eq]
        exact ⟨rfl, only⟩
      · intro both
        exact (Option.some.inj both.1).symm

/-- A string passes as it is. -/
lemma judges_string : Judges (readString method parsedBody field extra) fun s =>
    parsedBody.get? field = some (.str s) := by
  rw [readString]
  cases given : parsedBody.getString? field with
  | none =>
    refine judges_refuse.congr fun s => ⟨False.elim, fun eq => ?_⟩
    rw [Json.Object.getString?_eq_some.mpr eq] at given
    cases given
  | some s =>
    refine (Judges.ok s).congr fun s' => ?_
    rw [← Json.Object.getString?_eq_some, given, Option.some.injEq]
    exact eq_comm

/-- A name passes without its blanks, if something is left. -/
lemma judges_name : Judges (readName method parsedBody) fun name =>
    ∃ s, parsedBody.get? "name" = some (.str s) ∧ trim s ≠ "" ∧ name = trim s :=
  judges_string.bind fun s _ => judges_refuse.guarded (.ok (trim s)) Iff.rfl

/-- A description is a string, which is trimmed, or null, or absent. -/
lemma judges_description {body : Json.Object} : Judges (setDescription method parsedBody body) fun described =>
    (parsedBody.get? "description" = none ∧ described = body) ∨
      (parsedBody.get? "description" = some .null ∧ described = body.set "description" .null) ∨
      ∃ s, parsedBody.get? "description" = some (.str s) ∧
        described = body.set "description" (.str (trim s)) := by
  rw [setDescription]
  cases given : parsedBody.get? "description" with
  | none => exact (Judges.ok body).congr fun described => by simp
  | some v =>
    cases v with
    | null => exact (Judges.ok (body.set "description" .null)).congr fun described => by simp
    | str descVal =>
      exact (Judges.ok (body.set "description" (.str (trim descVal)))).congr fun described => by simp
    | bool b => exact judges_refuse.congr fun described => by simp
    | int n => exact judges_refuse.congr fun described => by simp
    | frac m e => exact judges_refuse.congr fun described => by simp
    | arr elements => exact judges_refuse.congr fun described => by simp
    | obj fields => exact judges_refuse.congr fun described => by simp

/-- The body of a group passes as what is sent for it. -/
lemma judges_group : Judges (readGroup method request) fun body =>
    ∃ o, request.parsedBody = some o ∧ IsGroup o body := by
  have judged : Judges (readGroup method request) _ :=
    judges_body.bind fun o _ => judges_name.bind fun name _ => judges_description
  refine judged.congr fun body => ⟨?_, ?_⟩
  · intro passed
    obtain ⟨o, ⟨parsed, only⟩, name, ⟨s, given, nonempty, rfl⟩, described⟩ := passed
    refine ⟨o, parsed, ?_⟩
    rcases described with ⟨absent, rfl⟩ | ⟨null, rfl⟩ | ⟨description, text, rfl⟩
    · exact .undescribed only given nonempty absent
    · exact .cleared only given nonempty null
    · exact .described only given nonempty text
  · intro passed
    obtain ⟨o, parsed, group⟩ := passed
    cases group with
    | undescribed only given nonempty absent =>
      exact ⟨o, ⟨parsed, only⟩, _, ⟨_, given, nonempty, rfl⟩, .inl ⟨absent, rfl⟩⟩
    | cleared only given nonempty null =>
      exact ⟨o, ⟨parsed, only⟩, _, ⟨_, given, nonempty, rfl⟩, .inr (.inl ⟨null, rfl⟩)⟩
    | described only given nonempty text =>
      exact ⟨o, ⟨parsed, only⟩, _, ⟨_, given, nonempty, rfl⟩, .inr (.inr ⟨_, text, rfl⟩)⟩

/-- The entries are distinct UUIDs, and none of them was met before. -/
lemma judges_scheduleIds {uniqueIds : List String} {entries : List Json} :
    Judges (checkScheduleIds method uniqueIds entries) fun _ => ∃ ids : List String,
      entries = ids.map .str ∧ (∀ id ∈ ids, validUUID id = true) ∧ ids.Nodup ∧ ∀ id ∈ ids, id ∉ uniqueIds := by
  induction entries generalizing uniqueIds with
  | nil =>
    refine (Judges.ok ()).congr fun _ => ⟨fun _ => ⟨[], rfl, nofun, List.nodup_nil, nofun⟩, fun _ => rfl⟩
  | cons entry entries ih =>
    have noString : (∀ id, entry ≠ .str id) → ∀ {P : List String → Prop},
        ¬ ∃ ids : List String, entry :: entries = ids.map .str ∧ P ids := by
      intro other P passed
      obtain ⟨ids, eq, _⟩ := passed
      obtain ⟨id, _, _, same, _⟩ := List.map_eq_cons_iff.mp eq.symm
      exact other id same.symm
    cases entry with
    | str id =>
      have known : validUUID id = true ↔ ¬ validUUID id = false := by
        rw [Bool.not_eq_false]
      have judged : Judges (checkScheduleIds method uniqueIds (.str id :: entries)) _ :=
        judges_refuse.guarded (judges_refuse.guarded ih (Iff.rfl : ¬ id ∈ uniqueIds ↔ _)) known
      refine judged.congr fun _ => ⟨?_, ?_⟩
      · intro passed
        obtain ⟨valid, fresh, ids, rfl, all, distinct, later⟩ := passed
        refine ⟨id :: ids, rfl, List.forall_mem_cons.mpr ⟨valid, all⟩, ?_, ?_⟩
        · exact List.nodup_cons.mpr ⟨fun mem => later id mem (List.mem_cons_self ..), distinct⟩
        · exact List.forall_mem_cons.mpr ⟨fresh, fun other mem old => later other mem (List.mem_cons_of_mem _ old)⟩
      · intro passed
        obtain ⟨ids, eq, all, distinct, fresh⟩ := passed
        obtain ⟨id', ids', rfl, same, rest⟩ := List.map_eq_cons_iff.mp eq.symm
        cases same
        obtain ⟨valid, all⟩ := List.forall_mem_cons.mp all
        obtain ⟨first, fresh⟩ := List.forall_mem_cons.mp fresh
        obtain ⟨once, distinct⟩ := List.nodup_cons.mp distinct
        refine ⟨valid, first, ids', rest.symm, all, distinct, fun other mem old => ?_⟩
        rcases List.mem_cons.mp old with rfl | old
        · exact once mem
        · exact fresh other mem old
    | null => exact judges_refuse.congr fun _ => ⟨False.elim, noString nofun⟩
    | bool b => exact judges_refuse.congr fun _ => ⟨False.elim, noString nofun⟩
    | int n => exact judges_refuse.congr fun _ => ⟨False.elim, noString nofun⟩
    | frac m e => exact judges_refuse.congr fun _ => ⟨False.elim, noString nofun⟩
    | arr elements => exact judges_refuse.congr fun _ => ⟨False.elim, noString nofun⟩
    | obj fields => exact judges_refuse.congr fun _ => ⟨False.elim, noString nofun⟩

/-- The schedule of a group passes as a UUID in the only field. -/
lemma judges_groupSchedule : Judges (readGroupSchedule method request) fun o =>
    request.parsedBody = some o ∧ ∃ id, HoldsOnly o "schedule_id" id ∧ validUUID id = true := by
  have judged : Judges (readGroupSchedule method request) _ :=
    judges_body.bind fun o _ => judges_string.bind fun id _ =>
      judges_refuse.guarded (.ok o) (Bool.not_eq_false (validUUID id)).symm.to_iff
  refine judged.congr fun o => ⟨?_, ?_⟩
  · intro passed
    obtain ⟨o', ⟨parsed, only⟩, id, given, valid, rfl⟩ := passed
    exact ⟨parsed, id, ⟨only, given⟩, valid⟩
  · intro passed
    obtain ⟨parsed, id, ⟨only, given⟩, valid⟩ := passed
    exact ⟨o, ⟨parsed, only⟩, id, given, valid, rfl⟩

/-- The schedules of a group pass as distinct UUIDs. -/
lemma judges_groupSchedules : Judges (readGroupSchedules method request) fun o =>
    request.parsedBody = some o ∧ ∃ ids, HoldsSchedules o ids := by
  have array : ∀ o : Json.Object, Judges (match o.getArray? "schedule_ids" with
      | none => refuse method "schedule_ids is required and must be an array"
      | some scheduleIdsArray => do
        checkScheduleIds method [] scheduleIdsArray
        return o : Except HandlerAnswer Json.Object) fun o' => o' = o ∧ ∃ ids : List String,
          o.get? "schedule_ids" = some (.arr (ids.map .str)) ∧ (∀ id ∈ ids, validUUID id = true) ∧ ids.Nodup := by
    intro o
    cases given : o.getArray? "schedule_ids" with
    | none =>
      refine judges_refuse.congr fun o' => ⟨False.elim, fun passed => ?_⟩
      obtain ⟨_, ids, eq, _⟩ := passed
      rw [Json.Object.getArray?_eq_some.mpr eq] at given
      cases given
    | some entries =>
      have given := Json.Object.getArray?_eq_some.mp given
      refine Judges.congr (judges_scheduleIds.bind fun _ _ => .ok o) fun o' => ⟨?_, ?_⟩
      · intro passed
        obtain ⟨_, ⟨ids, rfl, all, distinct, _⟩, same⟩ := passed
        exact ⟨same, ids, given, all, distinct⟩
      · intro passed
        obtain ⟨same, ids, eq, all, distinct⟩ := passed
        rw [given] at eq
        cases eq
        exact ⟨(), ⟨ids, rfl, all, distinct, fun _ _ => List.not_mem_nil⟩, same⟩
  have judged : Judges (readGroupSchedules method request) _ := judges_body.bind fun o _ => array o
  refine judged.congr fun o => ⟨?_, ?_⟩
  · intro passed
    obtain ⟨_, ⟨parsed, only⟩, rfl, ids, given, all, distinct⟩ := passed
    exact ⟨parsed, ids, only, given, all, distinct⟩
  · intro passed
    obtain ⟨parsed, ids, only, given, all, distinct⟩ := passed
    exact ⟨o, ⟨parsed, only⟩, rfl, ids, given, all, distinct⟩

/-- The schedule of a body passes as it is parsed and validated. -/
lemma judges_schedule {conv : Conversions} {required : Bool} :
    Judges (readSchedule method request conv required) fun req =>
      ∃ o, request.parsedBody = some o ∧ ReadOff conv o required req := by
  rw [readSchedule]
  cases request.parsedBody with
  | none => exact judges_bad.congr fun _ => ⟨False.elim, fun passed => by obtain ⟨_, eq, _⟩ := passed; cases eq⟩
  | some o =>
    dsimp only
    cases parsed : parseAndValidateScheduleRequest conv o required with
    | error extra =>
      refine judges_refuse.congr fun req => ⟨False.elim, fun passed => ?_⟩
      obtain ⟨_, same, off⟩ := passed
      cases same
      rw [parseAndValidateScheduleRequest_ok_iff.mpr off] at parsed
      cases parsed
    | ok req =>
      refine (Judges.ok req).congr fun req' => ⟨?_, ?_⟩
      · intro same
        rw [same]
        exact ⟨o, rfl, parseAndValidateScheduleRequest_ok_iff.mp parsed⟩
      · intro passed
        obtain ⟨_, same, off⟩ := passed
        cases same
        rw [parseAndValidateScheduleRequest_ok_iff.mpr off] at parsed
        cases parsed
        rfl

/-- A check which answers only with bad requests. -/
lemma Judges.of_bad {α : Type} {check : Except HandlerAnswer α}
    (bad : ∀ answer, check = .error answer → answer.status = HTTPStatus.badRequest) :
    Judges check fun a => check = .ok a :=
  ⟨fun _ => Iff.rfl, fun answer eq => .inl (bad answer eq)⟩

/-- A body without a list of addresses is a bad request. -/
lemma readMacs_bad {body : Option Json.Object} {answer : HandlerAnswer}
    (h : GroupDevicesListV2.readMacs body = .error answer) : answer.status = HTTPStatus.badRequest := by
  unfold GroupDevicesListV2.readMacs GroupDevicesListV2.refuse at h
  split at h
  case h_1 =>
    cases h
    rfl
  case h_2 =>
    split at h
    case h_1 =>
      cases h
      rfl
    case h_2 =>
      split at h
      case h_1 =>
        split at h
        case isTrue =>
          cases h
          rfl
        case isFalse =>
          split at h
          case isTrue =>
            cases h
            rfl
          case isFalse => cases h
      case h_2 =>
        cases h
        rfl

/-- An entry which is no new address is a bad request. -/
lemma sanitizeMac_bad {st : GroupDevicesListV2.Sanitized} {e : Json} {answer : HandlerAnswer}
    (h : GroupDevicesListV2.sanitizeMac st e = .error answer) : answer.status = HTTPStatus.badRequest := by
  unfold GroupDevicesListV2.sanitizeMac GroupDevicesListV2.refuse at h
  split at h
  case h_1 =>
    split at h
    case h_1 =>
      cases h
      rfl
    case h_2 =>
      dsimp only at h
      split at h
      case isTrue => cases h
      case isFalse => cases h
  case h_2 =>
    cases h
    rfl

/-- So is a list with such an entry. -/
lemma sanitizeMacs_bad {st : GroupDevicesListV2.Sanitized} {macs : List Json} {answer : HandlerAnswer}
    (h : macs.foldlM GroupDevicesListV2.sanitizeMac st = .error answer) :
    answer.status = HTTPStatus.badRequest := by
  induction macs generalizing st with
  | nil => cases h
  | cons e macs ih =>
    rw [List.foldlM_cons] at h
    cases one : GroupDevicesListV2.sanitizeMac st e with
    | error other =>
      rw [one] at h
      cases h
      exact sanitizeMac_bad one
    | ok next =>
      rw [one] at h
      exact ih h

/-- The addresses of a body pass in their canonical spelling. -/
lemma judges_addresses : Judges (GroupDevicesListV2.checkRequest
      ⟨request.subscriberId, request.operatorId, request.groupId, request.parsedBody⟩) fun sent =>
    ∃ macs, request.HasOperator ∧ validUUID request.groupId = true ∧
      GroupDevicesListV2.IsBodyOf macs request.parsedBody ∧ GroupDevicesListV2.Admitted macs ∧
      sent = GroupDevicesListV2.canonicalMacs macs := by
  have auth : Judges (validateAuthPreconditions "POST" request.subscriberId request.operatorId true) _ :=
    (judges_auth : Judges (checkAuth "POST" request true) _)
  have group : Judges (GroupDevicesListV2.checkGroupId request.groupId) _ :=
    (judges_uuid : Judges (checkUUID "POST" request.groupId) _)
  have judged : Judges (GroupDevicesListV2.checkRequest
      ⟨request.subscriberId, request.operatorId, request.groupId, request.parsedBody⟩) _ :=
    auth.bind fun _ _ => group.bind fun _ _ => (Judges.of_bad fun _ => readMacs_bad).bind fun _ _ =>
      (Judges.of_bad fun _ => sanitizeMacs_bad).bind fun st _ => .ok st.downstreamMacs
  refine ⟨fun sent => ?_, judged.refused⟩
  rw [GroupDevicesListV2.checkRequest_eq_ok]
  refine ⟨?_, ?_⟩
  · intro passed
    obtain ⟨macs, brings, admitted, same⟩ := passed
    exact ⟨macs, ⟨brings.subscriber, brings.operator⟩, brings.group, brings.body, admitted, same⟩
  · intro passed
    obtain ⟨macs, operator, group, body, admitted, same⟩ := passed
    exact ⟨macs, ⟨operator.1, operator.2, group, body⟩, admitted, same⟩

end Judgements

/-! ## The checks of the handlers -/

section Judged

variable {conv : Conversions} {request : RulesRequest}

/-- A handler passes on exactly the work which its request is to get. -/
lemma Handler.judges (handler : Handler) :
    Judges (handler.check conv request) (handler.Passes conv request) := by
  have owner : request.subscriberId ≠ "" ∧ (true = true → request.operatorId ≠ "") ↔ request.HasOperator :=
    and_congr_right fun _ => ⟨fun h => h rfl, fun h _ => h⟩
  cases handler with
  | listGroups =>
    have judged : Judges (GroupsListHandler.doGet request) _ := judges_subscriber.bind fun _ _ => .ok _
    refine judged.congr fun work => ⟨?_, ?_⟩
    · intro passed
      obtain ⟨_, subscriber, rfl⟩ := passed
      exact .listGroups subscriber
    · intro passed
      cases passed with
      | listGroups subscriber => exact ⟨(), subscriber, rfl⟩
  | addGroup =>
    have judged : Judges (GroupsListHandler.doPost request) _ :=
      judges_subscriber.bind fun _ _ => judges_group.bind fun _ _ => .ok _
    refine judged.congr fun work => ⟨?_, ?_⟩
    · intro passed
      obtain ⟨_, subscriber, body, ⟨o, parsed, group⟩, rfl⟩ := passed
      exact .addGroup subscriber parsed group
    · intro passed
      cases passed with
      | addGroup subscriber parsed group => exact ⟨(), subscriber, _, ⟨_, parsed, group⟩, rfl⟩
  | readGroup =>
    have judged : Judges (GroupsHandler.doGet request) _ :=
      judges_subscriber.bind fun _ _ => judges_uuid.bind fun _ _ => .ok _
    refine judged.congr fun work => ⟨?_, ?_⟩
    · intro passed
      obtain ⟨_, subscriber, _, valid, rfl⟩ := passed
      exact .readGroup subscriber valid
    · intro passed
      cases passed with
      | readGroup subscriber valid => exact ⟨(), subscriber, (), valid, rfl⟩
  | replaceGroup =>
    have judged : Judges (GroupsHandler.doPut request) _ :=
      judges_auth.bind fun _ _ => judges_uuid.bind fun _ _ => judges_group.bind fun _ _ => .ok _
    refine judged.congr fun work => ⟨?_, ?_⟩
    · intro passed
      obtain ⟨_, ⟨subscriber, _⟩, _, valid, body, ⟨o, parsed, group⟩, rfl⟩ := passed
      exact .replaceGroup subscriber valid parsed group
    · intro passed
      cases passed with
      | replaceGroup subscriber valid parsed group =>
        exact ⟨(), ⟨subscriber, nofun⟩, (), valid, _, ⟨_, parsed, group⟩, rfl⟩
  | removeGroup =>
    have judged : Judges (GroupsHandler.doDelete request) _ :=
      judges_auth.bind fun _ _ => judges_uuid.bind fun _ _ => .ok _
    refine judged.congr fun work => ⟨?_, ?_⟩
    · intro passed
      obtain ⟨_, ⟨subscriber, _⟩, _, valid, rfl⟩ := passed
      exact .removeGroup subscriber valid
    · intro passed
      cases passed with
      | removeGroup subscriber valid => exact ⟨(), ⟨subscriber, nofun⟩, (), valid, rfl⟩
  | listGroupDevices =>
    have judged : Judges (GroupDevicesListHandler.doGet request) _ :=
      judges_subscriber.bind fun _ _ => judges_uuid.bind fun _ _ => .ok _
    refine judged.congr fun work => ⟨?_, ?_⟩
    · intro passed
      obtain ⟨_, subscriber, _, valid, rfl⟩ := passed
      exact .listGroupDevices subscriber valid
    · intro passed
      cases passed with
      | listGroupDevices subscriber valid => exact ⟨(), subscriber, (), valid, rfl⟩
  | addGroupDevice =>
    have judged : Judges (GroupDevicesListHandler.doPost request) _ :=
      judges_auth.bind fun _ _ => judges_uuid.bind fun _ _ => judges_body.bind fun _ _ =>
        judges_string.bind fun _ _ => judges_mac.bind fun _ _ => .ok _
    refine judged.congr fun work => ⟨?_, ?_⟩
    · intro passed
      obtain ⟨_, auth, _, valid, o, ⟨parsed, only⟩, mac, given, _, ⟨normal, spells, rfl⟩, rfl⟩ := passed
      exact .addGroupDevice (owner.mp auth) valid parsed ⟨only, given⟩ spells
    · intro passed
      cases passed with
      | addGroupDevice auth valid parsed holds spells =>
        exact ⟨(), owner.mpr auth, (), valid, _, ⟨parsed, holds.1⟩, _, holds.2, _, ⟨_, spells, rfl⟩, rfl⟩
  | addGroupDevices =>
    have judged : Judges (GroupDevicesListV2Handler.doPost request) _ :=
      judges_addresses.bind fun _ _ => .ok _
    refine judged.congr fun work => ⟨?_, ?_⟩
    · intro passed
      obtain ⟨_, ⟨macs, auth, valid, body, admitted, rfl⟩, rfl⟩ := passed
      exact .addGroupDevices auth valid body admitted
    · intro passed
      cases passed with
      | addGroupDevices auth valid body admitted => exact ⟨_, ⟨_, auth, valid, body, admitted, rfl⟩, rfl⟩
  | readGroupDevice =>
    have judged : Judges (GroupDevicesHandler.doGet request) _ :=
      judges_subscriber.bind fun _ _ => judges_uuid.bind fun _ _ => judges_mac.bind fun _ _ => .ok _
    refine judged.congr fun work => ⟨?_, ?_⟩
    · intro passed
      obtain ⟨_, subscriber, _, valid, _, ⟨normal, spells, rfl⟩, rfl⟩ := passed
      exact .readGroupDevice subscriber valid spells
    · intro passed
      cases passed with
      | readGroupDevice subscriber valid spells =>
        exact ⟨(), subscriber, (), valid, _, ⟨_, spells, rfl⟩, rfl⟩
  | removeGroupDevice =>
    have judged : Judges (GroupDevicesHandler.doDelete request) _ :=
      judges_auth.bind fun _ _ => judges_uuid.bind fun _ _ => judges_mac.bind fun _ _ => .ok _
    refine judged.congr fun work => ⟨?_, ?_⟩
    · intro passed
      obtain ⟨_, auth, _, valid, _, ⟨normal, spells, rfl⟩, rfl⟩ := passed
      exact .removeGroupDevice (owner.mp auth) valid spells
    · intro passed
      cases passed with
      | removeGroupDevice auth valid spells =>
        exact ⟨(), owner.mpr auth, (), valid, _, ⟨_, spells, rfl⟩, rfl⟩
  | listGroupSchedules =>
    have judged : Judges (GroupSchedulesListHandler.doGet request) _ :=
      judges_subscriber.bind fun _ _ => judges_uuid.bind fun _ _ => .ok _
    refine judged.congr fun work => ⟨?_, ?_⟩
    · intro passed
      obtain ⟨_, subscriber, _, valid, rfl⟩ := passed
      exact .listGroupSchedules subscriber valid
    · intro passed
      cases passed with
      | listGroupSchedules subscriber valid => exact ⟨(), subscriber, (), valid, rfl⟩
  | addGroupSchedule =>
    have judged : Judges (GroupSchedulesListHandler.doPost request) _ :=
      judges_auth.bind fun _ _ => judges_uuid.bind fun _ _ => judges_groupSchedule.bind fun _ _ => .ok _
    refine judged.congr fun work => ⟨?_, ?_⟩
    · intro passed
      obtain ⟨_, auth, _, valid, o, ⟨parsed, id, holds, known⟩, rfl⟩ := passed
      exact .addGroupSchedule (owner.mp auth) valid parsed holds known
    · intro passed
      cases passed with
      | addGroupSchedule auth valid parsed holds known =>
        exact ⟨(), owner.mpr auth, (), valid, _, ⟨parsed, _, holds, known⟩, rfl⟩
  | replaceGroupSchedules =>
    have judged : Judges (GroupSchedulesListHandler.doPut request) _ :=
      judges_auth.bind fun _ _ => judges_uuid.bind fun _ _ => judges_groupSchedules.bind fun _ _ => .ok _
    refine judged.congr fun work => ⟨?_, ?_⟩
    · intro passed
      obtain ⟨_, auth, _, valid, o, ⟨parsed, ids, holds⟩, rfl⟩ := passed
      exact .replaceGroupSchedules (owner.mp auth) valid parsed holds
    · intro passed
      cases passed with
      | replaceGroupSchedules auth valid parsed holds =>
        exact ⟨(), owner.mpr auth, (), valid, _, ⟨parsed, _, holds⟩, rfl⟩
  | readGroupSchedule =>
    have judged : Judges (GroupSchedulesHandler.doGet request) _ :=
      judges_subscriber.bind fun _ _ => judges_uuid.bind fun _ _ => judges_uuid.bind fun _ _ => .ok _
    refine judged.congr fun work => ⟨?_, ?_⟩
    · intro passed
      obtain ⟨_, subscriber, _, valid, _, valid', rfl⟩ := passed
      exact .readGroupSchedule subscriber valid valid'
    · intro passed
      cases passed with
      | readGroupSchedule subscriber valid valid' => exact ⟨(), subscriber, (), valid, (), valid', rfl⟩
  | removeGroupSchedule =>
    have judged : Judges (GroupSchedulesHandler.doDelete request) _ :=
      judges_auth.bind fun _ _ => judges_uuid.bind fun _ _ => judges_uuid.bind fun _ _ => .ok _
    refine judged.congr fun work => ⟨?_, ?_⟩
    · intro passed
      obtain ⟨_, auth, _, valid, _, valid', rfl⟩ := passed
      exact .removeGroupSchedule (owner.mp auth) valid valid'
    · intro passed
      cases passed with
      | removeGroupSchedule auth valid valid' => exact ⟨(), owner.mpr auth, (), valid, (), valid', rfl⟩
  | listSchedules =>
    have judged : Judges (SchedulesListHandler.doGet request) _ := judges_subscriber.bind fun _ _ => .ok _
    refine judged.congr fun work => ⟨?_, ?_⟩
    · intro passed
      obtain ⟨_, subscriber, rfl⟩ := passed
      exact .listSchedules subscriber
    · intro passed
      cases passed with
      | listSchedules subscriber => exact ⟨(), subscriber, rfl⟩
  | addSchedule =>
    have judged : Judges (SchedulesListHandler.doPost conv request) _ :=
      judges_subscriber.bind fun _ _ => judges_schedule.bind fun _ _ => .ok _
    refine judged.congr fun work => ⟨?_, ?_⟩
    · intro passed
      obtain ⟨_, subscriber, req, ⟨o, parsed, off⟩, rfl⟩ := passed
      exact .addSchedule subscriber parsed off
    · intro passed
      cases passed with
      | addSchedule subscriber parsed off => exact ⟨(), subscriber, _, ⟨_, parsed, off⟩, rfl⟩
  | readSchedule =>
    have judged : Judges (SchedulesHandler.doGet request) _ :=
      judges_subscriber.bind fun _ _ => judges_uuid.bind fun _ _ => .ok _
    refine judged.congr fun work => ⟨?_, ?_⟩
    · intro passed
      obtain ⟨_, subscriber, _, valid, rfl⟩ := passed
      exact .readSchedule subscriber valid
    · intro passed
      cases passed with
      | readSchedule subscriber valid => exact ⟨(), subscriber, (), valid, rfl⟩
  | replaceSchedule =>
    have judged : Judges (SchedulesHandler.doPut conv request) _ :=
      judges_auth.bind fun _ _ => judges_uuid.bind fun _ _ => judges_schedule.bind fun _ _ => .ok _
    refine judged.congr fun work => ⟨?_, ?_⟩
    · intro passed
      obtain ⟨_, ⟨subscriber, _⟩, _, valid, req, ⟨o, parsed, off⟩, rfl⟩ := passed
      exact .replaceSchedule subscriber valid parsed off
    · intro passed
      cases passed with
      | replaceSchedule subscriber valid parsed off =>
        exact ⟨(), ⟨subscriber, nofun⟩, (), valid, _, ⟨_, parsed, off⟩, rfl⟩
  | removeSchedule =>
    have judged : Judges (SchedulesHandler.doDelete request) _ :=
      judges_auth.bind fun _ _ => judges_uuid.bind fun _ _ => .ok _
    refine judged.congr fun work => ⟨?_, ?_⟩
    · intro passed
      obtain ⟨_, ⟨subscriber, _⟩, _, valid, rfl⟩ := passed
      exact .removeSchedule subscriber valid
    · intro passed
      cases passed with
      | removeSchedule subscriber valid => exact ⟨(), ⟨subscriber, nofun⟩, (), valid, rfl⟩
  | listScheduleGroups =>
    have judged : Judges (ScheduleGroupsListHandler.doGet request) _ :=
      judges_subscriber.bind fun _ _ => judges_uuid.bind fun _ _ => .ok _
    refine judged.congr fun work => ⟨?_, ?_⟩
    · intro passed
      obtain ⟨_, subscriber, _, valid, rfl⟩ := passed
      exact .listScheduleGroups subscriber valid
    · intro passed
      cases passed with
      | listScheduleGroups subscriber valid => exact ⟨(), subscriber, (), valid, rfl⟩

end Judged

/-! ## What is asked first -/

section Run

variable {conv : Conversions} {locateZone : String → Option Zone}
  {bearerToken subscriberId operatorId : String} {tr : List Portal.Event} {sent : List Sent}

/-- A call is made: to the parental-control service, or for the venues of the subscriber. -/
def Begins (subscriberId : String) (tr : List Portal.Event) : Prop :=
  ∃ c answer rest, tr = ⟨.call c, answer⟩ :: rest ∧
    (c.service = uSERVICE_MANGO_PARENTAL_CONTROL ∨ c = Prov.getVenuesCall subscriberId)

/-- What comes later does not matter. -/
lemma Begins.append {tr1 tr2 : List Portal.Event} (begins : Begins subscriberId tr1) :
    Begins subscriberId (tr1 ++ tr2) := by
  obtain ⟨c, answer, rest, rfl, whom⟩ := begins
  exact ⟨c, answer, rest ++ tr2, rfl, whom⟩

/-- A call of the service is the first one. -/
lemma begins_serviceCall {verb : Verb} {endpoint : String} {body : Json.Object} {timeoutMs : Nat}
    {answer : Option Reply} :
    Begins subscriberId [⟨.call (ParentalControl.serviceCall verb endpoint body timeoutMs), answer⟩] :=
  ⟨_, answer, [], rfl, .inl rfl⟩

/-- A time zone is resolved by asking for the venues first. -/
lemma Resolves.begins {found : Option Prov.Location} (resolves : Resolves conv subscriberId tr found) :
    Begins subscriberId tr := by
  cases resolves with
  | noVenue listing => exact ⟨_, listing, [], rfl, .inr rfl⟩
  | asked listed placed => exact ⟨_, _, _, rfl, .inr rfl⟩

/-- What is sent is what the steps have returned or failed with. -/
lemma trace_sends {steps : Handling (List Sent)} (h : Trace (sends steps) tr sent) :
    ∃ r, Trace steps.run tr r ∧ sent = sentFor r := by
  obtain ⟨tr1, tr2, r, rfl, h1, h2⟩ := trace_bind.mp h
  obtain ⟨rfl, rfl⟩ := trace_pure.mp h2
  rw [List.append_nil]
  exact ⟨r, h1, rfl⟩

/-- Steps which resolve the time zone first begin with that. -/
lemma begins_resolving {method : String} {f : String → Handling (List Sent)} {r : Except HandlerAnswer (List Sent)}
    (h : Trace (resolveSubscriberTimezone conv locateZone method subscriberId >>= f).run tr r) :
    Begins subscriberId tr := by
  rcases trace_attempt_bind.mp h with ⟨_, _, h1⟩ | ⟨tr1, tr2, timezone, rfl, h1, _⟩
  · obtain ⟨found, resolves, _⟩ := resolveSubscriberTimezone_inv h1
    exact resolves.begins
  · obtain ⟨found, resolves, _⟩ := resolveSubscriberTimezone_inv h1
    exact resolves.begins.append

/-- A change begins with its call. -/
lemma Endpoint.begins {endpoint : Endpoint} {answers : List HandlerAnswer}
    (h : Trace (endpoint.handle conv locateZone bearerToken subscriberId operatorId) tr answers) :
    Begins subscriberId tr := by
  cases endpoint with
  | createGroup body =>
    obtain ⟨tr1, tr2, r, rfl, h1, _⟩ := trace_bind.mp h
    obtain ⟨answer, rfl, _⟩ := ParentalControl.executePostObject_inv h1
    exact begins_serviceCall.append
  | updateGroup groupId body =>
    obtain ⟨tr1, tr2, r, rfl, h1, _⟩ := trace_bind.mp h
    obtain ⟨answer, rfl, _⟩ := ParentalControl.executePutObject_inv h1
    exact begins_serviceCall.append
  | createSchedule body timezone =>
    obtain ⟨tr1, tr2, r, rfl, h1, _⟩ := trace_bind.mp h
    obtain ⟨answer, rfl, _⟩ := ParentalControl.executePostObject_inv h1
    exact begins_serviceCall.append
  | mutation m =>
    obtain ⟨tr1, tr2, r, rfl, h1, _⟩ := trace_bind.mp h
    obtain ⟨e, rfl, call⟩ := Mutation.call_inv h1
    obtain ⟨c, answer, rfl, service⟩ := call.event
    exact ⟨c, answer, tr2, rfl, .inl service⟩

/-- Whatever a handler goes on to, it asks another service. -/
lemma Work.begins {work : Work}
    (h : Trace (work.run conv locateZone bearerToken subscriberId operatorId) tr sent) :
    Begins subscriberId tr := by
  cases work with
  | showObject query =>
    obtain ⟨tr1, tr2, r, rfl, h1, _⟩ := trace_bind.mp h
    cases query with
    | group groupId =>
      obtain ⟨answer, rfl, _⟩ := ParentalControl.executeGetObject_inv h1
      exact begins_serviceCall.append
    | groupDevice groupId clientMac =>
      obtain ⟨answer, rfl, _⟩ := ParentalControl.executeGetObject_inv h1
      exact begins_serviceCall.append
    | groupSchedule groupId scheduleId =>
      obtain ⟨answer, rfl, _⟩ := ParentalControl.executeGetObject_inv h1
      exact begins_serviceCall.append
  | showArray query =>
    obtain ⟨tr1, tr2, r, rfl, h1, _⟩ := trace_bind.mp h
    cases query with
    | groups =>
      obtain ⟨answer, rfl, _⟩ := ParentalControl.executeGetArray_inv h1
      exact begins_serviceCall.append
    | groupDevices groupId =>
      obtain ⟨answer, rfl, _⟩ := ParentalControl.executeGetArray_inv h1
      exact begins_serviceCall.append
    | scheduleGroups scheduleId =>
      obtain ⟨answer, rfl, _⟩ := ParentalControl.executeGetArray_inv h1
      exact begins_serviceCall.append
  | showSchedule scheduleId =>
    obtain ⟨r, h1, _⟩ := trace_sends h
    exact begins_resolving h1
  | showSchedules =>
    obtain ⟨r, h1, _⟩ := trace_sends h
    exact begins_resolving h1
  | showGroupSchedules groupId =>
    obtain ⟨r, h1, _⟩ := trace_sends h
    exact begins_resolving h1
  | createSchedule req =>
    obtain ⟨r, h1, _⟩ := trace_sends h
    exact begins_resolving h1
  | updateSchedule scheduleId req =>
    obtain ⟨r, h1, _⟩ := trace_sends h
    exact begins_resolving h1
  | change endpoint =>
    obtain ⟨tr1, tr2, answers, rfl, h1, _⟩ := trace_bind.mp h
    exact (Endpoint.begins h1).append

end Run

end UserPortal.RestApi.ParentalControl
