import UserPortal.Framework.MicroServiceNames
import UserPortal.Sdk.CallResult

/-!
# The parental-control service

Port of `src/sdks/SDK_parental_control.cpp`. A list is read with success when it is answered 200 with an
array; anything else is read, created or replaced with success when the answer is 200 with an object. A
deletion which has to be answered with the new rules succeeds when there is a `config-raw`; the others
also succeed when the body is empty.
-/

namespace UserPortal.Sdk.ParentalControl
open Interaction Program

/-- `ExecuteGetArray` -/
def executeGetArray (endpoint : String) : Portal (CallResult × Option (List Json)) := do
  let (callStatus, arrayResponse, objectResponse) ←
    OpenAPIRequest.getArray uSERVICE_MANGO_PARENTAL_CONTROL endpoint [] 60000 "" none none
  return ({
    success := callStatus = HTTPStatus.ok && arrayResponse.isSome
    status := callStatus
    response := objectResponse }, arrayResponse)

/-- `ExecuteGetObject` -/
def executeGetObject (endpoint : String) : Portal CallResult := do
  let (callStatus, callResponse) ←
    OpenAPIRequest.get uSERVICE_MANGO_PARENTAL_CONTROL endpoint [] 60000 "" none
  return {
    success := callStatus = HTTPStatus.ok && callResponse.isSome
    status := callStatus
    response := callResponse }

/-- `ExecutePostObject` -/
def executePostObject (endpoint : String) (body : Json.Object) (timeoutMs : Nat) :
    Portal CallResult := do
  let (callStatus, callResponse) ←
    OpenAPIRequest.post uSERVICE_MANGO_PARENTAL_CONTROL endpoint [] body timeoutMs "" none
  return {
    success := callStatus = HTTPStatus.ok && callResponse.isSome
    status := callStatus
    response := callResponse }

/-- `ExecutePutObject` -/
def executePutObject (endpoint : String) (body : Json.Object) (timeoutMs : Nat) :
    Portal CallResult := do
  let (callStatus, callResponse) ←
    OpenAPIRequest.put uSERVICE_MANGO_PARENTAL_CONTROL endpoint [] body timeoutMs "" none
  return {
    success := callStatus = HTTPStatus.ok && callResponse.isSome
    status := callStatus
    response := callResponse }

/-- `ExecuteDelete`, with the condition on the raw body and the response which its callers add. -/
def executeDelete (endpoint : String) (timeoutMs : Nat)
    (accept : Bool → Option Json.Object → Bool) : Portal CallResult := do
  let (callStatus, callResponse, rawIsEmpty) ←
    OpenAPIRequest.delete uSERVICE_MANGO_PARENTAL_CONTROL endpoint [] timeoutMs "" none
  return {
    success := callStatus = HTTPStatus.ok && accept rawIsEmpty callResponse
    status := callStatus
    response := callResponse }

/-- The body is empty or an object. -/
def emptyOrObject (rawIsEmpty : Bool) (response : Option Json.Object) : Bool :=
  rawIsEmpty || response.isSome

/-- The response has a `config-raw`. -/
def hasConfigRaw (response : Option Json.Object) : Bool :=
  match response with
  | some o => o.has "config-raw"
  | none => false

/-- The body is an object with a `config-raw`. -/
def objectWithConfigRaw (rawIsEmpty : Bool) (response : Option Json.Object) : Bool :=
  !rawIsEmpty && hasConfigRaw response

/-! ## Groups -/

/-- `GetGroups` -/
def getGroups (subscriberId : String) : Portal (CallResult × Option (List Json)) :=
  executeGetArray ("/api/v1/subscribers/" ++ subscriberId ++ "/groups")

/-- `CreateGroup` -/
def createGroup (subscriberId : String) (body : Json.Object) : Portal CallResult :=
  executePostObject ("/api/v1/subscribers/" ++ subscriberId ++ "/groups") body 60000

/-- `GetGroup` -/
def getGroup (subscriberId groupId : String) : Portal CallResult :=
  executeGetObject ("/api/v1/subscribers/" ++ subscriberId ++ "/groups/" ++ groupId)

/-- `UpdateGroup` -/
def updateGroup (subscriberId groupId : String) (body : Json.Object) : Portal CallResult :=
  executePutObject ("/api/v1/subscribers/" ++ subscriberId ++ "/groups/" ++ groupId) body 60000

/-- `DeleteGroup` -/
def deleteGroup (subscriberId groupId : String) : Portal CallResult :=
  executeDelete ("/api/v1/subscribers/" ++ subscriberId ++ "/groups/" ++ groupId) 60000 emptyOrObject

/-! ## Schedules -/

/-- `GetSchedules` -/
def getSchedules (subscriberId : String) : Portal (CallResult × Option (List Json)) :=
  executeGetArray ("/api/v1/subscribers/" ++ subscriberId ++ "/schedules")

/-- `CreateSchedule` -/
def createSchedule (subscriberId : String) (body : Json.Object) : Portal CallResult :=
  executePostObject ("/api/v1/subscribers/" ++ subscriberId ++ "/schedules") body 60000

/-- `GetSchedule` -/
def getSchedule (subscriberId scheduleId : String) : Portal CallResult :=
  executeGetObject ("/api/v1/subscribers/" ++ subscriberId ++ "/schedules/" ++ scheduleId)

/-- `UpdateSchedule` -/
def updateSchedule (subscriberId scheduleId : String) (body : Json.Object) : Portal CallResult :=
  executePutObject ("/api/v1/subscribers/" ++ subscriberId ++ "/schedules/" ++ scheduleId) body 120000

/-- `DeleteSchedule` -/
def deleteSchedule (subscriberId scheduleId : String) : Portal CallResult :=
  executeDelete ("/api/v1/subscribers/" ++ subscriberId ++ "/schedules/" ++ scheduleId) 120000
    emptyOrObject

/-- `GetScheduleGroups` -/
def getScheduleGroups (subscriberId scheduleId : String) : Portal (CallResult × Option (List Json)) :=
  executeGetArray ("/api/v1/subscribers/" ++ subscriberId ++ "/schedules/" ++ scheduleId ++ "/groups")

/-! ## Group devices -/

/-- `GetGroupDevices` -/
def getGroupDevices (subscriberId groupId : String) : Portal (CallResult × Option (List Json)) :=
  executeGetArray ("/api/v1/subscribers/" ++ subscriberId ++ "/groups/" ++ groupId ++ "/devices")

/-- `CreateGroupDevice` -/
def createGroupDevice (subscriberId groupId : String) (body : Json.Object) : Portal CallResult :=
  executePostObject ("/api/v1/subscribers/" ++ subscriberId ++ "/groups/" ++ groupId ++ "/devices") body
    120000

/-- `CreateGroupDevicesV2` -/
def createGroupDevicesV2 (subscriberId groupId : String) (body : Json.Object) : Portal CallResult :=
  executePostObject ("/api/v2/subscribers/" ++ subscriberId ++ "/groups/" ++ groupId ++ "/devices") body
    120000

/-- `GetGroupDevice` -/
def getGroupDevice (subscriberId groupId clientMac : String) : Portal CallResult :=
  executeGetObject
    ("/api/v1/subscribers/" ++ subscriberId ++ "/groups/" ++ groupId ++ "/devices/" ++ clientMac)

/-- `DeleteGroupDevice` -/
def deleteGroupDevice (subscriberId groupId clientMac : String) : Portal CallResult :=
  executeDelete
    ("/api/v1/subscribers/" ++ subscriberId ++ "/groups/" ++ groupId ++ "/devices/" ++ clientMac) 120000
    objectWithConfigRaw

/-! ## Group schedules -/

/-- `GetGroupSchedules` -/
def getGroupSchedules (subscriberId groupId : String) : Portal (CallResult × Option (List Json)) :=
  executeGetArray ("/api/v1/subscribers/" ++ subscriberId ++ "/groups/" ++ groupId ++ "/schedules")

/-- `CreateGroupSchedule` -/
def createGroupSchedule (subscriberId groupId : String) (body : Json.Object) : Portal CallResult :=
  executePostObject ("/api/v1/subscribers/" ++ subscriberId ++ "/groups/" ++ groupId ++ "/schedules") body
    120000

/-- `GetGroupSchedule` -/
def getGroupSchedule (subscriberId groupId scheduleId : String) : Portal CallResult :=
  executeGetObject
    ("/api/v1/subscribers/" ++ subscriberId ++ "/groups/" ++ groupId ++ "/schedules/" ++ scheduleId)

/-- `DeleteGroupSchedule` -/
def deleteGroupSchedule (subscriberId groupId scheduleId : String) : Portal CallResult :=
  executeDelete
    ("/api/v1/subscribers/" ++ subscriberId ++ "/groups/" ++ groupId ++ "/schedules/" ++ scheduleId)
    120000 objectWithConfigRaw

/-- `ReplaceGroupSchedules` -/
def replaceGroupSchedules (subscriberId groupId : String) (body : Json.Object) : Portal CallResult :=
  executePutObject ("/api/v1/subscribers/" ++ subscriberId ++ "/groups/" ++ groupId ++ "/schedules") body
    120000

/-! ## Client access -/

/-- `CreateClientAccess` -/
def createClientAccess (subscriberId : String) (body : Json.Object) : Portal CallResult :=
  executePostObject ("/api/v1/subscribers/" ++ subscriberId ++ "/client-access") body 120000

/-- `DeleteClientAccess` -/
def deleteClientAccess (subscriberId clientMac : String) : Portal CallResult :=
  executeDelete ("/api/v1/subscribers/" ++ subscriberId ++ "/client-access/" ++ clientMac) 120000
    objectWithConfigRaw

end UserPortal.Sdk.ParentalControl
