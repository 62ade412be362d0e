import UserPortal.RestApi.ErrorResponse
import UserPortal.RestApi.Schedules
import UserPortal.Sdk.Prov

/-!
# Changes of the parental-control rules

Port of the config-raw helpers of `src/RESTAPI/RESTAPI_parental_control_utils.cpp`, and of the ends of
the handlers which change rules: the call which changes them, whose snapshot is then given to the
gateway of the subscriber. What a handler checks before the call is left out.

`ApplyConfigRaw` is only called without a gateway serial, which it always looks up.
-/

namespace UserPortal.RestApi.ParentalControl
open Interaction Calendar Sdk

inductive ApplyConfigRawResult where
  | noConfigApplyNeeded
  | applied
  | missingOperatorId
  | provisioningLookupFailed
  | missingGatewaySerial
  | gatewayConfigLoadFailed
  | gatewayConfigMalformed
  | gatewayConfigureFailed
  deriving DecidableEq

/-- The serial number of the first device of the gateway group, empty when there is none. -/
def gatewaySerialOf (devices : List Gw.SubscriberDevice) : String :=
  match devices.find? fun device => Utils.toLower device.deviceGroup = "olg" with
  | some device => device.serialNumber
  | none => ""

/-- The end of `ApplyConfigRaw`: replace the `config-raw` of a gateway. -/
def replaceConfigRaw (bearerToken resolvedSerial : String) (configRaw : List Json) :
    Portal ApplyConfigRawResult := do
  let r ← Gw.getConfig bearerToken resolvedSerial
  if r.success then
    match r.response.bind fun o => o.getObject? "configuration" with
    | none => return .gatewayConfigMalformed
    | some gatewayConfig =>
      let (r, _) ← Gw.configure bearerToken resolvedSerial
        (gatewayConfig.set "config-raw" (.arr configRaw))
      return if r.success then .applied else .gatewayConfigureFailed
  else return .gatewayConfigLoadFailed

variable (conv : Conversions)

/-- `ApplyConfigRaw` -/
def applyConfigRaw (bearerToken subscriberId operatorId : String) (configRaw : Option (List Json)) :
    Portal ApplyConfigRawResult :=
  match configRaw with
  | none => return .noConfigApplyNeeded
  | some configRaw =>
    if operatorId = "" then return .missingOperatorId
    else do
      let (devices, _) ← Prov.getDevices conv "" subscriberId operatorId none
      match devices with
      | none => return .provisioningLookupFailed
      | some devices =>
        if gatewaySerialOf devices = "" then return .missingGatewaySerial
        else replaceConfigRaw bearerToken (gatewaySerialOf devices) configRaw

/-- `HandleApplyConfigRawResult`: whether the handler goes on, and the answers it has sent. -/
def handleApplyConfigRawResult (method : String) : ApplyConfigRawResult → Bool × List HandlerAnswer
  | .noConfigApplyNeeded | .applied => (true, [])
  | .missingOperatorId => (false, [HandlerAnswer.unAuthorized method Errors.operatorIdMustExist])
  | .missingGatewaySerial => (false, [HandlerAnswer.internalError method Errors.missingSerialNumber])
  | .provisioningLookupFailed | .gatewayConfigLoadFailed | .gatewayConfigMalformed
  | .gatewayConfigureFailed => (false, [HandlerAnswer.internalError method Errors.internalError])

/-- `ApplyConfigRawFromMutationResponse`: whether the handler goes on, and the answers it has sent. -/
def applyConfigRawFromMutationResponse (method bearerToken subscriberId operatorId : String)
    (mutationResponse : Option Json.Object) (configRawRequired : Bool) :
    Portal (Bool × List HandlerAnswer) :=
  match extractConfigRawSnapshot mutationResponse configRawRequired with
  | none => return (false, [HandlerAnswer.internalError method Errors.internalError])
  | some none => return (true, [])
  | some (some configRaw) => do
    let result ← applyConfigRaw conv bearerToken subscriberId operatorId (some configRaw)
    return handleApplyConfigRawResult method result

inductive MutationSuccessResponse where
  | ok
  | returnObject
  | returnObjectWithoutConfigRaw
  | returnNormalizedScheduleObject

variable (locateZone : String → Option Zone)

/-- The answers of a handler whose change was applied. -/
def answerMutation (method : String) (response : Option Json.Object)
    (successResponse : MutationSuccessResponse) (normalizeTimezone : String) :
    Portal (List HandlerAnswer) :=
  match successResponse, response with
  | .ok, _ => return [HandlerAnswer.success method]
  | _, none => return [HandlerAnswer.internalError method Errors.internalError]
  | .returnObject, some response => return [HandlerAnswer.returnObject response]
  | .returnObjectWithoutConfigRaw, some response =>
    return [HandlerAnswer.returnObject (response.remove "config-raw")]
  | .returnNormalizedScheduleObject, some response => do
    let t ← Portal.clock
    match normalizeScheduleResponse conv locateZone t normalizeTimezone response with
    | (true, response) => return [HandlerAnswer.returnObject response]
    | (false, _) => return [HandlerAnswer.internalError method Errors.internalError]

/-- `HandleParentalControlMutationResult`: the answers it sends to the subscriber. -/
def handleParentalControlMutationResult (method bearerToken : String) (mutation : CallResult)
    (subscriberId operatorId : String) (configRawRequired : Bool)
    (successResponse : MutationSuccessResponse) (normalizeTimezone : String) :
    Portal (List HandlerAnswer) := do
  if mutation.success = false then
    return [forwardParentalControlErrorResponse mutation.status mutation.response]
  else
    let (goesOn, sent) ← applyConfigRawFromMutationResponse conv method bearerToken subscriberId
      operatorId mutation.response configRawRequired
    if goesOn = false then return sent
    else
      let answers ← answerMutation conv locateZone method mutation.response successResponse
        normalizeTimezone
      return sent ++ answers

/-! ## The handlers -/

/-- What the handlers which change rules ask of the parental-control service. -/
inductive Mutation where
  | deleteGroup (groupId : String)
  | updateSchedule (scheduleId : String) (body : Json.Object) (timezone : String)
  | deleteSchedule (scheduleId : String)
  | createGroupDevice (groupId : String) (body : Json.Object)
  | createGroupDevicesV2 (groupId : String) (body : Json.Object)
  | deleteGroupDevice (groupId clientMac : String)
  | createGroupSchedule (groupId : String) (body : Json.Object)
  | replaceGroupSchedules (groupId : String) (body : Json.Object)
  | deleteGroupSchedule (groupId scheduleId : String)

namespace Mutation

/-- The call which changes the rules. -/
def call (subscriberId : String) : Mutation → Portal CallResult
  | deleteGroup groupId => ParentalControl.deleteGroup subscriberId groupId
  | updateSchedule scheduleId body _ => ParentalControl.updateSchedule subscriberId scheduleId body
  | deleteSchedule scheduleId => ParentalControl.deleteSchedule subscriberId scheduleId
  | createGroupDevice groupId body => ParentalControl.createGroupDevice subscriberId groupId body
  | createGroupDevicesV2 groupId body => ParentalControl.createGroupDevicesV2 subscriberId groupId body
  | deleteGroupDevice groupId clientMac =>
    ParentalControl.deleteGroupDevice subscriberId groupId clientMac
  | createGroupSchedule groupId body => ParentalControl.createGroupSchedule subscriberId groupId body
  | replaceGroupSchedules groupId body =>
    ParentalControl.replaceGroupSchedules subscriberId groupId body
  | deleteGroupSchedule groupId scheduleId =>
    ParentalControl.deleteGroupSchedule subscriberId groupId scheduleId

/-- The method of the request. -/
def method : Mutation → String
  | deleteGroup .. | deleteSchedule .. | deleteGroupDevice .. | deleteGroupSchedule .. => "DELETE"
  | createGroupDevice .. | createGroupDevicesV2 .. | createGroupSchedule .. => "POST"
  | updateSchedule .. | replaceGroupSchedules .. => "PUT"

def configRawRequired : Mutation → Bool
  | deleteGroup .. | updateSchedule .. | deleteSchedule .. => false
  | createGroupDevice .. | createGroupDevicesV2 .. | deleteGroupDevice .. | createGroupSchedule ..
  | replaceGroupSchedules .. | deleteGroupSchedule .. => true

def successResponse : Mutation → MutationSuccessResponse
  | deleteGroup .. | deleteSchedule .. | deleteGroupDevice .. | deleteGroupSchedule .. => .ok
  | createGroupDevice .. | createGroupDevicesV2 .. | createGroupSchedule ..
  | replaceGroupSchedules .. => .returnObjectWithoutConfigRaw
  | updateSchedule .. => .returnNormalizedScheduleObject

def normalizeTimezone : Mutation → String
  | updateSchedule _ _ timezone => timezone
  | _ => ""

/-- The end of the handler: the call and the answers to the subscriber. -/
def handle (mutation : Mutation) (bearerToken subscriberId operatorId : String) :
    Portal (List HandlerAnswer) := do
  let result ← mutation.call subscriberId
  handleParentalControlMutationResult conv locateZone mutation.method bearerToken result subscriberId
    operatorId mutation.configRawRequired mutation.successResponse mutation.normalizeTimezone

end Mutation

end UserPortal.RestApi.ParentalControl
