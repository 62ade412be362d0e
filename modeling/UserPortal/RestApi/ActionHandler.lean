import UserPortal.Sdk.Prov
import UserPortal.Security.Objects

/-!
# The action handler

Port of `src/RESTAPI/RESTAPI_action_handler.cpp`: the configure action, and the commands to one device.
The handler passes no client to the SDK, so the portal authenticates itself. A step which has answered
the request is a `Handling` which throws the answer, and so is an exception, which the framework answers
as a bad request.
-/

namespace UserPortal.RestApi.ActionHandler
open Interaction Sdk

/-- `ReturnSDKResponse` -/
def returnSDKResponse (method : String) (status : HTTPStatus) (response : Option Json.Object) :
    HandlerAnswer :=
  let payload := response.getD []
  if status ≠ HTTPStatus.ok then HandlerAnswer.forwardErrorResponse status (some payload)
  else if payload ≠ [] then HandlerAnswer.returnObject payload
  else HandlerAnswer.success method

/-- `FindGatewaySerial`: the serial number of the first device of the gateway group, `none` when
there is no such device or it has no serial number. -/
def findGatewaySerial (subscriberDevices : List Gw.SubscriberDevice) : Option String :=
  match subscriberDevices.find? fun device => Utils.toLower device.deviceGroup = "olg" with
  | some device => if device.serialNumber = "" then none else some device.serialNumber
  | none => none

variable (conv : Conversions) (condense : Json.Object → String)

/-- `ExecuteConfigure`: what it returns and what it answers the subscriber. -/
def executeConfigure (method : String) (parsedBody : Option Json.Object)
    (subscriberDevices : List Gw.SubscriberDevice) (gatewaySerial subscriberId : String) :
    Portal (Bool × HandlerAnswer) := do
  let r ← Gw.setConfig conv condense "" parsedBody subscriberDevices gatewaySerial subscriberId
  return (r.status = HTTPStatus.ok, returnSDKResponse method r.status r.response)

/-! ## The request -/

/-- What `ParseRequest` has read into the `ActionContext`. -/
structure ActionContext where
  command : String
  mac : String
  imageName : String
  pattern : String
  when : Nat
  duration : Nat
  keepRedirector : Bool

/-- A bad request. -/
def badRequest (e : ErrorMsg) : HandlerAnswer := HandlerAnswer.badRequest "POST" e ""

/-- `GetParameter` -/
def getParameter (parameters : List (String × String)) (name default : String) : String :=
  ((parameters.find? fun p => p.1 = name).map fun p => p.2).getD default

/-- `AssignIfPresent`, for a field which is converted. -/
def assignIfPresent {α : Type} (convert : Json → Option α) (o : Json.Object) (field : String)
    (value : α) : Handling α :=
  match o.get? field with
  | none => return value
  | some j =>
    match convert j with
    | some value => return value
    | none => throw (badRequest Errors.internalError)

/-- The check of the MAC address, which a configure request does not need. -/
def checkMac (command mac : String) : Handling String :=
  if command = "configure" then return mac
  else if mac = "" then throw (badRequest Errors.missingSerialNumber)
  else
    match Utils.normalizeMac mac with
    | some mac => return mac
    | none => throw (badRequest Errors.invalidMacAddress)

/-- `ParseRequest` -/
def parseRequest (parameters : List (String × String)) (parsedBody : Json.Object) :
    Handling ActionContext := do
  let command := Utils.toLower (Utils.trim (getParameter parameters "action" ""))
  if command = "" then throw (badRequest Errors.missingOrInvalidParameters)
  else
    let mac ← assignIfPresent conv.toString parsedBody "mac" ""
    let mac ← checkMac command (Utils.toLower (Utils.trim mac))
    let when ← assignIfPresent conv.toUInt64 parsedBody "when" 0
    let duration ← assignIfPresent conv.toUInt64 parsedBody "duration" 30
    let imageName ← assignIfPresent conv.toString parsedBody "uri" ""
    let pattern ← assignIfPresent conv.toString parsedBody "pattern" "blink"
    let keepRedirector ←
      assignIfPresent (fun j => (conv.toString j).map (· == "true")) parsedBody "keepRedirector" true
    return { command, mac, imageName := Utils.trim imageName, pattern, when, duration, keepRedirector }

/-! ## The devices -/

variable (user : Security.UserInfoAndPolicy)

/-- `FetchSubscriberDevices` -/
def fetchSubscriberDevices : Handling (List Gw.SubscriberDevice) := do
  let (devices, callStatus, callResponse) ←
    Prov.getDevices conv "" user.userinfo.id user.userinfo.owner (some [])
  match devices with
  | none =>
    if callStatus = HTTPStatus.notFound then throw (badRequest Errors.subNoDeviceActivated)
    else if callStatus ≠ HTTPStatus.ok then
      throw (HandlerAnswer.forwardErrorResponse callStatus callResponse)
    else throw (HandlerAnswer.internalError "POST" Errors.internalError)
  | some devices =>
    if devices.isEmpty then throw (badRequest Errors.subNoDeviceActivated) else return devices

/-- The device has the MAC address, as its serial number or as its real MAC address. -/
def hasMac (mac : String) (device : Gw.SubscriberDevice) : Bool :=
  Utils.normalizeMac device.serialNumber = some mac || Utils.normalizeMac device.realMacAddress = some mac

/-- `ResolveTargetSerial`: the serial number of the first device with a MAC address, `none` when there
is no such device or it has no serial number. -/
def resolveTargetSerial (subscriberDevices : List Gw.SubscriberDevice) (mac : String) : Option String :=
  match subscriberDevices.find? (hasMac mac) with
  | some device => if device.serialNumber = "" then none else some device.serialNumber
  | none => none

/-! ## The commands -/

/-- What a command returns, and what it answers the subscriber. -/
def returnCommand (command : Portal CallResult) : Portal (Bool × HandlerAnswer) := do
  let r ← command
  return (r.success, returnSDKResponse "POST" r.status r.response)

/-- `ExecuteCommand` -/
def executeCommand (ctx : ActionContext) (targetSerial : String) : Portal (Bool × HandlerAnswer) :=
  if ctx.command = "reboot" then returnCommand (Gw.reboot "" targetSerial ctx.when)
  else if ctx.command = "blink" then
    returnCommand (Gw.leds "" targetSerial ctx.when ctx.duration ctx.pattern)
  else if ctx.command = "upgrade" then
    returnCommand (Gw.upgrade "" targetSerial ctx.when ctx.imageName ctx.keepRedirector)
  else if ctx.command = "factory" then
    returnCommand (Gw.factory "" targetSerial ctx.when ctx.keepRedirector)
  else return (false, badRequest Errors.missingOrInvalidParameters)

/-- The end of `DoPost`, once the devices of the subscriber are known. -/
def execute (parsedBody : Json.Object) (ctx : ActionContext)
    (subscriberDevices : List Gw.SubscriberDevice) : Handling (Bool × HandlerAnswer) :=
  match findGatewaySerial subscriberDevices with
  | none => throw (badRequest Errors.subNoDeviceActivated)
  | some gatewaySerial =>
    if ctx.command = "configure" then
      liftM (executeConfigure conv condense "POST" (some parsedBody) subscriberDevices gatewaySerial
        user.userinfo.id)
    else
      match resolveTargetSerial subscriberDevices ctx.mac with
      | none => throw (HandlerAnswer.notFound "POST")
      | some targetSerial => liftM (executeCommand ctx targetSerial)

/-- The steps of `DoPost`. -/
def act (parameters : List (String × String)) (parsedBody : Json.Object) :
    Handling (Bool × HandlerAnswer) := do
  let ctx ← parseRequest conv parameters parsedBody
  let subscriberDevices ← fetchSubscriberDevices conv user
  execute conv condense user parsedBody ctx subscriberDevices

/-- `DoPost` -/
def doPost (parameters : List (String × String)) (parsedBody : Option Json.Object) :
    Portal HandlerAnswer := do
  match ← (act conv condense user parameters (parsedBody.getD [])).run with
  | .ok (_, sent) => return sent
  | .error sent => return sent

/-- The status of the answer is the status of the call. -/
@[simp] lemma returnSDKResponse_status (method : String) (status : HTTPStatus)
    (response : Option Json.Object) : (returnSDKResponse method status response).status = status := by
  simp only [returnSDKResponse]
  split
  case isTrue => rfl
  case isFalse ok =>
    have ok : status = HTTPStatus.ok := by simpa using ok
    subst ok
    split
    case isTrue => rfl
    case isFalse => rfl

end UserPortal.RestApi.ActionHandler
