import UserPortal.RestApi.ActionHandler
import UserPortal.Sdk.Prov
import UserPortal.Security.Objects

/-!
# The devices of a subscriber

Port of `src/RESTAPI/RESTAPI_subscriber_devices_handler.cpp`, which adds a device to a subscriber and
deletes one. A step of the handler which has answered the request returns `false` in the source: it is a
`Handling` which throws the answer.
-/

namespace UserPortal.RestApi.SubscriberDevices
open Interaction Program Sdk ConfigMaker

variable (conv : Conversions) (stringify : Json.Object → String) (user : Security.UserInfoAndPolicy)

/-- `Validate_Inputs` -/
def validateInputs (method binding : String) : Handling String :=
  if user.userinfo.id = "" then throw (HandlerAnswer.unAuthorized method Errors.invalidSubscriberId)
  else
    match Utils.normalizeMac binding with
    | some mac => return mac
    | none => throw (HandlerAnswer.badRequest method Errors.invalidMacAddress "")

/-- `FetchSubscriberDevices` -/
def fetchSubscriberDevices : Handling (List Gw.SubscriberDevice) := do
  let (devices, status, _) ← Prov.getDevices conv "" user.userinfo.id user.userinfo.owner (some [])
  match devices with
  | some devices => return devices
  | none =>
    if status = HTTPStatus.notFound then return []
    else throw (HandlerAnswer.internalError "POST" Errors.addDeviceFailed)

/-- `IsDeviceAlreadyProvisioned` -/
def isDeviceAlreadyProvisioned (mac : String) (existingDevices : List Gw.SubscriberDevice) :
    Handling Unit :=
  if existingDevices.any fun device => device.serialNumber = mac then
    throw (HandlerAnswer.badRequest "POST" Errors.serialNumberAlreadyProvisioned "")
  else do
    let (found, callStatus, callResponse) ← Prov.getDevice conv user.webtoken.accessToken mac
    if found then throw (HandlerAnswer.badRequest "POST" Errors.serialNumberAlreadyProvisioned "")
    else if callStatus ≠ HTTPStatus.notFound then
      throw (HandlerAnswer.forwardErrorResponse callStatus callResponse)
    else return ()

/-- `IsDevicePresentInInventory` -/
def isDevicePresentInInventory (mac : String) : Handling Unit := do
  let present ← Prov.inventoryHas conv "" mac
  if present then return ()
  else throw (HandlerAnswer.badRequest "POST" Errors.subNoDeviceActivated "")

/-- The group which `InitializeSubscriberDevice` gives to a device. -/
def newDeviceGroup (existingDevices : List Gw.SubscriberDevice) : String :=
  if existingDevices.isEmpty then "olg" else "ap"

/-- The name which `InitializeSubscriberDevice` gives to a device. -/
def newDeviceName (existingDevices : List Gw.SubscriberDevice) : String :=
  "Device-" ++ toString (existingDevices.length + 1)

/-- `PrepareGatewayConfiguration` -/
def prepareGatewayConfiguration (mac : String) : Handling (List DeviceConfigurationElement) := do
  let r ← Gw.getConfig "" mac
  if r.success then
    match buildGatewayConfig stringify r.response mac with
    | some configuration => return configuration
    | none => throw (HandlerAnswer.internalError "POST" Errors.applyConfigFailed)
  else throw (HandlerAnswer.forwardErrorResponse r.status r.response)

/-- `PrepareMeshConfiguration` -/
def prepareMeshConfiguration (existingDevices : List Gw.SubscriberDevice) :
    Handling (List DeviceConfigurationElement) :=
  match ActionHandler.findGatewaySerial existingDevices with
  | none => throw (HandlerAnswer.internalError "POST" Errors.addDeviceFailed)
  | some gatewayMac => do
    let r ← Gw.getConfig "" gatewayMac
    if r.success = false then throw (HandlerAnswer.internalError "POST" Errors.addDeviceFailed)
    else if validateConfig r.response = false then
      throw (HandlerAnswer.internalError "POST" Errors.configBlockInvalid)
    else
      match buildMeshConfig r.response with
      | some meshConfig => return appendWeightedSections stringify meshConfig
      | none => throw (HandlerAnswer.internalError "POST" Errors.configurationMustExist)

/-- The configuration of a new device, by its group. -/
def prepareConfiguration (mac : String) (existingDevices : List Gw.SubscriberDevice) :
    Handling (List DeviceConfigurationElement) :=
  if newDeviceGroup existingDevices = "olg" then prepareGatewayConfiguration stringify mac
  else prepareMeshConfiguration stringify existingDevices

/-- `CreateProvisioningRecord` -/
def createProvisioningRecord (mac : String) (existingDevices : List Gw.SubscriberDevice)
    (configuration : List DeviceConfigurationElement) : Handling Unit := do
  let (created, callStatus, callResponse) ← Prov.createSubsciberDevice conv user.webtoken.accessToken
    (newDeviceName existingDevices) mac user.userinfo.id user.userinfo.owner
    (newDeviceGroup existingDevices) configuration
  if created then return ()
  else throw (HandlerAnswer.forwardErrorResponse callStatus callResponse)

/-- The steps of `DoPost`. -/
def addDevice (binding : String) : Handling Unit := do
  let mac ← validateInputs user "POST" binding
  let existingDevices ← fetchSubscriberDevices conv user
  isDeviceAlreadyProvisioned conv user mac existingDevices
  isDevicePresentInInventory conv mac
  let configuration ← prepareConfiguration stringify mac existingDevices
  createProvisioningRecord conv user mac existingDevices configuration

/-- The steps of `DoDelete`. -/
def deleteDevice (binding : String) : Handling Unit := do
  let mac ← validateInputs user "DELETE" binding
  let (deleted, callStatus, callResponse) ←
    Prov.deleteSubscriberDevice user.webtoken.accessToken mac
  if deleted then return ()
  else throw (HandlerAnswer.forwardErrorResponse callStatus callResponse)

/-- The answer of a handler after its steps. -/
def answer (method : String) (steps : Handling Unit) : Portal HandlerAnswer := do
  match ← steps.run with
  | .ok _ => return HandlerAnswer.success method
  | .error sent => return sent

/-- `DoPost` -/
def doPost (binding : String) : Portal HandlerAnswer :=
  answer "POST" (addDevice conv stringify user binding)

/-- `DoDelete` -/
def doDelete (binding : String) : Portal HandlerAnswer := answer "DELETE" (deleteDevice user binding)

end UserPortal.RestApi.SubscriberDevices
