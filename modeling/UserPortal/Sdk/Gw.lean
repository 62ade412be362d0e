import UserPortal.ConfigMaker
import UserPortal.Framework.DateTime
import UserPortal.Framework.Dynamic
import UserPortal.Framework.Utils
import UserPortal.RestApi.ConfigRawSnapshot
import UserPortal.Sdk.ParentalControl

/-!
# The gateway service

Port of `src/sdks/SDK_gw.cpp`: reading and writing the configuration of a device, and `SetConfig`,
which applies the SSID and the client-access changes of a configure request to the gateway and then
to the mesh devices.

A step of `SetConfig` which returns `false` leaves a status and a response: it is an `Attempt` which
throws a `CallResult`. The configuration is a value which the steps hand on, where the source changes
one object in place. `Stringifier::condense` is a parameter, of which nothing is assumed.
-/

namespace UserPortal.Sdk.Gw
open Interaction

/-- A step which may end the request it belongs to. -/
abbrev Attempt := ExceptT CallResult Portal

/-- Go on only if a condition holds. -/
def ensure (ok : Bool) (r : CallResult) : Attempt Unit := if ok then pure () else throw r

/-- The response has a `configuration`. -/
def hasConfiguration (response : Option Json.Object) : Bool :=
  match response with
  | some o => o.has "configuration"
  | none => false

/-- `GetConfig` -/
def getConfig (bearerToken mac : String) : Portal CallResult := do
  let (status, response) ←
    OpenAPIRequest.get uSERVICE_GATEWAY ("/api/v1/device/" ++ mac) [] 1000 bearerToken none
  return {
    success := status = HTTPStatus.ok && hasConfiguration response
    status := status
    response := response }

/-- The configuration as `Configure` sends it, stamped with the time. -/
def stampConfig (config : Json.Object) (now : Nat) : Json.Object := config.set "uuid" (.int now)

/-- `Configure`, which also returns the configuration with the stamp it has set in place. -/
def configure (bearerToken mac : String) (config : Json.Object) :
    Portal (CallResult × Json.Object) := do
  let t ← Portal.clock
  let config := stampConfig config (Utils.now t)
  let body := [("UUID", .int (Utils.now t)), ("configuration", .obj config),
    ("serialNumber", .str mac), ("when", .int 0)]
  let (status, response) ← OpenAPIRequest.post uSERVICE_GATEWAY
    ("/api/v1/device/" ++ mac ++ "/configure") [] body 90000 bearerToken none
  return ({ success := status = HTTPStatus.ok, status, response }, config)

/-! ## Commands -/

section Commands

variable (bearerToken : String)

/-- `ExecuteGatewayCommand` -/
def executeGatewayCommand (endPoint : String) (commandRequest : Json.Object) : Portal CallResult := do
  let (responseStatus, callResponse) ←
    OpenAPIRequest.post uSERVICE_GATEWAY endPoint [] commandRequest 60000 bearerToken none
  return {
    success := responseStatus = HTTPStatus.ok
    status := responseStatus
    response := some (callResponse.getD []) }

/-- `Reboot`, which reboots at once whatever it is told. -/
def reboot (mac : String) (_when : Nat) : Portal CallResult :=
  executeGatewayCommand bearerToken ("/api/v1/device/" ++ mac ++ "/reboot")
    [("serialNumber", .str mac), ("when", .int 0)]

/-- `LEDs` -/
def leds (mac : String) (when duration : Nat) (pattern : String) : Portal CallResult :=
  executeGatewayCommand bearerToken ("/api/v1/device/" ++ mac ++ "/leds")
    [("duration", .int duration), ("pattern", .str pattern), ("serialNumber", .str mac),
      ("when", .int when)]

/-- `Factory` -/
def factory (mac : String) (when : Nat) (keepRedirector : Bool) : Portal CallResult :=
  executeGatewayCommand bearerToken ("/api/v1/device/" ++ mac ++ "/factory")
    [("keepRedirector", .bool keepRedirector), ("serialNumber", .str mac), ("when", .int when)]

/-- `Upgrade`, which does not pass `KeepRedirector` on. -/
def upgrade (mac : String) (when : Nat) (imageName : String) (_keepRedirector : Bool) :
    Portal CallResult :=
  executeGatewayCommand bearerToken ("/api/v1/device/" ++ mac ++ "/upgrade")
    [("serialNumber", .str mac), ("uri", .str imageName), ("when", .int when)]

end Commands

/-! ## SSIDs -/

section Ssid

/-- A character of `[A-Za-z0-9._ \-]`. -/
def isSsidChar (c : Char) : Bool :=
  ('A' ≤ c && c ≤ 'Z') || ('a' ≤ c && c ≤ 'z') || ('0' ≤ c && c ≤ '9') ||
    c = '.' || c = '_' || c = ' ' || c = '-'

/-- `ValidateSsidName` -/
def validateSsidName (ssid : String) : Bool :=
  1 ≤ ssid.length && ssid.length ≤ 32 && ssid.toList.all isSsidChar

/-- `ValidateSsidPassword` -/
def validateSsidPassword (password : String) : Bool :=
  8 ≤ password.length && password.length ≤ 32 && password.toList.all fun c => !Utils.isSpace c

/-- The SSID is the mesh backhaul. -/
def isMesh (ssid : Json.Object) : Bool := ssid.getString? "bss-mode" = some "mesh"

/-- A requested SSID. -/
structure SsidRequest where
  name : String
  password : String
  deriving DecidableEq

/-- A bad request. -/
def badRequest (e : ErrorMsg) : CallResult := setErrorResponse HTTPStatus.badRequest e

/-- The checks of a trimmed name and a trimmed password. -/
def validateSsid (name password : String) : Except CallResult SsidRequest :=
  if name = "" ∨ password = "" then .error (badRequest Errors.missingOrInvalidParameters)
  else if validateSsidName name = false then .error (badRequest Errors.ssidInvalidName)
  else if validateSsidPassword password = false then .error (badRequest Errors.ssidInvalidPassword)
  else .ok { name, password }

/-- The SSID which a request body asks for. -/
def parseSsid (conv : Conversions) (body : Json.Object) : Except CallResult SsidRequest :=
  match body.getObject? "ssid" with
  | none => .error (badRequest Errors.missingOrInvalidParameters)
  | some ssidObj =>
    match conv.getString ssidObj "name", conv.getString ssidObj "password" with
    | some name, some password => validateSsid (Utils.trim name) (Utils.trim password)
    | _, _ => .error (badRequest Errors.missingOrInvalidParameters)

/-- An internal error. -/
def internalError : CallResult :=
  setErrorResponse HTTPStatus.internalServerError Errors.internalError

/-- Override one entry of an `ssids` array: its name and its key, unless it is the backhaul. -/
def overrideSsid (req : SsidRequest) (j : Json) : Except CallResult Json :=
  match j.object? with
  | some ssid =>
    if isMesh ssid then .ok j
    else
      match ssid.getObject? "encryption" with
      | some encryption =>
        .ok (.obj ((ssid.set "name" (.str req.name)).set "encryption"
          (.obj (encryption.set "key" (.str req.password)))))
      | none => .error internalError
  | none => .ok j

/-- Override the entries of one interface; also whether it has any. -/
def overrideInterface (req : SsidRequest) (j : Json) : Except CallResult (Json × Bool) :=
  match j.object? with
  | some iface =>
    match iface.getArray? "ssids" with
    | none | some [] => .ok (j, false)
    | some ssids => do
      let ssids ← ssids.mapM (overrideSsid req)
      return (.obj (iface.set "ssids" (.arr ssids)), true)
  | none => .ok (j, false)

/-- Override the entries of every interface; a configuration without an entry is an error. -/
def overrideInterfaces (req : SsidRequest) (config : Json.Object) : Except CallResult Json.Object :=
  match config.getArray? "interfaces" with
  | none | some [] => .error internalError
  | some interfaces => do
    let overridden ← interfaces.mapM (overrideInterface req)
    if overridden.any fun r => r.2 then
      return config.set "interfaces" (.arr (overridden.map fun r => r.1))
    else throw internalError

/-- `ApplySsidOverrides` -/
def applySsidOverrides (conv : Conversions) (config body : Json.Object) :
    Except CallResult Json.Object := do
  let req ← parseSsid conv body
  overrideInterfaces req config

end Ssid

/-! ## Client access -/

section ClientAccess

/-- `ValidatedClientEntry`, with what the validation has checked. -/
structure ValidatedClientEntry where
  mac : String
  formattedMac : String
  access : String
  durationMinutes : Int
  hasDuration : Bool
  /-- a block with a duration lasts at least a minute -/
  duration_inv : hasDuration = true → access = "deny" ∧ 1 ≤ durationMinutes

/-- The `duration` of an entry. -/
inductive Duration where
  | absent
  | null
  | minutes (d : Int)

/-- The duration of an entry, `none` where it does not convert. -/
def readDuration (conv : Conversions) (entry : Json.Object) : Option Duration :=
  match entry.get? "duration" with
  | none => some .absent
  | some .null => some .null
  | some j => (conv.toInt64 j).map .minutes

/-- The end of a duration which starts now. -/
def endOf (now : DateTime) (durationMinutes : Int) : DateTime :=
  now.add (timespan (durationMinutes * 60))

/-- Two instants are on different dates. -/
def differentDate (a b : DateTime) : Bool :=
  a.year ≠ b.year || a.month ≠ b.month || a.day ≠ b.day

/-- Pass 1 of `ApplyClientAccessChanges` on one entry. -/
def validateClientEntry (conv : Conversions) (entry : Json) : Attempt ValidatedClientEntry :=
  match entry.object? with
  | some e =>
    match e.get? "mac", e.get? "access" with
    | some macValue, some accessValue =>
      match conv.toString macValue, conv.toString accessValue, readDuration conv e with
      | some mac, some access, some duration =>
        let access := Utils.toLower (Utils.trim access)
        match Utils.normalizeMac mac with
        | none => throw (badRequest Errors.invalidMacAddress)
        | some mac =>
          let formattedMac := Utils.toLower (Utils.serialToMAC mac)
          if access ≠ "allow" ∧ access ≠ "deny" then throw (badRequest Errors.invalidAccess)
          else
            match duration with
            | .absent =>
              return { mac, formattedMac, access, durationMinutes := 0, hasDuration := false,
                       duration_inv := nofun }
            | .null =>
              if access = "allow" then throw (badRequest Errors.durationNotAllowedForAllow)
              else throw (badRequest Errors.invalidDuration)
            | .minutes d =>
              if access = "allow" then throw (badRequest Errors.durationNotAllowedForAllow)
              else if valid : access = "deny" ∧ 1 ≤ d then do
                let t ← Portal.clock
                let now := DateTime.ofTimestamp t
                ensure (!differentDate (endOf now d) now) (badRequest Errors.durationCrossesMidnight)
                return { mac, formattedMac, access, durationMinutes := d, hasDuration := true,
                         duration_inv := fun _ => valid }
              else throw (badRequest Errors.invalidDuration)
      | _, _, _ => throw (badRequest Errors.missingOrInvalidParameters)
    | _, _ => throw (badRequest Errors.missingOrInvalidParameters)
  | none => throw (badRequest Errors.missingOrInvalidParameters)

/-- Pass 1 of `ApplyClientAccessChanges`. -/
def validateClientEntries (conv : Conversions) : List Json → Attempt (List ValidatedClientEntry)
  | [] => return []
  | entry :: entries => do
    let e ← validateClientEntry conv entry
    let es ← validateClientEntries conv entries
    return e :: es

/-- The body which blocks a client for a while from now on. The stop date is the day after the end. -/
def timedBlockBody (formattedMac : String) (now : DateTime) (durationMinutes : Int) : Json.Object :=
  let endDt := endOf now durationMinutes
  let nextDay := endDt.add (timespan 86400)
  [("client_mac", .str formattedMac), ("start_date", .str now.formatDate),
    ("start_time", .str now.formatTime), ("stop_date", .str nextDay.formatDate),
    ("stop_time", .str endDt.formatTime)]

/-- Pass 2 of `ApplyClientAccessChanges` on one entry. -/
def requestClientAccess (subscriberId : String) (entry : ValidatedClientEntry) :
    Portal CallResult := do
  if entry.access = "deny" then
    if entry.hasDuration then
      let t ← Portal.clock
      ParentalControl.createClientAccess subscriberId
        (timedBlockBody entry.formattedMac (DateTime.ofTimestamp t) entry.durationMinutes)
    else
      ParentalControl.createClientAccess subscriberId [("client_mac", .str entry.formattedMac)]
  else ParentalControl.deleteClientAccess subscriberId entry.formattedMac

/-- Pass 2 of `ApplyClientAccessChanges`: the response of the last call. -/
def requestClientAccesses (subscriberId : String) :
    List ValidatedClientEntry → Option Json.Object → Attempt (Option Json.Object)
  | [], lastCallResponse => return lastCallResponse
  | entry :: entries, _ => do
    let r ← requestClientAccess subscriberId entry
    ensure r.success (CallResult.failure r.status r.response)
    requestClientAccesses subscriberId entries r.response

/-- The configuration with the snapshot of the last response, or without one. -/
def updateConfigRaw (config : Json.Object) (lastCallResponse : Option Json.Object) : Json.Object :=
  match lastCallResponse.bind fun o => RestApi.extractConfigRawSnapshot (some o) false with
  | some (some (cmd :: cmds)) => config.set "config-raw" (.arr (cmd :: cmds))
  | _ => config.remove "config-raw"

/-- `ApplyClientAccessChanges` -/
def applyClientAccessChanges (conv : Conversions) (config body : Json.Object)
    (subscriberId : String) : Attempt Json.Object := do
  match body.getArray? "client" with
  | none | some [] => throw (badRequest Errors.missingOrInvalidParameters)
  | some clientList =>
    let validatedEntries ← validateClientEntries conv clientList
    let lastCallResponse ← requestClientAccesses subscriberId validatedEntries none
    return updateConfigRaw config lastCallResponse

end ClientAccess

/-! ## Configure requests -/

/-- The fields of a `ProvObjects::SubscriberDevice` which are used. -/
structure SubscriberDevice where
  serialNumber : String := ""
  deviceGroup : String := ""
  realMacAddress : String := ""
  deriving DecidableEq

/-- `IsSameSerial` -/
def isSameSerial (lhs rhs : String) : Bool :=
  match Utils.normalizeMac lhs, Utils.normalizeMac rhs with
  | some l, some r => l = r
  | _, _ => lhs = rhs

/-- The failure of `Configure`, of which a status 200 is no part. -/
def configureFailure (r : CallResult) : CallResult :=
  CallResult.failure (if r.status = HTTPStatus.ok then HTTPStatus.internalServerError else r.status)
    r.response

/-- The loop of `SetConfig` over the mesh devices. -/
def configureMesh (bearerToken gatewaySerial : String) :
    List SubscriberDevice → Json.Object → Attempt Unit
  | [], _ => return ()
  | device :: devices, meshConfig => do
    if device.serialNumber = "" || isSameSerial device.serialNumber gatewaySerial then
      configureMesh bearerToken gatewaySerial devices meshConfig
    else
      let (r, meshConfig) ← configure bearerToken device.serialNumber meshConfig
      ensure r.success (configureFailure r)
      configureMesh bearerToken gatewaySerial devices meshConfig

/-- The gateway's device record and its configuration. -/
def fetchGateway (bearerToken gatewaySerial : String) : Attempt (Json.Object × Json.Object) := do
  let r ← getConfig bearerToken gatewaySerial
  ensure r.success (CallResult.failure r.status r.response)
  match r.response with
  | some deviceObj =>
    match deviceObj.getObject? "configuration" with
    | some config => return (deviceObj, config)
    | none => throw (badRequest Errors.missingOrInvalidParameters)
  | none => throw (badRequest Errors.missingOrInvalidParameters)

/-- The SSID changes of a request body, if it has any. -/
def updateSsid (conv : Conversions) (config body : Json.Object) : Attempt Json.Object :=
  if body.has "ssid" then ExceptT.mk (pure (applySsidOverrides conv config body)) else pure config

/-- The client-access changes of a request body, if it has any. -/
def updateClientAccess (conv : Conversions) (config body : Json.Object) (subscriberId : String) :
    Attempt Json.Object :=
  if body.has "client" then applyClientAccessChanges conv config body subscriberId else pure config

/-- Send the mesh configuration to the mesh devices. -/
def pushMeshConfig (bearerToken gatewaySerial : String) (subscriberDevices : List SubscriberDevice)
    (deviceObj : Json.Object) : Attempt Unit :=
  match ConfigMaker.buildMeshConfig (some deviceObj) with
  | some meshConfig => configureMesh bearerToken gatewaySerial subscriberDevices meshConfig
  | none => throw internalError

/-- Send the updated configuration to the gateway, and to the mesh devices when it changes SSIDs. -/
def pushConfig (bearerToken : String) (body : Json.Object) (subscriberDevices : List SubscriberDevice)
    (gatewaySerial : String) (deviceObj config : Json.Object) : Attempt Unit := do
  let (r, config) ← configure bearerToken gatewaySerial config
  ensure r.success (configureFailure r)
  if !body.has "ssid" || subscriberDevices.length ≤ 1 then return ()
  else
    -- the configuration was changed in place, inside the device record
    pushMeshConfig bearerToken gatewaySerial subscriberDevices
      (deviceObj.set "configuration" (.obj config))

variable (conv : Conversions) (condense : Json.Object → String)

/-- The steps of `SetConfig`. -/
def setConfigSteps (bearerToken : String) (body : Option Json.Object)
    (subscriberDevices : List SubscriberDevice) (gatewaySerial subscriberId : String) :
    Attempt Unit := do
  match body with
  | none => throw (badRequest Errors.missingOrInvalidParameters)
  | some body =>
    ensure (!subscriberDevices.isEmpty) (badRequest Errors.subNoDeviceActivated)
    ensure (gatewaySerial ≠ "") (badRequest Errors.missingSerialNumber)
    let (deviceObj, config) ← fetchGateway bearerToken gatewaySerial
    let updated ← updateSsid conv config body
    let updated ← updateClientAccess conv updated body subscriberId
    if condense updated = condense config then return ()
    else pushConfig bearerToken body subscriberDevices gatewaySerial deviceObj updated

/-- `SetConfig` -/
def setConfig (bearerToken : String) (body : Option Json.Object)
    (subscriberDevices : List SubscriberDevice) (gatewaySerial subscriberId : String) :
    Portal CallResult := do
  match ← (setConfigSteps conv condense bearerToken body subscriberDevices gatewaySerial
      subscriberId).run with
  | .ok _ => return { success := true, status := HTTPStatus.ok, response := some [] }
  | .error r => return r

end UserPortal.Sdk.Gw
