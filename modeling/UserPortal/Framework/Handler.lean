import UserPortal.Framework.OpenAPIRequests

/-!
# Handler answers

Port of the error messages of `src/framework/ow_constants.h` which are used here and of the functions
of `src/framework/RESTAPI_Handler.h` with which a handler answers its request.
-/

namespace UserPortal

/-- `RESTAPI::Errors::msg` -/
structure ErrorMsg where
  errNum : Nat
  errTxt : String
  deriving DecidableEq

namespace Errors

def accessDenied : ErrorMsg := ⟨7, "Access denied."⟩

def invalidToken : ErrorMsg := ⟨8, "Invalid token."⟩

def expiredToken : ErrorMsg := ⟨9, "Expired token."⟩

def rateLimitExceeded : ErrorMsg := ⟨10, "Rate limit exceeded."⟩

def securityServiceUnreachable : ErrorMsg :=
  ⟨13, "Security service is unreachable, try again later."⟩

def error404 : ErrorMsg := ⟨404, "Resource does not exist."⟩

def missingUUID : ErrorMsg := ⟨1000, "Missing UUID."⟩

def missingSerialNumber : ErrorMsg := ⟨1001, "Missing Serial Number."⟩

def internalError : ErrorMsg := ⟨1002, "Internal error. Please try later."⟩

def invalidJSONDocument : ErrorMsg := ⟨1003, "Invalid JSON document."⟩

def unsupportedHTTPMethod : ErrorMsg := ⟨1004, "Unsupported HTTP Method"⟩

def configBlockInvalid : ErrorMsg := ⟨1008, "Configuration block type invalid."⟩

def unknownId : ErrorMsg := ⟨1009, "Unknown UUID."⟩

def configurationMustExist : ErrorMsg := ⟨1017, "Configuration must exist."⟩

def missingOrInvalidParameters : ErrorMsg := ⟨1018, "Invalid or missing parameters."⟩

def invalidMacAddress : ErrorMsg := ⟨1019, "Invalid MAC address."⟩

def invalidSerialNumber : ErrorMsg := ⟨1020, "Invalid Serial Number"⟩

def venueMustExist : ErrorMsg := ⟨1023, "Venue does not exist."⟩

def invalidEmailAddress : ErrorMsg := ⟨1040, "Invalid email address."⟩

def serialNumberAlreadyProvisioned : ErrorMsg :=
  ⟨1059, "This device has already been provisioned to a subscriber."⟩

def operatorIdMustExist : ErrorMsg := ⟨1066, "Missing or bad Operator ID"⟩

def invalidSubscriberId : ErrorMsg := ⟨1073, "Invalid subscriber ID."⟩

def invalidRegistrationOperatorName : ErrorMsg := ⟨1082, "Invalid registration operator name."⟩

def subNoDeviceActivated : ErrorMsg := ⟨1100, "No devices activated yet."⟩

def ssidInvalidPassword : ErrorMsg :=
  ⟨1103, "Invalid password length. Must be between 8 and 32 characters without spaces."⟩

def ssidInvalidName : ErrorMsg :=
  ⟨1193, "Invalid SSID. Allowed characters: 1 to 32 chars (letters, digits, dot, underscore, hyphen, space.)"⟩

def addDeviceFailed : ErrorMsg := ⟨1194, "Failed to add new device."⟩

def applyConfigFailed : ErrorMsg := ⟨1195, "Failed to apply configuration to device."⟩

def durationCrossesMidnight : ErrorMsg :=
  ⟨1201, "Duration crosses midnight. Duration-based client blocking is limited to the current block day."⟩

def durationNotAllowedForAllow : ErrorMsg :=
  ⟨1202, "Duration is not allowed when access is set to 'allow'."⟩

def invalidDuration : ErrorMsg :=
  ⟨1203, "Duration must be a positive integer greater than or equal to 1."⟩

def invalidAccess : ErrorMsg := ⟨1204, "Access must be 'allow' or 'deny'."⟩

def timezoneRequired : ErrorMsg :=
  ⟨1205, "Subscriber timezone is required. Set the venue timezone before continuing."⟩

def subscriberLocationAlreadyConfigured : ErrorMsg :=
  ⟨1206, "A location is already configured for this subscriber venue."⟩

end Errors

/-- The description of an error in a reply. -/
def ErrorMsg.describe (e : ErrorMsg) (extra : String) : String :=
  if extra = "" then toString e.errNum ++ ": " ++ e.errTxt
  else toString e.errNum ++ ": " ++ e.errTxt ++ " (" ++ extra ++ ")"

/-- The answer of a handler: its status and its document, if there is one. -/
structure HandlerAnswer where
  status : HTTPStatus
  document : Option Json.Object
  deriving DecidableEq

namespace HandlerAnswer

variable (method : String)

/-- An error answer. -/
def error (status : HTTPStatus) (code : Int) (e : ErrorMsg) (extra : String) : HandlerAnswer where
  status := status
  document := some [("ErrorCode", .int code), ("ErrorDescription", .str (e.describe extra)),
    ("ErrorDetails", .str method)]

/-- `BadRequest` -/
def badRequest (e : ErrorMsg) (extra : String) : HandlerAnswer :=
  error method HTTPStatus.badRequest 400 e extra

/-- `InternalError` -/
def internalError (e : ErrorMsg) : HandlerAnswer :=
  error method HTTPStatus.internalServerError 500 e ""

/-- `UnAuthorized`, whose code is the number of the error. -/
def unAuthorized (e : ErrorMsg) : HandlerAnswer :=
  error method HTTPStatus.forbidden e.errNum e ""

/-- `NotFound` -/
def notFound : HandlerAnswer := error method HTTPStatus.notFound 404 Errors.error404 ""

/-- `ForwardErrorResponse` -/
def forwardErrorResponse (callStatus : HTTPStatus) (callResponse : Option Json.Object) :
    HandlerAnswer where
  status := callStatus
  document := some (callResponse.getD [])

/-- `OK` -/
def success : HandlerAnswer where
  status := HTTPStatus.ok
  document :=
    if method = "DELETE" ∨ method = "OPTIONS" then none
    else some [("Code", .int 0), ("Details", .str "Command completed."), ("Operation", .str method)]

/-- `ReturnObject` -/
def returnObject (o : Json.Object) : HandlerAnswer where
  status := HTTPStatus.ok
  document := some o

end HandlerAnswer

/-- A step of a handler, which may answer the request. -/
abbrev Handling := ExceptT HandlerAnswer Portal

/-- The answer of a handler: `OK` after its steps, unless one of them has answered. -/
def Handling.answer (method : String) (steps : Handling Unit) : Portal HandlerAnswer := do
  match ← steps.run with
  | .ok _ => return HandlerAnswer.success method
  | .error sent => return sent

/-- The answer of a handler: the object its steps return, unless one of them has answered. -/
def Handling.returned (steps : Handling Json.Object) : Portal HandlerAnswer := do
  match ← steps.run with
  | .ok o => return HandlerAnswer.returnObject o
  | .error sent => return sent

end UserPortal
