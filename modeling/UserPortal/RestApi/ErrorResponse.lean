import UserPortal.Framework.Handler
import UserPortal.Framework.Utils

/-!
# Error answers of the parental-control service

Port of the part of `src/RESTAPI/RESTAPI_parental_control_utils.cpp` which forwards an error of the
parental-control service: its code is passed on when it is one of a fixed set, its message never is.
-/

namespace UserPortal.RestApi.ParentalControl

/-- The codes of `IsClientSafeParentalControlErrorCode`. -/
def safeCodes : List String :=
  ["invalid_request", "not_found", "unauthorized", "forbidden",
    "invalid_group", "group_not_found", "duplicate_group", "group_already_exists",
    "invalid_device", "invalid_mac", "device_not_found", "device_already_assigned",
    "device_already_exists", "group_device_already_exists",
    "invalid_schedule", "schedule_not_found", "duplicate_schedule", "schedule_already_exists",
    "group_schedule_link_not_found", "group_schedule_already_exists", "duplicate_group_schedule",
    "invalid_client_access", "client_access_not_found", "client_access_already_exists"]

/-- `IsClientSafeParentalControlErrorCode` -/
def isClientSafeParentalControlErrorCode (code : String) : Bool := safeCodes.contains code

/-- The loop of `SafeDescriptionFromErrorCode`: the first letter in upper case, the others in lower case,
a blank for every run of separators between them. -/
def describeCode : List Char → List Char → Bool → List Char
  | [], description, _ => description
  | ch :: code, description, lastWasSpace =>
    if ch = '_' ∨ ch = '-' then
      if description ≠ [] ∧ lastWasSpace = false then describeCode code (description ++ [' ']) true
      else describeCode code description lastWasSpace
    else
      describeCode code (description ++ [if description = [] then ch.toUpper else ch.toLower]) false

/-- `SafeDescriptionFromErrorCode` -/
def safeDescriptionFromErrorCode (code : String) : String :=
  match describeCode code.toList [] false with
  | [] => "Parental-control service error"
  | description => String.ofList description

/-- A field of an error object, when it is a string, else the empty string. -/
def errorField (errorObject : Json.Object) (field : String) : String :=
  Utils.trim ((errorObject.getString? field).getD "")

/-- The document of a normalized error. -/
def normalizedError (status : HTTPStatus) (description details : String) : Json.Object :=
  [("ErrorCode", .int status), ("ErrorDescription", .str description), ("ErrorDetails", .str details)]

def maxErrorCodeLength : Nat := 128

def maxErrorMessageLength : Nat := 1024

/-- `NormalizeParentalControlErrorResponse` -/
def normalizeParentalControlErrorResponse (status : HTTPStatus)
    (downstreamResponse : Option Json.Object) : Option Json.Object :=
  match downstreamResponse.bind fun o => o.getObject? "error" with
  | none => none
  | some errorObject =>
    let code := errorField errorObject "code"
    let message := errorField errorObject "message"
    if code = "" ∧ message = "" then none
    else if code.length > maxErrorCodeLength ∨ message.length > maxErrorMessageLength ∨
        isClientSafeParentalControlErrorCode code = false then
      some (normalizedError status "Parental-control service error" "parental_control_error")
    else some (normalizedError status (safeDescriptionFromErrorCode code) code)

/-- `ForwardParentalControlErrorResponse` -/
def forwardParentalControlErrorResponse (status : HTTPStatus)
    (downstreamResponse : Option Json.Object) : HandlerAnswer :=
  match normalizeParentalControlErrorResponse status downstreamResponse with
  | some normalized => HandlerAnswer.forwardErrorResponse status (some normalized)
  | none => HandlerAnswer.forwardErrorResponse status downstreamResponse

/-- An error is answered with the status of the service. -/
@[simp] lemma forwardParentalControlErrorResponse_status (status : HTTPStatus)
    (downstreamResponse : Option Json.Object) :
    (forwardParentalControlErrorResponse status downstreamResponse).status = status := by
  rw [forwardParentalControlErrorResponse]
  split
  case h_1 => rfl
  case h_2 => rfl

/-- A normalized error names a safe code, or none. -/
lemma normalize_details {status : HTTPStatus} {downstreamResponse : Option Json.Object}
    {normalized : Json.Object}
    (h : normalizeParentalControlErrorResponse status downstreamResponse = some normalized) :
    ∃ description details, normalized = normalizedError status description details ∧
      (isClientSafeParentalControlErrorCode details = true ∨ details = "parental_control_error") := by
  rw [normalizeParentalControlErrorResponse] at h
  split at h
  case h_1 => cases h
  case h_2 errorObject _ =>
    dsimp only at h
    split at h
    case isTrue => cases h
    case isFalse =>
      split at h
      case isTrue =>
        cases h
        exact ⟨_, _, rfl, .inr rfl⟩
      case isFalse ok =>
        cases h
        simp only [not_or, Bool.not_eq_false] at ok
        exact ⟨_, _, rfl, .inl ok.2.2⟩

end UserPortal.RestApi.ParentalControl
