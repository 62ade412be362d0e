import UserPortal.Framework.Handler

/-!
# Call results

The functions of `src/sdks` return a `bool` and leave a status and a response object in their
reference parameters; a `CallResult` holds the three.
-/

namespace UserPortal.Sdk

/-- What a function of an SDK returns. -/
structure CallResult where
  success : Bool
  status : HTTPStatus
  response : Option Json.Object
  deriving DecidableEq

/-- `SetErrorResponse` -/
def setErrorResponse (status : HTTPStatus) (e : ErrorMsg) : CallResult where
  success := false
  status := status
  response := some [("ErrorCode", .int status), ("ErrorDescription", .str (e.describe ""))]

/-- The failure of a call, with its status and its response object. -/
def CallResult.failure (status : HTTPStatus) (response : Option Json.Object) : CallResult where
  success := false
  status := status
  response := some (response.getD [])

/-- A failure in both channels. -/
def CallResult.Failed (r : CallResult) : Prop := r.success = false ∧ r.status ≠ HTTPStatus.ok

end UserPortal.Sdk
