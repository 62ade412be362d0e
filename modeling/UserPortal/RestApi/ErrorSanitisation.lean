import Mathlib.Logic.Function.Basic
import UserPortal.RestApi.ErrorResponse

/-!
# What an error tells the client

An explained error of the parental-control service is forwarded through a view: a client-safe code whose
message is not too long, or nothing. No other byte of the reply reaches the client.
-/

namespace UserPortal.RestApi.ParentalControl

/-- A reply with an explained error: the code or the message is a string which is not blank. -/
structure DownstreamError where
  response : Json.Object
  errorObject : Json.Object
  given : response.getObject? "error" = some errorObject
  explained : errorField errorObject "code" ≠ "" ∨ errorField errorObject "message" ≠ ""

namespace DownstreamError

/-- The trimmed code, empty where it is no string. -/
def code (r : DownstreamError) : String := errorField r.errorObject "code"

/-- The trimmed message, empty where it is no string. -/
def message (r : DownstreamError) : String := errorField r.errorObject "message"

/-- The message exceeds its bound. -/
def longMessage (r : DownstreamError) : Bool := r.message.length > maxErrorMessageLength

/-- What the client may learn: a safe code. -/
def view (r : DownstreamError) : Option String :=
  if isClientSafeParentalControlErrorCode r.code && !r.longMessage then some r.code else none

end DownstreamError

/-- The body which shows a view. -/
def sanitizedBody (status : HTTPStatus) : Option String → Json.Object
  | none => normalizedError status "Parental-control service error" "parental_control_error"
  | some code => normalizedError status (safeDescriptionFromErrorCode code) code

lemma length_of_safe {code : String} (safe : isClientSafeParentalControlErrorCode code = true) :
    code.length ≤ maxErrorCodeLength := by
  have short : ∀ c ∈ safeCodes, c.length ≤ maxErrorCodeLength := by decide
  exact short code (List.contains_iff_mem.mp safe)

/-- An explained error is normalized by its view. -/
lemma normalize_eq_sanitizedBody (status : HTTPStatus) (r : DownstreamError) :
    normalizeParentalControlErrorResponse status (some r.response) =
      some (sanitizedBody status r.view) := by
  have explained : ¬ (errorField r.errorObject "code" = "" ∧ errorField r.errorObject "message" = "") :=
    fun both => r.explained.elim (fun ne => ne both.1) fun ne => ne both.2
  unfold normalizeParentalControlErrorResponse DownstreamError.view DownstreamError.longMessage
    DownstreamError.code DownstreamError.message
  rw [Option.bind_some, r.given]
  dsimp only
  rw [if_neg explained]
  cases safe : isClientSafeParentalControlErrorCode (errorField r.errorObject "code") with
  | false =>
    rw [if_pos (.inr (.inr rfl))]
    rfl
  | true =>
    have short := Nat.not_lt.mpr (length_of_safe safe)
    by_cases long : (errorField r.errorObject "message").length > maxErrorMessageLength
    · rw [if_pos (.inr (.inl long)), decide_eq_true long]
      rfl
    · rw [if_neg (by simp [short, long]), decide_eq_false long]
      rfl

lemma forward_eq_sanitizedBody (status : HTTPStatus) (r : DownstreamError) :
    forwardParentalControlErrorResponse status (some r.response) =
      HandlerAnswer.forwardErrorResponse status (some (sanitizedBody status r.view)) := by
  rw [forwardParentalControlErrorResponse]
  rw [normalize_eq_sanitizedBody]

lemma view_congr {r r' : DownstreamError} (code : r.code = r'.code)
    (long : r.longMessage = r'.longMessage) : r.view = r'.view := by
  rw [DownstreamError.view, DownstreamError.view, code, long]

lemma view_of_notSafe {r : DownstreamError}
    (notSafe : isClientSafeParentalControlErrorCode r.code = false) : r.view = none := by
  rw [DownstreamError.view, notSafe]
  rfl

/-- Errors are sanitised without interference: what is answered to an explained error factors through its
trimmed code and whether its trimmed message is too long, and is the same for all codes which are not
safe. -/
theorem forward_factorsThrough (status : HTTPStatus) :
    Function.FactorsThrough
      (fun r : DownstreamError => forwardParentalControlErrorResponse status (some r.response))
      (fun r => (r.code, r.longMessage)) ∧
    ∀ r r' : DownstreamError, isClientSafeParentalControlErrorCode r.code = false →
      isClientSafeParentalControlErrorCode r'.code = false →
      forwardParentalControlErrorResponse status (some r.response) =
        forwardParentalControlErrorResponse status (some r'.response) := by
  refine ⟨fun r r' same => ?_, fun r r' notSafe notSafe' => ?_⟩
  · obtain ⟨code, long⟩ := Prod.mk.inj same
    show forwardParentalControlErrorResponse status (some r.response) =
      forwardParentalControlErrorResponse status (some r'.response)
    rw [forward_eq_sanitizedBody, forward_eq_sanitizedBody, view_congr code long]
  · rw [forward_eq_sanitizedBody, forward_eq_sanitizedBody, view_of_notSafe notSafe,
      view_of_notSafe notSafe']

namespace TwoReplies

/-- A refused address, with blanks around the code. -/
def refused : DownstreamError where
  response := [("error", .obj [("code", .str " invalid_mac "), ("message", .str "at 10.2.3.17")])]
  errorObject := [("code", .str " invalid_mac "), ("message", .str "at 10.2.3.17")]
  given := rfl
  explained := .inl (by decide)

/-- The same, said in another way. -/
def rejected : DownstreamError where
  response := [("error", .obj [("code", .str "invalid_mac")]), ("host", .str "10.2.3.17")]
  errorObject := [("code", .str "invalid_mac")]
  given := rfl
  explained := .inl (by decide)

/-- A failure of the database. -/
def broken : DownstreamError where
  response := [("error", .obj [("code", .str "sql_error"), ("message", .str "no such table")])]
  errorObject := [("code", .str "sql_error"), ("message", .str "no such table")]
  given := rfl
  explained := .inl (by decide)

/-- A failure without a code. -/
def failed : DownstreamError where
  response := [("error", .obj [("message", .str "at 10.2.3.17")])]
  errorObject := [("message", .str "at 10.2.3.17")]
  given := rfl
  explained := .inr (by decide)

/-- The message and the other fields of an error do not show, nor which internal failure it was. -/
theorem replies_sameAnswer :
    forwardParentalControlErrorResponse HTTPStatus.badRequest (some refused.response) =
        forwardParentalControlErrorResponse HTTPStatus.badRequest (some rejected.response) ∧
      forwardParentalControlErrorResponse HTTPStatus.badRequest (some broken.response) =
        forwardParentalControlErrorResponse HTTPStatus.badRequest (some failed.response) := by
  have same : (refused.code, refused.longMessage) = (rejected.code, rejected.longMessage) := by decide +kernel
  obtain ⟨factors, hidden⟩ := forward_factorsThrough HTTPStatus.badRequest
  exact ⟨factors same, hidden broken failed (by decide +kernel) (by decide +kernel)⟩

end TwoReplies

end UserPortal.RestApi.ParentalControl
