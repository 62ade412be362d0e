import UserPortal.RestApi.ScheduleTimes

/-!
# Requests with flags

`ParsedScheduleRequest` as the source keeps it: what may be absent, `null` or a text is an optional value
with a flag, and the target is a kind, a value and a flag, which `ParseAndValidateScheduleRequest` fills in
from whatever request it is given. It comes to the request of `Schedules` with its sums, and the payload is
the same: nothing of the request that was passed in is left.
-/

namespace UserPortal.RestApi.ParentalControl.Flagged
open Interaction

/-- `ParsedScheduleRequest` -/
structure ParsedScheduleRequest where
  name : String := ""
  description : Option String := none
  hasDescription : Bool := false
  enabled : Bool := true
  targetKind : String := ""
  targetValue : String := ""
  hasTargetValue : Bool := false
  startMinute : Int := 0
  stopMinute : Int := 0
  /-- `none` is the null pointer -/
  weekdays : Option (List Json) := none

/-! ## Parsing -/

section Parse

variable (conv : Conversions) (body : Json.Object) (out : ParsedScheduleRequest)

def parseName : Except String ParsedScheduleRequest := do
  let name ← requireString body "name" "name is required"
  let out := { out with name := Utils.trim name }
  if out.name = "" then throw "name must be non-empty" else return out

def parseAppTarget : Except String ParsedScheduleRequest := do
  let out := { out with hasTargetValue := true }
  let targetValue ←
    requireString body "target_value" "APP schedules require a non-empty target_value"
  let out := { out with targetValue := Utils.trim targetValue }
  if out.targetValue = "" then throw "APP schedules require a non-empty target_value" else return out

def parseInternetTarget : Except String ParsedScheduleRequest :=
  if body.has "target_value" then
    let out := { out with hasTargetValue := true }
    if body.isNull "target_value" then return { out with targetValue := "" }
    else throw "INTERNET schedules require target_value to be null"
  else return { out with hasTargetValue := false, targetValue := "" }

def parseTarget : Except String ParsedScheduleRequest := do
  let targetKind ← requireString body "target_kind" "target_kind is required"
  let out := { out with targetKind }
  if targetKind ≠ "INTERNET" ∧ targetKind ≠ "APP" then throw "target_kind must be INTERNET or APP"
  else if targetKind = "APP" then parseAppTarget body out
  else parseInternetTarget body out

def parseTimes : Except String ParsedScheduleRequest := do
  let startMinute ← parseTime body "start_time" "start_time must use HH:MM format"
  let out := { out with startMinute }
  let stopMinute ← parseTime body "stop_time" "stop_time must use HH:MM format"
  let out := { out with stopMinute }
  if out.startMinute = out.stopMinute then
    throw "start_time and stop_time must not represent the same minute"
  else return out

def parseWeekdays : Except String ParsedScheduleRequest := do
  let weekdays ← ParentalControl.parseWeekdays conv body
  return { out with weekdays := some weekdays }

def parseEnabled (enabledRequired : Bool) : Except String ParsedScheduleRequest :=
  if enabledRequired then
    match body.get? "enabled" with
    | some (.bool enabled) => return { out with enabled }
    | _ => throw "enabled is required and must be a boolean"
  else
    match body.get? "enabled" with
    | some (.bool enabled) => return { out with enabled }
    | some _ => throw "enabled must be a boolean"
    | none => return { out with enabled := true }

def parseDescription : Except String ParsedScheduleRequest :=
  match body.get? "description" with
  | some .null => return { out with hasDescription := true, description := none }
  | some (.str desc) => return { out with hasDescription := true, description := some (Utils.trim desc) }
  | some _ => throw "description must be a string or null"
  | none => return { out with hasDescription := false, description := none }

/-- `ParseAndValidateScheduleRequest`, which fills in the request it is given. -/
def parseAndValidateScheduleRequest (enabledRequired : Bool) : Except String ParsedScheduleRequest :=
  match body.getNames.find? fun name => name ∉ scheduleFields with
  | some name => throw ("Unknown field: " ++ name)
  | none => do
    let out ← parseName body out
    parseActionType body
    let out ← parseTarget body out
    let out ← parseTimes body out
    let out ← parseWeekdays conv body out
    let out ← parseEnabled body out enabledRequired
    parseDescription body out

end Parse

/-- `BuildScheduleRequestBody` -/
def buildScheduleRequestBody (req : ParsedScheduleRequest) : Json.Object :=
  let body : Json.Object := Json.Object.set [] "name" (.str req.name)
  let body :=
    if req.hasDescription then
      match req.description with
      | some description => body.set "description" (.str description)
      | none => body.set "description" .null
    else body
  let body := body.set "enabled" (.bool req.enabled)
  let body := body.set "action_type" (.str "BLOCK")
  let body := body.set "target_kind" (.str req.targetKind)
  let body :=
    if req.targetKind = "APP" then body.set "target_value" (.str req.targetValue)
    else if req.hasTargetValue then body.set "target_value" .null
    else body
  let body := body.set "start_minute" (.int req.startMinute)
  let body := body.set "stop_minute" (.int req.stopMinute)
  body.set "weekdays" (match req.weekdays with
    | some weekdays => .arr weekdays
    | none => .null)

/-! ## Refinement -/

/-- The flags and values of a target. -/
def withTarget (out : ParsedScheduleRequest) : Target → ParsedScheduleRequest
  | .internet hasTargetValue => { out with targetKind := "INTERNET", hasTargetValue, targetValue := "" }
  | .app targetValue => { out with targetKind := "APP", hasTargetValue := true, targetValue }

/-- The flags and values of a request. -/
def ofRequest (request : ParentalControl.ParsedScheduleRequest) : ParsedScheduleRequest :=
  withTarget
    { name := request.name
      description := request.description.join
      hasDescription := request.description.isSome
      enabled := request.enabled
      startMinute := request.startMinute
      stopMinute := request.stopMinute
      weekdays := some request.weekdays }
    request.target

variable {conv : Conversions} {body : Json.Object} {enabledRequired : Bool}

lemma parseName_eq (body : Json.Object) (out : ParsedScheduleRequest) :
    parseName body out =
      (requireTrimmed body "name" "name is required" "name must be non-empty").map
        fun name => { out with name } := by
  rw [parseName, requireTrimmed]
  cases requireString body "name" "name is required" with
  | error e => rfl
  | ok name =>
    rw [except_ok_bind, except_ok_bind]
    dsimp only
    split
    · rfl
    · rfl

lemma parseTarget_eq (body : Json.Object) (out : ParsedScheduleRequest) :
    parseTarget body out = (ParentalControl.parseTarget body).map (withTarget out) := by
  rw [parseTarget, ParentalControl.parseTarget]
  cases requireString body "target_kind" "target_kind is required" with
  | error e => rfl
  | ok targetKind =>
    rw [except_ok_bind, except_ok_bind]
    by_cases internet : targetKind = "INTERNET"
    · subst internet
      rw [if_neg (by decide), if_neg (by decide), if_pos rfl, parseInternetTarget]
      cases has : body.has "target_value" with
      | true =>
        rw [if_pos rfl]
        split
        · rfl
        · rfl
      | false =>
        have null : body.isNull "target_value" = true := by
          rw [Json.Object.isNull, Json.Object.has_eq_false_iff.mp has]
        rw [if_neg Bool.false_ne_true, if_pos null]
        rfl
    · by_cases app : targetKind = "APP"
      · subst app
        rw [if_neg (by decide), if_pos rfl, if_neg (by decide), if_pos rfl, parseAppTarget, requireTrimmed]
        cases requireString body "target_value" "APP schedules require a non-empty target_value" with
        | error e => rfl
        | ok targetValue =>
          rw [except_ok_bind, except_ok_bind]
          dsimp only
          split
          · rfl
          · rfl
      · rw [if_pos ⟨internet, app⟩, if_neg internet, if_neg app]
        rfl

lemma parseTimes_eq (body : Json.Object) (out : ParsedScheduleRequest) :
    parseTimes body out = (ParentalControl.parseTimes body).map fun times =>
      { out with startMinute := times.1, stopMinute := times.2 } := by
  rw [parseTimes, ParentalControl.parseTimes]
  cases parseTime body "start_time" "start_time must use HH:MM format" with
  | error e => rfl
  | ok startMinute =>
    cases parseTime body "stop_time" "stop_time must use HH:MM format" with
    | error e => rfl
    | ok stopMinute =>
      rw [except_ok_bind, except_ok_bind, except_ok_bind, except_ok_bind]
      dsimp only
      split
      · rfl
      · rfl

lemma parseWeekdays_eq (conv : Conversions) (body : Json.Object) (out : ParsedScheduleRequest) :
    parseWeekdays conv body out = (ParentalControl.parseWeekdays conv body).map fun weekdays =>
      { out with weekdays := some weekdays } := rfl

lemma parseEnabled_eq (body : Json.Object) (out : ParsedScheduleRequest) (enabledRequired : Bool) :
    parseEnabled body out enabledRequired =
      (ParentalControl.parseEnabled body enabledRequired).map fun enabled => { out with enabled } := by
  rw [parseEnabled, ParentalControl.parseEnabled]
  cases enabledRequired with
  | true =>
    rcases body.get? "enabled" with _ | v
    · rfl
    · cases v <;> rfl
  | false =>
    rcases body.get? "enabled" with _ | v
    · rfl
    · cases v <;> rfl

lemma parseDescription_eq (body : Json.Object) (out : ParsedScheduleRequest) :
    parseDescription body out = (ParentalControl.parseDescription body).map fun description =>
      { out with description := description.join, hasDescription := description.isSome } := by
  rw [parseDescription, ParentalControl.parseDescription]
  rcases body.get? "description" with _ | v
  · rfl
  · cases v <;> rfl

/-- What is filled in is the request, whatever there was before. -/
theorem parseAndValidateScheduleRequest_eq (conv : Conversions) (body : Json.Object)
    (out : ParsedScheduleRequest) (enabledRequired : Bool) :
    parseAndValidateScheduleRequest conv body out enabledRequired =
      (ParentalControl.parseAndValidateScheduleRequest conv body enabledRequired).map ofRequest := by
  rw [parseAndValidateScheduleRequest, ParentalControl.parseAndValidateScheduleRequest]
  cases body.getNames.find? fun name => name ∉ scheduleFields with
  | some name => rfl
  | none =>
    simp only [parseName_eq]
    cases requireTrimmed body "name" "name is required" "name must be non-empty" with
    | error e => rfl
    | ok name =>
      cases parseActionType body with
      | error e => rfl
      | ok _ =>
        simp only [Except.map, except_ok_bind, parseTarget_eq]
        cases ParentalControl.parseTarget body with
        | error e => rfl
        | ok target =>
          simp only [Except.map, except_ok_bind, parseTimes_eq]
          cases ParentalControl.parseTimes body with
          | error e => rfl
          | ok times =>
            simp only [Except.map, except_ok_bind, parseWeekdays_eq]
            cases ParentalControl.parseWeekdays conv body with
            | error e => rfl
            | ok weekdays =>
              simp only [Except.map, except_ok_bind, parseEnabled_eq]
              cases ParentalControl.parseEnabled body enabledRequired with
              | error e => rfl
              | ok enabled =>
                simp only [Except.map, except_ok_bind, parseDescription_eq]
                cases ParentalControl.parseDescription body with
                | error e => rfl
                | ok description =>
                  cases target <;> rfl

/-- The payload of a request is the same with flags. -/
theorem buildScheduleRequestBody_ofRequest (request : ParentalControl.ParsedScheduleRequest) :
    buildScheduleRequestBody (ofRequest request) = ParentalControl.buildScheduleRequestBody request := by
  obtain ⟨name, description, enabled, target, startMinute, stopMinute, weekdays⟩ := request
  rcases description with _ | _ | description
  · cases target with
    | internet hasTargetValue => cases hasTargetValue <;> rfl
    | app => rfl
  · cases target with
    | internet hasTargetValue => cases hasTargetValue <;> rfl
    | app => rfl
  · cases target with
    | internet hasTargetValue => cases hasTargetValue <;> rfl
    | app => rfl

end UserPortal.RestApi.ParentalControl.Flagged
