import UserPortal.Calendar.Format
import UserPortal.Calendar.Zone
import UserPortal.Data.Ordered
import UserPortal.Framework.Dynamic
import UserPortal.Framework.Utils

/-!
# Schedules

Port of the schedule helpers of `src/RESTAPI/RESTAPI_parental_control_utils.cpp`. The subscriber gives
the times of a schedule in the time zone of the venue; the parental-control service keeps minutes of
the UTC day, with the weekdays on which the schedule starts in UTC. `ConvertScheduleTimesToUtc` and
`NormalizeScheduleResponse` go back and forth, both on the day it is in the time zone.

The time zone database is a parameter: `locateZone` is `date::locate_zone`, `none` where it throws.
A clock reading is in microseconds, everything else in whole seconds, minutes or days.
-/

namespace UserPortal.RestApi.ParentalControl
open Calendar Data

/-! ## Weekdays and minutes -/

/-- `MinuteToTimeString` -/
def minuteToTimeString (minuteOfDay : Int) : Option String :=
  if minuteOfDay < 0 ∨ minuteOfDay > 1439 then none
  else
    some (String.ofList (pad0 2 (minuteOfDay.tdiv 60) ++ ':' :: pad0 2 (minuteOfDay.tmod 60)))

/-- A weekday moved by some days, `((day + shift) % 7 + 7) % 7`. -/
def shiftDay (shift day : Int) : Int := ((day + shift).tmod 7 + 7).tmod 7

variable (conv : Conversions)

/-- `ShiftWeekdays`, `none` where an element does not convert. -/
def shiftWeekdays (weekdays : List Json) (shift : Int) : Option (List Json) :=
  if weekdays = [] ∨ shift = 0 then some weekdays
  else (weekdays.mapM conv.toInt).map fun days => (toSet (days.map (shiftDay shift))).map .int

/-- `ParseTimeString` -/
def parseTimeString (value : Json) : Option Int :=
  match value with
  | .str s =>
    match s.toList with
    | [a, b, ':', c, d] =>
      if a.isDigit && b.isDigit && c.isDigit && d.isDigit then
        let hour : Int := (a.toNat - 48) * 10 + (b.toNat - 48)
        let minute : Int := (c.toNat - 48) * 10 + (d.toNat - 48)
        if hour > 23 ∨ minute > 59 then none else some (hour * 60 + minute)
      else none
    | _ => none
  | _ => none

/-- The loop of `ValidateWeekdays`. -/
def validateDays : List Json → List Int → Bool
  | [], _ => true
  | w :: ws, seenDays =>
    match conv.toInt w with
    | some day =>
      if day < 0 ∨ day > 6 ∨ day ∈ seenDays then false else validateDays ws (insertKey day seenDays)
    | none => false

/-- `ValidateWeekdays` -/
def validateWeekdays (weekdays : List Json) : Bool := weekdays ≠ [] && validateDays conv weekdays []

/-! ## Requests -/

/-- What a schedule blocks: `target_kind` with its `target_value`. -/
inductive Target where
  /-- `INTERNET`, with or without a `target_value` of `null` -/
  | internet (hasTargetValue : Bool)
  | app (targetValue : String)
  deriving DecidableEq

/-- `ParsedScheduleRequest` -/
structure ParsedScheduleRequest where
  name : String
  /-- absent, `null` or a text -/
  description : Option (Option String)
  enabled : Bool
  target : Target
  startMinute : Int
  stopMinute : Int
  weekdays : List Json

/-- The keys of a schedule request. -/
def scheduleFields : List String :=
  ["name", "description", "enabled", "action_type", "target_kind", "target_value", "start_time",
    "stop_time", "weekdays"]

/-- The value of a key, when it is a string: `has`, not `isNull` and `isString`. -/
def requireString (body : Json.Object) (k message : String) : Except String String :=
  match body.getString? k with
  | some s => .ok s
  | none => .error message

/-- A string which is not empty once trimmed. -/
def requireTrimmed (body : Json.Object) (k missing message : String) : Except String String := do
  let s ← requireString body k missing
  if Utils.trim s = "" then throw message else return Utils.trim s

def parseActionType (body : Json.Object) : Except String Unit :=
  if body.getString? "action_type" = some "BLOCK" then .ok ()
  else .error "action_type must be BLOCK"

def parseTarget (body : Json.Object) : Except String Target := do
  let targetKind ← requireString body "target_kind" "target_kind is required"
  if targetKind = "INTERNET" then
    if body.isNull "target_value" then return .internet (body.has "target_value")
    else throw "INTERNET schedules require target_value to be null"
  else if targetKind = "APP" then
    let targetValue ← requireTrimmed body "target_value"
      "APP schedules require a non-empty target_value" "APP schedules require a non-empty target_value"
    return .app targetValue
  else throw "target_kind must be INTERNET or APP"

/-- A time of the day. -/
def parseTime (body : Json.Object) (k message : String) : Except String Int :=
  match (body.get? k).bind parseTimeString with
  | some minuteOfDay => .ok minuteOfDay
  | none => .error message

/-- The start and the stop, which differ. -/
def parseTimes (body : Json.Object) : Except String (Int × Int) := do
  let startMinute ← parseTime body "start_time" "start_time must use HH:MM format"
  let stopMinute ← parseTime body "stop_time" "stop_time must use HH:MM format"
  if startMinute = stopMinute then
    throw "start_time and stop_time must not represent the same minute"
  else return (startMinute, stopMinute)

def parseWeekdays (body : Json.Object) : Except String (List Json) :=
  match body.getArray? "weekdays" with
  | some weekdays =>
    if validateWeekdays conv weekdays then .ok weekdays
    else .error "weekdays must contain distinct values in the range 0..6"
  | none => .error "weekdays must contain distinct values in the range 0..6"

def parseEnabled (body : Json.Object) (enabledRequired : Bool) : Except String Bool :=
  match body.get? "enabled" with
  | some (.bool b) => .ok b
  | none => if enabledRequired then .error "enabled is required and must be a boolean" else .ok true
  | some _ =>
    if enabledRequired then .error "enabled is required and must be a boolean"
    else .error "enabled must be a boolean"

def parseDescription (body : Json.Object) : Except String (Option (Option String)) :=
  match body.get? "description" with
  | none => .ok none
  | some .null => .ok (some none)
  | some (.str s) => .ok (some (some (Utils.trim s)))
  | some _ => .error "description must be a string or null"

/-- `ParseAndValidateScheduleRequest`: the request, or the details of the bad request
`MissingOrInvalidParameters`. -/
def parseAndValidateScheduleRequest (body : Json.Object) (enabledRequired : Bool) :
    Except String ParsedScheduleRequest :=
  match body.getNames.find? fun name => name ∉ scheduleFields with
  | some name => .error ("Unknown field: " ++ name)
  | none => do
    let name ← requireTrimmed body "name" "name is required" "name must be non-empty"
    parseActionType body
    let target ← parseTarget body
    let (startMinute, stopMinute) ← parseTimes body
    let weekdays ← parseWeekdays conv body
    let enabled ← parseEnabled body enabledRequired
    let description ← parseDescription body
    return { name, description, enabled, target, startMinute, stopMinute, weekdays }

/-- `BuildScheduleRequestBody` -/
def buildScheduleRequestBody (req : ParsedScheduleRequest) : Json.Object :=
  let body : Json.Object := [("action_type", .str "BLOCK")]
  let body := body.set "name" (.str req.name)
  let body := match req.description with
    | some (some description) => body.set "description" (.str description)
    | some none => body.set "description" .null
    | none => body
  let body := body.set "enabled" (.bool req.enabled)
  let body := match req.target with
    | .app targetValue =>
      (body.set "target_kind" (.str "APP")).set "target_value" (.str targetValue)
    | .internet hasTargetValue =>
      let body := body.set "target_kind" (.str "INTERNET")
      if hasTargetValue then body.set "target_value" .null else body
  ((body.set "start_minute" (.int req.startMinute)).set "stop_minute" (.int req.stopMinute)).set
    "weekdays" (.arr req.weekdays)

/-! ## Conversion to UTC -/

/-- The minute of the UTC day. -/
def minuteOfDay (t : Int) : Int := t % 86400 / 60

/-- The minute of the local day. -/
def localMinuteOfDay (zone : Zone) (t : Int) : Int := minuteOfDay (zone.toLocal t)

/-- The local time of a minute of a day: `day + hours(minute / 60) + minutes(minute % 60)`. -/
def localTime (day minute : Int) : Int := day * 86400 + minute.tdiv 60 * 3600 + minute.tmod 60 * 60

namespace ParsedScheduleRequest

/-- The local time at which the schedule starts on a day. -/
def localStart (request : ParsedScheduleRequest) (localDate : Int) : Int :=
  localTime localDate request.startMinute

/-- The local time at which it stops; an overnight schedule stops on the next day. -/
def localStop (request : ParsedScheduleRequest) (localDate : Int) : Int :=
  localTime (if request.stopMinute ≤ request.startMinute then localDate + 1 else localDate)
    request.stopMinute

end ParsedScheduleRequest

/-- The local day of a clock reading. -/
def today (zone : Zone) (sysNow : Int) : Int := zone.localDay (sysNow / 1000000)

/-- `ConvertScheduleTimesToUtc`, `none` where it returns false. -/
def convertScheduleTimesToUtc (locateZone : String → Option Zone) (sysNow : Int) (timezoneStr : String)
    (request : ParsedScheduleRequest) : Option ParsedScheduleRequest :=
  if timezoneStr = "" then none
  else
    match locateZone timezoneStr with
    | none => none
    | some zone =>
      let localDate := today zone sysNow
      let sysStart := zone.toSys (request.localStart localDate)
      let sysStop := zone.toSys (request.localStop localDate)
      (shiftWeekdays conv request.weekdays (sysStart / 86400 - localDate)).map fun weekdays =>
        { request with
          startMinute := minuteOfDay sysStart
          stopMinute := minuteOfDay sysStop
          weekdays }

/-! ## Conversion back -/

/-- The UTC day on which `NormalizeScheduleResponse` puts the start of a schedule: that of local
midnight, corrected by the days between the local day it would give and the local day it is. -/
def utcDayOf (zone : Zone) (localDay startMinute : Int) : Int :=
  let utcDay := zone.toSys (localDay * 86400) / 86400
  utcDay + (localDay - zone.localDay (utcDay * 86400 + startMinute * 60))

/-- The instant at which `NormalizeScheduleResponse` puts the start. -/
def readStart (zone : Zone) (localDay startMinute : Int) : Int :=
  utcDayOf zone localDay startMinute * 86400 + startMinute * 60

/-- The instant at which it puts the stop, after the start. -/
def readStop (zone : Zone) (localDay startMinute stopMinute : Int) : Int :=
  let utcDay := utcDayOf zone localDay startMinute
  (if stopMinute ≤ startMinute then utcDay + 1 else utcDay) * 86400 + stopMinute * 60

/-- The weekdays of a response moved by some days. -/
def shiftResponseWeekdays (schedule : Json.Object) (shift : Int) : Option Json.Object :=
  match schedule.getArray? "weekdays" with
  | some weekdays =>
    (shiftWeekdays conv weekdays shift).map fun weekdays => schedule.set "weekdays" (.arr weekdays)
  | none => some schedule

/-- `NormalizeScheduleResponse`: what it returns, and the object it has changed in place. -/
def normalizeScheduleResponse (locateZone : String → Option Zone) (sysNow : Int)
    (timezoneStr : String) (schedule : Json.Object) : Bool × Json.Object :=
  if timezoneStr = "" || !schedule.has "start_minute" || !schedule.has "stop_minute" then
    (false, schedule)
  else
    match conv.getInt schedule "start_minute", conv.getInt schedule "stop_minute" with
    | some startMinute, some stopMinute =>
      if startMinute < 0 ∨ startMinute ≥ 24 * 60 ∨ stopMinute < 0 ∨ stopMinute ≥ 24 * 60 then
        (false, schedule)
      else
        match locateZone timezoneStr with
        | none => (false, schedule)
        | some zone =>
          let localDay := today zone sysNow
          let sysStart := readStart zone localDay startMinute
          let sysStop := readStop zone localDay startMinute stopMinute
          let startDayShift := zone.localDay sysStart - utcDayOf zone localDay startMinute
          match shiftResponseWeekdays conv schedule startDayShift with
          | none => (false, schedule)
          | some schedule =>
            match minuteToTimeString (localMinuteOfDay zone sysStart),
              minuteToTimeString (localMinuteOfDay zone sysStop) with
            | some startTime, some stopTime =>
              let schedule := (schedule.set "start_time" (.str startTime)).set "stop_time" (.str stopTime)
              (true, ((schedule.remove "start_minute").remove "stop_minute").remove "config-raw")
            | _, _ => (false, schedule)
    | _, _ => (false, schedule)

end UserPortal.RestApi.ParentalControl
