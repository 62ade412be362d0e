import UserPortal.RestApi.AcceptedSchedules

/-!
# Weekdays as they are forwarded

`ValidateWeekdays` converts the weekdays of a body but keeps the array which came with it, and
`ShiftWeekdays` makes a new one only where the days move. Whether the service is sent integers thus
depends on the time zone and the clock, or on the body.
-/

namespace UserPortal.RestApi.ParentalControl
open Calendar Data Interaction

variable {conv : Conversions} {locateZone : String → Option Zone} {sysNow : Int} {timezoneStr : String}
  {zone : Zone} {body : Json.Object} {enabledRequired : Bool} {request : ParsedScheduleRequest}

/-- The payload which the schedule handlers send for a body, `none` where they answer by themselves. -/
def schedulePayload (conv : Conversions) (locateZone : String → Option Zone) (sysNow : Int)
    (timezoneStr : String) (body : Json.Object) (enabledRequired : Bool) : Option Json.Object :=
  match parseAndValidateScheduleRequest conv body enabledRequired with
  | .error _ => none
  | .ok request =>
    (convertScheduleTimesToUtc conv locateZone sysNow timezoneStr request).map buildScheduleRequestBody

/-- The days by which the start moves: from the local day it is to the UTC day on which it starts. -/
def startDayShift (zone : Zone) (sysNow : Int) (request : ParsedScheduleRequest) : Int :=
  zone.toSys (request.localStart (today zone sysNow)) / 86400 - today zone sysNow

/-- The payload holds, as distinct JSON integers, the days moved by the shift. -/
def HoldsDays (payload : Json.Object) (days : List Int) (shift : Int) : Prop :=
  ∃ days', payload.get? "weekdays" = some (.arr (days'.map .int)) ∧ ValidDays days' ∧
    ∀ x, x ∈ days' ↔ ∃ d ∈ days, x = (d + shift) % 7

/-- The element is the integer to which it converts. -/
def IsInteger (conv : Conversions) (w : Json) : Prop := ∃ d, conv.toInt w = some d ∧ w = .int d

/-! ## Arrays of integers -/

lemma isInteger_int {d : Int} (h : 0 ≤ d ∧ d ≤ 6) : IsInteger conv (.int d) :=
  ⟨d, conv.toInt_int d (by omega) (by omega), rfl⟩

/-- An array of integers is the numbers it holds. -/
lemma Numbers.eq_map_int {ws : List Json} {days : List Int} (numbers : Numbers conv ws days)
    (ints : ∀ w ∈ ws, IsInteger conv w) : ws = days.map .int := by
  induction ws generalizing days with
  | nil =>
    cases numbers
    rfl
  | cons w ws ih =>
    obtain ⟨first, later⟩ := List.forall_mem_cons.mp ints
    rw [Numbers, List.mapM_cons] at numbers
    obtain ⟨d, eq, numbers⟩ := Option.bind_eq_some_iff.mp numbers
    obtain ⟨days', rest, numbers⟩ := Option.bind_eq_some_iff.mp numbers
    cases numbers
    obtain ⟨d', eq', rfl⟩ := first
    rw [eq] at eq'
    rw [List.map_cons, ← ih rest later, Option.some.inj eq']

/-- Days which move are written as integers. -/
lemma shiftWeekdays_integers {ws ws' : List Json} {shift : Int} (moves : shift ≠ 0) (nonempty : ws ≠ [])
    (shifted : shiftWeekdays conv ws shift = some ws') : ∀ w ∈ ws', IsInteger conv w := by
  rw [shiftWeekdays, if_neg (not_or.mpr ⟨nonempty, moves⟩)] at shifted
  obtain ⟨days, _, rfl⟩ := Option.map_eq_some_iff.mp shifted
  intro w written
  obtain ⟨x, moved, rfl⟩ := List.mem_map.mp written
  obtain ⟨d, _, rfl⟩ := List.mem_map.mp (mem_toSet.mp moved)
  apply isInteger_int
  rw [shiftDay_eq]
  omega

/-! ## The payload -/

/-- What is sent for an accepted body: the weekdays as `ShiftWeekdays` leaves them. -/
lemma schedulePayload_weekdays
    (accepted : parseAndValidateScheduleRequest conv body enabledRequired = .ok request)
    (located : Located locateZone timezoneStr zone) {ws : List Json}
    (shifted : shiftWeekdays conv request.weekdays (startDayShift zone sysNow request) = some ws) :
    ∃ payload, schedulePayload conv locateZone sysNow timezoneStr body enabledRequired = some payload ∧
      payload.get? "weekdays" = some (.arr ws) := by
  rw [startDayShift] at shifted
  obtain ⟨converted, sent, same⟩ :
      ∃ converted, convertScheduleTimesToUtc conv locateZone sysNow timezoneStr request = some converted ∧
        converted.weekdays = ws := by
    rw [convertScheduleTimesToUtc, if_neg located.nonempty, located.zone]
    dsimp only
    rw [shifted]
    exact ⟨_, rfl, rfl⟩
  refine ⟨buildScheduleRequestBody converted, ?_, ?_⟩
  · rw [schedulePayload, accepted]
    dsimp only
    rw [sent]
    rfl
  · rw [← same]
    exact Json.Object.getArray?_eq_some.mp (buildScheduleRequestBody_stored converted).weekdays

/-- An accepted body reaches the service with integers exactly where the start moves to another day, or
where the body has integers. -/
theorem forwarded_weekdays_exact
    (accepted : parseAndValidateScheduleRequest conv body enabledRequired = .ok request)
    (located : Located locateZone timezoneStr zone) :
    ∃ ws days, body.get? "weekdays" = some (.arr ws) ∧ Numbers conv ws days ∧
      ((∃ payload,
          schedulePayload conv locateZone sysNow timezoneStr body enabledRequired = some payload ∧
          HoldsDays payload days (startDayShift zone sysNow request)) ↔
        startDayShift zone sysNow request ≠ 0 ∨ ∀ w ∈ ws, IsInteger conv w) := by
  have readOff := parseAndValidateScheduleRequest_ok_iff.mp accepted
  obtain ⟨found, days, numbers, valid⟩ := parseWeekdays_ok_iff.mp readOff.weekdays
  refine ⟨request.weekdays, days, found, numbers, ?_⟩
  obtain ⟨ws, days', shifted, numbers', valid', mem⟩ :=
    shiftWeekdays_spec numbers valid (startDayShift zone sysNow request)
  obtain ⟨payload, sent, holds⟩ := schedulePayload_weekdays accepted located shifted
  have nonempty : request.weekdays ≠ [] := by
    intro e
    rw [e] at numbers
    cases numbers
    exact valid.ne_nil rfl
  refine ⟨?_, ?_⟩
  · rintro ⟨payload', sent', days'', holds', valid'', _⟩
    by_cases moves : startDayShift zone sysNow request = 0
    · -- the array of the body is the one which is sent
      rw [shiftWeekdays, if_pos (.inr moves)] at shifted
      cases shifted
      obtain rfl := Option.some.inj (sent.symm.trans sent')
      rw [holds, Option.some.injEq, Json.arr.injEq] at holds'
      refine .inr ?_
      intro w written
      rw [holds'] at written
      obtain ⟨d, day, rfl⟩ := List.mem_map.mp written
      exact isInteger_int (valid''.range d day)
    · exact .inl moves
  · intro integers
    have ints : ∀ w ∈ ws, IsInteger conv w := by
      by_cases moves : startDayShift zone sysNow request = 0
      · rw [shiftWeekdays, if_pos (.inr moves)] at shifted
        cases shifted
        exact integers.resolve_left (not_not.mpr moves)
      · exact shiftWeekdays_integers moves nonempty shifted
    rw [numbers'.eq_map_int ints] at holds
    exact ⟨payload, sent, days', holds, valid', mem⟩

namespace Texts

/-- A schedule for Sunday and Monday, as `false` and `"1"`. -/
def evening : Json.Object :=
  [("action_type", .str "BLOCK"), ("name", .str "Evening"), ("start_time", .str "21:00"),
    ("stop_time", .str "22:00"), ("target_kind", .str "INTERNET"), ("weekdays", .arr [.bool false, .str "1"])]

def parsed : ParsedScheduleRequest where
  name := "Evening"
  description := none
  enabled := true
  target := .internet false
  startMinute := 1260
  stopMinute := 1320
  weekdays := [.bool false, .str "1"]

lemma accepted : parseAndValidateScheduleRequest .lenient evening false = .ok parsed := by rfl

/-- In UTC the body is forwarded as it came. -/
theorem forwarded_as_sent :
    ∃ payload,
      schedulePayload .lenient (fun _ => some (.fixed 0)) 0 "UTC" evening false = some payload ∧
      Numbers .lenient [.bool false, .str "1"] [0, 1] ∧
      payload.get? "weekdays" = some (.arr [.bool false, .str "1"]) ∧
      ¬ HoldsDays payload [0, 1] (startDayShift (.fixed 0) 0 parsed) := by
  refine ⟨buildScheduleRequestBody parsed, by rfl, by rfl, by rfl, ?_⟩
  rintro ⟨days, holds, _, _⟩
  rw [show (buildScheduleRequestBody parsed).get? "weekdays" = some (.arr [.bool false, .str "1"]) by rfl,
    Option.some.injEq, Json.arr.injEq] at holds
  cases days with
  | nil => cases holds
  | cons => cases holds

/-- Three hours west of UTC the start falls on the next day, and integers are sent. -/
theorem forwarded_as_integers :
    ∃ payload,
      schedulePayload .lenient (fun _ => some (.fixed (-10800))) 0 "America/Sao_Paulo" evening false =
        some payload ∧
      HoldsDays payload [0, 1] (startDayShift (.fixed (-10800)) 0 parsed) := by
  have located : Located (fun _ => some (.fixed (-10800))) "America/Sao_Paulo" (.fixed (-10800)) :=
    ⟨by decide, rfl⟩
  obtain ⟨ws, days, found, numbers, iff⟩ := forwarded_weekdays_exact accepted located
  obtain rfl := Json.arr.inj (Option.some.inj found)
  obtain rfl := Option.some.inj numbers
  exact iff.mpr (.inl (by decide))

end Texts

end UserPortal.RestApi.ParentalControl
