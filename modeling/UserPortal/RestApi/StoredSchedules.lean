import UserPortal.RestApi.AcceptedSchedules
import UserPortal.RestApi.ScheduleResponses
import UserPortal.RestApi.ScheduleWindows

/-!
# Stored schedules

The relation between a schedule as it was requested, in local time, and as the parental-control service holds it,
in UTC. `Holds.written`: the body which is sent for a request establishes it. `Holds.read`: whenever the schedule is
shown, it has the times, the weekdays and the other fields of the request, and no field in UTC.
-/

namespace UserPortal.RestApi.ParentalControl
open Calendar Data

variable {conv : Conversions} {locateZone : String → Option Zone} {timezoneStr : String} {zone : Zone}
  {c lo hi sysNow : Int} {request : ParsedScheduleRequest} {schedule : Json.Object}

/-- An object has the fields of a body, whatever else it has. -/
def Echoes (body o : Json.Object) : Prop := ∀ k v, body.get? k = some v → o.get? k = some v

/-- The fields which differ between UTC and local time. -/
def timeFields : List String := ["start_minute", "stop_minute", "weekdays"]

/-- The fields of a request which do not depend on the time zone. -/
def HasFields (request : ParsedScheduleRequest) (o : Json.Object) : Prop :=
  ∀ k v, k ∉ timeFields → (buildScheduleRequestBody request).get? k = some v → o.get? k = some v

/-- A schedule in UTC holds a request which was made in a time zone with an offset of `c` minutes: it starts on
weekdays which are `k` days later. -/
structure Holds (conv : Conversions) (c : Int) (request : ParsedScheduleRequest) (schedule : Json.Object) :
    Prop where
  validated : request.Validated conv
  times : ∃ (utc : ParsedScheduleRequest) (days days' : List Int) (k : Int),
    Stored schedule utc.startMinute utc.stopMinute utc.weekdays ∧
    (0 ≤ utc.startMinute ∧ utc.startMinute < 1440) ∧ (0 ≤ utc.stopMinute ∧ utc.stopMinute < 1440) ∧
    86400 * k + 60 * utc.startMinute = 60 * request.startMinute - 60 * c ∧ utc.seconds = request.seconds ∧
    Numbers conv request.weekdays days ∧ Numbers conv utc.weekdays days' ∧ ValidDays days' ∧
    ∀ x, x ∈ days' ↔ ∃ d ∈ days, x = (d + k) % 7
  fields : HasFields request schedule

/-- A schedule as it is shown has the times and the weekdays of a request, and its other fields, but neither
minutes in UTC nor a snapshot. -/
structure Shows (conv : Conversions) (request : ParsedScheduleRequest) (out : Json.Object) : Prop where
  times : ∃ days, Numbers conv request.weekdays days ∧
    ReadsBack conv out request.startMinute request.stopMinute days
  fields : HasFields request out
  hidden : ∀ k ∈ ["start_minute", "stop_minute", "config-raw"], out.get? k = none

lemma Stored.of_echoes {body : Json.Object} {startMinute stopMinute : Int} {ws : List Json}
    (stored : Stored body startMinute stopMinute ws) (echoes : Echoes body schedule) :
    Stored schedule startMinute stopMinute ws where
  start := echoes _ _ stored.start
  stop := echoes _ _ stored.stop
  weekdays := Json.Object.getArray?_eq_some.mpr (echoes _ _ (Json.Object.getArray?_eq_some.mp stored.weekdays))

/-- A request with the times of another. -/
def ParsedScheduleRequest.withTimes (utc request : ParsedScheduleRequest) : ParsedScheduleRequest :=
  { utc with
    startMinute := request.startMinute
    stopMinute := request.stopMinute
    weekdays := request.weekdays }

/-- The times of a request only matter to the fields in UTC. -/
lemma hasFields_of_times {utc : ParsedScheduleRequest} (same : utc.withTimes request = request)
    (echoes : Echoes (buildScheduleRequestBody utc) schedule) : HasFields request schedule := by
  intro k v other eq
  apply echoes k v
  rw [← same, buildScheduleRequestBody_get?] at eq
  rw [buildScheduleRequestBody_get?]
  have ne : k ≠ "start_minute" ∧ k ≠ "stop_minute" ∧ k ≠ "weekdays" := by
    refine ⟨?_, ?_, ?_⟩
    · rintro rfl
      exact other (by decide)
    · rintro rfl
      exact other (by decide)
    · rintro rfl
      exact other (by decide)
  rw [if_neg ne.1, if_neg ne.2.1, if_neg ne.2.2] at eq ⊢
  exact eq

/-- Only the times are converted. -/
lemma convertScheduleTimesToUtc_others {utc : ParsedScheduleRequest}
    (h : convertScheduleTimesToUtc conv locateZone sysNow timezoneStr request = some utc) :
    utc.withTimes request = request := by
  rw [convertScheduleTimesToUtc] at h
  split at h
  case isTrue => cases h
  case isFalse =>
    split at h
    case h_1 => cases h
    case h_2 =>
      obtain ⟨ws, _, rfl⟩ := Option.map_eq_some_iff.mp h
      rfl

/-- What is sent for a request is held, by an object which has the fields of the body. -/
lemma Holds.written (steady : Steady zone c lo hi sysNow) (located : Located locateZone timezoneStr zone)
    (v : request.Validated conv) :
    ∃ utc, convertScheduleTimesToUtc conv locateZone sysNow timezoneStr request = some utc ∧
      ∀ schedule, Echoes (buildScheduleRequestBody utc) schedule → Holds conv c request schedule := by
  obtain ⟨days, numbers, _⟩ := validateWeekdays_inv v.weekdays
  obtain ⟨utc, days', k, converted, start, stop, moved, seconds, numbers', valid', mem⟩ :=
    steady.convert located v numbers
  refine ⟨utc, converted, fun schedule echoes => ⟨v, ?_, ?_⟩⟩
  · exact ⟨utc, days, days', k, (buildScheduleRequestBody_stored utc).of_echoes echoes, start, stop, moved,
      seconds, numbers, numbers', valid', mem⟩
  · exact hasFields_of_times (convertScheduleTimesToUtc_others converted) echoes

/-- A schedule which is shown has gone through all changes. -/
lemma normalized_of_true {out : Json.Object}
    (h : normalizeScheduleResponse conv locateZone sysNow timezoneStr schedule = (true, out)) :
    ∃ shift, Normalized conv shift schedule out := by
  rw [normalizeScheduleResponse] at h
  split at h
  case isTrue => cases h
  case isFalse =>
    split at h
    case h_2 => cases h
    case h_1 =>
      split at h
      case isTrue => cases h
      case isFalse =>
        split at h
        case h_1 => cases h
        case h_2 zone _ =>
          dsimp only at h
          split at h
          case h_1 => cases h
          case h_2 moved shifted =>
            split at h
            case h_2 => cases h
            case h_1 startTime stopTime start stop =>
              obtain ⟨_, same, parsed⟩ := parseTimeString_minuteToTimeString (minuteOfDay_bounds _)
              obtain ⟨_, same', parsed'⟩ := parseTimeString_minuteToTimeString (minuteOfDay_bounds _)
              obtain rfl := Option.some.inj (start.symm.trans same)
              obtain rfl := Option.some.inj (stop.symm.trans same')
              cases h
              exact ⟨_, normalized_of_moved shifted parsed parsed'⟩

/-- The fields which do not depend on the time zone are shown as they are. -/
lemma Normalized.hasFields {shift : Int} {out : Json.Object} (normalized : Normalized conv shift schedule out)
    (fields : HasFields request schedule) : HasFields request out := by
  intro k v other eq
  rw [normalized.others k ?_]
  · exact fields k v other eq
  · intro mem
    rw [buildScheduleRequestBody_get?] at eq
    simp only [responseFields, List.mem_cons, List.not_mem_nil, or_false] at mem
    rcases mem with rfl | rfl | rfl | rfl | rfl | rfl
    · cases eq
    · exact other (by decide)
    · cases eq
    · exact other (by decide)
    · cases eq
    · exact other (by decide)

/-- A schedule which holds a request is shown as the request, at any time around which the time zone has the
offset of the request. -/
lemma Holds.read (holds : Holds conv c request schedule) (steady : Steady zone c lo hi sysNow)
    (located : Located locateZone timezoneStr zone) :
    ∃ out, normalizeScheduleResponse conv locateZone sysNow timezoneStr schedule = (true, out) ∧
      Shows conv request out := by
  obtain ⟨utc, days, days', k, stored, start, stop, moved, seconds, numbers, numbers', valid', mem⟩ := holds.times
  obtain ⟨out, shown, normalized, reads, shownMem⟩ :=
    normalizeScheduleResponse_spec (rfl : today zone sysNow = _) located stored start stop numbers' valid'
  obtain ⟨startBound, stopBound, requested, _⟩ := holds.validated
  have differ : utc.startMinute ≠ utc.stopMinute := by
    unfold ParsedScheduleRequest.seconds at seconds
    omega
  obtain ⟨startLocal, stopLocal⟩ := steady.read startBound start stop differ moved
  have startMinute : localMinuteOfDay zone (readStart zone (today zone sysNow) utc.startMinute) =
      request.startMinute := by
    rw [localMinuteOfDay, startLocal, minuteOfDay]
    omega
  have stopMinute : localMinuteOfDay zone (readStop zone (today zone sysNow) utc.startMinute utc.stopMinute) =
      request.stopMinute := by
    unfold ParsedScheduleRequest.seconds at seconds
    rw [localMinuteOfDay, stopLocal, minuteOfDay]
    omega
  have shift : zone.localDay (readStart zone (today zone sysNow) utc.startMinute) -
      utcDayOf zone (today zone sysNow) utc.startMinute = -k := by
    rw [Zone.localDay, startLocal, steady.utcDayOf startBound start moved]
    omega
  have same : ∀ x, x ∈ shown ↔ x ∈ days := by
    intro x
    rw [shownMem, shift, shift_shift mem, Int.add_right_neg]
    have range := (holds.validated.validDays numbers).range
    refine ⟨?_, fun here => ⟨x, here, ?_⟩⟩
    · intro there
      obtain ⟨d, here, rfl⟩ := there
      have r := range d here
      rwa [show (d + 0) % 7 = d by omega]
    · have r := range x here
      omega
  obtain ⟨_, all⟩ := normalized_of_true normalized
  refine ⟨out, normalized, ⟨days, numbers, ?_⟩, all.hasFields holds.fields, ?_⟩
  · exact (reads.iff (minuteOfDay_bounds _) (minuteOfDay_bounds _) startBound stopBound).mpr
      ⟨startMinute, stopMinute, same⟩
  · intro k mem
    simp only [List.mem_cons, List.not_mem_nil, or_false] at mem
    rcases mem with rfl | rfl | rfl
    · exact all.startMinute
    · exact all.stopMinute
    · exact all.configRaw

end UserPortal.RestApi.ParentalControl
