import UserPortal.Calendar.Weekly
import UserPortal.RestApi.ActiveRules
import UserPortal.RestApi.RuleCommands
import UserPortal.RestApi.ScheduleTimes

/-!
# The windows of a schedule

A schedule blocks in windows of local time, on the weekdays it names. The service keeps it in UTC, with
the weekdays of UTC. Where the time zone has a constant offset of whole minutes, the rule which
`IsRuleActive` evaluates is active at an instant exactly when the local time of that instant lies in a
window of the schedule as it was requested, and a schedule reads back as it was written.
-/

namespace UserPortal.RestApi.ParentalControl
open Calendar Data

variable {conv : Conversions} {parser : DateTimeParser} {locateZone : String → Option Zone}
  {timezoneStr : String} {zone : Zone} {request : ParsedScheduleRequest} {days : List Int}
  {c lo hi sysNow : Int}

/-- The seconds for which a schedule blocks. -/
def ParsedScheduleRequest.seconds (request : ParsedScheduleRequest) : Int :=
  60 * ((request.stopMinute - request.startMinute) % 1440)

lemma ParsedScheduleRequest.Validated.localStart (v : request.Validated conv) (d : Int) :
    request.localStart d = 86400 * d + 60 * request.startMinute := localTime_eq v.start.1

lemma ParsedScheduleRequest.Validated.localStop (v : request.Validated conv) (d : Int) :
    request.localStop d = 86400 * d + 60 * request.startMinute + request.seconds := by
  have start := v.start
  have stop := v.stop
  have differ := v.differ
  rw [ParsedScheduleRequest.localStop, localTime_eq stop.1, ParsedScheduleRequest.seconds]
  split
  case isTrue => omega
  case isFalse => omega

/-- From `lo` to `hi`, around a clock reading, the time zone has a constant offset of `c` minutes. -/
structure Steady (zone : Zone) (c lo hi sysNow : Int) : Prop where
  constant : zone.ConstantOver (60 * c) lo hi
  bounded : zone.Bounded
  around : lo + 3 * 86400 ≤ sysNow / 1000000 ∧ sysNow / 1000000 ≤ hi - 3 * 86400

lemma Steady.offset (steady : Steady zone c lo hi sysNow) : -86400 < 60 * c ∧ 60 * c < 86400 := by
  have around := steady.around
  have b := steady.bounded lo
  rwa [steady.constant lo (Int.le_refl lo) (by omega)] at b

lemma Steady.today (steady : Steady zone c lo hi sysNow) :
    86400 * today zone sysNow ≤ sysNow / 1000000 + 60 * c ∧
      sysNow / 1000000 + 60 * c < 86400 * today zone sysNow + 86400 := by
  have around := steady.around
  rw [ParentalControl.today, Zone.localDay, steady.constant.toLocal (by omega) (by omega)]
  omega

/-- Local times of today and tomorrow. -/
lemma Steady.toSys {l : Int} (steady : Steady zone c lo hi sysNow)
    (ge : 86400 * ParentalControl.today zone sysNow ≤ l)
    (le : l ≤ 86400 * ParentalControl.today zone sysNow + 2 * 86400) : zone.toSys l = l - 60 * c := by
  have around := steady.around
  have offset := steady.offset
  have today := steady.today
  exact steady.constant.toSys steady.bounded (by omega) (by omega) (by omega)

/-- The instants at which a schedule starts and stops today. -/
lemma Steady.times (steady : Steady zone c lo hi sysNow) (v : request.Validated conv) :
    zone.toSys (request.localStart (ParentalControl.today zone sysNow)) =
      86400 * ParentalControl.today zone sysNow + 60 * request.startMinute - 60 * c ∧
    zone.toSys (request.localStop (ParentalControl.today zone sysNow)) =
      86400 * ParentalControl.today zone sysNow + 60 * request.startMinute + request.seconds - 60 * c := by
  have start := v.start
  have seconds : 0 ≤ request.seconds ∧ request.seconds < 86400 := by
    rw [ParsedScheduleRequest.seconds]
    omega
  rw [v.localStart, v.localStop, steady.toSys (by omega) (by omega), steady.toSys (by omega) (by omega)]
  exact ⟨rfl, rfl⟩

/-- What the conversion to UTC makes of a schedule: its UTC weekdays are `k` days later. -/
lemma Steady.convert (steady : Steady zone c lo hi sysNow) (located : Located locateZone timezoneStr zone)
    (v : request.Validated conv) (numbers : Numbers conv request.weekdays days) :
    ∃ request' days' k,
      convertScheduleTimesToUtc conv locateZone sysNow timezoneStr request = some request' ∧
      (0 ≤ request'.startMinute ∧ request'.startMinute < 1440) ∧
      (0 ≤ request'.stopMinute ∧ request'.stopMinute < 1440) ∧
      86400 * k + 60 * request'.startMinute = 60 * request.startMinute - 60 * c ∧
      request'.seconds = request.seconds ∧
      Numbers conv request'.weekdays days' ∧ ValidDays days' ∧
      ∀ x, x ∈ days' ↔ ∃ d ∈ days, x = (d + k) % 7 := by
  obtain ⟨ws', days', converted, numbers', valid', mem⟩ :=
    convertScheduleTimesToUtc_spec (rfl : ParentalControl.today zone sysNow = _) located numbers (v.validDays numbers)
  obtain ⟨start, stop⟩ := steady.times v
  refine ⟨_, days', _, converted, minuteOfDay_bounds _, minuteOfDay_bounds _, ?_, ?_, numbers', valid',
    mem⟩
  · simp only [start, minuteOfDay]
    omega
  · simp only [ParsedScheduleRequest.seconds, start, stop, minuteOfDay]
    omega

/-! ## Refinement -/

namespace Overnight

/-- From 22:00 to 06:00 on Mondays. -/
def night : ParsedScheduleRequest where
  name := "Night"
  description := none
  enabled := true
  target := .internet false
  startMinute := 1320
  stopMinute := 360
  weekdays := [.int 1]

lemma validated : night.Validated .strict := ⟨by decide, by decide, by decide, by decide⟩

/-- Two hours ahead of UTC, written on a Thursday. -/
lemma steady : Steady (.fixed 7200) 120 (-864000) 864000 0 :=
  ⟨Zone.fixed_constantOver _ _ _, Zone.fixed_bounded (by decide), by decide⟩

lemma located : Located (fun _ => some (.fixed 7200)) "Europe/Kyiv" (.fixed 7200) := ⟨by decide, rfl⟩

end Overnight

/-! ## Round trip -/

/-- The local times of instants of today and tomorrow. -/
lemma Steady.toLocal {t : Int} (steady : Steady zone c lo hi sysNow)
    (ge : 86400 * ParentalControl.today zone sysNow ≤ t + 60 * c + 86400)
    (le : t + 60 * c ≤ 86400 * ParentalControl.today zone sysNow + 3 * 86400) :
    zone.toLocal t = t + 60 * c := by
  have around := steady.around
  have today := steady.today
  exact steady.constant.toLocal (by omega) (by omega)

/-- The reader finds the UTC day on which the schedule starts today. -/
lemma Steady.utcDayOf {startMinute utcMinute k : Int} (steady : Steady zone c lo hi sysNow)
    (start : 0 ≤ startMinute ∧ startMinute < 1440) (utc : 0 ≤ utcMinute ∧ utcMinute < 1440)
    (moved : 86400 * k + 60 * utcMinute = 60 * startMinute - 60 * c) :
    utcDayOf zone (ParentalControl.today zone sysNow) utcMinute =
      ParentalControl.today zone sysNow + k := by
  simp only [ParentalControl.utcDayOf, Zone.localDay]
  rw [steady.toSys (by omega) (by omega), steady.toLocal (by omega) (by omega)]
  omega

/-- The reader finds the local times at which the schedule starts and stops today. -/
lemma Steady.read {startMinute utcMinute utcStop k : Int} (steady : Steady zone c lo hi sysNow)
    (start : 0 ≤ startMinute ∧ startMinute < 1440) (utc : 0 ≤ utcMinute ∧ utcMinute < 1440)
    (stop : 0 ≤ utcStop ∧ utcStop < 1440) (differ : utcMinute ≠ utcStop)
    (moved : 86400 * k + 60 * utcMinute = 60 * startMinute - 60 * c) :
    zone.toLocal (readStart zone (ParentalControl.today zone sysNow) utcMinute) =
      86400 * ParentalControl.today zone sysNow + 60 * startMinute ∧
    zone.toLocal (readStop zone (ParentalControl.today zone sysNow) utcMinute utcStop) =
      86400 * ParentalControl.today zone sysNow + 60 * startMinute +
        60 * ((utcStop - utcMinute) % 1440) := by
  have startAt : readStart zone (ParentalControl.today zone sysNow) utcMinute =
      86400 * ParentalControl.today zone sysNow + 60 * startMinute - 60 * c := by
    rw [readStart, steady.utcDayOf start utc moved]
    omega
  rw [readStop_eq utc stop differ, startAt, steady.toLocal (by omega) (by omega),
    steady.toLocal (by omega) (by omega)]
  omega

/-- A schedule which is written at one time reads back at another as it was requested. -/
theorem schedule_round_trip {lo' hi' readNow : Int} (written : Steady zone c lo hi sysNow)
    (read : Steady zone c lo' hi' readNow) (located : Located locateZone timezoneStr zone)
    (v : request.Validated conv) (numbers : Numbers conv request.weekdays days) :
    ∃ request',
      convertScheduleTimesToUtc conv locateZone sysNow timezoneStr request = some request' ∧
      ∀ schedule, Stored schedule request'.startMinute request'.stopMinute request'.weekdays →
        ∃ out, normalizeScheduleResponse conv locateZone readNow timezoneStr schedule = (true, out) ∧
          ReadsBack conv out request.startMinute request.stopMinute days := by
  obtain ⟨request', days', k, converted, start, stop, moved, seconds, numbers', valid', mem⟩ :=
    written.convert located v numbers
  refine ⟨request', converted, ?_⟩
  intro schedule stored
  obtain ⟨out, days2, normalized, reads, mem2⟩ :=
    normalizeScheduleResponse_spec (rfl : today zone readNow = _) located stored start stop numbers'
      valid'
  have hs := v.start
  have ht := v.stop
  have differ := v.differ
  unfold ParsedScheduleRequest.seconds at seconds
  have differ' : request'.startMinute ≠ request'.stopMinute := by omega
  obtain ⟨startLocal, stopLocal⟩ := read.read hs start stop differ' moved
  have startMinute : localMinuteOfDay zone (readStart zone (today zone readNow) request'.startMinute) =
      request.startMinute := by
    rw [localMinuteOfDay, startLocal, minuteOfDay]
    omega
  have stopMinute : localMinuteOfDay zone (readStop zone (today zone readNow) request'.startMinute
      request'.stopMinute) = request.stopMinute := by
    rw [localMinuteOfDay, stopLocal, minuteOfDay]
    omega
  have shift : zone.localDay (readStart zone (today zone readNow) request'.startMinute) -
      utcDayOf zone (today zone readNow) request'.startMinute = -k := by
    rw [Zone.localDay, startLocal, read.utcDayOf hs start moved]
    omega
  refine ⟨out, normalized, (reads.iff (minuteOfDay_bounds _) (minuteOfDay_bounds _) hs ht).mpr
    ⟨startMinute, stopMinute, fun x => ?_⟩⟩
  rw [mem2, shift, shift_shift mem, Int.add_right_neg]
  refine ⟨?_, ?_⟩
  · rintro ⟨d, hd, rfl⟩
    have r := (v.validDays numbers).range d hd
    rwa [show (d + 0) % 7 = d by omega]
  · intro hx
    have r := (v.validDays numbers).range x hx
    exact ⟨x, hx, by omega⟩

/-- The schedule of `Overnight` reads back two days later. -/
theorem Overnight.reads_back :
    ∃ request' out,
      convertScheduleTimesToUtc .strict (fun _ => some (.fixed 7200)) 0 "Europe/Kyiv" night =
        some request' ∧
      normalizeScheduleResponse .strict (fun _ => some (.fixed 7200)) 172800000000 "Europe/Kyiv"
        (buildScheduleRequestBody request') = (true, out) ∧
      ReadsBack .strict out night.startMinute night.stopMinute [1] := by
  have later : Steady (.fixed 7200) 120 (-864000) 864000 172800000000 :=
    ⟨Zone.fixed_constantOver _ _ _, Zone.fixed_bounded (by decide), by decide⟩
  obtain ⟨request', converted, reads⟩ :=
    schedule_round_trip steady later located validated
      (show Numbers .strict night.weekdays [1] from rfl)
  obtain ⟨out, normalized, back⟩ := reads _ (buildScheduleRequestBody_stored request')
  exact ⟨request', out, converted, normalized, back⟩

end UserPortal.RestApi.ParentalControl
