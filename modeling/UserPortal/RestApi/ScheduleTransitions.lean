import UserPortal.Calendar.Weekly
import UserPortal.RestApi.ScheduleTimes

/-!
# Schedules and transitions of the time zone

A schedule is kept as minutes of the UTC day. On a day on which the offset of the time zone changes, two
things are lost: an interval of a day or more, or of no time at all, is not the difference of its
minutes, and a minute of the UTC day does not tell the instant of the local day which was meant. This
module says exactly when the conversion to UTC keeps the interval, and when a schedule which is read
back at once is the one which was requested.
-/

namespace UserPortal.RestApi.ParentalControl
open Calendar

variable {conv : Conversions} {locateZone : String → Option Zone} {timezoneStr : String} {zone : Zone}
  {sysNow : Int} {request : ParsedScheduleRequest}

/-! ## Intervals -/

/-- The instant at which a schedule starts on a day. -/
def ParsedScheduleRequest.sysStart (request : ParsedScheduleRequest) (zone : Zone) (localDate : Int) :
    Int := zone.toSys (request.localStart localDate)

/-- The instant at which it stops. -/
def ParsedScheduleRequest.sysStop (request : ParsedScheduleRequest) (zone : Zone) (localDate : Int) :
    Int := zone.toSys (request.localStop localDate)

/-- The UTC minutes of a schedule are those of a day, differ, and lie as far apart as the instants at
which the schedule starts and stops. -/
def KeepsInterval (zone : Zone) (localDate : Int) (request utc : ParsedScheduleRequest) : Prop :=
  (0 ≤ utc.startMinute ∧ utc.startMinute < 1440) ∧ (0 ≤ utc.stopMinute ∧ utc.stopMinute < 1440) ∧
  utc.startMinute ≠ utc.stopMinute ∧
  60 * ((utc.stopMinute - utc.startMinute) % 1440) =
    request.sysStop zone localDate - request.sysStart zone localDate

lemma convertScheduleTimesToUtc_minutes {utc : ParsedScheduleRequest}
    (located : locateZone timezoneStr = some zone)
    (converted : convertScheduleTimesToUtc conv locateZone sysNow timezoneStr request = some utc) :
    utc.startMinute = minuteOfDay (request.sysStart zone (today zone sysNow)) ∧
    utc.stopMinute = minuteOfDay (request.sysStop zone (today zone sysNow)) := by
  rw [convertScheduleTimesToUtc] at converted
  split at converted
  case isTrue => cases converted
  case isFalse =>
    rw [located] at converted
    obtain ⟨weekdays, _, rfl⟩ := Option.map_eq_some_iff.mp converted
    exact ⟨rfl, rfl⟩

/-- The conversion to UTC keeps an interval exactly when it is a number of minutes, more than none and
less than a day. -/
theorem keepsInterval_iff {utc : ParsedScheduleRequest} (located : locateZone timezoneStr = some zone)
    (converted : convertScheduleTimesToUtc conv locateZone sysNow timezoneStr request = some utc) :
    KeepsInterval zone (today zone sysNow) request utc ↔
      60 ∣ request.sysStop zone (today zone sysNow) - request.sysStart zone (today zone sysNow) ∧
      request.sysStart zone (today zone sysNow) < request.sysStop zone (today zone sysNow) ∧
      request.sysStop zone (today zone sysNow) <
        request.sysStart zone (today zone sysNow) + 86400 := by
  obtain ⟨start, stop⟩ := convertScheduleTimesToUtc_minutes located converted
  rw [KeepsInterval, start, stop]
  generalize request.sysStart zone (today zone sysNow) = s
  generalize request.sysStop zone (today zone sysNow) = t
  have hs := minuteOfDay_bounds s
  have ht := minuteOfDay_bounds t
  refine ⟨?_, ?_⟩
  · rintro ⟨_, _, differ, eq⟩
    exact ⟨⟨_, eq.symm⟩, by omega, by omega⟩
  · rintro ⟨⟨minutes, eq⟩, pos, lt⟩
    refine ⟨hs, ht, ?_⟩
    unfold minuteOfDay
    omega

/-! ### A day of 25 hours -/

namespace FallBack

/-- On day 0 the offset changes from four to five hours behind UTC, at 02:00 local time. -/
def newYork : Zone := .transition 21600 (-14400) (-18000)

/-- 07:00 local time of that day, a Thursday. -/
def morning : Int := 43200000000

/-- A schedule for Thursdays. -/
def thursday (startMinute stopMinute : Int) : ParsedScheduleRequest where
  name := "Thursday"
  description := none
  enabled := true
  target := .internet false
  startMinute
  stopMinute
  weekdays := [.int 4]

/-- The request in UTC. -/
def toUtc (request : ParsedScheduleRequest) : Option ParsedScheduleRequest :=
  convertScheduleTimesToUtc .strict (fun _ => some newYork) morning "America/New_York" request

lemma located : Located (fun _ => some newYork) "America/New_York" newYork := ⟨by decide, rfl⟩

/-- From 00:00 to 23:59 are 24 hours and 59 minutes; the UTC minutes are 59 minutes apart. -/
theorem interval_lost :
    (thursday 0 1439).Validated .strict ∧
    ∃ utc, toUtc (thursday 0 1439) = some utc ∧
      ¬ KeepsInterval newYork (today newYork morning) (thursday 0 1439) utc := by
  refine ⟨⟨by decide, by decide, by decide, by decide⟩, _, rfl, ?_⟩
  rintro ⟨_, _, _, eq⟩
  exact absurd eq (by decide)

/-- From 12:00 to 13:00 is an hour. -/
theorem interval_kept :
    ∃ utc, toUtc (thursday 720 780) = some utc ∧
      KeepsInterval newYork (today newYork morning) (thursday 720 780) utc :=
  ⟨_, rfl, (keepsInterval_iff located.zone (show toUtc (thursday 720 780) = some _ from rfl)).mpr
    ⟨by decide, by decide, by decide⟩⟩

end FallBack

/-! ## Reading back -/

/-- The offsets at two instants of one UTC minute of the day agree up to whole days, once the seconds
of the first within the minute are dropped. -/
def SameLocalMinute (zone : Zone) (t t' : Int) : Prop :=
  (zone.offset t' - zone.offset t - t % 60) % 86400 < 60

instance (zone : Zone) (t t' : Int) : Decidable (SameLocalMinute zone t t') :=
  inferInstanceAs (Decidable (_ < _))

lemma localMinuteOfDay_iff {t t' day minute : Int} (h : 0 ≤ minute ∧ minute < 1440)
    (placed : zone.toLocal t = 86400 * day + 60 * minute) (utc : t' % 86400 = 60 * minuteOfDay t) :
    localMinuteOfDay zone t' = minute ↔ SameLocalMinute zone t t' := by
  rw [localMinuteOfDay, Zone.toLocal, SameLocalMinute, minuteOfDay] at *
  omega

/-- The days by which the weekdays have moved once they are read back. -/
lemma readBack_shift {t localDay minute : Int} (h : 0 ≤ minute ∧ minute < 1440)
    (placed : zone.toLocal t = 86400 * localDay + 60 * minute)
    (same : SameLocalMinute zone t (readStart zone localDay (minuteOfDay t))) :
    t / 86400 - localDay + (zone.localDay (readStart zone localDay (minuteOfDay t)) -
      utcDayOf zone localDay (minuteOfDay t)) =
      (zone.offset (readStart zone localDay (minuteOfDay t)) - zone.offset t - t % 60) / 86400 := by
  have start : readStart zone localDay (minuteOfDay t) =
    86400 * utcDayOf zone localDay (minuteOfDay t) + 60 * minuteOfDay t := by
    rw [readStart]
    omega
  rw [SameLocalMinute] at same
  rw [Zone.localDay, Zone.toLocal] at *
  generalize readStart zone localDay (minuteOfDay t) = t' at *
  rw [minuteOfDay] at *
  omega

lemma moved_days_iff {days : List Int} (valid : ValidDays days) (q : Int) :
    (∀ x, (∃ d ∈ days, x = (d + q) % 7) ↔ x ∈ days) ↔
      q % 7 = 0 ∨ ∀ x, 0 ≤ x → x < 7 → x ∈ days := by
  apply moved_eq_iff (List.exists_mem_of_ne_nil days valid.ne_nil)
  intro d hd
  have r := valid.range d hd
  omega

/-- What the zone must satisfy for a schedule which starts and stops at two instants of a local day to
be read back: at the instants of that day at which the reader puts their UTC minutes its offset is the
one at the start and at the stop, up to whole days. The whole days at the start are a number of weeks,
unless the schedule is for every day of the week. -/
structure Readable (zone : Zone) (localDay sysStart sysStop : Int) (days : List Int) : Prop where
  start : SameLocalMinute zone sysStart (readStart zone localDay (minuteOfDay sysStart))
  stop : SameLocalMinute zone sysStop
    (readStop zone localDay (minuteOfDay sysStart) (minuteOfDay sysStop))
  weekdays : (zone.offset (readStart zone localDay (minuteOfDay sysStart)) - zone.offset sysStart -
    sysStart % 60) / 86400 % 7 = 0 ∨ ∀ x, 0 ≤ x → x < 7 → x ∈ days

/-- A schedule is read back at once as it was requested exactly when it is readable. -/
theorem reads_back_iff {days : List Int} (located : Located locateZone timezoneStr zone)
    (v : request.Validated conv) (numbers : Numbers conv request.weekdays days)
    (starts : zone.Exists (request.localStart (today zone sysNow)))
    (stops : zone.Exists (request.localStop (today zone sysNow))) :
    ∃ utc,
      convertScheduleTimesToUtc conv locateZone sysNow timezoneStr request = some utc ∧
      ∀ schedule, Stored schedule utc.startMinute utc.stopMinute utc.weekdays →
        ∃ out, normalizeScheduleResponse conv locateZone sysNow timezoneStr schedule = (true, out) ∧
          (ReadsBack conv out request.startMinute request.stopMinute days ↔
            Readable zone (today zone sysNow) (request.sysStart zone (today zone sysNow))
              (request.sysStop zone (today zone sysNow)) days) := by
  have valid := v.validDays numbers
  obtain ⟨ws', days', converted, numbers', valid', mem⟩ :=
    convertScheduleTimesToUtc_spec (rfl : today zone sysNow = _) located numbers valid
  refine ⟨_, converted, ?_⟩
  intro schedule stored
  obtain ⟨out, days2, normalized, reads, mem2⟩ :=
    normalizeScheduleResponse_spec (rfl : today zone sysNow = _) located stored (minuteOfDay_bounds _)
      (minuteOfDay_bounds _) numbers' valid'
  refine ⟨out, normalized, ?_⟩
  have startAt : zone.toLocal (request.sysStart zone (today zone sysNow)) =
      86400 * today zone sysNow + 60 * request.startMinute := by
    rw [ParsedScheduleRequest.sysStart, Zone.toLocal_toSys starts, ParsedScheduleRequest.localStart,
      localTime_eq v.start.1]
  obtain ⟨stopDay, stopAt⟩ : ∃ day, zone.toLocal (request.sysStop zone (today zone sysNow)) =
      86400 * day + 60 * request.stopMinute := by
    rw [ParsedScheduleRequest.sysStop, Zone.toLocal_toSys stops, ParsedScheduleRequest.localStop,
      localTime_eq v.stop.1]
    exact ⟨_, rfl⟩
  have startIff := localMinuteOfDay_iff v.start startAt
    (readStart_minute zone (today zone sysNow) (minuteOfDay_bounds _))
  have stopIff := localMinuteOfDay_iff v.stop stopAt
    (readStop_minute zone (today zone sysNow)
      (minuteOfDay (request.sysStart zone (today zone sysNow))) (minuteOfDay_bounds _))
  rw [reads.iff (minuteOfDay_bounds _) (minuteOfDay_bounds _) v.start v.stop]
  refine ⟨?_, ?_⟩
  · rintro ⟨start, stop, same⟩
    have start := startIff.mp start
    refine ⟨start, stopIff.mp stop, (moved_days_iff valid _).mp ?_⟩
    rw [← readBack_shift v.start startAt start]
    exact fun x => ((mem2 x).trans (shift_shift mem x)).symm.trans (same x)
  · rintro ⟨start, stop, week⟩
    refine ⟨startIff.mpr start, stopIff.mpr stop, fun x => ?_⟩
    have same := (moved_days_iff valid _).mpr week x
    rw [← readBack_shift v.start startAt start] at same
    exact ((mem2 x).trans (shift_shift mem x)).trans same

namespace FallBack

/-- The response to a client whose schedule has just been stored. -/
def readBack (utc : ParsedScheduleRequest) : Bool × Json.Object :=
  normalizeScheduleResponse .strict (fun _ => some newYork) morning "America/New_York"
    (buildScheduleRequestBody utc)

/-- A schedule from 23:30 to 23:45 reads back as one from 00:30 to 00:45. -/
theorem late_not_read_back :
    (thursday 1410 1425).Validated .strict ∧
    newYork.Exists ((thursday 1410 1425).localStart (today newYork morning)) ∧
    newYork.Exists ((thursday 1410 1425).localStop (today newYork morning)) ∧
    ∃ utc out, toUtc (thursday 1410 1425) = some utc ∧ readBack utc = (true, out) ∧
      out.getString? "start_time" = some "00:30" ∧ out.getString? "stop_time" = some "00:45" ∧
      ¬ ReadsBack .strict out 1410 1425 [4] := by
  refine ⟨⟨by decide, by decide, by decide, by decide⟩, ⟨102600, by decide⟩, ⟨103500, by decide⟩, _, _,
    rfl, rfl, rfl, rfl, ?_⟩
  intro reads
  exact absurd reads.start_time (by decide)

/-- A schedule from 12:00 to 13:00 reads back as it was requested. -/
theorem midday_read_back :
    ∃ utc out, toUtc (thursday 720 780) = some utc ∧ readBack utc = (true, out) ∧
      ReadsBack .strict out 720 780 [4] := by
  have starts : newYork.Exists ((thursday 720 780).localStart (today newYork morning)) :=
    ⟨61200, by decide⟩
  have stops : newYork.Exists ((thursday 720 780).localStop (today newYork morning)) :=
    ⟨64800, by decide⟩
  obtain ⟨utc, converted, reads⟩ := reads_back_iff located ⟨by decide, by decide, by decide, by decide⟩
    (show Numbers .strict (thursday 720 780).weekdays [4] from rfl) starts stops
  obtain ⟨out, normalized, iff⟩ := reads _ (buildScheduleRequestBody_stored utc)
  exact ⟨utc, out, converted, normalized, iff.mpr ⟨by decide, by decide, .inl (by decide)⟩⟩

end FallBack

end UserPortal.RestApi.ParentalControl
