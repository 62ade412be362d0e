import UserPortal.Interaction.Failure
import UserPortal.RestApi.Schedules

/-!
# What the schedule conversions compute

One lemma for each step of `ConvertScheduleTimesToUtc` and `NormalizeScheduleResponse`: what a valid
request is, what becomes of its weekdays, and the minutes and days in terms of instants.
-/

namespace UserPortal.RestApi.ParentalControl
open Calendar Data Interaction

/-! ## Arithmetic -/

/-- A shifted day is taken modulo 7. -/
lemma shiftDay_eq (shift day : Int) : shiftDay shift day = (day + shift) % 7 := by
  rw [shiftDay]
  have pos : 0 ≤ (day + shift).tmod 7 + 7 := by
    have lt := Int.lt_tmod_of_pos (day + shift) (show (0 : Int) < 7 by decide)
    omega
  rw [Int.tmod_eq_emod_of_nonneg pos, Int.tmod_eq_emod]
  split <;> omega

/-- A time of the week in seconds. -/
lemma localTime_eq {day minute : Int} (h : 0 ≤ minute) :
    localTime day minute = 86400 * day + 60 * minute := by
  rw [localTime, Int.tdiv_eq_ediv_of_nonneg h, Int.tmod_eq_emod_of_nonneg h]
  omega

/-- The minute of a day is below 1440. -/
lemma minuteOfDay_bounds (t : Int) : 0 ≤ minuteOfDay t ∧ minuteOfDay t < 1440 := by
  rw [minuteOfDay]
  omega

/-! ## Weekdays -/

variable {conv : Conversions}

/-- The numbers of a list of weekdays. -/
def Numbers (conv : Conversions) (weekdays : List Json) (days : List Int) : Prop :=
  weekdays.mapM conv.toInt = some days

/-- Distinct weekdays in the range 0..6, at least one. -/
structure ValidDays (days : List Int) : Prop where
  ne_nil : days ≠ []
  nodup : days.Nodup
  range : ∀ d ∈ days, 0 ≤ d ∧ d ≤ 6

/-- What the check of the weekdays has seen. -/
lemma validateDays_inv {ws : List Json} {seen : List Int} (h : validateDays conv ws seen = true) :
    ∃ days, Numbers conv ws days ∧ days.Nodup ∧ ∀ d ∈ days, (0 ≤ d ∧ d ≤ 6) ∧ d ∉ seen := by
  induction ws generalizing seen with
  | nil => exact ⟨[], rfl, .nil, nofun⟩
  | cons w ws ih =>
    rw [validateDays] at h
    split at h
    case h_2 => cases h
    case h_1 day eq =>
      split at h
      case isTrue => cases h
      case isFalse ok =>
        obtain ⟨days, numbers, nodup, all⟩ := ih h
        refine ⟨day :: days, ?_, ?_, ?_⟩
        · rw [Numbers, List.mapM_cons, eq, numbers]
          rfl
        · refine List.nodup_cons.mpr ⟨?_, nodup⟩
          intro mem
          exact (all day mem).2 (mem_insertKey.mpr (.inl rfl))
        · intro d hd
          rcases List.mem_cons.mp hd with rfl | hd
          · simp only [not_or, Int.not_lt] at ok
            exact ⟨⟨ok.1, ok.2.1⟩, ok.2.2⟩
          · exact ⟨(all d hd).1, fun mem => (all d hd).2 (mem_insertKey.mpr (.inr mem))⟩

/-- What `ValidateWeekdays` accepts. -/
lemma validateWeekdays_inv {ws : List Json} (h : validateWeekdays conv ws = true) :
    ∃ days, Numbers conv ws days ∧ ValidDays days := by
  rw [validateWeekdays, Bool.and_eq_true_iff, decide_eq_true_iff] at h
  obtain ⟨days, numbers, nodup, all⟩ := validateDays_inv h.2
  refine ⟨days, numbers, ?_, nodup, fun d hd => (all d hd).1⟩
  intro e
  have len := mapM_some_length numbers
  rw [e] at len
  exact h.1 (List.length_eq_zero_iff.mp len.symm)

/-- Numbers from 0 to 6 as a set are valid days. -/
lemma ValidDays.of_toSet {days : List Int} (ne : days ≠ []) (range : ∀ d ∈ days, 0 ≤ d ∧ d ≤ 6) :
    ValidDays (toSet days) := by
  refine ⟨?_, (sorted_toSet days).imp fun lt => ne_of_lt lt, fun d hd => range d (mem_toSet.mp hd)⟩
  intro e
  obtain ⟨d, ds, rfl⟩ := List.exists_cons_of_ne_nil ne
  have mem : d ∈ toSet (d :: ds) := mem_toSet.mpr (List.mem_cons_self ..)
  rw [e] at mem
  cases mem

/-- Valid weekdays move to valid weekdays. -/
lemma shiftWeekdays_spec {ws : List Json} {days : List Int} (numbers : Numbers conv ws days)
    (valid : ValidDays days) (shift : Int) :
    ∃ ws' days', shiftWeekdays conv ws shift = some ws' ∧ Numbers conv ws' days' ∧ ValidDays days' ∧
      ∀ x, x ∈ days' ↔ ∃ d ∈ days, x = (d + shift) % 7 := by
  by_cases zero : ws = [] ∨ shift = 0
  · refine ⟨ws, days, if_pos zero, numbers, valid, ?_⟩
    have nonempty : ws ≠ [] := by
      rintro rfl
      cases numbers
      exact valid.ne_nil rfl
    obtain rfl := zero.resolve_left nonempty
    intro x
    refine ⟨?_, ?_⟩
    · intro hx
      have r := valid.range x hx
      exact ⟨x, hx, by omega⟩
    · rintro ⟨d, hd, rfl⟩
      have r := valid.range d hd
      rwa [show (d + 0) % 7 = d by omega]
  · have moved : ValidDays (toSet (days.map (shiftDay shift))) := by
      apply ValidDays.of_toSet
      · exact fun e => valid.ne_nil (List.map_eq_nil_iff.mp e)
      · intro x hx
        obtain ⟨d, _, rfl⟩ := List.mem_map.mp hx
        rw [shiftDay_eq]
        omega
    refine ⟨(toSet (days.map (shiftDay shift))).map .int, _, ?_, ?_, moved, ?_⟩
    · rw [shiftWeekdays, if_neg zero, numbers]
      rfl
    · apply mapM_map_some
      intro x hx
      have r := moved.range x hx
      exact conv.toInt_int x (by omega) (by omega)
    · intro x
      rw [mem_toSet, List.mem_map]
      refine ⟨?_, ?_⟩
      · rintro ⟨d, hd, rfl⟩
        exact ⟨d, hd, shiftDay_eq shift d⟩
      · rintro ⟨d, hd, rfl⟩
        exact ⟨d, hd, shiftDay_eq shift d⟩

/-- Weekdays which move twice. -/
lemma shift_shift {days days' : List Int} {k j : Int}
    (mem : ∀ x, x ∈ days' ↔ ∃ d ∈ days, x = (d + k) % 7) (x : Int) :
    (∃ y ∈ days', x = (y + j) % 7) ↔ ∃ d ∈ days, x = (d + (k + j)) % 7 := by
  refine ⟨?_, ?_⟩
  · rintro ⟨y, hy, rfl⟩
    obtain ⟨d, hd, rfl⟩ := (mem y).mp hy
    exact ⟨d, hd, by omega⟩
  · rintro ⟨d, hd, rfl⟩
    exact ⟨(d + k) % 7, (mem _).mpr ⟨d, hd, rfl⟩, by omega⟩

/-! ## Requests -/

/-- What `ParseAndValidateScheduleRequest` promises of the times and the weekdays of a request. -/
structure ParsedScheduleRequest.Validated (conv : Conversions) (request : ParsedScheduleRequest) :
    Prop where
  start : 0 ≤ request.startMinute ∧ request.startMinute < 1440
  stop : 0 ≤ request.stopMinute ∧ request.stopMinute < 1440
  differ : request.startMinute ≠ request.stopMinute
  weekdays : validateWeekdays conv request.weekdays = true

/-- The days of a validated request are valid. -/
lemma ParsedScheduleRequest.Validated.validDays {request : ParsedScheduleRequest} {days : List Int}
    (v : request.Validated conv) (numbers : Numbers conv request.weekdays days) : ValidDays days := by
  obtain ⟨days', numbers', valid⟩ := validateWeekdays_inv v.weekdays
  rwa [← Option.some.inj (numbers'.symm.trans numbers)]

/-- A text which reads as a time names a minute of the day. -/
lemma parseTimeString_bounds {value : Json} {m : Int} (h : parseTimeString value = some m) :
    0 ≤ m ∧ m < 1440 := by
  have digit : ∀ c : Char, c.isDigit = true → 48 ≤ c.toNat := by
    intro c hc
    simp only [Char.isDigit, Bool.and_eq_true, decide_eq_true_eq] at hc
    exact hc.1
  unfold parseTimeString at h
  split at h
  case h_2 => cases h
  case h_1 =>
    split at h
    case h_2 => cases h
    case h_1 a b c d _ =>
      split at h
      case isFalse => cases h
      case isTrue digits =>
        simp only [Bool.and_eq_true] at digits
        have ha := digit a digits.1.1.1
        have hb := digit b digits.1.1.2
        have hc := digit c digits.1.2
        have hd := digit d digits.2
        dsimp only at h
        split at h
        case isTrue => cases h
        case isFalse small =>
          cases h
          omega

/-- What `ParseAndValidateScheduleRequest` accepts is valid. -/
theorem parseAndValidateScheduleRequest_validated {body : Json.Object} {enabledRequired : Bool}
    {request : ParsedScheduleRequest}
    (h : parseAndValidateScheduleRequest conv body enabledRequired = .ok request) :
    request.Validated conv := by
  have time : ∀ {k message m}, parseTime body k message = .ok m → 0 ≤ m ∧ m < 1440 := by
    intro k message m eq
    rw [parseTime] at eq
    split at eq
    case h_1 some =>
      cases eq
      obtain ⟨value, _, parsed⟩ := Option.bind_eq_some_iff.mp some
      exact parseTimeString_bounds parsed
    case h_2 => cases eq
  rw [parseAndValidateScheduleRequest] at h
  split at h
  case h_1 => cases h
  case h_2 =>
    obtain ⟨name, _, h⟩ := except_bind_ok h
    obtain ⟨_, _, h⟩ := except_bind_ok h
    obtain ⟨target, _, h⟩ := except_bind_ok h
    obtain ⟨⟨startMinute, stopMinute⟩, times, h⟩ := except_bind_ok h
    obtain ⟨weekdays, days, h⟩ := except_bind_ok h
    obtain ⟨enabled, _, h⟩ := except_bind_ok h
    obtain ⟨description, _, h⟩ := except_bind_ok h
    cases h
    obtain ⟨a, start, times⟩ := except_bind_ok times
    obtain ⟨b, stop, times⟩ := except_bind_ok times
    split at times
    case isTrue => cases times
    case isFalse differ =>
      cases times
      refine ⟨time start, time stop, differ, ?_⟩
      rw [parseWeekdays] at days
      split at days
      case h_2 => cases days
      case h_1 =>
        split at days
        case isTrue valid =>
          cases days
          exact valid
        case isFalse => cases days

/-! ## Times as text -/

/-- What `MinuteToTimeString` writes, `ParseTimeString` reads. -/
theorem parseTimeString_minuteToTimeString {m : Int} (h : 0 ≤ m ∧ m < 1440) :
    ∃ s, minuteToTimeString m = some s ∧ parseTimeString (.str s) = some m := by
  have digit : ∀ n < 10, (Nat.digitChar n).isDigit = true ∧ (Nat.digitChar n).toNat = n + 48 := by
    decide
  obtain ⟨n, rfl⟩ := Int.eq_ofNat_of_zero_le h.1
  have fields : pad0 2 (Int.tdiv n 60) ++ ':' :: pad0 2 (Int.tmod n 60) =
      [Nat.digitChar (n / 60 / 10), Nat.digitChar (n / 60 % 10), ':',
        Nat.digitChar (n % 60 / 10), Nat.digitChar (n % 60 % 10)] := by
    rw [Int.tdiv_eq_ediv_of_nonneg h.1, Int.tmod_eq_emod_of_nonneg h.1, pad0, pad0, if_neg (by omega),
      if_neg (by omega), show ((n : Int) / 60).toNat = n / 60 by omega,
      show ((n : Int) % 60).toNat = n % 60 by omega, padDigits_two (by omega), padDigits_two (by omega)]
    rfl
  have d1 := digit (n / 60 / 10) (by omega)
  have d2 := digit (n / 60 % 10) (by omega)
  have d3 := digit (n % 60 / 10) (by omega)
  have d4 := digit (n % 60 % 10) (by omega)
  refine ⟨_, if_neg (by omega), ?_⟩
  simp only [parseTimeString, String.toList_ofList, fields, d1, d2, d3, d4, Bool.and_self, if_true]
  rw [if_neg (by omega)]
  congr 1
  omega

/-- Texts of minutes are equal where the minutes are. -/
lemma minuteToTimeString_inj {a b : Int} (ha : 0 ≤ a ∧ a < 1440) (hb : 0 ≤ b ∧ b < 1440) :
    minuteToTimeString a = minuteToTimeString b ↔ a = b := by
  refine ⟨?_, ?_⟩
  · intro e
    obtain ⟨s, eq, parsed⟩ := parseTimeString_minuteToTimeString ha
    obtain ⟨s', eq', parsed'⟩ := parseTimeString_minuteToTimeString hb
    rw [eq, eq', Option.some_inj] at e
    rw [e, parsed', Option.some_inj] at parsed
    exact parsed.symm
  · exact congrArg minuteToTimeString

/-! ## Conversions -/

variable {locateZone : String → Option Zone} {timezoneStr : String} {zone : Zone} {sysNow : Int}

/-- The time zone of a subscriber. -/
structure Located (locateZone : String → Option Zone) (timezoneStr : String) (zone : Zone) : Prop where
  nonempty : timezoneStr ≠ ""
  zone : locateZone timezoneStr = some zone

/-- What `ConvertScheduleTimesToUtc` makes of a request: the minutes of the instants at which it starts
and stops today, and the weekdays of the former. -/
lemma convertScheduleTimesToUtc_spec {request : ParsedScheduleRequest} {localDate : Int}
    {days : List Int} (day : today zone sysNow = localDate) (located : Located locateZone timezoneStr zone)
    (numbers : Numbers conv request.weekdays days)
    (valid : ValidDays days) :
    ∃ ws' days',
      convertScheduleTimesToUtc conv locateZone sysNow timezoneStr request =
        some { request with
          startMinute := minuteOfDay (zone.toSys (request.localStart localDate))
          stopMinute := minuteOfDay (zone.toSys (request.localStop localDate))
          weekdays := ws' } ∧
      Numbers conv ws' days' ∧ ValidDays days' ∧
      ∀ x, x ∈ days' ↔ ∃ d ∈ days,
        x = (d + (zone.toSys (request.localStart localDate) / 86400 - localDate)) % 7 := by
  obtain ⟨ws', days', shifted, numbers', valid', mem⟩ := shiftWeekdays_spec numbers valid
    (zone.toSys (request.localStart localDate) / 86400 - localDate)
  refine ⟨ws', days', ?_, numbers', valid', mem⟩
  rw [convertScheduleTimesToUtc, if_neg located.nonempty, located.zone]
  simp only [day, shifted, Option.map_some]

/-- A schedule as the service keeps it. -/
structure Stored (schedule : Json.Object) (startMinute stopMinute : Int) (weekdays : List Json) :
    Prop where
  start : schedule.get? "start_minute" = some (.int startMinute)
  stop : schedule.get? "stop_minute" = some (.int stopMinute)
  weekdays : schedule.getArray? "weekdays" = some weekdays

/-- The schedule with local times. -/
def localForm (schedule : Json.Object) (weekdays : List Json) (startTime stopTime : String) :
    Json.Object :=
  (((((schedule.set "weekdays" (.arr weekdays)).set "start_time" (.str startTime)).set "stop_time"
    (.str stopTime)).remove "start_minute").remove "stop_minute").remove "config-raw"

/-- What the local form of a schedule holds. -/
lemma localForm_get? (schedule : Json.Object) (weekdays : List Json) (startTime stopTime : String) :
    (localForm schedule weekdays startTime stopTime).get? "start_time" = some (.str startTime) ∧
    (localForm schedule weekdays startTime stopTime).get? "stop_time" = some (.str stopTime) ∧
    (localForm schedule weekdays startTime stopTime).get? "weekdays" = some (.arr weekdays) := by
  rw [localForm]
  refine ⟨?_, ?_, ?_⟩ <;>
    rw [Json.Object.get?_remove_of_ne _ (by decide), Json.Object.get?_remove_of_ne _ (by decide),
      Json.Object.get?_remove_of_ne _ (by decide)]
  · rw [Json.Object.get?_set_of_ne _ _ (by decide), Json.Object.get?_set_self]
  · rw [Json.Object.get?_set_self]
  · rw [Json.Object.get?_set_of_ne _ _ (by decide), Json.Object.get?_set_of_ne _ _ (by decide),
      Json.Object.get?_set_self]

/-- The payload which creates or updates a schedule holds its minutes and its weekdays. -/
lemma buildScheduleRequestBody_stored (req : ParsedScheduleRequest) :
    Stored (buildScheduleRequestBody req) req.startMinute req.stopMinute req.weekdays := by
  rw [buildScheduleRequestBody]
  refine ⟨?_, ?_, ?_⟩
  · rw [Json.Object.get?_set_of_ne _ _ (by decide), Json.Object.get?_set_of_ne _ _ (by decide),
      Json.Object.get?_set_self]
  · rw [Json.Object.get?_set_of_ne _ _ (by decide), Json.Object.get?_set_self]
  · rw [Json.Object.getArray?_set_self]

/-- The minute of a local time has a text. -/
lemma localMinuteOfDay_text (zone : Zone) (t : Int) :
    ∃ s, minuteToTimeString (localMinuteOfDay zone t) = some s := by
  obtain ⟨s, eq, _⟩ := parseTimeString_minuteToTimeString (minuteOfDay_bounds (zone.toLocal t))
  exact ⟨s, eq⟩

/-- A response with the times and the weekdays of a schedule. -/
structure ReadsBack (conv : Conversions) (out : Json.Object) (startMinute stopMinute : Int)
    (days : List Int) : Prop where
  start_time : out.getString? "start_time" = minuteToTimeString startMinute
  stop_time : out.getString? "stop_time" = minuteToTimeString stopMinute
  weekdays : ∃ ws days', out.getArray? "weekdays" = some ws ∧ Numbers conv ws days' ∧
    ∀ x, x ∈ days' ↔ x ∈ days

/-- A response has the times and the weekdays of one schedule only. -/
lemma ReadsBack.iff {out : Json.Object} {a b startMinute stopMinute : Int} {days days' : List Int}
    (reads : ReadsBack conv out a b days) (ha : 0 ≤ a ∧ a < 1440) (hb : 0 ≤ b ∧ b < 1440)
    (start : 0 ≤ startMinute ∧ startMinute < 1440) (stop : 0 ≤ stopMinute ∧ stopMinute < 1440) :
    ReadsBack conv out startMinute stopMinute days' ↔
      a = startMinute ∧ b = stopMinute ∧ ∀ x, x ∈ days ↔ x ∈ days' := by
  obtain ⟨ws, found, array, numbers, mem⟩ := reads.weekdays
  refine ⟨?_, ?_⟩
  · rintro ⟨start_time, stop_time, ws', found', array', numbers', mem'⟩
    obtain rfl := Option.some.inj (array.symm.trans array')
    obtain rfl := Option.some.inj (numbers.symm.trans numbers')
    rw [reads.start_time, minuteToTimeString_inj ha start] at start_time
    rw [reads.stop_time, minuteToTimeString_inj hb stop] at stop_time
    exact ⟨start_time, stop_time, fun x => (mem x).symm.trans (mem' x)⟩
  · rintro ⟨rfl, rfl, same⟩
    exact ⟨reads.start_time, reads.stop_time, ws, found, array, numbers,
      fun x => (mem x).trans (same x)⟩

/-- What `NormalizeScheduleResponse` makes of a schedule: the local times of the instants at which it
puts the start and the stop, and the weekdays of the former. -/
lemma normalizeScheduleResponse_spec {schedule : Json.Object}
    {localDay startMinute stopMinute : Int} {ws : List Json} {days : List Int}
    (day : today zone sysNow = localDay) (located : Located locateZone timezoneStr zone)
    (stored : Stored schedule startMinute stopMinute ws) (start : 0 ≤ startMinute ∧ startMinute < 1440)
    (stop : 0 ≤ stopMinute ∧ stopMinute < 1440) (numbers : Numbers conv ws days)
    (valid : ValidDays days) :
    ∃ out days',
      normalizeScheduleResponse conv locateZone sysNow timezoneStr schedule = (true, out) ∧
      ReadsBack conv out (localMinuteOfDay zone (readStart zone localDay startMinute))
        (localMinuteOfDay zone (readStop zone localDay startMinute stopMinute)) days' ∧
      ∀ x, x ∈ days' ↔ ∃ d ∈ days, x = (d + (zone.localDay (readStart zone localDay startMinute) -
        utcDayOf zone localDay startMinute)) % 7 := by
  obtain ⟨ws', days', shifted, numbers', valid', mem⟩ := shiftWeekdays_spec numbers valid
    (zone.localDay (readStart zone localDay startMinute) - utcDayOf zone localDay startMinute)
  obtain ⟨startTime, startEq⟩ := localMinuteOfDay_text zone (readStart zone localDay startMinute)
  obtain ⟨stopTime, stopEq⟩ :=
    localMinuteOfDay_text zone (readStop zone localDay startMinute stopMinute)
  have getStart : conv.getInt schedule "start_minute" = some startMinute := by
    rw [Conversions.getInt, stored.start]
    exact conv.toInt_int startMinute (by omega) (by omega)
  have getStop : conv.getInt schedule "stop_minute" = some stopMinute := by
    rw [Conversions.getInt, stored.stop]
    exact conv.toInt_int stopMinute (by omega) (by omega)
  have has : (timezoneStr = "" || !schedule.has "start_minute" || !schedule.has "stop_minute") = false := by
    rw [Json.Object.has, Json.Object.has, stored.start, stored.stop]
    simpa using located.nonempty
  obtain ⟨start_time, stop_time, weekdays⟩ := localForm_get? schedule ws' startTime stopTime
  refine ⟨localForm schedule ws' startTime stopTime, days', ?_, ⟨?_, ?_, ws', days', ?_, numbers', ?_⟩,
    mem⟩
  · rw [normalizeScheduleResponse, has, getStart, getStop]
    simp only [Bool.false_eq_true, if_false]
    rw [if_neg (by omega), located.zone]
    simp only [shiftResponseWeekdays, stored.weekdays, day, shifted, startEq, stopEq, Option.map_some]
    rfl
  · exact (Json.Object.getString?_eq_some.mpr start_time).trans startEq.symm
  · exact (Json.Object.getString?_eq_some.mpr stop_time).trans stopEq.symm
  · exact Json.Object.getArray?_eq_some.mpr weekdays
  · exact fun x => Iff.rfl

/-- The start is read at its minute. -/
lemma readStart_minute {minute : Int} (zone : Zone) (localDay : Int) (h : 0 ≤ minute ∧ minute < 1440) :
    readStart zone localDay minute % 86400 = 60 * minute := by
  rw [readStart]
  omega

/-- So is the stop. -/
lemma readStop_minute {minute : Int} (zone : Zone) (localDay startMinute : Int)
    (h : 0 ≤ minute ∧ minute < 1440) :
    readStop zone localDay startMinute minute % 86400 = 60 * minute := by
  simp only [readStop]
  omega

/-- The stop follows the start by the difference of their minutes. -/
lemma readStop_eq {localDay startMinute stopMinute : Int}
    (start : 0 ≤ startMinute ∧ startMinute < 1440) (stop : 0 ≤ stopMinute ∧ stopMinute < 1440)
    (differ : startMinute ≠ stopMinute) :
    readStop zone localDay startMinute stopMinute =
      readStart zone localDay startMinute + 60 * ((stopMinute - startMinute) % 1440) := by
  unfold readStop readStart
  dsimp only
  split
  case isTrue => omega
  case isFalse => omega

end UserPortal.RestApi.ParentalControl
