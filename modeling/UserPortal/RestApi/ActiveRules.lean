import UserPortal.Calendar.Weekly
import UserPortal.RestApi.FirewallRules

/-!
# When a rule is active

`IsRuleActive` compares dates and times as texts. Within the years 0 to 9999 it decides whether an
instant lies in a window of the rule, and returns the end of that window.
-/

namespace UserPortal.RestApi.ParentalControl
open Calendar Data

variable {parser : DateTimeParser} {micros : Int}

/-- The dates which `IsRuleActive` writes at an instant, today's and tomorrow's, have years of four
digits. -/
def Representable (t : Int) : Prop := FourDigitYear (t / 86400) ∧ FourDigitYear (t / 86400 + 1)

/-! ## Dates -/

lemma previousWeekday_eq (z : Int) : (weekday z + 6).tmod 7 = weekday (z - 1) := by
  have pos := weekday_bounds z
  rw [Int.tmod_eq_emod_of_nonneg (by omega)]
  unfold weekday
  omega

/-- The end of a block is kept when it lies in the future. -/
lemma stopEpoch_stamp {z s : Int} (y : FourDigitYear z) (h : 0 ≤ s ∧ s < 86400) :
    stopEpoch parser (formatStamp z s) (.ofTimestamp micros) =
      if 86400 * z + s ≤ micros / 1000000 then none else some (86400 * z + s) := by
  rw [stopEpoch, parser.stamp z s y h]
  simp only [DateTime.ofSeconds_utcTime_le_iff, DateTime.epochTime_ofSeconds]

lemma dayNumber_ofTimestamp : (DateTime.ofTimestamp micros).dayNumber = micros / 1000000 / 86400 := by
  rw [DateTime.dayNumber, DateTime.epochTime_ofTimestamp]

lemma daySecond_ofTimestamp : (DateTime.ofTimestamp micros).daySecond = micros / 1000000 % 86400 := by
  rw [DateTime.daySecond, DateTime.epochTime_ofTimestamp]

/-- The day after a day of the years 0 to 9999. -/
lemma dayNumber_tomorrow (y : FourDigitYear (micros / 1000000 / 86400)) :
    ((DateTime.ofTimestamp micros).add (timespan 86400)).dayNumber = micros / 1000000 / 86400 + 1 := by
  have bounds := fourDigitYear_bounds y
  have day : timespan 86400 = 86400000000 := by decide
  have span : int64 (86400000000 * 10) = 864000000000 := by decide
  simp only [DateTime.dayNumber, DateTime.epochTime, DateTime.add, DateTime.ofTimestamp, day, span]
  rw [int64_eq]
  · omega
  · rw [DateTime.epoch]
    omega
  · rw [DateTime.epoch]
    omega

/-! ## Rules with weekdays -/

/-- An enabled rule with weekdays. Its times are given in seconds of the day. -/
structure FirewallRuleInfo.Weekly (rule : FirewallRuleInfo) (start stop : Int) : Prop where
  hasSection : rule.hasSection = true
  enabled : rule.hasEnabled = true ∧ rule.enabled = true
  macs : rule.macs ≠ []
  hasWeekdays : rule.hasWeekdays = true
  hasTimes : rule.hasStartTime = true ∧ rule.hasStopTime = true
  startTime : rule.startTime = formatTime start
  stopTime : rule.stopTime = formatTime stop
  startBounds : 0 ≤ start ∧ start < 86400
  stopBounds : 0 ≤ stop ∧ stop < 86400
  differ : start ≠ stop

variable {rule : FirewallRuleInfo} {start stop : Int}

/-- The stop of a rule with weekdays, when its window has begun. -/
lemma weekdayStop_eq {z s : Int} (w : rule.Weekly start stop) (day : micros / 1000000 / 86400 = z)
    (y : FourDigitYear z) (second : 0 ≤ s ∧ s < 86400) :
    weekdayStop (weekday z) (formatDate z) (formatTime s) rule (.ofTimestamp micros) =
      if start < stop then
        if weekday z ∈ rule.weekdays ∧ start ≤ s ∧ s < stop then some (formatStamp z stop) else none
      else if weekday z ∈ rule.weekdays ∧ start ≤ s then some (formatStamp (z + 1) stop)
      else if weekday (z - 1) ∈ rule.weekdays ∧ s < stop then some (formatStamp z stop)
      else none := by
  subst day
  simp only [weekdayStop, w.startTime, w.stopTime, previousWeekday_eq, ← String.not_lt,
    formatTime_lt_iff w.startBounds w.stopBounds, formatTime_lt_iff second w.startBounds,
    formatTime_lt_iff second w.stopBounds, Int.not_lt, DateTime.formatDate, dayNumber_tomorrow y]
  rfl

lemma isRuleActiveAt_weekly (w : rule.Weekly start stop) :
    isRuleActiveAt parser (.ofTimestamp micros) rule =
      (weekdayStop (weekday (micros / 1000000 / 86400)) (formatDate (micros / 1000000 / 86400))
        (formatTime (micros / 1000000 % 86400)) rule (.ofTimestamp micros)).bind
        fun stopStr => stopEpoch parser stopStr (.ofTimestamp micros) := by
  have times : rule.startTime ≠ rule.stopTime := by
    rw [w.startTime, w.stopTime]
    exact fun e => w.differ ((formatTime_inj w.startBounds w.stopBounds).mp e)
  rw [isRuleActiveAt, isRuleActive]
  simp only [DateTime.dayOfWeek, DateTime.formatDate, DateTime.formatTime, dayNumber_ofTimestamp,
    daySecond_ofTimestamp]
  rw [w.hasSection, w.enabled.1, w.enabled.2, w.hasWeekdays, w.hasTimes.1, w.hasTimes.2, if_neg w.macs,
    if_neg times]
  cases weekdayStop (weekday (micros / 1000000 / 86400)) (formatDate (micros / 1000000 / 86400))
    (formatTime (micros / 1000000 % 86400)) rule (.ofTimestamp micros) with
  | none => rfl
  | some => rfl

/-- The windows of a rule with weekdays in which an instant lies end in years of four digits. -/
def FirewallRuleInfo.EndsWritable (rule : FirewallRuleInfo) (start stop t : Int) : Prop :=
  ∀ d, weekday d ∈ rule.weekdays → 86400 * d + start ≤ t →
    t < 86400 * d + start + (stop - start) % 86400 →
    FourDigitYear ((86400 * d + start + (stop - start) % 86400) / 86400)

/-- The window of the day `d₀` has begun, and stops on the day `z`: the block ends with that window, where
it is the only one in which the instant can lie. -/
lemma stopEpoch_window {e d₀ z : Int} (y : FourDigitYear z) (ht : 0 ≤ stop ∧ stop < 86400)
    (mem : weekday d₀ ∈ rule.weekdays) (begun : 86400 * d₀ + start ≤ micros / 1000000)
    (stops : 86400 * z + stop = 86400 * d₀ + start + (stop - start) % 86400)
    (only : ∀ d, weekday d ∈ rule.weekdays → 86400 * d + start ≤ micros / 1000000 →
      micros / 1000000 < 86400 * d + start + (stop - start) % 86400 → d = d₀) :
    ((some (formatStamp z stop)).bind fun stopStr => stopEpoch parser stopStr (.ofTimestamp micros)) =
        some e ↔
      ∃ d, weekday d ∈ rule.weekdays ∧ 86400 * d + start ≤ micros / 1000000 ∧
        micros / 1000000 < e ∧ e = 86400 * d + start + (stop - start) % 86400 := by
  rw [Option.bind_some, stopEpoch_stamp y ht, Option.ite_none_left_eq_some, Option.some_inj, stops]
  refine ⟨?_, ?_⟩
  · rintro ⟨later, rfl⟩
    exact ⟨d₀, mem, begun, Int.not_le.mp later, rfl⟩
  · rintro ⟨d, mem, begun, before, rfl⟩
    obtain rfl := only d mem begun before
    exact ⟨Int.not_le.mpr before, rfl⟩

/-- A rule with weekdays is active exactly within its windows, and the block ends with the window. -/
theorem weekly_active_iff {e : Int} (w : rule.Weekly start stop)
    (y : FourDigitYear (micros / 1000000 / 86400))
    (ends : rule.EndsWritable start stop (micros / 1000000)) :
    isRuleActiveAt parser (.ofTimestamp micros) rule = some e ↔
      ∃ d, weekday d ∈ rule.weekdays ∧ 86400 * d + start ≤ micros / 1000000 ∧
        micros / 1000000 < e ∧ e = 86400 * d + start + (stop - start) % 86400 := by
  have second : 0 ≤ micros / 1000000 % 86400 ∧ micros / 1000000 % 86400 < 86400 := by omega
  rw [isRuleActiveAt_weekly w, weekdayStop_eq w rfl y second]
  have hs := w.startBounds
  have ht := w.stopBounds
  have differ := w.differ
  split
  case isTrue lt =>
    -- a window within one day begins today
    have begins : ∀ d, 86400 * d + start ≤ micros / 1000000 →
        micros / 1000000 < 86400 * d + start + (stop - start) % 86400 → d = micros / 1000000 / 86400 := by
      omega
    split
    case isTrue on =>
      exact stopEpoch_window y ht on.1 (by omega) (by omega) fun d _ => begins d
    case isFalse off =>
      refine ⟨nofun, ?_⟩
      rintro ⟨d, mem, ge, before, rfl⟩
      obtain rfl := begins d ge before
      exact absurd ⟨mem, by omega, by omega⟩ off
  case isFalse ge =>
    -- an overnight window begins today or has begun yesterday
    have begins : ∀ d, 86400 * d + start ≤ micros / 1000000 →
        micros / 1000000 < 86400 * d + start + (stop - start) % 86400 →
        d = micros / 1000000 / 86400 ∨ d = micros / 1000000 / 86400 - 1 := by
      omega
    split
    case isTrue on =>
      have y' : FourDigitYear (micros / 1000000 / 86400 + 1) := by
        have this := ends _ on.1 (by omega) (by omega)
        rwa [show (86400 * (micros / 1000000 / 86400) + start + (stop - start) % 86400) / 86400 =
          micros / 1000000 / 86400 + 1 by omega] at this
      refine stopEpoch_window y' ht on.1 (by omega) (by omega) ?_
      intro d _ begun before
      rcases begins d begun before with today | yesterday
      · exact today
      · omega
    case isFalse off =>
      split
      case isTrue on =>
        refine stopEpoch_window y ht on.1 (by omega) (by omega) ?_
        intro d mem begun before
        rcases begins d begun before with rfl | yesterday
        · exact absurd ⟨mem, by omega⟩ off
        · exact yesterday
      case isFalse off' =>
        refine ⟨nofun, ?_⟩
        rintro ⟨d, mem, ge, before, rfl⟩
        rcases begins d ge before with rfl | rfl
        · exact absurd ⟨mem, by omega⟩ off
        · exact absurd ⟨mem, by omega⟩ off'

/-- Where today and tomorrow can be written, so can every window which goes on. -/
lemma Representable.endsWritable {t : Int} (y : Representable t) (w : rule.Weekly start stop) :
    rule.EndsWritable start stop t := by
  have hs := w.startBounds
  intro d _ begun running
  obtain ⟨today, tomorrow⟩ := y
  exact today.between tomorrow (by omega) (by omega)

/-- An enabled client-access rule with dates and times. Its dates are given in days, its times in seconds
of the day. -/
structure FirewallRuleInfo.Bounded (rule : FirewallRuleInfo) (startDay start stopDay stop : Int) : Prop
    where
  hasSection : rule.hasSection = true
  enabled : rule.hasEnabled = true ∧ rule.enabled = true
  macs : rule.macs ≠ []
  hasWeekdays : rule.hasWeekdays = false
  clientAccess : rule.isClientAccessRule = true ∧ rule.hasClientAccessBoundary = true
  hasDates : rule.hasStartDate = true ∧ rule.hasStopDate = true
  hasTimes : rule.hasStartTime = true ∧ rule.hasStopTime = true
  startDate : rule.startDate = formatDate startDay
  stopDate : rule.stopDate = formatDate stopDay
  startTime : rule.startTime = formatTime start
  stopTime : rule.stopTime = formatTime stop
  startBounds : 0 ≤ start ∧ start < 86400
  stopBounds : 0 ≤ stop ∧ stop < 86400
  years : FourDigitYear startDay ∧ FourDigitYear stopDay

/-- The end of a client-access rule: on its start date, unless its stop time precedes its start time. -/
def boundedStop (startDay start stopDay stop : Int) : Int :=
  86400 * (if start ≤ stop then startDay else stopDay) + stop

/-- A client-access rule is active from its start to its end. -/
theorem bounded_active_eq {startDay stopDay : Int} (b : rule.Bounded startDay start stopDay stop)
    (y : FourDigitYear (micros / 1000000 / 86400)) :
    isRuleActiveAt parser (.ofTimestamp micros) rule =
      if 86400 * startDay + start ≤ micros / 1000000 ∧
        micros / 1000000 < boundedStop startDay start stopDay stop
      then some (boundedStop startDay start stopDay stop) else none := by
  have second : 0 ≤ micros / 1000000 % 86400 ∧ micros / 1000000 % 86400 < 86400 := by omega
  have stopYear : FourDigitYear (if start ≤ stop then startDay else stopDay) := by
    split
    case isTrue => exact b.years.1
    case isFalse => exact b.years.2
  have before : formatDate (micros / 1000000 / 86400) ++ " " ++ formatTime (micros / 1000000 % 86400) <
      rule.startDate ++ " " ++ rule.startTime ↔ micros / 1000000 < 86400 * startDay + start := by
    rw [b.startDate, b.startTime]
    refine (formatStamp_lt_iff y b.years.1 second b.startBounds).trans ?_
    have bounds := b.startBounds
    omega
  have stopStr : (if rule.startTime ≤ rule.stopTime then rule.startDate else rule.stopDate) ++ " " ++
      rule.stopTime = formatStamp (if start ≤ stop then startDay else stopDay) stop := by
    simp only [b.startTime, b.stopTime, b.startDate, b.stopDate, ← String.not_lt,
      formatTime_lt_iff b.stopBounds b.startBounds, Int.not_lt]
    split <;> rfl
  have after : formatStamp (if start ≤ stop then startDay else stopDay) stop ≤
      formatDate (micros / 1000000 / 86400) ++ " " ++ formatTime (micros / 1000000 % 86400) ↔
      boundedStop startDay start stopDay stop ≤ micros / 1000000 := by
    rw [← String.not_lt]
    refine (not_congr (formatStamp_lt_iff y stopYear second b.stopBounds)).trans ?_
    have bounds := b.stopBounds
    rw [boundedStop]
    omega
  rw [isRuleActiveAt, isRuleActive]
  simp only [DateTime.formatDate, DateTime.formatTime, dayNumber_ofTimestamp, daySecond_ofTimestamp]
  rw [b.hasSection, b.enabled.1, b.enabled.2, b.hasWeekdays, b.clientAccess.1, b.clientAccess.2,
    b.hasDates.1, b.hasDates.2, b.hasTimes.1, b.hasTimes.2, if_neg b.macs, stopStr]
  simp only [Bool.not_true, Bool.or_self, Bool.false_eq_true, if_false, before, after,
    stopEpoch_stamp stopYear b.stopBounds]
  rw [← boundedStop]
  split
  case isTrue early => rw [if_neg (by omega)]
  case isFalse started =>
    split
    case isTrue late => rw [if_neg (by omega)]
    case isFalse running => rw [if_pos ⟨Int.not_lt.mp started, Int.not_le.mp running⟩]

/-- A client-access rule some of whose dates and times are missing or invalid, but not all missing. -/
structure FirewallRuleInfo.Incomplete (rule : FirewallRuleInfo) : Prop where
  hasWeekdays : rule.hasWeekdays = false
  clientAccess : rule.isClientAccessRule = true ∧ rule.hasClientAccessBoundary = true
  missing : rule.hasStartDate = false ∨ rule.hasStopDate = false ∨ rule.hasStartTime = false ∨
    rule.hasStopTime = false

/-- A client-access rule with dates or times which are missing or invalid is never active. -/
lemma incomplete_inactive (i : rule.Incomplete) (nowUtc : DateTime) :
    isRuleActiveAt parser nowUtc rule = none := by
  have missing : (!rule.hasStartDate || !rule.hasStopDate || !rule.hasStartTime || !rule.hasStopTime) =
      true := by
    rcases i.missing with h | h | h | h
    · rw [h]
      rfl
    · rw [h, Bool.not_false, Bool.or_true, Bool.true_or, Bool.true_or]
    · rw [h, Bool.not_false, Bool.or_true, Bool.true_or]
    · rw [h, Bool.not_false, Bool.or_true]
  rw [isRuleActiveAt, isRuleActive]
  rw [i.hasWeekdays, i.clientAccess.1, i.clientAccess.2, missing]
  split
  · rfl
  · split
    · rfl
    · rfl

/-! ## Every rule -/

/-- The rule with weekdays is active exactly within its windows, and its block ends with the window. -/
def FirewallRuleInfo.ActiveInWindows (parser : DateTimeParser) (rule : FirewallRuleInfo)
    (start stop micros : Int) : Prop :=
  ∀ e, isRuleActiveAt parser (.ofTimestamp micros) rule = some e ↔
    ∃ d, weekday d ∈ rule.weekdays ∧ 86400 * d + start ≤ micros / 1000000 ∧
      micros / 1000000 < e ∧ e = 86400 * d + start + (stop - start) % 86400

/-- The client-access rule is active from its start to its end, at which its block ends. -/
def FirewallRuleInfo.ActiveUntil (parser : DateTimeParser) (rule : FirewallRuleInfo)
    (startDay start stopDay stop micros : Int) : Prop :=
  ∀ e, isRuleActiveAt parser (.ofTimestamp micros) rule = some e ↔
    86400 * startDay + start ≤ micros / 1000000 ∧ micros / 1000000 < e ∧
      e = boundedStop startDay start stopDay stop

/-- At every clock reading of the years 0 to 9999, a rule with weekdays is active exactly in its windows,
where they end in these years; a client-access rule is active from its start to its end, for ever if it
has neither, and never if it lacks a part of them. -/
theorem isRuleActive_exact (parser : DateTimeParser) (rule : FirewallRuleInfo) {micros : Int}
    (y : FourDigitYear (micros / 1000000 / 86400)) :
    (∀ start stop, rule.Weekly start stop → rule.EndsWritable start stop (micros / 1000000) →
      rule.ActiveInWindows parser start stop micros) ∧
    (∀ startDay start stopDay stop, rule.Bounded startDay start stopDay stop →
      rule.ActiveUntil parser startDay start stopDay stop micros) ∧
    (rule.Permanent → isRuleActiveAt parser (.ofTimestamp micros) rule = some (-1)) ∧
    (rule.Incomplete → isRuleActiveAt parser (.ofTimestamp micros) rule = none) := by
  refine ⟨?_, ?_, fun p => p.active _, fun i => incomplete_inactive i _⟩
  · intro start stop w ends e
    exact weekly_active_iff w y ends
  · intro startDay start stopDay stop b e
    rw [bounded_active_eq b y, Option.ite_none_right_eq_some, Option.some_inj]
    refine ⟨?_, ?_⟩
    · rintro ⟨⟨begun, running⟩, rfl⟩
      exact ⟨begun, running, rfl⟩
    · rintro ⟨begun, running, rfl⟩
      exact ⟨⟨begun, running⟩, rfl⟩

namespace LastNight

/-- A rule which blocks from 23:00 to 06:00, from every Friday on. -/
def fridays : FirewallRuleInfo where
  enabled := true
  hasSection := true
  hasEnabled := true
  hasStartTime := true
  hasStopTime := true
  hasWeekdays := true
  startTime := "23:00:00"
  stopTime := "06:00:00"
  weekdays := [5]
  macs := ["020000000001"]

lemma weekly : fridays.Weekly 82800 21600 :=
  ⟨rfl, ⟨rfl, rfl⟩, nofun, rfl, ⟨rfl, rfl⟩, by decide, by decide, by decide, by decide, by decide⟩

/-- On the last day of the year 9999, a Friday, it is not active at 23:30: the end of its window cannot be
written. -/
theorem lastNight_inactive :
    weekday 2932896 = 5 ∧ isRuleActiveAt .canonical (.ofTimestamp 253402299000000000) fridays = none ∧
      ¬ fridays.ActiveInWindows .canonical 82800 21600 253402299000000000 := by
  have inactive : isRuleActiveAt .canonical (.ofTimestamp 253402299000000000) fridays = none := by
    decide +kernel
  refine ⟨by decide, inactive, ?_⟩
  intro exact_
  have active := (exact_ 253402322400).mpr ⟨2932896, by decide, by decide, by decide, by decide⟩
  rw [inactive] at active
  cases active

/-- On the Friday before, it is active until 06:00 of the next day. -/
theorem lastNight_week_before :
    fridays.ActiveInWindows .canonical 82800 21600 253401694200000000 := by
  have y : Representable (253401694200000000 / 1000000) := ⟨by decide, by decide⟩
  exact (isRuleActive_exact .canonical fridays y.1).1 82800 21600 weekly (y.endsWritable weekly)

end LastNight

/-- What a configuration with one rule says of the client of that rule. -/
lemma getBlockedClients_single {conv : Conversions} {locateZone : String → Option Zone}
    {timezoneStr section_ mac : String} {nowUtc : DateTime} {config : Json.Object}
    {commands : List Json} (raw : config.getArray? "config-raw" = some commands)
    (read : readRules conv parser commands = .single section_ rule) (macs : rule.macs = [mac]) :
    (getBlockedClients conv parser locateZone nowUtc timezoneStr (some config)).2.get? mac =
      (isRuleActiveAt parser nowUtc rule).map (untilStr locateZone timezoneStr) := by
  simp only [getBlockedClients, raw, blockedClients, read, OrderedMap.single, List.foldl_cons,
    List.foldl_nil, blockClients, OrderedMap.get?_map]
  cases isRuleActiveAt parser nowUtc rule with
  | none => rfl
  | some stopEpoch =>
    simp only [macs, List.foldl_cons, List.foldl_nil, OrderedMap.alter_empty, OrderedMap.get?_single,
      laterStop, ite_self]

end UserPortal.RestApi.ParentalControl
