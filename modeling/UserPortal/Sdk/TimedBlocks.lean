import Mathlib.Algebra.Group.Int.Defs
import UserPortal.RestApi.ActiveRules
import UserPortal.RestApi.RuleCommands
import UserPortal.Sdk.SetConfigTraces

/-!
# Timed blocks

A client is blocked for a while by dates and times which are sent to the parental-control service, and
which `GetBlockedClients` reads back from the firewall. The stop date which is sent is the day after the
end, and the reader replaces it by the start date, unless the stop time precedes the start time: the
block lasts as long as requested only if it ends on the date it begins. That date is checked when the
request is validated, and the times are taken later.
-/

namespace UserPortal.Sdk.Gw
open Interaction Program Calendar RestApi.ParentalControl

variable {conv : Conversions} {parser : DateTimeParser} {locateZone : String → Option Zone}
  {timezoneStr : String}

/-! ## The end of a block -/

/-- A duration in units of 100 ns, as the source computes it. -/
def span (d : Int) : Int := int64 (timespan (d * 60) * 10)

lemma endOf_utcTime (now : DateTime) (d : Int) :
    (endOf now d).utcTime = int64 (now.utcTime + span d) := rfl

/-- The source computes with the duration, unless it wraps. -/
lemma span_wraps (d : Int) : ∃ j, span d = 600000000 * d + 2 ^ 64 * j := by
  obtain ⟨i, seconds, _⟩ := int64_wraps (d * 60 * 1000000)
  obtain ⟨j, micros, _⟩ := int64_wraps (timespan (d * 60) * 10)
  rw [span, timespan] at *
  exact ⟨10 * i + j, by omega⟩

/-- A duration which is accepted adds less than a day. -/
lemma span_lt {t d : Int} (y : FourDigitYear (t / 1000000 / 86400))
    (same : differentDate (endOf (.ofTimestamp t) d) (.ofTimestamp t) = false) :
    -864000000000 < span d ∧ span d < 864000000000 := by
  have bounds := fourDigitYear_bounds y
  have day : (endOf (.ofTimestamp t) d).dayNumber = (DateTime.ofTimestamp t).dayNumber := by
    apply DateTime.same_date_iff.mp
    simpa [differentDate, and_assoc] using same
  obtain ⟨i, wraps, _⟩ := int64_wraps (t * 10 + DateTime.epoch + span d)
  have range : -2 ^ 63 ≤ span d ∧ span d < 2 ^ 63 := by
    obtain ⟨_, _, h⟩ := int64_wraps (timespan (d * 60) * 10)
    exact h
  simp only [DateTime.dayNumber, DateTime.epochTime, endOf_utcTime, DateTime.ofTimestamp] at day
  rw [wraps] at day
  have close : -864000000000 < span d + 2 ^ 64 * i ∧ span d + 2 ^ 64 * i < 864000000000 := by omega
  have none : i = 0 := by omega
  rwa [none, Int.mul_zero, Int.add_zero] at close

/-- The end of an accepted duration. -/
lemma endOf_epochTime {t d : Int} (y : FourDigitYear (t / 1000000 / 86400))
    (lt : -864000000000 < span d ∧ span d < 864000000000) :
    (endOf (.ofTimestamp t) d).epochTime = (10 * t + span d) / 10000000 ∧
    ((endOf (.ofTimestamp t) d).add (timespan 86400)).epochTime =
      (10 * t + span d) / 10000000 + 86400 := by
  have bounds := fourDigitYear_bounds y
  have day : int64 (timespan 86400 * 10) = 864000000000 := by decide
  have epoch : DateTime.epoch = 122192928000000000 := rfl
  have stop : (endOf (.ofTimestamp t) d).utcTime = t * 10 + DateTime.epoch + span d := by
    rw [endOf_utcTime]
    simp only [DateTime.ofTimestamp]
    exact int64_eq (by omega) (by omega)
  have next : ((endOf (.ofTimestamp t) d).add (timespan 86400)).utcTime =
      t * 10 + DateTime.epoch + span d + 864000000000 := by
    rw [DateTime.add, stop, day]
    exact int64_eq (by omega) (by omega)
  rw [DateTime.epochTime, DateTime.epochTime, next, stop]
  omega

/-! ## The block -/

lemma requestClientAccess_timed {subscriberId : String} {a : ValidatedClientEntry}
    {tr : List Portal.Event} {r : CallResult} (timed : a.hasDuration = true)
    (h : Trace (requestClientAccess subscriberId a) tr r) :
    ∃ now answer, tr = [⟨.now, now⟩, ⟨.call (ParentalControl.createClientAccessCall subscriberId
      (timedBlockBody a.formattedMac (.ofTimestamp now) a.durationMinutes)), answer⟩] := by
  have deny := (a.duration_inv timed).1
  rw [requestClientAccess] at h
  rw [if_pos deny, if_pos timed] at h
  obtain ⟨now, rest, rfl, h1⟩ := trace_perform_bind.mp h
  obtain ⟨answer, rfl, _⟩ := ParentalControl.createClientAccess_inv h1
  exact ⟨now, answer, rfl⟩

/-- A gateway with these commands blocks a client from one second to another, and no longer, and tells
the end. -/
def BlockedFromTo (conv : Conversions) (parser : DateTimeParser) (locateZone : String → Option Zone)
    (timezoneStr : String) (commands : List Json) (mac : String) (start stop : Int) : Prop :=
  ∀ micros config, FourDigitYear (micros / 1000000 / 86400) →
    config.getArray? "config-raw" = some commands →
    (getBlockedClients conv parser locateZone (.ofTimestamp micros) timezoneStr
      (some config)).2.get? mac =
      if start ≤ micros / 1000000 ∧ micros / 1000000 < stop
      then some (untilStr locateZone timezoneStr stop) else none

section Block

variable {name : SectionName} {mac normalized : String} {day start stopDay stop last : Int}

/-- The commands of a timed block. -/
def blockCommands (name : SectionName) (day start stopDay stop : Int) (mac : String) : List Json :=
  timedBlockCommands name (formatDate day) (formatTime start) (formatDate stopDay) (formatTime stop) mac

/-- A timed block lasts from its start to the end of its rule. -/
lemma blockCommands_blocked (years : FourDigitYear day ∧ FourDigitYear stopDay)
    (startBounds : 0 ≤ start ∧ start < 86400) (stopBounds : 0 ≤ stop ∧ stop < 86400)
    (valid : Utils.normalizeMac mac = some normalized) :
    BlockedFromTo conv parser locateZone timezoneStr (blockCommands name day start stopDay stop mac)
      normalized (86400 * day + start) (boundedStop day start stopDay stop) := by
  intro micros config y raw
  have bounded : (timedBlockRule (formatDate day) (formatTime start) (formatDate stopDay)
      (formatTime stop) normalized).Bounded day start stopDay stop :=
    ⟨rfl, ⟨rfl, rfl⟩, nofun, rfl, ⟨rfl, rfl⟩, ⟨rfl, rfl⟩, ⟨rfl, rfl⟩, rfl, rfl, rfl, rfl, startBounds,
      stopBounds, years⟩
  have read : readRules conv parser (blockCommands name day start stopDay stop mac) =
      .single (clientAccessPrefix ++ name.text) _ :=
    readRules_timedBlockCommands (isValidDate_formatDate years.1) (isValidTime_formatTime startBounds)
      (isValidDate_formatDate years.2) (isValidTime_formatTime stopBounds) valid
  rw [getBlockedClients_single raw read rfl, bounded_active_eq bounded y]
  split
  · rfl
  · rfl

/-- It ends at one time only. -/
lemma blockCommands_iff (years : FourDigitYear day ∧ FourDigitYear stopDay) (order : day ≤ stopDay)
    (startBounds : 0 ≤ start ∧ start < 86400) (stopBounds : 0 ≤ stop ∧ stop < 86400)
    (later : 86400 * day + start < last) (valid : Utils.normalizeMac mac = some normalized) :
    BlockedFromTo conv parser locateZone timezoneStr (blockCommands name day start stopDay stop mac)
      normalized (86400 * day + start) last ↔ boundedStop day start stopDay stop = last := by
  have blocked : BlockedFromTo conv parser locateZone timezoneStr
    (blockCommands name day start stopDay stop mac) normalized (86400 * day + start)
    (boundedStop day start stopDay stop) := blockCommands_blocked years startBounds stopBounds valid
  refine ⟨?_, ?_⟩
  · intro h
    -- the block would have to go on, or to be over, where the ends differ
    have agree : ∀ t, day ≤ t / 86400 → t / 86400 ≤ stopDay → 86400 * day + start ≤ t →
        (t < boundedStop day start stopDay stop ↔ t < last) := by
      intro t ge le started
      have y : FourDigitYear (1000000 * t / 1000000 / 86400) := by
        rw [Int.mul_ediv_cancel_left _ (by decide)]
        exact years.1.between years.2 ge le
      have e := (blocked _ [("config-raw", .arr _)] y rfl).symm.trans (h _ _ y rfl)
      rw [Int.mul_ediv_cancel_left _ (by decide)] at e
      refine ⟨?_, ?_⟩
      · intro lt
        by_contra past
        rw [if_pos ⟨started, lt⟩, if_neg fun h => past h.2] at e
        cases e
      · intro lt
        by_contra past
        rw [if_neg fun h => past h.2, if_pos ⟨started, lt⟩] at e
        cases e
    have bound : boundedStop day start stopDay stop / 86400 ≤ stopDay := by
      rw [boundedStop]
      split <;> omega
    rcases Int.lt_trichotomy (boundedStop day start stopDay stop) last with lt | eq | gt
    · have h1 := agree (max (86400 * day + start) (boundedStop day start stopDay stop))
      omega
    · exact eq
    · have h1 := agree last
      omega
  · rintro rfl
    exact blocked

lemma renderTimedBlock_timedBlockBody (name : SectionName) (mac : String) (now : DateTime) (d : Int) :
    renderTimedBlock name (timedBlockBody mac now d) =
      some (blockCommands name now.dayNumber now.daySecond
        ((endOf now d).add (timespan 86400)).dayNumber (endOf now d).daySecond mac) := rfl

end Block

/-- A block which is requested for some minutes, and accepted, lasts for these minutes exactly when it
ends on the date on which it is issued. -/
theorem timed_block_iff {subscriberId : String} {entry : Json} {a : ValidatedClientEntry}
    {now1 now2 : Int} {tr : List Portal.Event} {r : CallResult}
    (accepted : Trace (validateClientEntry conv entry).run [⟨.now, now1⟩] (.ok a))
    (issued : Trace (requestClientAccess subscriberId a) (⟨.now, now2⟩ :: tr) r)
    (year1 : FourDigitYear (now1 / 1000000 / 86400)) (year2 : FourDigitYear (now2 / 1000000 / 86400))
    (later : FourDigitYear (now2 / 1000000 / 86400 + 2)) :
    ∃ body answer,
      tr = [⟨.call (ParentalControl.createClientAccessCall subscriberId body), answer⟩] ∧
      ∀ name, ∃ commands, renderTimedBlock name body = some commands ∧
        (BlockedFromTo conv parser locateZone timezoneStr commands a.mac (now2 / 1000000)
            (now2 / 1000000 + 60 * a.durationMinutes) ↔
          (now2 / 1000000 + 60 * a.durationMinutes) / 86400 = now2 / 1000000 / 86400) := by
  obtain ⟨⟨raw, normalized⟩, formatted, ⟨empty, _⟩ | ⟨t, eq, timed, same⟩⟩ :=
    validateClientEntry_inv accepted
  · cases empty
  · cases eq
    obtain ⟨now, answer, eq⟩ := requestClientAccess_timed timed issued
    cases eq
    refine ⟨_, answer, rfl, ?_⟩
    intro name
    have valid := Utils.normalizeMac_serialToMAC normalized
    rw [← formatted] at valid
    have minute := (a.duration_inv timed).2
    have lt := span_lt year1 same
    obtain ⟨j, wraps⟩ := span_wraps a.durationMinutes
    obtain ⟨stop, next⟩ := endOf_epochTime year2 lt
    refine ⟨_, renderTimedBlock_timedBlockBody .., ?_⟩
    generalize hz : now2 / 1000000 / 86400 = z at *
    generalize hs : now2 / 1000000 % 86400 = s at *
    have start : now2 / 1000000 = 86400 * z + s := by omega
    have nextDay : ((endOf (.ofTimestamp now2) a.durationMinutes).add (timespan 86400)).dayNumber =
        (10 * now2 + span a.durationMinutes) / 10000000 / 86400 + 1 := by
      rw [DateTime.dayNumber, next]
      omega
    have second : (endOf (.ofTimestamp now2) a.durationMinutes).daySecond =
        (10 * now2 + span a.durationMinutes) / 10000000 % 86400 := by
      rw [DateTime.daySecond, stop]
    rw [dayNumber_ofTimestamp, daySecond_ofTimestamp, nextDay, second, hz, hs, start]
    have years : FourDigitYear ((10 * now2 + span a.durationMinutes) / 10000000 / 86400 + 1) :=
      year2.between later (by omega) (by omega)
    rw [blockCommands_iff ⟨year2, years⟩ (by omega) (by omega) (by omega) (by omega) valid,
      boundedStop]
    by_cases whole : j = 0
    · -- the end is computed as it was requested
      have exact_end : (10 * now2 + span a.durationMinutes) / 10000000 =
          86400 * z + s + 60 * a.durationMinutes := by omega
      rw [exact_end]
      split <;> omega
    · -- the duration has wrapped: it is longer than the block can last
      have long : 86400 * 10 < 60 * a.durationMinutes := by omega
      split <;> omega

namespace Midnight

/-- A client is blocked for a minute. -/
def entry : Json :=
  .obj [("mac", .str "02:00:00:00:00:01"), ("access", .str "deny"), ("duration", .int 1)]

def validated : ValidatedClientEntry where
  mac := "020000000001"
  formattedMac := "02:00:00:00:00:01"
  access := "deny"
  durationMinutes := 1
  hasDuration := true
  duration_inv := by decide

/-- The clock at some seconds of day 0. -/
def clockAt (second : Int) : Portal.Event := ⟨.now, 1000000 * second⟩

/-- The call which is issued at some seconds of day 0, and answered. -/
def issuedAt (second : Int) : Portal.Event :=
  ⟨.call (ParentalControl.createClientAccessCall "subscriber"
    (timedBlockBody "02:00:00:00:00:01" (.ofTimestamp (1000000 * second)) 1)),
    some ⟨HTTPStatus.ok, .json (.obj [])⟩⟩

def succeeded : CallResult where
  success := true
  status := HTTPStatus.ok
  response := some []

/-- At 23:58:58 a minute is accepted. -/
lemma accepted : Trace (validateClientEntry .strict entry).run [clockAt 86338] (.ok validated) :=
  trace_iff_replay.mpr rfl

lemma issued (second : Int) :
    Trace (requestClientAccess "subscriber" validated) [clockAt second, issuedAt second] succeeded :=
  .ask _ (.ask _ (.ret _))

/-- The commands of the block which is issued at some seconds of day 0. -/
def commandsAt (second : Int) : List Json :=
  (renderTimedBlock ⟨"1", by decide⟩
    (timedBlockBody "02:00:00:00:00:01" (.ofTimestamp (1000000 * second)) 1)).getD []

/-- Issued at 23:59:30, it does not end at 00:00:30: at 01:00:00 the client is blocked until 00:00:30 on
the day after. -/
theorem block_outlasts :
    Trace (validateClientEntry .strict entry).run [clockAt 86338] (.ok validated) ∧
    Trace (requestClientAccess "subscriber" validated) [clockAt 86370, issuedAt 86370] succeeded ∧
    (getBlockedClients .strict .canonical (fun _ => none) (.ofTimestamp 90000000000) ""
      (some [("config-raw", .arr (commandsAt 86370))])).2.get? validated.mac =
      some "1970-01-03 00:00:30" ∧
    ¬ BlockedFromTo .strict .canonical (fun _ => none) "" (commandsAt 86370) validated.mac 86370 86430 := by
  have late : (getBlockedClients .strict .canonical (fun _ => none) (.ofTimestamp 90000000000) ""
      (some [("config-raw", .arr (commandsAt 86370))])).2.get? validated.mac =
      some "1970-01-03 00:00:30" := by decide +kernel
  refine ⟨accepted, issued _, late, ?_⟩
  intro h
  have told := h 90000000000 [("config-raw", .arr (commandsAt 86370))] (by decide) rfl
  rw [late] at told
  exact absurd told (by decide)

/-- Issued at 23:58:58, it lasts for a minute. -/
theorem block_lasts :
    BlockedFromTo .strict .canonical (fun _ => none) "" (commandsAt 86338) validated.mac 86338 86398 := by
  obtain ⟨body, answer, eq, block⟩ :=
    timed_block_iff accepted (issued 86338) (by decide) (by decide) (by decide)
  cases eq
  obtain ⟨commands, rendered, iff⟩ := block ⟨"1", by decide⟩
  cases rendered
  exact iff.mpr (by decide)

end Midnight

end UserPortal.Sdk.Gw
