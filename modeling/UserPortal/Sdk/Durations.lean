import UserPortal.Sdk.TimedBlocks

/-!
# Accepted durations

A duration is accepted when the block it asks for ends on the UTC date on which it begins. The end is
computed in 64-bit integers: a duration which takes the instant once or more around them, back to the
same date, is accepted as well. Clock readings are those of the years 0 to 9999, which `Poco::DateTime`
supports.
-/

namespace UserPortal.Sdk.Gw
open Interaction Program Calendar

variable {conv : Conversions} {entry : Json} {t d : Int}

/-! ## Ends -/

/-- The instant `d` minutes after a clock reading is on the date of the reading. -/
def EndsToday (t d : Int) : Prop := (t + 60000000 * d) / 86400000000 = t / 86400000000

/-- In units of 100 ns, some number of turns around the 64-bit integers before the instant `d` minutes
after a clock reading, it is on the date of the reading. -/
def EndsTodayAfter (turns t d : Int) : Prop :=
  (10 * t + 600000000 * d - 2 ^ 64 * turns) / 864000000000 = 10 * t / 864000000000

lemma endsTodayAfter_zero : EndsTodayAfter 0 t d ↔ EndsToday t d := by
  rw [EndsTodayAfter, EndsToday]
  omega

/-- The date of an instant in units of 100 ns. -/
lemma dayNumber_eq (dt : DateTime) : dt.dayNumber = (dt.utcTime - DateTime.epoch) / 864000000000 := by
  rw [DateTime.dayNumber, DateTime.epochTime, Int.ediv_ediv_of_nonneg (by decide)]
  rfl

/-- Some turns around, the end is on the date of the reading where it is computed to be. -/
lemma same_date_iff_turns (y : FourDigitYear (t / 1000000 / 86400)) :
    differentDate (endOf (.ofTimestamp t) d) (.ofTimestamp t) = false ↔
      ∃ turns, EndsTodayAfter turns t d := by
  have bounds := fourDigitYear_bounds y
  have epoch : DateTime.epoch = 122192928000000000 := rfl
  have date : differentDate (endOf (.ofTimestamp t) d) (.ofTimestamp t) = false ↔
      (endOf (.ofTimestamp t) d).dayNumber = (DateTime.ofTimestamp t).dayNumber := by
    rw [← DateTime.same_date_iff]
    simp [differentDate, and_assoc]
  rw [date, dayNumber_eq, dayNumber_eq, endOf_utcTime]
  obtain ⟨j, wraps⟩ := span_wraps d
  obtain ⟨i, turned, lo, hi⟩ := int64_wraps (t * 10 + DateTime.epoch + span d)
  simp only [DateTime.ofTimestamp]
  unfold EndsTodayAfter
  refine ⟨?_, ?_⟩
  · intro same
    refine ⟨-(i + j), ?_⟩
    rw [turned, wraps] at same
    rwa [show 10 * t + 600000000 * d - 2 ^ 64 * -(i + j) =
      t * 10 + DateTime.epoch + (600000000 * d + 2 ^ 64 * j) + 2 ^ 64 * i - DateTime.epoch by omega,
      show 10 * t = t * 10 + DateTime.epoch - DateTime.epoch by omega]
  · rintro ⟨turns, same⟩
    -- of the instants which the turns make, one fits the date of the reading
    have near : 0 ≤ 10 * t + 600000000 * d - 2 ^ 64 * turns - 864000000000 * (10 * t / 864000000000) ∧
        10 * t + 600000000 * d - 2 ^ 64 * turns - 864000000000 * (10 * t / 864000000000) <
          864000000000 := by omega
    have one : -(i + j) = turns := by omega
    rw [turned, wraps]
    rwa [← one, show 10 * t + 600000000 * d - 2 ^ 64 * -(i + j) =
      t * 10 + DateTime.epoch + (600000000 * d + 2 ^ 64 * j) + 2 ^ 64 * i - DateTime.epoch by omega,
      show 10 * t = t * 10 + DateTime.epoch - DateTime.epoch by omega] at same

/-! ## Entries -/

/-- A valid entry which denies a client access for `d` minutes. -/
structure DeniesFor (conv : Conversions) (entry : Json) (d : Int) : Prop where
  fields : ∃ e macValue accessValue mac access normalized,
    entry.object? = some e ∧
    e.get? "mac" = some macValue ∧ conv.toString macValue = some mac ∧
    Utils.normalizeMac mac = some normalized ∧
    e.get? "access" = some accessValue ∧ conv.toString accessValue = some access ∧
    Utils.toLower (Utils.trim access) = "deny" ∧
    readDuration conv e = some (.minutes d)

/-- The first pass of `ApplyClientAccessChanges` accepts the entry, the clock reading `t`. -/
def Passes (conv : Conversions) (entry : Json) (t : Int) : Prop :=
  ∃ a, Trace (validateClientEntry conv entry).run [⟨.now, t⟩] (.ok a)

/-- An entry with a duration passes where its computed end is on the date of the reading. -/
lemma passes_iff (denies : DeniesFor conv entry d) :
    Passes conv entry t ↔
      1 ≤ d ∧ differentDate (endOf (.ofTimestamp t) d) (.ofTimestamp t) = false := by
  obtain ⟨e, macValue, accessValue, mac, access, normalized, obj, hmac, macText, valid, haccess, accessText,
    deny, duration⟩ := denies.fields
  have notAllow : ¬ ("deny" : String) = "allow" := by decide
  rw [Passes, validateClientEntry]
  simp only [obj, hmac, haccess, macText, accessText, duration, valid, deny, ne_eq, not_true_eq_false,
    and_false, if_false, notAllow]
  split
  case isTrue positive =>
    refine ⟨?_, ?_⟩
    · rintro ⟨a, h⟩
      obtain ⟨tr1, tr2, now, eq, h1, h2⟩ := trace_attempt_lift_bind.mp h
      obtain ⟨same, h3⟩ := trace_ensure_ok.mp h2
      obtain ⟨x, rest, rfl, h4⟩ := trace_ask.mp h1
      obtain ⟨rfl, rfl⟩ := trace_ret.mp h4
      cases eq
      exact ⟨positive.2, by simpa using same⟩
    · rintro ⟨_, same⟩
      have clock : Trace Portal.clock [⟨.now, t⟩] t := trace_perform.mpr rfl
      have ok : (!differentDate (endOf (.ofTimestamp t) d) (.ofTimestamp t)) = true := by
        rw [same]
        rfl
      exact ⟨_, trace_attempt_lift_bind.mpr ⟨_, [], t, rfl, clock,
        trace_ensure_ok.mpr ⟨ok, trace_attempt_pure.mpr ⟨rfl, rfl⟩⟩⟩⟩
  case isFalse no =>
    refine ⟨?_, ?_⟩
    · rintro ⟨a, h⟩
      cases (trace_attempt_throw.mp h).1
    · rintro ⟨positive, _⟩
      exact absurd ⟨trivial, positive⟩ no

/-! ## Exactness -/

/-- The number fits an `int64_t`. -/
def FitsInt64 (n : Int) : Prop := -2 ^ 63 ≤ n ∧ n < 2 ^ 63

/-- The duration check is exact: it accepts the durations which end on the date on which they begin, and
none of them wraps, neither in seconds nor in microseconds. -/
structure ExactDuration (conv : Conversions) (entry : Json) (t d : Int) : Prop where
  passes : Passes conv entry t ↔ 1 ≤ d ∧ EndsToday t d
  fits : Passes conv entry t → FitsInt64 (d * 60) ∧ FitsInt64 (d * 60 * 1000000)

/-- The duration check is exact for every duration which does not come back to the date on which it begins
once or more around the 64-bit integers. -/
theorem duration_exact_iff (denies : DeniesFor conv entry d) (y : FourDigitYear (t / 1000000 / 86400)) :
    ExactDuration conv entry t d ↔ ¬ (1 ≤ d ∧ ∃ turns, 1 ≤ turns ∧ EndsTodayAfter turns t d) := by
  have bounds := fourDigitYear_bounds y
  have passes : Passes conv entry t ↔ 1 ≤ d ∧ ∃ turns, EndsTodayAfter turns t d := by
    rw [passes_iff denies, same_date_iff_turns y]
  refine ⟨?_, ?_⟩
  · rintro ⟨exact_, _⟩ ⟨positive, turns, once, back⟩
    -- a duration which goes around is longer than a day
    obtain ⟨_, today⟩ := exact_.mp (passes.mpr ⟨positive, turns, back⟩)
    rw [EndsToday] at today
    rw [EndsTodayAfter] at back
    omega
  · intro none_
    have today : Passes conv entry t → 1 ≤ d ∧ EndsToday t d := by
      intro h
      obtain ⟨positive, turns, back⟩ := passes.mp h
      rcases Int.lt_trichotomy turns 0 with before | rfl | once
      · rw [EndsTodayAfter] at back
        omega
      · exact ⟨positive, endsTodayAfter_zero.mp back⟩
      · exact absurd ⟨positive, turns, once, back⟩ none_
    refine ⟨⟨today, ?_⟩, ?_⟩
    · rintro ⟨positive, ends⟩
      exact passes.mpr ⟨positive, 0, endsTodayAfter_zero.mpr ends⟩
    · intro h
      obtain ⟨positive, ends⟩ := today h
      rw [EndsToday] at ends
      unfold FitsInt64
      omega

namespace Around

/-- A client is blocked for `2 ^ 55` minutes, which take an instant 1171875 times around. -/
def request : Json :=
  .obj [("access", .str "deny"), ("duration", .int 36028797018963968), ("mac", .str "020000000001")]

lemma denies : DeniesFor .strict request 36028797018963968 :=
  ⟨_, _, _, _, _, _, rfl, rfl, rfl, rfl, rfl, rfl, by decide, rfl⟩

/-- The request passes at the beginning of day 0, and does not end on that day. -/
theorem around_passes :
    Passes .strict request 0 ∧ ¬ EndsToday 0 36028797018963968 ∧
      ¬ ExactDuration .strict request 0 36028797018963968 := by
  have passes : Passes .strict request 0 := (passes_iff denies).mpr (by decide +kernel)
  have later : ¬ EndsToday 0 36028797018963968 := by
    rw [EndsToday]
    decide
  refine ⟨passes, later, ?_⟩
  intro exact_
  exact later (exact_.passes.mp passes).2

/-- A client is blocked for a minute. -/
def minute : Json :=
  .obj [("access", .str "deny"), ("duration", .int 1), ("mac", .str "020000000001")]

/-- The duration check is exact for it. -/
theorem minute_exact : ExactDuration .strict minute 0 1 := by
  refine (duration_exact_iff ⟨_, _, _, _, _, _, rfl, rfl, rfl, rfl, rfl, rfl, by decide, rfl⟩
    (by decide)).mpr ?_
  rintro ⟨_, turns, once, back⟩
  rw [EndsTodayAfter] at back
  omega

end Around

end UserPortal.Sdk.Gw
