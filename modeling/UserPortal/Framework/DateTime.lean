import Mathlib.Algebra.Group.Int.Defs
import UserPortal.Calendar.Format

/-!
# Poco dates

`Poco::DateTime`, `Poco::Timespan`, `Poco::DateTimeFormatter` and `Poco::DateTimeParser`, as far as
the portal uses them. A `DateTime` counts units of 100 ns since the start of the Gregorian calendar;
its arithmetic is that of `int64_t` and wraps around. The clock is read in microseconds since the
epoch.

The parser is a parameter: its laws say that it reads back what the formatter writes, within the
years 0 to 9999 which it supports.
-/

namespace UserPortal
open Calendar

/-- The value of an `int64_t` computation. -/
def int64 (n : Int) : Int := n.bmod (2 ^ 64)

lemma int64_eq {n : Int} (lo : -2 ^ 63 ≤ n) (hi : n < 2 ^ 63) : int64 n = n := by
  apply Int.bmod_eq_of_le
  · omega
  · omega

/-- A computation wraps by a multiple of `2 ^ 64`. -/
lemma int64_wraps (n : Int) : ∃ j, int64 n = n + 2 ^ 64 * j ∧ -2 ^ 63 ≤ int64 n ∧ int64 n < 2 ^ 63 := by
  refine ⟨-(n.bdiv (2 ^ 64)), ?_, Int.le_bmod (by decide), Int.bmod_lt (by decide)⟩
  have split := Int.bmod_add_bdiv n (2 ^ 64)
  rw [int64]
  omega

/-- `Poco::Timespan(seconds, 0)`, in microseconds. -/
def timespan (seconds : Int) : Int := int64 (seconds * 1000000)

/-- `Poco::DateTime` -/
structure DateTime where
  utcTime : Int
  deriving DecidableEq

namespace DateTime

/-- The Unix epoch. -/
def epoch : Int := 0x01B21DD213814000

/-- The `DateTime` of a reading of the clock. -/
def ofTimestamp (micros : Int) : DateTime where
  utcTime := micros * 10 + epoch

/-- The first instant of a second since the epoch. -/
def ofSeconds (s : Int) : DateTime := ofTimestamp (s * 1000000)

/-- `DateTime::operator +` -/
def add (dt : DateTime) (span : Int) : DateTime where
  utcTime := int64 (dt.utcTime + int64 (span * 10))

/-- Seconds since the epoch, `timestamp().epochTime()`. -/
def epochTime (dt : DateTime) : Int := (dt.utcTime - epoch) / 10000000

/-- The day, as a number of days since the epoch. -/
def dayNumber (dt : DateTime) : Int := dt.epochTime / 86400

/-- The second of the day. -/
def daySecond (dt : DateTime) : Int := dt.epochTime % 86400

def year (dt : DateTime) : Int := (Date.ofDay dt.dayNumber).year

def month (dt : DateTime) : Int := (Date.ofDay dt.dayNumber).month

def day (dt : DateTime) : Int := (Date.ofDay dt.dayNumber).day

def dayOfWeek (dt : DateTime) : Int := weekday dt.dayNumber

/-- `DateTimeFormatter::format(dt, "%Y-%m-%d")` -/
def formatDate (dt : DateTime) : String := Calendar.formatDate dt.dayNumber

/-- `DateTimeFormatter::format(dt, "%H:%M:%S")` -/
def formatTime (dt : DateTime) : String := Calendar.formatTime dt.daySecond

lemma epochTime_ofTimestamp (micros : Int) : (ofTimestamp micros).epochTime = micros / 1000000 := by
  simp only [epochTime, ofTimestamp]
  omega

@[simp] lemma epochTime_ofSeconds (s : Int) : (ofSeconds s).epochTime = s := by
  rw [ofSeconds, epochTime_ofTimestamp]
  omega

lemma ofSeconds_utcTime_le_iff {s micros : Int} :
    (ofSeconds s).utcTime ≤ (ofTimestamp micros).utcTime ↔ s ≤ micros / 1000000 := by
  simp only [ofSeconds, ofTimestamp]
  omega

/-- Two instants have the same date exactly when they are on the same day. -/
lemma same_date_iff {a b : DateTime} :
    (a.year = b.year ∧ a.month = b.month ∧ a.day = b.day) ↔ a.dayNumber = b.dayNumber := by
  refine ⟨?_, ?_⟩
  · rintro ⟨y, m, d⟩
    exact Date.ofDay_inj (Date.ext y m d)
  · intro e
    simp only [year, month, day, e, and_self]

end DateTime

/-- `Poco::DateTimeParser`. -/
structure DateTimeParser where
  /-- `tryParse(fmt, text)` -/
  tryParse : String → String → Option DateTime
  date : ∀ z, FourDigitYear z → (tryParse "%Y-%m-%d" (formatDate z)).isSome = true
  time : ∀ s, 0 ≤ s ∧ s < 86400 → (tryParse "%H:%M:%S" (formatTime s)).isSome = true
  stamp : ∀ z s, FourDigitYear z → 0 ≤ s ∧ s < 86400 →
    tryParse "%Y-%m-%d %H:%M:%S" (formatStamp z s) = some (DateTime.ofSeconds (86400 * z + s))

/-! ## A parser of what the formatter writes -/

namespace DateTimeParser

def readDigits (cs : List Char) : Int := cs.foldl (fun n c => 10 * n + (c.toNat - 48)) 0

lemma readDigits_padDigits {width n : Nat} (fits : n < 10 ^ width) :
    readDigits (padDigits width n) = n := by
  induction width generalizing n with
  | zero =>
    have e : n = 0 := by simpa using fits
    subst e
    rfl
  | succ width ih =>
    rw [Nat.pow_succ'] at fits
    have ih := ih (Nat.div_lt_of_lt_mul fits)
    have h : ∀ a < 10, (Nat.digitChar a).toNat = a + 48 := by decide
    have digit := h (n % 10) (Nat.mod_lt n (by omega))
    rw [padDigits, readDigits, List.foldl_append, ← readDigits, ih, List.foldl_cons, List.foldl_nil,
      digit]
    omega

lemma readDigits_pad0 {width : Nat} {n : Int} (h : 0 ≤ n ∧ n.toNat < 10 ^ width) :
    readDigits (pad0 width n) = n := by
  rw [pad0, if_neg (by omega), readDigits_padDigits h.2]
  omega

/-- The day which formats as `cs`. -/
def readDate (cs : List Char) : Option Int :=
  let d : Date := ⟨readDigits (cs.take 4), readDigits ((cs.drop 5).take 2), readDigits ((cs.drop 8).take 2)⟩
  if dateChars (Date.ofDay d.toDay) = cs then some d.toDay else none

/-- The second of the day which formats as `cs`. -/
def readTime (cs : List Char) : Option Int :=
  let s := 3600 * readDigits (cs.take 2) + 60 * readDigits ((cs.drop 3).take 2) +
    readDigits ((cs.drop 6).take 2)
  if timeChars s = cs then some s else none

/-- The fields of three blocks with separators. -/
lemma blocks {w : Nat} {c : Char} {a b d : List Char} (ha : a.length = w) (hb : b.length = 2)
    (hd : d.length = 2) :
    (a ++ (c :: (b ++ (c :: d)))).take w = a ∧
    ((a ++ (c :: (b ++ (c :: d)))).drop (w + 1)).take 2 = b ∧
    ((a ++ (c :: (b ++ (c :: d)))).drop (w + 4)).take 2 = d := by
  subst ha
  match b, hb, d, hd with
  | [b1, b2], _, [d1, d2], _ => simp

lemma readDate_dateChars {z : Int} (y : FourDigitYear z) :
    readDate (dateChars (Date.ofDay z)) = some z := by
  obtain ⟨fy, fm, fd⟩ := date_fields y
  have fm' : (Date.ofDay z).month.toNat < 10 ^ 2 := by omega
  have fd' : (Date.ofDay z).day.toNat < 10 ^ 2 := by omega
  obtain ⟨e1, e2, e3⟩ := blocks (c := '-') (pad0_length fy.1 fy.2) (pad0_length fm.1 fm')
    (pad0_length fd.1 fd')
  have e : (⟨readDigits ((dateChars (Date.ofDay z)).take 4),
      readDigits (((dateChars (Date.ofDay z)).drop 5).take 2),
      readDigits (((dateChars (Date.ofDay z)).drop 8).take 2)⟩ : Date) = Date.ofDay z := by
    rw [dateChars]
    rw [e1, e2, e3, readDigits_pad0 fy, readDigits_pad0 ⟨fm.1, fm'⟩, readDigits_pad0 ⟨fd.1, fd'⟩]
  simp only [readDate]
  rw [e, Date.toDay_ofDay, if_pos rfl]

lemma readTime_timeChars {s : Int} (h : 0 ≤ s ∧ s < 86400) : readTime (timeChars s) = some s := by
  have h1 : 0 ≤ s / 3600 ∧ (s / 3600).toNat < 10 ^ 2 := by omega
  have h2 : 0 ≤ s / 60 % 60 ∧ (s / 60 % 60).toNat < 10 ^ 2 := by omega
  have h3 : 0 ≤ s % 60 ∧ (s % 60).toNat < 10 ^ 2 := by omega
  obtain ⟨e1, e2, e3⟩ := blocks (c := ':') (pad0_length h1.1 h1.2) (pad0_length h2.1 h2.2)
    (pad0_length h3.1 h3.2)
  have e : 3600 * readDigits ((timeChars s).take 2) + 60 * readDigits (((timeChars s).drop 3).take 2) +
      readDigits (((timeChars s).drop 6).take 2) = s := by
    rw [timeChars]
    rw [e1, e2, e3, readDigits_pad0 h1, readDigits_pad0 h2, readDigits_pad0 h3]
    omega
  simp only [readTime]
  rw [e, if_pos rfl]

/-- The parser which accepts only what the formatter writes. -/
def canonical : DateTimeParser where
  tryParse fmt text :=
    let cs := text.toList
    if fmt = "%Y-%m-%d" then (readDate cs).map fun z => DateTime.ofSeconds (86400 * z)
    else if fmt = "%H:%M:%S" then
      (readTime cs).map fun s => DateTime.ofSeconds (86400 * (Date.toDay ⟨0, 1, 1⟩) + s)
    else do
      let z ← readDate (cs.take 10)
      let s ← readTime (cs.drop 11)
      return DateTime.ofSeconds (86400 * z + s)
  date z y := by
    simp [formatDate, readDate_dateChars y]
  time s h := by
    simp [formatTime, readTime_timeChars h]
  stamp z s y h := by
    have len := dateChars_length y
    have e1 : (dateChars (Date.ofDay z) ++ ' ' :: timeChars s).take 10 = dateChars (Date.ofDay z) := by
      rw [← len, List.take_left]
    have e2 : (dateChars (Date.ofDay z) ++ ' ' :: timeChars s).drop 11 = timeChars s := by
      rw [← List.drop_drop (i := 1) (j := 10), ← len, List.drop_left]
      rfl
    have e : (formatStamp z s).toList = dateChars (Date.ofDay z) ++ ' ' :: timeChars s := by
      simp [formatStamp, formatDate, formatTime]
    simp only [e, e1, e2, readDate_dateChars y, readTime_timeChars h]
    rfl

end DateTimeParser

end UserPortal
