import UserPortal.Calendar.Civil
import UserPortal.Calendar.Digits

/-!
# Dates and times as text

Dates as `YYYY-MM-DD` and times of the day as `HH:MM:SS`. Within the years 0 to 9999 these texts, and
the text `date time`, compare as strings exactly as the days and the seconds do, which is what a
program that compares them as strings relies on.
-/

namespace UserPortal.Calendar

/-- A number in at least `width` characters, padded with zeros. -/
def pad0 (width : Nat) (n : Int) : List Char :=
  if n < 0 then '-' :: padDigits (width - 1) n.natAbs else padDigits width n.toNat

/-- `%Y-%m-%d` -/
def dateChars (d : Date) : List Char :=
  pad0 4 d.year ++ ('-' :: (pad0 2 d.month ++ ('-' :: pad0 2 d.day)))

/-- `%H:%M:%S` of a second of the day. -/
def timeChars (s : Int) : List Char :=
  pad0 2 (s / 3600) ++ (':' :: (pad0 2 (s / 60 % 60) ++ (':' :: pad0 2 (s % 60))))

def formatDate (z : Int) : String := String.ofList (dateChars (Date.ofDay z))

def formatTime (s : Int) : String := String.ofList (timeChars s)

/-- The day has a year of four digits. -/
def FourDigitYear (z : Int) : Prop := 0 ≤ (Date.ofDay z).year ∧ (Date.ofDay z).year ≤ 9999

instance (z : Int) : Decidable (FourDigitYear z) := inferInstanceAs (Decidable (_ ∧ _))

/-- The days of the years 0 to 9999. -/
lemma fourDigitYear_bounds {z : Int} (y : FourDigitYear z) : -719528 ≤ z ∧ z ≤ 2932896 := by
  have first : Date.ofDay (-719528) = ⟨0, 1, 1⟩ := by decide
  have last : Date.ofDay 2932896 = ⟨9999, 12, 31⟩ := by decide
  have m := Date.ofDay_month_bounds z
  have d := Date.ofDay_day_bounds z
  obtain ⟨y1, y2⟩ := y
  refine ⟨?_, ?_⟩
  · by_contra before
    have lt := Date.ofDay_lt (Int.not_le.mp before)
    simp only [first, Date.Precedes] at lt
    omega
  · by_contra after
    have lt := Date.ofDay_lt (Int.not_le.mp after)
    simp only [last, Date.Precedes] at lt
    omega

/-- The days of the years 0 to 9999 are an interval. -/
lemma FourDigitYear.between {a b z : Int} (ya : FourDigitYear a) (yb : FourDigitYear b) (ge : a ≤ z)
    (le : z ≤ b) : FourDigitYear z := by
  have mono : ∀ {a b : Int}, a ≤ b → (Date.ofDay a).year ≤ (Date.ofDay b).year := by
    intro a b le
    rcases Int.lt_or_eq_of_le le with lt | rfl
    · have h := Date.ofDay_lt lt
      rw [Date.Precedes] at h
      omega
    · exact Int.le_refl _
  exact ⟨Int.le_trans ya.1 (mono ge), Int.le_trans (mono le) yb.2⟩

/-- A number which fits is padded to its width. -/
lemma pad0_length {w : Nat} {n : Int} (nonneg : 0 ≤ n) (fits : n.toNat < 10 ^ w) :
    (pad0 w n).length = w := by
  rw [pad0, if_neg (by omega), length_padDigits fits]

/-- Padded numbers are ordered as the numbers. -/
lemma pad0_lt_iff {width : Nat} {a b : Int} (ha : 0 ≤ a) (hb : 0 ≤ b)
    (fa : a.toNat < 10 ^ width) (fb : b.toNat < 10 ^ width) : pad0 width a < pad0 width b ↔ a < b := by
  rw [pad0, pad0, if_neg (by omega), if_neg (by omega), padDigits_lt_iff fa fb]
  omega

/-- Padded numbers are equal where the numbers are. -/
lemma pad0_inj {width : Nat} {a b : Int} (ha : 0 ≤ a) (hb : 0 ≤ b)
    (fa : a.toNat < 10 ^ width) (fb : b.toNat < 10 ^ width) : pad0 width a = pad0 width b ↔ a = b := by
  rw [pad0, pad0, if_neg (by omega), if_neg (by omega), padDigits_inj fa fb]
  omega

/-- A common first character does not count in the order. -/
lemma cons_lt_cons_self {c : Char} {l m : List Char} : c :: l < c :: m ↔ l < m := by
  simp

/-- Three padded fields compare field by field. -/
lemma fields_lt_iff {w : Nat} {c : Char} {a b a1 b1 a2 b2 : Int}
    (ha : 0 ≤ a ∧ a.toNat < 10 ^ w) (hb : 0 ≤ b ∧ b.toNat < 10 ^ w)
    (ha1 : 0 ≤ a1 ∧ a1 < 100) (hb1 : 0 ≤ b1 ∧ b1 < 100)
    (ha2 : 0 ≤ a2 ∧ a2 < 100) (hb2 : 0 ≤ b2 ∧ b2 < 100) :
    pad0 w a ++ (c :: (pad0 2 a1 ++ (c :: pad0 2 a2))) < pad0 w b ++ (c :: (pad0 2 b1 ++ (c :: pad0 2 b2))) ↔
      a < b ∨ a = b ∧ (a1 < b1 ∨ a1 = b1 ∧ a2 < b2) := by
  have f1 : a1.toNat < 10 ^ 2 ∧ b1.toNat < 10 ^ 2 := by omega
  have f2 : a2.toNat < 10 ^ 2 ∧ b2.toNat < 10 ^ 2 := by omega
  have len : (pad0 w a).length = (pad0 w b).length := by
    rw [pad0_length ha.1 ha.2, pad0_length hb.1 hb.2]
  have len1 : (pad0 2 a1).length = (pad0 2 b1).length := by
    rw [pad0_length ha1.1 f1.1, pad0_length hb1.1 f1.2]
  rw [append_lt_append_iff len, pad0_lt_iff ha.1 hb.1 ha.2 hb.2, pad0_inj ha.1 hb.1 ha.2 hb.2,
    cons_lt_cons_self, append_lt_append_iff len1, pad0_lt_iff ha1.1 hb1.1 f1.1 f1.2,
    pad0_inj ha1.1 hb1.1 f1.1 f1.2, cons_lt_cons_self, pad0_lt_iff ha2.1 hb2.1 f2.1 f2.2]

/-- The fields of a date fit into its text. -/
lemma date_fields {z : Int} (y : FourDigitYear z) :
    (0 ≤ (Date.ofDay z).year ∧ (Date.ofDay z).year.toNat < 10 ^ 4) ∧
    (0 ≤ (Date.ofDay z).month ∧ (Date.ofDay z).month < 100) ∧
    (0 ≤ (Date.ofDay z).day ∧ (Date.ofDay z).day < 100) := by
  have m := Date.ofDay_month_bounds z
  have d := Date.ofDay_day_bounds z
  obtain ⟨y1, y2⟩ := y
  omega

/-- The text of a date has ten characters. -/
lemma dateChars_length {z : Int} (y : FourDigitYear z) : (dateChars (Date.ofDay z)).length = 10 := by
  obtain ⟨fy, fm, fd⟩ := date_fields y
  simp only [dateChars, List.length_append, List.length_cons, pad0_length fy.1 fy.2,
    pad0_length (w := 2) fm.1 (by omega), pad0_length (w := 2) fd.1 (by omega)]

/-- The text of a time has eight. -/
lemma timeChars_length {s : Int} (h : 0 ≤ s ∧ s < 86400) : (timeChars s).length = 8 := by
  have h1 : 0 ≤ s / 3600 ∧ (s / 3600).toNat < 10 ^ 2 := by omega
  have h2 : 0 ≤ s / 60 % 60 ∧ (s / 60 % 60).toNat < 10 ^ 2 := by omega
  have h3 : 0 ≤ s % 60 ∧ (s % 60).toNat < 10 ^ 2 := by omega
  simp only [timeChars, List.length_append, List.length_cons, pad0_length h1.1 h1.2,
    pad0_length h2.1 h2.2, pad0_length h3.1 h3.2]

/-- Dates compare as their days do. -/
lemma dateChars_lt_iff {a b : Int} (ya : FourDigitYear a) (yb : FourDigitYear b) :
    dateChars (Date.ofDay a) < dateChars (Date.ofDay b) ↔ a < b := by
  obtain ⟨fy, fm, fd⟩ := date_fields ya
  obtain ⟨fy', fm', fd'⟩ := date_fields yb
  rw [dateChars, dateChars, fields_lt_iff fy fy' fm fm' fd fd']
  exact Date.ofDay_precedes_iff

/-- Times compare as their seconds do. -/
lemma timeChars_lt_iff {s t : Int} (hs : 0 ≤ s ∧ s < 86400) (ht : 0 ≤ t ∧ t < 86400) :
    timeChars s < timeChars t ↔ s < t := by
  rw [timeChars, timeChars, fields_lt_iff (by omega) (by omega) (by omega) (by omega) (by omega)
    (by omega)]
  omega

/-- Texts which compare as the numbers they stand for determine them. -/
lemma eq_of_lt_iff {l m : List Char} {a b : Int} (lt : l < m ↔ a < b) (gt : m < l ↔ b < a) :
    l = m → a = b := by
  intro e
  subst e
  have irrefl : ¬ l < l := List.lt_irrefl l
  have h1 := mt lt.mpr irrefl
  have h2 := mt gt.mpr irrefl
  omega

/-- Dates of one text are one day. -/
lemma dateChars_inj {a b : Int} (ya : FourDigitYear a) (yb : FourDigitYear b) :
    dateChars (Date.ofDay a) = dateChars (Date.ofDay b) ↔ a = b :=
  ⟨eq_of_lt_iff (dateChars_lt_iff ya yb) (dateChars_lt_iff yb ya), fun e => by rw [e]⟩

/-- Times of one text are one second. -/
lemma timeChars_inj {s t : Int} (hs : 0 ≤ s ∧ s < 86400) (ht : 0 ≤ t ∧ t < 86400) :
    timeChars s = timeChars t ↔ s = t :=
  ⟨eq_of_lt_iff (timeChars_lt_iff hs ht) (timeChars_lt_iff ht hs), fun e => by rw [e]⟩

/-! ## As strings -/

/-- Texts of times are ordered as the times. -/
theorem formatTime_lt_iff {s t : Int} (hs : 0 ≤ s ∧ s < 86400) (ht : 0 ≤ t ∧ t < 86400) :
    formatTime s < formatTime t ↔ s < t := by
  rw [String.lt_iff, formatTime, formatTime, String.toList_ofList, String.toList_ofList]
  exact timeChars_lt_iff hs ht

/-- Texts of times are equal where the times are. -/
lemma formatTime_inj {s t : Int} (hs : 0 ≤ s ∧ s < 86400) (ht : 0 ≤ t ∧ t < 86400) :
    formatTime s = formatTime t ↔ s = t := by
  rw [formatTime, formatTime, ← timeChars_inj hs ht]
  exact ⟨fun e => by simpa using congrArg String.toList e, fun e => by rw [e]⟩

/-- A date followed by a time. -/
def formatStamp (z s : Int) : String := formatDate z ++ " " ++ formatTime s

/-- Dates with times compare as the days do, and then as the seconds do. -/
theorem formatStamp_lt_iff {a b s t : Int} (ya : FourDigitYear a) (yb : FourDigitYear b)
    (hs : 0 ≤ s ∧ s < 86400) (ht : 0 ≤ t ∧ t < 86400) :
    formatStamp a s < formatStamp b t ↔ a < b ∨ a = b ∧ s < t := by
  have len : (dateChars (Date.ofDay a)).length = (dateChars (Date.ofDay b)).length := by
    rw [dateChars_length ya, dateChars_length yb]
  have sep : " ".toList = [' '] := rfl
  rw [String.lt_iff, formatStamp, formatStamp]
  simp only [String.toList_append, formatDate, formatTime, String.toList_ofList, sep,
    List.append_assoc]
  rw [append_lt_append_iff len, dateChars_lt_iff ya yb, dateChars_inj ya yb, List.singleton_append,
    List.singleton_append, cons_lt_cons_self, timeChars_lt_iff hs ht]

/-- A formatted date has ten characters. -/
lemma formatDate_length {z : Int} (y : FourDigitYear z) : (formatDate z).length = 10 := by
  rw [formatDate, String.length_ofList, dateChars_length y]

/-- A formatted time has eight. -/
lemma formatTime_length {s : Int} (h : 0 ≤ s ∧ s < 86400) : (formatTime s).length = 8 := by
  rw [formatTime, String.length_ofList, timeChars_length h]

example : formatStamp 19782 3661 = "2024-02-29 01:01:01" := by decide

end UserPortal.Calendar
