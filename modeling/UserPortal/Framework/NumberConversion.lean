import UserPortal.Framework.Parameters

/-!
# Number conversions

Port of `strtol` and `atoi`, as the code uses them with base 10: both skip spaces, read a sign and the digits
which follow, and do not look at the rest. `atoi` cuts what `strtol` reads down to 32 bits.

`atoi_of_decimal`: a number of 31 bits which is written out is what is read.
-/

namespace UserPortal
open QueryParameters

/-- The largest `long` -/
def longMax : Nat := 2 ^ 63 - 1

/-- `std::strtol`, where `none` stands for no digits. -/
def strtol (s : String) : Option Int :=
  let (negative, text) := signed (s.toList.dropWhile Utils.isSpace)
  let digits := text.takeWhile Char.isDigit
  if digits.isEmpty then none
  else if negative then some (-((min (numberOf digits) (longMax + 1) : Nat) : Int))
  else some ((min (numberOf digits) longMax : Nat) : Int)

/-- The `int` of a `long`. -/
def toInt (n : Int) : Int := (n + 2147483648) % 4294967296 - 2147483648

/-- `std::atoi` -/
def atoi (s : String) : Int := toInt ((strtol s).getD 0)

/-- A complete decimal between two bounds. -/
def DecimalWithin (low high : Nat) (s : String) : Prop :=
  isNumber s = true ∧ low ≤ numberOf s.toList ∧ numberOf s.toList ≤ high

variable {s : String} {low high : Nat}

lemma strtol_of_isNumber (number : isNumber s = true) :
    strtol s = some ((min (numberOf s.toList) longMax : Nat) : Int) := by
  obtain ⟨some, all⟩ := Bool.and_eq_true_iff.mp number
  have digits : ∀ c ∈ s.toList, c.isDigit = true := List.all_eq_true.mp all
  rw [strtol]
  cases text : s.toList with
  | nil =>
    rw [text] at some
    cases some
  | cons c cs =>
    rw [text] at digits
    rw [signed_dropWhile_of_isDigit (digits c List.mem_cons_self)]
    dsimp only
    rw [List.takeWhile_eq_self_iff.mpr digits]
    rfl

lemma atoi_of_isNumber (number : isNumber s = true) (fits : numberOf s.toList < 2 ^ 32) :
    atoi s = toInt (numberOf s.toList) := by
  have small : min (numberOf s.toList) longMax = numberOf s.toList := by
    rw [longMax]
    omega
  rw [atoi, strtol_of_isNumber number, small]
  rfl

/-- A number which is written out is read. -/
lemma atoi_of_decimal (decimal : DecimalWithin low high s) (small : high < 2 ^ 31) :
    atoi s = numberOf s.toList := by
  obtain ⟨number, -, le⟩ := decimal
  have fits : numberOf s.toList < 2 ^ 32 := by omega
  rw [atoi_of_isNumber number fits, toInt]
  omega

/-- A number which is read within two bounds lies there when it is written out in 32 bits. -/
lemma decimal_of_atoi (lower : low ≤ atoi s) (upper : atoi s ≤ high) (number : isNumber s = true)
    (fits : numberOf s.toList < 2 ^ 32) : DecimalWithin low high s := by
  rw [atoi_of_isNumber number fits, toInt] at lower upper
  refine ⟨number, ?_, ?_⟩ <;> omega

lemma isNumber_eq_true_iff : isNumber s = true ↔ s ≠ "" ∧ ∀ c ∈ s.toList, c.isDigit = true := by
  rw [isNumber, Bool.and_eq_true, List.all_eq_true]
  refine and_congr_left fun _ => ?_
  rw [Bool.not_eq_true', List.isEmpty_eq_false_iff, ne_eq, ne_eq, String.toList_eq_nil_iff]

end UserPortal
