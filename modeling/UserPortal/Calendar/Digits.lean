import Mathlib.Algebra.Group.Nat.Defs
import Mathlib.Data.List.Basic
import Mathlib.Tactic.Common

/-!
# Decimal digits

Numbers in a fixed number of decimal digits, as `printf` writes them with a zero-padded width. On
numbers which fit the width the digits compare, as lists of characters, as the numbers do.
-/

namespace UserPortal.Calendar

/-- The digits of `n`, at least `width` of them. -/
def padDigits : (width : Nat) → (n : Nat) → List Char
  | 0, n => if n = 0 then [] else Nat.toDigits 10 n
  | width + 1, n => padDigits width (n / 10) ++ [Nat.digitChar (n % 10)]

/-- Blocks of equal length compare before what follows them. -/
lemma append_lt_append_iff {l1 l2 m1 m2 : List Char} (len : l1.length = l2.length) :
    l1 ++ m1 < l2 ++ m2 ↔ l1 < l2 ∨ l1 = l2 ∧ m1 < m2 := by
  induction l1 generalizing l2 with
  | nil =>
    cases l2 with
    | nil => simp
    | cons b l2 => cases len
  | cons a l1 ih =>
    cases l2 with
    | nil => cases len
    | cons b l2 =>
      have ih := ih (Nat.succ.inj len)
      rw [List.cons_append, List.cons_append, List.cons_lt_cons_iff, List.cons_lt_cons_iff, ih,
        List.cons.injEq]
      tauto

lemma length_padDigits {width n : Nat} (fits : n < 10 ^ width) :
    (padDigits width n).length = width := by
  induction width generalizing n with
  | zero =>
    have e : n = 0 := by simpa using fits
    subst e
    rfl
  | succ width ih =>
    have lt : n / 10 < 10 ^ width := by
      apply Nat.div_lt_of_lt_mul
      rwa [Nat.pow_succ'] at fits
    rw [padDigits, List.length_append, ih lt]
    rfl

lemma digitChar_lt_iff {a b : Nat} (ha : a < 10) (hb : b < 10) :
    Nat.digitChar a < Nat.digitChar b ↔ a < b := by
  have h : ∀ a < 10, ∀ b < 10, Nat.digitChar a < Nat.digitChar b ↔ a < b := by decide
  exact h a ha b hb

lemma digitChar_inj {a b : Nat} (ha : a < 10) (hb : b < 10) :
    Nat.digitChar a = Nat.digitChar b ↔ a = b := by
  have h : ∀ a < 10, ∀ b < 10, Nat.digitChar a = Nat.digitChar b ↔ a = b := by decide
  exact h a ha b hb

lemma padDigits_two {n : Nat} (h : n < 100) :
    padDigits 2 n = [Nat.digitChar (n / 10), Nat.digitChar (n % 10)] := by
  have small : n / 10 < 10 := Nat.div_lt_of_lt_mul h
  rw [padDigits, padDigits, padDigits, if_pos (Nat.div_eq_of_lt small), Nat.mod_eq_of_lt small]
  rfl

lemma padDigits_inj {width a b : Nat} (ha : a < 10 ^ width) (hb : b < 10 ^ width) :
    padDigits width a = padDigits width b ↔ a = b := by
  induction width generalizing a b with
  | zero =>
    have ea : a = 0 := by simpa using ha
    have eb : b = 0 := by simpa using hb
    simp [ea, eb]
  | succ width ih =>
    rw [Nat.pow_succ'] at ha hb
    have la := Nat.div_lt_of_lt_mul ha
    have lb := Nat.div_lt_of_lt_mul hb
    rw [padDigits, padDigits, List.append_singleton_inj, ih la lb,
      digitChar_inj (Nat.mod_lt a (by omega)) (Nat.mod_lt b (by omega))]
    omega

/-- Digits of one width compare as the numbers do. -/
theorem padDigits_lt_iff {width a b : Nat} (ha : a < 10 ^ width) (hb : b < 10 ^ width) :
    padDigits width a < padDigits width b ↔ a < b := by
  induction width generalizing a b with
  | zero =>
    have ea : a = 0 := by simpa using ha
    have eb : b = 0 := by simpa using hb
    simp [ea, eb]
  | succ width ih =>
    rw [Nat.pow_succ'] at ha hb
    have la := Nat.div_lt_of_lt_mul ha
    have lb := Nat.div_lt_of_lt_mul hb
    have len : (padDigits width (a / 10)).length = (padDigits width (b / 10)).length := by
      rw [length_padDigits la, length_padDigits lb]
    rw [padDigits, padDigits, append_lt_append_iff len, ih la lb, padDigits_inj la lb,
      List.cons_lt_cons_iff, digitChar_lt_iff (Nat.mod_lt a (by omega)) (Nat.mod_lt b (by omega))]
    simp only [List.not_lt_nil, and_false, or_false]
    omega

example : padDigits 4 1970 = "1970".toList := by decide

example : padDigits 2 7 = "07".toList := by decide

end UserPortal.Calendar
