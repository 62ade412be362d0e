import Mathlib.Algebra.Group.Int.Defs
import Mathlib.Algebra.Group.Nat.Defs
import UserPortal.Json.Value

/-!
# Conversions of dynamic values

`Poco::Dynamic::Var::convert<T>`, which `Object::getValue<T>` and `Array::getElement<T>` call, comes
from a library outside the repository. `Conversions` takes it as a parameter: each field is the
conversion to one type (`none` where it throws), and the laws are what the library documents about
values which already have the type asked for.
-/

namespace UserPortal

/-- The conversions of `Poco::Dynamic::Var` which the portal uses. -/
structure Conversions where
  /-- `convert<int>` -/
  toInt : Json → Option Int
  /-- `convert<int64_t>` -/
  toInt64 : Json → Option Int
  /-- `convert<uint64_t>` -/
  toUInt64 : Json → Option Nat
  /-- `convert<std::string>` -/
  toString : Json → Option String
  toInt_int : ∀ n : Int, -2 ^ 31 ≤ n → n < 2 ^ 31 → toInt (.int n) = some n
  toInt64_int : ∀ n : Int, -2 ^ 63 ≤ n → n < 2 ^ 63 → toInt64 (.int n) = some n
  toInt64_range : ∀ j n, toInt64 j = some n → -2 ^ 63 ≤ n ∧ n < 2 ^ 63
  toUInt64_int : ∀ n : Nat, n < 2 ^ 64 → toUInt64 (.int n) = some n
  toUInt64_range : ∀ j n, toUInt64 j = some n → n < 2 ^ 64
  toString_str : ∀ s, toString (.str s) = some s

namespace Conversions

variable (conv : Conversions)

/-- `Object::getValue<int>` -/
def getInt (o : Json.Object) (k : String) : Option Int := (o.get? k).bind conv.toInt

/-- `Object::getValue<std::string>` -/
def getString (o : Json.Object) (k : String) : Option String := (o.get? k).bind conv.toString

lemma natCast_bounds {n : Nat} (h : n < 2 ^ 64) : (0 : Int) ≤ n ∧ (n : Int) < 2 ^ 64 := by omega

lemma toNat_lt {n : Int} (h : 0 ≤ n ∧ n < 2 ^ 64) : n.toNat < 2 ^ 64 := by omega

/-- The conversions which accept no value of another type. -/
def strict : Conversions where
  toInt
    | .int n => if -2 ^ 31 ≤ n ∧ n < 2 ^ 31 then some n else none
    | _ => none
  toInt64
    | .int n => if -2 ^ 63 ≤ n ∧ n < 2 ^ 63 then some n else none
    | _ => none
  toUInt64
    | .int n => if 0 ≤ n ∧ n < 2 ^ 64 then some n.toNat else none
    | _ => none
  toString
    | .str s => some s
    | _ => none
  toInt_int n h1 h2 := if_pos ⟨h1, h2⟩
  toInt64_int n h1 h2 := if_pos ⟨h1, h2⟩
  toInt64_range j n h := by
    cases j with
    | int m =>
      simp only at h
      split at h
      case isTrue r =>
        cases h
        exact r
      case isFalse => cases h
    | _ => cases h
  toUInt64_int n h := if_pos (natCast_bounds h)
  toUInt64_range j n h := by
    cases j with
    | int m =>
      simp only at h
      split at h
      case isTrue r =>
        cases h
        exact toNat_lt r
      case isFalse => cases h
    | _ => cases h
  toString_str s := rfl

/-- `convert<int>` as the library documents it: a number in the range of the type loses its fraction, a
boolean is 0 or 1, and digits are read. -/
def convertInt : Json → Option Int
  | .int n => if -2 ^ 31 ≤ n ∧ n < 2 ^ 31 then some n else none
  | .frac m e => if -2 ^ 31 * 10 ^ e ≤ m ∧ m ≤ (2 ^ 31 - 1) * 10 ^ e then some (m.tdiv (10 ^ e)) else none
  | .bool b => some (if b then 1 else 0)
  | .str s =>
    let n := Nat.ofDigitChars 10 s.toList 0
    if s ≠ "" ∧ s.toList.all Char.isDigit ∧ n < 2 ^ 31 then some n else none
  | _ => none

/-- The conversions which accept values of other types as an `int`. -/
def lenient : Conversions := { strict with toInt := convertInt, toInt_int := fun _ h1 h2 => if_pos ⟨h1, h2⟩ }

end Conversions

end UserPortal
