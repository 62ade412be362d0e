import Mathlib.Data.List.Basic
import Mathlib.Data.List.TakeWhile

/-!
# Windows of a sequence of times

A window starts at a time and reaches up to the first later one which is at least a period after its start;
there the next window starts. What is added at the end belongs to the last window, or starts a new one.
-/

namespace UserPortal.Data

/-- The windows of some times. -/
def windows (period : Int) : List Int → List (List Int)
  | [] => []
  | start :: times =>
    (start :: times.takeWhile fun t => t - start < period) ::
      windows period (times.dropWhile fun t => t - start < period)
termination_by times => times.length
decreasing_by exact Nat.lt_succ_of_le (List.length_dropWhile_le ..)

/-- The window which is not over. -/
def currentWindow (period : Int) (times : List Int) : List Int :=
  ((windows period times).getLast?).getD []

/-- What becomes of the current window at another time. -/
def extendWindow (period : Int) : List Int → Int → List Int
  | [], t => [t]
  | start :: window, t => if t - start < period then start :: window ++ [t] else [t]

variable {period : Int}

lemma windows_ne_nil {times : List Int} (ne : times ≠ []) : windows period times ≠ [] := by
  cases times with
  | nil => exact absurd rfl ne
  | cons start times =>
    rw [windows]
    exact List.cons_ne_nil _ _

lemma currentWindow_nil : currentWindow period [] = [] := by
  rw [currentWindow, windows]
  rfl

/-- The first window is the current one, or the others go on without it. -/
lemma currentWindow_cons (start : Int) (times : List Int) :
    currentWindow period (start :: times) =
      if (times.dropWhile fun t => t - start < period) = [] then start :: times
      else currentWindow period (times.dropWhile fun t => t - start < period) := by
  rw [currentWindow, windows]
  have parts : (times.takeWhile fun t => t - start < period) ++
      (times.dropWhile fun t => t - start < period) = times := List.takeWhile_append_dropWhile
  cases remaining : times.dropWhile fun t => t - start < period with
  | nil =>
    rw [remaining, List.append_nil] at parts
    rw [if_pos rfl, parts, windows]
    rfl
  | cons next rest =>
    have some : windows period (next :: rest) ≠ [] := windows_ne_nil (List.cons_ne_nil _ _)
    rw [if_neg (List.cons_ne_nil _ _), currentWindow, List.getLast?_cons_of_ne_nil some]

/-- A time at the end extends the current window, or starts the next one. -/
lemma currentWindow_concat (times : List Int) (t : Int) :
    currentWindow period (times ++ [t]) = extendWindow period (currentWindow period times) t := by
  induction times using windows.induct period with
  | case1 =>
    rw [List.nil_append, currentWindow_cons, currentWindow_nil]
    rfl
  | case2 start times ih =>
    rw [List.cons_append, currentWindow_cons, currentWindow_cons, List.dropWhile_append]
    by_cases none : (times.dropWhile fun t => t - start < period) = []
    · rw [none, List.isEmpty_nil, if_pos rfl, if_pos rfl, extendWindow]
      by_cases early : t - start < period
      · have inside : ([t].dropWhile fun t => t - start < period) = [] := by simp [early]
        rw [if_pos early, inside, if_pos rfl, List.cons_append]
      · have next : ([t].dropWhile fun t => t - start < period) = [t] := by
          simp [Int.not_lt.mp early]
        rw [if_neg early, next, if_neg (List.cons_ne_nil _ _), currentWindow_cons]
        rfl
    · have some : (times.dropWhile fun t => t - start < period).isEmpty = false := by
        rw [List.isEmpty_eq_false_iff]
        exact none
      rw [some, if_neg Bool.false_ne_true, if_neg (by simp [none]), if_neg none, ih]

end UserPortal.Data
