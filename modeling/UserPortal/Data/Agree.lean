import Mathlib.Tactic.Common

/-!
# Lists which agree on some of their elements

`AgreeOn P xs ys`: the lists differ only in elements which are not of `P`, which may be changed, added
and dropped anywhere. A function which looks at the elements of `P` only does not tell them apart.
-/

namespace UserPortal.Data

variable {α : Type}

/-- Two lists differ only in elements which are not of `P`. -/
inductive AgreeOn (P : α → Prop) : List α → List α → Prop where
  | nil : AgreeOn P [] []
  | cons {xs ys : List α} (a : α) :
    AgreeOn P xs ys →
    AgreeOn P (a :: xs) (a :: ys)
  | drop {xs ys : List α} {a : α} :
    ¬ P a →
    AgreeOn P xs ys →
    AgreeOn P (a :: xs) ys
  | add {xs ys : List α} {a : α} :
    ¬ P a →
    AgreeOn P xs ys →
    AgreeOn P xs (a :: ys)

namespace AgreeOn

variable {P : α → Prop} {xs ys : List α}

/-- A filter which keeps elements of `P` only does not tell the lists apart. -/
lemma filter_eq {keep : α → Bool} (h : AgreeOn P xs ys) (keeps : ∀ a, keep a = true → P a) :
    xs.filter keep = ys.filter keep := by
  induction h with
  | nil => rfl
  | cons a _ ih => rw [List.filter_cons, List.filter_cons, ih]
  | drop no _ ih => rw [List.filter_cons_of_neg fun k => no (keeps _ k), ih]
  | add no _ ih => rw [List.filter_cons_of_neg fun k => no (keeps _ k), ih]

end AgreeOn

end UserPortal.Data
