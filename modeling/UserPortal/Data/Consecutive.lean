import Mathlib.Data.List.DropRight
import Mathlib.Data.List.Induction

/-!
# Consecutive elements

What each two consecutive elements of a list give, in order, and the latest of them in all prefixes of
the list.
-/

namespace UserPortal.Data

variable {α β : Type} {f g : α → α → β} {xs : List α} {n : Nat}

/-- What each element and the next one give. -/
def consecutive (f : α → α → β) : List α → List β
  | a :: b :: rest => f a b :: consecutive f (b :: rest)
  | _ => []

lemma consecutive_concat (xs : List α) (a b : α) :
    consecutive f (xs ++ [a] ++ [b]) = consecutive f (xs ++ [a]) ++ [f a b] := by
  induction xs with
  | nil => rfl
  | cons x xs ih =>
    cases xs with
    | nil => rfl
    | cons y xs =>
      rw [List.cons_append, List.cons_append, List.cons_append, List.cons_append, consecutive]
      rw [List.cons_append, List.cons_append] at ih
      rw [ih, consecutive, List.cons_append]

lemma length_consecutive (f : α → α → β) (xs : List α) : (consecutive f xs).length = xs.length - 1 := by
  induction xs with
  | nil => rfl
  | cons a xs ih =>
    cases xs with
    | nil => rfl
    | cons b rest =>
      rw [consecutive, List.length_cons, ih]
      rfl

lemma consecutive_map {γ : Type} (h : γ → α) (xs : List γ) :
    consecutive f (xs.map h) = consecutive (fun a b => f (h a) (h b)) xs := by
  induction xs with
  | nil => rfl
  | cons a xs ih =>
    cases xs with
    | nil => rfl
    | cons b rest => exact congrArg (List.cons _) ih

lemma map_consecutive {γ : Type} (h : β → γ) (xs : List α) :
    (consecutive f xs).map h = consecutive (fun a b => h (f a b)) xs := by
  induction xs with
  | nil => rfl
  | cons a xs ih =>
    cases xs with
    | nil => rfl
    | cons b rest => exact congrArg (List.cons _) ih

lemma consecutive_congr (same : ∀ past a b, past ++ [a] ++ [b] <+: xs → f a b = g a b) :
    consecutive f xs = consecutive g xs := by
  induction xs using List.reverseRecOn with
  | nil => rfl
  | append_singleton xs b ih =>
    have before : consecutive f xs = consecutive g xs := by
      refine ih fun past a b here => same past a b ?_
      exact here.trans (List.prefix_append _ _)
    rcases List.eq_nil_or_concat xs with none | ⟨past, a, eq⟩
    · rw [none]
      rfl
    · rw [List.concat_eq_append] at eq
      have here : past ++ [a] ++ [b] <+: xs ++ [b] := by simp only [eq, List.prefix_rfl]
      have step : f a b = g a b := same past a b here
      rw [eq, consecutive_concat, consecutive_concat, ← eq, before, step]

lemma length_rtake (n : Nat) (xs : List α) : (xs.rtake n).length = min n xs.length := by
  rw [List.rtake, List.length_drop]
  omega

lemma map_rtake (h : α → β) (xs : List α) : (xs.rtake n).map h = (xs.map h).rtake n := by
  rw [List.rtake, List.rtake, List.length_map, List.map_drop]

/-- The latest elements, when there is one more. -/
lemma rtake_concat (x : α) :
    (xs ++ [x]).rtake n = if xs.length < n then xs.rtake n ++ [x] else (xs.rtake n ++ [x]).tail := by
  rw [List.rtake, List.rtake, List.length_append, List.length_singleton]
  by_cases few : xs.length < n
  · rw [if_pos few, Nat.sub_eq_zero_of_le few, Nat.sub_eq_zero_of_le few.le]
    rfl
  · have next : xs.length + 1 - n = xs.length - n + 1 := Nat.sub_add_comm (Nat.not_lt.mp few)
    have within : xs.length - n ≤ xs.length := Nat.sub_le _ _
    rw [if_neg few, next, ← List.tail_drop, List.drop_append_of_le_length within]

/-- The latest of what consecutive elements give are the same in all prefixes if and only if each two
consecutive elements give the same. -/
lemma rtake_consecutive_iff (pos : 0 < n) :
    (∀ past, past <+: xs → (consecutive f past).rtake n = (consecutive g past).rtake n) ↔
      ∀ past a b, past ++ [a] ++ [b] <+: xs → f a b = g a b := by
  refine ⟨?_, ?_⟩
  · intro same past a b here
    have latest := same _ here
    rw [consecutive_concat, consecutive_concat] at latest
    obtain ⟨k, rfl⟩ := Nat.exists_eq_succ_of_ne_zero pos.ne'
    rw [List.rtake_concat_succ, List.rtake_concat_succ] at latest
    exact List.singleton_injective (List.append_inj_right' latest rfl)
  · intro same past here
    have eq : consecutive f past = consecutive g past :=
      consecutive_congr fun earlier a b there => same earlier a b (there.trans here)
    rw [eq]

end UserPortal.Data
