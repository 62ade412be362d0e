import Mathlib.Data.List.Induction
import Mathlib.Data.List.Nodup

/-!
# First occurrences

A list without its later repetitions, as it is collected from the left: an element is appended unless it
was seen before.
-/

namespace UserPortal.Data

variable {α β : Type} [DecidableEq α] [DecidableEq β] {xs : List α}

lemma eraseDups_concat (xs : List α) (a : α) :
    (xs ++ [a]).eraseDups = if a ∈ xs then xs.eraseDups else xs.eraseDups ++ [a] := by
  rw [List.eraseDups_append, List.removeAll, List.filter_singleton]
  by_cases seen : a ∈ xs
  · rw [if_pos seen, List.elem_eq_true_of_mem seen]
    exact List.append_nil _
  · rw [if_neg seen, Bool.eq_false_iff.mpr (mt List.elem_iff.mp seen)]
    rfl

lemma nodup_eraseDups (xs : List α) : xs.eraseDups.Nodup := by
  induction xs using List.reverseRecOn with
  | nil => exact List.nodup_nil
  | append_singleton xs a ih =>
    rw [eraseDups_concat]
    split
    case isTrue => exact ih
    case isFalse new =>
      rw [← List.concat_eq_append]
      exact ih.concat fun mem => new (List.mem_eraseDups.mp mem)

/-- A function which tells the elements apart keeps their first occurrences. -/
lemma eraseDups_map {f : α → β} (inj : ∀ a ∈ xs, ∀ b ∈ xs, f a = f b → a = b) :
    (xs.map f).eraseDups = xs.eraseDups.map f := by
  induction xs using List.reverseRecOn with
  | nil => rfl
  | append_singleton xs a ih =>
    have ih := ih fun b mem c mem' =>
      inj b (List.mem_append_left _ mem) c (List.mem_append_left _ mem')
    have seen : f a ∈ xs.map f ↔ a ∈ xs := by
      refine ⟨fun mem => ?_, List.mem_map_of_mem⟩
      obtain ⟨b, mem, eq⟩ := List.mem_map.mp mem
      rw [← inj b (List.mem_append_left _ mem) a (List.mem_append_right _ (List.mem_singleton_self a)) eq]
      exact mem
    rw [List.map_append, List.map_singleton, eraseDups_concat, eraseDups_concat, ih]
    by_cases old : a ∈ xs
    · rw [if_pos old, if_pos (seen.mpr old)]
    · rw [if_neg old, if_neg (mt seen.mp old), List.map_append, List.map_singleton]

end UserPortal.Data
