import Mathlib.Data.List.DropRight

/-!
# Words

The words of a list are its runs of elements which are no breaks. A break between two lists separates their
words; breaks at the ends belong to no word.
-/

namespace UserPortal.Data

variable {α : Type} {isBreak p : α → Bool} {xs ys : List α} {x : α}

/-- The words of a list, in order. -/
def words (isBreak : α → Bool) (xs : List α) : List (List α) :=
  (xs.splitOnP isBreak).filter fun word => !word.isEmpty

@[simp] lemma words_nil : words isBreak [] = [] := rfl

lemma words_append_cons (break_x : isBreak x) (xs ys : List α) :
    words isBreak (xs ++ x :: ys) = words isBreak xs ++ words isBreak ys := by
  rw [words, List.splitOnP_append_cons xs ys break_x, List.filter_append]
  rfl

lemma words_cons (break_x : isBreak x) (xs : List α) : words isBreak (x :: xs) = words isBreak xs :=
  words_append_cons break_x [] xs

lemma words_concat (break_x : isBreak x) (xs : List α) : words isBreak (xs ++ [x]) = words isBreak xs := by
  rw [words_append_cons break_x, words_nil, List.append_nil]

/-- The words of the parts between some of the breaks. -/
lemma words_splitOnP (breaks : ∀ x, p x → isBreak x) (xs : List α) :
    (xs.splitOnP p).flatMap (words isBreak) = words isBreak xs := by
  suffices all : ∀ before : List α, (∀ x ∈ before, p x = false) →
      ((before ++ xs).splitOnP p).flatMap (words isBreak) = words isBreak (before ++ xs) by
    apply all []
    intro x mem
    cases mem
  induction xs with
  | nil =>
    intro before free
    rw [List.append_nil, List.splitOnP_eq_singleton free, List.flatMap_singleton]
  | cons x xs ih =>
    intro before free
    by_cases px : p x
    · rw [List.splitOnP_append_cons_of_forall_mem free x px, List.flatMap_cons,
        words_append_cons (breaks x px)]
      congr 1
      apply ih []
      intro x mem
      cases mem
    · rw [List.append_cons]
      apply ih
      intro y mem
      rcases List.mem_append.mp mem with old | new
      · exact free y old
      · rw [List.mem_singleton.mp new]
        exact Bool.eq_false_iff.mpr px

lemma words_dropWhile (breaks : ∀ x, p x → isBreak x) (xs : List α) :
    words isBreak (xs.dropWhile p) = words isBreak xs := by
  induction xs with
  | nil => rfl
  | cons x xs ih =>
    by_cases px : p x
    · rw [List.dropWhile_cons_of_pos px, ih, words_cons (breaks x px)]
    · rw [List.dropWhile_cons_of_neg px]

lemma words_rdropWhile (breaks : ∀ x, p x → isBreak x) (xs : List α) :
    words isBreak (xs.rdropWhile p) = words isBreak xs := by
  induction xs using List.reverseRecOn with
  | nil => rfl
  | append_singleton xs x ih =>
    by_cases px : p x
    · rw [List.rdropWhile_concat_pos _ _ _ px, ih, words_concat (breaks x px)]
    · rw [List.rdropWhile_concat_neg _ _ _ px]

end UserPortal.Data
