import UserPortal.Framework.Utils

/-!
# String tokenizers

Port of `Poco::StringTokenizer`, as the code uses it: without options, which keeps empty tokens, and with
`TOK_TRIM`, which takes the spaces off each of them. Only the empty string has no tokens.

`tokens_eq_iff`: more than one token, between separators of one character, are what the string is made of.
-/

namespace UserPortal.StringTokenizer

/-- `StringTokenizer(s, separators)` -/
def tokens (s separators : String) : List String :=
  if s = "" then [] else (s.toList.splitOnP fun c => separators.toList.contains c).map String.ofList

/-- `StringTokenizer(s, separators, StringTokenizer::TOK_TRIM)` -/
def trimmedTokens (s separators : String) : List String := (tokens s separators).map Utils.trim

variable {s separators a b : String} {sep : Char} {parts : List String}

/-- The parts of a string between separators. -/
def Parts (s : String) (sep : Char) (parts : List String) : Prop :=
  s.toList = [sep].intercalate (parts.map String.toList) ∧ ∀ part ∈ parts, sep ∉ part.toList

/-- No part has a separator. -/
lemma not_mem_of_mem_splitOn {cs part : List Char} (mem : part ∈ cs.splitOn sep) : sep ∉ part := by
  induction cs generalizing part with
  | nil =>
    rw [List.splitOn_nil, List.mem_singleton] at mem
    rw [mem]
    exact List.not_mem_nil
  | cons c cs ih =>
    rw [List.splitOn_cons_eq_if_modifyHead] at mem
    by_cases separator : c == sep
    · rw [if_pos separator] at mem
      rcases List.mem_cons.mp mem with first | later
      · rw [first]
        exact List.not_mem_nil
      · exact ih later
    · rw [if_neg separator] at mem
      obtain ⟨head, rest, eq⟩ := List.exists_cons_of_ne_nil (List.splitOn_ne_nil sep cs)
      rw [eq, List.modifyHead_cons] at mem
      rw [eq] at ih
      rcases List.mem_cons.mp mem with first | later
      · rw [first]
        intro here
        rcases List.mem_cons.mp here with same | inside
        · exact separator (beq_iff_eq.mpr same.symm)
        · exact ih List.mem_cons_self inside
      · exact ih (List.mem_cons_of_mem _ later)

lemma Parts.ne_empty (parted : Parts s sep parts) (some : 1 < parts.length) : s ≠ "" := by
  intro empty
  obtain ⟨eq, -⟩ := parted
  rw [empty] at eq
  match parts, some with
  | a :: b :: rest, _ =>
    rw [List.map_cons, List.map_cons, List.intercalate_cons_cons] at eq
    exact List.append_ne_nil_of_left_ne_nil
      (List.append_ne_nil_of_right_ne_nil _ (List.cons_ne_nil _ _)) _ eq.symm

/-- The parts of a string which has at least one separator. -/
lemma tokens_eq_iff (single : separators.toList = [sep]) (some : 1 < parts.length) :
    tokens s separators = parts ↔ Parts s sep parts := by
  have split : (s.toList.splitOnP fun c => separators.toList.contains c) = s.toList.splitOn sep := by
    rw [List.splitOn_eq_splitOnP, single]
    congr 1
    funext c
    rw [List.contains_cons, List.contains_nil, Bool.or_false]
  have nonempty : parts.map String.toList ≠ [] := by
    intro none
    rw [List.map_eq_nil_iff.mp none] at some
    cases some
  rw [tokens, split]
  refine ⟨?_, ?_⟩
  · intro eq
    by_cases empty : s = ""
    · rw [if_pos empty] at eq
      rw [← eq] at some
      cases some
    · rw [if_neg empty] at eq
      have chars : parts.map String.toList = s.toList.splitOn sep := by
        rw [← eq, List.map_map]
        exact (List.map_congr_left fun part _ => String.toList_ofList).trans (List.map_id _)
      refine ⟨?_, ?_⟩
      · rw [chars, List.intercalate_splitOn]
      · intro part mem
        apply not_mem_of_mem_splitOn
        rw [← chars]
        exact List.mem_map_of_mem mem
  · intro parted
    have free : ∀ part ∈ parts.map String.toList, sep ∉ part := by
      intro part mem
      obtain ⟨token, tokenMem, eq⟩ := List.mem_map.mp mem
      rw [← eq]
      exact parted.2 token tokenMem
    rw [if_neg (parted.ne_empty some), parted.1, List.splitOn_intercalate sep free nonempty, List.map_map]
    exact (List.map_congr_left fun part _ => String.ofList_toList).trans (List.map_id _)

/-- The parts of a string which is not empty, be there a separator or not. -/
lemma tokens_eq_iff_parts (single : separators.toList = [sep]) (some : s ≠ "") :
    tokens s separators = parts ↔ parts ≠ [] ∧ Parts s sep parts := by
  have split : (s.toList.splitOnP fun c => separators.toList.contains c) = s.toList.splitOn sep := by
    rw [List.splitOn_eq_splitOnP, single]
    congr 1
    funext c
    rw [List.contains_cons, List.contains_nil, Bool.or_false]
  rw [tokens, if_neg some, split]
  refine ⟨?_, ?_⟩
  · intro eq
    have chars : parts.map String.toList = s.toList.splitOn sep := by
      rw [← eq, List.map_map]
      exact (List.map_congr_left fun part _ => String.toList_ofList).trans (List.map_id _)
    refine ⟨?_, ?_, ?_⟩
    · intro none
      rw [none] at chars
      exact List.splitOn_ne_nil sep s.toList chars.symm
    · rw [chars, List.intercalate_splitOn]
    · intro part mem
      apply not_mem_of_mem_splitOn
      rw [← chars]
      exact List.mem_map_of_mem mem
  · intro both
    obtain ⟨nonempty, parted⟩ := both
    have free : ∀ part ∈ parts.map String.toList, sep ∉ part := by
      intro part mem
      obtain ⟨token, tokenMem, eq⟩ := List.mem_map.mp mem
      rw [← eq]
      exact parted.2 token tokenMem
    rw [parted.1, List.splitOn_intercalate sep free fun none => nonempty (List.map_eq_nil_iff.mp none), List.map_map]
    exact (List.map_congr_left fun part _ => String.ofList_toList).trans (List.map_id _)

/-- Two parts. -/
lemma tokens_eq_pair_iff (single : separators.toList = [sep]) :
    tokens s separators = [a, b] ↔
      s.toList = a.toList ++ sep :: b.toList ∧ sep ∉ a.toList ∧ sep ∉ b.toList := by
  have two : 1 < [a, b].length := Nat.lt_succ_self 1
  rw [tokens_eq_iff single two, Parts]
  simp only [List.map_cons, List.map_nil, List.intercalate_cons_cons, List.intercalate_singleton,
    List.append_assoc, List.singleton_append, List.forall_mem_cons, List.not_mem_nil, false_implies,
    implies_true, and_true]

end UserPortal.StringTokenizer
