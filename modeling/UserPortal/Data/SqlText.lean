import Mathlib.Tactic.Common

/-!
# The text of SQL

What a standard-conforming lexer sees of a text: literals stand between quotes, where two quotes are one
quote of the literal, and parentheses count outside of literals only. `Balanced`: each parenthesis is closed,
and so is each literal. `readLiteral` reads a literal behind its opening quote.
-/

namespace UserPortal.Data.SqlText

/-- How far a text has been read: whether a literal is open, and how many parentheses are. -/
structure Scan where
  literal : Bool := false
  depth : Nat := 0
  deriving DecidableEq

/-- Read a character. There is no scan behind a parenthesis which closes nothing. -/
def Scan.step (s : Scan) (c : Char) : Option Scan :=
  if c = '\'' then some { s with literal := !s.literal }
  else if s.literal then some s
  else if c = '(' then some { s with depth := s.depth + 1 }
  else if c = ')' then if s.depth = 0 then none else some { s with depth := s.depth - 1 }
  else some s

/-- Read some characters. -/
def scan (s : Scan) : List Char → Option Scan
  | [] => some s
  | c :: cs => (s.step c).bind fun s => scan s cs

/-- Everything which is opened is closed. -/
def Balanced (cs : List Char) : Prop := scan {} cs = some {}

instance (cs : List Char) : Decidable (Balanced cs) := inferInstanceAs (Decidable (_ = _))

/-- Read a literal whose opening quote has been read: its characters, and what follows its closing quote. -/
def readLiteral : List Char → Option (List Char × List Char)
  | [] => none
  | [c] => if c = '\'' then some ([], []) else none
  | c :: c' :: cs =>
    if c = '\'' then
      if c' = '\'' then (readLiteral cs).map fun (value, rest) => ('\'' :: value, rest)
      else some ([], c' :: cs)
    else (readLiteral (c' :: cs)).map fun (value, rest) => (c :: value, rest)

variable {xs ys : List Char} {c : Char} {d : Nat} {s : Scan}

/-! ## Balance -/

lemma scan_append (s : Scan) (xs ys : List Char) :
    scan s (xs ++ ys) = (scan s xs).bind fun s => scan s ys := by
  induction xs generalizing s with
  | nil => rfl
  | cons c xs ih =>
    rw [List.cons_append, scan, scan]
    cases s.step c with
    | none => rfl
    | some next => exact ih next

/-- More parentheses may be open around what is read. -/
lemma Scan.step_raise {s' : Scan} (read : s.step c = some s') (n : Nat) :
    Scan.step { s with depth := s.depth + n } c = some { s' with depth := s'.depth + n } := by
  rw [step] at *
  by_cases quote : c = '\''
  · rw [if_pos quote] at *
    cases read
    rfl
  rw [if_neg quote] at *
  by_cases literal : s.literal
  · rw [if_pos literal] at *
    cases read
    rfl
  rw [if_neg literal] at *
  by_cases opening : c = '('
  · rw [if_pos opening] at *
    cases read
    rw [Nat.add_right_comm]
  rw [if_neg opening] at *
  by_cases closing : c = ')'
  · -- what closes a parenthesis of the text still closes one
    rw [if_pos closing] at *
    by_cases none : s.depth = 0
    · rw [if_pos none] at read
      cases read
    · rw [if_neg none] at read
      cases read
      have still : s.depth + n ≠ 0 := fun eq => none (Nat.add_eq_zero_iff.mp eq).1
      have one : 1 ≤ s.depth := Nat.pos_of_ne_zero none
      rw [if_neg still, Nat.sub_add_comm one]
  · rw [if_neg closing] at *
    cases read
    rfl

lemma scan_raise {s' : Scan} (read : scan s xs = some s') (n : Nat) :
    scan { s with depth := s.depth + n } xs = some { s' with depth := s'.depth + n } := by
  induction xs generalizing s with
  | nil =>
    cases read
    rfl
  | cons c xs ih =>
    rw [scan] at *
    cases one : s.step c with
    | none =>
      rw [one] at read
      cases read
    | some next =>
      rw [one] at read
      rw [Scan.step_raise one n]
      exact ih read

/-- A balanced text leaves what is open around it. -/
lemma Balanced.scan (balanced : Balanced xs) (d : Nat) : scan ⟨false, d⟩ xs = some ⟨false, d⟩ := by
  have raised := scan_raise balanced d
  rwa [Nat.zero_add] at raised

lemma scan_closing (d : Nat) : SqlText.scan ⟨false, d⟩ [')'] = if d = 0 then none else some ⟨false, d - 1⟩ := by
  cases d <;> rfl

lemma Balanced.append (left : Balanced xs) (right : Balanced ys) : Balanced (xs ++ ys) := by
  rw [Balanced, scan_append, left]
  exact right

lemma Balanced.parenthesised (balanced : Balanced xs) : Balanced ('(' :: xs ++ [')']) := by
  rw [Balanced, List.cons_append, SqlText.scan]
  show SqlText.scan ⟨false, 1⟩ (xs ++ [')']) = _
  rw [scan_append, balanced.scan]
  rfl

/-- The characters of a literal do not count. -/
lemma scan_literal (free : '\'' ∉ xs) (d : Nat) : scan ⟨true, d⟩ xs = some ⟨true, d⟩ := by
  induction xs with
  | nil => rfl
  | cons c xs ih =>
    have step : Scan.step ⟨true, d⟩ c = some ⟨true, d⟩ := by
      rw [Scan.step, if_neg (List.ne_of_not_mem_cons free).symm, if_pos rfl]
    rw [scan, step]
    exact ih fun mem => free (List.mem_cons_of_mem _ mem)

/-! ## Literals -/

/-- The characters of a value between quotes. -/
def quoted (value : List Char) : List Char := value.flatMap fun c => if c = '\'' then ['\'', '\''] else [c]

lemma quoted_cons (c : Char) (value : List Char) :
    quoted (c :: value) = (if c = '\'' then ['\'', '\''] else [c]) ++ quoted value := rfl

lemma quoted_append (xs ys : List Char) : quoted (xs ++ ys) = quoted xs ++ quoted ys := List.flatMap_append

lemma quoted_of_not_mem (free : '\'' ∉ xs) : quoted xs = xs := by
  induction xs with
  | nil => rfl
  | cons c xs ih =>
    rw [quoted_cons, if_neg (List.ne_of_not_mem_cons free).symm, ih fun mem => free (List.mem_cons_of_mem _ mem)]
    rfl

/-- A value is read back, up to its closing quote. -/
lemma readLiteral_quoted (value : List Char) {rest : List Char} (closed : rest.head? ≠ some '\'') :
    readLiteral (quoted value ++ '\'' :: rest) = some (value, rest) := by
  induction value with
  | nil =>
    cases rest with
    | nil => rfl
    | cons c rest =>
      have other : ¬ c = '\'' := fun eq => closed (congrArg some eq)
      show readLiteral ('\'' :: c :: rest) = _
      rw [readLiteral, if_pos rfl, if_neg other]
  | cons c value ih =>
    rw [quoted_cons, List.append_assoc]
    by_cases quote : c = '\''
    · rw [if_pos quote, quote]
      show readLiteral ('\'' :: '\'' :: (quoted value ++ '\'' :: rest)) = _
      rw [readLiteral, if_pos rfl, if_pos rfl, ih]
      rfl
    · rw [if_neg quote, List.singleton_append]
      obtain ⟨c', cs, eq⟩ : ∃ c' cs, quoted value ++ '\'' :: rest = c' :: cs := by
        cases quoted value with
        | nil => exact ⟨_, _, rfl⟩
        | cons c' cs => exact ⟨_, _, rfl⟩
      rw [eq] at ih
      rw [eq, readLiteral, if_neg quote, ih]
      rfl

/-- A literal is balanced, whatever its value. -/
lemma balanced_literal (value : List Char) : Balanced ('\'' :: quoted value ++ ['\'']) := by
  have inside : scan ⟨true, 0⟩ (quoted value) = some ⟨true, 0⟩ := by
    induction value with
    | nil => rfl
    | cons c value ih =>
      rw [quoted_cons, scan_append]
      by_cases quote : c = '\''
      · rw [if_pos quote]
        exact ih
      · rw [if_neg quote, scan_literal]
        · exact ih
        · exact fun mem => quote (List.mem_singleton.mp mem).symm
  show scan ⟨true, 0⟩ (quoted value ++ ['\'']) = _
  rw [scan_append, inside]
  rfl

end UserPortal.Data.SqlText
