import UserPortal.Framework.OrmConditions

/-!
# Iterating over a table

Port of `GetRecords`, `ComputeRange` and `Iterate` of `src/framework/orm.h`. The rows which a `where` clause
selects are read in batches, whose ranges are written in the dialect of the database, until one of them is
short or there is none. `GetRecords` is false when there are no rows, when the query failed and when `Convert`
failed on one of the rows alike.

`iterate_visitsAll_iff`: an iteration misses records exactly when a query, or the conversion of one of its rows,
fails which should have read some.
-/

namespace UserPortal.Orm

variable {Tuple Record : Type}

/-- The end of a statement, which selects a range of its rows. -/
inductive RangeClause where
  | limit (offset count : Nat)
  | limitOffset (count offset : Nat)

namespace RangeClause

/-- How a range is written. -/
def text : RangeClause → String
  | limit offset count => " LIMIT " ++ toString offset ++ ", " ++ toString count ++ " "
  | limitOffset count offset => " LIMIT " ++ toString count ++ " OFFSET " ++ toString offset ++ " "

/-- The rows which a database returns for a range. -/
def select (rows : List Tuple) : RangeClause → List Tuple
  | limit offset count => (rows.drop offset).take count
  | limitOffset count offset => (rows.drop offset).take count

end RangeClause

/-- `ComputeRange`, whose offset is 0 when it is less than 1. -/
def computeRange (type : DBType) (offset howMany : Nat) : RangeClause :=
  let offset := if offset < 1 then 0 else offset
  match type with
  | .sqlite => .limit offset howMany
  | .pgsql => .limitOffset howMany offset
  | .mysql => .limitOffset howMany offset

example : (computeRange .sqlite 100 50).text = " LIMIT 100, 50 " := by decide

/-- A table as a `where` clause selects from it, in the order of the rows, and which of the queries, counted
from 0 on, fail. -/
structure Table (Tuple : Type) where
  type : DBType
  rows : List Tuple
  fails : Nat → Bool

/-- The loop over the rows of a query. It ends with the exception of a conversion, behind the records before. -/
def convertRows (convert : Tuple → Option Record) (records : List Record) : List Tuple → Bool × List Record
  | [] => (true, records)
  | i :: list =>
    match convert i with
    | some record => convertRows convert (records ++ [record]) list
    | none => (false, records)

/-- `GetRecords`, at a query: whether there are rows which could be read, and the records behind those which are
there. `Convert` is none where it throws. -/
def getRecords (table : Table Tuple) (convert : Tuple → Option Record) (query offset howMany : Nat)
    (records : List Record) : Bool × List Record :=
  -- an exception, of the query or of a conversion, is caught, and looks like no rows
  if table.fails query then (false, records)
  else
    let list := (computeRange table.type offset howMany).select table.rows
    if 0 < list.length then convertRows convert records list else (false, records)

/-- The loop over the records of a batch: whether all are accepted, and the records which have been visited.
The function which is called may keep a state: what it returns depends on the records before. -/
def visit (f : List Record → Record → Bool) (visited : List Record) : List Record → Bool × List Record
  | [] => (true, visited)
  | i :: records => if f visited i then visit f (visited ++ [i]) records else (false, visited ++ [i])

/-- What an iteration returns, and the records which it visits, in order. -/
structure Iteration (Record : Type) where
  returned : Bool
  visited : List Record

/-- `Batch` -/
def batch : Nat := 50

/-! ## What is read -/

section Reads

variable {convert : Tuple → Option Record} {records read : List Record} {list : List Tuple}

/-- In all dialects a range is the same. -/
lemma select_computeRange (type : DBType) (offset howMany : Nat) (rows : List Tuple) :
    (computeRange type offset howMany).select rows = (rows.drop offset).take howMany := by
  have same : (if offset < 1 then 0 else offset) = offset := by
    by_cases none : offset < 1
    · rw [if_pos none]
      omega
    · rw [if_neg none]
  cases type <;> rw [computeRange, RangeClause.select, same]

/-- Rows which are all converted. -/
lemma convertRows_of_some (converted : list.map convert = read.map some) :
    convertRows convert records list = (true, records ++ read) := by
  induction list generalizing records read with
  | nil =>
    rw [List.map_nil, eq_comm, List.map_eq_nil_iff] at converted
    rw [converted, convertRows, List.append_nil]
  | cons i list ih =>
    cases read with
    | nil => cases converted
    | cons record read =>
      obtain ⟨first, rest⟩ := List.cons.inj converted
      rw [convertRows, first]
      dsimp only
      rw [ih rest, List.append_assoc, List.singleton_append]

/-- Rows one of which is not. -/
lemma convertRows_of_none (failed : none ∈ list.map convert) :
    (convertRows convert records list).1 = false := by
  induction list generalizing records with
  | nil => cases failed
  | cons i list ih =>
    rw [convertRows]
    split
    case h_1 record first =>
      apply ih
      rw [List.map_cons, first] at failed
      exact List.mem_of_ne_of_mem (Option.some_ne_none record).symm failed
    case h_2 => rfl

/-- Either a conversion fails, or all rows have their records. -/
lemma none_mem_or_eq_map_some (options : List (Option Record)) :
    none ∈ options ∨ ∃ read : List Record, options = read.map some := by
  induction options with
  | nil => exact .inr ⟨[], rfl⟩
  | cons i options ih =>
    cases i with
    | none => exact .inl List.mem_cons_self
    | some record =>
      rcases ih with failed | ⟨read, rfl⟩
      · exact .inl (List.mem_cons_of_mem _ failed)
      · exact .inr ⟨record :: read, rfl⟩

/-- A batch is what the table has there, unless the query fails, a row cannot be converted or there is no row. -/
lemma getRecords_cases (table : Table Tuple) (convert : Tuple → Option Record) (query offset : Nat) :
    ((table.fails query = true ∨ none ∈ ((table.rows.drop offset).map convert).take batch ∨
        table.rows.length ≤ offset) ∧ (getRecords table convert query offset batch []).1 = false) ∨
      ∃ read, table.fails query = false ∧ offset < table.rows.length ∧
        ((table.rows.drop offset).map convert).take batch = read.map some ∧
        getRecords table convert query offset batch [] = (true, read) := by
  rw [getRecords, select_computeRange, ← List.map_take]
  dsimp only
  by_cases failed : table.fails query = true
  · rw [if_pos failed]
    exact .inl ⟨.inl failed, rfl⟩
  · rw [if_neg failed]
    by_cases more : offset < table.rows.length
    · have rows : 0 < ((table.rows.drop offset).take batch).length := by
        rw [List.length_take, List.length_drop, batch]
        omega
      rw [if_pos rows]
      rcases none_mem_or_eq_map_some (((table.rows.drop offset).take batch).map convert) with bad | ⟨read, converted⟩
      · exact .inl ⟨.inr (.inl bad), convertRows_of_none bad⟩
      · exact .inr ⟨read, Bool.eq_false_iff.mpr failed, more, converted, convertRows_of_some converted⟩
    · have rows : ¬ 0 < ((table.rows.drop offset).take batch).length := by
        rw [List.length_take, List.length_drop]
        omega
      rw [if_neg rows]
      exact .inl ⟨.inr (.inr (Nat.le_of_not_lt more)), rfl⟩

end Reads

/-- The loop of `Iterate`, from an offset on, behind the records which have been visited. -/
def iterateFrom (table : Table Tuple) (convert : Tuple → Option Record) (f : List Record → Record → Bool)
    (query offset : Nat) (visited : List Record) : Iteration Record :=
  let read := getRecords table convert query offset batch []
  if _found : read.1 then
    let seen := visit f visited read.2
    if ¬ seen.1 then ⟨true, seen.2⟩
    else if read.2.length < batch then ⟨true, seen.2⟩
    else iterateFrom table convert f (query + 1) (offset + batch) seen.2
  else ⟨true, visited⟩
termination_by table.rows.length - offset
decreasing_by
  rcases getRecords_cases table convert query offset with ⟨_, notRead⟩ | ⟨_, _, more, _⟩
  · change (getRecords table convert query offset batch []).1 = true at _found
    rw [notRead] at _found
    cases _found
  · rw [batch]
    omega

/-- `Iterate` -/
def iterate (table : Table Tuple) (convert : Tuple → Option Record) (f : List Record → Record → Bool) :
    Iteration Record :=
  iterateFrom table convert f 0 0 []

/-! ## What is visited -/

section Visits

variable {f : List Record → Record → Bool} {past first visited : List Record} {options : List (Option Record)}
  {fails : Nat → Bool}

/-- All of some records are accepted. -/
def Accepts (f : List Record → Record → Bool) (records : List Record) : Prop :=
  ∀ before i, before ++ [i] <+: records → f before i = true

/-- Among the first rows, all of which are converted, there is a record which is not accepted. -/
def Rejects (f : List Record → Record → Bool) (options : List (Option Record)) : Prop :=
  ∃ before i, (before ++ [i]).map some <+: options ∧ f before i = false

/-- The visits end with a record which is not accepted, or they are the records of all rows. -/
def VisitsAll (f : List Record → Record → Bool) (options : List (Option Record)) (visited : List Record) : Prop :=
  (∃ before i, visited = before ++ [i] ∧ f before i = false) ∨ visited.map some = options

/-- Before a query which should read some of the rows fails, or comes to a row which is not converted, a record is
not accepted. -/
def FailsLate (fails : Nat → Bool) (f : List Record → Record → Bool) (past : List Record)
    (options : List (Option Record)) : Prop :=
  ∀ k, fails k = true ∨ none ∈ (options.drop (50 * k)).take 50 → 50 * k < options.length →
    Rejects f (past.map some ++ options.take (50 * k))

/-- One more record is accepted. -/
lemma Accepts.concat {i : Record} (accepts : Accepts f past) (accepted : f past i = true) :
    Accepts f (past ++ [i]) := by
  intro before j within
  rcases List.prefix_concat_iff.mp within with all | less
  · obtain ⟨rfl, last⟩ := List.append_inj' all rfl
    rw [List.singleton_inj.mp last]
    exact accepted
  · exact accepts before j less

/-- Where all records are accepted, none is not. -/
lemma Accepts.not_rejects (accepts : Accepts f past) : ¬ Rejects f (past.map some) := by
  rintro ⟨before, i, within, rejected⟩
  have accepted := accepts before i ((List.prefix_map_iff_of_injective fun _ _ => Option.some.inj).mp within)
  rw [rejected] at accepted
  cases accepted

/-- Either all records of a batch are accepted, and visited, or the visit ends with the first one which is
not. -/
lemma visit_cases (accepts : Accepts f past) (records : List Record) :
    (Accepts f (past ++ records) ∧ visit f past records = (true, past ++ records)) ∨
      ∃ before i, f before i = false ∧ visit f past records = (false, before ++ [i]) ∧
        before ++ [i] <+: past ++ records := by
  induction records generalizing past with
  | nil =>
    left
    rw [List.append_nil]
    exact ⟨accepts, rfl⟩
  | cons i records ih =>
    rw [visit]
    by_cases accepted : f past i
    · rw [if_pos accepted, List.append_cons]
      exact ih (accepts.concat accepted)
    · right
      rw [if_neg accepted]
      refine ⟨past, i, Bool.eq_false_iff.mpr accepted, rfl, ?_⟩
      exact (List.prefix_append_right_inj past).mpr ⟨records, rfl⟩

/-- The records before are all there are to visit only where no rows are left. -/
lemma visitsAll_self (accepts : Accepts f past) : VisitsAll f (past.map some ++ options) past ↔ options = [] := by
  refine ⟨?_, ?_⟩
  · rintro (⟨before, i, eq, rejected⟩ | all)
    · subst eq
      exact absurd ⟨before, i, List.prefix_rfl, rejected⟩ accepts.not_rejects
    · exact List.self_eq_append_right.mp all
  · intro none
    right
    rw [none, List.append_nil]

/-- When the first batch cannot be read, or there are no rows to read, there must be none. -/
lemma failsLate_of_stop (accepts : Accepts f past)
    (stop : fails 0 = true ∨ none ∈ options.take 50 ∨ options = []) :
    FailsLate fails f past options ↔ options = [] := by
  refine ⟨?_, ?_⟩
  · intro late
    by_contra some
    have failed : fails 0 = true ∨ none ∈ (options.drop (50 * 0)).take 50 := by
      rcases stop with failed | bad | none
      · exact .inl failed
      · exact .inr bad
      · exact absurd none some
    have rejects := late 0 failed (List.length_pos_iff.mpr some)
    rw [Nat.mul_zero, List.take_zero, List.append_nil] at rejects
    exact accepts.not_rejects rejects
  · intro none k _ some
    rw [none] at some
    cases some

/-- A batch which is read and short is the last one. -/
lemma failsLate_of_short (read : fails 0 = false) (short : first.length < 50) :
    FailsLate fails f past (first.map some) := by
  intro k failed some
  rw [List.length_map] at some
  have first : k = 0 := by omega
  rw [first, read] at failed
  rcases failed with failed | bad
  · cases failed
  · obtain ⟨record, _, eq⟩ := List.mem_map.mp (List.mem_of_mem_take bad)
    cases eq

/-- A record which is not accepted in the first batch comes before all failures but the first. -/
lemma failsLate_of_rejected (read : fails 0 = false) (converted : none ∉ options.take 50)
    (rejects : Rejects f (past.map some ++ options.take 50)) : FailsLate fails f past options := by
  intro k failed _
  cases k with
  | zero =>
    rw [read] at failed
    rcases failed with failed | bad
    · cases failed
    · exact absurd bad converted
  | succ k =>
    obtain ⟨before, i, within, rejected⟩ := rejects
    refine ⟨before, i, within.trans ((List.prefix_append_right_inj _).mpr ?_), rejected⟩
    apply List.take_prefix_take_left
    omega

/-- The failures behind a batch which is read. -/
lemma failsLate_append (read : fails 0 = false) (full : first.length = 50) :
    FailsLate fails f past (first.map some ++ options) ↔
      FailsLate (fun k => fails (k + 1)) f (past ++ first) options := by
  have length : (first.map some).length = 50 := by rw [List.length_map, full]
  have covered (k : Nat) : past.map some ++ (first.map some ++ options).take (50 * (k + 1)) =
      (past ++ first).map some ++ options.take (50 * k) := by
    have le : (first.map some).length ≤ 50 * (k + 1) := by
      rw [length, Nat.mul_succ]
      exact Nat.le_add_left _ _
    rw [List.take_append, List.take_of_length_le le, length, Nat.mul_succ, Nat.add_sub_cancel, List.map_append,
      List.append_assoc]
  have behind (k : Nat) : (first.map some ++ options).drop (50 * (k + 1)) = options.drop (50 * k) := by
    rw [Nat.mul_succ, Nat.add_comm, ← List.drop_drop, ← length, List.drop_left]
  refine ⟨?_, ?_⟩
  · intro late k failed some
    rw [← covered]
    apply late (k + 1)
    · rw [behind]
      exact failed
    · rw [List.length_append, length]
      omega
  · intro late k failed some
    cases k with
    | zero =>
      rw [read] at failed
      rcases failed with failed | bad
      · cases failed
      · have there : none ∈ first.map Option.some := by
          rw [Nat.mul_zero, List.drop_zero, List.take_append_of_le_length (Nat.le_of_eq length.symm)] at bad
          exact List.mem_of_mem_take bad
        obtain ⟨record, _, eq⟩ := List.mem_map.mp there
        cases eq
    | succ k =>
      rw [covered]
      apply late k
      · rw [behind] at failed
        exact failed
      · rw [List.length_append, length] at some
        omega

/-- An iteration from an offset on visits records in order, and those of all rows if and only if the queries which
are left fail late. -/
lemma iterateFrom_visits (table : Table Tuple) (convert : Tuple → Option Record) (query offset : Nat)
    (accepts : Accepts f past) :
    (iterateFrom table convert f query offset past).visited.map some <+:
        past.map some ++ (table.rows.drop offset).map convert ∧
      (VisitsAll f (past.map some ++ (table.rows.drop offset).map convert)
          (iterateFrom table convert f query offset past).visited ↔
        FailsLate (fun k => table.fails (query + k)) f past ((table.rows.drop offset).map convert)) := by
  induction left : table.rows.length - offset using Nat.strongRecOn generalizing query offset past with
  | _ n ih =>
    have length : ((table.rows.drop offset).map convert).length = table.rows.length - offset := by
      rw [List.length_map, List.length_drop]
    have next : (table.rows.drop (offset + batch)).map convert =
        ((table.rows.drop offset).map convert).drop batch := by
      rw [← List.map_drop, List.drop_drop]
    have ih := fun smaller (past : List Record) (accepts : Accepts f past) =>
      ih (table.rows.length - (offset + batch)) smaller (query + 1) (offset + batch) accepts rfl
    rw [next] at ih
    rw [iterateFrom]
    rcases getRecords_cases table convert query offset with ⟨stop, notRead⟩ | ⟨read, succeeds, more, converted, eq⟩
    · have stop : table.fails (query + 0) = true ∨
          none ∈ ((table.rows.drop offset).map convert).take 50 ∨ (table.rows.drop offset).map convert = [] := by
        refine stop.imp_right (.imp_right fun none => ?_)
        rw [← List.length_eq_zero_iff, length]
        exact Nat.sub_eq_zero_of_le none
      rw [dif_neg (by rw [notRead]; exact Bool.false_ne_true), visitsAll_self accepts]
      exact ⟨List.prefix_append _ _, (failsLate_of_stop accepts stop).symm⟩
    · have succeeds : (fun k => table.fails (query + k)) 0 = false := succeeds
      -- from here on the rows behind the offset are any list of the right length
      generalize (table.rows.drop offset).map convert = options at *
      have taken : options.take 50 = read.map some := converted
      have split : options = read.map some ++ options.drop batch := by
        rw [← converted, List.take_append_drop]
      rw [dif_pos (by rw [eq]), eq]
      dsimp only
      rcases visit_cases accepts read with ⟨accepted, seen⟩ | ⟨before, i, rejected, seen, within⟩
      · rw [seen, if_neg (not_not_intro rfl)]
        have few : read.length = min 50 options.length := by
          have same : (read.map some).length = read.length := List.length_map ..
          rw [← same, ← converted, List.length_take, batch]
        by_cases short : read.length < batch
        · have all : options = read.map some := by
            rw [← converted, List.take_of_length_le]
            rw [batch] at *
            omega
          rw [if_pos short, all, ← List.map_append]
          exact ⟨List.prefix_rfl, iff_of_true (Or.inr rfl) (failsLate_of_short succeeds short)⟩
        · rw [if_neg short]
          have full : read.length = 50 := by
            rw [batch] at short
            omega
          obtain ⟨within, all⟩ := ih (by rw [batch]; omega) _ accepted
          -- a full batch: the induction goes on behind it, with one query less
          rw [split, failsLate_append succeeds full, ← List.append_assoc, ← List.map_append]
          refine ⟨within, all.trans ?_⟩
          simp only [Nat.add_assoc, Nat.add_comm 1]
      · rw [seen, if_pos Bool.false_ne_true]
        have within : (before ++ [i]).map some <+: past.map some ++ options.take 50 := by
          rw [taken, ← List.map_append]
          exact within.map some
        refine ⟨within.trans ((List.prefix_append_right_inj _).mpr (List.take_prefix _ _)), ?_⟩
        refine iff_of_true (Or.inl ⟨before, i, rfl, rejected⟩)
          (failsLate_of_rejected succeeds (fun bad => ?_) ⟨before, i, within, rejected⟩)
        rw [taken] at bad
        obtain ⟨record, _, eq⟩ := List.mem_map.mp bad
        cases eq

/-- An iteration returns true whenever it ends. -/
lemma returned_iterateFrom (table : Table Tuple) (convert : Tuple → Option Record)
    (f : List Record → Record → Bool) (query offset : Nat) (visited : List Record) :
    (iterateFrom table convert f query offset visited).returned = true := by
  fun_induction iterateFrom <;> first | rfl | assumption

end Visits

/-- The batch of a query is not read: the query fails, or the conversion of one of its rows does. -/
def Table.Unread (table : Table Tuple) (convert : Tuple → Option Record) (k : Nat) : Prop :=
  table.fails k = true ∨ ∃ row ∈ (table.rows.drop (50 * k)).take 50, convert row = none

/-- Whatever the table, the function which is called and the failures are, an iteration ends and visits
records in order. When it returns true, it has called the function on the records of all rows, or up to one which
was not accepted, if and only if a batch which should be read is not read only behind a record which is not
accepted. -/
theorem iterate_visitsAll_iff (table : Table Tuple) (convert : Tuple → Option Record)
    (f : List Record → Record → Bool) :
    (iterate table convert f).visited.map some <+: table.rows.map convert ∧
      (((iterate table convert f).returned = true →
          VisitsAll f (table.rows.map convert) (iterate table convert f).visited) ↔
        ∀ k, table.Unread convert k → 50 * k < table.rows.length →
          ∃ before i, (before ++ [i]).map some <+: (table.rows.take (50 * k)).map convert ∧
            f before i = false) := by
  have none : Accepts f [] := by
    intro before i within
    exact absurd (List.prefix_nil.mp within) (List.append_ne_nil_of_right_ne_nil _ (List.cons_ne_nil _ _))
  obtain ⟨within, all⟩ := iterateFrom_visits table convert 0 0 none
  have returned : (iterate table convert f).returned = true := returned_iterateFrom table convert f 0 0 []
  refine ⟨within, ?_⟩
  rw [imp_iff_right returned]
  refine all.trans ?_
  simp only [FailsLate, Rejects, Table.Unread, List.drop_zero, Nat.zero_add, List.length_map, List.map_nil,
    List.nil_append, ← List.map_take, ← List.map_drop, List.mem_map]

/-- A query which fails looks like the end of the table. -/
theorem iterate_misses :
    ¬ ((iterate ⟨.sqlite, [1], fun _ => true⟩ some fun _ _ => true).returned = true →
      VisitsAll (fun _ _ => true) ([1].map some)
        (iterate ⟨.sqlite, [1], fun _ => true⟩ some fun _ _ => true).visited) := by
  intro visits
  have visited : (iterate (⟨.sqlite, [1], fun _ => true⟩ : Table Nat) some fun _ _ => true) = ⟨true, []⟩ := by
    rw [iterate, iterateFrom]
    rfl
  rw [visited] at visits
  rcases visits rfl with ⟨before, i, -, rejected⟩ | all
  · cases rejected
  · cases all

end UserPortal.Orm
