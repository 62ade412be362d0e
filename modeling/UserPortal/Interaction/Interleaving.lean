import Mathlib.Data.List.Induction
import UserPortal.Interaction.Program

/-!
# Interleavings

A pool of programs which share one environment: at every step some program asks its next operation
and the environment answers it. A schedule is the list of the events of a run, each tagged with the
program that asked.

* `Interleaving.trace`: the events of one program in a schedule form a trace of that program.
* `Interleaving.of_traces`: traces which the environment accepts in some order form an interleaving.
* `Accepts.along`: an invariant of the position in a schedule, carried from its start to its end.
* `Cell`: a part of the state which some events read and some events write.
* `Cell.current`: what a program has read is still there, unless another program has written since.
* `lastWriter`: the program which was the last to write.
-/

namespace UserPortal.Interaction
open Program

variable {Ops : Type} {Ans : Ops → Type} {σ ι α : Type}

/-- A list of events tagged with the program that asked. -/
abbrev Schedule (ι Ops : Type) (Ans : Ops → Type) := List (ι × Event Ops Ans)

section Pool

variable [DecidableEq ι] {env : σ → Event Ops Ans → σ → Prop}

/-- `Interleaving env ps s sched ps' s'`: the pool `ps` can run through `sched` from `s`. -/
inductive Interleaving (env : σ → Event Ops Ans → σ → Prop) :
    (ι → Program Ops Ans α) → σ → Schedule ι Ops Ans → (ι → Program Ops Ans α) → σ → Prop where
  | nil (ps : ι → Program Ops Ans α) (s : σ) :
    Interleaving env ps s [] ps s
  | cons {ps ps' : ι → Program Ops Ans α} {s s1 s' : σ} {sched : Schedule ι Ops Ans}
    {i : ι} {op : Ops} {k : Ans op → Program Ops Ans α} {x : Ans op} :
    ps i = .ask op k →
    env s ⟨op, x⟩ s1 →
    Interleaving env (Function.update ps i (k x)) s1 sched ps' s' →
    Interleaving env ps s ((i, ⟨op, x⟩) :: sched) ps' s'

/-- The events of program `i` in a schedule. -/
def Schedule.events (i : ι) : Schedule ι Ops Ans → List (Event Ops Ans)
  | [] => []
  | e :: sched => if e.1 = i then e.2 :: Schedule.events i sched else Schedule.events i sched

@[simp] lemma events_nil (i : ι) : Schedule.events i ([] : Schedule ι Ops Ans) = [] := rfl

@[simp] lemma events_cons_self (i : ι) (e : Event Ops Ans) (sched : Schedule ι Ops Ans) :
    Schedule.events i ((i, e) :: sched) = e :: Schedule.events i sched := if_pos rfl

lemma events_cons_of_ne {i j : ι} (ne : j ≠ i) (e : Event Ops Ans) (sched : Schedule ι Ops Ans) :
    Schedule.events i ((j, e) :: sched) = Schedule.events i sched := if_neg ne

lemma events_append (i : ι) (s1 s2 : Schedule ι Ops Ans) :
    Schedule.events i (s1 ++ s2) = Schedule.events i s1 ++ Schedule.events i s2 := by
  induction s1 with
  | nil => rfl
  | cons e s1 ih =>
    simp only [List.cons_append, Schedule.events]
    split
    · rw [ih, List.cons_append]
    · exact ih

lemma mem_events {i : ι} {e : Event Ops Ans} {sched : Schedule ι Ops Ans} :
    e ∈ Schedule.events i sched ↔ (i, e) ∈ sched := by
  induction sched with
  | nil => simp
  | cons d sched ih =>
    obtain ⟨j, d⟩ := d
    by_cases eq : j = i
    · subst eq
      simp [ih]
    · rw [events_cons_of_ne eq, ih]
      simp [Ne.symm eq]

/-- The environment takes part in the events of an interleaving, whoever asked them. -/
lemma Interleaving.accepts {ps ps' : ι → Program Ops Ans α} {s s' : σ} {sched : Schedule ι Ops Ans}
    (h : Interleaving env ps s sched ps' s') : Accepts env s (sched.map Prod.snd) s' := by
  induction h with
  | nil => exact .nil _
  | cons _ st _ ih => exact .cons st ih

/-- The events of a program which has returned form a trace of it. -/
lemma Interleaving.trace {ps ps' : ι → Program Ops Ans α} {s s' : σ} {sched : Schedule ι Ops Ans}
    (h : Interleaving env ps s sched ps' s') {i : ι} {a : α} (done : ps' i = .ret a) :
    Trace (ps i) (Schedule.events i sched) a := by
  induction h with
  | nil =>
    rw [done]
    exact .ret a
  | @cons ps ps' s s1 s' sched j op k x eq _ _ ih =>
    have ih := ih done
    by_cases e : j = i
    · subst e
      rw [eq, events_cons_self]
      rw [Function.update_self] at ih
      exact .ask x ih
    · rw [events_cons_of_ne e]
      rw [Function.update_of_ne (Ne.symm e)] at ih
      exact ih

/-- Traces of the programs which the environment accepts in some order form an interleaving. -/
lemma Interleaving.of_traces {ps : ι → Program Ops Ans α} {a : ι → α} {s s' : σ}
    {sched : Schedule ι Ops Ans} (acc : Accepts env s (sched.map Prod.snd) s')
    (h : ∀ i, Trace (ps i) (Schedule.events i sched) (a i)) :
    Interleaving env ps s sched (fun i => .ret (a i)) s' := by
  induction sched generalizing ps s with
  | nil =>
    obtain rfl := accepts_nil.mp acc
    have eq : ps = fun i => .ret (a i) := by
      funext i
      have hi := h i
      rw [events_nil] at hi
      cases e : ps i with
      | ret b =>
        rw [e] at hi
        rw [(trace_ret.mp hi).2]
      | ask op k =>
        rw [e] at hi
        obtain ⟨x, rest, eq, _⟩ := trace_ask.mp hi
        cases eq
    rw [eq]
    exact .nil _ _
  | cons d sched ih =>
    obtain ⟨j, op, x⟩ := d
    obtain ⟨s1, st, acc⟩ := accepts_cons.mp acc
    have hj := h j
    rw [events_cons_self] at hj
    cases e : ps j with
    | ret b =>
      rw [e] at hj
      cases (trace_ret.mp hj).1
    | ask op' k =>
      rw [e] at hj
      obtain ⟨y, rest, eq, hk⟩ := trace_ask.mp hj
      cases eq
      refine .cons e st (ih acc ?_)
      intro i
      by_cases ne : i = j
      · subst ne
        rw [Function.update_self]
        exact hk
      · rw [Function.update_of_ne ne]
        have hi := h i
        rw [events_cons_of_ne (Ne.symm ne)] at hi
        exact hi

end Pool

/-! ## Positions in a schedule -/

section Position

variable {env : σ → Event Ops Ans → σ → Prop}

/-- A property of the position in a schedule which every step carries on holds at its end, if it holds
at its start. -/
lemma Accepts.along {sched : Schedule ι Ops Ans} {s s' : σ}
    (h : Accepts env s (sched.map Prod.snd) s')
    {J : Schedule ι Ops Ans → Schedule ι Ops Ans → σ → Prop} (start : J [] sched s)
    (step : ∀ done i e rest s1 s2, sched = done ++ (i, e) :: rest →
      Accepts env s (done.map Prod.snd) s1 → env s1 e s2 → J done ((i, e) :: rest) s1 →
      J (done ++ [(i, e)]) rest s2) :
    J sched [] s' := by
  -- the induction is on what is left of the schedule
  have run : ∀ rest done s1, sched = done ++ rest → Accepts env s (done.map Prod.snd) s1 →
      J done rest s1 → Accepts env s1 (rest.map Prod.snd) s' → J sched [] s' := by
    intro rest
    induction rest with
    | nil =>
      intro done s1 eq _ hJ acc
      obtain rfl := accepts_nil.mp acc
      rw [List.append_nil] at eq
      rw [eq]
      exact hJ
    | cons d rest ih =>
      intro done s1 eq pre hJ acc
      obtain ⟨i, e⟩ := d
      obtain ⟨s2, st, acc⟩ := accepts_cons.mp acc
      refine ih (done ++ [(i, e)]) s2 ?_ ?_ (step done i e rest s1 s2 eq pre st hJ) acc
      · rw [eq, List.append_assoc, List.singleton_append]
      · rw [List.map_append]
        exact accepts_append.mpr ⟨s1, pre, .cons st (.nil s2)⟩
  exact run sched [] s rfl (.nil s) start h

/-- What holds of every event the environment takes part in holds of every accepted event. -/
lemma Accepts.forall_mem {P : Event Ops Ans → Prop} (step : ∀ s e s', env s e s' → P e) {s s' : σ}
    {tr : List (Event Ops Ans)} (h : Accepts env s tr s') : ∀ e ∈ tr, P e := by
  induction h with
  | nil => exact nofun
  | cons st _ ih =>
    intro e he
    rcases List.mem_cons.mp he with rfl | he
    · exact step _ _ _ st
    · exact ih e he

variable [DecidableEq ι]

/-- A split of the events of a program comes from a split of the schedule. -/
lemma events_split {i : ι} {e : Event Ops Ans} {a b : List (Event Ops Ans)}
    {sched : Schedule ι Ops Ans} (h : Schedule.events i sched = a ++ e :: b) :
    ∃ pre post, sched = pre ++ (i, e) :: post ∧ Schedule.events i pre = a ∧
      Schedule.events i post = b := by
  induction sched generalizing a with
  | nil => cases a <;> cases h
  | cons d sched ih =>
    obtain ⟨j, d⟩ := d
    by_cases eq : j = i
    · subst eq
      rw [events_cons_self] at h
      cases a with
      | nil =>
        cases h
        exact ⟨[], sched, rfl, rfl, rfl⟩
      | cons x a =>
        rw [List.cons_append] at h
        injection h with h1 h2
        subst h1
        obtain ⟨pre, post, rfl, rfl, rfl⟩ := ih h2
        exact ⟨(j, d) :: pre, post, rfl, events_cons_self j d pre, rfl⟩
    · rw [events_cons_of_ne eq] at h
      obtain ⟨pre, post, rfl, rfl, rfl⟩ := ih h
      exact ⟨(j, d) :: pre, post, rfl, events_cons_of_ne eq d pre, rfl⟩

end Position

/-! ## Cells -/

/-- A part of the state which some events read and some events write. -/
structure Cell (env : σ → Event Ops Ans → σ → Prop) (τ : Type) where
  value : σ → τ
  reads : Event Ops Ans → Option τ
  writes : Event Ops Ans → Option τ
  read_value : ∀ s e s' v, env s e s' → reads e = some v → v = value s
  write_value : ∀ s e s', env s e s' → value s' = (writes e).getD (value s)
  /-- no event both reads and writes -/
  read_quiet : ∀ e v, reads e = some v → writes e = none

namespace Cell

variable {env : σ → Event Ops Ans → σ → Prop} {τ : Type} (cell : Cell env τ)

/-- A list of events ends with the cell holding `v`, which was read and not written since. -/
def Holds (v : τ) (tr : List (Event Ops Ans)) : Prop :=
  ∃ a r b, tr = a ++ r :: b ∧ cell.reads r = some v ∧ ∀ e ∈ b, cell.writes e = none

variable {cell}

/-- Events which do not write the cell leave its value. -/
lemma value_eq_of_quiet {s s' : σ} {tr : List (Event Ops Ans)} (h : Accepts env s tr s')
    (quiet : ∀ e ∈ tr, cell.writes e = none) : cell.value s' = cell.value s := by
  induction h with
  | nil => rfl
  | @cons s s1 s' e tr st _ ih =>
    rw [ih fun e he => quiet e (List.mem_cons_of_mem _ he), cell.write_value s e s1 st,
      quiet e (List.mem_cons_self ..)]
    rfl

/-- The cell holds what was written last. -/
lemma value_eq_last (cell : Cell env τ) {s s' : σ} {tr : List (Event Ops Ans)} {v : τ} (h : Accepts env s tr s')
    (last : (tr.filterMap cell.writes).getLast? = some v) : cell.value s' = v := by
  induction h with
  | nil => cases last
  | @cons s s1 s' e tr st acc ih =>
    cases rest : (tr.filterMap cell.writes).getLast? with
    | some w =>
      cases we : cell.writes e with
      | none =>
        rw [List.filterMap_cons_none we] at last
        exact ih last
      | some x =>
        rw [List.filterMap_cons_some we, List.getLast?_cons, rest] at last
        exact ih (rest.trans last)
    | none =>
      have quiet : tr.filterMap cell.writes = [] := List.getLast?_eq_none_iff.mp rest
      rw [value_eq_of_quiet acc (List.filterMap_eq_nil_iff.mp quiet), cell.write_value s e s1 st]
      cases we : cell.writes e with
      | none =>
        rw [List.filterMap_cons_none we, quiet] at last
        cases last
      | some x =>
        rw [List.filterMap_cons_some we, quiet] at last
        cases last
        rfl

variable [DecidableEq ι]

/-- No other program writes the cell between a read of a program and a later event of it for which `uses`
holds. -/
def Undisturbed (cell : Cell env τ) (uses : Event Ops Ans → Prop) (sched : Schedule ι Ops Ans) : Prop :=
  ∀ i j r w e, [(i, r), (j, w), (i, e)].Sublist sched → (cell.reads r).isSome → (cell.writes w).isSome →
    uses e → j = i

/-- When a program uses the value it has read and has not written since, the cell still has it. -/
lemma current {uses : Event Ops Ans → Prop} {sched done rest : Schedule ι Ops Ans} {i : ι}
    {e : Event Ops Ans} {s s1 : σ} {v : τ} (undisturbed : cell.Undisturbed uses sched)
    (eq : sched = done ++ (i, e) :: rest) (h : Accepts env s (done.map Prod.snd) s1) (use : uses e)
    (holds : cell.Holds v (Schedule.events i done)) : cell.value s1 = v := by
  obtain ⟨a, r, b, split, read, quiet⟩ := holds
  obtain ⟨pre, post, rfl, _, rfl⟩ := events_split split
  rw [List.map_append, List.map_cons] at h
  obtain ⟨s2, _, h2⟩ := accepts_append.mp h
  obtain ⟨s3, st, h3⟩ := accepts_cons.mp h2
  -- since the read, no program has written: neither this one nor any other
  have noWrite : ∀ d ∈ post.map Prod.snd, cell.writes d = none := by
    intro d hd
    obtain ⟨⟨j, d⟩, mem, rfl⟩ := List.mem_map.mp hd
    cases w : cell.writes d with
    | none => rfl
    | some x =>
      have sub : [(i, r), (j, d), (i, e)].Sublist sched := by
        rw [eq, List.append_assoc]
        refine List.Sublist.trans ?_ (List.sublist_append_right pre _)
        refine List.Sublist.cons_cons _ ?_
        exact List.Sublist.append (List.singleton_sublist.mpr mem)
          (List.singleton_sublist.mpr (List.mem_cons_self ..))
      have own : j = i := undisturbed i j r d e sub (by rw [read]; rfl) (by rw [w]; rfl) use
      subst own
      have none := quiet d (mem_events.mpr mem)
      rw [none] at w
      cases w
  rw [value_eq_of_quiet h3 noWrite, cell.write_value s2 r s3 st, cell.read_quiet r v read]
  exact (cell.read_value s2 r s3 v st read).symm

end Cell

/-! ## The last writer -/

section LastWriter

variable {τ : Type} (writes : Event Ops Ans → Option τ)

/-- The program which has asked an event, if the event writes. -/
def writer (d : ι × Event Ops Ans) : Option ι := (writes d.2).map fun _ => d.1

/-- The program which was the last to write. -/
def lastWriter (sched : Schedule ι Ops Ans) : Option ι := (sched.filterMap (writer writes)).getLast?

variable {writes} {sched : Schedule ι Ops Ans} {i : ι} {e : Event Ops Ans}

lemma writer_of_write {v : τ} (w : writes e = some v) : writer writes (i, e) = some i := by
  rw [writer, w]
  rfl

lemma lastWriter_concat_of_write {v : τ} (w : writes e = some v) :
    lastWriter writes (sched ++ [(i, e)]) = some i := by
  rw [lastWriter, List.filterMap_append, List.filterMap_cons_some (writer_of_write w),
    List.filterMap_nil, List.getLast?_concat]

lemma lastWriter_concat_of_quiet (q : writes e = none) :
    lastWriter writes (sched ++ [(i, e)]) = lastWriter writes sched := by
  have head : writer writes (i, e) = none := by rw [writer, q]; rfl
  rw [lastWriter, List.filterMap_append, List.filterMap_cons_none head, List.filterMap_nil,
    List.append_nil]
  rfl

/-- Where something is written, there is a last writer. -/
lemma exists_lastWriter (mem : (i, e) ∈ sched) (w : (writes e).isSome) :
    ∃ j, lastWriter writes sched = some j := by
  apply Option.isSome_iff_exists.mp
  rw [lastWriter, List.getLast?_isSome]
  apply List.ne_nil_of_mem
  obtain ⟨v, w⟩ := Option.isSome_iff_exists.mp w
  exact List.mem_filterMap.mpr ⟨(i, e), mem, writer_of_write w⟩

/-- The last writer has written. -/
lemma lastWriter_mem (last : lastWriter writes sched = some i) :
    ∃ d, (i, d) ∈ sched ∧ (writes d).isSome := by
  obtain ⟨⟨j, d⟩, mem, eq⟩ := List.mem_filterMap.mp (List.mem_of_getLast? last)
  obtain ⟨v, w, eq⟩ := Option.map_eq_some_iff.mp eq
  subst eq
  exact ⟨d, mem, Option.isSome_of_eq_some w⟩

/-- What is written last is written after all that comes before. -/
lemma lastWriter_append {sched1 sched2 : Schedule ι Ops Ans} (mem : (i, e) ∈ sched2)
    (w : (writes e).isSome) :
    lastWriter writes (sched1 ++ sched2) = lastWriter writes sched2 := by
  obtain ⟨j, last⟩ := exists_lastWriter mem w
  rw [last]
  rw [lastWriter] at last
  rw [lastWriter, List.filterMap_append, List.getLast?_append, last]
  rfl

variable [DecidableEq ι]

/-- What the last writer has written last is what was written last. -/
lemma lastWriter_events (last : lastWriter writes sched = some i) :
    ((Schedule.events i sched).filterMap writes).getLast? =
      ((sched.map Prod.snd).filterMap writes).getLast? := by
  induction sched using List.reverseRecOn with
  | nil => cases last
  | append_singleton sched d ih =>
    obtain ⟨j, d⟩ := d
    rw [events_append, List.map_append, List.filterMap_append, List.filterMap_append]
    cases w : writes d with
    | some v =>
      rw [lastWriter_concat_of_write w] at last
      cases last
      rw [events_cons_self, events_nil, List.map_singleton, List.filterMap_cons_some w,
        List.filterMap_nil, List.getLast?_concat, List.getLast?_concat]
    | none =>
      rw [lastWriter_concat_of_quiet w] at last
      have quiet : (Schedule.events i [(j, d)]).filterMap writes = [] := by
        apply List.filterMap_eq_nil_iff.mpr
        intro d' hd'
        cases List.mem_singleton.mp (mem_events.mp hd')
        exact w
      rw [quiet, List.append_nil, List.map_singleton, List.filterMap_cons_none w, List.filterMap_nil,
        List.append_nil]
      exact ih last

end LastWriter

/-- A list splits in one way at an element of its kind, when there is no other of that kind. -/
lemma split_unique {β : Type} {P : β → Prop} {a b l1 l2 : List β} {e x : β}
    (h : a ++ e :: b = l1 ++ x :: l2) (pe : P e) (h1 : ∀ d ∈ l1, ¬ P d) (h2 : ∀ d ∈ l2, ¬ P d) :
    a = l1 ∧ e = x ∧ b = l2 := by
  induction l1 generalizing a with
  | nil =>
    cases a with
    | nil =>
      cases h
      exact ⟨rfl, rfl, rfl⟩
    | cons y a =>
      injection h with _ h
      exact absurd pe (h2 e (h ▸ List.mem_append_right a (List.mem_cons_self ..)))
  | cons y l1 ih =>
    cases a with
    | nil =>
      injection h with h _
      exact absurd pe (h1 e (h ▸ List.mem_cons_self ..))
    | cons z a =>
      injection h with hz h
      obtain ⟨rfl, rfl, rfl⟩ := ih h fun d hd => h1 d (List.mem_cons_of_mem y hd)
      exact ⟨by rw [hz], rfl, rfl⟩

/-- A sublist whose last element is not in the second part of a list is a sublist of the first. -/
lemma sublist_left_of_not_mem {β : Type} {l l1 l2 : List β} {x : β} (h : (l ++ [x]).Sublist (l1 ++ l2))
    (last : x ∉ l2) : (l ++ [x]).Sublist l1 := by
  obtain ⟨a, b, eq, ha, hb⟩ := List.sublist_append_iff.mp h
  rcases List.eq_nil_or_concat b with rfl | ⟨b, y, rfl⟩
  · rw [eq, List.append_nil]
    exact ha
  · rw [List.concat_eq_append] at eq hb
    rw [← List.append_assoc] at eq
    obtain ⟨_, eq⟩ := List.append_inj' eq rfl
    cases eq
    exact absurd (hb.subset (List.mem_append_right b (List.mem_singleton_self x))) last

end UserPortal.Interaction
