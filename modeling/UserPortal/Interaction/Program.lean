import Mathlib.Logic.Function.Basic
import Mathlib.Tactic.Common

/-!
# Interaction programs

Programs over an operation signature: `Ops` is the type of operations and `Ans op` the type of the
answers of `op`. A program either returns or asks one operation and resumes on whatever is answered.

* `Program.Trace p tr a`: some answers make `p` ask exactly the events of `tr` and return `a`.
* `Program.Asks P p`: whatever is answered, `p` only asks events of `P`.
* `Program.replay`: the traces of a program, computed.
* `Accepts env s tr s'`: an environment, given as a labelled relation on its states, can take part
  in the events of `tr` from `s` to `s'`.

A property of all traces holds whatever the environment answers; a property of an environment is
brought in through `Accepts`.
-/

namespace UserPortal.Interaction

/-- Programs which ask operations and resume on their answers. -/
inductive Program (Ops : Type) (Ans : Ops → Type) (α : Type) : Type where
  | ret : α → Program Ops Ans α
  | ask (op : Ops) : (Ans op → Program Ops Ans α) → Program Ops Ans α

/-- An operation together with its answer. -/
abbrev Event (Ops : Type) (Ans : Ops → Type) := (op : Ops) × Ans op

namespace Program

variable {Ops : Type} {Ans : Ops → Type} {α β γ : Type}

/-- Sequential composition. -/
def bind : Program Ops Ans α → (α → Program Ops Ans β) → Program Ops Ans β
  | .ret a, f => f a
  | .ask op k, f => .ask op fun x => bind (k x) f

/-- Ask one operation and return its answer. -/
def perform (op : Ops) : Program Ops Ans (Ans op) := .ask op .ret

instance : Monad (Program Ops Ans) where
  pure := .ret
  bind := bind

@[simp] lemma ret_bind (a : α) (f : α → Program Ops Ans β) :
    (Program.ret a : Program Ops Ans α) >>= f = f a := rfl

@[simp] lemma pure_eq (a : α) : (pure a : Program Ops Ans α) = .ret a := rfl

@[simp] lemma ask_bind (op : Ops) (k : Ans op → Program Ops Ans α) (f : α → Program Ops Ans β) :
    Program.ask op k >>= f = .ask op fun x => k x >>= f := rfl

@[simp] lemma perform_bind (op : Ops) (f : Ans op → Program Ops Ans β) :
    (perform op : Program Ops Ans (Ans op)) >>= f = .ask op f := rfl

/-- Programs are run one after the other. -/
lemma bind_assoc (p : Program Ops Ans α) (f : α → Program Ops Ans β) (g : β → Program Ops Ans γ) :
    p >>= f >>= g = p >>= fun a => f a >>= g := by
  induction p with
  | ret a => rfl
  | ask op k ih =>
    simp only [ask_bind]
    congr 1
    funext x
    exact ih x

/-- `Trace p tr a`: answering the operations of `p` as in `tr` makes it return `a`. -/
inductive Trace : Program Ops Ans α → List (Event Ops Ans) → α → Prop where
  | ret (a : α) : Trace (.ret a) [] a
  | ask {op : Ops} {k : Ans op → Program Ops Ans α} {tr : List (Event Ops Ans)} {a : α} (x : Ans op) :
    Trace (k x) tr a →
    Trace (.ask op k) (⟨op, x⟩ :: tr) a

@[simp] lemma trace_ret {a b : α} {tr : List (Event Ops Ans)} :
    Trace (.ret a : Program Ops Ans α) tr b ↔ tr = [] ∧ b = a := by
  refine ⟨?_, ?_⟩
  · intro h
    cases h
    exact ⟨rfl, rfl⟩
  · rintro ⟨rfl, rfl⟩
    exact .ret _

@[simp] lemma trace_pure {a b : α} {tr : List (Event Ops Ans)} :
    Trace (pure a : Program Ops Ans α) tr b ↔ tr = [] ∧ b = a := trace_ret

/-- A question is the first event, whose answer leads to the rest. -/
lemma trace_ask {op : Ops} {k : Ans op → Program Ops Ans α} {tr : List (Event Ops Ans)} {a : α} :
    Trace (.ask op k) tr a ↔ ∃ x rest, tr = ⟨op, x⟩ :: rest ∧ Trace (k x) rest a := by
  refine ⟨?_, ?_⟩
  · intro h
    cases h with
    | ask x h => exact ⟨x, _, rfl, h⟩
  · rintro ⟨x, rest, rfl, h⟩
    exact .ask x h

/-- A trace of a composition splits into a trace of each part. -/
lemma trace_bind {p : Program Ops Ans α} {f : α → Program Ops Ans β}
    {tr : List (Event Ops Ans)} {b : β} :
    Trace (p >>= f) tr b ↔ ∃ tr1 tr2 a, tr = tr1 ++ tr2 ∧ Trace p tr1 a ∧ Trace (f a) tr2 b := by
  induction p generalizing tr with
  | ret a =>
    refine ⟨?_, ?_⟩
    · intro h
      exact ⟨[], tr, a, rfl, .ret a, h⟩
    · rintro ⟨tr1, tr2, a', rfl, h1, h2⟩
      obtain ⟨rfl, rfl⟩ := trace_ret.mp h1
      exact h2
  | ask op k ih =>
    rw [ask_bind, trace_ask]
    refine ⟨?_, ?_⟩
    · rintro ⟨x, rest, rfl, h⟩
      obtain ⟨tr1, tr2, a, rfl, h1, h2⟩ := (ih x).mp h
      exact ⟨⟨op, x⟩ :: tr1, tr2, a, rfl, .ask x h1, h2⟩
    · rintro ⟨tr1, tr2, a, rfl, h1, h2⟩
      obtain ⟨x, rest, rfl, h3⟩ := trace_ask.mp h1
      exact ⟨x, rest ++ tr2, rfl, (ih x).mpr ⟨rest, tr2, a, rfl, h3, h2⟩⟩

/-- A question alone is one event. -/
lemma trace_perform {op : Ops} {tr : List (Event Ops Ans)} {x : Ans op} :
    Trace (perform op) tr x ↔ tr = [⟨op, x⟩] := by
  refine ⟨?_, ?_⟩
  · intro h
    obtain ⟨y, rest, rfl, ends⟩ := trace_ask.mp h
    obtain ⟨rfl, rfl⟩ := trace_ret.mp ends
    rfl
  · rintro rfl
    exact .ask x (.ret x)

/-- A trace of an operation followed by a continuation starts with that operation. -/
lemma trace_perform_bind {op : Ops} {f : Ans op → Program Ops Ans β}
    {tr : List (Event Ops Ans)} {b : β} :
    Trace (perform op >>= f) tr b ↔ ∃ x rest, tr = ⟨op, x⟩ :: rest ∧ Trace (f x) rest b :=
  trace_ask

/-- A continuation which asks nothing adds nothing to a trace. -/
lemma trace_of_bind {p : Program Ops Ans α} {f : α → Program Ops Ans β}
    {tr : List (Event Ops Ans)} {b : β} (h : Trace (p >>= f) tr b)
    (quiet : ∀ a tr2, Trace (f a) tr2 b → tr2 = []) : ∃ a, Trace p tr a := by
  obtain ⟨tr1, tr2, a, rfl, h1, h2⟩ := trace_bind.mp h
  obtain rfl := quiet a tr2 h2
  rw [List.append_nil]
  exact ⟨a, h1⟩

/-- The answers in a trace determine what the program returns. -/
lemma Trace.unique {p : Program Ops Ans α} {tr : List (Event Ops Ans)} {a b : α}
    (h1 : Trace p tr a) (h2 : Trace p tr b) : a = b := by
  induction h1 with
  | ret a => exact (trace_ret.mp h2).2.symm
  | ask x _ ih =>
    cases h2 with
    | ask _ h => exact ih h

/-- What a program asks does not end earlier in one run than in another. -/
lemma Trace.eq_of_before {p : Program Ops Ans α} {tr1 tr2 : List (Event Ops Ans)} {a b : α}
    (h1 : Trace p tr1 a) (h2 : Trace p tr2 b) (le : tr1 <+: tr2) : tr1 = tr2 ∧ a = b := by
  induction h1 generalizing tr2 with
  | ret a =>
    obtain ⟨rfl, rfl⟩ := trace_ret.mp h2
    exact ⟨rfl, rfl⟩
  | @ask op k tr a x _ ih =>
    obtain ⟨y, rest, rfl, after⟩ := trace_ask.mp h2
    obtain ⟨eq, shorter⟩ := List.cons_prefix_cons.mp le
    cases eq
    obtain ⟨rfl, rfl⟩ := ih after shorter
    exact ⟨rfl, rfl⟩

/-- A program ends at one place of a list of events. -/
lemma Trace.prefix_unique {p : Program Ops Ans α} {tr tr1 tr2 : List (Event Ops Ans)} {a b : α}
    (h1 : Trace p tr1 a) (h2 : Trace p tr2 b) (le1 : tr1 <+: tr) (le2 : tr2 <+: tr) :
    tr1 = tr2 ∧ a = b := by
  rcases List.prefix_or_prefix_of_prefix le1 le2 with le | le
  · exact h1.eq_of_before h2 le
  · obtain ⟨rfl, rfl⟩ := h2.eq_of_before h1 le
    exact ⟨rfl, rfl⟩

/-! ## Attempts -/

section Attempt

variable {ε : Type} {tr : List (Event Ops Ans)}

/-- An attempt ends where its first part throws, or goes on with what it returns. -/
lemma trace_attempt_bind {x : ExceptT ε (Program Ops Ans) α} {f : α → ExceptT ε (Program Ops Ans) β}
    {r : Except ε β} :
    Trace (x >>= f).run tr r ↔
      (∃ e, r = .error e ∧ Trace x.run tr (.error e)) ∨
      ∃ tr1 tr2 a, tr = tr1 ++ tr2 ∧ Trace x.run tr1 (.ok a) ∧ Trace (f a).run tr2 r := by
  have eq : (x >>= f).run = x.run >>= fun
    | .ok a => (f a).run
    | .error e => .ret (.error e) := by
    rw [ExceptT.run_bind]
    congr 1
    funext r
    cases r with
    | ok a => rfl
    | error e => rfl
  rw [eq, trace_bind]
  refine ⟨?_, ?_⟩
  · rintro ⟨tr1, tr2, a, rfl, h1, h2⟩
    cases a with
    | ok a => exact .inr ⟨tr1, tr2, a, rfl, h1, h2⟩
    | error e =>
      obtain ⟨rfl, rfl⟩ := trace_ret.mp h2
      exact .inl ⟨e, rfl, by simpa using h1⟩
  · rintro (⟨e, rfl, h1⟩ | ⟨tr1, tr2, a, rfl, h1, h2⟩)
    · exact ⟨tr, [], .error e, by simp, h1, .ret _⟩
    · exact ⟨tr1, tr2, .ok a, rfl, h1, h2⟩

/-- An attempt which succeeds goes through all its parts. -/
lemma trace_attempt_bind_ok {x : ExceptT ε (Program Ops Ans) α}
    {f : α → ExceptT ε (Program Ops Ans) β} {b : β} :
    Trace (x >>= f).run tr (.ok b) ↔
      ∃ tr1 tr2 a, tr = tr1 ++ tr2 ∧ Trace x.run tr1 (.ok a) ∧ Trace (f a).run tr2 (.ok b) := by
  rw [trace_attempt_bind]
  refine ⟨?_, ?_⟩
  · rintro (⟨e, eq, _⟩ | h)
    · cases eq
    · exact h
  · exact .inr

/-- An attempt whose first part cannot throw goes on with what it returns. -/
lemma trace_attempt_bind_of_ok {x : ExceptT ε (Program Ops Ans) α}
    {f : α → ExceptT ε (Program Ops Ans) β} {r : Except ε β} (h : Trace (x >>= f).run tr r)
    (ok : ∀ tr1 tr2 r1, tr = tr1 ++ tr2 → Trace x.run tr1 r1 → ∃ a, r1 = .ok a) :
    ∃ tr1 tr2 a, tr = tr1 ++ tr2 ∧ Trace x.run tr1 (.ok a) ∧ Trace (f a).run tr2 r := by
  rcases trace_attempt_bind.mp h with ⟨e, _, h1⟩ | h
  · obtain ⟨a, eq⟩ := ok tr [] _ (List.append_nil tr).symm h1
    cases eq
  · exact h

/-- An attempt goes on where its first part ends. -/
lemma trace_attempt_bind_of_before {x : ExceptT ε (Program Ops Ans) α}
    {f : α → ExceptT ε (Program Ops Ans) β} {r : Except ε β} {tr1 : List (Event Ops Ans)} {a : α}
    (h : Trace (x >>= f).run tr r) (h1 : Trace x.run tr1 (.ok a)) (le : tr1 <+: tr) :
    ∃ tr2, tr = tr1 ++ tr2 ∧ Trace (f a).run tr2 r := by
  rcases trace_attempt_bind.mp h with ⟨e, _, fails⟩ | ⟨pre, tr2, a', rfl, first, after⟩
  · cases (h1.eq_of_before fails le).2
  · obtain ⟨rfl, eq⟩ := h1.prefix_unique first le (List.prefix_append pre tr2)
    cases eq
    exact ⟨tr2, rfl, after⟩

/-- A program lifted to an attempt does not throw. -/
lemma trace_attempt_lift_bind {p : Program Ops Ans α} {f : α → ExceptT ε (Program Ops Ans) β}
    {r : Except ε β} :
    Trace ((liftM p : ExceptT ε (Program Ops Ans) α) >>= f).run tr r ↔
      ∃ tr1 tr2 a, tr = tr1 ++ tr2 ∧ Trace p tr1 a ∧ Trace (f a).run tr2 r := by
  have eq : ((liftM p : ExceptT ε (Program Ops Ans) α) >>= f).run = p >>= fun a => (f a).run := by
    have lift : (liftM p : ExceptT ε (Program Ops Ans) α).run = p >>= fun a => .ret (.ok a) := rfl
    rw [ExceptT.run_bind, lift, bind_assoc]
    rfl
  rw [eq, trace_bind]

/-- A program which cannot fail does not. -/
lemma trace_attempt_lift {p : Program Ops Ans α} {r : Except ε α} :
    Trace (liftM p : ExceptT ε (Program Ops Ans) α).run tr r ↔ ∃ a, r = .ok a ∧ Trace p tr a := by
  have eq : (liftM p : ExceptT ε (Program Ops Ans) α).run = p >>= fun a => .ret (.ok a) := rfl
  rw [eq, trace_bind]
  refine ⟨?_, ?_⟩
  · rintro ⟨tr1, tr2, a, rfl, h1, h2⟩
    obtain ⟨rfl, rfl⟩ := trace_ret.mp h2
    rw [List.append_nil]
    exact ⟨a, rfl, h1⟩
  · rintro ⟨a, rfl, h⟩
    exact ⟨tr, [], a, (List.append_nil tr).symm, h, .ret _⟩

/-- What is computed without asking anything is lifted to an attempt. -/
@[simp] lemma trace_attempt_except {x r : Except ε α} :
    Trace (liftM x : ExceptT ε (Program Ops Ans) α).run tr r ↔ tr = [] ∧ r = x := trace_ret

@[simp] lemma trace_attempt_pure {a : α} {r : Except ε α} :
    Trace (pure a : ExceptT ε (Program Ops Ans) α).run tr r ↔ tr = [] ∧ r = .ok a := trace_ret

@[simp] lemma trace_attempt_throw {e : ε} {r : Except ε α} :
    Trace (throw e : ExceptT ε (Program Ops Ans) α).run tr r ↔ tr = [] ∧ r = .error e := trace_ret

end Attempt

/-! ## What a program may ask -/

/-- Every event of a run of `p` satisfies `P`, whatever is answered. -/
def Asks (P : Event Ops Ans → Prop) (p : Program Ops Ans α) : Prop :=
  ∀ tr a, Trace p tr a → ∀ e ∈ tr, P e

namespace Asks

variable {P Q : Event Ops Ans → Prop} {ε : Type}

/-- Every event satisfies what is weaker. -/
lemma mono {p : Program Ops Ans α} (hp : Asks P p) (hPQ : ∀ e, P e → Q e) : Asks Q p :=
  fun tr a h e he => hPQ e (hp tr a h e he)

/-- A program which returns asks nothing. -/
lemma pure (a : α) : Asks P (pure a : Program Ops Ans α) := by
  intro tr b h
  obtain ⟨rfl, _⟩ := trace_pure.mp h
  exact nofun

/-- A question, and what follows its answer. -/
lemma perform_bind {op : Ops} {f : Ans op → Program Ops Ans β} (h1 : ∀ x, P ⟨op, x⟩)
    (hf : ∀ x, Asks P (f x)) : Asks P (perform op >>= f) := by
  intro tr b h e he
  obtain ⟨x, rest, rfl, h2⟩ := trace_perform_bind.mp h
  rcases List.mem_cons.mp he with rfl | he
  · exact h1 x
  · exact hf x rest b h2 e he

/-- Two programs, one after the other. -/
lemma bind {p : Program Ops Ans α} {f : α → Program Ops Ans β} (hp : Asks P p)
    (hf : ∀ a, Asks P (f a)) : Asks P (p >>= f) := by
  intro tr b h e he
  obtain ⟨tr1, tr2, a, rfl, h1, h2⟩ := trace_bind.mp h
  rcases List.mem_append.mp he with he | he
  · exact hp tr1 a h1 e he
  · exact hf a tr2 b h2 e he

/-- One of two programs. -/
lemma ite {c : Prop} [Decidable c] {p q : Program Ops Ans α} (hp : Asks P p) (hq : Asks P q) :
    Asks P (if c then p else q) := by
  split
  · exact hp
  · exact hq

/-- Steps which return ask nothing. -/
lemma attempt_pure (a : α) : Asks P (Pure.pure a : ExceptT ε (Program Ops Ans) α).run := by
  intro tr r h
  obtain ⟨rfl, _⟩ := trace_attempt_pure.mp h
  exact nofun

/-- Steps which fail ask nothing. -/
lemma attempt_throw (e : ε) : Asks P (throw e : ExceptT ε (Program Ops Ans) α).run := by
  intro tr r h
  obtain ⟨rfl, _⟩ := trace_attempt_throw.mp h
  exact nofun

/-- Steps, and those which follow unless they fail. -/
lemma attempt_bind {x : ExceptT ε (Program Ops Ans) α} {f : α → ExceptT ε (Program Ops Ans) β}
    (hx : Asks P x.run) (hf : ∀ a, Asks P (f a).run) : Asks P (x >>= f).run := by
  intro tr r h e he
  rcases trace_attempt_bind.mp h with ⟨err, _, h1⟩ | ⟨tr1, tr2, a, rfl, h1, h2⟩
  · exact hx tr _ h1 e he
  · rcases List.mem_append.mp he with he | he
    · exact hx tr1 _ h1 e he
    · exact hf a tr2 r h2 e he

/-- A program among steps. -/
lemma attempt_lift {p : Program Ops Ans α} (hp : Asks P p) :
    Asks P (liftM p : ExceptT ε (Program Ops Ans) α).run := by
  have lifted : Asks P (p >>= fun a => .ret (.ok a) : Program Ops Ans (Except ε α)) :=
    hp.bind fun a => .pure _
  exact lifted

/-- A program, and the steps which follow it. -/
lemma attempt_lift_bind {p : Program Ops Ans α} {f : α → ExceptT ε (Program Ops Ans) β}
    (hp : Asks P p) (hf : ∀ a, Asks P (f a).run) :
    Asks P ((liftM p : ExceptT ε (Program Ops Ans) α) >>= f).run := by
  intro tr r h e he
  obtain ⟨tr1, tr2, a, rfl, h1, h2⟩ := trace_attempt_lift_bind.mp h
  rcases List.mem_append.mp he with he | he
  · exact hp tr1 a h1 e he
  · exact hf a tr2 r h2 e he

end Asks

/-! ## Replaying a trace -/

section Replay

variable [DecidableEq Ops]

/-- Answer the operations of a program as in a list of events: what it returns, when it asks exactly
these events. -/
def replay : Program Ops Ans α → List (Event Ops Ans) → Option α
  | .ret a, [] => some a
  | .ret _, _ :: _ => none
  | .ask _ _, [] => none
  | .ask op k, e :: tr => if h : e.1 = op then replay (k (h ▸ e.2)) tr else none

/-- A list of events is a trace exactly when it can be replayed. -/
lemma trace_iff_replay {p : Program Ops Ans α} {tr : List (Event Ops Ans)} {a : α} :
    Trace p tr a ↔ replay p tr = some a := by
  refine ⟨?_, ?_⟩
  · intro h
    induction h with
    | ret a => rfl
    | ask x _ ih =>
      rw [replay, dif_pos rfl]
      exact ih
  · intro h
    induction p generalizing tr with
    | ret b =>
      cases tr with
      | nil =>
        cases h
        exact .ret a
      | cons e tr => cases h
    | ask op k ih =>
      cases tr with
      | nil => cases h
      | cons e tr =>
        obtain ⟨op', x⟩ := e
        rw [replay] at h
        split at h
        case isTrue eq =>
          cases eq
          exact .ask x (ih x h)
        case isFalse => cases h

end Replay

end Program

/-! ## Environments -/

section Environment

variable {Ops : Type} {Ans : Ops → Type} {σ : Type} {env : σ → Event Ops Ans → σ → Prop}

/-- `Accepts env s tr s'`: the environment can take part in the events of `tr` from `s` to `s'`. -/
inductive Accepts (env : σ → Event Ops Ans → σ → Prop) : σ → List (Event Ops Ans) → σ → Prop where
  | nil (s : σ) : Accepts env s [] s
  | cons {s s1 s' : σ} {e : Event Ops Ans} {tr : List (Event Ops Ans)} :
    env s e s1 →
    Accepts env s1 tr s' →
    Accepts env s (e :: tr) s'

/-- Without events, the environment stays. -/
@[simp] lemma accepts_nil {s s' : σ} : Accepts env s [] s' ↔ s' = s := by
  refine ⟨?_, ?_⟩
  · intro h
    cases h
    rfl
  · rintro rfl
    exact .nil _

/-- The environment takes one event after the other. -/
lemma accepts_cons {s s' : σ} {e : Event Ops Ans} {tr : List (Event Ops Ans)} :
    Accepts env s (e :: tr) s' ↔ ∃ s1, env s e s1 ∧ Accepts env s1 tr s' := by
  refine ⟨?_, ?_⟩
  · intro h
    cases h with
    | cons st h => exact ⟨_, st, h⟩
  · rintro ⟨s1, st, h⟩
    exact .cons st h

/-- Two parts are accepted one after the other. -/
lemma accepts_append {s s' : σ} {tr1 tr2 : List (Event Ops Ans)} :
    Accepts env s (tr1 ++ tr2) s' ↔ ∃ s1, Accepts env s tr1 s1 ∧ Accepts env s1 tr2 s' := by
  induction tr1 generalizing s with
  | nil => simp
  | cons e tr1 ih =>
    rw [List.cons_append, accepts_cons]
    refine ⟨?_, ?_⟩
    · rintro ⟨s1, st, h⟩
      obtain ⟨s2, h1, h2⟩ := ih.mp h
      exact ⟨s2, .cons st h1, h2⟩
    · rintro ⟨s2, h1, h2⟩
      obtain ⟨s1, st, h1⟩ := accepts_cons.mp h1
      exact ⟨s1, st, ih.mpr ⟨s2, h1, h2⟩⟩

/-- Events none of which moves the environment leave its state as it was. -/
lemma Accepts.eq_of_quiet {quiet : Event Ops Ans → Prop}
    (keep : ∀ s e s', quiet e → env s e s' → s' = s)
    {s s' : σ} {tr : List (Event Ops Ans)} (h : Accepts env s tr s') (hq : ∀ e ∈ tr, quiet e) :
    s' = s := by
  induction h with
  | nil => rfl
  | @cons s s1 s' e tr st _ ih =>
    have e1 := keep s e s1 (hq e (by simp)) st
    subst e1
    exact ih fun e' he' => hq e' (by simp [he'])

/-- Every event of a list is answered as `ok` says, where `next` is the state after an event. -/
def answers (ok : σ → Event Ops Ans → Bool) (next : σ → Event Ops Ans → σ) :
    σ → List (Event Ops Ans) → Bool
  | _, [] => true
  | s, e :: tr => ok s e && answers ok next (next s e) tr

/-- A list of events can be checked by computing the states. -/
lemma Accepts.of_answers {ok : σ → Event Ops Ans → Bool} {next : σ → Event Ops Ans → σ}
    (step : ∀ s e, ok s e = true → env s e (next s e)) {s : σ} {tr : List (Event Ops Ans)}
    (h : answers ok next s tr = true) : Accepts env s tr (tr.foldl next s) := by
  induction tr generalizing s with
  | nil => exact .nil s
  | cons e tr ih =>
    obtain ⟨ok, rest⟩ := Bool.and_eq_true_iff.mp h
    exact .cons (step s e ok) (ih rest)

end Environment

end UserPortal.Interaction
