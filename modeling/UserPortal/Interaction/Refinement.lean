import UserPortal.Interaction.Program

/-!
# Programs and what they are served

`Ensures` is what holds once a program has run against an environment, with a rule for each way to build a program.
A system which answers one request after the other refines a specification when each of its requests does:
`Simulates.run`.
-/

namespace UserPortal.Interaction.Program

variable {Ops : Type} {Ans : Ops → Type} {α β ε σ : Type} {env : σ → Event Ops Ans → σ → Prop} {s : σ}

/-- Whenever `p` has run from the state `s` of the environment, its result and the state reached satisfy `Q`. -/
def Ensures (env : σ → Event Ops Ans → σ → Prop) (Q : σ → α → Prop) (s : σ) (p : Program Ops Ans α) : Prop :=
  ∀ tr a s', Trace p tr a → Accepts env s tr s' → Q s' a

namespace Ensures

variable {Q : σ → α → Prop} {R : σ → β → Prop}

lemma pure {a : α} (h : Q s a) : Ensures env Q s (Pure.pure a : Program Ops Ans α) := by
  intro tr b s' run served
  obtain ⟨rfl, rfl⟩ := trace_pure.mp run
  obtain rfl := accepts_nil.mp served
  exact h

lemma bind {p : Program Ops Ans α} {f : α → Program Ops Ans β}
    (h : Ensures env (fun s a => Ensures env R s (f a)) s p) : Ensures env R s (p >>= f) := by
  intro tr b s' run served
  obtain ⟨tr1, tr2, a, rfl, run1, run2⟩ := trace_bind.mp run
  obtain ⟨s1, served1, served2⟩ := accepts_append.mp served
  exact h tr1 a s1 run1 served1 tr2 b s' run2 served2

/-- A program which asks nothing leaves the environment as it is. -/
lemma of_quiet {P : α → Prop} {p : Program Ops Ans α} (h : ∀ tr a, Trace p tr a → tr = [] ∧ P a) :
    Ensures env (fun s' a => s' = s ∧ P a) s p := by
  intro tr a s' run served
  obtain ⟨rfl, holds⟩ := h tr a run
  exact ⟨accepts_nil.mp served, holds⟩

lemma mono {Q' : σ → α → Prop} {p : Program Ops Ans α} (h : Ensures env Q s p) (le : ∀ s a, Q s a → Q' s a) :
    Ensures env Q' s p :=
  fun tr a s' run served => le s' a (h tr a s' run served)

lemma ite {c : Prop} [Decidable c] {p q : Program Ops Ans α} (hp : c → Ensures env Q s p)
    (hq : ¬ c → Ensures env Q s q) : Ensures env Q s (if c then p else q) := by
  split
  case isTrue h => exact hp h
  case isFalse h => exact hq h

variable {E : σ → Except ε α → Prop} {F : σ → Except ε β → Prop}

lemma attempt_pure {a : α} (h : E s (.ok a)) :
    Ensures env E s (Pure.pure a : ExceptT ε (Program Ops Ans) α).run := by
  intro tr r s' run served
  obtain ⟨rfl, rfl⟩ := trace_attempt_pure.mp run
  obtain rfl := accepts_nil.mp served
  exact h

lemma attempt_throw {e : ε} (h : E s (.error e)) :
    Ensures env E s (throw e : ExceptT ε (Program Ops Ans) α).run := by
  intro tr r s' run served
  obtain ⟨rfl, rfl⟩ := trace_attempt_throw.mp run
  obtain rfl := accepts_nil.mp served
  exact h

lemma attempt_ite {c : Prop} [Decidable c] {x y : ExceptT ε (Program Ops Ans) α} (hx : c → Ensures env E s x.run)
    (hy : ¬ c → Ensures env E s y.run) : Ensures env E s (if c then x else y : ExceptT ε (Program Ops Ans) α).run := by
  split
  case isTrue h => exact hx h
  case isFalse h => exact hy h

/-- The rest runs from where the first part has ended, unless that has thrown. -/
lemma attempt_bind {x : ExceptT ε (Program Ops Ans) α} {f : α → ExceptT ε (Program Ops Ans) β}
    (h : Ensures env (fun s r => (∀ e, r = .error e → F s (.error e)) ∧
      ∀ a, r = .ok a → Ensures env F s (f a).run) s x.run) :
    Ensures env F s (x >>= f).run := by
  intro tr r s' run served
  rcases trace_attempt_bind.mp run with ⟨e, rfl, run1⟩ | ⟨tr1, tr2, a, rfl, run1, run2⟩
  · exact (h tr _ s' run1 served).1 e rfl
  · obtain ⟨s1, served1, served2⟩ := accepts_append.mp served
    exact (h tr1 _ s1 run1 served1).2 a rfl tr2 r s' run2 served2

lemma attempt_lift_bind {p : Program Ops Ans α} {f : α → ExceptT ε (Program Ops Ans) β}
    (h : Ensures env (fun s a => Ensures env F s (f a).run) s p) :
    Ensures env F s ((liftM p : ExceptT ε (Program Ops Ans) α) >>= f).run := by
  intro tr r s' run served
  obtain ⟨tr1, tr2, a, rfl, run1, run2⟩ := trace_attempt_lift_bind.mp run
  obtain ⟨s1, served1, served2⟩ := accepts_append.mp served
  exact h tr1 a s1 run1 served1 tr2 r s' run2 served2

end Ensures

/-! ## Requests one after the other -/

section Requests

variable {Req Sent Spec : Type}

/-- Requests which are answered one after the other. -/
inductive Visits (answers : Req → List (Event Ops Ans) → Sent → Prop) :
    List Req → List (Event Ops Ans) → List Sent → Prop where
  | nil : Visits answers [] [] []
  | cons {request : Req} {requests : List Req} {tr tr' : List (Event Ops Ans)} {sent : Sent}
    {others : List Sent} :
    answers request tr sent → Visits answers requests tr' others →
    Visits answers (request :: requests) (tr ++ tr') (sent :: others)

/-- What a specification makes of requests and their answers, one after the other. -/
inductive SpecRuns (turns : Req → Spec → Sent → Spec → Prop) :
    Spec → List Req → List Sent → Spec → Prop where
  | nil (a : Spec) : SpecRuns turns a [] [] a
  | cons {a a1 a2 : Spec} {request : Req} {requests : List Req} {sent : Sent} {others : List Sent} :
    turns request a sent a1 → SpecRuns turns a1 requests others a2 →
    SpecRuns turns a (request :: requests) (sent :: others) a2

/-- Each request, whatever the environment takes part in, is one turn of the specification. -/
def Simulates (env : σ → Event Ops Ans → σ → Prop) (answers : Req → List (Event Ops Ans) → Sent → Prop)
    (turns : Req → Spec → Sent → Spec → Prop) (rep : Spec → σ → Prop) : Prop :=
  ∀ request tr sent a s s', rep a s → answers request tr sent → Accepts env s tr s' →
    ∃ a', turns request a sent a' ∧ rep a' s'

variable {answers : Req → List (Event Ops Ans) → Sent → Prop} {turns : Req → Spec → Sent → Spec → Prop}
  {rep : Spec → σ → Prop}

/-- Any run of requests is a run of the specification. -/
lemma Simulates.run {requests : List Req} {tr : List (Event Ops Ans)} {sents : List Sent} {a : Spec} {s s' : σ}
    (simulates : Simulates env answers turns rep) (related : rep a s) (visits : Visits answers requests tr sents)
    (served : Accepts env s tr s') : ∃ a', SpecRuns turns a requests sents a' ∧ rep a' s' := by
  induction visits generalizing a s with
  | nil =>
    obtain rfl := accepts_nil.mp served
    exact ⟨a, .nil a, related⟩
  | cons answered _ ih =>
    obtain ⟨s1, served1, served2⟩ := accepts_append.mp served
    obtain ⟨a1, turn, related1⟩ := simulates _ _ _ _ _ _ related answered served1
    obtain ⟨a', runs, related'⟩ := ih related1 served2
    exact ⟨a', .cons turn runs, related'⟩

/-- What every turn keeps, a run keeps. -/
lemma SpecRuns.keeps {I : Spec → Prop} {requests : List Req} {sents : List Sent} {a a' : Spec}
    (runs : SpecRuns turns a requests sents a') (turn : ∀ request a sent a', turns request a sent a' → I a → I a')
    (start : I a) : I a' := by
  induction runs with
  | nil => exact start
  | cons first _ ih => exact ih (turn _ _ _ _ first start)

end Requests

end UserPortal.Interaction.Program
