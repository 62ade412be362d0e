import UserPortal.Interaction.Program

/-!
# What a program asks after what it was answered

`Asks` judges each event of a run alone. Here an event is judged together with the events before it, so that a
question can be required to be about something which an earlier answer named.
-/

namespace UserPortal.Interaction.Program

section Follows

variable {Ops : Type} {Ans : Ops → Type} {P : List (Event Ops Ans) → Event Ops Ans → Prop}

/-- Each of the events satisfies `P` after the events known and those before it. -/
inductive Follows (P : List (Event Ops Ans) → Event Ops Ans → Prop) :
    List (Event Ops Ans) → List (Event Ops Ans) → Prop where
  | nil (known : List (Event Ops Ans)) : Follows P known []
  | cons {known tr : List (Event Ops Ans)} {e : Event Ops Ans} :
    P known e → Follows P (known ++ [e]) tr → Follows P known (e :: tr)

namespace Follows

variable {known tr tr1 tr2 : List (Event Ops Ans)} {e : Event Ops Ans}

/-- One event after those known. -/
lemma singleton (h : P known e) : Follows P known [e] := .cons h (.nil _)

/-- Some events after others. -/
lemma append (h1 : Follows P known tr1) (h2 : Follows P (known ++ tr1) tr2) : Follows P known (tr1 ++ tr2) := by
  induction h1 with
  | nil known =>
    rw [List.append_nil] at h2
    exact h2
  | cons first rest ih =>
    rw [List.append_cons] at h2
    exact .cons first (ih h2)

/-- What holds of each event alone holds of it after any others. -/
lemma of_forall {Q : Event Ops Ans → Prop} (all : ∀ e ∈ tr, Q e) (enough : ∀ known e, Q e → P known e) :
    Follows P known tr := by
  induction tr generalizing known with
  | nil => exact .nil known
  | cons e tr ih =>
    obtain ⟨first, rest⟩ := List.forall_mem_cons.mp all
    exact .cons (enough known e first) (ih rest)

/-- What is weaker follows. -/
lemma mono {Q : List (Event Ops Ans) → Event Ops Ans → Prop} (h : Follows P known tr)
    (enough : ∀ known e, P known e → Q known e) : Follows Q known tr := by
  induction h with
  | nil known => exact .nil known
  | cons first _ ih => exact .cons (enough _ _ first) ih

/-- Any of the events satisfies `P` after those before it. -/
lemma split (h : Follows P known (tr1 ++ e :: tr2)) : P (known ++ tr1) e := by
  induction tr1 generalizing known with
  | nil =>
    cases h with
    | cons first _ =>
      rw [List.append_nil]
      exact first
  | cons e' tr1 ih =>
    cases h with
    | cons _ rest =>
      rw [List.append_cons]
      exact ih rest

end Follows

end Follows

section AsksAfter

variable {Ops : Type} {Ans : Ops → Type} {α β ε : Type} {P : List (Event Ops Ans) → Event Ops Ans → Prop}
  {known : List (Event Ops Ans)}

/-- Every event of a run of `p` satisfies `P` after the events known and those before it. -/
def AsksAfter (P : List (Event Ops Ans) → Event Ops Ans → Prop) (known : List (Event Ops Ans))
    (p : Program Ops Ans α) : Prop :=
  ∀ tr a, Trace p tr a → Follows P known tr

namespace AsksAfter

/-- A program asks what is weaker. -/
lemma mono {Q : List (Event Ops Ans) → Event Ops Ans → Prop} {p : Program Ops Ans α} (asks : AsksAfter P known p)
    (enough : ∀ known e, P known e → Q known e) : AsksAfter Q known p :=
  fun tr a h => (asks tr a h).mono enough

/-- A program which returns asks nothing. -/
lemma pure (a : α) : AsksAfter P known (Pure.pure a : Program Ops Ans α) := by
  intro tr b h
  obtain ⟨rfl, _⟩ := trace_pure.mp h
  exact .nil known

/-- What follows is asked after what was asked so far. -/
lemma bind {p : Program Ops Ans α} {f : α → Program Ops Ans β} (hp : AsksAfter P known p)
    (hf : ∀ tr a, Trace p tr a → AsksAfter P (known ++ tr) (f a)) : AsksAfter P known (p >>= f) := by
  intro tr b h
  obtain ⟨tr1, tr2, a, rfl, h1, h2⟩ := trace_bind.mp h
  exact (hp tr1 a h1).append (hf tr1 a h1 tr2 b h2)

/-- One of two programs, by a condition. -/
lemma ite {c : Prop} [Decidable c] {p q : Program Ops Ans α} (hp : c → AsksAfter P known p)
    (hq : ¬ c → AsksAfter P known q) : AsksAfter P known (if c then p else q) := by
  split
  case isTrue h => exact hp h
  case isFalse h => exact hq h

/-- Steps which return ask nothing. -/
lemma attempt_pure (a : α) : AsksAfter P known (Pure.pure a : ExceptT ε (Program Ops Ans) α).run := by
  intro tr r h
  obtain ⟨rfl, _⟩ := trace_attempt_pure.mp h
  exact .nil known

/-- Steps which fail ask nothing. -/
lemma attempt_throw (e : ε) : AsksAfter P known (throw e : ExceptT ε (Program Ops Ans) α).run := by
  intro tr r h
  obtain ⟨rfl, _⟩ := trace_attempt_throw.mp h
  exact .nil known

/-- What follows the steps is asked after what they have asked, unless they fail. -/
lemma attempt_bind {x : ExceptT ε (Program Ops Ans) α} {f : α → ExceptT ε (Program Ops Ans) β}
    (hx : AsksAfter P known x.run)
    (hf : ∀ tr a, Trace x.run tr (.ok a) → AsksAfter P (known ++ tr) (f a).run) :
    AsksAfter P known (x >>= f).run := by
  intro tr r h
  rcases trace_attempt_bind.mp h with ⟨err, _, h1⟩ | ⟨tr1, tr2, a, rfl, h1, h2⟩
  · exact hx tr _ h1
  · exact (hx tr1 _ h1).append (hf tr1 a h1 tr2 r h2)

/-- What follows a program is asked after what it has asked. -/
lemma attempt_lift_bind {p : Program Ops Ans α} {f : α → ExceptT ε (Program Ops Ans) β}
    (hp : AsksAfter P known p) (hf : ∀ tr a, Trace p tr a → AsksAfter P (known ++ tr) (f a).run) :
    AsksAfter P known ((liftM p : ExceptT ε (Program Ops Ans) α) >>= f).run := by
  intro tr r h
  obtain ⟨tr1, tr2, a, rfl, h1, h2⟩ := trace_attempt_lift_bind.mp h
  exact (hp tr1 a h1).append (hf tr1 a h1 tr2 r h2)

end AsksAfter

end AsksAfter

section Obtains

variable {Ops : Type} {Ans : Ops → Type} {α β ε : Type} {P : List (Event Ops Ans) → Event Ops Ans → Prop}
  {K : List (Event Ops Ans) → α → Prop} {L : List (Event Ops Ans) → β → Prop}
  {E : List (Event Ops Ans) → ε → Prop} {known : List (Event Ops Ans)}

/-- After the events known, every event of `x` satisfies `P`, and what it returns or fails with satisfies `K` or `E`
after all of them. -/
def Obtains (P : List (Event Ops Ans) → Event Ops Ans → Prop) (K : List (Event Ops Ans) → α → Prop)
    (E : List (Event Ops Ans) → ε → Prop) (known : List (Event Ops Ans)) (x : ExceptT ε (Program Ops Ans) α) :
    Prop :=
  ∀ tr r, Trace x.run tr r →
    Follows P known tr ∧ (∀ a, r = .ok a → K (known ++ tr) a) ∧ ∀ e, r = .error e → E (known ++ tr) e

namespace Obtains

/-- What obtains something asks what is permitted. -/
lemma asks {x : ExceptT ε (Program Ops Ans) α} (hx : Obtains P K E known x) : AsksAfter P known x.run :=
  fun tr r h => (hx tr r h).1

/-- Steps which return what is known. -/
lemma pure {a : α} (h : K known a) : Obtains P K E known (Pure.pure a : ExceptT ε (Program Ops Ans) α) := by
  intro tr r run
  obtain ⟨rfl, rfl⟩ := trace_attempt_pure.mp run
  rw [List.append_nil]
  refine ⟨.nil known, fun b eq => ?_, nofun⟩
  cases eq
  exact h

/-- Steps which fail as they may. -/
lemma throw {e : ε} (h : E known e) :
    Obtains P K E known (MonadExceptOf.throw e : ExceptT ε (Program Ops Ans) α) := by
  intro tr r run
  obtain ⟨rfl, rfl⟩ := trace_attempt_throw.mp run
  rw [List.append_nil]
  refine ⟨.nil known, nofun, fun e' eq => ?_⟩
  cases eq
  exact h

/-- What follows knows what was obtained before. -/
lemma bind {x : ExceptT ε (Program Ops Ans) α} {f : α → ExceptT ε (Program Ops Ans) β}
    (hx : Obtains P K E known x) (hf : ∀ known a, K known a → Obtains P L E known (f a)) :
    Obtains P L E known (x >>= f) := by
  intro tr r run
  rcases trace_attempt_bind.mp run with ⟨e, rfl, fails⟩ | ⟨tr1, tr2, a, rfl, h1, h2⟩
  · obtain ⟨follows, _, failed⟩ := hx tr _ fails
    refine ⟨follows, nofun, fun e' eq => ?_⟩
    cases eq
    exact failed e rfl
  · obtain ⟨before, got, _⟩ := hx tr1 _ h1
    obtain ⟨after, rest⟩ := hf _ a (got a rfl) tr2 r h2
    rw [← List.append_assoc]
    exact ⟨before.append after, rest⟩

/-- A program which cannot fail comes first. -/
lemma lift_bind {p : Program Ops Ans α} {f : α → ExceptT ε (Program Ops Ans) β}
    (h : ∀ tr a, Trace p tr a → Follows P known tr ∧ Obtains P L E (known ++ tr) (f a)) :
    Obtains P L E known ((liftM p : ExceptT ε (Program Ops Ans) α) >>= f) := by
  intro tr r run
  obtain ⟨tr1, tr2, a, rfl, h1, h2⟩ := trace_attempt_lift_bind.mp run
  obtain ⟨before, goesOn⟩ := h tr1 a h1
  obtain ⟨after, rest⟩ := goesOn tr2 r h2
  rw [← List.append_assoc]
  exact ⟨before.append after, rest⟩

/-- A program which cannot fail comes last. -/
lemma lift {p : Program Ops Ans α} (h : ∀ tr a, Trace p tr a → Follows P known tr ∧ K (known ++ tr) a) :
    Obtains P K E known (liftM p : ExceptT ε (Program Ops Ans) α) := by
  intro tr r run
  obtain ⟨a, rfl, ran⟩ := trace_attempt_lift.mp run
  obtain ⟨follows, got⟩ := h tr a ran
  refine ⟨follows, fun b eq => ?_, nofun⟩
  cases eq
  exact got

/-- One of two ways to obtain something. -/
lemma ite {c : Prop} [Decidable c] {x y : ExceptT ε (Program Ops Ans) α} (hx : c → Obtains P K E known x)
    (hy : ¬ c → Obtains P K E known y) : Obtains P K E known (if c then x else y) := by
  split
  case isTrue h => exact hx h
  case isFalse h => exact hy h

/-- What is known whatever comes later is still known afterwards. -/
lemma frame {x : ExceptT ε (Program Ops Ans) α} (hx : Obtains P K E known x) (F : List (Event Ops Ans) → Prop)
    (stays : ∀ later, F (known ++ later)) : Obtains P (fun known a => F known ∧ K known a) E known x := by
  intro tr r run
  obtain ⟨follows, got, failed⟩ := hx tr r run
  exact ⟨follows, fun a eq => ⟨stays tr, got a eq⟩, failed⟩

end Obtains

end Obtains

end UserPortal.Interaction.Program
