import Mathlib.Tactic.Common
import Mathlib.Data.List.Induction

/-!
# Runs of a partial step function

The state after some events, where a step may have no result. `run_good_iff`: when one step from a good state
is good exactly under a condition, a run stays in good states exactly when each of its steps meets the
condition.
-/

namespace UserPortal.Data

variable {State Event : Type} {step : State → Event → Option State} {s : State}

/-- The state after some events. -/
def stateAfter (step : State → Event → Option State) (s : State) (events : List Event) : Option State :=
  events.foldlM step s

@[simp] lemma stateAfter_nil : stateAfter step s [] = some s := rfl

lemma stateAfter_concat (events : List Event) (e : Event) :
    stateAfter step s (events ++ [e]) = (stateAfter step s events).bind fun s' => step s' e := by
  rw [stateAfter, List.foldlM_append]
  show ((stateAfter step s events).bind fun s' => (step s' e).bind some) = _
  congr 1
  funext s'
  cases step s' e <;> rfl

/-- All states of a run are good. -/
def StaysGood (step : State → Event → Option State) (s : State) (good : State → Prop) (events : List Event) : Prop :=
  ∀ past, past <+: events → ∃ s', stateAfter step s past = some s' ∧ good s'

/-- All steps of a run meet a condition. -/
def MeetsCondition (step : State → Event → Option State) (s : State) (condition : State → Event → Prop)
    (events : List Event) : Prop :=
  ∀ past e, past ++ [e] <+: events → ∀ s', stateAfter step s past = some s' → condition s' e

lemma run_good_iff {good : State → Prop} {condition : State → Event → Prop} (start : good s)
    (steps : ∀ s e, good s → ((∃ s', step s e = some s' ∧ good s') ↔ condition s e)) (events : List Event) :
    StaysGood step s good events ↔ MeetsCondition step s condition events := by
  refine ⟨?_, ?_⟩
  · intro stays past e within s' reached
    obtain ⟨before, eq, good⟩ := stays past ((List.prefix_append past [e]).trans within)
    obtain ⟨next, eq', good'⟩ := stays (past ++ [e]) within
    cases eq.symm.trans reached
    rw [stateAfter_concat, eq] at eq'
    exact (steps _ e good).mp ⟨next, eq', good'⟩
  · intro keeps past within
    induction past using List.reverseRecOn with
    | nil => exact ⟨s, rfl, start⟩
    | append_singleton past e ih =>
      obtain ⟨before, eq, good⟩ := ih ((List.prefix_append past [e]).trans within)
      obtain ⟨next, eq', good'⟩ := (steps before e good).mpr (keeps past e within before eq)
      refine ⟨next, ?_, good'⟩
      rw [stateAfter_concat, eq]
      exact eq'

end UserPortal.Data
