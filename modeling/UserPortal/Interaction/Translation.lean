import UserPortal.Interaction.Program

/-!
# Programs over a larger signature

Operations which are a part of others: a program over the part is one over the whole, and asks the same.
-/

namespace UserPortal.Interaction.Program

section Translate

variable {Ops Ops' : Type} {Ans' : Ops' → Type} {α : Type} (f : Ops → Ops')

/-- A program over a part of the operations, as a program over all of them. -/
def translate : Program Ops (fun op => Ans' (f op)) α → Program Ops' Ans' α
  | .ret a => .ret a
  | .ask op k => .ask (f op) fun x => translate (k x)

/-- An event of the part, as one of the whole. -/
def translateEvent (e : Event Ops fun op => Ans' (f op)) : Event Ops' Ans' := ⟨f e.1, e.2⟩

variable {f}

/-- A program asks as a part of the whole what it asks by itself. -/
lemma trace_translate {p : Program Ops (fun op => Ans' (f op)) α} {tr : List (Event Ops' Ans')} {a : α} :
    Trace (translate f p) tr a ↔ ∃ part, Trace p part a ∧ tr = part.map (translateEvent f) := by
  induction p generalizing tr with
  | ret b =>
    rw [translate, trace_ret]
    refine ⟨?_, ?_⟩
    · intro h
      obtain ⟨rfl, rfl⟩ := h
      exact ⟨[], .ret _, rfl⟩
    · intro h
      obtain ⟨part, asks, rfl⟩ := h
      obtain ⟨rfl, rfl⟩ := trace_ret.mp asks
      exact ⟨rfl, rfl⟩
  | ask op k ih =>
    rw [translate, trace_ask]
    refine ⟨?_, ?_⟩
    · intro h
      obtain ⟨x, rest, rfl, after⟩ := h
      obtain ⟨part, asks, rfl⟩ := (ih x).mp after
      exact ⟨⟨op, x⟩ :: part, trace_ask.mpr ⟨x, part, rfl, asks⟩, rfl⟩
    · intro h
      obtain ⟨part, asks, rfl⟩ := h
      obtain ⟨x, rest, rfl, after⟩ := trace_ask.mp asks
      exact ⟨x, rest.map (translateEvent f), rfl, (ih x).mpr ⟨rest, after, rfl⟩⟩

end Translate

end UserPortal.Interaction.Program
