import Mathlib.Tactic.Common

/-!
# Steps which may fail

Inversion rules for `Except` computations and for maps over a list which stop at the first failure.
-/

namespace UserPortal.Interaction

variable {α β γ ε : Type}

lemma except_ok_bind (a : α) (f : α → Except ε β) : (Except.ok a >>= f) = f a := rfl

/-- An `Except` fails in its first part or in what follows. -/
lemma except_bind_error {x : Except ε α} {f : α → Except ε β} {e : ε} (h : x >>= f = .error e) :
    x = .error e ∨ ∃ a, x = .ok a ∧ f a = .error e := by
  cases x with
  | error e' =>
    cases h
    exact .inl rfl
  | ok a => exact .inr ⟨a, rfl, h⟩

/-- An `Except` succeeds in its first part and in what follows. -/
lemma except_bind_ok {x : Except ε α} {f : α → Except ε β} {b : β} (h : x >>= f = .ok b) :
    ∃ a, x = .ok a ∧ f a = .ok b := by
  cases x with
  | error e' => cases h
  | ok a => exact ⟨a, rfl, h⟩

lemma except_bind_eq_ok {x : Except ε α} {f : α → Except ε β} {b : β} :
    x >>= f = .ok b ↔ ∃ a, x = .ok a ∧ f a = .ok b := by
  refine ⟨except_bind_ok, fun h => ?_⟩
  obtain ⟨a, rfl, eq⟩ := h
  exact eq

/-- What is made of an `Except` comes from its success. -/
lemma except_map_ok {x : Except ε α} {f : α → β} {b : β} (h : x.map f = .ok b) :
    ∃ a, x = .ok a ∧ f a = b := by
  cases x with
  | error e => cases h
  | ok a =>
    cases h
    exact ⟨a, rfl, rfl⟩

/-- A map over a list fails where one of its elements does. -/
lemma mapM_error {f : α → Except ε β} {xs : List α} {e : ε} (h : xs.mapM f = .error e) :
    ∃ x ∈ xs, f x = .error e := by
  induction xs with
  | nil => cases h
  | cons x xs ih =>
    rw [List.mapM_cons] at h
    rcases except_bind_error h with fx | ⟨b, fx, h⟩
    · exact ⟨x, List.mem_cons_self .., fx⟩
    · rcases except_bind_error h with fxs | ⟨bs, fxs, h⟩
      · obtain ⟨y, hy, fy⟩ := ih fxs
        exact ⟨y, List.mem_cons_of_mem x hy, fy⟩
      · cases h

/-- What a map over a list returns is what it makes of the elements. -/
lemma mapM_ok_mem {f : α → Except ε β} {xs : List α} {ys : List β} (h : xs.mapM f = .ok ys) :
    ∀ y ∈ ys, ∃ x ∈ xs, f x = .ok y := by
  induction xs generalizing ys with
  | nil =>
    cases h
    intro y hy
    cases hy
  | cons x xs ih =>
    rw [List.mapM_cons] at h
    obtain ⟨y, fx, h⟩ := except_bind_ok h
    obtain ⟨ys', fxs, h⟩ := except_bind_ok h
    cases h
    intro z hz
    rcases List.mem_cons.mp hz with rfl | hz
    · exact ⟨x, List.mem_cons_self .., fx⟩
    · obtain ⟨w, hw, fw⟩ := ih fxs z hz
      exact ⟨w, List.mem_cons_of_mem x hw, fw⟩

/-- A map which keeps the parts of every element keeps the parts of the list. -/
lemma mapM_some_flatMap {f : α → Option β} {g : α → List γ} {g' : β → List γ} {xs : List α}
    {ys : List β} (keep : ∀ x y, f x = some y → g' y = g x) (h : xs.mapM f = some ys) :
    ys.flatMap g' = xs.flatMap g := by
  induction xs generalizing ys with
  | nil =>
    cases h
    rfl
  | cons x xs ih =>
    rw [List.mapM_cons] at h
    obtain ⟨y, fx, h⟩ := Option.bind_eq_some_iff.mp h
    obtain ⟨ys', fxs, h⟩ := Option.bind_eq_some_iff.mp h
    cases h
    rw [List.flatMap_cons, List.flatMap_cons, keep x y fx, ih fxs]

/-- Reading back every element reads back the list. -/
lemma mapM_map_some {g : α → β} {f : β → Option α} {xs : List α} (h : ∀ x ∈ xs, f (g x) = some x) :
    (xs.map g).mapM f = some xs := by
  induction xs with
  | nil => rfl
  | cons x xs ih =>
    rw [List.map_cons, List.mapM_cons, h x (List.mem_cons_self ..),
      ih fun y hy => h y (List.mem_cons_of_mem x hy)]
    rfl

/-- A map which reads back what a function writes reads back the lists of it. -/
lemma mapM_some_iff_map {f : α → Option β} {g : β → α} {Reads : β → Prop}
    (one : ∀ x y, f x = some y ↔ x = g y ∧ Reads y) {xs : List α} {ys : List β} :
    xs.mapM f = some ys ↔ xs = ys.map g ∧ ∀ y ∈ ys, Reads y := by
  induction xs generalizing ys with
  | nil =>
    refine ⟨?_, ?_⟩
    · intro h
      cases h
      exact ⟨rfl, nofun⟩
    · intro h
      rw [List.map_eq_nil_iff.mp h.1.symm]
      rfl
  | cons x xs ih =>
    rw [List.mapM_cons]
    refine ⟨?_, ?_⟩
    · intro h
      obtain ⟨y, fx, h⟩ := Option.bind_eq_some_iff.mp h
      obtain ⟨ys', fxs, h⟩ := Option.bind_eq_some_iff.mp h
      cases h
      obtain ⟨eq, reads⟩ := (one x y).mp fx
      obtain ⟨rest, all⟩ := ih.mp fxs
      rw [List.map_cons, ← eq, ← rest]
      exact ⟨rfl, List.forall_mem_cons.mpr ⟨reads, all⟩⟩
    · intro h
      obtain ⟨eq, reads⟩ := h
      obtain ⟨y, ys', rfl, first, rest⟩ := List.map_eq_cons_iff.mp eq.symm
      obtain ⟨one', all⟩ := List.forall_mem_cons.mp reads
      rw [(one x y).mpr ⟨first.symm, one'⟩, ih.mpr ⟨rest.symm, all⟩]
      rfl

/-- A map which succeeds keeps the length. -/
lemma mapM_some_length {f : α → Option β} {xs : List α} {ys : List β} (h : xs.mapM f = some ys) :
    ys.length = xs.length := by
  induction xs generalizing ys with
  | nil =>
    cases h
    rfl
  | cons x xs ih =>
    rw [List.mapM_cons] at h
    obtain ⟨y, _, h⟩ := Option.bind_eq_some_iff.mp h
    obtain ⟨ys', fxs, h⟩ := Option.bind_eq_some_iff.mp h
    cases h
    rw [List.length_cons, List.length_cons, ih fxs]

/-! ## Element by element -/

/-- A map over a list succeeds as its elements do. -/
lemma mapM_ok_iff {f : α → Except ε β} {xs : List α} {ys : List β} :
    xs.mapM f = .ok ys ↔ List.Forall₂ (fun x y => f x = .ok y) xs ys := by
  induction xs generalizing ys with
  | nil =>
    refine ⟨?_, ?_⟩
    · intro h
      cases h
      exact .nil
    · intro h
      cases h
      rfl
  | cons x xs ih =>
    rw [List.mapM_cons]
    refine ⟨?_, ?_⟩
    · intro h
      obtain ⟨y, fx, h⟩ := except_bind_ok h
      obtain ⟨ys', fxs, h⟩ := except_bind_ok h
      cases h
      exact .cons fx (ih.mp fxs)
    · intro h
      cases h with
      | cons fx fxs =>
        rw [fx, ih.mpr fxs]
        rfl

/-- A map over a list succeeds where all of its elements do. -/
lemma mapM_succeeds_iff {f : α → Except ε β} {xs : List α} :
    (∃ ys, xs.mapM f = .ok ys) ↔ ∀ x ∈ xs, ∃ y, f x = .ok y := by
  induction xs with
  | nil => exact ⟨fun _ => nofun, fun _ => ⟨[], rfl⟩⟩
  | cons x xs ih =>
    rw [List.forall_mem_cons, ← ih, List.mapM_cons]
    refine ⟨?_, ?_⟩
    · rintro ⟨ys, h⟩
      obtain ⟨y, fx, h⟩ := except_bind_ok h
      obtain ⟨ys', fxs, _⟩ := except_bind_ok h
      exact ⟨⟨y, fx⟩, ys', fxs⟩
    · rintro ⟨⟨y, fx⟩, ys, fxs⟩
      exact ⟨y :: ys, by rw [fx, fxs]; rfl⟩

/-! ## Loops -/

variable {σ : Type} {step : σ → α → Option σ}

/-- What each step of a loop keeps, the loop keeps. -/
lemma foldlM_keeps (Keeps : σ → Prop) {xs : List α}
    (steps : ∀ x ∈ xs, ∀ s s', Keeps s → step s x = some s' → Keeps s') {s s' : σ} (start : Keeps s)
    (h : xs.foldlM step s = some s') : Keeps s' := by
  induction xs generalizing s with
  | nil =>
    cases h
    exact start
  | cons x xs ih =>
    rw [List.foldlM_cons] at h
    obtain ⟨t, first, later⟩ := Option.bind_eq_some_iff.mp h
    obtain ⟨now, rest⟩ := List.forall_mem_cons.mp steps
    exact ih rest (now s t start first) later

end UserPortal.Interaction
