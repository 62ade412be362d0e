import UserPortal.Data.Ordered

/-!
# Maps of greatest values

Values are compared by a rank. A map into which values are merged one by one, keeping the greater one,
ends up with the greatest value of every key, in whatever order the values come.
-/

namespace UserPortal.Data

variable {κ ν ρ : Type} [LinearOrder κ] [LinearOrder ρ]

/-- A value of the greatest rank. -/
def IsGreatestBy (rank : ν → ρ) (E : ν → Prop) (v : ν) : Prop := E v ∧ ∀ w, E w → rank w ≤ rank v

/-- `merge` returns the greater one of two values. -/
structure KeepsGreater (rank : ν → ρ) (merge : ν → ν → ν) : Prop where
  choice : ∀ a b, merge a b = a ∨ merge a b = b
  rank_merge : ∀ a b, rank (merge a b) = max (rank a) (rank b)

variable {rank : ν → ρ} {merge : ν → ν → ν} {E E' : κ → ν → Prop} {m : OrderedMap κ ν}

lemma IsGreatestBy.unique {E : ν → Prop} {a b : ν} (inj : Function.Injective rank)
    (ha : IsGreatestBy rank E a) (hb : IsGreatestBy rank E b) : a = b :=
  inj (le_antisymm (hb.2 a ha.1) (ha.2 b hb.1))

lemma IsGreatestBy.insert {E : ν → Prop} {old : ν} (keeps : KeepsGreater rank merge)
    (h : IsGreatestBy rank E old) (v : ν) :
    IsGreatestBy rank (fun w => E w ∨ w = v) (merge v old) := by
  refine ⟨?_, ?_⟩
  · rcases keeps.choice v old with eq | eq
    · exact .inr eq
    · rw [eq]
      exact .inl h.1
  · intro w hw
    rw [keeps.rank_merge]
    rcases hw with hw | rfl
    · exact (h.2 w hw).trans (le_max_right _ _)
    · exact le_max_left _ _

/-- A map which holds the greatest value of every key that has one. -/
def Collects (rank : ν → ρ) (m : OrderedMap κ ν) (E : κ → ν → Prop) : Prop :=
  ∀ k, (m.get? k = none ∧ ∀ v, ¬ E k v) ∨ ∃ v, m.get? k = some v ∧ IsGreatestBy rank (E k) v

namespace Collects

lemma congr (same : ∀ k v, E k v ↔ E' k v) (h : Collects rank m E) : Collects rank m E' := by
  have eq : E = E' := funext fun k => funext fun v => propext (same k v)
  rwa [← eq]

lemma empty : Collects rank (OrderedMap.empty : OrderedMap κ ν) fun _ _ => False :=
  fun _ => .inl ⟨rfl, fun _ => id⟩

/-- A key is held exactly when it has a value. -/
lemma isSome_iff (h : Collects rank m E) {k : κ} : (m.get? k).isSome = true ↔ ∃ v, E k v := by
  rcases h k with ⟨absent, none⟩ | ⟨w, present, greatest⟩
  · rw [absent]
    exact ⟨nofun, fun ⟨v, hv⟩ => absurd hv (none v)⟩
  · rw [present]
    exact ⟨fun _ => ⟨w, greatest.1⟩, fun _ => rfl⟩

/-- Merge one value into the map. -/
lemma alter (keeps : KeepsGreater rank merge) (h : Collects rank m E) (k : κ) (v : ν) :
    Collects rank (m.alter k (merge v) v) fun k' w => E k' w ∨ k' = k ∧ w = v := by
  intro k'
  rw [OrderedMap.get?_alter]
  by_cases same : k = k'
  · subst same
    rw [if_pos rfl]
    rcases h k with ⟨absent, none⟩ | ⟨old, present, greatest⟩
    · refine .inr ⟨v, ?_, .inr ⟨rfl, rfl⟩, ?_⟩
      · rw [absent]
        exact congrArg some ((keeps.choice v v).elim id id)
      · rintro w (hw | ⟨_, rfl⟩)
        · exact absurd hw (none w)
        · exact le_refl _
    · refine .inr ⟨merge v old, by rw [present]; rfl, ?_⟩
      simpa using greatest.insert keeps v
  · rw [if_neg same]
    have other : ∀ w, (E k' w ∨ k' = k ∧ w = v) ↔ E k' w :=
      fun w => ⟨fun hw => hw.elim id fun eq => absurd eq.1.symm same, .inl⟩
    rcases h k' with ⟨absent, none⟩ | ⟨old, present, greatest⟩
    · exact .inl ⟨absent, fun w hw => none w ((other w).mp hw)⟩
    · refine .inr ⟨old, present, .inl greatest.1, ?_⟩
      intro w hw
      exact greatest.2 w ((other w).mp hw)

/-- Merge one value into the map for each key of a list. -/
lemma alter_all (keeps : KeepsGreater rank merge) (h : Collects rank m E) (ks : List κ) (v : ν) :
    Collects rank (ks.foldl (fun m k => m.alter k (merge v) v) m) fun k w => E k w ∨ k ∈ ks ∧ w = v := by
  induction ks generalizing m E with
  | nil => exact h.congr fun k w => by simp
  | cons k ks ih =>
    apply (ih (h.alter keeps k v)).congr
    intro k' w
    rw [List.mem_cons]
    tauto

/-- A map into which values are merged step by step holds the greatest of all of them. -/
lemma foldl {α : Type} {step : OrderedMap κ ν → α → OrderedMap κ ν} {F : α → κ → ν → Prop}
    (one : ∀ (m : OrderedMap κ ν) (E : κ → ν → Prop) (a : α), Collects rank m E →
      Collects rank (step m a) fun k v => E k v ∨ F a k v)
    (as : List α) (h : Collects rank m E) :
    Collects rank (as.foldl step m) fun k v => E k v ∨ ∃ a ∈ as, F a k v := by
  induction as generalizing m E with
  | nil => exact h.congr fun k v => by simp
  | cons a as ih =>
    apply (ih (one m E a h)).congr
    intro k v
    rw [List.exists_mem_cons_iff, or_assoc]

end Collects

end UserPortal.Data
