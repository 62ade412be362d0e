import Mathlib.Data.List.Nodup
import UserPortal.Data.Ordered

/-!
# Assignments

A map which is filled by assignments holds at each key the value which was assigned last. When it is to
hold some pairs and only a part of them is assigned, what was assigned before has to make up for the
others, and to name no other key.
-/

namespace UserPortal.Data

variable {κ ν : Type} [LinearOrder κ] {ws ps us : List (κ × ν)} {k : κ} {v : ν}

/-- The value which is assigned to a key last. -/
def lastAssigned : List (κ × ν) → κ → Option ν
  | [], _ => none
  | (l, v) :: ws, k => (lastAssigned ws k).or (if l = k then some v else none)

/-- `std::map::operator[]` on the left of an assignment -/
def OrderedMap.assign (m : OrderedMap κ ν) (k : κ) (v : ν) : OrderedMap κ ν := m.alter k (fun _ => v) v

/-- Some assignments, one after the other. -/
def OrderedMap.assignAll (m : OrderedMap κ ν) (ws : List (κ × ν)) : OrderedMap κ ν :=
  ws.foldl (fun m w => m.assign w.1 w.2) m

lemma lastAssigned_append (ls ws : List (κ × ν)) (k : κ) :
    lastAssigned (ls ++ ws) k = (lastAssigned ws k).or (lastAssigned ls k) := by
  induction ls with
  | nil => exact (Option.or_none ..).symm
  | cons l ls ih => rw [List.cons_append, lastAssigned, lastAssigned, ih, Option.or_assoc]

lemma mem_of_lastAssigned (h : lastAssigned ws k = some v) : (k, v) ∈ ws := by
  induction ws with
  | nil => cases h
  | cons w ws ih =>
    rw [lastAssigned, Option.or_eq_some_iff] at h
    rcases h with h | ⟨_, h⟩
    · exact List.mem_cons_of_mem _ (ih h)
    · split at h
      case isTrue eq =>
        cases h
        rw [← eq]
        exact List.mem_cons_self ..
      case isFalse => cases h

lemma lastAssigned_eq_none_iff : lastAssigned ws k = none ↔ k ∉ ws.map Prod.fst := by
  induction ws with
  | nil => exact iff_of_true rfl List.not_mem_nil
  | cons w ws ih =>
    rw [lastAssigned, Option.or_eq_none_iff, ih, List.map_cons, List.mem_cons, not_or]
    have other : (if w.1 = k then some w.2 else none) = none ↔ ¬ k = w.1 := by
      split
      case isTrue eq => exact iff_of_false (fun h => by cases h) (not_not_intro eq.symm)
      case isFalse ne => exact iff_of_true rfl fun eq => ne eq.symm
    rw [other]
    exact and_comm

/-- Of some pairs whose keys are distinct, those which are assigned are held. -/
lemma lastAssigned_of_mem (nodup : (ps.map Prod.fst).Nodup) (sub : ∀ w ∈ ws, w ∈ ps) {w : κ × ν}
    (mem : w ∈ ws) : lastAssigned ws w.1 = some w.2 := by
  cases h : lastAssigned ws w.1 with
  | none => exact absurd (List.mem_map_of_mem mem) (lastAssigned_eq_none_iff.mp h)
  | some v =>
    have same := List.inj_on_of_nodup_map nodup (sub _ (mem_of_lastAssigned h)) (sub w mem) rfl
    exact congrArg (fun x => some x.2) same

/-- The key of a pair which is not assigned is not assigned either. -/
lemma lastAssigned_of_not_mem (nodup : (ps.map Prod.fst).Nodup) (sub : ∀ w ∈ ws, w ∈ ps) {w : κ × ν}
    (known : w ∈ ps) (other : w ∉ ws) : lastAssigned ws w.1 = none := by
  cases h : lastAssigned ws w.1 with
  | none => rfl
  | some v =>
    have assigned := mem_of_lastAssigned h
    have same := List.inj_on_of_nodup_map nodup (sub _ assigned) known rfl
    rw [same] at assigned
    exact absurd assigned other

lemma OrderedMap.get?_assign (m : OrderedMap κ ν) (k' : κ) :
    (m.assign k v).get? k' = if k = k' then some v else m.get? k' := get?_alter m k'

lemma OrderedMap.get?_assignAll (m : OrderedMap κ ν) (ws : List (κ × ν)) (k : κ) :
    (m.assignAll ws).get? k = (lastAssigned ws k).or (m.get? k) := by
  induction ws generalizing m with
  | nil => rfl
  | cons w ws ih =>
    have step : (m.assign w.1 w.2).get? k = (if w.1 = k then some w.2 else none).or (m.get? k) := by
      rw [get?_assign]
      split
      · rfl
      · rfl
    rw [lastAssigned, Option.or_assoc, ← step]
    exact ih (m.assign w.1 w.2)

lemma OrderedMap.assignAll_append (m : OrderedMap κ ν) (ls ws : List (κ × ν)) :
    m.assignAll (ls ++ ws) = (m.assignAll ls).assignAll ws := List.foldl_append

/-- A map has exactly some entries: their keys are distinct, and hold their values and nothing else. -/
lemma OrderedMap.entries_perm_iff (m : OrderedMap κ ν) :
    m.entries.Perm ps ↔ (ps.map Prod.fst).Nodup ∧ ∀ k v, m.get? k = some v ↔ (k, v) ∈ ps := by
  have keys : (m.entries.map Prod.fst).Nodup := by
    refine List.Pairwise.imp ?_ (List.pairwise_map.mpr m.sorted)
    intro a b lt
    exact ne_of_lt lt
  refine ⟨?_, ?_⟩
  · intro perm
    refine ⟨(perm.map Prod.fst).nodup_iff.mp keys, fun k v => ?_⟩
    rw [get?_eq_some]
    exact perm.mem_iff
  · intro h
    obtain ⟨nodup, same⟩ := h
    refine (List.perm_ext_iff_of_nodup keys.of_map nodup.of_map).mpr fun w => ?_
    rw [← same w.1 w.2, get?_eq_some]

/-- Pairs of which only a part is assigned are what is held in the end exactly where the earlier
assignments hold the others, and name no other key. -/
lemma lastAssigned_complete_iff (ls : List (κ × ν)) (nodup : (ps.map Prod.fst).Nodup)
    (split : ∀ w, w ∈ ps ↔ w ∈ ws ∨ w ∈ us) (disjoint : ∀ w ∈ us, w ∉ ws) :
    (∀ k v, lastAssigned (ls ++ ws) k = some v ↔ (k, v) ∈ ps) ↔
      (∀ w ∈ ls, w.1 ∈ ps.map Prod.fst) ∧ ∀ w ∈ us, lastAssigned ls w.1 = some w.2 := by
  have sub : ∀ w ∈ ws, w ∈ ps := fun w mem => (split w).mpr (.inl mem)
  have assigned : ∀ w ∈ ws, lastAssigned ws w.1 = some w.2 := fun _ => lastAssigned_of_mem nodup sub
  have unassigned : ∀ w ∈ us, lastAssigned ws w.1 = none := by
    intro w mem
    exact lastAssigned_of_not_mem nodup sub ((split w).mpr (.inr mem)) (disjoint w mem)
  refine ⟨?_, ?_⟩
  · intro holds
    refine ⟨fun w mem => ?_, fun w mem => ?_⟩
    · cases h : lastAssigned (ls ++ ws) w.1 with
      | none =>
        refine absurd ?_ (lastAssigned_eq_none_iff.mp h)
        exact List.mem_map_of_mem (List.mem_append_left _ mem)
      | some v => exact List.mem_map.mpr ⟨(w.1, v), (holds w.1 v).mp h, rfl⟩
    · have held := (holds w.1 w.2).mpr ((split w).mpr (.inr mem))
      rw [lastAssigned_append, unassigned w mem] at held
      exact held
  · intro h k v
    obtain ⟨named, others⟩ := h
    rw [lastAssigned_append]
    refine ⟨?_, ?_⟩
    · intro held
      rcases Option.or_eq_some_iff.mp held with own | ⟨none, before⟩
      · exact (split _).mpr (.inl (mem_of_lastAssigned own))
      · obtain ⟨w, mem, rfl⟩ := List.mem_map.mp (named _ (mem_of_lastAssigned before))
        rcases (split w).mp mem with part | part
        · rw [assigned w part] at none
          cases none
        · rw [others w part] at before
          cases before
          exact mem
    · intro mem
      rcases (split _).mp mem with part | part
      · rw [assigned _ part]
        rfl
      · rw [unassigned _ part, others _ part]
        rfl

/-! ## Assignments to the elements of a list -/

section Elements

variable {α : Type} {key : α → κ} {f : α → κ × ν → α}

end Elements

end UserPortal.Data
