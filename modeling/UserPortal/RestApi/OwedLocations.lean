import Mathlib.Data.List.Infix
import Mathlib.Data.List.Nodup
import Mathlib.Logic.Function.Basic
import UserPortal.Sdk.LocationStore

/-!
# Locations which a request owes

Between the clearing of a venue and the deletion of its location, the location exists and the venue does
not name it: a request owes it. `Consistent` is what the store keeps while requests owe locations, and
`Consistent.oneLocation` what it says once none does.
-/

namespace UserPortal.RestApi.SubscriberLocation
open Sdk

/-- The venue names the one location which exists, or there is none. -/
def OneLocation (s : Prov.LocationStore) : Prop :=
  s.locations = if s.location = "" then [] else [s.location]

section Owed

variable {ι : Type} [DecidableEq ι] {i : ι} {s : Prov.LocationStore}

/-- Where the requests owe `owes`: the venue names a location which exists, and every other one is owed by
one request. -/
structure Consistent (owes : ι → String → Prop) (s : Prov.LocationStore) : Prop where
  named : s.location ≠ "" → s.location ∈ s.locations
  owed : ∀ l ∈ s.locations, l = s.location ∨ ∃ i, owes i l
  kept : ∀ i l, owes i l → l ∈ s.locations ∧ l ≠ s.location
  once : ∀ i j l, owes i l → owes j l → i = j
  nonempty : "" ∉ s.locations
  nodup : s.locations.Nodup

namespace Consistent

variable {owes : ι → String → Prop} {location : String}

omit [DecidableEq ι] in
/-- A location is created at a venue which has none. -/
lemma created (h : Consistent owes s) (empty : s.location = "") (new : location ≠ "")
    (fresh : location ∉ s.locations) :
    Consistent owes { location := location, locations := s.locations ++ [location] } where
  named _ := List.mem_append_right _ (List.mem_singleton_self _)
  owed l mem := by
    rcases List.mem_append.mp mem with mem | mem
    · rcases h.owed l mem with rfl | owed
      · rw [empty] at mem
        exact absurd mem h.nonempty
      · exact .inr owed
    · exact .inl (List.mem_singleton.mp mem)
  kept i l owed := by
    obtain ⟨mem, _⟩ := h.kept i l owed
    refine ⟨List.mem_append_left _ mem, ?_⟩
    rintro rfl
    exact fresh mem
  once := h.once
  nonempty mem := by
    rcases List.mem_append.mp mem with mem | mem
    · exact h.nonempty mem
    · exact new (List.mem_singleton.mp mem).symm
  nodup := List.nodup_append.mpr ⟨h.nodup, List.nodup_singleton _, by
    rintro a mem b (_ | ⟨_, ⟨⟩⟩) rfl
    exact fresh mem⟩

/-- The venue is cleared by a request, which owes its location from then on. -/
lemma cleared (h : Consistent owes s) (used : s.location ≠ "") (none : ∀ l, ¬ owes i l) :
    Consistent (Function.update owes i (· = s.location)) { s with location := "" } where
  named ne := absurd rfl ne
  owed l mem := by
    rcases h.owed l mem with rfl | ⟨j, owed⟩
    · exact .inr ⟨i, by rw [Function.update_self]⟩
    · have ne : j ≠ i := by
        rintro rfl
        exact none l owed
      exact .inr ⟨j, by rwa [Function.update_of_ne ne]⟩
  kept j l owed := by
    have mem : l ∈ s.locations := by
      by_cases eq : j = i
      · subst eq
        rw [Function.update_self] at owed
        exact owed ▸ h.named used
      · rw [Function.update_of_ne eq] at owed
        exact (h.kept j l owed).1
    refine ⟨mem, ?_⟩
    rintro rfl
    exact h.nonempty mem
  once j k l owed owed' := by
    -- a location of the venue was not owed before
    have alone : ∀ k, k ≠ i → owes k l → l ≠ s.location := fun k _ owed => (h.kept k l owed).2
    by_cases eq : j = i <;> by_cases eq' : k = i
    · rw [eq, eq']
    · subst eq
      rw [Function.update_self] at owed
      rw [Function.update_of_ne eq'] at owed'
      exact absurd owed (alone k eq' owed')
    · subst eq'
      rw [Function.update_self] at owed'
      rw [Function.update_of_ne eq] at owed
      exact absurd owed' (alone j eq owed)
    · rw [Function.update_of_ne eq] at owed
      rw [Function.update_of_ne eq'] at owed'
      exact h.once j k l owed owed'
  nonempty := h.nonempty
  nodup := h.nodup

/-- What is owed after a request owes nothing any more. -/
lemma settled_iff {j : ι} {l : String} (h : Consistent owes s) (owed : owes i = (· = location)) :
    Function.update owes i (fun _ => False) j l ↔ owes j l ∧ l ≠ location := by
  have own : owes i location := by rw [owed]
  by_cases eq : j = i
  · subst eq
    rw [Function.update_self, owed]
    exact ⟨False.elim, fun both => both.2 both.1⟩
  · rw [Function.update_of_ne eq]
    refine ⟨fun other => ⟨other, ?_⟩, And.left⟩
    rintro rfl
    exact eq (h.once j i _ other own)

/-- A location which is owed is deleted. -/
lemma deleted (h : Consistent owes s) (owed : owes i = (· = location)) :
    Consistent (Function.update owes i fun _ => False)
      { s with locations := s.locations.filter (· ≠ location) } where
  named ne := by
    have other := (h.kept i location (by rw [owed])).2
    exact List.mem_filter.mpr ⟨h.named ne, decide_eq_true other.symm⟩
  owed l mem := by
    obtain ⟨mem, ne⟩ := List.mem_filter.mp mem
    rcases h.owed l mem with rfl | ⟨j, owes⟩
    · exact .inl rfl
    · exact .inr ⟨j, (h.settled_iff owed).mpr ⟨owes, of_decide_eq_true ne⟩⟩
  kept j l after := by
    obtain ⟨before, ne⟩ := (h.settled_iff owed).mp after
    obtain ⟨mem, other⟩ := h.kept j l before
    exact ⟨List.mem_filter.mpr ⟨mem, decide_eq_true ne⟩, other⟩
  once j k l after after' :=
    h.once j k l ((h.settled_iff owed).mp after).1 ((h.settled_iff owed).mp after').1
  nonempty mem := h.nonempty (List.mem_filter.mp mem).1
  nodup := h.nodup.filter _

/-- A location which is owed is put back in a venue which has none. -/
lemma restored (h : Consistent owes s) (owed : owes i = (· = location)) (empty : s.location = "") :
    Consistent (Function.update owes i fun _ => False) { s with location := location } where
  named _ := (h.kept i location (by rw [owed])).1
  owed l mem := by
    by_cases eq : l = location
    · exact .inl eq
    · rcases h.owed l mem with rfl | ⟨j, owes⟩
      · rw [empty] at mem
        exact absurd mem h.nonempty
      · exact .inr ⟨j, (h.settled_iff owed).mpr ⟨owes, eq⟩⟩
  kept j l after := by
    obtain ⟨before, ne⟩ := (h.settled_iff owed).mp after
    exact ⟨(h.kept j l before).1, ne⟩
  once j k l after after' :=
    h.once j k l ((h.settled_iff owed).mp after).1 ((h.settled_iff owed).mp after').1
  nonempty := h.nonempty
  nodup := h.nodup

omit [DecidableEq ι] in
/-- Where nothing is owed, the venue names the one location. -/
lemma oneLocation (h : Consistent owes s) (none : ∀ i l, ¬ owes i l) : OneLocation s := by
  have only : ∀ l ∈ s.locations, l = s.location := by
    intro l mem
    rcases h.owed l mem with eq | ⟨i, owed⟩
    · exact eq
    · exact absurd owed (none i l)
  rw [OneLocation]
  split
  case isTrue empty =>
    refine List.eq_nil_iff_forall_not_mem.mpr fun l mem => ?_
    obtain rfl := only l mem
    rw [empty] at mem
    exact h.nonempty mem
  case isFalse used =>
    have count : s.locations = List.replicate s.locations.length s.location :=
      List.eq_replicate_of_mem only
    have one : s.locations.length = 1 := by
      refine le_antisymm ?_ (List.length_pos_of_mem (h.named used))
      have nodup := h.nodup
      rw [count] at nodup
      exact List.nodup_replicate.mp nodup
    rw [count, one]
    rfl

end Consistent

omit [DecidableEq ι] in
/-- Before anything is asked, a venue with its one location is consistent. -/
lemma OneLocation.consistent (h : OneLocation s) :
    Consistent (fun (_ : ι) (_ : String) => False) s where
  named ne := by
    rw [h, if_neg ne]
    exact List.mem_singleton_self _
  owed l mem := by
    rw [h] at mem
    split at mem
    case isTrue => cases mem
    case isFalse => exact .inl (List.mem_singleton.mp mem)
  kept _ _ := False.elim
  once _ _ _ := False.elim
  nonempty mem := by
    rw [h] at mem
    split at mem
    case isTrue => cases mem
    case isFalse ne => exact ne (List.mem_singleton.mp mem).symm
  nodup := by
    rw [h]
    split
    case isTrue => exact List.nodup_nil
    case isFalse => exact List.nodup_singleton _

end Owed

end UserPortal.RestApi.SubscriberLocation
