import Mathlib.Data.List.Pairwise
import Mathlib.Data.List.Sort
import Mathlib.Data.String.Basic
import Mathlib.Tactic.Common

/-!
# Ordered containers

`std::set` and `std::map`: a set is a list of its elements in ascending order, a map carries the proof
that its keys ascend, so that a key has one value.
-/

namespace UserPortal.Data

variable {κ ν : Type} [LinearOrder κ]

/-! ## Sets -/

/-- `std::set::insert` -/
def insertKey (k : κ) : List κ → List κ
  | [] => [k]
  | a :: as => if a = k then a :: as else if k < a then k :: a :: as else a :: insertKey k as

/-- The set of the elements of a list. -/
def toSet (ks : List κ) : List κ := ks.foldl (fun s k => insertKey k s) []

/-- Inserting adds one key. -/
lemma mem_insertKey {a k : κ} {s : List κ} : a ∈ insertKey k s ↔ a = k ∨ a ∈ s := by
  induction s with
  | nil => simp [insertKey]
  | cons b s ih =>
    rw [insertKey]
    split
    case isTrue e =>
      subst e
      simp
    case isFalse =>
      split
      · simp
      · rw [List.mem_cons, ih, List.mem_cons]
        exact or_left_comm

/-- A set has the keys it was made of. -/
@[simp] lemma mem_toSet {a : κ} {ks : List κ} : a ∈ toSet ks ↔ a ∈ ks := by
  have fold : ∀ s : List κ, a ∈ ks.foldl (fun s k => insertKey k s) s ↔ a ∈ s ∨ a ∈ ks := by
    induction ks with
    | nil => simp
    | cons k ks ih =>
      intro s
      rw [List.foldl_cons, ih, mem_insertKey, List.mem_cons]
      tauto
  rw [toSet, fold]
  simp

/-- Inserting keeps the order. -/
lemma sorted_insertKey {k : κ} {s : List κ} (h : s.Pairwise (· < ·)) :
    (insertKey k s).Pairwise (· < ·) := by
  induction s with
  | nil => exact List.pairwise_singleton _ _
  | cons a s ih =>
    obtain ⟨first, rest⟩ := List.pairwise_cons.mp h
    rw [insertKey]
    split
    · exact h
    · split
      case isTrue lt =>
        refine List.pairwise_cons.mpr ⟨?_, h⟩
        intro b hb
        rcases List.mem_cons.mp hb with rfl | hb
        · exact lt
        · exact lt.trans (first b hb)
      case isFalse ne nlt =>
        refine List.pairwise_cons.mpr ⟨?_, ih rest⟩
        intro b hb
        rcases mem_insertKey.mp hb with rfl | hb
        · exact lt_of_le_of_ne (not_lt.mp nlt) ne
        · exact first b hb

/-- The elements of a set ascend. -/
lemma sorted_toSet (ks : List κ) : (toSet ks).Pairwise (· < ·) := by
  have fold : ∀ s : List κ, s.Pairwise (· < ·) →
      (ks.foldl (fun s k => insertKey k s) s).Pairwise (· < ·) := by
    induction ks with
    | nil => exact fun s h => h
    | cons k ks ih => exact fun s h => ih _ (sorted_insertKey h)
  exact fold [] .nil

/-! ## Maps -/

/-- `std::map` -/
structure OrderedMap (κ ν : Type) [LinearOrder κ] where
  entries : List (κ × ν)
  /-- the keys ascend -/
  sorted : entries.Pairwise fun a b => a.1 < b.1

namespace OrderedMap

def empty : OrderedMap κ ν where
  entries := []
  sorted := .nil

/-- The value of a key in a list of entries. -/
def find? : List (κ × ν) → κ → Option ν
  | [], _ => none
  | (l, v) :: m, k => if l = k then some v else find? m k

/-- The value of a key. -/
def get? (m : OrderedMap κ ν) (k : κ) : Option ν := find? m.entries k

/-- Change the value of a key in a list of entries. -/
def alterEntries (k : κ) (f : ν → ν) (default : ν) : List (κ × ν) → List (κ × ν)
  | [] => [(k, f default)]
  | (l, v) :: m =>
    if l = k then (l, f v) :: m
    else if k < l then (k, f default) :: (l, v) :: m
    else (l, v) :: alterEntries k f default m

variable {k : κ} {f : ν → ν} {default : ν}

/-- Only the key which is altered may be new. -/
lemma key_alterEntries {m : List (κ × ν)} :
    ∀ e ∈ alterEntries k f default m, e.1 = k ∨ ∃ e' ∈ m, e'.1 = e.1 := by
  induction m with
  | nil =>
    intro e he
    rw [List.mem_singleton.mp he]
    exact .inl rfl
  | cons a m ih =>
    obtain ⟨l, v⟩ := a
    intro e he
    rw [alterEntries] at he
    split at he
    case isTrue eq =>
      rcases List.mem_cons.mp he with rfl | he
      · exact .inl eq
      · exact .inr ⟨e, List.mem_cons_of_mem _ he, rfl⟩
    case isFalse =>
      split at he
      · rcases List.mem_cons.mp he with rfl | he
        · exact .inl rfl
        · exact .inr ⟨e, he, rfl⟩
      · rcases List.mem_cons.mp he with rfl | he
        · exact .inr ⟨(l, v), List.mem_cons_self .., rfl⟩
        · rcases ih e he with eq | ⟨e', he', eq⟩
          · exact .inl eq
          · exact .inr ⟨e', List.mem_cons_of_mem _ he', eq⟩

/-- Altering keeps the order. -/
lemma sorted_alterEntries {m : List (κ × ν)} (h : m.Pairwise fun a b => a.1 < b.1) :
    (alterEntries k f default m).Pairwise fun a b => a.1 < b.1 := by
  induction m with
  | nil => exact List.pairwise_singleton _ _
  | cons a m ih =>
    obtain ⟨l, v⟩ := a
    obtain ⟨first, rest⟩ := List.pairwise_cons.mp h
    rw [alterEntries]
    split
    · exact List.pairwise_cons.mpr ⟨first, rest⟩
    · split
      case isTrue lt =>
        refine List.pairwise_cons.mpr ⟨?_, h⟩
        intro e he
        rcases List.mem_cons.mp he with rfl | he
        · exact lt
        · exact lt.trans (first e he)
      case isFalse ne nlt =>
        refine List.pairwise_cons.mpr ⟨?_, ih rest⟩
        intro e he
        rcases key_alterEntries e he with eq | ⟨e', he', eq⟩
        · rw [eq]
          exact lt_of_le_of_ne (not_lt.mp nlt) ne
        · rw [← eq]
          exact first e' he'

/-- Change the value of a key, which starts as `default`: an assignment through
`std::map::operator[]`. -/
def alter (m : OrderedMap κ ν) (k : κ) (f : ν → ν) (default : ν) : OrderedMap κ ν where
  entries := alterEntries k f default m.entries
  sorted := sorted_alterEntries m.sorted

/-- The map of one key. -/
def single (k : κ) (v : ν) : OrderedMap κ ν where
  entries := [(k, v)]
  sorted := List.pairwise_singleton _ _

lemma alter_empty : (empty : OrderedMap κ ν).alter k f default = single k (f default) := rfl

@[simp] lemma alter_single {v : ν} : (single k v).alter k f default = single k (f v) := by
  simp only [alter, single, alterEntries, if_pos]

@[simp] lemma get?_single {v : ν} : (single k v).get? k = some v := if_pos rfl

/-- A key is not found where it is not there. -/
lemma find?_eq_none {m : List (κ × ν)} (h : ∀ e ∈ m, e.1 ≠ k) : find? m k = none := by
  induction m with
  | nil => rfl
  | cons a m ih =>
    rw [find?, if_neg (h a (List.mem_cons_self ..))]
    exact ih fun e he => h e (List.mem_cons_of_mem _ he)

/-- Altering changes the value of one key. -/
lemma find?_alterEntries {m : List (κ × ν)} (h : m.Pairwise fun a b => a.1 < b.1) (k' : κ) :
    find? (alterEntries k f default m) k' =
      if k = k' then some (f ((find? m k).getD default)) else find? m k' := by
  induction m with
  | nil => rfl
  | cons a m ih =>
    obtain ⟨l, v⟩ := a
    obtain ⟨first, rest⟩ := List.pairwise_cons.mp h
    rw [alterEntries, find?, find?]
    split
    case isTrue e =>
      subst e
      rw [find?]
      split <;> rfl
    case isFalse ne =>
      split
      case isTrue lt =>
        have absent : find? m k = none := find?_eq_none fun e he => (lt.trans (first e he)).ne'
        rw [find?, find?, absent]
        rfl
      case isFalse =>
        rw [find?, ih rest]
        by_cases e : l = k'
        · rw [if_pos e, if_neg (fun e' => ne (e.trans e'.symm)), if_pos e]
        · rw [if_neg e, if_neg e]

/-- What a key holds after a change. -/
lemma get?_alter (m : OrderedMap κ ν) (k' : κ) :
    (m.alter k f default).get? k' =
      if k = k' then some (f ((m.get? k).getD default)) else m.get? k' :=
  find?_alterEntries m.sorted k'

@[simp] lemma get?_empty : (empty : OrderedMap κ ν).get? k = none := rfl

/-- The entries of a map are what its keys hold. -/
lemma get?_eq_some {m : OrderedMap κ ν} {v : ν} : m.get? k = some v ↔ (k, v) ∈ m.entries := by
  obtain ⟨entries, sorted⟩ := m
  show find? entries k = some v ↔ (k, v) ∈ entries
  induction entries with
  | nil => exact ⟨nofun, nofun⟩
  | cons a m ih =>
    obtain ⟨l, w⟩ := a
    obtain ⟨first, rest⟩ := List.pairwise_cons.mp sorted
    rw [find?, List.mem_cons]
    split
    case isTrue e =>
      subst e
      refine ⟨?_, ?_⟩
      · intro h
        cases h
        exact .inl rfl
      · rintro (h | h)
        · cases h
          rfl
        · exact absurd (first _ h) (lt_irrefl _)
    case isFalse ne =>
      rw [ih rest]
      refine ⟨?_, ?_⟩
      · exact .inr
      · rintro (h | h)
        · cases h
          exact absurd rfl ne
        · exact h

/-- The values are mapped where they are found. -/
lemma find?_map {μ : Type} (g : ν → μ) (m : List (κ × ν)) :
    find? (m.map fun e => (e.1, g e.2)) k = (find? m k).map g := by
  induction m with
  | nil => rfl
  | cons a m ih =>
    rw [List.map_cons, find?, find?, ih]
    split <;> rfl

/-- Change every value. -/
def map {μ : Type} (g : ν → μ) (m : OrderedMap κ ν) : OrderedMap κ μ where
  entries := m.entries.map fun e => (e.1, g e.2)
  sorted := List.pairwise_map.mpr m.sorted

@[simp] lemma get?_map {μ : Type} (g : ν → μ) (m : OrderedMap κ ν) :
    (m.map g).get? k = (m.get? k).map g := find?_map g m.entries

/-- The entries which satisfy a predicate. -/
def filter (p : κ × ν → Bool) (m : OrderedMap κ ν) : OrderedMap κ ν where
  entries := m.entries.filter p
  sorted := m.sorted.sublist List.filter_sublist

/-- `std::map::erase` at a key -/
def erase (m : OrderedMap κ ν) (k : κ) : OrderedMap κ ν := m.filter fun e => e.1 ≠ k

/-- What is kept is found as before. -/
lemma get?_filter {p : κ × ν → Bool} {m : OrderedMap κ ν} {v : ν} :
    (m.filter p).get? k = some v ↔ m.get? k = some v ∧ p (k, v) = true := by
  rw [get?_eq_some, get?_eq_some]
  exact List.mem_filter

/-- What is not erased is found as before. -/
lemma get?_erase {m : OrderedMap κ ν} {k' : κ} {v : ν} :
    (m.erase k').get? k = some v ↔ m.get? k = some v ∧ k ≠ k' := by
  rw [erase, get?_filter, decide_eq_true_iff]

/-- In a map which is built by steps each of which changes one key, a key holds what its own steps make
of it. -/
lemma getD_foldl {α : Type} {step : OrderedMap κ ν → α → OrderedMap κ ν} {key : α → Option κ}
    {change : ν → α → ν} {default : ν}
    (one : ∀ m a k, ((step m a).get? k).getD default =
      if key a = some k then change ((m.get? k).getD default) a else (m.get? k).getD default)
    (as : List α) (k : κ) :
    ((as.foldl step empty).get? k).getD default =
      (as.filter fun a => key a = some k).foldl change default := by
  have fold : ∀ m : OrderedMap κ ν, ((as.foldl step m).get? k).getD default =
      (as.filter fun a => key a = some k).foldl change ((m.get? k).getD default) := by
    induction as with
    | nil => exact fun m => rfl
    | cons a as ih =>
      intro m
      rw [List.foldl_cons, ih, one, List.filter_cons]
      split
      case isTrue own => rw [if_pos (by simpa using own), List.foldl_cons]
      case isFalse other => rw [if_neg (by simpa using other)]
  exact fold empty

end OrderedMap

end UserPortal.Data
