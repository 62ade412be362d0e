import UserPortal.Json.Print

/-!
# Ordered values

A JSON library keeps the fields of an object in a map, in the order of their keys. `isOrdered` says so
of a value: the keys of every object in it increase. Setting and removing keys keep the order, an
ordered object is determined by what its keys hold, and a parser `Reads` what a printer writes when it
gives every ordered value back.
-/

namespace UserPortal.Json

mutual

/-- The keys of every object increase. -/
def isOrdered : Json → Bool
  | .arr xs => isOrderedItems xs
  | .obj fields => isOrderedFields fields
  | _ => true

/-- The items of an array are ordered. -/
def isOrderedItems : List Json → Bool
  | [] => true
  | x :: xs => isOrdered x && isOrderedItems xs

/-- The fields of an object are ordered. -/
def isOrderedFields : List (String × Json) → Bool
  | [] => true
  | (k, x) :: fields => (fields.all fun f => k < f.1) && isOrdered x && isOrderedFields fields

end

/-- Items are ordered if each of them is. -/
lemma isOrderedItems_iff {xs : List Json} :
    isOrderedItems xs = true ↔ ∀ x ∈ xs, isOrdered x = true := by
  induction xs with
  | nil => simp [isOrderedItems]
  | cons x xs ih => rw [isOrderedItems, Bool.and_eq_true, ih, List.forall_mem_cons]

/-- An array is ordered if its elements are. -/
lemma isOrdered_arr {xs : List Json} :
    (Json.arr xs).isOrdered = true ↔ ∀ x ∈ xs, isOrdered x = true := by
  rw [isOrdered, isOrderedItems_iff]

namespace Object

/-- The keys of an object, and of every object in it, increase. -/
def IsOrdered (o : Object) : Prop := (Json.obj o).isOrdered = true

instance (o : Object) : Decidable o.IsOrdered := inferInstanceAs (Decidable (_ = true))

/-- The empty object is ordered. -/
lemma isOrdered_nil : IsOrdered [] := by rfl

/-- An object is ordered if its first key comes first and the rest is. -/
lemma isOrdered_cons {k : String} {v : Json} {o : Object} :
    IsOrdered ((k, v) :: o) ↔ (∀ f ∈ o, k < f.1) ∧ v.isOrdered = true ∧ o.IsOrdered := by
  rw [IsOrdered, isOrdered, isOrderedFields, Bool.and_eq_true, Bool.and_eq_true, List.all_eq_true,
    and_assoc, IsOrdered, isOrdered]
  simp only [decide_eq_true_eq]

variable {o p : Object} {k : String} {v : Json}

/-- One of two different names comes first. -/
lemma lt_or_lt_of_ne {a b : String} (ne : a ≠ b) : a < b ∨ b < a := by
  by_contra no
  rw [not_or, String.not_lt, String.not_lt] at no
  exact ne (String.le_antisymm no.2 no.1)

/-- What is found is in the object. -/
lemma mem_of_get? (h : o.get? k = some v) : (k, v) ∈ o := by
  induction o with
  | nil => cases h
  | cons f o ih =>
    obtain ⟨l, w⟩ := f
    rw [get?_cons] at h
    split at h
    case isTrue e =>
      cases e
      cases h
      exact List.mem_cons_self ..
    case isFalse => exact List.mem_cons_of_mem _ (ih h)

/-- A key smaller than all is missing. -/
lemma get?_of_lt (h : ∀ f ∈ o, k < f.1) : o.get? k = none := by
  rw [← has_eq_false_iff, Bool.eq_false_iff]
  intro has
  obtain ⟨v, eq⟩ := has_iff.mp has
  exact String.lt_irrefl k (h _ (mem_of_get? eq))

/-- What is in an ordered object is found. -/
lemma IsOrdered.get?_of_mem (ord : o.IsOrdered) (h : (k, v) ∈ o) : o.get? k = some v := by
  induction o with
  | nil => cases h
  | cons f o ih =>
    obtain ⟨l, w⟩ := f
    obtain ⟨first, _, rest⟩ := isOrdered_cons.mp ord
    rw [get?_cons]
    rcases List.mem_cons.mp h with eq | mem
    · cases eq
      rw [if_pos rfl]
    · rw [if_neg (String.ne_of_lt (first _ mem)), ih rest mem]

/-- The values of an ordered object are ordered. -/
lemma IsOrdered.value (ord : o.IsOrdered) (h : o.get? k = some v) : v.isOrdered = true := by
  have mem := mem_of_get? h
  clear h
  induction o with
  | nil => cases mem
  | cons f o ih =>
    obtain ⟨l, w⟩ := f
    obtain ⟨_, value, rest⟩ := isOrdered_cons.mp ord
    rcases List.mem_cons.mp mem with eq | mem
    · cases eq
      exact value
    · exact ih rest mem

/-- So are its objects. -/
lemma IsOrdered.getObject? {m : Object} (ord : o.IsOrdered) (h : o.getObject? k = some m) :
    m.IsOrdered := ord.value (getObject?_eq_some.mp h)

/-- And the elements of its arrays. -/
lemma IsOrdered.getArray? {xs : List Json} (ord : o.IsOrdered) (h : o.getArray? k = some xs) :
    ∀ x ∈ xs, x.isOrdered = true := isOrdered_arr.mp (ord.value (getArray?_eq_some.mp h))

/-- An ordered object is determined by what its keys hold. -/
theorem IsOrdered.ext (ho : o.IsOrdered) (hp : p.IsOrdered) (h : ∀ k, o.get? k = p.get? k) : o = p := by
  induction o generalizing p with
  | nil =>
    cases p with
    | nil => rfl
    | cons f p =>
      have first := h f.1
      rw [get?_nil, get?_cons, if_pos rfl] at first
      cases first
  | cons f o ih =>
    obtain ⟨k, v⟩ := f
    cases p with
    | nil =>
      have first := h k
      rw [get?_nil, get?_cons, if_pos rfl] at first
      cases first
    | cons g p =>
      obtain ⟨l, w⟩ := g
      obtain ⟨ok, _, ho⟩ := isOrdered_cons.mp ho
      obtain ⟨pl, _, pp⟩ := isOrdered_cons.mp hp
      -- the smallest keys are the same
      have same : k = l := by
        by_contra ne
        rcases lt_or_lt_of_ne ne with lt | lt
        · have first := h k
          rw [get?_cons, if_pos rfl, get?_cons, if_neg (Ne.symm ne),
            get?_of_lt fun f hf => String.lt_trans lt (pl f hf)] at first
          cases first
        · have first := h l
          rw [get?_cons, if_neg ne, get?_of_lt fun f hf => String.lt_trans lt (ok f hf), get?_cons,
            if_pos rfl] at first
          cases first
      subst same
      have value := h k
      rw [get?_cons, if_pos rfl, get?_cons, if_pos rfl] at value
      cases value
      refine congrArg _ (ih ho pp ?_)
      intro m
      have rest := h m
      rw [get?_cons, get?_cons] at rest
      split at rest
      case isTrue e =>
        subst e
        rw [get?_of_lt ok, get?_of_lt pl]
      case isFalse => exact rest

/-! ## Setting and removing keys -/

/-- Replacing keeps the names. -/
lemma getNames_replace (o : Object) (k : String) (v : Json) : (o.replace k v).getNames = o.getNames := by
  induction o with
  | nil => rfl
  | cons f o ih =>
    obtain ⟨l, w⟩ := f
    rw [replace]
    split
    case isTrue => rfl
    case isFalse =>
      rw [getNames, List.map_cons, getNames, List.map_cons]
      exact congrArg _ ih

/-- An object is ordered if its names are, and its values. -/
lemma isOrdered_iff_names {o : Object} :
    o.IsOrdered ↔ o.getNames.Pairwise (· < ·) ∧ ∀ f ∈ o, f.2.isOrdered = true := by
  induction o with
  | nil => simp [isOrdered_nil, getNames]
  | cons f o ih =>
    obtain ⟨l, w⟩ := f
    rw [isOrdered_cons, ih, List.forall_mem_cons, getNames, getNames, List.map_cons, List.pairwise_cons,
      List.forall_mem_map]
    refine ⟨?_, ?_⟩
    · rintro ⟨first, value, rest, values⟩
      exact ⟨⟨first, rest⟩, value, values⟩
    · rintro ⟨⟨first, rest⟩, value, values⟩
      exact ⟨first, value, rest, values⟩

/-- Replacing adds one field. -/
lemma mem_replace {f : String × Json} (h : f ∈ o.replace k v) : f ∈ o ∨ f = (k, v) := by
  induction o with
  | nil => cases h
  | cons g o ih =>
    obtain ⟨l, w⟩ := g
    rw [replace] at h
    split at h
    case isTrue e =>
      subst e
      rcases List.mem_cons.mp h with eq | mem
      · exact .inr eq
      · exact .inl (List.mem_cons_of_mem _ mem)
    case isFalse =>
      rcases List.mem_cons.mp h with eq | mem
      · exact .inl (List.mem_cons.mpr (.inl eq))
      · exact (ih mem).imp_left (List.mem_cons_of_mem _)

/-- Inserting adds one field. -/
lemma mem_insert {f : String × Json} (h : f ∈ o.insert k v) : f ∈ o ∨ f = (k, v) := by
  induction o with
  | nil => exact .inr (List.mem_singleton.mp h)
  | cons g o ih =>
    obtain ⟨l, w⟩ := g
    rw [insert] at h
    split at h
    · exact (List.mem_cons.mp h).symm
    · rcases List.mem_cons.mp h with eq | mem
      · exact .inl (List.mem_cons.mpr (.inl eq))
      · exact (ih mem).imp_left (List.mem_cons_of_mem _)

/-- Replacing keeps the order. -/
lemma IsOrdered.replace (ord : o.IsOrdered) (k : String) (hv : v.isOrdered = true) :
    (o.replace k v).IsOrdered := by
  obtain ⟨names, values⟩ := isOrdered_iff_names.mp ord
  refine isOrdered_iff_names.mpr ⟨by rwa [getNames_replace], ?_⟩
  intro f mem
  rcases mem_replace mem with mem | rfl
  · exact values f mem
  · exact hv

/-- Inserting keeps the order. -/
lemma IsOrdered.insert (ord : o.IsOrdered) (new : o.get? k = none) (hv : v.isOrdered = true) :
    (o.insert k v).IsOrdered := by
  induction o with
  | nil => exact isOrdered_cons.mpr ⟨nofun, hv, ord⟩
  | cons f o ih =>
    obtain ⟨l, w⟩ := f
    obtain ⟨first, value, rest⟩ := isOrdered_cons.mp ord
    rw [get?_cons] at new
    rw [Object.insert]
    split
    case isTrue lt =>
      refine isOrdered_cons.mpr ⟨?_, hv, ord⟩
      intro f mem
      rcases List.mem_cons.mp mem with rfl | mem
      · exact lt
      · exact String.lt_trans lt (first f mem)
    case isFalse ge =>
      split at new
      case isTrue => cases new
      case isFalse ne =>
        refine isOrdered_cons.mpr ⟨?_, value, ih rest new⟩
        intro f mem
        rcases mem_insert mem with mem | rfl
        · exact first f mem
        · exact (lt_or_lt_of_ne ne).resolve_right ge

/-- Setting a key keeps the order. -/
theorem IsOrdered.set (ord : o.IsOrdered) (k : String) (hv : v.isOrdered = true) :
    (o.set k v).IsOrdered := by
  rw [Object.set]
  split
  case isTrue => exact ord.replace k hv
  case isFalse no => exact ord.insert (has_eq_false_iff.mp (by simpa using no)) hv

/-- Leaving fields out keeps the order. -/
theorem IsOrdered.filter (ord : o.IsOrdered) (keep : String × Json → Bool) :
    IsOrdered (o.filter keep) := by
  obtain ⟨names, values⟩ := isOrdered_iff_names.mp ord
  refine isOrdered_iff_names.mpr ⟨?_, ?_⟩
  · exact names.sublist (List.filter_sublist.map Prod.fst)
  · intro f mem
    exact values f (List.mem_filter.mp mem).1

/-- Removing keeps the order. -/
lemma IsOrdered.remove (ord : o.IsOrdered) (k : String) : (o.remove k).IsOrdered := ord.filter _

end Object

/-! ## Reading a text -/

/-- A parser gives back every ordered value which a printer prints. -/
def Reads (parse : String → Option Json) (print : Json → String) : Prop :=
  ∀ j, j.isOrdered = true → parse (print j) = some j

/-- The text of a value. -/
def condense (j : Json) : String := String.ofList (text j)

/-- Objects are printed in different ways. -/
lemma condense_injective : Function.Injective condense := by
  intro a b h
  have e : text a ++ [] = text b ++ [] := congrArg (· ++ []) (String.ofList_injective h)
  have nil : Ends [] := rfl
  exact (text_append a b nil nil e).1

open Classical in
/-- The value of a text. -/
noncomputable def ofText (s : String) : Option Json :=
  if h : ∃ j, condense j = s then some h.choose else none

/-- The parser of the examples reads back what is printed. -/
lemma reads_condense : Reads ofText condense := by
  intro j _
  have h : ∃ i, condense i = condense j := ⟨j, rfl⟩
  rw [ofText, dif_pos h]
  exact congrArg some (condense_injective h.choose_spec)

/-- An empty text is no value. -/
lemma ofText_empty : ofText "" = none := by
  rw [ofText, dif_neg]
  rintro ⟨j, eq⟩
  obtain ⟨c, cs, start, _⟩ := text_start j
  have chars : text j = [] := String.ofList_injective eq
  rw [start] at chars
  cases chars

end UserPortal.Json
