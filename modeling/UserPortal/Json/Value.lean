import Mathlib.Tactic.Common

/-!
# JSON values

JSON values and the operations on objects which programs over a parsed document use. An object is
an association list kept in the order in which it prints: setting a key that is present replaces its
value in place, setting a new key inserts it before the first greater key.

A missing key and a key of another type are told apart from a present one by `Option`: `get?` is the
value of a key, `getObject?` and `getArray?` are the value when it has that type.
-/

namespace UserPortal

/-- JSON values. `frac m e` is the number `m / 10 ^ e`. -/
inductive Json where
  | null
  | bool (b : Bool)
  | int (n : Int)
  | frac (m : Int) (e : Nat)
  | str (s : String)
  | arr (xs : List Json)
  | obj (fields : List (String × Json))
  deriving Inhabited

namespace Json

mutual

/-- Equality of values is decidable. -/
def decEq : (a b : Json) → Decidable (a = b)
  | .null, .null => isTrue rfl
  | .bool a, .bool b => decidable_of_iff (a = b) (by simp)
  | .int a, .int b => decidable_of_iff (a = b) (by simp)
  | .frac m a, .frac n b => decidable_of_iff (m = n ∧ a = b) (by simp)
  | .str a, .str b => decidable_of_iff (a = b) (by simp)
  | .arr a, .arr b => @decidable_of_iff _ (a = b) (by simp) (decEqArr a b)
  | .obj a, .obj b => @decidable_of_iff _ (a = b) (by simp) (decEqObj a b)
  | .null, .bool _ | .null, .int _ | .null, .frac _ _ | .null, .str _ | .null, .arr _ | .null, .obj _
  | .bool _, .null | .bool _, .int _ | .bool _, .frac _ _ | .bool _, .str _ | .bool _, .arr _
  | .bool _, .obj _ | .int _, .null | .int _, .bool _ | .int _, .frac _ _ | .int _, .str _
  | .int _, .arr _ | .int _, .obj _ | .frac _ _, .null | .frac _ _, .bool _ | .frac _ _, .int _
  | .frac _ _, .str _ | .frac _ _, .arr _ | .frac _ _, .obj _ | .str _, .null | .str _, .bool _
  | .str _, .int _ | .str _, .frac _ _ | .str _, .arr _ | .str _, .obj _ | .arr _, .null
  | .arr _, .bool _ | .arr _, .int _ | .arr _, .frac _ _ | .arr _, .str _ | .arr _, .obj _
  | .obj _, .null | .obj _, .bool _ | .obj _, .int _ | .obj _, .frac _ _ | .obj _, .str _
  | .obj _, .arr _ => isFalse nofun

/-- Equality of arrays is decidable. -/
def decEqArr : (a b : List Json) → Decidable (a = b)
  | [], [] => isTrue rfl
  | [], _ :: _ | _ :: _, [] => isFalse nofun
  | a :: as, b :: bs =>
    @decidable_of_iff _ (a = b ∧ as = bs) (by simp)
      (@instDecidableAnd _ _ (decEq a b) (decEqArr as bs))

/-- Equality of objects is decidable. -/
def decEqObj : (a b : List (String × Json)) → Decidable (a = b)
  | [], [] => isTrue rfl
  | [], _ :: _ | _ :: _, [] => isFalse nofun
  | (k, a) :: as, (l, b) :: bs =>
    @decidable_of_iff _ (k = l ∧ a = b ∧ as = bs) (by simp [and_assoc])
      (@instDecidableAnd _ _ _ (@instDecidableAnd _ _ (decEq a b) (decEqObj as bs)))

end

instance : DecidableEq Json := decEq

/-- Objects, as the list of their fields. -/
abbrev Object := List (String × Json)

namespace Object

/-- The value of a key. -/
def get? : Object → String → Option Json
  | [], _ => none
  | (k', v) :: o, k => if k' = k then some v else get? o k

/-- The object has the key. -/
def has (o : Object) (k : String) : Bool := (o.get? k).isSome

/-- The value of the key, when it is an object. -/
def getObject? (o : Object) (k : String) : Option Object :=
  match o.get? k with
  | some (.obj m) => some m
  | _ => none

/-- The value of the key, when it is an array. -/
def getArray? (o : Object) (k : String) : Option (List Json) :=
  match o.get? k with
  | some (.arr xs) => some xs
  | _ => none

/-- The value of the key, when it is a string. -/
def getString? (o : Object) (k : String) : Option String :=
  match o.get? k with
  | some (.str s) => some s
  | _ => none

/-- The key is missing or its value is `null`. -/
def isNull (o : Object) (k : String) : Bool :=
  match o.get? k with
  | none | some .null => true
  | some _ => false

/-- The keys in order. -/
def getNames (o : Object) : List String := o.map Prod.fst

/-- Replace the value of a key which is present. -/
def replace : Object → String → Json → Object
  | [], _, _ => []
  | (k', w) :: o, k, v => if k' = k then (k', v) :: o else (k', w) :: replace o k v

/-- Insert a key which is not present before the first greater key. -/
def insert : Object → String → Json → Object
  | [], k, v => [(k, v)]
  | (k', w) :: o, k, v => if k < k' then (k, v) :: (k', w) :: o else (k', w) :: insert o k v

/-- Set the value of a key. -/
def set (o : Object) (k : String) (v : Json) : Object :=
  if o.has k then o.replace k v else o.insert k v

/-- Remove a key. -/
def remove (o : Object) (k : String) : Object := o.filter fun f => f.1 ≠ k

@[simp] lemma get?_nil (k : String) : get? [] k = none := rfl

lemma get?_cons (k' : String) (v : Json) (o : Object) (k : String) :
    get? ((k', v) :: o) k = if k' = k then some v else get? o k := rfl

/-- A key is there if it has a value. -/
lemma has_iff {o : Object} {k : String} : o.has k = true ↔ ∃ v, o.get? k = some v := by
  rw [has, Option.isSome_iff_exists]

/-- A key is not there if it has no value. -/
lemma has_eq_false_iff {o : Object} {k : String} : o.has k = false ↔ o.get? k = none := by
  rw [has, Option.isSome_eq_false_iff, Option.isNone_iff_eq_none]

/-- A key has an object if its value is one. -/
lemma getObject?_eq_some {o m : Object} {k : String} :
    o.getObject? k = some m ↔ o.get? k = some (.obj m) := by
  rw [getObject?]
  split <;> simp_all

/-- A key has an array if its value is one. -/
lemma getArray?_eq_some {o : Object} {xs : List Json} {k : String} :
    o.getArray? k = some xs ↔ o.get? k = some (.arr xs) := by
  rw [getArray?]
  split <;> simp_all

/-- A key has a string if its value is one. -/
lemma getString?_eq_some {o : Object} {s : String} {k : String} :
    o.getString? k = some s ↔ o.get? k = some (.str s) := by
  rw [getString?]
  split <;> simp_all

/-- A key with an object is there. -/
lemma has_of_getObject? {o m : Object} {k : String} (h : o.getObject? k = some m) :
    o.has k = true := has_iff.mpr ⟨_, getObject?_eq_some.mp h⟩

/-- A key with an array is there. -/
lemma has_of_getArray? {o : Object} {xs : List Json} {k : String} (h : o.getArray? k = some xs) :
    o.has k = true := has_iff.mpr ⟨_, getArray?_eq_some.mp h⟩

/-- Replacing changes the value of one key. -/
lemma get?_replace {o : Object} {k : String} (v : Json) (h : o.has k = true) (k' : String) :
    (o.replace k v).get? k' = if k = k' then some v else o.get? k' := by
  induction o with
  | nil => simp [has] at h
  | cons f o ih =>
    obtain ⟨l, w⟩ := f
    by_cases e : l = k
    · subst e
      simp only [replace, if_pos, get?_cons]
      split <;> rfl
    · have h' : Object.has o k = true := by simpa [has, get?_cons, e] using h
      rw [replace, if_neg e, get?_cons, get?_cons, ih h']
      by_cases e' : l = k'
      · subst e'
        rw [if_pos rfl, if_neg (Ne.symm e), if_pos rfl]
      · rw [if_neg e', if_neg e']

/-- Inserting gives one key a value. -/
lemma get?_insert {o : Object} {k : String} (v : Json) (h : o.get? k = none) (k' : String) :
    (o.insert k v).get? k' = if k = k' then some v else o.get? k' := by
  induction o with
  | nil => rfl
  | cons f o ih =>
    obtain ⟨l, w⟩ := f
    have ne : l ≠ k := by
      intro e
      simp [get?_cons, e] at h
    have h' : Object.get? o k = none := by simpa [get?_cons, ne] using h
    rw [insert]
    split
    · rfl
    · rw [get?_cons, get?_cons, ih h']
      by_cases e' : l = k'
      · subst e'
        rw [if_pos rfl, if_neg (Ne.symm ne), if_pos rfl]
      · rw [if_neg e', if_neg e']

/-- What a key holds after a key was set. -/
lemma get?_set (o : Object) (k : String) (v : Json) (k' : String) :
    (o.set k v).get? k' = if k = k' then some v else o.get? k' := by
  rw [set]
  split
  case isTrue h => exact get?_replace v h k'
  case isFalse h => exact get?_insert v (has_eq_false_iff.mp (by simpa using h)) k'

@[simp] lemma get?_set_self (o : Object) (k : String) (v : Json) :
    (o.set k v).get? k = some v := by
  rw [get?_set, if_pos rfl]

/-- The other keys keep their values. -/
lemma get?_set_of_ne (o : Object) {k k' : String} (v : Json) (ne : k ≠ k') :
    (o.set k v).get? k' = o.get? k' := by
  rw [get?_set, if_neg ne]

@[simp] lemma has_set_self (o : Object) (k : String) (v : Json) : (o.set k v).has k = true := by
  simp [has]

/-- The other keys stay where they are. -/
lemma has_set_of_ne (o : Object) {k k' : String} (v : Json) (ne : k ≠ k') :
    (o.set k v).has k' = o.has k' := by
  rw [has, has, get?_set_of_ne o v ne]

/-- The arrays of the other keys stay. -/
lemma getArray?_set_of_ne (o : Object) {k k' : String} (v : Json) (ne : k ≠ k') :
    (o.set k v).getArray? k' = o.getArray? k' := by
  rw [getArray?, getArray?, get?_set_of_ne o v ne]

/-- The objects of the other keys stay. -/
lemma getObject?_set_of_ne (o : Object) {k k' : String} (v : Json) (ne : k ≠ k') :
    (o.set k v).getObject? k' = o.getObject? k' := by
  rw [getObject?, getObject?, get?_set_of_ne o v ne]

/-- The strings of the other keys stay. -/
lemma getString?_set_of_ne (o : Object) {k k' : String} (v : Json) (ne : k ≠ k') :
    (o.set k v).getString? k' = o.getString? k' := by
  rw [getString?, getString?, get?_set_of_ne o v ne]

@[simp] lemma getArray?_set_self (o : Object) (k : String) (xs : List Json) :
    (o.set k (.arr xs)).getArray? k = some xs := getArray?_eq_some.mpr (get?_set_self o k _)

@[simp] lemma getObject?_set_self (o m : Object) (k : String) :
    (o.set k (.obj m)).getObject? k = some m := getObject?_eq_some.mpr (get?_set_self o k _)

@[simp] lemma getString?_set_self (o : Object) (k s : String) :
    (o.set k (.str s)).getString? k = some s := getString?_eq_some.mpr (get?_set_self o k _)

/-- What a key holds after a key was removed. -/
lemma get?_remove (o : Object) (k k' : String) :
    (o.remove k).get? k' = if k = k' then none else o.get? k' := by
  induction o with
  | nil => simp [remove]
  | cons f o ih =>
    obtain ⟨l, w⟩ := f
    rw [remove] at ih ⊢
    by_cases e : l = k
    · subst e
      rw [List.filter_cons_of_neg (by simp), ih, get?_cons]
      split <;> rfl
    · rw [List.filter_cons_of_pos (by simpa using e), get?_cons, get?_cons, ih]
      by_cases e' : l = k'
      · subst e'
        rw [if_pos rfl, if_neg (Ne.symm e), if_pos rfl]
      · rw [if_neg e', if_neg e']

@[simp] lemma get?_remove_self (o : Object) (k : String) : (o.remove k).get? k = none := by
  rw [get?_remove, if_pos rfl]

/-- Removing leaves the other keys. -/
lemma get?_remove_of_ne (o : Object) {k k' : String} (ne : k ≠ k') :
    (o.remove k).get? k' = o.get? k' := by
  rw [get?_remove, if_neg ne]

@[simp] lemma has_remove_self (o : Object) (k : String) : (o.remove k).has k = false := by
  simp [has]

/-- Setting a key again is setting it once. -/
lemma set_set {o : Object} {k : String} (h : o.has k = true) (v w : Json) :
    (o.set k v).set k w = o.set k w := by
  rw [set, if_pos (has_set_self o k v), set, if_pos h, set, if_pos h]
  clear h
  induction o with
  | nil => rfl
  | cons f o ih =>
    obtain ⟨l, u⟩ := f
    by_cases e : l = k
    · rw [replace, if_pos e, replace, if_pos e, replace, if_pos e]
    · rw [replace, if_neg e, replace, if_neg e, replace, if_neg e, ih]

/-- Two keys which are present may be set in either order. -/
lemma set_comm {o : Object} {k l : String} (ne : k ≠ l) (hk : o.has k = true) (hl : o.has l = true)
    (v w : Json) : (o.set k v).set l w = (o.set l w).set k v := by
  have hk' : (o.set l w).has k = true := by rw [has_set_of_ne o w ne.symm, hk]
  have hl' : (o.set k v).has l = true := by rw [has_set_of_ne o v ne, hl]
  rw [set, if_pos hl', set, if_pos hk, set, if_pos hk', set, if_pos hl]
  clear hk hl hk' hl'
  induction o with
  | nil => rfl
  | cons f o ih =>
    obtain ⟨m, u⟩ := f
    by_cases e : m = k
    · subst e
      rw [replace, if_pos rfl, replace, if_neg ne, replace, if_neg ne, replace, if_pos rfl]
    · by_cases e' : m = l
      · subst e'
        rw [replace, if_neg e, replace, if_pos rfl, replace, if_pos rfl, replace, if_neg e]
      · rw [replace, if_neg e, replace, if_neg e', replace, if_neg e', replace, if_neg e, ih]

end Object

/-- The object that a value is. -/
def object? : Json → Option Object
  | .obj m => some m
  | _ => none

/-- The array that a value is. -/
def array? : Json → Option (List Json)
  | .arr xs => some xs
  | _ => none

/-- The value is a string. -/
def isString : Json → Bool
  | .str _ => true
  | _ => false

/-- A value is an object if it is one. -/
lemma object?_eq_some {j : Json} {m : Object} : j.object? = some m ↔ j = .obj m := by
  cases j <;> simp [object?]

end Json

end UserPortal
