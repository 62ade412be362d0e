import UserPortal.Framework.Dynamic
import UserPortal.Json.Value

/-!
# Fields of JSON objects

Port of `field_from_json` and `field_to_json` of `src/framework/RESTAPI_utils.h`, as far as the objects of a
subscriber use them. A field is read into a member which holds something already. An exception ends the
reading and leaves what was read so far.
-/

namespace UserPortal

/-- Reading an object into a target: whether there was no exception, and what the target is then. -/
abbrev Decoder (T : Type) : Type := Json.Object → T → Bool × T

/-- A type with `to_json`, which sets fields of an object. -/
class ToJsonObject (T : Type) where
  toJson : T → Json.Object → Json.Object

/-- A type with a default constructor and `from_json`. -/
class JsonObject (T : Type) where
  fresh : T
  fromJson : Conversions → Decoder T

namespace Decoder

variable {T V : Type}

/-- A field is read into a member. -/
def member (get : T → V) (set : T → V → T) (field : Decoder V) : Decoder T := fun o t =>
  let (completed, v) := field o (get t)
  (completed, set t v)

/-- The `try` block of `from_json`. -/
def tryAll : List (Decoder T) → Decoder T
  | [], _, t => (true, t)
  | d :: ds, o, t =>
    match d o t with
    | (true, t) => tryAll ds o t
    | (false, t) => (false, t)

end Decoder

open Decoder

/-! ## `field_from_json` -/

section FieldFromJson

variable {T V : Type} (conv : Conversions) (field : String)

/-- A member which is converted, where the field is there and not null. -/
def scalarFromJson (convert : Json → Option V) : Decoder V := fun o v =>
  if o.isNull field then (true, v)
  else
    match (o.get? field).bind convert with
    | none => (false, v)
    | some v => (true, v)

/-- `field_from_json` at a `std::string` -/
def stringFromJson : Decoder String := scalarFromJson field conv.toString

/-- `field_from_json` at a `uint64_t` -/
def uint64FromJson : Decoder Nat := scalarFromJson field conv.toUInt64

/-- `field_from_json` at an `int32_t` -/
def int32FromJson : Decoder Int := scalarFromJson field conv.toInt

/-- `field_from_json` at a `bool` -/
def boolFromJson : Decoder Bool := scalarFromJson field fun v => (conv.toString v).map (· = "true")

/-- The loop over an array of strings. -/
def pushStrings : List Json → List String → Bool × List String
  | [], value => (true, value)
  | i :: is, value =>
    match conv.toString i with
    | none => (false, value)
    | some s => pushStrings is (value ++ [s])

/-- `field_from_json` at a `Types::StringVec`, which is cleared. -/
def stringsFromJson : Decoder (List String) := fun o value =>
  match o.getArray? field with
  | none => (true, value)
  | some is => pushStrings conv is []

/-- The loop over an array of objects. What `from_json` returns for an object is not looked at. -/
def pushObjects [JsonObject T] : List Json → List T → Bool × List T
  | [], value => (true, value)
  | .obj inner :: is, value =>
    pushObjects is (value ++ [(JsonObject.fromJson conv inner JsonObject.fresh).2])
  | _ :: _, value => (false, value)

/-- `field_from_json` at a vector of objects, which is not cleared. -/
def objectsFromJson [JsonObject T] : Decoder (List T) := fun o value =>
  match o.getArray? field with
  | none => (true, value)
  | some is => pushObjects conv is value

/-- `field_from_json` at an object, which is read in its place. -/
def objectFromJson [JsonObject T] : Decoder T := fun o value =>
  match o.getObject? field with
  | none => (true, value)
  | some inner => (true, (JsonObject.fromJson conv inner value).2)

end FieldFromJson

/-! ## `field_to_json` -/

section FieldToJson

variable {T : Type} (field : String)

/-- `field_to_json` at a `std::string` -/
def stringToJson (s : String) (o : Json.Object) : Json.Object := o.set field (.str s)

/-- `field_to_json` at a `Types::StringVec` -/
def stringsToJson (ss : List String) (o : Json.Object) : Json.Object := o.set field (.arr (ss.map Json.str))

/-- An object which `to_json` fills. -/
def newObject [ToJsonObject T] (t : T) : Json.Object := ToJsonObject.toJson t []

/-- `field_to_json` at a vector of objects -/
def objectsToJson [ToJsonObject T] (ts : List T) (o : Json.Object) : Json.Object :=
  o.set field (.arr ((ts.map newObject).map Json.obj))

end FieldToJson

/-! ## Texts -/

section Texts

variable {T : Type}

/-- `to_string`, with `Stringifier::condense`. -/
def toText [ToJsonObject T] (condense : Json → String) (t : T) : String := condense (.obj (newObject t))

/-- `to_object`, on a new object. `none` is an exception: a text which is not the text of an object. -/
def toObject [JsonObject T] (conv : Conversions) (parse : String → Option Json) (text : String) : Option T :=
  if text = "" then some JsonObject.fresh
  else
    match parse text with
    | some (.obj o) => some (JsonObject.fromJson conv o JsonObject.fresh).2
    | _ => none

end Texts

/-! ## Reading what is there -/

section Reading

variable {T V : Type} {conv : Conversions} {o : Json.Object} {field : String}

lemma scalarFromJson_of {convert : Json → Option V} {j : Json} {v : V} (found : o.get? field = some j)
    (some : j ≠ .null) (converts : convert j = .some v) (p : V) :
    scalarFromJson field convert o p = (true, v) := by
  have present : o.isNull field = false := by
    rw [Json.Object.isNull, found]
    cases j with
    | null => exact absurd rfl some
    | _ => rfl
  rw [scalarFromJson, present, if_neg Bool.false_ne_true, found, Option.bind_some, converts]

lemma pushStrings_str (ss value : List String) :
    pushStrings conv (ss.map Json.str) value = (true, value ++ ss) := by
  induction ss generalizing value with
  | nil => rw [List.map_nil, pushStrings, List.append_nil]
  | cons s ss ih =>
    rw [List.map_cons, pushStrings, conv.toString_str]
    dsimp only
    rw [ih, List.append_assoc, List.singleton_append]

lemma pushObjects_obj [JsonObject T] (inners : List Json.Object) (value : List T) :
    pushObjects conv (inners.map Json.obj) value =
      (true, value ++ inners.map fun i => (JsonObject.fromJson conv i JsonObject.fresh).2) := by
  induction inners generalizing value with
  | nil => rw [List.map_nil, pushObjects, List.map_nil, List.append_nil]
  | cons i inners ih =>
    rw [List.map_cons, pushObjects, ih, List.map_cons, List.append_assoc, List.singleton_append]

lemma stringFromJson_of {s : String} (found : o.get? field = some (.str s)) (p : String) :
    stringFromJson conv field o p = (true, s) :=
  scalarFromJson_of found (fun eq => by cases eq) (conv.toString_str s) p

lemma stringsFromJson_of {ss : List String} (found : o.get? field = some (.arr (ss.map Json.str)))
    (p : List String) : stringsFromJson conv field o p = (true, ss) := by
  rw [stringsFromJson, Json.Object.getArray?_eq_some.mpr found]
  exact pushStrings_str ss []

lemma objectsFromJson_of [JsonObject T] {inners : List Json.Object}
    (found : o.get? field = some (.arr (inners.map Json.obj))) (p : List T) :
    objectsFromJson conv field o p =
      (true, p ++ inners.map fun i => (JsonObject.fromJson conv i JsonObject.fresh).2) := by
  rw [objectsFromJson, Json.Object.getArray?_eq_some.mpr found]
  exact pushObjects_obj inners p

end Reading

/-! ## Fields of the right type -/

section Present

variable (Complete : Json.Object → Prop) (o : Json.Object) (field : String)

def HasString : Prop := ∃ s, o.get? field = some (.str s)

def HasUInt64 : Prop := ∃ n : Nat, n < 2 ^ 64 ∧ o.get? field = some (.int n)

def HasInt32 : Prop := ∃ n : Int, -2 ^ 31 ≤ n ∧ n < 2 ^ 31 ∧ o.get? field = some (.int n)

def HasBool : Prop := ∃ b, o.get? field = some (.bool b)

def HasStrings : Prop := ∃ ss : List String, o.get? field = some (.arr (ss.map Json.str))

/-- An object which is complete itself. -/
def HasObject : Prop := ∃ inner, o.get? field = some (.obj inner) ∧ Complete inner

/-- Objects which are complete themselves. -/
def HasObjects : Prop :=
  ∃ inners : List Json.Object, o.get? field = some (.arr (inners.map Json.obj)) ∧ ∀ i ∈ inners, Complete i

end Present

end UserPortal
