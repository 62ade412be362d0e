import UserPortal.Json.Ordered
import UserPortal.RestObjects.FromJson

/-!
# The records of subscribers

Port of the two functions `Convert` of `src/storage/storage_subscriber_info.cpp`, and of the functions
`to_json` of `src/RESTObjects/RESTAPI_SubObjects.cpp` with which a record is written. `Stringifier::condense` and
the parser are parameters: the parser reads back what is printed, and an empty text is no document.

`convert_roundTrip`: what is written is read back, as far as it is written.
-/

namespace UserPortal.SubObjects

variable {Rest : Type} [Inhabited Rest]

instance : ToJsonObject Location where
  toJson l o :=
    let o := stringToJson "buildingName" l.buildingName o
    let o := stringsToJson "addressLines" l.addressLines o
    let o := stringToJson "city" l.city o
    let o := stringToJson "state" l.state o
    let o := stringToJson "postal" l.postal o
    let o := stringToJson "country" l.country o
    let o := stringsToJson "phones" l.phones o
    stringsToJson "mobiles" l.mobiles o

instance : ToJsonObject (AccessPoint Rest) where
  toJson a o :=
    let o := stringToJson "id" a.id o
    let o := stringToJson "macAddress" a.macAddress o
    let o := stringToJson "serialNumber" a.serialNumber o
    let o := stringToJson "name" a.name o
    stringToJson "deviceType" a.deviceType o

instance : ToJsonObject (AccessPointList Rest) where
  toJson a o := objectsToJson "list" a.list o

end UserPortal.SubObjects

namespace UserPortal.Storage
open SubObjects

variable {Rest : Type} [Inhabited Rest]

/-- `SubInfoDBRecordType` -/
abbrev SubInfoDBRecordType : Type :=
  String × String × String × String × String × String × String × String × String × String × Nat × Nat

/-- `Convert`, from a tuple. `none` is an exception. -/
def convertIn (conv : Conversions) (parse : String → Option Json) (r : SubInfoDBRecordType)
    (out : SubscriberInfo Rest) : Option (SubscriberInfo Rest) := do
  let (id, userId, firstName, initials, lastName, phoneNumber, secondaryEmail, points, service, billing,
    created, modified) := r
  let out := { out with id, userId, firstName, initials, lastName, phoneNumber, secondaryEmail }
  let accessPoints ← toObject conv parse points
  let out := { out with accessPoints }
  let serviceAddress ← toObject conv parse service
  let out := { out with serviceAddress }
  let billingAddress ← toObject conv parse billing
  return { out with billingAddress, created, modified }

/-- `Convert`, to a tuple. -/
def convertOut (condense : Json → String) (i : SubscriberInfo Rest) : SubInfoDBRecordType :=
  (i.id, i.userId, i.firstName, i.initials, i.lastName, i.phoneNumber, i.secondaryEmail,
    toText condense i.accessPoints, toText condense i.serviceAddress, toText condense i.billingAddress,
    i.created, i.modified)

/-! ## Objects and their texts -/

section Texts

variable {T : Type} {conv : Conversions} {condense : Json → String} {parse : String → Option Json} {t : T}

/-- What `to_json` writes of a value is in order, and `from_json` reads it back into a new one. -/
structure RoundTrips (conv : Conversions) [JsonObject T] [ToJsonObject T] (t : T) : Prop where
  ordered : (newObject t).IsOrdered
  reads : (JsonObject.fromJson conv (newObject t) JsonObject.fresh).2 = t

/-- A value comes back from its text. The text is not empty, since an empty text is not parsed. -/
lemma RoundTrips.toObject_toText [JsonObject T] [ToJsonObject T] (reads : Json.Reads parse condense)
    (noDocument : parse "" = none) (roundTrips : RoundTrips conv t) :
    toObject conv parse (toText condense t) = some t := by
  have parsed : parse (toText condense t) = some (.obj (newObject t)) := reads _ roundTrips.ordered
  have written : toText condense t ≠ "" := by
    intro empty
    rw [empty, noDocument] at parsed
    cases parsed
  rw [toObject, if_neg written, parsed]
  exact congrArg some roundTrips.reads

end Texts

section Fields

variable {o : Json.Object} {field key : String}

lemma get?_stringToJson (s : String) :
    (stringToJson field s o).get? key = if field = key then some (.str s) else o.get? key :=
  Json.Object.get?_set ..

lemma get?_stringsToJson (ss : List String) :
    (stringsToJson field ss o).get? key =
      if field = key then some (.arr (ss.map Json.str)) else o.get? key :=
  Json.Object.get?_set ..

lemma ordered_stringToJson (ord : o.IsOrdered) (s : String) : (stringToJson field s o).IsOrdered :=
  ord.set field rfl

lemma ordered_stringsToJson (ord : o.IsOrdered) (ss : List String) :
    (stringsToJson field ss o).IsOrdered := by
  apply ord.set
  refine Json.isOrdered_arr.mpr fun x mem => ?_
  obtain ⟨s, _, rfl⟩ := List.mem_map.mp mem
  rfl

end Fields

/-! ## The objects of a record -/

section Objects

variable {conv : Conversions}

lemma location_roundTrips (conv : Conversions) (l : Location) : RoundTrips conv l where
  ordered := by
    simp only [newObject, ToJsonObject.toJson]
    apply ordered_stringsToJson
    apply ordered_stringsToJson
    apply ordered_stringToJson
    apply ordered_stringToJson
    apply ordered_stringToJson
    apply ordered_stringToJson
    apply ordered_stringsToJson
    apply ordered_stringToJson
    exact Json.Object.isOrdered_nil
  reads := by
    have buildingName : (newObject l).get? "buildingName" = some (.str l.buildingName) := by
      simp [newObject, ToJsonObject.toJson, get?_stringToJson, get?_stringsToJson]
    have addressLines : (newObject l).get? "addressLines" = some (.arr (l.addressLines.map Json.str)) := by
      simp [newObject, ToJsonObject.toJson, get?_stringToJson, get?_stringsToJson]
    have city : (newObject l).get? "city" = some (.str l.city) := by
      simp [newObject, ToJsonObject.toJson, get?_stringToJson, get?_stringsToJson]
    have state : (newObject l).get? "state" = some (.str l.state) := by
      simp [newObject, ToJsonObject.toJson, get?_stringToJson, get?_stringsToJson]
    have postal : (newObject l).get? "postal" = some (.str l.postal) := by
      simp [newObject, ToJsonObject.toJson, get?_stringToJson, get?_stringsToJson]
    have country : (newObject l).get? "country" = some (.str l.country) := by
      simp [newObject, ToJsonObject.toJson, get?_stringToJson, get?_stringsToJson]
    have phones : (newObject l).get? "phones" = some (.arr (l.phones.map Json.str)) := by
      simp [newObject, ToJsonObject.toJson, get?_stringsToJson]
    have mobiles : (newObject l).get? "mobiles" = some (.arr (l.mobiles.map Json.str)) := by
      simp [newObject, ToJsonObject.toJson, get?_stringsToJson]
    simp only [JsonObject.fromJson, Decoder.tryAll, Decoder.member, stringFromJson_of buildingName,
      stringsFromJson_of addressLines, stringFromJson_of city, stringFromJson_of state,
      stringFromJson_of postal, stringFromJson_of country, stringsFromJson_of phones,
      stringsFromJson_of mobiles]

/-- An access point of which only what is written was set. -/
lemma accessPoint_roundTrips (conv : Conversions) {a : AccessPoint Rest} (persisted : a.rest = default) :
    RoundTrips conv a where
  ordered := by
    simp only [newObject, ToJsonObject.toJson]
    apply ordered_stringToJson
    apply ordered_stringToJson
    apply ordered_stringToJson
    apply ordered_stringToJson
    apply ordered_stringToJson
    exact Json.Object.isOrdered_nil
  reads := by
    have id : (newObject a).get? "id" = some (.str a.id) := by
      simp [newObject, ToJsonObject.toJson, get?_stringToJson]
    have macAddress : (newObject a).get? "macAddress" = some (.str a.macAddress) := by
      simp [newObject, ToJsonObject.toJson, get?_stringToJson]
    have serialNumber : (newObject a).get? "serialNumber" = some (.str a.serialNumber) := by
      simp [newObject, ToJsonObject.toJson, get?_stringToJson]
    have name : (newObject a).get? "name" = some (.str a.name) := by
      simp [newObject, ToJsonObject.toJson, get?_stringToJson]
    have deviceType : (newObject a).get? "deviceType" = some (.str a.deviceType) := by
      simp [newObject, ToJsonObject.toJson, get?_stringToJson]
    have rest : (JsonObject.fresh : AccessPoint Rest).rest = a.rest := persisted.symm
    simp only [JsonObject.fromJson, Decoder.tryAll, Decoder.member, stringFromJson_of id,
      stringFromJson_of macAddress, stringFromJson_of serialNumber, stringFromJson_of name,
      stringFromJson_of deviceType, rest]

lemma accessPointList_roundTrips (conv : Conversions) {points : AccessPointList Rest}
    (persisted : ∀ a ∈ points.list, a.rest = default) : RoundTrips conv points where
  ordered := by
    refine Json.Object.isOrdered_nil.set "list" (Json.isOrdered_arr.mpr fun x mem => ?_)
    obtain ⟨o, here, rfl⟩ := List.mem_map.mp mem
    obtain ⟨a, there, rfl⟩ := List.mem_map.mp here
    exact (accessPoint_roundTrips conv (persisted a there)).ordered
  reads := by
    have list : (newObject points).get? "list" = some (.arr ((points.list.map newObject).map Json.obj)) := by
      rw [newObject, ToJsonObject.toJson]
      exact Json.Object.get?_set_self ..
    have same : (points.list.map newObject).map
        (fun i => (JsonObject.fromJson conv i (JsonObject.fresh : AccessPoint Rest)).2) = points.list := by
      rw [List.map_map]
      refine (List.map_congr_left fun a mem => ?_).trans (List.map_id _)
      exact (accessPoint_roundTrips conv (persisted a mem)).reads
    have read : objectsFromJson conv "list" (newObject points) (JsonObject.fresh : AccessPointList Rest).list =
        (true, points.list) := by
      rw [objectsFromJson_of list, same]
      rfl
    simp only [JsonObject.fromJson, Decoder.tryAll, Decoder.member, read]

end Objects

/-- A record whose access points have only what is written comes back from its tuple, whatever was in the
record into which it is read. -/
theorem convert_roundTrip {conv : Conversions} {condense : Json → String} {parse : String → Option Json}
    (reads : Json.Reads parse condense) (noDocument : parse "" = none) {info : SubscriberInfo Rest}
    (persisted : ∀ a ∈ info.accessPoints.list, a.rest = default) (out : SubscriberInfo Rest) :
    convertIn conv parse (convertOut condense info) out = some info := by
  have points := (accessPointList_roundTrips conv persisted).toObject_toText reads noDocument
  have service := (location_roundTrips conv info.serviceAddress).toObject_toText reads noDocument
  have billing := (location_roundTrips conv info.billingAddress).toObject_toText reads noDocument
  rw [convertIn, convertOut]
  simp only [points, service, billing]
  rfl

/-- A subscriber with two access points. -/
def sample : SubscriberInfo Bool where
  id := "4711"
  userId := "user@example.com"
  firstName := "First"
  accessPoints := { list := [{ id := "a", macAddress := "001122334455" }, { name := "Access Point #2" }] }
  serviceAddress := { addressLines := ["1 Main Street", "\"rear\""], city := "Toronto" }
  created := 1650000000

/-- It comes back. -/
theorem convert_roundTrip_sample :
    convertIn .strict Json.ofText (convertOut Json.condense sample) {} = some sample :=
  convert_roundTrip Json.reads_condense Json.ofText_empty (by decide) {}

end UserPortal.Storage
