import UserPortal.RestObjects.FromJson

/-!
# Reading into a target which is not new

A complete object has all the fields of its type, of the right types. Reading it goes through, but vectors
of objects are appended to: the target ends up as a new one if and only if its vectors of objects were
empty, at any depth, and what is never read was new. This is about the members which have a value in a new
object; the three of an access point which have none, and which nobody reads, are not compared.

`decodesAsFresh`: so it is for every type.
-/

namespace UserPortal

/-- When an object of a type is complete, when a target has nothing which is left as it is, and when the
object has no elements to append. -/
class Described (T : Type) extends JsonObject T where
  Complete : Json.Object → Prop
  Blank : T → Prop := fun _ => True
  Empty : Json.Object → Prop := fun _ => True

/-- Reading an object goes through. The target is then as a new one if and only if it was blank, and reading
the object once more changes nothing if and only if the object has nothing to append. -/
def DecodesAsFreshAt (conv : Conversions) (T : Type) [Described T] (o : Json.Object) : Prop :=
  ∀ p : T, (JsonObject.fromJson conv o p).1 = true ∧
    ((JsonObject.fromJson conv o p).2 = (JsonObject.fromJson conv o (JsonObject.fresh : T)).2 ↔
      Described.Blank p) ∧
    ((JsonObject.fromJson conv o (JsonObject.fromJson conv o p).2).2 = (JsonObject.fromJson conv o p).2 ↔
      Described.Empty T o)

/-- So it is for all complete objects of a type. -/
def DecodesAsFresh (conv : Conversions) (T : Type) [Described T] : Prop :=
  ∀ o, Described.Complete T o → DecodesAsFreshAt conv T o

namespace SubObjects
open RestApi.ClientLists

instance : Described WifiNetwork where
  Complete o := HasString o "type" ∧ HasString o "name" ∧ HasString o "password" ∧ HasString o "encryption" ∧
    HasStrings o "bands"

instance : Described WifiNetworkList where
  Complete o := HasObjects (Described.Complete WifiNetwork) o "wifiNetworks" ∧ HasUInt64 o "created" ∧
    HasUInt64 o "modified"
  Blank l := l.wifiNetworks = []
  Empty o := o.getArray? "wifiNetworks" = some []

instance : Described AccessTime where
  Complete o := HasString o "day" ∧ HasStrings o "rangeList"

instance : Described AccessTimes where
  Complete o := HasObjects (Described.Complete AccessTime) o "schedule" ∧ HasUInt64 o "created" ∧
    HasUInt64 o "modified"
  Blank a := a.schedule = []
  Empty o := o.getArray? "schedule" = some []

instance : Described SubscriberDevice where
  Complete o := HasString o "name" ∧ HasString o "description" ∧ HasString o "macAddress" ∧
    HasString o "manufacturer" ∧ HasUInt64 o "firstContact" ∧ HasUInt64 o "lastContact" ∧
    HasString o "group" ∧ HasString o "icon" ∧ HasBool o "suspended" ∧ HasString o "ip" ∧
    HasObjects (Described.Complete AccessTimes) o "schedule"
  Blank d := d.schedule = []
  Empty o := o.getArray? "schedule" = some []

instance : Described SubscriberDeviceList where
  Complete o := HasObjects (Described.Complete SubscriberDevice) o "devices" ∧ HasUInt64 o "created" ∧
    HasUInt64 o "modified"
  Blank l := l.devices = []
  Empty o := o.getArray? "devices" = some []

instance : Described Association where
  Complete o := HasString o "name" ∧ HasString o "ssid" ∧ HasString o "macAddress" ∧ HasInt32 o "rssi" ∧
    HasInt32 o "power" ∧ HasString o "ipv4" ∧ HasString o "ipv6" ∧ HasUInt64 o "tx" ∧ HasUInt64 o "rx" ∧
    HasString o "manufacturer"

instance : Described AssociationList where
  Complete o := HasObjects (Described.Complete Association) o "associations" ∧ HasUInt64 o "created" ∧
    HasUInt64 o "modified"
  Blank l := l.associations = []
  Empty o := o.getArray? "associations" = some []

instance : Described Client where
  Complete o := HasString o "macAddress" ∧ HasString o "speed" ∧ HasString o "mode" ∧ HasString o "ipv4" ∧
    HasString o "ipv6" ∧ HasUInt64 o "tx" ∧ HasUInt64 o "rx" ∧ HasString o "manufacturer"

instance : Described ClientList where
  Complete o := HasObjects (Described.Complete Client) o "clients" ∧ HasUInt64 o "created" ∧
    HasUInt64 o "modified"
  Blank l := l.clients = []
  Empty o := o.getArray? "clients" = some []

instance : Described Location where
  Complete o := HasString o "buildingName" ∧ HasStrings o "addressLines" ∧ HasString o "city" ∧
    HasString o "state" ∧ HasString o "postal" ∧ HasString o "country" ∧ HasStrings o "phones" ∧
    HasStrings o "mobiles"

variable {Rest : Type} [Inhabited Rest]

instance : Described (AccessPoint Rest) where
  Complete o := HasString o "id" ∧ HasString o "macAddress" ∧ HasString o "serialNumber" ∧
    HasString o "name" ∧ HasString o "deviceType"
  Blank a := a.rest = default

instance : Described (AccessPointList Rest) where
  Complete o := HasObjects (Described.Complete (AccessPoint Rest)) o "list"
  Blank l := l.list = []
  Empty o := o.getArray? "list" = some []

instance : Described (SubscriberInfo Rest) where
  Complete o := HasString o "id" ∧ HasString o "userId" ∧ HasString o "firstName" ∧ HasString o "initials" ∧
    HasString o "lastName" ∧ HasString o "phoneNumber" ∧ HasString o "secondaryEmail" ∧
    HasObject (Described.Complete (AccessPointList Rest)) o "accessPoints" ∧
    HasObject (Described.Complete Location) o "serviceAddress" ∧
    HasObject (Described.Complete Location) o "billingAddress" ∧ HasUInt64 o "created" ∧
    HasUInt64 o "modified"
  Blank s := Described.Blank s.accessPoints
  Empty o := ∀ inner, o.getObject? "accessPoints" = some inner → Described.Empty (AccessPointList Rest) inner

instance : Described StatsEntry where
  Complete o := HasUInt64 o "timestamp" ∧ HasUInt64 o "tx" ∧ HasUInt64 o "rx"

instance : Described StatsBlock where
  Complete o := HasUInt64 o "modified" ∧ HasObjects (Described.Complete StatsEntry) o "external" ∧
    HasObjects (Described.Complete StatsEntry) o "internal"
  Blank s := s.external = [] ∧ s.internal = []
  Empty o := o.getArray? "external" = some [] ∧ o.getArray? "internal" = some []

end SubObjects

/-! ## Fields -/

section Fields

variable {T V : Type} {conv : Conversions} {o : Json.Object} {field : String} {Complete : Json.Object → Prop}

/-- A field is read into any member as the same value. -/
def Fixes (d : Decoder V) (o : Json.Object) : Prop := ∃ v, ∀ p, d o p = (true, v)

/-- A string which is there is read whatever the target has. -/
lemma HasString.fixes (conv : Conversions) (h : HasString o field) : Fixes (stringFromJson conv field) o := by
  obtain ⟨s, found⟩ := h
  exact ⟨s, stringFromJson_of found⟩

/-- So is a number of 64 bits. -/
lemma HasUInt64.fixes (conv : Conversions) (h : HasUInt64 o field) : Fixes (uint64FromJson conv field) o := by
  obtain ⟨n, lt, found⟩ := h
  exact ⟨n, scalarFromJson_of found (fun eq => by cases eq) (conv.toUInt64_int n lt)⟩

/-- So is an `int`. -/
lemma HasInt32.fixes (conv : Conversions) (h : HasInt32 o field) : Fixes (int32FromJson conv field) o := by
  obtain ⟨n, lower, upper, found⟩ := h
  exact ⟨n, scalarFromJson_of found (fun eq => by cases eq) (conv.toInt_int n lower upper)⟩

/-- So is a boolean. -/
lemma HasBool.fixes {conv : Conversions}
    (boolText : ∀ b, conv.toString (.bool b) = some (if b then "true" else "false"))
    (h : HasBool o field) : Fixes (boolFromJson conv field) o := by
  obtain ⟨b, found⟩ := h
  refine ⟨b, scalarFromJson_of found (fun eq => by cases eq) ?_⟩
  rw [boolText]
  cases b <;> rfl

/-- So is a vector of strings, which is cleared first. -/
lemma HasStrings.fixes (conv : Conversions) (h : HasStrings o field) : Fixes (stringsFromJson conv field) o := by
  obtain ⟨ss, found⟩ := h
  exact ⟨ss, stringsFromJson_of found⟩

/-- What is read of objects is appended. -/
lemma HasObjects.appends (conv : Conversions) (T : Type) [JsonObject T] (h : HasObjects Complete o field) :
    ∃ items : List T, (∀ p, objectsFromJson conv field o p = (true, p ++ items)) ∧
      (items = [] ↔ o.getArray? field = some []) := by
  obtain ⟨inners, found, _⟩ := h
  refine ⟨inners.map fun i => (JsonObject.fromJson conv i JsonObject.fresh).2, objectsFromJson_of found, ?_⟩
  rw [Json.Object.getArray?_eq_some.mpr found, List.map_eq_nil_iff, Option.some_inj, List.map_eq_nil_iff]

/-- An object is read in its place. -/
lemma HasObject.inPlace (conv : Conversions) (T : Type) [JsonObject T] (h : HasObject Complete o field) :
    ∃ inner, o.getObject? field = some inner ∧ Complete inner ∧
      ∀ p : T, objectFromJson conv field o p = (true, (JsonObject.fromJson conv inner p).2) := by
  obtain ⟨inner, found, complete⟩ := h
  have object := Json.Object.getObject?_eq_some.mpr found
  refine ⟨inner, object, complete, fun p => ?_⟩
  rw [objectFromJson, object]

end Fields

/-! ## Objects -/

section Objects

variable {T E : Type} {conv : Conversions} {o : Json.Object}

/-- A type all of whose members are replaced. -/
lemma DecodesAsFreshAt.of_fixes [Described T] (fixes : Fixes (JsonObject.fromJson (T := T) conv) o)
    (blank : ∀ p : T, Described.Blank p) (empty : Described.Empty T o) : DecodesAsFreshAt conv T o := by
  obtain ⟨v, acts⟩ := fixes
  intro p
  rw [acts, acts, acts]
  exact ⟨rfl, iff_of_true rfl (blank p), iff_of_true rfl empty⟩

/-- A type one of whose members is appended to. -/
lemma DecodesAsFreshAt.of_appends [Described T] {items : List E} (get : T → List E) (mk : List E → T)
    (get_mk : ∀ l, get (mk l) = l) (fresh : get JsonObject.fresh = [])
    (acts : ∀ p, JsonObject.fromJson conv o p = (true, mk (get p ++ items)))
    (blank : ∀ p : T, Described.Blank p ↔ get p = []) (empty : Described.Empty T o ↔ items = []) :
    DecodesAsFreshAt conv T o := by
  have inj : Function.Injective mk := Function.LeftInverse.injective get_mk
  intro p
  rw [acts, acts, acts, get_mk, fresh, blank, empty, inj.eq_iff, inj.eq_iff]
  refine ⟨rfl, ?_, ?_⟩
  · exact List.append_left_inj items
  · exact List.append_right_eq_self

end Objects

namespace SubObjects
open Decoder RestApi.ClientLists

section Types

variable {conv : Conversions} {Rest : Type} [Inhabited Rest]

/-- A network has no vector of objects. -/
lemma WifiNetwork.decodesAsFresh : DecodesAsFresh conv WifiNetwork := by
  rintro o ⟨type, name, password, encryption, bands⟩
  obtain ⟨type, type_eq⟩ := type.fixes conv
  obtain ⟨name, name_eq⟩ := name.fixes conv
  obtain ⟨password, password_eq⟩ := password.fixes conv
  obtain ⟨encryption, encryption_eq⟩ := encryption.fixes conv
  obtain ⟨bands, bands_eq⟩ := bands.fixes conv
  refine .of_fixes ⟨⟨type, name, password, encryption, bands⟩, fun p => ?_⟩ (fun _ => trivial) trivial
  simp only [JsonObject.fromJson, tryAll, member, type_eq, name_eq, password_eq, encryption_eq, bands_eq]

/-- The networks of a list are appended. -/
lemma WifiNetworkList.decodesAsFresh : DecodesAsFresh conv WifiNetworkList := by
  rintro o ⟨wifiNetworks, created, modified⟩
  obtain ⟨items, appends, empty⟩ := wifiNetworks.appends conv WifiNetwork
  obtain ⟨created, created_eq⟩ := created.fixes conv
  obtain ⟨modified, modified_eq⟩ := modified.fixes conv
  refine .of_appends (·.wifiNetworks) (⟨·, created, modified⟩) (fun _ => rfl) rfl (fun p => ?_)
    (fun _ => Iff.rfl) empty.symm
  simp only [JsonObject.fromJson, tryAll, member, appends, created_eq, modified_eq]

/-- An access time has no vector of objects. -/
lemma AccessTime.decodesAsFresh : DecodesAsFresh conv AccessTime := by
  rintro o ⟨day, rangeList⟩
  obtain ⟨day, day_eq⟩ := day.fixes conv
  obtain ⟨rangeList, rangeList_eq⟩ := rangeList.fixes conv
  refine .of_fixes ⟨⟨day, rangeList⟩, fun p => ?_⟩ (fun _ => trivial) trivial
  simp only [JsonObject.fromJson, tryAll, member, day_eq, rangeList_eq]

/-- The access times of a schedule are appended. -/
lemma AccessTimes.decodesAsFresh : DecodesAsFresh conv AccessTimes := by
  rintro o ⟨schedule, created, modified⟩
  obtain ⟨items, appends, empty⟩ := schedule.appends conv AccessTime
  obtain ⟨created, created_eq⟩ := created.fixes conv
  obtain ⟨modified, modified_eq⟩ := modified.fixes conv
  refine .of_appends (·.schedule) (⟨·, created, modified⟩) (fun _ => rfl) rfl (fun p => ?_)
    (fun _ => Iff.rfl) empty.symm
  simp only [JsonObject.fromJson, tryAll, member, appends, created_eq, modified_eq]

/-- The schedules of a device are appended. -/
lemma SubscriberDevice.decodesAsFresh
    (boolText : ∀ b, conv.toString (.bool b) = some (if b then "true" else "false")) :
    DecodesAsFresh conv SubscriberDevice := by
  rintro o ⟨name, description, macAddress, manufacturer, firstContact, lastContact, group, icon, suspended,
    ip, schedule⟩
  obtain ⟨name, name_eq⟩ := name.fixes conv
  obtain ⟨description, description_eq⟩ := description.fixes conv
  obtain ⟨macAddress, macAddress_eq⟩ := macAddress.fixes conv
  obtain ⟨manufacturer, manufacturer_eq⟩ := manufacturer.fixes conv
  obtain ⟨firstContact, firstContact_eq⟩ := firstContact.fixes conv
  obtain ⟨lastContact, lastContact_eq⟩ := lastContact.fixes conv
  obtain ⟨group, group_eq⟩ := group.fixes conv
  obtain ⟨icon, icon_eq⟩ := icon.fixes conv
  obtain ⟨suspended, suspended_eq⟩ := suspended.fixes boolText
  obtain ⟨ip, ip_eq⟩ := ip.fixes conv
  obtain ⟨items, appends, empty⟩ := schedule.appends conv AccessTimes
  refine .of_appends (·.schedule)
    (⟨name, description, macAddress, manufacturer, firstContact, lastContact, group, icon, suspended, ip, ·⟩) (fun _ => rfl) rfl (fun p => ?_)
    (fun _ => Iff.rfl) empty.symm
  simp only [JsonObject.fromJson, tryAll, member, name_eq, description_eq, macAddress_eq, manufacturer_eq,
    firstContact_eq, lastContact_eq, group_eq, icon_eq, suspended_eq, ip_eq, appends]

/-- The devices of a list are appended. -/
lemma SubscriberDeviceList.decodesAsFresh : DecodesAsFresh conv SubscriberDeviceList := by
  rintro o ⟨devices, created, modified⟩
  obtain ⟨items, appends, empty⟩ := devices.appends conv SubscriberDevice
  obtain ⟨created, created_eq⟩ := created.fixes conv
  obtain ⟨modified, modified_eq⟩ := modified.fixes conv
  refine .of_appends (·.devices) (⟨·, created, modified⟩) (fun _ => rfl) rfl (fun p => ?_)
    (fun _ => Iff.rfl) empty.symm
  simp only [JsonObject.fromJson, tryAll, member, appends, created_eq, modified_eq]

/-- An association has no vector of objects. -/
lemma Association.decodesAsFresh : DecodesAsFresh conv Association := by
  rintro o ⟨name, ssid, macAddress, rssi, power, ipv4, ipv6, tx, rx, manufacturer⟩
  obtain ⟨name, name_eq⟩ := name.fixes conv
  obtain ⟨ssid, ssid_eq⟩ := ssid.fixes conv
  obtain ⟨macAddress, macAddress_eq⟩ := macAddress.fixes conv
  obtain ⟨rssi, rssi_eq⟩ := rssi.fixes conv
  obtain ⟨power, power_eq⟩ := power.fixes conv
  obtain ⟨ipv4, ipv4_eq⟩ := ipv4.fixes conv
  obtain ⟨ipv6, ipv6_eq⟩ := ipv6.fixes conv
  obtain ⟨tx, tx_eq⟩ := tx.fixes conv
  obtain ⟨rx, rx_eq⟩ := rx.fixes conv
  obtain ⟨manufacturer, manufacturer_eq⟩ := manufacturer.fixes conv
  refine .of_fixes ⟨⟨name, ssid, macAddress, rssi, power, ipv4, ipv6, tx, rx, manufacturer⟩, fun p => ?_⟩
    (fun _ => trivial) trivial
  simp only [JsonObject.fromJson, tryAll, member, name_eq, ssid_eq, macAddress_eq, rssi_eq, power_eq,
    ipv4_eq, ipv6_eq, tx_eq, rx_eq, manufacturer_eq]

/-- The associations of a list are appended. -/
lemma AssociationList.decodesAsFresh : DecodesAsFresh conv AssociationList := by
  rintro o ⟨associations, created, modified⟩
  obtain ⟨items, appends, empty⟩ := associations.appends conv Association
  obtain ⟨created, created_eq⟩ := created.fixes conv
  obtain ⟨modified, modified_eq⟩ := modified.fixes conv
  refine .of_appends (·.associations) (⟨·, created, modified⟩) (fun _ => rfl) rfl (fun p => ?_)
    (fun _ => Iff.rfl) empty.symm
  simp only [JsonObject.fromJson, tryAll, member, appends, created_eq, modified_eq]

/-- A client has no vector of objects. -/
lemma Client.decodesAsFresh : DecodesAsFresh conv Client := by
  rintro o ⟨macAddress, speed, mode, ipv4, ipv6, tx, rx, manufacturer⟩
  obtain ⟨macAddress, macAddress_eq⟩ := macAddress.fixes conv
  obtain ⟨speed, speed_eq⟩ := speed.fixes conv
  obtain ⟨mode, mode_eq⟩ := mode.fixes conv
  obtain ⟨ipv4, ipv4_eq⟩ := ipv4.fixes conv
  obtain ⟨ipv6, ipv6_eq⟩ := ipv6.fixes conv
  obtain ⟨tx, tx_eq⟩ := tx.fixes conv
  obtain ⟨rx, rx_eq⟩ := rx.fixes conv
  obtain ⟨manufacturer, manufacturer_eq⟩ := manufacturer.fixes conv
  refine .of_fixes ⟨⟨macAddress, speed, mode, ipv4, ipv6, tx, rx, manufacturer⟩, fun p => ?_⟩
    (fun _ => trivial) trivial
  simp only [JsonObject.fromJson, tryAll, member, macAddress_eq, speed_eq, mode_eq, ipv4_eq, ipv6_eq, tx_eq,
    rx_eq, manufacturer_eq]

/-- The clients of a list are appended. -/
lemma ClientList.decodesAsFresh : DecodesAsFresh conv ClientList := by
  rintro o ⟨clients, created, modified⟩
  obtain ⟨items, appends, empty⟩ := clients.appends conv Client
  obtain ⟨created, created_eq⟩ := created.fixes conv
  obtain ⟨modified, modified_eq⟩ := modified.fixes conv
  refine .of_appends (·.clients) (⟨·, created, modified⟩) (fun _ => rfl) rfl (fun p => ?_)
    (fun _ => Iff.rfl) empty.symm
  simp only [JsonObject.fromJson, tryAll, member, appends, created_eq, modified_eq]

/-- A complete location is read whatever the target has. -/
lemma Location.fixes (conv : Conversions) {o : Json.Object} (complete : Described.Complete Location o) :
    Fixes (JsonObject.fromJson (T := Location) conv) o := by
  obtain ⟨buildingName, addressLines, city, state, postal, country, phones, mobiles⟩ := complete
  obtain ⟨buildingName, buildingName_eq⟩ := buildingName.fixes conv
  obtain ⟨addressLines, addressLines_eq⟩ := addressLines.fixes conv
  obtain ⟨city, city_eq⟩ := city.fixes conv
  obtain ⟨state, state_eq⟩ := state.fixes conv
  obtain ⟨postal, postal_eq⟩ := postal.fixes conv
  obtain ⟨country, country_eq⟩ := country.fixes conv
  obtain ⟨phones, phones_eq⟩ := phones.fixes conv
  obtain ⟨mobiles, mobiles_eq⟩ := mobiles.fixes conv
  refine ⟨⟨buildingName, addressLines, city, state, postal, country, phones, mobiles⟩, fun p => ?_⟩
  simp only [JsonObject.fromJson, tryAll, member, buildingName_eq, addressLines_eq, city_eq, state_eq,
    postal_eq, country_eq, phones_eq, mobiles_eq]

/-- A location has no vector of objects. -/
lemma Location.decodesAsFresh : DecodesAsFresh conv Location :=
  fun _ complete => .of_fixes (Location.fixes conv complete) (fun _ => trivial) trivial

/-- An entry has none either. -/
lemma StatsEntry.decodesAsFresh : DecodesAsFresh conv StatsEntry := by
  rintro o ⟨timestamp, tx, rx⟩
  obtain ⟨timestamp, timestamp_eq⟩ := timestamp.fixes conv
  obtain ⟨tx, tx_eq⟩ := tx.fixes conv
  obtain ⟨rx, rx_eq⟩ := rx.fixes conv
  refine .of_fixes ⟨⟨timestamp, tx, rx⟩, fun p => ?_⟩ (fun _ => trivial) trivial
  simp only [JsonObject.fromJson, tryAll, member, timestamp_eq, tx_eq, rx_eq]

/-- An access point keeps what is never read. -/
lemma AccessPoint.decodesAsFresh : DecodesAsFresh conv (AccessPoint Rest) := by
  rintro o ⟨id, macAddress, serialNumber, name, deviceType⟩
  obtain ⟨id, id_eq⟩ := id.fixes conv
  obtain ⟨macAddress, macAddress_eq⟩ := macAddress.fixes conv
  obtain ⟨serialNumber, serialNumber_eq⟩ := serialNumber.fixes conv
  obtain ⟨name, name_eq⟩ := name.fixes conv
  obtain ⟨deviceType, deviceType_eq⟩ := deviceType.fixes conv
  have acts (p : AccessPoint Rest) :
      JsonObject.fromJson conv o p = (true, ⟨id, macAddress, serialNumber, name, deviceType, p.rest⟩) := by
    simp only [JsonObject.fromJson, tryAll, member, id_eq, macAddress_eq, serialNumber_eq, name_eq,
      deviceType_eq]
  intro p
  rw [acts, acts, acts]
  refine ⟨rfl, ?_, iff_of_true rfl trivial⟩
  simp only [AccessPoint.mk.injEq, true_and]
  exact Iff.rfl

/-- The access points of a list are appended. -/
lemma AccessPointList.decodesAsFresh : DecodesAsFresh conv (AccessPointList Rest) := by
  intro o list
  obtain ⟨items, appends, empty⟩ := HasObjects.appends conv (AccessPoint Rest) list
  refine .of_appends (·.list) (⟨·⟩) (fun _ => rfl) rfl (fun p => ?_)
    (fun _ => Iff.rfl) empty.symm
  simp only [JsonObject.fromJson, tryAll, member, appends]

/-- The access points of a subscriber are appended. -/
lemma SubscriberInfo.decodesAsFresh : DecodesAsFresh conv (SubscriberInfo Rest) := by
  rintro o ⟨id, userId, firstName, initials, lastName, phoneNumber, secondaryEmail, accessPoints,
    serviceAddress, billingAddress, created, modified⟩
  obtain ⟨id, id_eq⟩ := id.fixes conv
  obtain ⟨userId, userId_eq⟩ := userId.fixes conv
  obtain ⟨firstName, firstName_eq⟩ := firstName.fixes conv
  obtain ⟨initials, initials_eq⟩ := initials.fixes conv
  obtain ⟨lastName, lastName_eq⟩ := lastName.fixes conv
  obtain ⟨phoneNumber, phoneNumber_eq⟩ := phoneNumber.fixes conv
  obtain ⟨secondaryEmail, secondaryEmail_eq⟩ := secondaryEmail.fixes conv
  obtain ⟨points, found, pointsComplete, points_eq⟩ := accessPoints.inPlace conv (AccessPointList Rest)
  obtain ⟨service, _, serviceComplete, service_eq⟩ := serviceAddress.inPlace conv Location
  obtain ⟨serviceAddress, serviceAddress_eq⟩ := Location.fixes conv serviceComplete
  simp only [serviceAddress_eq] at service_eq
  obtain ⟨billing, _, billingComplete, billing_eq⟩ := billingAddress.inPlace conv Location
  obtain ⟨billingAddress, billingAddress_eq⟩ := Location.fixes conv billingComplete
  simp only [billingAddress_eq] at billing_eq
  obtain ⟨created, created_eq⟩ := created.fixes conv
  obtain ⟨modified, modified_eq⟩ := modified.fixes conv
  have list : DecodesAsFresh conv (AccessPointList Rest) := AccessPointList.decodesAsFresh
  have law := list points pointsComplete
  rw [DecodesAsFreshAt] at law
  -- how the access points are read does not matter here
  generalize (JsonObject.fromJson conv points : AccessPointList Rest → Bool × AccessPointList Rest) =
    readPoints at points_eq law
  have acts (p : SubscriberInfo Rest) :
      JsonObject.fromJson conv o p =
        (true, ⟨id, userId, firstName, initials, lastName, phoneNumber, secondaryEmail,
          (readPoints p.accessPoints).2, serviceAddress, billingAddress, created, modified⟩) := by
    simp only [JsonObject.fromJson, tryAll, member, id_eq, userId_eq, firstName_eq, initials_eq, lastName_eq,
      phoneNumber_eq, secondaryEmail_eq, points_eq, service_eq, billing_eq, created_eq, modified_eq]
  intro p
  obtain ⟨_, same, twice⟩ := law p.accessPoints
  rw [acts, acts, acts]
  refine ⟨rfl, ?_, ?_⟩
  · simp only [SubscriberInfo.mk.injEq, true_and, and_true]
    exact same
  · simp only [SubscriberInfo.mk.injEq, true_and, and_true]
    refine twice.trans ⟨fun empty inner here => ?_, fun empty => empty points found⟩
    cases found.symm.trans here
    exact empty

/-- The entries of a block are appended, in both of its vectors. -/
lemma StatsBlock.decodesAsFresh : DecodesAsFresh conv StatsBlock := by
  rintro o ⟨modified, external, internal⟩
  obtain ⟨modified, modified_eq⟩ := modified.fixes conv
  obtain ⟨externals, external_eq, noExternals⟩ := external.appends conv StatsEntry
  obtain ⟨internals, internal_eq, noInternals⟩ := internal.appends conv StatsEntry
  have acts (p : StatsBlock) :
      JsonObject.fromJson conv o p = (true, ⟨modified, p.external ++ externals, p.internal ++ internals⟩) := by
    simp only [JsonObject.fromJson, tryAll, member, modified_eq, external_eq, internal_eq]
  intro p
  rw [acts, acts, acts]
  refine ⟨rfl, ?_, ?_⟩
  · simp only [StatsBlock.mk.injEq, true_and]
    exact and_congr (List.append_left_inj externals) (List.append_left_inj internals)
  · simp only [StatsBlock.mk.injEq, true_and, List.append_right_eq_self]
    exact and_congr noExternals noInternals

end Types

/-- Every type of object: reading a complete one goes through, and leaves the target as a new one exactly when
the vectors of objects in the target were empty and what is never read was new. -/
theorem objects_decodeAsFresh {conv : Conversions} (Rest : Type) [Inhabited Rest]
    (boolText : ∀ b, conv.toString (.bool b) = some (if b then "true" else "false")) :
    DecodesAsFresh conv WifiNetwork ∧ DecodesAsFresh conv WifiNetworkList ∧ DecodesAsFresh conv AccessTime ∧
      DecodesAsFresh conv AccessTimes ∧ DecodesAsFresh conv SubscriberDevice ∧
      DecodesAsFresh conv SubscriberDeviceList ∧ DecodesAsFresh conv Association ∧
      DecodesAsFresh conv AssociationList ∧ DecodesAsFresh conv Client ∧ DecodesAsFresh conv ClientList ∧
      DecodesAsFresh conv Location ∧ DecodesAsFresh conv (AccessPoint Rest) ∧
      DecodesAsFresh conv (AccessPointList Rest) ∧ DecodesAsFresh conv (SubscriberInfo Rest) ∧
      DecodesAsFresh conv StatsEntry ∧ DecodesAsFresh conv StatsBlock :=
  ⟨WifiNetwork.decodesAsFresh, WifiNetworkList.decodesAsFresh, AccessTime.decodesAsFresh,
    AccessTimes.decodesAsFresh, SubscriberDevice.decodesAsFresh boolText, SubscriberDeviceList.decodesAsFresh,
    Association.decodesAsFresh, AssociationList.decodesAsFresh, Client.decodesAsFresh,
    ClientList.decodesAsFresh, Location.decodesAsFresh, AccessPoint.decodesAsFresh,
    AccessPointList.decodesAsFresh, SubscriberInfo.decodesAsFresh, StatsEntry.decodesAsFresh,
    StatsBlock.decodesAsFresh⟩

/-- Conversions which print a boolean, and accept no other value of another type. -/
def plain : Conversions :=
  { Conversions.strict with
    toString
      | .str s => some s
      | .bool b => some (if b then "true" else "false")
      | _ => none
    toString_str _ := rfl }

/-- A subscriber device. -/
theorem objects_decodeAsFresh_device :
    DecodesAsFresh plain SubscriberDevice :=
  (objects_decodeAsFresh Unit fun _ => rfl).2.2.2.2.1

/-- A list of one network. -/
def oneNetwork : Json.Object :=
  [("created", .int 0), ("modified", .int 0),
    ("wifiNetworks", .arr [.obj [("bands", .arr []), ("encryption", .str "wpa2"), ("name", .str "home"),
      ("password", .str "secret"), ("type", .str "main")]])]

/-- It is complete, and there are two networks when it is read twice. -/
theorem oneNetwork_appended :
    Described.Complete WifiNetworkList oneNetwork ∧
      ¬ ∀ p : WifiNetworkList, (JsonObject.fromJson plain oneNetwork p).2 =
        (JsonObject.fromJson plain oneNetwork (JsonObject.fresh : WifiNetworkList)).2 := by
  refine ⟨⟨⟨[[("bands", .arr []), ("encryption", .str "wpa2"), ("name", .str "home"),
    ("password", .str "secret"), ("type", .str "main")]], rfl, ?_⟩, ⟨0, by decide, rfl⟩, ⟨0, by decide, rfl⟩⟩, ?_⟩
  · intro network mem
    rw [List.mem_singleton.mp mem]
    exact ⟨⟨"main", rfl⟩, ⟨"home", rfl⟩, ⟨"secret", rfl⟩, ⟨"wpa2", rfl⟩, [], rfl⟩
  · intro same
    have twice := same (JsonObject.fromJson plain oneNetwork (JsonObject.fresh : WifiNetworkList)).2
    exact absurd twice (by decide +kernel)

end SubObjects

end UserPortal
