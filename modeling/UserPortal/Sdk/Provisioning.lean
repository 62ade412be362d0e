import Mathlib.Data.List.Infix
import UserPortal.Sdk.Prov

/-!
# What the provisioning service stores

The provisioning service keeps the records of the devices of all subscribers, and processes one message at
a time: it lists the devices of a subscriber, stores a record it is asked to create and removes the record
of a device it is asked to delete. A request it does not answer with a success changes nothing.
-/

namespace UserPortal.Sdk.Prov
open Interaction Program

/-- The record of a device. -/
structure Record where
  serialNumber : String
  subscriberId : String
  operatorId : String
  deviceGroup : String
  deriving DecidableEq

abbrev Store := List Record

/-- The records of the devices of a subscriber. -/
def Store.devicesOf (s : Store) (subscriberId operatorId : String) : List Record :=
  s.filter fun r => r.subscriberId = subscriberId ∧ r.operatorId = operatorId

/-- The service has answered with a success. -/
def Succeeds (answer : Option Reply) : Prop := answer.map Reply.status = some HTTPStatus.ok

instance (answer : Option Reply) : Decidable (Succeeds answer) :=
  inferInstanceAs (Decidable (answer.map Reply.status = some HTTPStatus.ok))

/-- The record which the body of a request asks for. -/
def recordOf (body : Json.Object) : Option Record := do
  let serialNumber ← body.getString? "serialNumber"
  let subscriberId ← body.getString? "subscriberId"
  let operatorId ← body.getString? "operatorId"
  let deviceGroup ← body.getString? "deviceGroup"
  return { serialNumber, subscriberId, operatorId, deviceGroup }

/-- The device which an end point names. -/
def deviceOf (endPoint : String) : Option String :=
  (endPoint.toList.dropPrefix? "/api/v1/subscriberDevice/".toList).map String.ofList

/-- The record which the service has stored in an event. -/
def created : Portal.Event → Option Record
  | ⟨.call c, answer⟩ =>
    if c.service = uSERVICE_PROVISIONING ∧ c.verb = .post ∧ c.endPoint = "/api/v1/subscriberDevice/0" ∧
        Succeeds answer then recordOf c.body
    else none
  | _ => none

/-- The device whose record the service has removed in an event. -/
def deleted : Portal.Event → Option String
  | ⟨.call c, answer⟩ =>
    if c.service = uSERVICE_PROVISIONING ∧ c.verb = .delete ∧ Succeeds answer then deviceOf c.endPoint
    else none
  | _ => none

/-- The device whose record the service has returned in an event. -/
def found : Portal.Event → Option String
  | ⟨.call c, answer⟩ =>
    if c.service = uSERVICE_PROVISIONING ∧ c.verb = .get ∧ Succeeds answer then deviceOf c.endPoint
    else none
  | _ => none

section Service

variable (conv : Conversions) (subscriberId operatorId : String)

/-- The devices which the reply to a listing tells of: none where the service knows of none. -/
def fetchedDevices (answer : Option Reply) : Option (List Gw.SubscriberDevice) :=
  if (OpenAPIRequest.lenient (some []) answer).1 = HTTPStatus.ok then
    subscriberDeviceListFromJson conv (OpenAPIRequest.lenient (some []) answer).2
  else if (OpenAPIRequest.lenient (some []) answer).1 = HTTPStatus.notFound then some []
  else none

/-- The devices of the subscriber which an event has listed. -/
def listing : Portal.Event → Option (List Gw.SubscriberDevice)
  | ⟨.call c, answer⟩ =>
    if c = getDevicesCall c.bearerToken subscriberId operatorId then fetchedDevices conv answer else none
  | _ => none

/-- What the service stores after an event. -/
def Store.next (s : Store) (e : Portal.Event) : Store :=
  match created e, deleted e with
  | some r, _ => s ++ [r]
  | none, some serialNumber => s.filter fun r => r.serialNumber ≠ serialNumber
  | none, none => s

/-- The service answers with what it stores. -/
structure Store.Answers (s : Store) (e : Portal.Event) : Prop where
  listing_devices : ∀ devices ∈ listing conv subscriberId operatorId e,
    devices.map (fun d => (d.serialNumber, d.deviceGroup)) =
      (s.devicesOf subscriberId operatorId).map fun r => (r.serialNumber, r.deviceGroup)
  /-- a record is only created for a device which has none -/
  created_new : ∀ r ∈ created e, ∀ r' ∈ s, r'.serialNumber ≠ r.serialNumber
  /-- a device is only found where it has a record -/
  found_stored : ∀ serialNumber ∈ found e, ∃ r ∈ s, r.serialNumber = serialNumber

instance (s : Store) (e : Portal.Event) : Decidable (s.Answers conv subscriberId operatorId e) :=
  decidable_of_iff
    ((∀ devices ∈ listing conv subscriberId operatorId e,
      devices.map (fun d => (d.serialNumber, d.deviceGroup)) =
        (s.devicesOf subscriberId operatorId).map fun r => (r.serialNumber, r.deviceGroup)) ∧
      (∀ r ∈ created e, ∀ r' ∈ s, r'.serialNumber ≠ r.serialNumber) ∧
      ∀ serialNumber ∈ found e, ∃ r ∈ s, r.serialNumber = serialNumber)
    ⟨fun h => ⟨h.1, h.2.1, h.2.2⟩, fun h => ⟨h.1, h.2, h.3⟩⟩

/-- The service processes one event. -/
def provisions (s : Store) (e : Portal.Event) (s' : Store) : Prop :=
  s.Answers conv subscriberId operatorId e ∧ s' = s.next e

/-- The service processes a list of events when it answers each with what it stores then. -/
lemma accepts_of_answers {s : Store} {tr : List Portal.Event}
    (h : answers (fun s e => decide (s.Answers conv subscriberId operatorId e)) Store.next s tr = true) :
    Accepts (provisions conv subscriberId operatorId) s tr (tr.foldl Store.next s) :=
  Accepts.of_answers (fun _ _ ok => ⟨of_decide_eq_true ok, rfl⟩) h

end Service

/-! ## The calls -/

/-- The service stores and removes nothing in the event. -/
def Quiet (e : Portal.Event) : Prop := created e = none ∧ deleted e = none

section Calls

variable {c : Call} {answer : Option Reply}

/-- Only a POST creates a record. -/
lemma created_of_verb (h : c.verb ≠ .post) : created ⟨.call c, answer⟩ = none := by
  rw [created, if_neg fun cond => h cond.2.1]

/-- Only a DELETE deletes one. -/
lemma deleted_of_verb (h : c.verb ≠ .delete) : deleted ⟨.call c, answer⟩ = none := by
  rw [deleted, if_neg fun cond => h cond.2.1]

/-- Reading is quiet. -/
lemma quiet_get (h : c.verb = .get) : Quiet ⟨.call c, answer⟩ :=
  ⟨created_of_verb (by rw [h]; exact nofun), deleted_of_verb (by rw [h]; exact nofun)⟩

/-- The path of a device names it. -/
@[simp] lemma deviceOf_subscriberDevice (serialNumber : String) :
    deviceOf ("/api/v1/subscriberDevice/" ++ serialNumber) = some serialNumber := by
  rw [deviceOf, String.toList_append, List.dropPrefix?_append_of_beq _ (BEq.refl _), Option.map_some,
    String.ofList_toList]

/-- The record of a new device. -/
lemma created_create (token name serialNumber subscriberId operatorId deviceGroup : String)
    (configuration : List ConfigMaker.DeviceConfigurationElement) :
    created ⟨.call (createCall token
        (createBody name serialNumber subscriberId operatorId deviceGroup configuration)), answer⟩ =
      if Succeeds answer then some { serialNumber, subscriberId, operatorId, deviceGroup } else none := by
  rw [created]
  refine if_congr ?_ rfl rfl
  exact ⟨fun h => h.2.2.2, fun h => ⟨rfl, rfl, rfl, h⟩⟩

/-- What a deletion has deleted. -/
lemma deleted_delete (token serialNumber : String) :
    deleted ⟨.call (deleteCall token serialNumber), answer⟩ =
      if Succeeds answer then some serialNumber else none := by
  rw [deleted]
  refine if_congr ?_ (deviceOf_subscriberDevice serialNumber) rfl
  exact ⟨fun h => h.2.2, fun h => ⟨rfl, rfl, h⟩⟩

/-- A device which is read has been found. -/
lemma found_getDevice (token serialNumber : String) (h : Succeeds answer) :
    found ⟨.call (getDeviceCall token serialNumber), answer⟩ = some serialNumber := by
  rw [found, if_pos ⟨rfl, rfl, h⟩]
  exact deviceOf_subscriberDevice serialNumber

/-- The list which a reply brings. -/
lemma listing_getDevices (conv : Conversions) (token subscriberId operatorId : String) :
    listing conv subscriberId operatorId ⟨.call (getDevicesCall token subscriberId operatorId), answer⟩ =
      fetchedDevices conv answer := if_pos rfl

end Calls

/-! ## What an event changes -/

section Events

variable {conv : Conversions} {subscriberId operatorId : String} {s s' : Store} {e : Portal.Event}

/-- What neither creates nor deletes leaves the records. -/
lemma next_of_quiet (h : Quiet e) : s.next e = s := by
  rw [Store.next, h.1, h.2]

/-- A created record is added. -/
lemma next_of_created {r : Record} (h : created e = some r) : s.next e = s ++ [r] := by
  rw [Store.next, h]

/-- What deletes a record creates none. -/
lemma created_of_deleted {serialNumber : String} (h : deleted e = some serialNumber) :
    created e = none := by
  obtain ⟨op, answer⟩ := e
  cases op with
  | now => cases h
  | call c =>
    rw [deleted] at h
    split at h
    case isTrue cond =>
      apply created_of_verb
      rw [cond.2.1]
      exact nofun
    case isFalse => cases h

/-- A deleted record is taken out. -/
lemma next_of_deleted {serialNumber : String} (h : deleted e = some serialNumber) :
    s.next e = s.filter fun r => r.serialNumber ≠ serialNumber := by
  rw [Store.next, created_of_deleted h, h]

/-- Quiet events leave the store as it was. -/
lemma accepts_quiet {tr : List Portal.Event} (quiet : ∀ e ∈ tr, Quiet e)
    (h : Accepts (provisions conv subscriberId operatorId) s tr s') : s' = s := by
  have keep : ∀ s e s', Quiet e → provisions conv subscriberId operatorId s e s' → s' = s := by
    rintro s e s' quiet ⟨_, rfl⟩
    exact next_of_quiet quiet
  exact h.eq_of_quiet keep quiet

end Events

end UserPortal.Sdk.Prov
