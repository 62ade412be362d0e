import Mathlib.Data.List.Infix
import UserPortal.Sdk.Venues

/-!
# What the provisioning service stores about a venue

The provisioning service keeps the locations, and for a venue the id of its location. It processes one
message at a time. A reply tells whether the request was executed; a request without a reply may have been
executed or not.
-/

namespace UserPortal.Sdk.Prov
open Interaction Program

/-- The location of a venue, empty where it has none, and the locations which exist. -/
structure LocationStore where
  location : String
  locations : List String

/-- Which requests are executed. -/
structure Execution where
  executed : Portal.Event → Bool
  /-- a 2xx reply means that the request was executed, another one that it was not -/
  truthful : ∀ c r, executed ⟨.call c, some r⟩ = true ↔ 200 ≤ r.status ∧ r.status < 300

/-- What a request changes. -/
inductive LocationChange where
  | set (location : String)
  | create
  | delete (location : String)
  deriving DecidableEq

/-- The location which an end point names. -/
def locationOf (endPoint : String) : Option String :=
  (endPoint.toList.dropPrefix? "/api/v1/location/".toList).map String.ofList

/-- What an event asks to change about a venue and the locations. -/
def locationChange (venueId : String) : Portal.Event → Option LocationChange
  | ⟨.call c, _⟩ =>
    if c.service = uSERVICE_PROVISIONING ∧ c.verb = .put ∧ c.endPoint = "/api/v1/venue/" ++ venueId then
      if c.body.has "createObjects" then some .create
      else (c.body.getString? "location").map .set
    else if c.service = uSERVICE_PROVISIONING ∧ c.verb = .delete then
      (locationOf c.endPoint).map .delete
    else none
  | _ => none

/-- The effect of a change. A new location gets an id which no other one has, and which is not empty;
the venue refers to it. -/
def LocationChange.Apply (s s' : LocationStore) : LocationChange → Prop
  | set location => s' = { s with location := location }
  | create => ∃ new, new ≠ "" ∧ new ∉ s.locations ∧
      s' = { location := new, locations := s.locations ++ [new] }
  | delete location => s' = { s with locations := s.locations.filter (· ≠ location) }

/-- The venues which an event has listed for a subscriber. -/
def listedVenues (conv : Conversions) (subscriberId : String) : Portal.Event → Option (List Venue)
  | ⟨.call c, answer⟩ => if c = getVenuesCall subscriberId then venuesIn conv answer else none
  | _ => none

/-- The service processes an event: the subscriber's first venue is the one it stores, and a change is
made when it is executed. -/
structure KeepsLocations (x : Execution) (conv : Conversions) (subscriberId venueId : String)
    (s : LocationStore) (e : Portal.Event) (s' : LocationStore) : Prop where
  listed : ∀ venue venues, listedVenues conv subscriberId e = some (venue :: venues) →
    venue = { id := venueId, location := s.location }
  changed : ∀ change, locationChange venueId e = some change → x.executed e = true →
    change.Apply s s'
  kept : (∀ change, locationChange venueId e = some change → x.executed e = false) → s' = s

/-- What is executed is reported: a clearing and a deletion with a success; a restoring is executed. -/
def Reported (x : Execution) (venueId : String) (e : Portal.Event) : Prop :=
  match locationChange venueId e, e with
  | some (.set location), ⟨.call _, answer⟩ =>
    if location = "" then x.executed e = true → putSucceeds answer = true else x.executed e = true
  | some (.delete _), ⟨.call _, answer⟩ => x.executed e = true → deleteSucceeds answer = true
  | _, _ => True

section Events

variable {x : Execution} {conv : Conversions} {subscriberId venueId location : String}
  {s s' : LocationStore} {answer : Option Reply}

@[simp] lemma locationChange_list :
    locationChange venueId ⟨.call (getVenuesCall subscriberId), answer⟩ = none := by
  rw [locationChange, if_neg (by simp [getVenuesCall]), if_neg (by simp [getVenuesCall])]

@[simp] lemma locationChange_set :
    locationChange venueId ⟨.call (putVenueCall venueId (setLocationBody location)), answer⟩ =
      some (.set location) := by
  rw [locationChange, if_pos ⟨rfl, rfl, rfl⟩]
  rfl

@[simp] lemma locationChange_create {body : Json.Object} :
    locationChange venueId ⟨.call (putVenueCall venueId (createLocationBody body)), answer⟩ =
      some .create := by
  rw [locationChange, if_pos ⟨rfl, rfl, rfl⟩]
  rfl

@[simp] lemma locationChange_delete :
    locationChange venueId ⟨.call (deleteLocationCall location), answer⟩ = some (.delete location) := by
  rw [locationChange, if_neg (by simp [deleteLocationCall]), if_pos ⟨rfl, rfl⟩]
  have named : locationOf (deleteLocationCall location).endPoint = some location := by
    rw [locationOf, deleteLocationCall, String.toList_append,
      List.dropPrefix?_append_of_beq _ (BEq.refl _), Option.map_some, String.ofList_toList]
  rw [named]
  rfl

@[simp] lemma listedVenues_list :
    listedVenues conv subscriberId ⟨.call (getVenuesCall subscriberId), answer⟩ = venuesIn conv answer :=
  if_pos rfl

/-- A request which is executed has its effect. -/
lemma KeepsLocations.apply {e : Portal.Event} {change : LocationChange}
    (h : KeepsLocations x conv subscriberId venueId s e s')
    (asks : locationChange venueId e = some change) (executed : x.executed e = true) :
    change.Apply s s' := h.changed change asks executed

/-- A request which is not executed has none. -/
lemma KeepsLocations.eq {e : Portal.Event} (h : KeepsLocations x conv subscriberId venueId s e s')
    (executed : x.executed e = false) : s' = s := h.kept fun _ _ => executed

/-- Reading has none. -/
lemma KeepsLocations.eq_of_none {e : Portal.Event} (h : KeepsLocations x conv subscriberId venueId s e s')
    (asks : locationChange venueId e = none) : s' = s := by
  refine h.kept fun change eq => ?_
  rw [asks] at eq
  cases eq

/-- A successful reply to a `PUT` means that it was executed. -/
lemma executed_of_putSucceeds {c : Call} (h : putSucceeds answer = true) :
    x.executed ⟨.call c, answer⟩ = true := by
  obtain ⟨r, o, rfl, status, _⟩ := OpenAPIRequest.strict_ok (of_decide_eq_true h)
  refine (x.truthful c r).mpr ?_
  rw [status]
  decide

/-- A successful reply to a `DELETE` means that it was executed. -/
lemma executed_of_deleteSucceeds {c : Call} (h : deleteSucceeds answer = true) :
    x.executed ⟨.call c, answer⟩ = true := by
  have ok := of_decide_eq_true h
  cases answer with
  | none => cases ok
  | some r =>
    refine (x.truthful c r).mpr ?_
    rw [show r.status = HTTPStatus.ok from ok]
    decide

end Events

/-! ## A service which counts its locations -/

/-- What is executed is what has a 2xx reply. -/
def Execution.byReply : Execution where
  executed
    | ⟨.call _, some r⟩ => 200 ≤ r.status && r.status < 300
    | _ => false
  truthful c r := by
    show (decide (200 ≤ r.status) && decide (r.status < 300)) = true ↔ _
    rw [Bool.and_eq_true_iff, decide_eq_true_iff, decide_eq_true_iff]

namespace LocationStore

/-- The id of the next location. -/
def fresh (s : LocationStore) : String := "location-" ++ toString s.locations.length

/-- What is stored after an event. -/
def next (x : Execution) (venueId : String) (s : LocationStore) (e : Portal.Event) : LocationStore :=
  if x.executed e then
    match locationChange venueId e with
    | some (.set location) => { s with location := location }
    | some .create => { location := s.fresh, locations := s.locations ++ [s.fresh] }
    | some (.delete location) => { s with locations := s.locations.filter (· ≠ location) }
    | none => s
  else s

/-- The service answers with what is stored, and the next location is a new one. -/
def answersTruly (conv : Conversions) (subscriberId venueId : String) (s : LocationStore)
    (e : Portal.Event) : Bool :=
  (match listedVenues conv subscriberId e with
    | some (venue :: _) => venue = { id := venueId, location := s.location }
    | _ => true) &&
  (match locationChange venueId e with
    | some .create => s.fresh ≠ "" && s.fresh ∉ s.locations
    | _ => true)

lemma keeps_next {x : Execution} {conv : Conversions} {subscriberId venueId : String} {s : LocationStore}
    {e : Portal.Event} (ok : s.answersTruly conv subscriberId venueId e = true) :
    KeepsLocations x conv subscriberId venueId s e (s.next x venueId e) := by
  obtain ⟨lists, creates⟩ := Bool.and_eq_true_iff.mp ok
  refine ⟨?_, ?_, ?_⟩
  · intro venue venues listed
    rw [listed] at lists
    exact of_decide_eq_true lists
  · intro change asks executed
    rw [next, if_pos executed, asks]
    rw [asks] at creates
    cases change with
    | set location => rfl
    | create =>
      obtain ⟨named, new⟩ := Bool.and_eq_true_iff.mp creates
      exact ⟨s.fresh, of_decide_eq_true named, of_decide_eq_true new, rfl⟩
    | delete location => rfl
  · intro idle
    rw [next]
    split
    case isTrue executed =>
      split
      case h_4 => rfl
      case h_1 asks =>
        rw [idle _ asks] at executed
        cases executed
      case h_2 asks =>
        rw [idle _ asks] at executed
        cases executed
      case h_3 asks =>
        rw [idle _ asks] at executed
        cases executed
    case isFalse => rfl

/-- The service processes a list of events when it can answer each with what it stores then. -/
lemma accepts_of_answersTruly {x : Execution} {conv : Conversions} {subscriberId venueId : String}
    {s : LocationStore} {tr : List Portal.Event}
    (h : answers (fun s e => s.answersTruly conv subscriberId venueId e) (next x venueId) s tr = true) :
    Accepts (KeepsLocations x conv subscriberId venueId) s tr (tr.foldl (next x venueId) s) :=
  Accepts.of_answers (fun _ _ ok => keeps_next ok) h

end LocationStore

end UserPortal.Sdk.Prov
