import Mathlib.Logic.Function.Basic
import UserPortal.Interaction.Refinement
import UserPortal.RestApi.LocationRequests

/-!
# The card of a subscriber

To the subscriber its location is a card of properties: there is none, or there is one with a time zone. Over any run
of requests, the portal makes the card out of what the provisioning service keeps, which is the location named by
the venue and the locations themselves. The time zone in which schedules are read and written is that of the card.

The service is not part of this repository. It is taken to do what the API documents: a new location is linked to the
venue, and only the supplied properties are updated. A reliable service refuses what it cannot do, and nothing else;
another one may refuse anything, or do it all the same.
-/

namespace UserPortal.RestApi.SubscriberLocation
open Interaction Program Calendar Sdk
open OpenAPIRequest (NotOk)

/-! ## The service -/

/-- What the service keeps: the location which the venue names, empty where it names none, and the locations. -/
structure Registry where
  linked : String
  documents : String → Option Json.Object

/-- A location gets other contents. -/
def Registry.put (s : Registry) (location : String) (document : Option Json.Object) : Registry :=
  { s with documents := Function.update s.documents location document }

/-- What the service is asked about the venue and its location. -/
inductive Question where
  | create (body : Json.Object)
  | link (location : String)
  | read (location : String)
  | update (location : String) (body : Json.Object)
  | delete (location : String)

/-- The call of a question. -/
def Question.call (venueId : String) : Question → Call
  | create body => Prov.putVenueCall venueId (Prov.createLocationBody body)
  | link location => Prov.putVenueCall venueId (Prov.setLocationBody location)
  | read location => Prov.getLocationCall location
  | update location body => Prov.putLocationCall location body
  | delete location => Prov.deleteLocationCall location

/-- The location which a question needs. -/
def Question.about : Question → Option String
  | read location | update location _ | delete location => some location
  | create _ | link _ => none

section Service

variable (conv : Conversions)

/-- The portal can read a location. -/
def Readable (document : Json.Object) : Prop := (Prov.locationFromJson conv document).isSome

/-- A new location has the properties it was created with. -/
def Carries (body document : Json.Object) : Prop := ∀ k v, body.get? k = some v → document.get? k = some v

/-- Only the supplied properties are updated. -/
def Updates (body before after : Json.Object) : Prop :=
  ∀ k ∈ allowedLocationKeys, after.get? k = (body.get? k).or (before.get? k)

/-- The service does what it is asked: the body of its reply, and what it keeps then. -/
inductive Accepted (s : Registry) : Question → Body → Registry → Prop where
  | create {body document reply : Json.Object} {new : String} :
    new ≠ "" → s.documents new = none → Carries body document → Readable conv document →
    Accepted s (.create body) (.json (.obj reply)) { s.put new (some document) with linked := new }
  | link {location : String} {reply : Json.Object} :
    Accepted s (.link location) (.json (.obj reply)) { s with linked := location }
  | read {location : String} {document : Json.Object} :
    s.documents location = some document →
    Accepted s (.read location) (.json (.obj document)) s
  | update {location : String} {body before after : Json.Object} :
    s.documents location = some before → Updates body before after → Readable conv after →
    Accepted s (.update location body) (.json (.obj after)) (s.put location (some after))
  | delete {location : String} {document : Json.Object} {body : Body} :
    s.documents location = some document →
    Accepted s (.delete location) body (s.put location none)

/-- The service cannot do what it is asked. -/
inductive Impossible (s : Registry) : Question → Prop where
  | missing {q : Question} {location : String} :
    q.about = some location → s.documents location = none → Impossible s q
  | create {body : Json.Object} :
    (∀ document, Carries body document → ¬ Readable conv document) → Impossible s (.create body)
  | update {location : String} {body before : Json.Object} :
    s.documents location = some before →
    (∀ after, Updates body before after → ¬ Readable conv after) → Impossible s (.update location body)

/-- What comes of a question. -/
inductive Outcome (reliable : Bool) (s : Registry) (q : Question) : Option Reply → Registry → Prop where
  | accepted {body : Body} {s' : Registry} :
    Accepted conv s q body s' → Outcome reliable s q (some ⟨HTTPStatus.ok, body⟩) s'
  | refused {answer : Option Reply} :
    NotOk answer → (reliable = true → Impossible conv s q) → Outcome reliable s q answer s
  | unconfirmed {answer : Option Reply} {body : Body} {s' : Registry} :
    reliable = false → NotOk answer → Accepted conv s q body s' → Outcome reliable s q answer s'

/-- What the service answers about the venue of a subscriber. -/
inductive Serves (reliable : Bool) (subscriberId venueId : String) (s : Registry) :
    Portal.Event → Registry → Prop where
  | venues {answer : Option Reply} {others : List Prov.Venue} :
    Prov.venuesIn conv answer = some ({ id := venueId, location := s.linked } :: others) →
    Serves reliable subscriberId venueId s ⟨.call (Prov.getVenuesCall subscriberId), answer⟩ s
  | noVenues {answer : Option Reply} :
    reliable = false → NotOk answer →
    Serves reliable subscriberId venueId s ⟨.call (Prov.getVenuesCall subscriberId), answer⟩ s
  | asked {q : Question} {answer : Option Reply} {s' : Registry} :
    Outcome conv reliable s q answer s' →
    Serves reliable subscriberId venueId s ⟨.call (q.call venueId), answer⟩ s'

end Service

/-! ## The card -/

/-- The properties of a location. -/
abbrev Properties := String → Option Json

/-- The supplied properties replace those before. -/
def Properties.update (properties : Properties) (body : Json.Object) : Properties :=
  fun k => (body.get? k).or (properties k)

/-- What the subscriber has: nothing, a location, or a venue which names a location that is gone. -/
inductive Card where
  | absent
  | present (properties : Properties)
  | lost

/-- A request of the subscriber about its location, or a handler of schedules which needs the time zone. -/
inductive Visit where
  | get
  | post (parsedBody : Option Json.Object)
  | put (parsedBody : Option Json.Object)
  | delete
  | timezone (method : String)

/-- What comes of a visit. -/
inductive Told where
  | answer (a : HandlerAnswer)
  | timezone (timezone : String)

/-- What the portal does. -/
def Visit.run (conv : Conversions) (locateZone : String → Option Zone) (user : Security.UserInfoAndPolicy) :
    Visit → Portal Told
  | get => do return .answer (← doGet conv user)
  | post parsedBody => do return .answer (← doPost conv locateZone user parsedBody)
  | put parsedBody => do return .answer (← doPut conv locateZone user parsedBody)
  | delete => do return .answer (← doDelete conv user)
  | timezone method => do
    match ← (ParentalControl.resolveSubscriberTimezone conv locateZone method user.userinfo.id).run with
    | .ok resolved => return .timezone resolved
    | .error sent => return .answer sent

/-- A document shows the properties of a card. -/
def Shows (properties : Properties) (document : Json.Object) : Prop :=
  ∀ k ∈ allowedLocationKeys, ∀ v, properties k = some v → document.get? k = some v

/-- The card has a time zone, which exists. -/
def HasZone (locateZone : String → Option Zone) (properties : Properties) : Prop :=
  ∃ timezone, properties "timezone" = some (.str timezone) ∧ timezone ≠ "" ∧ (locateZone timezone).isSome

section Card

variable (conv : Conversions) (locateZone : String → Option Zone)

/-- The service keeps a card. -/
inductive Represents : Card → Registry → Prop where
  | absent {s : Registry} : s.linked = "" → Represents .absent s
  | present {s : Registry} {properties : Properties} {document : Json.Object} :
    s.linked ≠ "" → s.documents s.linked = some document → Shows properties document → Readable conv document →
    HasZone locateZone properties → Represents (.present properties) s
  | lost {s : Registry} : s.linked ≠ "" → s.documents s.linked = none → Represents .lost s

/-- `DoPut` takes a body: it has a time zone which exists, or none. -/
def TakenBody (input body : Json.Object) : Prop := Zoned locateZone input body ∨ Unzoned input body

/-- A visit which is refused by the portal, or asks for what cannot be done. -/
inductive Refused (subscriberId : String) : Visit → Card → Prop where
  | stranger {visit : Visit} {card : Card} : subscriberId = "" → Refused subscriberId visit card
  | badPost {parsedBody : Option Json.Object} {card : Card} :
    (∀ input body, parsedBody = some input → ¬ Zoned locateZone input body) →
    Refused subscriberId (.post parsedBody) card
  | badPut {parsedBody : Option Json.Object} {card : Card} :
    (∀ input body, parsedBody = some input → ¬ TakenBody locateZone input body) →
    Refused subscriberId (.put parsedBody) card
  | unfitPost {input body : Json.Object} {card : Card} :
    Zoned locateZone input body → (∀ document, Carries body document → ¬ Readable conv document) →
    Refused subscriberId (.post (some input)) card
  | unfitPut {input body document : Json.Object} {properties : Properties} :
    TakenBody locateZone input body → Shows properties document → Readable conv document →
    (∀ after, Updates body document after → ¬ Readable conv after) →
    Refused subscriberId (.put (some input)) (.present properties)
  | already {parsedBody : Option Json.Object} {card : Card} :
    card ≠ .absent → Refused subscriberId (.post parsedBody) card
  | missing {visit : Visit} : (∀ parsedBody, visit ≠ .post parsedBody) → Refused subscriberId visit .absent
  | lost {visit : Visit} : Refused subscriberId visit .lost

/-- A visit, what comes of it, and the card before and after it. With a reliable service, a visit only fails where it
is refused. -/
inductive Turns (reliable : Bool) (subscriberId : String) : Visit → Card → Told → Card → Prop where
  | failed {visit : Visit} {card : Card} {sent : HandlerAnswer} :
    sent.status ≠ HTTPStatus.ok → (reliable = true → Refused conv locateZone subscriberId visit card) →
    Turns reliable subscriberId visit card (.answer sent) card
  | shown {properties : Properties} {out : Json.Object} :
    Shows properties out →
    Turns reliable subscriberId .get (.present properties) (.answer (HandlerAnswer.returnObject out))
      (.present properties)
  | created {input body : Json.Object} {sent : HandlerAnswer} :
    Zoned locateZone input body → (reliable = true → sent.status = HTTPStatus.ok) →
    Turns reliable subscriberId (.post (some input)) .absent (.answer sent) (.present body.get?)
  | updated {input body : Json.Object} {properties : Properties} {sent : HandlerAnswer} :
    TakenBody locateZone input body → (reliable = true → sent.status = HTTPStatus.ok) →
    (sent.status = HTTPStatus.ok →
      ∃ out, sent = HandlerAnswer.returnObject out ∧ Shows (properties.update body) out) →
    Turns reliable subscriberId (.put (some input)) (.present properties) (.answer sent)
      (.present (properties.update body))
  | removed {card : Card} {sent : HandlerAnswer} :
    card ≠ .absent → (reliable = true → sent.status = HTTPStatus.ok) →
    Turns reliable subscriberId .delete card (.answer sent) .absent
  | forgotten {properties : Properties} {sent : HandlerAnswer} :
    reliable = false → sent.status ≠ HTTPStatus.ok →
    Turns reliable subscriberId .delete (.present properties) (.answer sent) .lost
  | zoned {method timezone : String} {properties : Properties} :
    properties "timezone" = some (.str timezone) →
    Turns reliable subscriberId (.timezone method) (.present properties) (.timezone timezone)
      (.present properties)

end Card

/-! ## Questions -/

section Questions

variable {conv : Conversions} {reliable : Bool} {subscriberId venueId : String} {s s' : Registry}
  {answer : Option Reply}

/-- A venue is not a location. -/
lemma venue_ne_location (venueId location : String) :
    "/api/v1/venue/" ++ venueId ≠ "/api/v1/location/" ++ location := by
  intro eq
  have chars := congrArg (fun text : String => text.toList[8]?) eq
  simp [String.toList_append] at chars

/-- The path tells which location is meant. -/
lemma location_inj {location location' : String}
    (eq : "/api/v1/location/" ++ location = "/api/v1/location/" ++ location') : location = location' := by
  have chars := congrArg String.toList eq
  rw [String.toList_append, String.toList_append, List.append_right_inj] at chars
  exact String.toList_injective chars

/-- The call tells which question is asked. -/
lemma Question.call_inj {q q' : Question} (eq : q.call venueId = q'.call venueId) : q = q' := by
  have verb := congrArg Call.verb eq
  have path := congrArg Call.endPoint eq
  have body := congrArg Call.body eq
  clear eq
  cases q <;> cases q' <;> dsimp only [Question.call, Prov.putVenueCall, Prov.getLocationCall, Prov.putLocationCall,
    Prov.deleteLocationCall] at verb path body
  all_goals try cases verb
  · cases body
    rfl
  · simp [Prov.createLocationBody, Prov.setLocationBody] at body
  · exact absurd path (venue_ne_location _ _)
  · simp [Prov.createLocationBody, Prov.setLocationBody] at body
  · cases body
    rfl
  · exact absurd path (venue_ne_location _ _)
  · rw [location_inj path]
  · exact absurd path.symm (venue_ne_location _ _)
  · exact absurd path.symm (venue_ne_location _ _)
  · rw [location_inj path, body]
  · rw [location_inj path]

/-- No question asks for the venues. -/
lemma Question.call_ne_venues (q : Question) : q.call venueId ≠ Prov.getVenuesCall subscriberId := by
  intro eq
  have query := congrArg Call.queryData eq
  cases q <;> cases query

/-- The service has not done what it cannot do. -/
lemma Accepted.possible {q : Question} {body : Body} (accepted : Accepted conv s q body s') :
    ¬ Impossible conv s q := by
  intro impossible
  cases accepted with
  | create _ _ carries readable =>
    cases impossible with
    | missing about => cases about
    | create unfit => exact unfit _ carries readable
  | link =>
    cases impossible with
    | missing about => cases about
  | read there =>
    cases impossible with
    | missing about gone =>
      cases about
      rw [gone] at there
      cases there
  | update there updates readable =>
    cases impossible with
    | missing about gone =>
      cases about
      rw [gone] at there
      cases there
    | update there' unfit =>
      rw [there'] at there
      cases there
      exact unfit _ updates readable
  | delete there =>
    cases impossible with
    | missing about gone =>
      cases about
      rw [gone] at there
      cases there

/-- A question has an outcome. -/
lemma served_ask {q : Question}
    (served : Accepts (Serves conv reliable subscriberId venueId) s [⟨.call (q.call venueId), answer⟩] s') :
    Outcome conv reliable s q answer s' := by
  obtain ⟨s1, st, rest⟩ := accepts_cons.mp served
  obtain rfl := accepts_nil.mp rest
  generalize asked : q.call venueId = call at st
  cases st with
  | venues => exact absurd asked q.call_ne_venues
  | noVenues => exact absurd asked q.call_ne_venues
  | asked outcome =>
    obtain rfl := Question.call_inj asked
    exact outcome

/-- The venue is listed first, or the service is not reliable. -/
lemma served_venues
    (served : Accepts (Serves conv reliable subscriberId venueId) s
      [⟨.call (Prov.getVenuesCall subscriberId), answer⟩] s') :
    s' = s ∧ ((∃ others, Prov.venuesIn conv answer = some ({ id := venueId, location := s.linked } :: others)) ∨
      reliable = false ∧ NotOk answer) := by
  obtain ⟨s1, st, rest⟩ := accepts_cons.mp served
  obtain rfl := accepts_nil.mp rest
  generalize asked : Prov.getVenuesCall subscriberId = call at st
  cases st with
  | venues listed => exact ⟨rfl, .inl ⟨_, listed⟩⟩
  | noVenues flaky failed => exact ⟨rfl, .inr ⟨flaky, failed⟩⟩
  | asked => exact absurd asked.symm (Question.call_ne_venues _)

end Questions

/-! ## What the calls ensure -/

section Calls

variable {conv : Conversions} {reliable : Bool} {subscriberId venueId : String} {s : Registry}

/-- A failed call: it was not executed, which with a reliable service is impossible, or executed all the same. -/
def Missed (conv : Conversions) (reliable : Bool) (s : Registry) (q : Question) (s' : Registry) : Prop :=
  s' = s ∧ (reliable = true → Impossible conv s q) ∨ reliable = false ∧ ∃ body, Accepted conv s q body s'

/-- A question was accepted, or its call fails. -/
lemma Outcome.missed {q : Question} {answer : Option Reply} {s' : Registry}
    (outcome : Outcome conv reliable s q answer s') :
    (∃ body, answer = some ⟨HTTPStatus.ok, body⟩ ∧ Accepted conv s q body s') ∨
      NotOk answer ∧ Missed conv reliable s q s' := by
  cases outcome with
  | accepted accepted => exact .inl ⟨_, rfl, accepted⟩
  | refused failed impossible => exact .inr ⟨failed, .inl ⟨rfl, impossible⟩⟩
  | unconfirmed flaky failed accepted => exact .inr ⟨failed, .inr ⟨flaky, _, accepted⟩⟩

/-- The venue is listed first, with the location it names, or the call fails. -/
lemma getVenues_ensures :
    Ensures (Serves conv reliable subscriberId venueId)
      (fun s' r => s' = s ∧ ((∃ others, r.1 = some ({ id := venueId, location := s.linked } :: others)) ∨
        reliable = false ∧ r.1 = none ∧ r.2.1 ≠ HTTPStatus.ok))
      s (Prov.getVenues conv subscriberId) := by
  intro tr r s' run served
  obtain ⟨answer, rest, rfl, ended⟩ := OpenAPIRequest.trace_get_bind.mp run
  dsimp only at ended
  split at ended
  case isTrue ok =>
    obtain ⟨rfl, rfl⟩ := trace_pure.mp ended
    obtain ⟨rfl, ⟨others, listed⟩ | ⟨_, failed⟩⟩ := served_venues served
    · rw [Prov.venuesIn, if_pos ok] at listed
      exact ⟨rfl, .inl ⟨others, listed⟩⟩
    · exact absurd ok failed.lenient
  case isFalse status =>
    obtain ⟨rfl, rfl⟩ := trace_pure.mp ended
    obtain ⟨rfl, ⟨others, listed⟩ | ⟨flaky, _⟩⟩ := served_venues served
    · rw [Prov.venuesIn, if_neg status] at listed
      cases listed
    · exact ⟨rfl, .inr ⟨flaky, rfl, status⟩⟩

/-- The location is read, or the call fails. -/
lemma getLocation_ensures {location : String} :
    Ensures (Serves conv reliable subscriberId venueId)
      (fun s' r => s' = s ∧ ((∃ document, s.documents location = some document ∧
          r = (Prov.locationFromJson conv document, HTTPStatus.ok, some document)) ∨
        r.1 = none ∧ r.2.1 ≠ HTTPStatus.ok ∧ (reliable = true → s.documents location = none)))
      s (Prov.getLocation conv location) := by
  intro tr r s' run served
  obtain ⟨answer, rfl, read, response⟩ := Prov.getLocation_inv run
  obtain ⟨found, rest⟩ := r
  dsimp only at read response
  subst read response
  have outcome := served_ask (q := .read location) served
  cases outcome with
  | accepted accepted =>
    cases accepted with
    | read present => exact ⟨rfl, .inl ⟨_, present, rfl⟩⟩
  | refused failed impossible =>
    refine ⟨rfl, .inr ⟨if_neg failed.lenient, failed.lenient, fun sure => ?_⟩⟩
    cases impossible sure with
    | missing about missing =>
      cases about
      exact missing
  | unconfirmed flaky failed accepted =>
    cases accepted with
    | read =>
      refine ⟨rfl, .inr ⟨if_neg failed.lenient, failed.lenient, fun sure => ?_⟩⟩
      rw [flaky] at sure
      cases sure

/-- A change of the venue is executed, or fails. -/
lemma putVenue_ensures {q : Question} {body : Json.Object} (asks : q.call venueId = Prov.putVenueCall venueId body)
    (object : ∀ reply s', Accepted conv s q reply s' → ∃ o, reply = .json (.obj o)) :
    Ensures (Serves conv reliable subscriberId venueId)
      (fun s' r => (r.1 = true ∧ ∃ reply, Accepted conv s q reply s') ∨
        r.1 = false ∧ r.2.1 ≠ HTTPStatus.ok ∧ Missed conv reliable s q s')
      s (Prov.putVenue venueId body) := by
  intro tr r s' run served
  obtain ⟨answer, rfl, succeeds, response⟩ := Prov.putVenue_inv run
  obtain ⟨put, rest⟩ := r
  dsimp only at succeeds response
  subst succeeds response
  rw [← asks] at served
  rcases (served_ask served).missed with ⟨reply, rfl, accepted⟩ | ⟨failed, missed⟩
  · obtain ⟨o, rfl⟩ := object reply s' accepted
    exact .inl ⟨rfl, _, accepted⟩
  · exact .inr ⟨decide_eq_false failed.strict, failed.strict, missed⟩

/-- A location is created, or the call fails. -/
lemma createLocation_ensures {body : Json.Object} :
    Ensures (Serves conv reliable subscriberId venueId)
      (fun s' r => (r.1 = true ∧ ∃ reply, Accepted conv s (.create body) reply s') ∨
        r.1 = false ∧ r.2.1 ≠ HTTPStatus.ok ∧ Missed conv reliable s (.create body) s')
      s (Prov.createLocation venueId body) := by
  refine putVenue_ensures rfl fun reply s' accepted => ?_
  cases accepted with
  | create => exact ⟨_, rfl⟩

/-- The venue is linked, or the call fails. -/
lemma link_ensures {location : String} :
    Ensures (Serves conv reliable subscriberId venueId)
      (fun s' r => (r.1 = true ∧ ∃ reply, Accepted conv s (.link location) reply s') ∨
        r.1 = false ∧ r.2.1 ≠ HTTPStatus.ok ∧ Missed conv reliable s (.link location) s')
      s (Prov.putVenue venueId (Prov.setLocationBody location)) := by
  refine putVenue_ensures rfl fun reply s' accepted => ?_
  cases accepted with
  | link => exact ⟨_, rfl⟩

/-- The location is updated and returned, or the call fails. -/
lemma putLocation_ensures {location : String} {body : Json.Object} :
    Ensures (Serves conv reliable subscriberId venueId)
      (fun s' r => (∃ after, r = (true, HTTPStatus.ok, some after) ∧
          Accepted conv s (.update location body) (.json (.obj after)) s') ∨
        r.1 = false ∧ r.2.1 ≠ HTTPStatus.ok ∧ Missed conv reliable s (.update location body) s')
      s (Prov.putLocation location body) := by
  intro tr r s' run served
  obtain ⟨answer, rfl, succeeds, response⟩ := Prov.putLocation_inv run
  obtain ⟨put, rest⟩ := r
  dsimp only at succeeds response
  subst succeeds response
  rcases (served_ask (q := .update location body) served).missed with ⟨reply, rfl, accepted⟩ | ⟨failed, missed⟩
  · cases accepted with
    | update before updates readable => exact .inl ⟨_, rfl, .update before updates readable⟩
  · exact .inr ⟨decide_eq_false failed.strict, failed.strict, missed⟩

/-- The location is deleted, or the call fails. -/
lemma deleteCall_ensures {location : String} :
    Ensures (Serves conv reliable subscriberId venueId)
      (fun s' r => (r.1 = true ∧ ∃ reply, Accepted conv s (.delete location) reply s') ∨
        r.1 = false ∧ r.2.1 ≠ HTTPStatus.ok ∧ Missed conv reliable s (.delete location) s')
      s (Prov.deleteLocation location) := by
  intro tr r s' run served
  obtain ⟨answer, rfl, succeeds, response⟩ := Prov.deleteLocation_inv run
  obtain ⟨deleted, rest⟩ := r
  dsimp only at succeeds response
  subst succeeds response
  rcases (served_ask (q := .delete location) served).missed with ⟨reply, rfl, accepted⟩ | ⟨failed, missed⟩
  · exact .inl ⟨rfl, _, accepted⟩
  · exact .inr ⟨decide_eq_false failed.lenient, failed.lenient, missed⟩

end Calls

/-! ## What the service keeps -/

section Keeps

variable {conv : Conversions} {locateZone : String → Option Zone} {card : Card} {s s' : Registry}
  {input body document : Json.Object} {properties : Properties}

/-- A venue which names no location has no card. -/
lemma Represents.absent_of (rep : Represents conv locateZone card s) (unlinked : s.linked = "") : card = .absent := by
  cases rep with
  | absent => rfl
  | present named => exact absurd unlinked named
  | lost named => exact absurd unlinked named

/-- A venue which names a location has one. -/
lemma Represents.ne_absent (rep : Represents conv locateZone card s) (named : s.linked ≠ "") : card ≠ .absent := by
  cases rep with
  | absent unlinked => exact absurd unlinked named
  | present => exact nofun
  | lost => exact nofun

/-- A venue names a location which is there only for a card. -/
lemma Represents.present_of (rep : Represents conv locateZone card s) (named : s.linked ≠ "")
    (there : s.documents s.linked = some document) :
    ∃ properties, card = .present properties ∧ Shows properties document ∧ Readable conv document ∧
      HasZone locateZone properties := by
  cases rep with
  | absent unlinked => exact absurd unlinked named
  | lost _ gone =>
    rw [gone] at there
    cases there
  | present _ there' shows_ readable zone =>
    rw [there'] at there
    cases there
    exact ⟨_, rfl, shows_, readable, zone⟩

/-- The card is lost where the location is gone. -/
lemma Represents.lost_of (rep : Represents conv locateZone card s) (named : s.linked ≠ "")
    (gone : s.documents s.linked = none) : card = .lost := by
  cases rep with
  | absent unlinked => exact absurd unlinked named
  | lost => rfl
  | present _ there =>
    rw [gone] at there
    cases there

/-- The card of a new location. -/
lemma Represents.created {reply : Body} (zoned : Zoned locateZone input body)
    (accepted : Accepted conv s (.create body) reply s') : Represents conv locateZone (.present body.get?) s' := by
  cases accepted with
  | create named _ carries readable =>
    refine .present named (Function.update_self ..) ?_ readable zoned.timezone
    exact fun k _ v eq => carries k v eq

/-- Updating keeps the time zone, or replaces it by one which exists. -/
lemma HasZone.update (zone : HasZone locateZone properties) (taken : TakenBody locateZone input body) :
    HasZone locateZone (properties.update body) := by
  rcases taken with zoned | unzoned
  · obtain ⟨timezone, eq, named, exists_⟩ := zoned.timezone
    refine ⟨timezone, ?_, named, exists_⟩
    rw [Properties.update, eq, Option.some_or]
  · obtain ⟨timezone, eq, named, exists_⟩ := zone
    refine ⟨timezone, ?_, named, exists_⟩
    have none : body.get? "timezone" = none := by
      rw [unzoned.same]
      exact Json.Object.has_eq_false_iff.mp unzoned.unzoned
    rw [Properties.update, none, Option.none_or, eq]

/-- A document which was updated shows the updated properties. -/
lemma Shows.update {after : Json.Object} (shows_ : Shows properties document) (updates : Updates body document after) :
    Shows (properties.update body) after := by
  intro k known v eq
  rw [updates k known]
  rw [Properties.update] at eq
  cases given : body.get? k with
  | some w =>
    rw [given, Option.some_or] at eq
    rw [Option.some_or, eq]
  | none =>
    rw [given, Option.none_or] at eq
    rw [Option.none_or, shows_ k known v eq]

/-- A location which was updated keeps the updated card. -/
lemma Represents.updated {reply : Body} (rep : Represents conv locateZone (.present properties) s)
    (taken : TakenBody locateZone input body) (accepted : Accepted conv s (.update s.linked body) reply s') :
    Represents conv locateZone (.present (properties.update body)) s' := by
  cases rep with
  | present named there shows_ _ zone =>
    cases accepted with
    | update before updates readable =>
      rw [there] at before
      cases before
      exact .present named (Function.update_self ..) (shows_.update updates) readable (zone.update taken)

/-- Only the location of a card is updated, and the reply shows the card with what was supplied. -/
lemma Accepted.updates_card {reply : Body} (accepted : Accepted conv s (.update s.linked body) reply s')
    (named : s.linked ≠ "") (rep : Represents conv locateZone card s) :
    ∃ properties, card = .present properties ∧
      ∀ after, reply = .json (.obj after) → Shows (properties.update body) after := by
  cases accepted with
  | update there updates readable =>
    obtain ⟨properties, rfl, shows_, _⟩ := rep.present_of named there
    refine ⟨properties, rfl, fun after eq => ?_⟩
    cases eq
    exact shows_.update updates

/-- A location which is read has the time zone of its document. -/
lemma timezone_of_document {found : Prov.Location} {timezone : String}
    (read : Prov.locationFromJson conv document = some found)
    (eq : document.get? "timezone" = some (.str timezone)) : found.timezone = timezone := by
  rw [Prov.locationFromJson] at read
  split at read
  case isFalse => cases read
  case isTrue =>
    cases read
    have field : Prov.fieldFromJson conv document "timezone" = some timezone := by
      have notNull : document.isNull "timezone" = false := by
        rw [Json.Object.isNull, eq]
      rw [Prov.fieldFromJson, notNull, Conversions.getString, eq, Option.bind_some, conv.toString_str]
      rfl
    show (Prov.fieldFromJson conv document "timezone").getD "" = timezone
    rw [field]
    rfl

end Keeps

/-! ## What each visit does -/

section EachVisit

variable {conv : Conversions} {locateZone : String → Option Zone} {user : Security.UserInfoAndPolicy}
  {reliable : Bool} {venueId : String} {visit : Visit} {card : Card} {s s' : Registry}

/-- What comes of a visit is a turn of the card. -/
def Refines (conv : Conversions) (locateZone : String → Option Zone) (reliable : Bool) (subscriberId : String)
    (visit : Visit) (card : Card) (s' : Registry) (told : Told) : Prop :=
  ∃ card', Turns conv locateZone reliable subscriberId visit card told card' ∧ Represents conv locateZone card' s'

/-- What is told of the result of steps. -/
def telling {α : Type} (tell : α → Told) : Except HandlerAnswer α → Told
  | .ok a => tell a
  | .error sent => .answer sent

/-- An error leaves the card as it is. -/
lemma Refines.failed {subscriberId : String} {sent : HandlerAnswer} (rep : Represents conv locateZone card s)
    (status : sent.status ≠ HTTPStatus.ok)
    (reason : reliable = true → Refused conv locateZone subscriberId visit card) :
    Refines conv locateZone reliable subscriberId visit card s (.answer sent) :=
  ⟨card, .failed status reason, rep⟩

/-- A service is reliable or not. -/
lemma absurd_of_flaky {P : Prop} (flaky : reliable = false) (sure : reliable = true) : P := by
  rw [flaky] at sure
  cases sure

/-- The venue of the subscriber is found, or the request fails. -/
lemma findVenue_ensures {method : String} :
    Ensures (Serves conv reliable user.userinfo.id venueId)
      (fun s' r => s' = s ∧ (r = .ok { id := venueId, location := s.linked } ∨
        reliable = false ∧ ∃ e, r = .error e ∧ e.status ≠ HTTPStatus.ok))
      s (findVenue conv user method).run := by
  refine .attempt_lift_bind (getVenues_ensures.mono fun s' r h => ?_)
  obtain ⟨venues, callStatus, callResponse⟩ := r
  obtain ⟨rfl, listed | ⟨flaky, none, failed⟩⟩ := h
  · obtain ⟨others, eq⟩ := listed
    cases eq
    exact .attempt_pure ⟨rfl, .inl rfl⟩
  · cases none
    exact .attempt_ite (fun _ => .attempt_throw ⟨rfl, .inr ⟨flaky, _, rfl, failed⟩⟩)
      fun ok => absurd failed ok

/-- The location which the venue names is found; where it names none, the request fails. -/
lemma findLocation_ensures {method : String} :
    Ensures (Serves conv reliable user.userinfo.id venueId)
      (fun s' r => s' = s ∧ ((r = .ok s.linked ∧ s.linked ≠ "") ∨
        (reliable = true → s.linked = "") ∧ ∃ e, r = .error e ∧ e.status ≠ HTTPStatus.ok))
      s (findLocation conv user method).run := by
  refine .attempt_bind (findVenue_ensures.mono fun s' r h => ?_)
  obtain ⟨rfl, rfl | ⟨flaky, e, rfl, status⟩⟩ := h
  · refine ⟨nofun, fun venue eq => ?_⟩
    cases eq
    refine .attempt_ite (fun unlinked => .attempt_throw ⟨rfl, .inr ⟨fun _ => unlinked, _, rfl, ?_⟩⟩)
      fun named => .attempt_pure ⟨rfl, .inl ⟨rfl, named⟩⟩
    exact (show HTTPStatus.notFound ≠ HTTPStatus.ok by decide)
  · refine ⟨fun e' eq => ?_, nofun⟩
    cases eq
    exact ⟨rfl, .inr ⟨fun sure => absurd_of_flaky flaky sure, e, rfl, status⟩⟩

/-- A location is shown as the card has it. -/
lemma get_refines (rep : Represents conv locateZone card s) :
    Ensures (Serves conv reliable user.userinfo.id venueId)
      (fun s' r => Refines conv locateZone reliable user.userinfo.id .get card s'
        (telling (fun o => .answer (HandlerAnswer.returnObject o)) r))
      s (showLocation conv user).run := by
  refine .attempt_ite (fun stranger => ?_) fun _ => ?_
  · exact .attempt_throw (.failed rep (show HTTPStatus.forbidden ≠ HTTPStatus.ok by decide)
      fun _ => .stranger stranger)
  refine .attempt_bind (findLocation_ensures.mono fun s' r h => ?_)
  obtain ⟨rfl, ⟨rfl, named⟩ | ⟨unlinked, e, rfl, status⟩⟩ := h
  · refine ⟨nofun, fun locationId eq => ?_⟩
    cases eq
    refine .attempt_lift_bind (getLocation_ensures.mono fun s1 r h => ?_)
    obtain ⟨rfl, ⟨document, there, rfl⟩ | ⟨none, status, gone⟩⟩ := h
    · obtain ⟨properties, rfl, shows_, readable, _⟩ := rep.present_of named there
      obtain ⟨found, read⟩ := Option.isSome_iff_exists.mp readable
      dsimp only
      rw [read]
      exact .attempt_pure ⟨_, .shown shows_, rep⟩
    · obtain ⟨location, callStatus, callResponse⟩ := r
      cases none
      refine .attempt_ite (fun _ => .attempt_throw (.failed rep status fun sure => ?_)) fun ok => absurd status ok
      rw [rep.lost_of named (gone sure)]
      exact .lost
  · refine ⟨fun e' eq => ?_, nofun⟩
    cases eq
    refine .failed rep status fun sure => ?_
    rw [rep.absent_of (unlinked sure)]
    exact .missing nofun

/-- A location is created with the properties which were requested. -/
lemma post_refines {parsedBody : Option Json.Object} (venue : venueId ≠ "")
    (rep : Represents conv locateZone card s) :
    Ensures (Serves conv reliable user.userinfo.id venueId)
      (fun s' r => Refines conv locateZone reliable user.userinfo.id (.post parsedBody) card s'
        (telling (fun _ => .answer (HandlerAnswer.success "POST")) r))
      s (createLocation conv locateZone user parsedBody).run := by
  refine .attempt_ite (fun stranger => ?_) fun _ => ?_
  · exact .attempt_throw (.failed rep (show HTTPStatus.forbidden ≠ HTTPStatus.ok by decide)
      fun _ => .stranger stranger)
  refine .attempt_bind ((Ensures.of_quiet fun _ _ => readLocation_spec).mono fun s' r h => ?_)
  obtain ⟨rfl, ⟨input, body, rfl, zoned, rfl⟩ | ⟨⟨e, rfl, status⟩, bad⟩⟩ := h
  · refine ⟨nofun, fun body' eq => ?_⟩
    cases eq
    refine .attempt_bind (findVenue_ensures.mono fun s' r h => ?_)
    obtain ⟨rfl, rfl | ⟨flaky, e, rfl, status⟩⟩ := h
    · refine ⟨nofun, fun found eq => ?_⟩
      cases eq
      refine .attempt_ite (fun empty => absurd empty venue) fun _ => ?_
      refine .attempt_ite (fun named => ?_) fun unlinked => ?_
      · exact .attempt_throw (.failed rep (show HTTPStatus.badRequest ≠ HTTPStatus.ok by decide)
          fun _ => .already (rep.ne_absent named))
      obtain rfl := rep.absent_of (not_not.mp unlinked)
      refine .attempt_lift_bind (createLocation_ensures.mono fun s1 r h => ?_)
      obtain ⟨created, callStatus, callResponse⟩ := r
      obtain ⟨rfl, reply, accepted⟩ | ⟨rfl, status, ⟨rfl, impossible⟩ | ⟨flaky, reply, accepted⟩⟩ := h
      · exact .attempt_pure ⟨_, .created zoned fun _ => rfl, .created zoned accepted⟩
      · refine .attempt_throw (.failed rep status fun sure => ?_)
        cases impossible sure with
        | missing about => cases about
        | create unfit => exact .unfitPost zoned unfit
      · exact .attempt_throw ⟨_, .created zoned fun sure => absurd_of_flaky flaky sure, .created zoned accepted⟩
    · refine ⟨fun e' eq => ?_, nofun⟩
      cases eq
      exact .failed rep status fun sure => absurd_of_flaky flaky sure
  · refine ⟨fun e' eq => ?_, nofun⟩
    cases eq
    refine .failed rep ?_ fun _ => .badPost bad
    rw [status]
    exact nofun

/-- The properties are updated as it was requested. -/
lemma put_refines {parsedBody : Option Json.Object} (rep : Represents conv locateZone card s) :
    Ensures (Serves conv reliable user.userinfo.id venueId)
      (fun s' r => Refines conv locateZone reliable user.userinfo.id (.put parsedBody) card s'
        (telling (fun o => .answer (HandlerAnswer.returnObject o)) r))
      s (updateLocation conv locateZone user parsedBody).run := by
  refine .attempt_ite (fun stranger => ?_) fun _ => ?_
  · exact .attempt_throw (.failed rep (show HTTPStatus.forbidden ≠ HTTPStatus.ok by decide)
      fun _ => .stranger stranger)
  refine .attempt_bind ((Ensures.of_quiet fun _ _ => readUpdate_spec).mono fun s' r h => ?_)
  obtain ⟨rfl, ⟨input, body, rfl, taken, rfl⟩ | ⟨⟨e, rfl, status⟩, bad⟩⟩ := h
  · refine ⟨nofun, fun body' eq => ?_⟩
    cases eq
    refine .attempt_bind (findLocation_ensures.mono fun s' r h => ?_)
    obtain ⟨rfl, ⟨rfl, named⟩ | ⟨unlinked, e, rfl, status⟩⟩ := h
    · refine ⟨nofun, fun locationId eq => ?_⟩
      cases eq
      refine .attempt_lift_bind (putLocation_ensures.mono fun s1 r h => ?_)
      obtain ⟨after, rfl, accepted⟩ | ⟨failed, status, ⟨rfl, impossible⟩ | ⟨flaky, reply, accepted⟩⟩ := h
      · obtain ⟨properties, rfl, shows_⟩ := accepted.updates_card named rep
        refine .attempt_pure ⟨_, .updated taken (fun _ => rfl) fun _ => ⟨after, rfl, ?_⟩, rep.updated taken accepted⟩
        exact shows_ after rfl
      · obtain ⟨updated, callStatus, callResponse⟩ := r
        cases failed
        refine .attempt_throw (.failed rep status fun sure => ?_)
        cases impossible sure with
        | missing about gone =>
          cases about
          rw [rep.lost_of named gone]
          exact .lost
        | update there unfit =>
          obtain ⟨properties, rfl, shows_, readable, _⟩ := rep.present_of named there
          exact .unfitPut taken shows_ readable unfit
      · obtain ⟨updated, callStatus, callResponse⟩ := r
        cases failed
        obtain ⟨properties, rfl, _⟩ := accepted.updates_card named rep
        exact .attempt_throw ⟨_, .updated taken (fun sure => absurd_of_flaky flaky sure) fun ok => absurd ok status,
          rep.updated taken accepted⟩
    · refine ⟨fun e' eq => ?_, nofun⟩
      cases eq
      refine .failed rep status fun sure => ?_
      rw [rep.absent_of (unlinked sure)]
      exact .missing nofun
  · refine ⟨fun e' eq => ?_, nofun⟩
    cases eq
    refine .failed rep ?_ fun _ => .badPut fun input body eq taken => ?_
    · rw [status]
      exact nofun
    · exact taken.elim (bad input body eq).1 (bad input body eq).2

/-- Linking is possible. -/
lemma Missed.link {location : String} (missed : Missed conv reliable s (.link location) s') :
    reliable = false ∧ (s' = s ∨ s' = { s with linked := location }) := by
  rcases missed with ⟨rfl, impossible⟩ | ⟨flaky, body, accepted⟩
  · refine ⟨Bool.eq_false_of_not_eq_true fun sure => ?_, .inl rfl⟩
    have possible : Accepted conv s' (.link location) (.json (.obj [])) _ := .link
    exact possible.possible (impossible sure)
  · cases accepted with
    | link => exact ⟨flaky, .inr rfl⟩

/-- What a failed deletion leaves: the location is still there or not, and the venue names it again or not. -/
lemma restore_refines {subscriberId : String} {sent : HandlerAnswer} {s2 s3 : Registry}
    (rep : Represents conv locateZone card s) (named : s.linked ≠ "") (status : sent.status ≠ HTTPStatus.ok)
    (missed : Missed conv reliable { s with linked := "" } (.delete s.linked) s2)
    (restored : s3 = { s2 with linked := s.linked } ∨ reliable = false ∧ s3 = s2) :
    Refines conv locateZone reliable subscriberId .delete card s3 (.answer sent) := by
  rcases restored with rfl | ⟨flaky, rfl⟩
  · rcases missed with ⟨rfl, impossible⟩ | ⟨flaky, reply, accepted⟩
    · -- nothing has changed: the location was kept, and is named as before
      refine .failed rep status fun sure => ?_
      cases impossible sure with
      | missing about gone =>
        cases about
        rw [rep.lost_of named gone]
        exact .lost
    · cases accepted with
      | delete there =>
        obtain ⟨properties, rfl, _⟩ := rep.present_of named there
        exact ⟨_, .forgotten flaky status, .lost named (Function.update_self ..)⟩
  · have unlinked : s3.linked = "" := by
      rcases missed with ⟨rfl, _⟩ | ⟨_, reply, accepted⟩
      · rfl
      · cases accepted with
        | delete => rfl
    exact ⟨_, .removed (rep.ne_absent named) fun sure => absurd_of_flaky flaky sure, .absent unlinked⟩

/-- A location is removed, or stays. -/
lemma delete_refines (venue : venueId ≠ "") (rep : Represents conv locateZone card s) :
    Ensures (Serves conv reliable user.userinfo.id venueId)
      (fun s' r => Refines conv locateZone reliable user.userinfo.id .delete card s'
        (telling (fun _ => .answer (HandlerAnswer.success "DELETE")) r))
      s (deleteLocation conv user).run := by
  refine .attempt_ite (fun stranger => ?_) fun _ => ?_
  · exact .attempt_throw (.failed rep (show HTTPStatus.forbidden ≠ HTTPStatus.ok by decide)
      fun _ => .stranger stranger)
  refine .attempt_bind (findVenue_ensures.mono fun s' r h => ?_)
  obtain ⟨rfl, rfl | ⟨flaky, e, rfl, status⟩⟩ := h
  · refine ⟨nofun, fun found eq => ?_⟩
    cases eq
    refine .attempt_ite (fun empty => absurd empty venue) fun _ => ?_
    refine .attempt_ite (fun unlinked => ?_) fun named => ?_
    · refine .attempt_throw (.failed rep (show HTTPStatus.notFound ≠ HTTPStatus.ok by decide) fun _ => ?_)
      rw [rep.absent_of unlinked]
      exact .missing nofun
    refine .attempt_lift_bind (link_ensures.mono fun s1 r h => ?_)
    obtain ⟨cleared, clearStatus, clearResponse⟩ := r
    obtain ⟨rfl, reply, accepted⟩ | ⟨rfl, status, missed⟩ := h
    · cases accepted with
      | link =>
        refine .attempt_lift_bind (deleteCall_ensures.mono fun s2 r h => ?_)
        obtain ⟨deleted, deleteStatus, deleteResponse⟩ := r
        obtain ⟨rfl, reply, accepted⟩ | ⟨rfl, status, missed⟩ := h
        · cases accepted with
          | delete => exact .attempt_pure ⟨_, .removed (rep.ne_absent named) fun _ => rfl, .absent rfl⟩
        · refine .attempt_lift_bind (link_ensures.mono fun s3 r h => ?_)
          refine .attempt_throw (restore_refines rep named status missed ?_)
          rcases h with ⟨_, reply, accepted⟩ | ⟨_, _, missed⟩
          · cases accepted with
            | link => exact .inl rfl
          · obtain ⟨flaky, eq | eq⟩ := missed.link
            · exact .inr ⟨flaky, eq⟩
            · exact .inl eq
    · obtain ⟨flaky, rfl | rfl⟩ := missed.link
      · exact .attempt_throw (.failed rep status fun sure => absurd_of_flaky flaky sure)
      · exact .attempt_throw ⟨_, .removed (rep.ne_absent named) fun sure => absurd_of_flaky flaky sure, .absent rfl⟩
  · refine ⟨fun e' eq => ?_, nofun⟩
    cases eq
    exact .failed rep status fun sure => absurd_of_flaky flaky sure

/-- The location of the venue is read, or the steps fail. -/
lemma resolveSubscriberLocation_ensures {method : String} :
    Ensures (Serves conv reliable user.userinfo.id venueId)
      (fun s' r => s' = s ∧ ((∃ document found, s.linked ≠ "" ∧ s.documents s.linked = some document ∧
          Prov.locationFromJson conv document = some found ∧ r = .ok found) ∨
        ∃ e, r = .error e ∧ e.status ≠ HTTPStatus.ok ∧ (reliable = true → s.linked ≠ "" →
          ∀ document, s.documents s.linked = some document → ¬ Readable conv document)))
      s (ParentalControl.resolveSubscriberLocation conv method user.userinfo.id).run := by
  refine .attempt_lift_bind (getVenues_ensures.mono fun s' r h => ?_)
  obtain ⟨venues, callStatus, callResponse⟩ := r
  obtain ⟨rfl, listed | ⟨flaky, none, failed⟩⟩ := h
  · obtain ⟨others, eq⟩ := listed
    cases eq
    refine .attempt_ite (fun unlinked => ?_) fun named => ?_
    · exact .attempt_throw ⟨rfl, .inr ⟨_, rfl, show HTTPStatus.badRequest ≠ HTTPStatus.ok by decide,
        fun _ named => absurd unlinked named⟩⟩
    refine .attempt_lift_bind (getLocation_ensures.mono fun s1 r h => ?_)
    obtain ⟨rfl, ⟨document, there, rfl⟩ | ⟨none, status, gone⟩⟩ := h
    · cases read : Prov.locationFromJson conv document with
      | some found => exact .attempt_pure ⟨rfl, .inl ⟨document, found, named, there, read, rfl⟩⟩
      | none =>
        refine .attempt_ite (fun failed => absurd rfl failed) fun _ => ?_
        refine .attempt_throw ⟨rfl, .inr ⟨_, rfl, show HTTPStatus.internalServerError ≠ HTTPStatus.ok by decide,
          fun _ _ document' there' => ?_⟩⟩
        rw [there] at there'
        cases there'
        rw [Readable, read]
        exact nofun
    · obtain ⟨location, callStatus, callResponse⟩ := r
      cases none
      refine .attempt_ite (fun _ => ?_) fun ok => absurd status ok
      refine .attempt_throw ⟨rfl, .inr ⟨_, rfl, status, fun sure _ document there => ?_⟩⟩
      rw [gone sure] at there
      cases there
  · cases none
    refine .attempt_ite (fun _ => ?_) fun ok => absurd failed ok
    exact .attempt_throw ⟨rfl, .inr ⟨_, rfl, failed, fun sure => absurd_of_flaky flaky sure⟩⟩

/-- The time zone is that of the card. Without a card the schedules have none. -/
lemma timezone_refines {method : String} (rep : Represents conv locateZone card s) :
    Ensures (Serves conv reliable user.userinfo.id venueId)
      (fun s' r => Refines conv locateZone reliable user.userinfo.id (.timezone method) card s'
        (telling (fun timezone => .timezone timezone) r))
      s (ParentalControl.resolveSubscriberTimezone conv locateZone method user.userinfo.id).run := by
  refine .attempt_bind (resolveSubscriberLocation_ensures.mono fun s' r h => ?_)
  obtain ⟨rfl, ⟨document, found, named, there, read, rfl⟩ | ⟨e, rfl, status, unread⟩⟩ := h
  · refine ⟨nofun, fun location eq => ?_⟩
    cases eq
    obtain ⟨properties, rfl, shows_, _, timezone, zone, nonempty, exists_⟩ := rep.present_of named there
    have same : found.timezone = timezone :=
      timezone_of_document read (shows_ "timezone" (by decide) _ zone)
    rw [← same] at nonempty exists_ zone
    refine .attempt_ite (fun empty => absurd empty nonempty) fun _ => ?_
    refine .attempt_ite (fun unknown => ?_) fun _ => .attempt_pure ⟨_, .zoned zone, rep⟩
    rw [Option.isNone_iff_eq_none.mp unknown] at exists_
    cases exists_
  · refine ⟨fun e' eq => ?_, nofun⟩
    cases eq
    refine .failed rep status fun sure => ?_
    cases rep with
    | absent => exact .missing nofun
    | present named there _ readable => exact absurd readable (unread sure named _ there)
    | lost => exact .lost

end EachVisit

/-! ## Runs -/

section Runs

variable {conv : Conversions} {locateZone : String → Option Zone} {user : Security.UserInfoAndPolicy}
  {reliable : Bool} {venueId : String} {card : Card} {s : Registry} {Q : Registry → Told → Prop}

/-- What the steps ensure of their end is ensured of the answer. -/
lemma ensures_answer {env : Registry → Portal.Event → Registry → Prop} {method : String} {steps : Handling Unit}
    (h : Ensures env (fun s r => Q s (telling (fun _ => .answer (HandlerAnswer.success method)) r)) s steps.run) :
    Ensures env Q s (do return .answer (← steps.answer method)) := by
  refine .bind (.bind (h.mono fun s r h => ?_))
  cases r with
  | ok u => exact .pure (.pure h)
  | error sent => exact .pure (.pure h)

/-- So it is of an object which is returned. -/
lemma ensures_returned {env : Registry → Portal.Event → Registry → Prop} {steps : Handling Json.Object}
    (h : Ensures env (fun s r => Q s (telling (fun o => .answer (HandlerAnswer.returnObject o)) r)) s steps.run) :
    Ensures env Q s (do return .answer (← steps.returned)) := by
  refine .bind (.bind (h.mono fun s r h => ?_))
  cases r with
  | ok o => exact .pure (.pure h)
  | error sent => exact .pure (.pure h)

/-- Each visit is a turn of the card. -/
lemma Visit.refines (venue : venueId ≠ "") (rep : Represents conv locateZone card s) (visit : Visit) :
    Ensures (Serves conv reliable user.userinfo.id venueId)
      (Refines conv locateZone reliable user.userinfo.id visit card) s (visit.run conv locateZone user) := by
  cases visit with
  | get => exact ensures_returned (get_refines rep)
  | post parsedBody => exact ensures_answer (post_refines venue rep)
  | put parsedBody => exact ensures_returned (put_refines rep)
  | delete => exact ensures_answer (delete_refines venue rep)
  | timezone method =>
    refine .bind ((timezone_refines rep).mono fun s r h => ?_)
    cases r with
    | ok timezone => exact .pure h
    | error sent => exact .pure h

/-- A reliable service does not lose a location. -/
lemma Turns.not_lost {subscriberId : String} {visit : Visit} {told : Told} {card' : Card}
    (turn : Turns conv locateZone true subscriberId visit card told card') (kept : card ≠ .lost) :
    card' ≠ .lost := by
  cases turn with
  | failed => exact kept
  | shown => exact kept
  | created => exact nofun
  | updated => exact nofun
  | removed => exact nofun
  | forgotten flaky => cases flaky
  | zoned => exact kept

end Runs

/-- Over any run of requests about the location of a subscriber and of schedules which need its time zone, the portal
and the provisioning service are a card of properties: every answer which is no error has changed the card, or shows
it, as was requested, and schedules get its time zone. With a reliable service nothing fails which is not refused,
and no location is lost. -/
theorem locations_refine {conv : Conversions} {locateZone : String → Option Zone}
    {user : Security.UserInfoAndPolicy} {reliable : Bool} {venueId : String} {card : Card} {s s' : Registry}
    {visits : List Visit} {tr : List Portal.Event} {told : List Told}
    (venue : venueId ≠ "") (rep : Represents conv locateZone card s)
    (ran : Visits (fun visit tr told => Trace (visit.run conv locateZone user) tr told) visits tr told)
    (served : Accepts (Serves conv reliable user.userinfo.id venueId) s tr s') :
    ∃ card', SpecRuns (Turns conv locateZone reliable user.userinfo.id) card visits told card' ∧
      Represents conv locateZone card' s' ∧ (reliable = true → card ≠ .lost → card' ≠ .lost) := by
  have simulates : Simulates (Serves conv reliable user.userinfo.id venueId)
      (fun visit tr told => Trace (Visit.run conv locateZone user visit) tr told)
      (Turns conv locateZone reliable user.userinfo.id) (Represents conv locateZone) :=
    fun visit tr told card s s' rep run served => Visit.refines venue rep visit tr told s' run served
  obtain ⟨card', runs, rep'⟩ := simulates.run rep ran served
  refine ⟨card', runs, rep', fun sure kept => ?_⟩
  rw [sure] at runs
  exact runs.keeps (fun _ _ _ _ turn => turn.not_lost) kept

/-! ### A location which is created and used -/

namespace OneLocation

def user : Security.UserInfoAndPolicy where
  userinfo := { id := "s" }

def anyZone (_ : String) : Option Zone := some (.fixed 7200)

def body : Json.Object := [("city", .str "Kyiv"), ("timezone", .str "Europe/Kyiv")]

/-- The venue names this location. -/
def listing (location : String) : Portal.Event :=
  ⟨.call (Prov.getVenuesCall "s"),
    some ⟨HTTPStatus.ok, .json (.obj [("venues", .arr [.obj [("id", .str "v"), ("location", .str location)]])])⟩⟩

def empty : Registry := ⟨"", fun _ => none⟩

def filled : Registry := { empty.put "l" (some body) with linked := "l" }

def posting : List Portal.Event :=
  [listing "", ⟨.call ((Question.create body).call "v"), some ⟨HTTPStatus.ok, .json (.obj [])⟩⟩]

def resolving : List Portal.Event :=
  [listing "l", ⟨.call ((Question.read "l").call "v"), some ⟨HTTPStatus.ok, .json (.obj body)⟩⟩]

/-- The listed venue names the location. -/
lemma listing_served {s : Registry} {location : String}
    (listed : Prov.venuesIn .strict (some ⟨HTTPStatus.ok,
      .json (.obj [("venues", .arr [.obj [("id", .str "v"), ("location", .str location)]])])⟩) =
        some [{ id := "v", location := s.linked }]) :
    Serves .strict true "s" "v" s (listing location) s :=
  .venues listed

/-- Schedules get the time zone of the new location. -/
theorem posted_resolved :
    ∃ card', SpecRuns (Turns .strict anyZone true "s") .absent [.post (some body), .timezone "GET"]
        [.answer (HandlerAnswer.success "POST"), .timezone "Europe/Kyiv"] card' ∧
      Represents .strict anyZone card' filled ∧ (true = true → Card.absent ≠ .lost → card' ≠ .lost) := by
  have posted : Trace (Visit.run .strict anyZone user (.post (some body))) posting
      (.answer (HandlerAnswer.success "POST")) := trace_iff_replay.mpr rfl
  have resolved : Trace (Visit.run .strict anyZone user (.timezone "GET")) resolving (.timezone "Europe/Kyiv") :=
    trace_iff_replay.mpr rfl
  have named : "l" ≠ "" := by decide
  have stored : Accepted .strict empty (.create body) (.json (.obj [])) filled :=
    .create named rfl (fun _ _ h => h) rfl
  have created : Accepts (Serves .strict true "s" "v") empty posting filled :=
    .cons (listing_served rfl) (.cons (.asked (.accepted stored)) (.nil _))
  have read : Accepts (Serves .strict true "s" "v") filled resolving filled :=
    .cons (listing_served rfl) (.cons (.asked (.accepted (.read rfl))) (.nil _))
  exact locations_refine (by decide) (.absent rfl) (.cons posted (.cons resolved .nil))
    (accepts_append.mpr ⟨_, created, accepts_append.mpr ⟨_, read, .nil _⟩⟩)

end OneLocation

end UserPortal.RestApi.SubscriberLocation
