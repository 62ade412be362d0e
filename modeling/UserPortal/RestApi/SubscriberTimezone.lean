import UserPortal.Calendar.Zone
import UserPortal.Sdk.Venues

/-!
# The time zone of a subscriber

Port of `Location::Get` and `Location::Put` of `src/sdks/SDK_prov.cpp`, of `Location::from_json` of
`src/RESTObjects/RESTAPI_ProvObjects.cpp`, and of `ResolveSubscriberTimezone` of
`src/RESTAPI/RESTAPI_parental_control_utils.cpp`: the time zone is that of the location of the first venue.
-/

namespace UserPortal

namespace Sdk.Prov
open Interaction Program

/-- `ProvObjects::Location`, up to the field which is used. -/
structure Location where
  timezone : String
  deriving DecidableEq

section Fields

variable (conv : Conversions)

/-- The string fields of a location. -/
def locationFields : List String :=
  ["type", "buildingName", "city", "state", "postal", "country", "geoCode", "entity", "managementPolicy",
    "timezone"]

/-- The fields of a location which are lists of strings. -/
def locationLists : List String := ["addressLines", "phones", "mobiles", "inUse"]

/-- `Location::from_json`, `none` where it fails. Its information swallows its own exceptions. -/
def locationFromJson (o : Json.Object) : Option Location :=
  if locationFields.all (fun field => (fieldFromJson conv o field).isSome) &&
      locationLists.all fun field => stringsRead conv o field then
    some { timezone := (fieldFromJson conv o "timezone").getD "" }
  else none

/-- The location which a reply to `Location::Get` holds. -/
def locationIn (answer : Option Reply) : Option Location :=
  if (OpenAPIRequest.lenient (some []) answer).1 = HTTPStatus.ok then
    (OpenAPIRequest.lenient (some []) answer).2.bind (locationFromJson conv)
  else none

/-- `Location::Get`: the location, `none` when it fails, with the status and the response. -/
def getLocation (locationUUID : String) : Portal (Option Location × HTTPStatus × Option Json.Object) := do
  let (callStatus, callResponse) ← OpenAPIRequest.get uSERVICE_PROVISIONING
    ("/api/v1/location/" ++ locationUUID) [] 60000 "" (some [])
  if callStatus = HTTPStatus.ok then
    return (callResponse.bind (locationFromJson conv), callStatus, callResponse)
  else return (none, callStatus, callResponse)

/-- `Location::Put`: whether it succeeds, with the status and the response. -/
def putLocation (locationUUID : String) (body : Json.Object) :
    Portal (Bool × HTTPStatus × Option Json.Object) := do
  let (callStatus, callResponse) ← OpenAPIRequest.put uSERVICE_PROVISIONING
    ("/api/v1/location/" ++ locationUUID) [] body 60000 "" (some [])
  return (callStatus = HTTPStatus.ok, callStatus, callResponse)

end Fields

/-- The request of `Location::Get`. -/
def getLocationCall (locationUUID : String) : Call where
  verb := .get
  service := uSERVICE_PROVISIONING
  endPoint := "/api/v1/location/" ++ locationUUID
  queryData := []
  body := []
  msTimeout := 60000
  bearerToken := ""

/-- The request of `Location::Put`. -/
def putLocationCall (locationUUID : String) (body : Json.Object) : Call where
  verb := .put
  service := uSERVICE_PROVISIONING
  endPoint := "/api/v1/location/" ++ locationUUID
  queryData := []
  body := body
  msTimeout := 60000
  bearerToken := ""

section Traces

variable {conv : Conversions} {locationUUID : String} {tr : List Portal.Event}

lemma getLocation_inv {r : Option Location × HTTPStatus × Option Json.Object}
    (h : Trace (getLocation conv locationUUID) tr r) :
    ∃ answer, tr = [⟨.call (getLocationCall locationUUID), answer⟩] ∧ r.1 = locationIn conv answer ∧
      r.2 = OpenAPIRequest.lenient (some []) answer := by
  obtain ⟨answer, rest, rfl, h1⟩ := OpenAPIRequest.trace_get_bind.mp h
  refine ⟨answer, ?_⟩
  dsimp only at h1
  rw [locationIn]
  split at h1
  case isTrue ok =>
    obtain ⟨rfl, rfl⟩ := trace_pure.mp h1
    rw [if_pos ok]
    exact ⟨rfl, rfl, rfl⟩
  case isFalse failed =>
    obtain ⟨rfl, rfl⟩ := trace_pure.mp h1
    rw [if_neg failed]
    exact ⟨rfl, rfl, rfl⟩

lemma putLocation_inv {body : Json.Object} {r : Bool × HTTPStatus × Option Json.Object}
    (h : Trace (putLocation locationUUID body) tr r) :
    ∃ answer, tr = [⟨.call (putLocationCall locationUUID body), answer⟩] ∧ r.1 = putSucceeds answer ∧
      r.2 = OpenAPIRequest.strict (some []) answer := by
  obtain ⟨answer, rest, rfl, h1⟩ := OpenAPIRequest.trace_put_bind.mp h
  obtain ⟨rfl, rfl⟩ := trace_pure.mp h1
  exact ⟨answer, rfl, rfl, rfl⟩

end Traces

end Sdk.Prov

namespace RestApi.ParentalControl
open Interaction Program Calendar Sdk

section Resolve

variable (conv : Conversions) (locateZone : String → Option Zone) (method subscriberId : String)

/-- The location of the first venue of a subscriber. -/
def resolveSubscriberLocation : Handling Prov.Location := do
  let (venues, callStatus, callResponse) ← Prov.getVenues conv subscriberId
  match venues with
  | none =>
    if callStatus ≠ HTTPStatus.ok then throw (HandlerAnswer.forwardErrorResponse callStatus callResponse)
    else throw (HandlerAnswer.internalError method Errors.internalError)
  | some [] => throw (HandlerAnswer.badRequest method Errors.timezoneRequired "")
  | some (venue :: _) =>
    if venue.location = "" then throw (HandlerAnswer.badRequest method Errors.timezoneRequired "")
    else
      let (location, callStatus, callResponse) ← Prov.getLocation conv venue.location
      match location with
      | none =>
        if callStatus ≠ HTTPStatus.ok then
          throw (HandlerAnswer.forwardErrorResponse callStatus callResponse)
        else throw (HandlerAnswer.internalError method Errors.internalError)
      | some location => return location

/-- `ResolveSubscriberTimezone` -/
def resolveSubscriberTimezone : Handling String := do
  let location ← resolveSubscriberLocation conv method subscriberId
  if location.timezone = "" then throw (HandlerAnswer.badRequest method Errors.timezoneRequired "")
  else if (locateZone location.timezone).isNone then
    throw (HandlerAnswer.internalError method Errors.internalError)
  else return location.timezone

end Resolve

variable {conv : Conversions} {locateZone : String → Option Zone} {method subscriberId timezone : String}
  {tr : List Portal.Event}

/-- What resolving a time zone asks: the venues of the subscriber, and the location of the first one. -/
inductive Resolves (conv : Conversions) (subscriberId : String) :
    List Portal.Event → Option Prov.Location → Prop where
  | noVenue (listing : Option Reply) :
    Resolves conv subscriberId [⟨.call (Prov.getVenuesCall subscriberId), listing⟩] none
  | asked {listing found : Option Reply} {venue : Prov.Venue} {venues : List Prov.Venue} :
    Prov.venuesIn conv listing = some (venue :: venues) →
    venue.location ≠ "" →
    Resolves conv subscriberId
      [⟨.call (Prov.getVenuesCall subscriberId), listing⟩,
        ⟨.call (Prov.getLocationCall venue.location), found⟩]
      (Prov.locationIn conv found)

lemma resolveSubscriberLocation_inv {r : Except HandlerAnswer Prov.Location}
    (h : Trace (resolveSubscriberLocation conv method subscriberId).run tr r) :
    ∃ found, Resolves conv subscriberId tr found ∧ ∀ location, r = .ok location → found = some location := by
  rw [resolveSubscriberLocation] at h
  obtain ⟨tr1, tr2, ⟨venues, status, response⟩, rfl, h1, h2⟩ := trace_attempt_lift_bind.mp h
  obtain ⟨listing, rfl, listed⟩ := Prov.getVenues_inv h1
  dsimp only at h2 listed
  have stops : ∀ {e : HandlerAnswer} {tr : List Portal.Event},
      Trace (throw e : Handling Prov.Location).run tr r → tr = [] ∧ ∀ location, r ≠ .ok location := by
    intro e tr h
    obtain ⟨rfl, rfl⟩ := trace_attempt_throw.mp h
    exact ⟨rfl, nofun⟩
  have noVenue : ∀ {tr : List Portal.Event}, tr = [] ∧ (∀ location, r ≠ .ok location) →
      ∃ found, Resolves conv subscriberId ([⟨.call (Prov.getVenuesCall subscriberId), listing⟩] ++ tr) found ∧
        ∀ location, r = .ok location → found = some location := by
    intro tr both
    obtain ⟨rfl, error⟩ := both
    exact ⟨none, .noVenue listing, fun location eq => absurd eq (error location)⟩
  cases venues with
  | none =>
    dsimp only at h2
    split at h2
    case isTrue => exact noVenue (stops h2)
    case isFalse => exact noVenue (stops h2)
  | some venues =>
    cases venues with
    | nil => exact noVenue (stops h2)
    | cons venue venues =>
      dsimp only at h2
      split at h2
      case isTrue => exact noVenue (stops h2)
      case isFalse placed =>
        obtain ⟨tr3, tr4, ⟨location, status, response⟩, rfl, h3, h4⟩ := trace_attempt_lift_bind.mp h2
        obtain ⟨found, rfl, located, -⟩ := Prov.getLocation_inv h3
        dsimp only at h4 located
        refine ⟨Prov.locationIn conv found, ?_, ?_⟩
        · have rest : tr4 = [] := by
            cases location with
            | none =>
              dsimp only at h4
              split at h4
              case isTrue => exact (stops h4).1
              case isFalse => exact (stops h4).1
            | some location => exact (trace_attempt_pure.mp h4).1
          rw [rest]
          exact .asked listed.symm placed
        · intro result eq
          rw [← located]
          cases location with
          | none =>
            dsimp only at h4
            split at h4
            case isTrue => exact absurd eq ((stops h4).2 result)
            case isFalse => exact absurd eq ((stops h4).2 result)
          | some location =>
            obtain ⟨-, same⟩ := trace_attempt_pure.mp h4
            rw [eq] at same
            cases same
            rfl

/-- The venues are asked for first, and a time zone which is resolved is that of the location, and exists. -/
lemma resolveSubscriberTimezone_inv {r : Except HandlerAnswer String}
    (h : Trace (resolveSubscriberTimezone conv locateZone method subscriberId).run tr r) :
    ∃ found, Resolves conv subscriberId tr found ∧ ∀ timezone, r = .ok timezone →
      found = some ⟨timezone⟩ ∧ timezone ≠ "" ∧ (locateZone timezone).isSome := by
  rw [resolveSubscriberTimezone] at h
  rcases trace_attempt_bind.mp h with ⟨e, rfl, h1⟩ | ⟨tr1, tr2, location, rfl, h1, h2⟩
  · obtain ⟨found, resolves, -⟩ := resolveSubscriberLocation_inv h1
    exact ⟨found, resolves, nofun⟩
  · obtain ⟨found, resolves, eq⟩ := resolveSubscriberLocation_inv h1
    have ended : tr2 = [] ∧ ∀ timezone, r = .ok timezone →
        location.timezone = timezone ∧ timezone ≠ "" ∧ (locateZone timezone).isSome := by
      split at h2
      case isTrue =>
        obtain ⟨rfl, rfl⟩ := trace_attempt_throw.mp h2
        exact ⟨rfl, nofun⟩
      case isFalse named =>
        split at h2
        case isTrue =>
          obtain ⟨rfl, rfl⟩ := trace_attempt_throw.mp h2
          exact ⟨rfl, nofun⟩
        case isFalse exists_ =>
          obtain ⟨rfl, rfl⟩ := trace_attempt_pure.mp h2
          refine ⟨rfl, fun timezone same => ?_⟩
          cases same
          exact ⟨rfl, named, Option.isSome_iff_ne_none.mpr fun none => exists_ (Option.isNone_iff_eq_none.mpr none)⟩
    obtain ⟨rfl, ok⟩ := ended
    rw [List.append_nil]
    refine ⟨found, resolves, fun timezone same => ?_⟩
    obtain ⟨rfl, named, exists_⟩ := ok timezone same
    exact ⟨eq location rfl, named, exists_⟩

end RestApi.ParentalControl

end UserPortal
