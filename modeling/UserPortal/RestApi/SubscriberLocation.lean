import UserPortal.Calendar.Zone
import UserPortal.Sdk.Venues
import UserPortal.Security.Objects

/-!
# The location of a subscriber

Port of `DoPost` and `DoDelete` of `src/RESTAPI/RESTAPI_subscriber_location_handler.cpp`, and what each
asks of the provisioning service.
-/

namespace UserPortal.RestApi.SubscriberLocation
open Interaction Program Calendar Sdk

/-- `kAllowedLocationKeys` -/
def allowedLocationKeys : List String :=
  ["name", "description", "type", "buildingName", "addressLines", "city", "state", "postal", "country",
    "phones", "mobiles", "geoCode", "timezone"]

/-- `BuildAllowedLocationBody` -/
def buildAllowedLocationBody (input : Json.Object) : Option Json.Object :=
  if input.all fun entry => entry.1 ∈ allowedLocationKeys then some input else none

section Handlers

variable (conv : Conversions) (locateZone : String → Option Zone) (user : Security.UserInfoAndPolicy)

/-- The new location: the body of the request, with a time zone which exists. -/
def readLocation (parsedBody : Option Json.Object) : Handling Json.Object :=
  match parsedBody with
  | none => throw (HandlerAnswer.badRequest "POST" Errors.invalidJSONDocument "")
  | some input =>
    match buildAllowedLocationBody input with
    | none => throw (HandlerAnswer.badRequest "POST" Errors.missingOrInvalidParameters "")
    | some locationBody =>
      match locationBody.getString? "timezone" with
      | none => throw (HandlerAnswer.badRequest "POST" Errors.missingOrInvalidParameters "")
      | some timezone =>
        if Utils.trim timezone = "" ∨ (locateZone (Utils.trim timezone)).isNone then
          throw (HandlerAnswer.badRequest "POST" Errors.missingOrInvalidParameters "")
        else return locationBody.set "timezone" (.str (Utils.trim timezone))

/-- The venue of the subscriber, the first which is listed. -/
def findVenue (method : String) : Handling Prov.Venue := do
  let (venues, callStatus, callResponse) ← Prov.getVenues conv user.userinfo.id
  match venues with
  | none =>
    if callStatus ≠ HTTPStatus.ok then throw (HandlerAnswer.forwardErrorResponse callStatus callResponse)
    else throw (HandlerAnswer.internalError method Errors.invalidJSONDocument)
  | some [] => throw (HandlerAnswer.notFound method)
  | some (venue :: _) => return venue

/-- The steps of `DoPost`. -/
def createLocation (parsedBody : Option Json.Object) : Handling Unit := do
  if user.userinfo.id = "" then throw (HandlerAnswer.unAuthorized "POST" Errors.invalidSubscriberId)
  else
    let locationBody ← readLocation locateZone parsedBody
    let venue ← findVenue conv user "POST"
    if venue.id = "" then throw (HandlerAnswer.internalError "POST" Errors.invalidJSONDocument)
    else if venue.location ≠ "" then
      throw (HandlerAnswer.badRequest "POST" Errors.subscriberLocationAlreadyConfigured "")
    else
      let (created, callStatus, callResponse) ← Prov.createLocation venue.id locationBody
      if created then return ()
      else throw (HandlerAnswer.forwardErrorResponse callStatus callResponse)

/-- The steps of `DoDelete`. Whether the location was restored changes nothing of the answer. -/
def deleteLocation : Handling Unit := do
  if user.userinfo.id = "" then throw (HandlerAnswer.unAuthorized "DELETE" Errors.invalidSubscriberId)
  else
    let venue ← findVenue conv user "DELETE"
    if venue.id = "" then throw (HandlerAnswer.internalError "DELETE" Errors.invalidJSONDocument)
    else if venue.location = "" then throw (HandlerAnswer.notFound "DELETE")
    else
      let (cleared, callStatus, callResponse) ← Prov.clearLocation venue.id
      if cleared = false then throw (HandlerAnswer.forwardErrorResponse callStatus callResponse)
      else
        let (deleted, deleteStatus, deleteResponse) ← Prov.deleteLocation venue.location
        if deleted then return ()
        else
          let _ ← Prov.setLocation venue.id venue.location
          throw (HandlerAnswer.forwardErrorResponse deleteStatus deleteResponse)

/-- `DoPost` -/
def doPost (parsedBody : Option Json.Object) : Portal HandlerAnswer :=
  (createLocation conv locateZone user parsedBody).answer "POST"

/-- `DoDelete` -/
def doDelete : Portal HandlerAnswer := (deleteLocation conv user).answer "DELETE"

end Handlers

/-! ## The traces -/

section Traces

variable {conv : Conversions} {locateZone : String → Option Zone} {user : Security.UserInfoAndPolicy}
  {tr : List Portal.Event}

/-- The venues are listed. -/
abbrev listEvent (subscriberId : String) (answer : Option Reply) : Portal.Event :=
  ⟨.call (Prov.getVenuesCall subscriberId), answer⟩

/-- A venue is changed. -/
abbrev putEvent (venueId : String) (body : Json.Object) (answer : Option Reply) : Portal.Event :=
  ⟨.call (Prov.putVenueCall venueId body), answer⟩

/-- A location is deleted. -/
abbrev deleteEvent (location : String) (answer : Option Reply) : Portal.Event :=
  ⟨.call (Prov.deleteLocationCall location), answer⟩

/-- What `DoPost` does: it may stop before it changes anything. -/
inductive Creates (conv : Conversions) (subscriberId : String) :
    List Portal.Event → Except HandlerAnswer Unit → Prop where
  | refused (e : HandlerAnswer) :
    Creates conv subscriberId [] (.error e)
  | stopped (listing : Option Reply) (e : HandlerAnswer) :
    Creates conv subscriberId [listEvent subscriberId listing] (.error e)
  | asked {listing create : Option Reply} {venue : Prov.Venue} {venues : List Prov.Venue}
    {body : Json.Object} {r : Except HandlerAnswer Unit} :
    Prov.venuesIn conv listing = some (venue :: venues) →
    venue.location = "" →
    Creates conv subscriberId [listEvent subscriberId listing,
      putEvent venue.id (Prov.createLocationBody body) create] r

/-- What `DoDelete` does: it may stop before it changes anything, or where the venue was not cleared; else
it deletes the location, and restores it in the venue where that fails. -/
inductive Deletes (conv : Conversions) (subscriberId : String) :
    List Portal.Event → Except HandlerAnswer Unit → Prop where
  | refused (e : HandlerAnswer) :
    Deletes conv subscriberId [] (.error e)
  | stopped (listing : Option Reply) (e : HandlerAnswer) :
    Deletes conv subscriberId [listEvent subscriberId listing] (.error e)
  | notCleared {listing clear : Option Reply} {venue : Prov.Venue} {venues : List Prov.Venue} :
    Prov.venuesIn conv listing = some (venue :: venues) →
    venue.location ≠ "" →
    Prov.putSucceeds clear = false →
    Deletes conv subscriberId [listEvent subscriberId listing,
        putEvent venue.id (Prov.setLocationBody "") clear]
      (.error (HandlerAnswer.forwardErrorResponse (OpenAPIRequest.strict (some []) clear).1
        (OpenAPIRequest.strict (some []) clear).2))
  | deleted {listing clear delete : Option Reply} {venue : Prov.Venue} {venues : List Prov.Venue} :
    Prov.venuesIn conv listing = some (venue :: venues) →
    venue.location ≠ "" →
    Prov.putSucceeds clear = true →
    Prov.deleteSucceeds delete = true →
    Deletes conv subscriberId [listEvent subscriberId listing,
        putEvent venue.id (Prov.setLocationBody "") clear, deleteEvent venue.location delete]
      (.ok ())
  | restored {listing clear delete restore : Option Reply} {venue : Prov.Venue}
    {venues : List Prov.Venue} :
    Prov.venuesIn conv listing = some (venue :: venues) →
    venue.location ≠ "" →
    Prov.putSucceeds clear = true →
    Prov.deleteSucceeds delete = false →
    Deletes conv subscriberId [listEvent subscriberId listing,
        putEvent venue.id (Prov.setLocationBody "") clear, deleteEvent venue.location delete,
        putEvent venue.id (Prov.setLocationBody venue.location) restore]
      (.error (HandlerAnswer.forwardErrorResponse (OpenAPIRequest.lenient (some []) delete).1
        (OpenAPIRequest.lenient (some []) delete).2))

lemma findVenue_inv {method : String} {r : Except HandlerAnswer Prov.Venue}
    (h : Trace (findVenue conv user method).run tr r) :
    ∃ listing, tr = [listEvent user.userinfo.id listing] ∧
      ((∃ e, r = .error e) ∨ ∃ venue venues, r = .ok venue ∧
        Prov.venuesIn conv listing = some (venue :: venues)) := by
  obtain ⟨tr1, tr2, ⟨venues, callStatus, callResponse⟩, rfl, h1, h2⟩ := trace_attempt_lift_bind.mp h
  obtain ⟨listing, rfl, listed⟩ := Prov.getVenues_inv h1
  dsimp only at listed h2
  subst listed
  split at h2
  case h_1 =>
    split at h2
    case isTrue =>
      obtain ⟨rfl, rfl⟩ := trace_attempt_throw.mp h2
      exact ⟨listing, rfl, .inl ⟨_, rfl⟩⟩
    case isFalse =>
      obtain ⟨rfl, rfl⟩ := trace_attempt_throw.mp h2
      exact ⟨listing, rfl, .inl ⟨_, rfl⟩⟩
  case h_2 =>
    obtain ⟨rfl, rfl⟩ := trace_attempt_throw.mp h2
    exact ⟨listing, rfl, .inl ⟨_, rfl⟩⟩
  case h_3 venue venues listed =>
    obtain ⟨rfl, rfl⟩ := trace_attempt_pure.mp h2
    exact ⟨listing, rfl, .inr ⟨venue, venues, rfl, listed⟩⟩

lemma readLocation_inv {parsedBody : Option Json.Object} {r : Except HandlerAnswer Json.Object}
    (h : Trace (readLocation locateZone parsedBody).run tr r) : tr = [] := by
  unfold readLocation at h
  split at h
  case h_1 => exact (trace_attempt_throw.mp h).1
  case h_2 =>
    split at h
    case h_1 => exact (trace_attempt_throw.mp h).1
    case h_2 =>
      split at h
      case h_1 => exact (trace_attempt_throw.mp h).1
      case h_2 =>
        split at h
        case isTrue => exact (trace_attempt_throw.mp h).1
        case isFalse => exact (trace_attempt_pure.mp h).1

lemma createLocation_inv {parsedBody : Option Json.Object} {r : Except HandlerAnswer Unit}
    (h : Trace (createLocation conv locateZone user parsedBody).run tr r) :
    Creates conv user.userinfo.id tr r := by
  rw [createLocation] at h
  split at h
  case isTrue =>
    obtain ⟨rfl, rfl⟩ := trace_attempt_throw.mp h
    exact .refused _
  case isFalse =>
    rcases trace_attempt_bind.mp h with ⟨e, rfl, h1⟩ | ⟨tr1, tr2, locationBody, rfl, h1, h2⟩
    · obtain rfl := readLocation_inv h1
      exact .refused e
    · obtain rfl := readLocation_inv h1
      rw [List.nil_append]
      rcases trace_attempt_bind.mp h2 with ⟨e, rfl, h3⟩ | ⟨tr3, tr4, venue, rfl, h3, h4⟩
      · obtain ⟨listing, rfl, _⟩ := findVenue_inv h3
        exact .stopped listing e
      · obtain ⟨listing, rfl, ⟨e, eq⟩ | ⟨_, venues, eq, listed⟩⟩ := findVenue_inv h3
        · cases eq
        · cases eq
          split at h4
          case isTrue =>
            obtain ⟨rfl, rfl⟩ := trace_attempt_throw.mp h4
            exact .stopped listing _
          case isFalse =>
            split at h4
            case isTrue =>
              obtain ⟨rfl, rfl⟩ := trace_attempt_throw.mp h4
              exact .stopped listing _
            case isFalse empty =>
              obtain ⟨tr5, tr6, ⟨created, status, response⟩, rfl, h5, h6⟩ :=
                trace_attempt_lift_bind.mp h4
              obtain ⟨create, rfl, _, _⟩ := Prov.putVenue_inv h5
              dsimp only at h6
              have asked : ∀ r, Creates conv user.userinfo.id
                  ([listEvent user.userinfo.id listing] ++
                    [putEvent venue.id (Prov.createLocationBody locationBody) create]) r :=
                fun r => .asked listed (not_not.mp empty)
              split at h6
              case isTrue =>
                obtain ⟨rfl, rfl⟩ := trace_attempt_pure.mp h6
                exact asked _
              case isFalse =>
                obtain ⟨rfl, rfl⟩ := trace_attempt_throw.mp h6
                exact asked _

lemma deleteLocation_inv {r : Except HandlerAnswer Unit}
    (h : Trace (deleteLocation conv user).run tr r) : Deletes conv user.userinfo.id tr r := by
  rw [deleteLocation] at h
  split at h
  case isTrue =>
    obtain ⟨rfl, rfl⟩ := trace_attempt_throw.mp h
    exact .refused _
  case isFalse =>
    rcases trace_attempt_bind.mp h with ⟨e, rfl, h1⟩ | ⟨tr1, tr2, venue, rfl, h1, h2⟩
    · obtain ⟨listing, rfl, _⟩ := findVenue_inv h1
      exact .stopped listing e
    · obtain ⟨listing, rfl, ⟨e, eq⟩ | ⟨_, venues, eq, listed⟩⟩ := findVenue_inv h1
      · cases eq
      · cases eq
        split at h2
        case isTrue =>
          obtain ⟨rfl, rfl⟩ := trace_attempt_throw.mp h2
          exact .stopped listing _
        case isFalse =>
          split at h2
          case isTrue =>
            obtain ⟨rfl, rfl⟩ := trace_attempt_throw.mp h2
            exact .stopped listing _
          case isFalse used =>
            -- the venue is cleared before the location is deleted
            obtain ⟨tr3, tr4, ⟨cleared, status, response⟩, rfl, h3, h4⟩ :=
              trace_attempt_lift_bind.mp h2
            obtain ⟨clear, rfl, clears, eq⟩ := Prov.putVenue_inv h3
            dsimp only at clears eq h4
            split at h4
            case isTrue failed =>
              obtain ⟨rfl, rfl⟩ := trace_attempt_throw.mp h4
              obtain rfl : status = _ := congrArg Prod.fst eq
              obtain rfl : response = _ := congrArg Prod.snd eq
              exact .notCleared listed used (clears.symm.trans failed)
            case isFalse succeeded =>
              have cleared := clears.symm.trans (Bool.of_not_eq_false succeeded)
              obtain ⟨tr5, tr6, ⟨deleted, status', response'⟩, rfl, h5, h6⟩ :=
                trace_attempt_lift_bind.mp h4
              obtain ⟨delete, rfl, deletes, eq'⟩ := Prov.deleteLocation_inv h5
              dsimp only at deletes eq' h6
              split at h6
              case isTrue gone =>
                obtain ⟨rfl, rfl⟩ := trace_attempt_pure.mp h6
                exact .deleted listed used cleared (deletes.symm.trans gone)
              case isFalse kept =>
                -- the location is still there, and is put back into the venue
                obtain ⟨tr7, tr8, restored, rfl, h7, h8⟩ := trace_attempt_lift_bind.mp h6
                obtain ⟨restore, rfl, _, _⟩ := Prov.putVenue_inv h7
                obtain ⟨rfl, rfl⟩ := trace_attempt_throw.mp h8
                obtain rfl : status' = _ := congrArg Prod.fst eq'
                obtain rfl : response' = _ := congrArg Prod.snd eq'
                exact .restored listed used cleared
                  (deletes.symm.trans (Bool.eq_false_of_not_eq_true kept))

/-- A handler answers once its steps are done. -/
lemma answer_inv {method : String} {steps : Handling Unit} {sent : HandlerAnswer}
    (h : Trace (steps.answer method) tr sent) :
    ∃ r, Trace steps.run tr r ∧
      sent = (match r with
        | .ok _ => HandlerAnswer.success method
        | .error e => e) := by
  obtain ⟨tr1, tr2, r, rfl, h1, h2⟩ := trace_bind.mp h
  cases r with
  | ok u =>
    obtain ⟨rfl, rfl⟩ := trace_pure.mp h2
    exact ⟨.ok u, by rwa [List.append_nil], rfl⟩
  | error e =>
    obtain ⟨rfl, rfl⟩ := trace_pure.mp h2
    exact ⟨.error sent, by rwa [List.append_nil], rfl⟩

end Traces

end UserPortal.RestApi.SubscriberLocation
