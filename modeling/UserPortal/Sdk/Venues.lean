import UserPortal.Sdk.Prov

/-!
# Venues and locations

Port of the parts of `src/sdks/SDK_prov.cpp` about the venues and the locations of a subscriber, and of
`VenueList::from_json` and `Venue::from_json` of `src/RESTObjects/RESTAPI_ProvObjects.cpp`. The
handlers call these functions without a client, so that the bearer token is empty, and each starts from an
empty response object.
-/

namespace UserPortal.Sdk.Prov
open Interaction Program

/-- `ProvObjects::Venue`, up to the fields which are used. -/
structure Venue where
  id : String
  location : String
  deriving DecidableEq

section Fields

variable (conv : Conversions)

/-- `field_from_json` of a list of strings reads its elements without an exception. -/
def stringsRead (o : Json.Object) (field : String) : Bool :=
  ((o.getArray? field).getD []).all fun element => (conv.toString element).isSome

/-- The string fields of a venue. -/
def venueFields : List String := ["parent", "entity", "design", "managementPolicy", "location"]

/-- The fields of a venue which are lists of strings. -/
def venueLists : List String :=
  ["children", "devices", "deviceConfiguration", "contacts", "sourceIP", "variables",
    "managementPolicies", "managementRoles", "maps", "configurations", "boards"]

/-- `Venue::from_json`, `none` where it fails. Its information and its device rules swallow their own
exceptions; an id which does not convert stays empty. -/
def venueFromJson (o : Json.Object) : Option Venue :=
  if venueFields.all (fun field => (fieldFromJson conv o field).isSome) &&
      venueLists.all (fun field => stringsRead conv o field) &&
      ((o.getArray? "topology").getD []).all fun element => element.object?.isSome then
    some { id := (fieldFromJson conv o "id").getD "", location := (fieldFromJson conv o "location").getD "" }
  else none

/-- `VenueList::from_json`, `none` where it fails. -/
def venueListFromJson (o : Json.Object) : Option (List Venue) :=
  match o.getArray? "venues" with
  | none => none
  | some venues => venues.mapM fun element => do
    let innerObj ← element.object?
    let v ← venueFromJson conv innerObj
    if v.id = "" then none else return v

end Fields

/-! ## The calls -/

/-- The request of `GetVenues`. -/
def getVenuesCall (subscriberId : String) : Call where
  verb := .get
  service := uSERVICE_PROVISIONING
  endPoint := "/api/v1/venue"
  queryData := [("subscriberId", subscriberId)]
  body := []
  msTimeout := 60000
  bearerToken := ""

/-- A change of a venue. -/
def putVenueCall (venueId : String) (body : Json.Object) : Call where
  verb := .put
  service := uSERVICE_PROVISIONING
  endPoint := "/api/v1/venue/" ++ venueId
  queryData := []
  body := body
  msTimeout := 60000
  bearerToken := ""

/-- The body of `CreateLocation`. -/
def createLocationBody (locationData : Json.Object) : Json.Object :=
  [("createObjects", .obj [("objects", .arr [.obj [("location", .obj locationData)]])])]

/-- The body of `ClearLocation` and `SetLocation`. -/
def setLocationBody (location : String) : Json.Object := [("location", .str location)]

/-- The request of `Location::Delete`. -/
def deleteLocationCall (locationUUID : String) : Call where
  verb := .delete
  service := uSERVICE_PROVISIONING
  endPoint := "/api/v1/location/" ++ locationUUID
  queryData := []
  body := []
  msTimeout := 60000
  bearerToken := ""

/-- The reply to a `PUT` is a success. -/
def putSucceeds (answer : Option Reply) : Bool :=
  (OpenAPIRequest.strict (some []) answer).1 = HTTPStatus.ok

/-- The reply to a `DELETE` is a success. -/
def deleteSucceeds (answer : Option Reply) : Bool :=
  (OpenAPIRequest.lenient (some []) answer).1 = HTTPStatus.ok

section Calls

variable (conv : Conversions)

/-- The venues which a reply to `GetVenues` lists. -/
def venuesIn (answer : Option Reply) : Option (List Venue) :=
  if (OpenAPIRequest.lenient (some []) answer).1 = HTTPStatus.ok then
    (OpenAPIRequest.lenient (some []) answer).2.bind (venueListFromJson conv)
  else none

/-- `GetVenues`: the venues, `none` when it fails, with the status and the response. -/
def getVenues (subscriberId : String) :
    Portal (Option (List Venue) × HTTPStatus × Option Json.Object) := do
  let (callStatus, callResponse) ← OpenAPIRequest.get uSERVICE_PROVISIONING "/api/v1/venue"
    [("subscriberId", subscriberId)] 60000 "" (some [])
  if callStatus = HTTPStatus.ok then
    return (callResponse.bind (venueListFromJson conv), callStatus, callResponse)
  else return (none, callStatus, callResponse)

/-- A change of a venue: whether it succeeds, with the status and the response. -/
def putVenue (venueId : String) (body : Json.Object) : Portal (Bool × HTTPStatus × Option Json.Object) := do
  let (callStatus, callResponse) ← OpenAPIRequest.put uSERVICE_PROVISIONING ("/api/v1/venue/" ++ venueId) []
    body 60000 "" (some [])
  return (callStatus = HTTPStatus.ok, callStatus, callResponse)

/-- `CreateLocation` -/
def createLocation (venueId : String) (locationData : Json.Object) :
    Portal (Bool × HTTPStatus × Option Json.Object) :=
  putVenue venueId (createLocationBody locationData)

/-- `ClearLocation` -/
def clearLocation (venueId : String) : Portal (Bool × HTTPStatus × Option Json.Object) :=
  putVenue venueId (setLocationBody "")

/-- `SetLocation` -/
def setLocation (venueId locationUUID : String) : Portal (Bool × HTTPStatus × Option Json.Object) :=
  putVenue venueId (setLocationBody locationUUID)

/-- `Location::Delete` -/
def deleteLocation (locationUUID : String) : Portal (Bool × HTTPStatus × Option Json.Object) := do
  let (callStatus, callResponse, _) ← OpenAPIRequest.delete uSERVICE_PROVISIONING
    ("/api/v1/location/" ++ locationUUID) [] 60000 "" (some [])
  return (callStatus = HTTPStatus.ok, callStatus, callResponse)

variable {conv} {tr : List Portal.Event}

lemma getVenues_inv {subscriberId : String}
    {r : Option (List Venue) × HTTPStatus × Option Json.Object}
    (h : Trace (getVenues conv subscriberId) tr r) :
    ∃ answer, tr = [⟨.call (getVenuesCall subscriberId), answer⟩] ∧ r.1 = venuesIn conv answer := by
  obtain ⟨answer, rest, rfl, h1⟩ := OpenAPIRequest.trace_get_bind.mp h
  dsimp only at h1
  unfold venuesIn
  split at h1
  case isTrue ok =>
    obtain ⟨rfl, rfl⟩ := trace_pure.mp h1
    exact ⟨answer, rfl, (if_pos ok).symm⟩
  case isFalse failed =>
    obtain ⟨rfl, rfl⟩ := trace_pure.mp h1
    exact ⟨answer, rfl, (if_neg failed).symm⟩

lemma putVenue_inv {venueId : String} {body : Json.Object}
    {r : Bool × HTTPStatus × Option Json.Object} (h : Trace (putVenue venueId body) tr r) :
    ∃ answer, tr = [⟨.call (putVenueCall venueId body), answer⟩] ∧ r.1 = putSucceeds answer ∧
      r.2 = OpenAPIRequest.strict (some []) answer := by
  obtain ⟨answer, rest, rfl, h1⟩ := OpenAPIRequest.trace_put_bind.mp h
  obtain ⟨rfl, rfl⟩ := trace_pure.mp h1
  exact ⟨answer, rfl, rfl, rfl⟩

lemma deleteLocation_inv {locationUUID : String} {r : Bool × HTTPStatus × Option Json.Object}
    (h : Trace (deleteLocation locationUUID) tr r) :
    ∃ answer, tr = [⟨.call (deleteLocationCall locationUUID), answer⟩] ∧ r.1 = deleteSucceeds answer ∧
      r.2 = OpenAPIRequest.lenient (some []) answer := by
  obtain ⟨answer, rest, rfl, h1⟩ := OpenAPIRequest.trace_delete_bind.mp h
  obtain ⟨rfl, rfl⟩ := trace_pure.mp h1
  exact ⟨answer, rfl, rfl, rfl⟩

end Calls

end UserPortal.Sdk.Prov
