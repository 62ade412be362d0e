import UserPortal.RestApi.SubscriberLocation
import UserPortal.RestApi.SubscriberTimezone

/-!
# Requests about the location of a subscriber

Port of `DoGet` and `DoPut` of `src/RESTAPI/RESTAPI_subscriber_location_handler.cpp`, and which bodies `DoPost` and
`DoPut` accept.
-/

namespace UserPortal.RestApi.SubscriberLocation
open Interaction Program Calendar Sdk

section Handlers

variable (conv : Conversions) (locateZone : String → Option Zone) (user : Security.UserInfoAndPolicy)

/-- The location of the first venue. -/
def findLocation (method : String) : Handling String := do
  let venue ← findVenue conv user method
  if venue.location = "" then throw (HandlerAnswer.notFound method) else return venue.location

/-- The steps of `DoGet`: the response of the service is returned as it is, once it has been read. -/
def showLocation : Handling Json.Object := do
  if user.userinfo.id = "" then throw (HandlerAnswer.unAuthorized "GET" Errors.invalidSubscriberId)
  else
    let locationId ← findLocation conv user "GET"
    let (location, callStatus, callResponse) ← Prov.getLocation conv locationId
    match location with
    | some _ => return callResponse.getD []
    | none =>
      if callStatus ≠ HTTPStatus.ok then throw (HandlerAnswer.forwardErrorResponse callStatus callResponse)
      else throw (HandlerAnswer.internalError "GET" Errors.invalidJSONDocument)

/-- The time zone of a body is trimmed, and has to exist. -/
def readTimezone (method : String) (locationBody : Json.Object) : Handling Json.Object :=
  match locationBody.getString? "timezone" with
  | none => throw (HandlerAnswer.badRequest method Errors.missingOrInvalidParameters "")
  | some timezone =>
    if Utils.trim timezone = "" ∨ (locateZone (Utils.trim timezone)).isNone then
      throw (HandlerAnswer.badRequest method Errors.missingOrInvalidParameters "")
    else return locationBody.set "timezone" (.str (Utils.trim timezone))

/-- The properties of a location to change: at least one, and a time zone has to exist. -/
def readUpdate (parsedBody : Option Json.Object) : Handling Json.Object :=
  match parsedBody with
  | none => throw (HandlerAnswer.badRequest "PUT" Errors.invalidJSONDocument "")
  | some input =>
    match buildAllowedLocationBody input with
    | none => throw (HandlerAnswer.badRequest "PUT" Errors.missingOrInvalidParameters "")
    | some locationBody =>
      if locationBody.isEmpty then
        throw (HandlerAnswer.badRequest "PUT" Errors.missingOrInvalidParameters "")
      else if locationBody.has "timezone" then readTimezone locateZone "PUT" locationBody
      else return locationBody

/-- The steps of `DoPut`. -/
def updateLocation (parsedBody : Option Json.Object) : Handling Json.Object := do
  if user.userinfo.id = "" then throw (HandlerAnswer.unAuthorized "PUT" Errors.invalidSubscriberId)
  else
    let locationBody ← readUpdate locateZone parsedBody
    let locationId ← findLocation conv user "PUT"
    let (updated, callStatus, callResponse) ← Prov.putLocation locationId locationBody
    if updated then return callResponse.getD []
    else throw (HandlerAnswer.forwardErrorResponse callStatus callResponse)

/-- `DoGet` -/
def doGet : Portal HandlerAnswer := (showLocation conv user).returned

/-- `DoPut` -/
def doPut (parsedBody : Option Json.Object) : Portal HandlerAnswer :=
  (updateLocation conv locateZone user parsedBody).returned

end Handlers

/-! ## Bodies -/

section Bodies

variable {locateZone : String → Option Zone} {parsedBody : Option Json.Object} {input body : Json.Object}
  {tr : List Portal.Event}

/-- A body whose time zone exists, and how it is sent. -/
structure Zoned (locateZone : String → Option Zone) (input body : Json.Object) : Prop where
  allowed : input.all (fun entry => entry.1 ∈ allowedLocationKeys) = true
  zoned : ∃ timezone, input.getString? "timezone" = some timezone ∧ Utils.trim timezone ≠ "" ∧
    (locateZone (Utils.trim timezone)).isSome ∧ body = input.set "timezone" (.str (Utils.trim timezone))

/-- A body without a time zone, which changes something. -/
structure Unzoned (input body : Json.Object) : Prop where
  allowed : input.all (fun entry => entry.1 ∈ allowedLocationKeys) = true
  some_property : input ≠ []
  unzoned : input.has "timezone" = false
  same : body = input

/-- A time zone which was set exists. -/
lemma Zoned.timezone (zoned : Zoned locateZone input body) :
    ∃ timezone, body.get? "timezone" = some (.str timezone) ∧ timezone ≠ "" ∧ (locateZone timezone).isSome := by
  obtain ⟨timezone, _, named, exists_, rfl⟩ := zoned.zoned
  exact ⟨_, Json.Object.get?_set_self _ _ _, named, exists_⟩

/-- A refused body. -/
def RefusedBody (r : Except HandlerAnswer Json.Object) : Prop :=
  ∃ e, r = .error e ∧ e.status = HTTPStatus.badRequest

lemma refusedBody_throw {method extra : String} {m : ErrorMsg} {r : Except HandlerAnswer Json.Object}
    (h : Trace (throw (HandlerAnswer.badRequest method m extra) : Handling Json.Object).run tr r) :
    tr = [] ∧ RefusedBody r := by
  obtain ⟨rfl, rfl⟩ := trace_attempt_throw.mp h
  exact ⟨rfl, _, rfl, rfl⟩

/-- A body with known properties is taken where its time zone exists. -/
lemma readTimezone_spec {method : String} {r : Except HandlerAnswer Json.Object}
    (allowed : input.all (fun entry => entry.1 ∈ allowedLocationKeys) = true)
    (h : Trace (readTimezone locateZone method input).run tr r) :
    tr = [] ∧ ((∃ body, Zoned locateZone input body ∧ r = .ok body) ∨
      RefusedBody r ∧ ∀ body, ¬ Zoned locateZone input body) := by
  unfold readTimezone at h
  split at h
  case h_1 absent =>
    obtain ⟨rfl, refused⟩ := refusedBody_throw h
    refine ⟨rfl, .inr ⟨refused, fun body zoned => ?_⟩⟩
    obtain ⟨timezone, present, _⟩ := zoned.zoned
    rw [absent] at present
    cases present
  case h_2 timezone present =>
    split at h
    case isTrue bad =>
      obtain ⟨rfl, refused⟩ := refusedBody_throw h
      refine ⟨rfl, .inr ⟨refused, fun body zoned => ?_⟩⟩
      obtain ⟨timezone', present', named, exists_, _⟩ := zoned.zoned
      rw [present] at present'
      cases present'
      rcases bad with empty | unknown
      · exact named empty
      · rw [Option.isNone_iff_eq_none.mp unknown] at exists_
        cases exists_
    case isFalse good =>
      obtain ⟨rfl, rfl⟩ := trace_attempt_pure.mp h
      obtain ⟨named, exists_⟩ := not_or.mp good
      refine ⟨rfl, .inl ⟨_, ⟨allowed, timezone, present, named, ?_, rfl⟩, rfl⟩⟩
      exact Option.isSome_iff_ne_none.mpr fun none => exists_ (Option.isNone_iff_eq_none.mpr none)

/-- Only a body with known properties is taken. -/
lemma buildAllowedLocationBody_eq_some :
    buildAllowedLocationBody input = some body ↔
      input.all (fun entry => entry.1 ∈ allowedLocationKeys) = true ∧ body = input := by
  rw [buildAllowedLocationBody]
  split
  case isTrue allowed =>
    refine ⟨fun eq => ⟨allowed, ?_⟩, fun both => ?_⟩
    · cases eq
      rfl
    · rw [both.2]
  case isFalse unknown => exact ⟨nofun, fun both => absurd both.1 unknown⟩

/-- `DoPost` takes a body whose time zone exists, and refuses any other. -/
lemma readLocation_spec {r : Except HandlerAnswer Json.Object}
    (h : Trace (readLocation locateZone parsedBody).run tr r) :
    tr = [] ∧ ((∃ input body, parsedBody = some input ∧ Zoned locateZone input body ∧ r = .ok body) ∨
      RefusedBody r ∧ ∀ input body, parsedBody = some input → ¬ Zoned locateZone input body) := by
  unfold readLocation at h
  split at h
  case h_1 =>
    obtain ⟨rfl, refused⟩ := refusedBody_throw h
    exact ⟨rfl, .inr ⟨refused, nofun⟩⟩
  case h_2 input =>
    split at h
    case h_1 unknown =>
      obtain ⟨rfl, refused⟩ := refusedBody_throw h
      refine ⟨rfl, .inr ⟨refused, fun input' body eq zoned => ?_⟩⟩
      cases eq
      rw [buildAllowedLocationBody_eq_some.mpr ⟨zoned.allowed, rfl⟩] at unknown
      cases unknown
    case h_2 locationBody known =>
      obtain ⟨allowed, rfl⟩ := buildAllowedLocationBody_eq_some.mp known
      have reads : Trace (readTimezone locateZone "POST" locationBody).run tr r := h
      obtain ⟨rfl, taken | refused⟩ := readTimezone_spec allowed reads
      · obtain ⟨body, zoned, eq⟩ := taken
        exact ⟨rfl, .inl ⟨locationBody, body, rfl, zoned, eq⟩⟩
      · refine ⟨rfl, .inr ⟨refused.1, fun input body eq => ?_⟩⟩
        cases eq
        exact refused.2 body

/-- `DoPut` takes a body which changes something, with a time zone which exists or with none, and refuses any
other. -/
lemma readUpdate_spec {r : Except HandlerAnswer Json.Object}
    (h : Trace (readUpdate locateZone parsedBody).run tr r) :
    tr = [] ∧ ((∃ input body, parsedBody = some input ∧ (Zoned locateZone input body ∨ Unzoned input body) ∧
        r = .ok body) ∨
      RefusedBody r ∧ ∀ input body, parsedBody = some input → ¬ Zoned locateZone input body ∧
        ¬ Unzoned input body) := by
  unfold readUpdate at h
  split at h
  case h_1 =>
    obtain ⟨rfl, refused⟩ := refusedBody_throw h
    exact ⟨rfl, .inr ⟨refused, nofun⟩⟩
  case h_2 input =>
    split at h
    case h_1 unknown =>
      obtain ⟨rfl, refused⟩ := refusedBody_throw h
      have allowed : input.all (fun entry => entry.1 ∈ allowedLocationKeys) ≠ true := by
        intro allowed
        rw [buildAllowedLocationBody_eq_some.mpr ⟨allowed, rfl⟩] at unknown
        cases unknown
      refine ⟨rfl, .inr ⟨refused, fun input' body eq => ?_⟩⟩
      cases eq
      exact ⟨fun zoned => allowed zoned.allowed, fun unzoned => allowed unzoned.allowed⟩
    case h_2 locationBody known =>
      obtain ⟨allowed, rfl⟩ := buildAllowedLocationBody_eq_some.mp known
      split at h
      case isTrue empty =>
        obtain ⟨rfl, refused⟩ := refusedBody_throw h
        refine ⟨rfl, .inr ⟨refused, fun input body eq => ?_⟩⟩
        cases eq
        rw [List.isEmpty_iff.mp empty]
        refine ⟨fun zoned => ?_, fun unzoned => unzoned.some_property rfl⟩
        obtain ⟨timezone, present, _⟩ := zoned.zoned
        cases present
      case isFalse nonempty =>
        split at h
        case isTrue has =>
          obtain ⟨rfl, taken | refused⟩ := readTimezone_spec allowed h
          · obtain ⟨body, zoned, eq⟩ := taken
            exact ⟨rfl, .inl ⟨locationBody, body, rfl, .inl zoned, eq⟩⟩
          · refine ⟨rfl, .inr ⟨refused.1, fun input body eq => ?_⟩⟩
            cases eq
            refine ⟨refused.2 body, fun unzoned => ?_⟩
            rw [unzoned.unzoned] at has
            cases has
        case isFalse has =>
          obtain ⟨rfl, rfl⟩ := trace_attempt_pure.mp h
          refine ⟨rfl, .inl ⟨locationBody, locationBody, rfl, .inr ⟨allowed, ?_, ?_, rfl⟩, rfl⟩⟩
          · exact fun empty => nonempty (List.isEmpty_iff.mpr empty)
          · exact Bool.eq_false_of_not_eq_true has

end Bodies

end UserPortal.RestApi.SubscriberLocation
