import UserPortal.Framework.RequestHandler
import UserPortal.Json.Print
import UserPortal.RestApi.ActionHandler

/-!
# Declared roles

Three classes of handlers declare a `RoleIsAuthorized` of their own:
`src/RESTAPI/RESTAPI_action_handler.h`, `src/RESTAPI/RESTAPI_wifiClients_handler.h` and
`src/RESTAPI/RESTAPI_wiredClients_handler.h`. It hides the one of the base class, which is the one that
`handleRequest` calls. `handleRequest_enforces_iff`: the declared role is enforced only where every user who
is authenticated holds it anyway.
-/

namespace UserPortal.RequestHandler
open Interaction Program Security

/-- The `RoleIsAuthorized` which the classes declare. -/
def isSubscriber (user : UserInfoAndPolicy) : Bool := user.userinfo.userRole = .subscriber

/-- `RESTAPI_action_handler` -/
def actionHandler (conv : Conversions) (condense : Json.Object → String) (internal : Bool) :
    RESTAPIHandler where
  methods := ["POST", "OPTIONS"]
  internal := internal
  rates := {}
  subOnlyService := true
  declaredRole := some isSubscriber
  doPost ctx := answering (RestApi.ActionHandler.doPost conv condense ctx.user ctx.parameters ctx.parsedBody)

/-- `RESTAPI_wifiClients_handler` -/
def wifiClientsHandler (internal : Bool) (doGet : Context → Doing Unit) : RESTAPIHandler where
  methods := ["GET", "OPTIONS"]
  internal := internal
  rates := { interval := 1000, maxCalls := 10 }
  subOnlyService := true
  declaredRole := some isSubscriber
  doGet := doGet

/-- `RESTAPI_wiredClients_handler` -/
def wiredClientsHandler (internal : Bool) (doGet : Context → Doing Unit) : RESTAPIHandler where
  methods := ["GET", "OPTIONS"]
  internal := internal
  rates := { interval := 1000, maxCalls := 10 }
  subOnlyService := true
  declaredRole := some isSubscriber
  doGet := doGet

section Enforced

variable (service : Service) (h : RESTAPIHandler) (request : HTTPServerRequest) (tr : List Event)

/-- A user is authenticated in the course of some events. -/
def Authenticated (user : UserInfoAndPolicy) : Prop :=
  ∃ pre session, pre <+: tr ∧ Trace (admission service h request).run pre (.ok (some session)) ∧
    session.user = user

/-- A function of the handler is called for a user in the course of some events. -/
def Called (user : UserInfoAndPolicy) : Prop :=
  ∃ pre ctx, pre <+: tr ∧ Trace (route service h request).run pre (.ok (some ctx)) ∧ ctx.user = user

/-- A role is enforced: a function of the handler is called only for a user who holds it, and another user
is answered that he is not authorized. -/
structure Enforces (role : UserInfoAndPolicy → Bool) : Prop where
  called : ∀ user, Called service h request tr user → role user = true
  refused : ∀ user, Authenticated service h request tr user → role user = false →
    ∃ answer ∈ responses tr, answer.status = HTTPStatus.forbidden

end Enforced

section Roles

variable {service : Service} {h : RESTAPIHandler} {request : HTTPServerRequest} {tr : List Event}
  {user : UserInfoAndPolicy} {role : UserInfoAndPolicy → Bool}

/-- A function of the handler is called for the user who is authenticated. -/
lemma Called.authenticated (called : Called service h request tr user) :
    Authenticated service h request tr user := by
  obtain ⟨pre, ctx, le, routes, rfl⟩ := called
  obtain ⟨session, read, admits, _, rfl⟩ := route_inv routes
  exact ⟨pre, session, le, admits, rfl⟩

/-- Once the parameters of an authenticated request are read, a function of the handler is called. -/
lemma called_of_parsed {pre : List Event} {session : Session} {read : QueryParameters × QueryBlock}
    (le : pre <+: tr) (admits : Trace (admission service h request).run pre (.ok (some session)))
    (parsed : parseParameters service.uris request.uri = .ok read) :
    Called service h request tr session.user := by
  have routes := route_of_admitted admits
  rw [parsed] at routes
  exact ⟨pre, contextOf request session read, le, routes, rfl⟩

/-- Unless a function of the handler is called, an authenticated request is not answered that it is not
authorized. -/
lemma not_forbidden {pre : List Event} {session : Session} {r : Except Thrown Unit}
    (handles : Trace (handleRequest service h request).run tr r) (le : pre <+: tr)
    (admits : Trace (admission service h request).run pre (.ok (some session)))
    (notCalled : ¬ Called service h request tr session.user) :
    ∀ answer ∈ responses tr, answer.status ≠ HTTPStatus.forbidden := by
  have preliminary : ∀ e ∈ pre, Preliminary e := by
    cases admission_inv admits with
    | admitted quiet _ => exact quiet
  have quiet : responses pre = [] := responses_of_preliminary preliminary
  rcases handleRequest_inv handles with ⟨tr1, processes, rfl, rfl⟩ | ⟨processes, _⟩
  · have le1 : pre <+: tr1 := by
      rcases List.prefix_concat_iff.mp le with rfl | le
      · cases preliminary _ (List.mem_append_right _ (List.mem_singleton_self _))
      · exact le
    rcases process_of_admitted admits le1 processes with ⟨e, _, rfl, _⟩ | ⟨read, post, parsed, _⟩
    · rw [responses_append, quiet]
      rintro answer (_ | ⟨_, ⟨⟩⟩)
      exact show ¬ (400 = 403) by decide
    · exact absurd (called_of_parsed le admits parsed) notCalled
  · rcases process_of_admitted admits le processes with ⟨e, _, rfl, _⟩ | ⟨read, post, parsed, _⟩
    · rw [quiet]
      exact nofun
    · exact absurd (called_of_parsed le admits parsed) notCalled

/-- The role which a class declares is enforced exactly when every user who is authenticated holds it. -/
theorem handleRequest_enforces_iff {r : Except Thrown Unit}
    (handles : Trace (handleRequest service h request).run tr r) :
    (∀ role, h.declaredRole = some role → Enforces service h request tr role) ↔
      ∀ role, h.declaredRole = some role → ∀ user, Authenticated service h request tr user →
        role user = true := by
  refine forall₂_congr fun role _ => ⟨?_, ?_⟩
  · intro enforces user authenticated
    obtain ⟨pre, session, le, admits, rfl⟩ := authenticated
    by_contra lacks
    have lacks : role session.user = false := Bool.eq_false_of_not_eq_true lacks
    obtain ⟨answer, mem, forbidden⟩ := enforces.refused _ ⟨pre, session, le, admits, rfl⟩ lacks
    have notCalled : ¬ Called service h request tr session.user := by
      intro called
      rw [enforces.called _ called] at lacks
      cases lacks
    exact not_forbidden handles le admits notCalled answer mem forbidden
  · intro holds
    refine ⟨fun user called => holds user called.authenticated, ?_⟩
    intro user authenticated lacks
    rw [holds user authenticated] at lacks
    cases lacks

end Roles

/-! ### The key of an administrator -/

namespace ApiKey

/-- A command which is not named. -/
def request : HTTPServerRequest where
  method := "POST"
  uri := "/api/v1/action"
  apiKey := some "key"

/-- What the security service answers about the key. -/
def keyReply (role : String) : Json.Object :=
  [("expiresOn", .int 100), ("tokenInfo", .obj []), ("userInfo", .obj [("userRole", .str role)])]

/-- The record of the user of the key. -/
def keyUser (role : UserRole) : UserInfoAndPolicy where
  userinfo := { userRole := role }

/-- The key is validated. -/
def validation (role : String) : List Event :=
  [⟨.auth (.getApiKey "key"), none⟩,
    ⟨.auth (.portal (.call {
      verb := .get
      service := uSERVICE_SECURITY
      endPoint := "/api/v1/validateApiKey"
      queryData := [("apikey", "key")]
      body := []
      msTimeout := 10000
      bearerToken := "" })), some ⟨HTTPStatus.ok, .json (.obj (keyReply role))⟩⟩,
    ⟨.auth (.updateApiKey "key"
      { userInfo := keyUser (userTypeFromString role), expiresOn := 100 }), ()⟩]

/-- The events of the request. -/
def events (role : String) : List Event :=
  validation role ++
    [respondEvent (HandlerAnswer.badRequest "POST" Errors.missingOrInvalidParameters "")]

abbrev handler : RESTAPIHandler := actionHandler Conversions.strict Json.Object.condense false

/-- The session of the user of the key. -/
def session (role : UserRole) : Session where
  parsedBody := none
  stream := .text ""
  user := keyUser role

lemma admits_subscriber :
    Trace (admission .plain handler request).run (validation "subscriber") (.ok (some (session .subscriber))) :=
  trace_iff_replay.mpr (by rfl)

lemma handles_subscriber :
    Trace (handleRequest .plain handler request).run (events "subscriber") (.ok ()) :=
  trace_iff_replay.mpr (by rfl)

lemma admits_admin :
    Trace (admission .plain handler request).run (validation "admin") (.ok (some (session .admin))) :=
  trace_iff_replay.mpr (by rfl)

lemma handles_admin : Trace (handleRequest .plain handler request).run (events "admin") (.ok ()) :=
  trace_iff_replay.mpr (by rfl)

/-- The role is enforced when the key is the one of a subscriber. -/
theorem subscriber_enforced : Enforces .plain handler request (events "subscriber") isSubscriber := by
  refine (handleRequest_enforces_iff handles_subscriber).mpr ?_ isSubscriber rfl
  rintro role ⟨⟩ user ⟨pre, session, le, admits, rfl⟩
  obtain ⟨_, eq⟩ := admits_subscriber.prefix_unique admits (List.prefix_append _ _) le
  cases eq
  rfl

/-- A command is called for an administrator. -/
theorem admin_notEnforced :
    ¬ ∀ (service : Service) (h : RESTAPIHandler) (request : HTTPServerRequest) (tr : List Event)
      (r : Except Thrown Unit), Trace (handleRequest service h request).run tr r →
      ∀ role, h.declaredRole = some role → Enforces service h request tr role := by
  intro all
  have enforces := all _ _ _ _ _ handles_admin _ rfl
  have parsed : parseParameters Service.plain.uris request.uri = .ok ([], { limit := 100 }) := by rfl
  have called : Called .plain handler request (events "admin") (keyUser .admin) :=
    called_of_parsed (List.prefix_append _ _) admits_admin parsed
  cases enforces.called _ called

end ApiKey

end UserPortal.RequestHandler
