import Mathlib.Data.List.Infix
import UserPortal.Framework.Handler
import UserPortal.Framework.MicroService
import UserPortal.Framework.Parameters
import UserPortal.Security.AuthSteps

/-!
# Handling a request

Port of `handleRequest` and `IsAuthorized` of `src/framework/RESTAPI_Handler.h`: what every handler does
before one of its own functions is called. The stream of a request can be read once.

`route_inv`: the function of the handler is called after the authentication, when the parameters can be
read.
-/

namespace UserPortal.RequestHandler
open Interaction Program Security

/-- A request which the proxy sends to another service. -/
structure ProxyRequest where
  method : String
  headers : List (String × String)
  /-- the document which its body holds, if there is one -/
  body : Option Json.Object
  deriving DecidableEq

/-- What a handler asks: the rate limiter, the authentication client and what this asks in turn, the
services which are registered, an exchange with one of them, and that its request is answered. -/
inductive Op where
  | isRateLimited (path : String) (interval maxCalls : Int)
  | auth (op : AuthSteps.Op)
  | getServices (type : String)
  | sendRequest (destination : URI) (request : ProxyRequest)
  | receiveResponse
  | respond (answer : HandlerAnswer)
  deriving DecidableEq

/-- A request is sent or not; a response is received or not. -/
abbrev Op.Answer : Op → Type
  | .isRateLimited .. => Bool
  | .auth op => op.Answer
  | .getServices _ => List MicroServices.MicroServiceMeta
  | .sendRequest .. => Bool
  | .receiveResponse => Option Reply
  | .respond _ => Unit

abbrev Event := Interaction.Event Op Op.Answer

abbrev Serving := Program Op Op.Answer

/-- A part of a handler, which may throw. -/
abbrev Doing := ExceptT Thrown Serving

/-- What the authentication client asks, as a part of a handler. -/
def ofSteps {α : Type} : AuthSteps.Steps α → Serving α
  | .ret a => .ret a
  | .ask op k => .ask (.auth op) fun x => ofSteps (k x)

/-- A request is answered. -/
def respond (answer : HandlerAnswer) : Serving Unit := perform (Op.respond answer)

/-- A function of a handler which answers what a program of the portal returns. -/
def answering (p : Portal HandlerAnswer) : Doing Unit := do
  let answer ← (liftM (ofSteps (AuthSteps.ofPortal p)) : Doing HandlerAnswer)
  respond answer

/-- `Poco::Net::HTTPServerRequest`, up to the headers which are read. -/
structure HTTPServerRequest where
  method : String
  uri : String
  /-- `-1` when it is not known -/
  contentLength : Int := -1
  contentType : String := ""
  /-- what the stream holds before it is read -/
  stream : Body := .text ""
  /-- `X-INTERNAL-NAME` -/
  internalName : Option String := none
  /-- `X-API-KEY` -/
  apiKey : Option String := none
  /-- `Authorization` -/
  authorization : Option String := none

/-- A stream which has been read. -/
def consumed : Body := .text ""

/-- What the handlers use of Poco and of the micro service. -/
structure Service where
  conv : Conversions
  uris : UriParser
  /-- the token which `OAuth20Credentials` finds in a header, `none` where it throws -/
  bearerToken : String → Option String
  /-- `MyHash_` -/
  myHash : String
  publicEndPoint : String
  /-- the role which a user record has before one is read -/
  initialRole : UserRole

/-- A service to which no request has a bearer token. -/
def Service.plain : Service where
  conv := Conversions.strict
  uris := .plain
  bearerToken _ := none
  myHash := "hash"
  publicEndPoint := "https://portal:16006"
  initialRole := .unknown

/-- `RateLimit` -/
structure RateLimit where
  interval : Int := 1000
  maxCalls : Int := 10

/-- A request which has been authenticated: its body, if it was parsed, what is left of its stream, and
`UserInfo_`. -/
structure Session where
  parsedBody : Option Json.Object
  stream : Body
  user : UserInfoAndPolicy

/-- What the functions of a handler read. -/
structure Context extends Session where
  request : HTTPServerRequest
  parameters : QueryParameters
  queryBlock : QueryBlock

/-- A class of handlers. -/
structure RESTAPIHandler where
  methods : List String
  internal : Bool
  alwaysAuthorize : Bool := true
  rateLimited : Bool := false
  rates : RateLimit := { interval := 1000, maxCalls := 100 }
  subOnlyService : Bool := false
  /-- the `RoleIsAuthorized(std::string &)` which the class declares -/
  declaredRole : Option (UserInfoAndPolicy → Bool) := none
  doGet : Context → Doing Unit := fun _ => pure ()
  doPost : Context → Doing Unit := fun _ => pure ()
  doDelete : Context → Doing Unit := fun _ => pure ()
  doPut : Context → Doing Unit := fun _ => pure ()

/-- `RoleIsAuthorized` of the base class. It is not virtual, and a class which declares one with other
parameters hides it from its own functions only. -/
def roleIsAuthorized (_path _method : String) : Bool := true

section Handle

variable (service : Service) (h : RESTAPIHandler) (request : HTTPServerRequest)

/-- A request is refused. -/
def unAuthorized (e : ErrorMsg) : Serving Unit :=
  respond (HandlerAnswer.unAuthorized request.method e)

def badRequest (e : ErrorMsg) : Serving Unit :=
  respond (HandlerAnswer.badRequest request.method e "")

/-- `ProcessOptions` -/
def processOptions : Serving Unit := respond { status := HTTPStatus.ok, document := none }

/-- The body is parsed when it has a length and is said to be JSON. Reading the stream consumes it. -/
def parseBody : Except Thrown (Option Json.Object × Body) :=
  if 0 < request.contentLength ∧ "application/json".toList <:+: request.contentType.toList then
    match request.stream.parse with
    | some body => .ok (some body, consumed)
    | none => .error .poco
  else .ok (none, request.stream)

/-- Whether the rate limiter refuses the request. `IsRateLimited` throws where the URI is none. -/
def isRateLimited : Doing Bool :=
  if h.rateLimited then
    match service.uris.parse request.uri with
    | none => throw .poco
    | some u => liftM (perform (Op.isRateLimited u.path h.rates.interval h.rates.maxCalls) : Serving Bool)
  else pure false

/-- `IsAuthorized` -/
def isAuthorized (internal : Bool) (info : AuthInfo) (sub : Bool) : Serving (Bool × AuthInfo) :=
  if internal && request.internalName.isSome then
    return (request.apiKey = some service.myHash, { info with contacted := true })
  else if !internal && request.apiKey.isSome then
    ofSteps (AuthSteps.isValidApiKey service.conv (request.apiKey.getD "") info)
  else
    ofSteps (AuthSteps.isAuthorized service.conv
      ((request.authorization.bind service.bearerToken).getD "") info sub)

/-- The answer to a request which is not authorized. -/
def refuse (info : AuthInfo) : Serving Unit :=
  if info.expired then unAuthorized request Errors.expiredToken
  else if info.contacted then unAuthorized request Errors.invalidToken
  else unAuthorized request Errors.securityServiceUnreachable

/-- `UserInfo_` before the authentication. -/
def initialUser : UserInfoAndPolicy where
  userinfo := { userRole := service.initialRole }

/-- The authentication of the request. -/
def authenticate : Serving (Bool × AuthInfo) :=
  if h.alwaysAuthorize then
    isAuthorized service request h.internal { uInfo := initialUser service } h.subOnlyService
  else return (true, { uInfo := initialUser service })

/-- What `handleRequest` does up to the authentication; `none` when it has answered. -/
def admission : Doing (Option Session) := do
  let body ← (liftM (parseBody request) : Doing (Option Json.Object × Body))
  let limited ← isRateLimited service h request
  if limited then
    unAuthorized request Errors.rateLimitExceeded
    return none
  else if request.method = "OPTIONS" then
    processOptions
    return none
  else if request.method ∉ h.methods then
    badRequest request Errors.unsupportedHTTPMethod
    return none
  else
    let authorization ← (liftM (authenticate service h request) : Doing (Bool × AuthInfo))
    if authorization.1 then
      return some { parsedBody := body.1, stream := body.2, user := authorization.2.uInfo }
    else
      refuse request authorization.2
      return none

/-- What a function of the handler reads. -/
def contextOf (session : Session) (read : QueryParameters × QueryBlock) : Context :=
  { session with request, parameters := read.1, queryBlock := read.2 }

/-- What `handleRequest` does before a function of the handler is called; `none` when it has
answered. -/
def route : Doing (Option Context) := do
  match ← admission service h request with
  | none => return none
  | some session =>
    if roleIsAuthorized request.uri request.method then
      let read ← (liftM (parseParameters service.uris request.uri) : Doing (QueryParameters × QueryBlock))
      return some (contextOf request session read)
    else
      unAuthorized request Errors.accessDenied
      return none

/-- The function of the handler which the method of the request names is called. -/
def call (ctx : Context) : Doing Unit :=
  if request.method = "GET" then h.doGet ctx
  else if request.method = "POST" then h.doPost ctx
  else if request.method = "DELETE" then h.doDelete ctx
  else if request.method = "PUT" then h.doPut ctx
  else badRequest request Errors.unsupportedHTTPMethod

/-- The body of the `try` block. -/
def process : Doing Unit := do
  match ← route service h request with
  | none => return ()
  | some ctx => call h request ctx

/-- `handleRequest`: it returns, or an exception which is not of Poco leaves it. -/
def handleRequest : Doing Unit :=
  ExceptT.mk do
    match ← (process service h request).run with
    | .error .poco =>
      badRequest request Errors.internalError
      return .ok ()
    | r => return r

end Handle

/-! ## The answers -/

/-- The answer which an event sends. -/
def answerOf : Event → Option HandlerAnswer
  | ⟨.respond answer, _⟩ => some answer
  | _ => none

/-- The answers which are sent. -/
def responses (tr : List Event) : List HandlerAnswer := tr.filterMap answerOf

/-- An event before a function of the handler is called: the rate limiter or the authentication client
is asked. -/
def Preliminary (e : Event) : Prop :=
  match e.1 with
  | .isRateLimited .. | .auth _ => True
  | _ => False

/-- The request is answered. -/
abbrev respondEvent (answer : HandlerAnswer) : Event := ⟨.respond answer, ()⟩

@[simp] lemma responses_nil : responses [] = [] := rfl

@[simp] lemma responses_respond (answer : HandlerAnswer) : responses [respondEvent answer] = [answer] := rfl

/-- The responses of two parts. -/
lemma responses_append (tr1 tr2 : List Event) : responses (tr1 ++ tr2) = responses tr1 ++ responses tr2 :=
  List.filterMap_append

/-- What comes before an answer is no response. -/
lemma responses_of_preliminary {tr : List Event} (quiet : ∀ e ∈ tr, Preliminary e) : responses tr = [] := by
  refine List.filterMap_eq_nil_iff.mpr ?_
  rintro ⟨op, x⟩ mem
  have preliminary := quiet _ mem
  cases op with
  | isRateLimited => rfl
  | auth => rfl
  | _ => cases preliminary

/-- An answer is one event. -/
lemma trace_respond {answer : HandlerAnswer} {tr : List Event} {u : Unit} :
    Trace (respond answer) tr u ↔ tr = [respondEvent answer] := trace_perform

/-- So it is among steps which may throw. -/
lemma trace_attempt_respond {answer : HandlerAnswer} {tr : List Event} {r : Except Thrown Unit} :
    Trace (liftM (respond answer) : Doing Unit).run tr r ↔ tr = [respondEvent answer] ∧ r = .ok () := by
  rw [trace_attempt_lift]
  refine ⟨?_, ?_⟩
  · rintro ⟨u, rfl, answers⟩
    exact ⟨trace_respond.mp answers, rfl⟩
  · rintro ⟨rfl, rfl⟩
    exact ⟨(), rfl, trace_respond.mpr rfl⟩

/-- The authentication sends no answer. -/
lemma asks_ofSteps {α : Type} (p : AuthSteps.Steps α) : Asks Preliminary (ofSteps p) := by
  intro tr a h
  induction p generalizing tr with
  | ret b =>
    obtain ⟨rfl, _⟩ := trace_ret.mp h
    exact nofun
  | ask op k ih =>
    obtain ⟨x, rest, rfl, after⟩ := trace_ask.mp h
    rintro e (_ | ⟨_, mem⟩)
    · trivial
    · exact ih x rest after e mem

section Traces

variable {service : Service} {h : RESTAPIHandler} {request : HTTPServerRequest} {tr : List Event}

/-- Nor does the limit of the rate. -/
lemma asks_isRateLimited : Asks Preliminary (isRateLimited service h request).run := by
  rw [isRateLimited]
  split
  case isTrue =>
    split
    case h_1 => exact .attempt_throw _
    case h_2 => exact .attempt_lift (.perform_bind (fun _ => trivial) fun _ => .pure _)
  case isFalse => exact .attempt_pure _

/-- Nor does the authorization. -/
lemma asks_isAuthorized {internal sub : Bool} {info : AuthInfo} :
    Asks Preliminary (isAuthorized service request internal info sub) := by
  rw [isAuthorized]
  refine .ite (.pure _) (.ite ?_ ?_)
  · exact asks_ofSteps _
  · exact asks_ofSteps _

/-- Nor do both together. -/
lemma asks_authenticate : Asks Preliminary (authenticate service h request) :=
  .ite asks_isAuthorized (.pure _)

/-- What happens before the authentication is done. -/
inductive Admits (request : HTTPServerRequest) : List Event → Except Thrown (Option Session) → Prop where
  | failed {tr : List Event} (quiet : ∀ e ∈ tr, Preliminary e) :
    Admits request tr (.error .poco)
  | answered {tr : List Event} (quiet : ∀ e ∈ tr, Preliminary e) (answer : HandlerAnswer) :
    Admits request (tr ++ [respondEvent answer]) (.ok none)
  | admitted {tr : List Event} {session : Session} (quiet : ∀ e ∈ tr, Preliminary e)
    (parsed : parseBody request = .ok (session.parsedBody, session.stream)) :
    Admits request tr (.ok (some session))

/-- A body which cannot be parsed is an exception of Poco. -/
lemma parseBody_error {e : Thrown} (failed : parseBody request = .error e) : e = .poco := by
  rw [parseBody] at failed
  split at failed
  case isTrue =>
    split at failed
    case h_1 => cases failed
    case h_2 =>
      cases failed
      rfl
  case isFalse => cases failed

/-- So is an address which cannot be read. -/
lemma isRateLimited_error {e : Thrown} (failed : Trace (isRateLimited service h request).run tr (.error e)) :
    e = .poco := by
  rw [isRateLimited] at failed
  split at failed
  case isTrue =>
    split at failed
    case h_1 =>
      cases (trace_attempt_throw.mp failed).2
      rfl
    case h_2 =>
      obtain ⟨x, rest, _, ends⟩ := trace_ask.mp failed
      cases (trace_ret.mp ends).2
  case isFalse => cases (trace_attempt_pure.mp failed).2

/-- An answer ends what happens before the authentication is done. -/
lemma Admits.of_answer {answer : HandlerAnswer} {pre : List Event} {r : Except Thrown (Option Session)}
    (quiet : ∀ e ∈ pre, Preliminary e)
    (ends : Trace (do (liftM (respond answer) : Doing Unit); pure none : Doing (Option Session)).run tr r) :
    Admits request (pre ++ tr) r := by
  obtain ⟨tr1, tr2, u, rfl, answers, returns⟩ := trace_attempt_lift_bind.mp ends
  obtain rfl := trace_respond.mp answers
  obtain ⟨rfl, rfl⟩ := trace_attempt_pure.mp returns
  exact .answered quiet answer

/-- A refusal is a 403 with one of its errors. -/
lemma refuse_eq (request : HTTPServerRequest) (info : AuthInfo) :
    ∃ e, refuse request info = unAuthorized request e := by
  rw [refuse]
  split
  case isTrue => exact ⟨_, rfl⟩
  case isFalse =>
    split
    case isTrue => exact ⟨_, rfl⟩
    case isFalse => exact ⟨_, rfl⟩

/-- A request is admitted, answered or ended by an exception. -/
lemma admission_inv {r : Except Thrown (Option Session)} (asks : Trace (admission service h request).run tr r) :
    Admits request tr r := by
  rw [admission] at asks
  rcases trace_attempt_bind.mp asks with ⟨e, rfl, h1⟩ | ⟨tr1, tr2, body, rfl, h1, h2⟩
  · obtain ⟨rfl, failed⟩ := trace_attempt_except.mp h1
    rw [parseBody_error failed.symm]
    exact .failed nofun
  obtain ⟨rfl, parsed⟩ := trace_attempt_except.mp h1
  rcases trace_attempt_bind.mp h2 with ⟨e, rfl, h3⟩ | ⟨tr3, tr4, limited, rfl, h3, h4⟩
  · rw [isRateLimited_error h3]
    exact .failed (asks_isRateLimited _ _ h3)
  have quiet := asks_isRateLimited _ _ h3
  rw [List.nil_append]
  split at h4
  case isTrue => exact .of_answer quiet h4
  split at h4
  case isTrue => exact .of_answer quiet h4
  split at h4
  case isTrue => exact .of_answer quiet h4
  obtain ⟨tr5, tr6, authorization, rfl, h5, h6⟩ := trace_attempt_lift_bind.mp h4
  have quiet : ∀ e ∈ tr3 ++ tr5, Preliminary e := by
    intro e mem
    rcases List.mem_append.mp mem with mem | mem
    · exact quiet e mem
    · exact asks_authenticate _ _ h5 e mem
  rw [← List.append_assoc]
  split at h6
  case isTrue =>
    obtain ⟨rfl, rfl⟩ := trace_attempt_pure.mp h6
    rw [List.append_nil]
    exact .admitted quiet parsed.symm
  case isFalse =>
    obtain ⟨e, eq⟩ := refuse_eq request authorization.2
    rw [eq] at h6
    exact .of_answer quiet h6

/-- A function of the handler is called after the authentication, once the parameters are read. -/
lemma route_inv {ctx : Context} (routes : Trace (route service h request).run tr (.ok (some ctx))) :
    ∃ session read, Trace (admission service h request).run tr (.ok (some session)) ∧
      parseParameters service.uris request.uri = .ok read ∧ ctx = contextOf request session read := by
  obtain ⟨tr1, tr2, admission, rfl, admits, reads⟩ := trace_attempt_bind_ok.mp routes
  cases admission with
  | none => cases (trace_attempt_pure.mp reads).2
  | some session =>
    dsimp only at reads
    rw [if_pos (show roleIsAuthorized request.uri request.method = true from rfl)] at reads
    obtain ⟨tr3, tr4, read, rfl, parses, returns⟩ := trace_attempt_bind_ok.mp reads
    obtain ⟨rfl, parsed⟩ := trace_attempt_except.mp parses
    obtain ⟨rfl, eq⟩ := trace_attempt_pure.mp returns
    cases eq
    rw [List.append_nil, List.append_nil]
    exact ⟨session, read, admits, parsed.symm, rfl⟩

/-- Once a request is authenticated, its parameters are read. -/
lemma route_of_admitted {pre : List Event} {session : Session}
    (admits : Trace (admission service h request).run pre (.ok (some session))) :
    Trace (route service h request).run pre
      ((parseParameters service.uris request.uri).map fun read => some (contextOf request session read)) := by
  refine trace_attempt_bind.mpr (.inr ⟨pre, [], some session, (List.append_nil pre).symm, admits, ?_⟩)
  cases parseParameters service.uris request.uri with
  | error e => exact .ret _
  | ok read => exact .ret _

/-- Once a request is authenticated, its parameters are read, and the function of the handler is called. -/
lemma process_of_admitted {pre : List Event} {session : Session} {r : Except Thrown Unit}
    (admits : Trace (admission service h request).run pre (.ok (some session))) (le : pre <+: tr)
    (processes : Trace (process service h request).run tr r) :
    (∃ e, parseParameters service.uris request.uri = .error e ∧ tr = pre ∧ r = .error e) ∨
      ∃ read post, parseParameters service.uris request.uri = .ok read ∧ tr = pre ++ post ∧
        Trace (call h request (contextOf request session read)).run post r := by
  have routes := route_of_admitted admits
  cases read : parseParameters service.uris request.uri with
  | error e =>
    rw [read] at routes
    rcases trace_attempt_bind.mp processes with ⟨e', rfl, fails⟩ | ⟨tr1, tr2, ctx, rfl, first, _⟩
    · obtain ⟨rfl, eq⟩ := routes.eq_of_before fails le
      cases eq
      exact .inl ⟨e, rfl, rfl, rfl⟩
    · cases (routes.prefix_unique first le (List.prefix_append tr1 tr2)).2
  | ok values =>
    rw [read] at routes
    obtain ⟨post, rfl, calls⟩ := trace_attempt_bind_of_before processes routes le
    exact .inr ⟨values, post, rfl, rfl, calls⟩

/-- What `handleRequest` does: an exception of Poco is answered. -/
lemma handleRequest_inv {r : Except Thrown Unit} (handles : Trace (handleRequest service h request).run tr r) :
    (∃ tr1, Trace (process service h request).run tr1 (.error .poco) ∧ r = .ok () ∧
        tr = tr1 ++ [respondEvent (HandlerAnswer.badRequest request.method Errors.internalError "")]) ∨
      Trace (process service h request).run tr r ∧ r ≠ .error .poco := by
  obtain ⟨tr1, tr2, r1, rfl, processes, ends⟩ := trace_bind.mp handles
  split at ends
  case h_1 =>
    obtain ⟨tr3, tr4, u, rfl, answers, returns⟩ := trace_bind.mp ends
    obtain rfl := trace_respond.mp answers
    obtain ⟨rfl, rfl⟩ := trace_pure.mp returns
    exact .inl ⟨tr1, processes, rfl, rfl⟩
  case h_2 other =>
    obtain ⟨rfl, rfl⟩ := trace_pure.mp ends
    rw [List.append_nil]
    exact .inr ⟨processes, other⟩

/-- What holds of all functions of a handler, and of an answer, holds of what is called. -/
lemma call_inv {P : List Event → Except Thrown Unit → Prop} {ctx : Context} {r : Except Thrown Unit}
    (calls : Trace (call h request ctx).run tr r)
    (gets : ∀ tr r, Trace (h.doGet ctx).run tr r → P tr r)
    (posts : ∀ tr r, Trace (h.doPost ctx).run tr r → P tr r)
    (deletes : ∀ tr r, Trace (h.doDelete ctx).run tr r → P tr r)
    (puts : ∀ tr r, Trace (h.doPut ctx).run tr r → P tr r)
    (answers : ∀ answer, P [respondEvent answer] (.ok ())) : P tr r := by
  rw [call] at calls
  split at calls
  case isTrue => exact gets tr r calls
  split at calls
  case isTrue => exact posts tr r calls
  split at calls
  case isTrue => exact deletes tr r calls
  split at calls
  case isTrue => exact puts tr r calls
  case isFalse =>
    obtain ⟨rfl, rfl⟩ := trace_attempt_respond.mp calls
    exact answers _

/-- How a request is handled: it is answered before a function of the handler is called, or a number of its
query is too large, or a function of the handler is called. -/
inductive Handles (service : Service) (h : RESTAPIHandler) (request : HTTPServerRequest) :
    List Event → Except Thrown Unit → Prop where
  | answered {tr : List Event} (quiet : ∀ e ∈ tr, Preliminary e) (answer : HandlerAnswer) :
    Handles service h request (tr ++ [respondEvent answer]) (.ok ())
  | thrown {tr : List Event} {session : Session} :
    Trace (admission service h request).run tr (.ok (some session)) →
    parseParameters service.uris request.uri = .error .outOfRange →
    Handles service h request tr (.error .outOfRange)
  | called {pre post : List Event} {session : Session} {read : QueryParameters × QueryBlock}
    {r : Except Thrown Unit} :
    Trace (admission service h request).run pre (.ok (some session)) →
    parseParameters service.uris request.uri = .ok read →
    Trace (call h request (contextOf request session read)).run post r →
    r ≠ .error .poco →
    Handles service h request (pre ++ post) r
  | failed {pre post : List Event} {session : Session} {read : QueryParameters × QueryBlock} :
    Trace (admission service h request).run pre (.ok (some session)) →
    parseParameters service.uris request.uri = .ok read →
    Trace (call h request (contextOf request session read)).run post (.error .poco) →
    Handles service h request (pre ++ post ++
      [respondEvent (HandlerAnswer.badRequest request.method Errors.internalError "")]) (.ok ())

/-- The body of the `try` block stops before the authentication is done, or goes on after it. -/
lemma process_inv {r : Except Thrown Unit} (processes : Trace (process service h request).run tr r) :
    (∃ pre answer, (∀ e ∈ pre, Preliminary e) ∧ tr = pre ++ [respondEvent answer] ∧ r = .ok ()) ∨
      ((∀ e ∈ tr, Preliminary e) ∧ r = .error .poco) ∨
      ∃ pre session, Trace (admission service h request).run pre (.ok (some session)) ∧ pre <+: tr := by
  rcases trace_attempt_bind.mp processes with ⟨e, rfl, routes⟩ | ⟨tr1, tr2, ctx, rfl, routes, calls⟩
  · rcases trace_attempt_bind.mp routes with ⟨e', eq, admits⟩ | ⟨tr3, tr4, admission, rfl, admits, reads⟩
    · cases eq
      cases admission_inv admits with
      | failed quiet => exact .inr (.inl ⟨quiet, rfl⟩)
    · cases admission with
      | none => cases (trace_attempt_pure.mp reads).2
      | some session => exact .inr (.inr ⟨tr3, session, admits, List.prefix_append tr3 tr4⟩)
  · obtain ⟨tr3, tr4, admission, rfl, admits, reads⟩ := trace_attempt_bind_ok.mp routes
    cases admission with
    | none =>
      obtain ⟨rfl, eq⟩ := trace_attempt_pure.mp reads
      cases eq
      obtain ⟨rfl, rfl⟩ := trace_attempt_pure.mp calls
      rw [List.append_nil, List.append_nil]
      cases admission_inv admits with
      | answered quiet answer => exact .inl ⟨_, answer, quiet, rfl, rfl⟩
    | some session =>
      exact .inr (.inr ⟨tr3, session, admits, (List.prefix_append tr3 tr4).trans (List.prefix_append _ tr2)⟩)

/-- What a request does is one of the ways to handle it. -/
lemma handleRequest_handles {r : Except Thrown Unit}
    (handles : Trace (handleRequest service h request).run tr r) : Handles service h request tr r := by
  rcases handleRequest_inv handles with ⟨tr1, processes, rfl, rfl⟩ | ⟨processes, other⟩
  · rcases process_inv processes with ⟨_, _, _, _, eq⟩ | ⟨quiet, _⟩ | ⟨pre, session, admits, le⟩
    · cases eq
    · exact .answered quiet _
    · rcases process_of_admitted admits le processes with ⟨e, _, rfl, _⟩ | ⟨read, post, parsed, rfl, calls⟩
      · cases admission_inv admits with
        | admitted quiet _ => exact .answered quiet _
      · exact .failed admits parsed calls
  · rcases process_inv processes with ⟨pre, answer, quiet, rfl, rfl⟩ | ⟨_, eq⟩ | ⟨pre, session, admits, le⟩
    · exact .answered quiet answer
    · exact absurd eq other
    · rcases process_of_admitted admits le processes with ⟨e, failed, rfl, rfl⟩ | ⟨read, post, parsed, rfl, calls⟩
      · have large : e = .outOfRange := by
          rcases parseParameters_spec service.uris request.uri with ⟨_, eq, _, _⟩ | ⟨eq, _⟩ | ⟨eq, _⟩
          · rw [eq] at failed
            cases failed
          · rw [eq] at failed
            cases failed
            exact absurd rfl other
          · rw [eq] at failed
            cases failed
            rfl
        subst large
        exact .thrown admits failed
      · exact .called admits parsed calls other

end Traces

end UserPortal.RequestHandler
