import UserPortal.Framework.ApiProxy

/-!
# The handlers which use the proxy

Port of `src/RESTAPI/RESTAPI_oauth2_handler.cpp`, `src/RESTAPI/RESTAPI_mfa_handler.cpp` and
`src/RESTAPI/RESTAPI_subscriber_handler.cpp`: they send requests on to the security and the provisioning
service. `handleRequest_answersOnce_iff` says which of these requests are answered as they should be.
-/

namespace UserPortal.RequestHandler
open Interaction Program Security

section Handlers

variable (service : Service) (internal : Bool)

/-- A request is sent on to the security service. -/
def securityProxy (pathRewrite : String) (ctx : Context) : Doing Unit :=
  apiProxy service ctx.request ctx.stream uSERVICE_SECURITY pathRewrite

/-- `RESTAPI_oauth2_handler` -/
def oauth2Handler : RESTAPIHandler where
  methods := ["POST", "DELETE", "GET", "OPTIONS"]
  internal := internal
  alwaysAuthorize := false
  rateLimited := true
  rates := { interval := 1000, maxCalls := 10 }
  doPost := securityProxy service "/api/v1/suboauth2"
  doGet := securityProxy service "/api/v1/suboauth2"
  doDelete := securityProxy service "/api/v1/suboauth2"

/-- `RESTAPI_mfa_handler` -/
def mfaHandler : RESTAPIHandler where
  methods := ["GET", "PUT", "OPTIONS"]
  internal := internal
  rates := { interval := 1000, maxCalls := 10 }
  subOnlyService := true
  doPut := securityProxy service "/api/v1/submfa"
  doGet := securityProxy service "/api/v1/submfa"

/-- A parameter, without its case and the spaces around it. -/
def nameParameter (ctx : Context) (name : String) : String :=
  Utils.trim (Utils.toLower (ctx.parameters.getParameter name ""))

/-- `DoPost` of `RESTAPI_subscriber_handler` -/
def subscriberPost (ctx : Context) : Doing Unit :=
  if !Utils.validEMailAddress (nameParameter ctx "email") then
    badRequest ctx.request Errors.invalidEmailAddress
  else if nameParameter ctx "registrationId" = "" then
    badRequest ctx.request Errors.invalidRegistrationOperatorName
  else apiProxy service ctx.request ctx.stream uSERVICE_PROVISIONING "/api/v1/subscriber"

/-- `DoDelete` of `RESTAPI_subscriber_handler` -/
def subscriberDelete (ctx : Context) : Doing Unit := do
  let authorization ← (liftM (isAuthorized service ctx.request internal { uInfo := ctx.user } true) :
    Doing (Bool × AuthInfo))
  if authorization.1 then
    if authorization.2.uInfo.userinfo.id = "" then
      respond (HandlerAnswer.notFound ctx.request.method)
    else
      apiProxy service ctx.request ctx.stream uSERVICE_PROVISIONING
        ("/api/v1/subscriber/" ++ authorization.2.uInfo.userinfo.id)
  else refuse ctx.request authorization.2

/-- `RESTAPI_subscriber_handler` -/
def subscriberHandler : RESTAPIHandler where
  methods := ["POST", "DELETE", "OPTIONS"]
  internal := internal
  alwaysAuthorize := false
  rates := { interval := 1000, maxCalls := 10 }
  subOnlyService := true
  doPost := subscriberPost service
  doDelete := subscriberDelete service internal

/-- The handlers which use the proxy. -/
inductive UsesProxy (service : Service) : RESTAPIHandler → Prop where
  | oauth2 (internal : Bool) :
    UsesProxy service (oauth2Handler service internal)
  | mfa (internal : Bool) :
    UsesProxy service (mfaHandler service internal)
  | subscriber (internal : Bool) :
    UsesProxy service (subscriberHandler service internal)

end Handlers

/-! ## What they do -/

/-- A request is sent on. -/
def SentOn (tr : List Event) : Prop := ∃ serviceType services, servicesEvent serviceType services ∈ tr

/-- An event of a handler which does not use the proxy. -/
def Plain (e : Event) : Prop := Preliminary e ∨ ∃ answer, e = respondEvent answer

section Proxied

variable {service : Service} {h : RESTAPIHandler} {request : HTTPServerRequest} {ctx : Context}
  {tr : List Event} {r : Except Thrown Unit}

/-- What a function of a handler does which uses the proxy. -/
inductive CallsProxy (service : Service) (request : HTTPServerRequest) (stream : Body) :
    List Event → Except Thrown Unit → Prop where
  | plain {tr : List Event} {r : Except Thrown Unit} (events : ∀ e ∈ tr, Plain e) :
    CallsProxy service request stream tr r
  | sentOn {pre post : List Event} (quiet : ∀ e ∈ pre, Preliminary e)
    (proxied : Proxies service request stream post) :
    CallsProxy service request stream (pre ++ post) (.ok ())

/-- What comes before the handler is plain. -/
lemma plain_of_preliminary (quiet : ∀ e ∈ tr, Preliminary e) : ∀ e ∈ tr, Plain e :=
  fun e mem => .inl (quiet e mem)

/-- Plain parts make a plain trace. -/
lemma plain_append {tr1 tr2 : List Event} (h1 : ∀ e ∈ tr1, Plain e) (h2 : ∀ e ∈ tr2, Plain e) :
    ∀ e ∈ tr1 ++ tr2, Plain e := List.forall_mem_append.mpr ⟨h1, h2⟩

/-- An answer is plain. -/
lemma plain_answer (answer : HandlerAnswer) : ∀ e ∈ [respondEvent answer], Plain e := by
  rintro e (_ | ⟨_, ⟨⟩⟩)
  exact .inr ⟨_, rfl⟩

/-- So is giving it. -/
lemma plain_respond {answer : HandlerAnswer}
    (answers : Trace (liftM (respond answer) : Doing Unit).run tr r) : ∀ e ∈ tr, Plain e := by
  obtain ⟨rfl, _⟩ := trace_attempt_respond.mp answers
  exact plain_answer answer

/-- `API_Proxy` calls itself. -/
lemma callsProxy_apiProxy {stream : Body} {serviceType pathRewrite : String}
    (proxies : Trace (apiProxy service request stream serviceType pathRewrite).run tr r) :
    CallsProxy service request stream tr r := by
  obtain ⟨proxied, rfl⟩ := apiProxy_inv proxies
  have quiet : ∀ e ∈ ([] : List Event), Preliminary e := nofun
  exact .sentOn quiet proxied

/-- The POST of the subscriber calls `API_Proxy`. -/
lemma callsProxy_subscriberPost (posts : Trace (subscriberPost service ctx).run tr r) :
    CallsProxy service ctx.request ctx.stream tr r := by
  rw [subscriberPost] at posts
  split at posts
  case isTrue => exact .plain (plain_respond posts)
  split at posts
  case isTrue => exact .plain (plain_respond posts)
  case isFalse => exact callsProxy_apiProxy posts

/-- So does its DELETE. -/
lemma callsProxy_subscriberDelete {internal : Bool}
    (deletes : Trace (subscriberDelete service internal ctx).run tr r) :
    CallsProxy service ctx.request ctx.stream tr r := by
  obtain ⟨pre, post, authorization, rfl, asks, acts⟩ := trace_attempt_lift_bind.mp deletes
  have quiet := asks_isAuthorized _ _ asks
  split at acts
  case isTrue =>
    split at acts
    case isTrue => exact .plain (plain_append (plain_of_preliminary quiet) (plain_respond acts))
    case isFalse =>
      obtain ⟨proxied, rfl⟩ := apiProxy_inv acts
      exact .sentOn quiet proxied
  case isFalse =>
    obtain ⟨e, eq⟩ := refuse_eq ctx.request authorization.2
    rw [eq] at acts
    exact .plain (plain_append (plain_of_preliminary quiet) (plain_respond acts))

/-- An empty handler calls nothing. -/
lemma callsProxy_empty {stream : Body} (ends : Trace (pure () : Doing Unit).run tr r) :
    CallsProxy service request stream tr r := by
  obtain ⟨rfl, _⟩ := trace_attempt_pure.mp ends
  exact .plain nofun

/-- Whatever the method, a function of such a handler uses the proxy or answers by itself. -/
lemma UsesProxy.callsProxy (uses : UsesProxy service h)
    (calls : Trace (call h request ctx).run tr r) : CallsProxy service ctx.request ctx.stream tr r := by
  have answers : ∀ answer, CallsProxy service ctx.request ctx.stream [respondEvent answer] (.ok ()) :=
    fun answer => .plain (plain_answer answer)
  cases uses with
  | oauth2 internal =>
    exact call_inv calls (fun _ _ => callsProxy_apiProxy) (fun _ _ => callsProxy_apiProxy)
      (fun _ _ => callsProxy_apiProxy) (fun _ _ => callsProxy_empty) answers
  | mfa internal =>
    exact call_inv calls (fun _ _ => callsProxy_apiProxy) (fun _ _ => callsProxy_empty)
      (fun _ _ => callsProxy_empty) (fun _ _ => callsProxy_apiProxy) answers
  | subscriber internal =>
    refine call_inv calls (fun _ _ => callsProxy_empty) ?_ ?_ (fun _ _ => callsProxy_empty) answers
    · intro tr r posts
      dsimp only [subscriberHandler] at posts
      exact callsProxy_subscriberPost posts
    · intro tr r deletes
      dsimp only [subscriberHandler] at deletes
      exact callsProxy_subscriberDelete deletes

/-- The reply which an event receives. -/
def replyOf : Event → Option Reply
  | ⟨.receiveResponse, reply⟩ => reply
  | _ => none

/-- The replies of the other service. -/
def replies (tr : List Event) : List Reply := tr.filterMap replyOf

/-- Exactly one answer is sent, an error where no reply was received. -/
def AnswersOnce (tr : List Event) : Prop :=
  ∃ answer, responses tr = [answer] ∧ (replies tr = [] → 400 ≤ answer.status)

/-- The replies of two parts, one after the other. -/
lemma replies_append (tr1 tr2 : List Event) : replies (tr1 ++ tr2) = replies tr1 ++ replies tr2 :=
  List.filterMap_append

/-- No reply comes before the handler. -/
lemma replies_of_preliminary (quiet : ∀ e ∈ tr, Preliminary e) : replies tr = [] := by
  refine List.filterMap_eq_nil_iff.mpr ?_
  rintro ⟨op, x⟩ mem
  have preliminary := quiet _ mem
  cases op with
  | isRateLimited => rfl
  | auth => rfl
  | _ => cases preliminary

/-- What is plain has sent nothing on. -/
lemma not_sentOn_of_plain (plain : ∀ e ∈ tr, Plain e) : ¬ SentOn tr := by
  rintro ⟨serviceType, services, mem⟩
  rcases plain _ mem with preliminary | ⟨answer, eq⟩
  · cases preliminary
  · cases eq

/-- What the proxy does is right exactly when it has received a reply. -/
lemma Proxies.answersOnce_iff {stream : Body} (proxies : Proxies service request stream tr) :
    AnswersOnce tr ↔ replies tr ≠ [] := by
  cases proxies with
  | noDestination => exact iff_of_false (by rintro ⟨_, ⟨⟩, _⟩) fun ne => ne rfl
  | notSent => exact iff_of_false (by rintro ⟨_, ⟨⟩, _⟩) fun ne => ne rfl
  | notDeleted => exact iff_of_false (by rintro ⟨_, ⟨⟩, _⟩) fun ne => ne rfl
  | notReceived =>
    refine iff_of_false ?_ fun ne => ne rfl
    rintro ⟨answer, ⟨⟩, error⟩
    exact absurd (error rfl) (show ¬ 400 ≤ 200 by decide)
  | received serviceType svc services destination reply =>
    have replied : ∀ d b a, replies [servicesEvent serviceType (svc :: services), sendEvent d b true,
        receiveEvent (some reply), respondEvent a] = [reply] := fun _ _ _ => rfl
    rw [AnswersOnce, replied]
    exact iff_of_true ⟨_, rfl, nofun⟩ nofun

/-- A request which is not answered by the portal itself goes through the proxy, with what the framework has left of
its stream. -/
lemma proxied_inv (uses : UsesProxy service h) (handles : Trace (handleRequest service h request).run tr r)
    (notPlain : ¬ ∀ e ∈ tr, Plain e) :
    ∃ pre post parsedBody stream, parseBody request = .ok (parsedBody, stream) ∧
      (∀ e ∈ pre, Preliminary e) ∧ Proxies service request stream post ∧ tr = pre ++ post ∧ r = .ok () := by
  cases handleRequest_handles handles with
  | answered quiet answer => exact absurd (plain_append (plain_of_preliminary quiet) (plain_answer _)) notPlain
  | thrown admits _ =>
    cases admission_inv admits with
    | admitted quiet _ => exact absurd (plain_of_preliminary quiet) notPlain
  | @called pre post session read _ admits _ calls _ =>
    cases admission_inv admits with
    | admitted quiet parsed =>
      have proxy : CallsProxy service request session.stream post r := uses.callsProxy calls
      cases proxy with
      | plain events => exact absurd (plain_append (plain_of_preliminary quiet) events) notPlain
      | @sentOn pre' post' quiet' proxied =>
        refine ⟨pre ++ pre', post', session.parsedBody, session.stream, parsed, ?_, proxied, ?_, rfl⟩
        · exact List.forall_mem_append.mpr ⟨quiet, quiet'⟩
        · rw [List.append_assoc]
  | @failed pre post session read admits _ calls =>
    cases admission_inv admits with
    | admitted quiet _ =>
      have proxy : CallsProxy service request session.stream post (.error .poco) := uses.callsProxy calls
      cases proxy with
      | plain events =>
        have plain := plain_append (plain_of_preliminary quiet) events
        exact absurd (plain_append plain (plain_answer _)) notPlain

/-- A request which is sent on is answered as it should be exactly when a reply was received. -/
theorem handleRequest_answersOnce_iff (uses : UsesProxy service h)
    (handles : Trace (handleRequest service h request).run tr r) (sentOn : SentOn tr) :
    (r = .ok () ∧ AnswersOnce tr) ↔ replies tr ≠ [] := by
  obtain ⟨pre, post, _, _, _, quiet, proxied, rfl, rfl⟩ :=
    proxied_inv uses handles fun plain => not_sentOn_of_plain plain sentOn
  have silent : AnswersOnce (pre ++ post) ↔ AnswersOnce post := by
    rw [AnswersOnce, AnswersOnce, responses_append, responses_of_preliminary quiet, replies_append,
      replies_of_preliminary quiet, List.nil_append, List.nil_append]
  rw [replies_append, replies_of_preliminary quiet, List.nil_append, silent, proxied.answersOnce_iff]
  exact and_iff_right rfl

end Proxied

/-! ### A sign-in -/

namespace SignIn

/-- The credentials of a user. -/
def credentials : Json.Object := [("password", .str "secret"), ("userId", .str "user@example.com")]

def request : HTTPServerRequest where
  method := "POST"
  uri := "/api/v1/oauth2"
  contentType := "application/json"
  stream := .json (.obj credentials)

/-- The security service. -/
def security : MicroServices.MicroServiceMeta where
  id := 1
  type := "owsec"
  privateEndPoint := "https://owsec:17001"
  publicEndPoint := "https://owsec:16001"
  accessKey := "key"
  version := "4.0.0"

/-- The request is not limited, and the security service is looked up. -/
def lookup (services : List MicroServices.MicroServiceMeta) : List Event :=
  [⟨.isRateLimited "/api/v1/oauth2" 1000 10, false⟩, servicesEvent uSERVICE_SECURITY services]

/-- The security service receives a body, or none, and answers. -/
def signedIn (body : Option Json.Object) : List Event :=
  lookup [security] ++
    [sendEvent { host := "owsec", port := 17001, path := "/api/v1/suboauth2", query := "" } {
        method := "POST"
        headers := [("X-API-KEY", "key"), ("X-INTERNAL-NAME", "https://portal:16006")]
        body := body } true,
      receiveEvent (some ⟨HTTPStatus.forbidden, .json (.obj [])⟩),
      respondEvent { status := HTTPStatus.forbidden, document := some [] }]

/-- A trace which begins with the lookup has been sent on. -/
lemma sentOn_lookup {services : List MicroServices.MicroServiceMeta} {tr : List Event}
    (le : lookup services <+: tr) : SentOn tr :=
  ⟨uSERVICE_SECURITY, services, le.subset (List.mem_cons_of_mem _ (List.mem_cons_self ..))⟩

/-- A sign-in which the security service has answered. -/
theorem signedIn_answersOnce :
    (Except.ok () : Except Thrown Unit) = .ok () ∧ AnswersOnce (signedIn (some credentials)) := by
  have handles : Trace (handleRequest .plain (oauth2Handler .plain false) request).run
      (signedIn (some credentials)) (.ok ()) := trace_iff_replay.mpr (by rfl)
  refine (handleRequest_answersOnce_iff (.oauth2 false) handles ?_).mpr ?_
  · exact sentOn_lookup (List.prefix_append _ _)
  · exact nofun

/-- Where no security service is registered, nothing is answered. -/
theorem noService_notAnswered :
    ¬ ∀ (service : Service) (h : RESTAPIHandler) (request : HTTPServerRequest) (tr : List Event)
      (r : Except Thrown Unit), UsesProxy service h →
      Trace (handleRequest service h request).run tr r → SentOn tr → r = .ok () ∧ AnswersOnce tr := by
  intro all
  have handles : Trace (handleRequest .plain (oauth2Handler .plain false) request).run (lookup [])
      (.ok ()) := trace_iff_replay.mpr (by rfl)
  obtain ⟨_, answer, sent, _⟩ := all _ _ _ _ _ (.oauth2 false) handles (sentOn_lookup List.prefix_rfl)
  cases sent

end SignIn

end UserPortal.RequestHandler
