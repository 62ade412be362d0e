import UserPortal.Framework.RequestHandler
import UserPortal.Interaction.Knowledge
import UserPortal.Interaction.Translation
import UserPortal.Security.AuthRuns

/-!
# How a request is admitted

What a request asks before a function of its handler is called, and who vouches for the user whom this function reads:
one of the caches, or the security service, knows the token or the API key of the request.
-/

namespace UserPortal.RequestHandler
open Interaction Program Security

/-! ## Programs of the portal in a handler -/

section Programs

/-- What the authentication client asks, as it is asked in a handler. -/
abbrev authenticating (e : AuthSteps.Event) : Event := ⟨.auth e.1, e.2⟩

/-- What a program of the portal asks, as it is asked in a handler. -/
abbrev asked (e : Portal.Event) : Event := ⟨.auth (.portal e.1), e.2⟩

/-- The steps of the authentication are those of the request. -/
lemma ofSteps_translates {α : Type} (p : AuthSteps.Steps α) : ofSteps p = translate Op.auth p := by
  induction p with
  | ret a => rfl
  | ask op k ih => exact congrArg (Program.ask (Op.auth op)) (funext ih)

/-- The calls of the portal are those of the authentication. -/
lemma ofPortal_translates {α : Type} (p : Portal α) : AuthSteps.ofPortal p = translate AuthSteps.Op.portal p := by
  induction p with
  | ret a => rfl
  | ask op k ih => exact congrArg (Program.ask (AuthSteps.Op.portal op)) (funext ih)

/-- The events of the steps are taken over. -/
lemma trace_ofSteps {α : Type} {p : AuthSteps.Steps α} {tr : List Event} {a : α} :
    Trace (ofSteps p) tr a ↔ ∃ steps, Trace p steps a ∧ tr = steps.map authenticating := by
  rw [ofSteps_translates]
  exact trace_translate

/-- So are those of the calls. -/
lemma trace_ofPortal {α : Type} {p : Portal α} {tr : List AuthSteps.Event} {a : α} :
    Trace (AuthSteps.ofPortal p) tr a ↔
      ∃ calls : List Portal.Event, Trace p calls a ∧ tr = calls.map fun e => ⟨.portal e.1, e.2⟩ := by
  rw [ofPortal_translates]
  exact trace_translate

/-- A program of the portal asks in a handler what it asks. -/
lemma trace_portal {α : Type} {p : Portal α} {tr : List Event} {a : α} :
    Trace (ofSteps (AuthSteps.ofPortal p)) tr a ↔ ∃ calls, Trace p calls a ∧ tr = calls.map asked := by
  rw [trace_ofSteps]
  refine ⟨?_, ?_⟩
  · intro h
    obtain ⟨steps, asks, rfl⟩ := h
    obtain ⟨calls, runs, rfl⟩ := trace_ofPortal.mp asks
    exact ⟨calls, runs, List.map_map⟩
  · intro h
    obtain ⟨calls, runs, rfl⟩ := h
    refine ⟨_, trace_ofPortal.mpr ⟨calls, runs, rfl⟩, ?_⟩
    rw [List.map_map]
    rfl

end Programs

/-! ## The authentication -/

section Vouching

/-- The token which the header of a request holds. -/
def tokenOf (service : Service) (request : HTTPServerRequest) : String :=
  (request.authorization.bind service.bearerToken).getD ""

/-- The question whether an API key is valid. -/
def validateKeyCall (key : String) : Call where
  verb := .get
  service := uSERVICE_SECURITY
  endPoint := "/api/v1/validateApiKey"
  queryData := [("apikey", key)]
  body := []
  msTimeout := 10000
  bearerToken := ""

/-- The security service has accepted a credential, with a user. -/
def Accepted (conv : Conversions) (call : Call) (before user : UserInfoAndPolicy) (tr : List AuthSteps.Event) : Prop :=
  ∃ r : Json.Object, ⟨.portal (.call call), some ⟨HTTPStatus.ok, .json (.obj r)⟩⟩ ∈ tr ∧
    r.has "tokenInfo" = true ∧ r.has "userInfo" = true ∧ user = before.fromJson conv r

/-- A user is vouched for by what the authentication was answered: a cache or the security service knows the token or
the key of the request, or another instance has identified itself, without a user. -/
inductive Vouched (service : Service) (internal sub : Bool) (request : HTTPServerRequest) (tr : List AuthSteps.Event) :
    UserInfoAndPolicy → Prop where
  | service : internal = true → request.apiKey = some service.myHash →
    Vouched service internal sub request tr (initialUser service)
  | cachedToken {user : UserInfoAndPolicy} : ⟨.getToken (tokenOf service request), some user⟩ ∈ tr →
    Vouched service internal sub request tr user
  | token {user : UserInfoAndPolicy} :
    Accepted service.conv (AuthClient.validateCall sub (tokenOf service request)) (initialUser service) user tr →
    Vouched service internal sub request tr user
  | cachedKey {key : String} {entry : ApiKeyCacheEntry} : request.apiKey = some key →
    ⟨.getApiKey key, some entry⟩ ∈ tr → Vouched service internal sub request tr entry.userInfo
  | key {key : String} {user : UserInfoAndPolicy} : request.apiKey = some key →
    Accepted service.conv (validateKeyCall key) (initialUser service) user tr →
    Vouched service internal sub request tr user

variable {conv : Conversions} {info info' : AuthInfo} {tr : List AuthSteps.Event} {key token : String} {sub : Bool}

/-- A call of the authentication is one event, whose reply leads to the rest. -/
lemma steps_get_bind {α : Type} {service endPoint : String} {queryData : List (String × String)} {msTimeout : Nat}
    {bearerToken : String} {previous : Option Json.Object} {a : α}
    {f : HTTPStatus × Option Json.Object → AuthSteps.Steps α} :
    Trace (AuthSteps.ofPortal (OpenAPIRequest.get service endPoint queryData msTimeout bearerToken previous) >>= f)
        tr a ↔
      ∃ answer rest, tr =
          ⟨.portal (.call ⟨.get, service, endPoint, queryData, [], msTimeout, bearerToken⟩), answer⟩ :: rest ∧
        Trace (f (OpenAPIRequest.lenient previous answer)) rest a := trace_ask

/-- So is a reading of the clock. -/
lemma steps_clock_bind {α : Type} {f : Int → AuthSteps.Steps α} {a : α} :
    Trace (AuthSteps.ofPortal Portal.clock >>= f) tr a ↔
      ∃ t rest, tr = ⟨.portal .now, t⟩ :: rest ∧ Trace (f t) rest a := trace_ask

/-- An object which came with `OK` was the reply. -/
lemma lenient_ok {answer : Option Reply} {r : Json.Object}
    (eq : OpenAPIRequest.lenient none answer = (HTTPStatus.ok, some r)) :
    answer = some ⟨HTTPStatus.ok, .json (.obj r)⟩ := by
  obtain ⟨⟨status, body⟩, rfl, parsed, eq'⟩ := OpenAPIRequest.lenient_some (congrArg Prod.snd eq)
  rw [eq'] at eq
  obtain rfl : status = HTTPStatus.ok := congrArg Prod.fst eq
  obtain rfl : body = .json (.obj r) := parsed
  rfl

/-- A token is accepted when the security service has accepted it. -/
lemma retrieveTokenInformation_accepts
    (h : Trace (AuthSteps.retrieveTokenInformation conv token info sub) tr (true, info')) :
    Accepted conv (AuthClient.validateCall sub token) info.uInfo info'.uInfo tr := by
  obtain ⟨answer, rest, rfl, after⟩ := steps_get_bind.mp h
  split at after
  rename_i status response eq
  split at after
  case isTrue => cases (trace_pure.mp after).2
  case isFalse =>
    split at after
    case isFalse => cases (trace_pure.mp after).2
    case isTrue ok =>
      subst ok
      split at after
      case h_1 => cases (trace_pure.mp after).2
      case h_2 r =>
        split at after
        case isFalse => cases (trace_pure.mp after).2
        case isTrue has =>
          obtain rfl := lenient_ok eq
          obtain ⟨has1, has2⟩ := Bool.and_eq_true_iff.mp has
          refine ⟨r, .head _, has1, has2, ?_⟩
          obtain ⟨t, rest', rfl, stores⟩ := steps_clock_bind.mp after
          split at stores
          case isTrue => cases (trace_pure.mp stores).2
          case isFalse =>
            obtain ⟨u, rest, rfl, returns⟩ := trace_perform_bind.mp stores
            cases (trace_pure.mp returns).2
            rfl

/-- A key is accepted when the security service has accepted it. -/
lemma retrieveApiKeyInformation_accepts
    (h : Trace (AuthSteps.retrieveApiKeyInformation conv key info) tr (true, info')) :
    Accepted conv (validateKeyCall key) info.uInfo info'.uInfo tr := by
  obtain ⟨answer, rest, rfl, after⟩ := steps_get_bind.mp h
  split at after
  rename_i status response eq
  split at after
  case isTrue => cases (trace_pure.mp after).2
  case isFalse =>
    split at after
    case isFalse => cases (trace_pure.mp after).2
    case isTrue ok =>
      subst ok
      split at after
      case h_1 => cases (trace_pure.mp after).2
      case h_2 r =>
        split at after
        case isFalse => cases (trace_pure.mp after).2
        case isTrue has =>
          obtain rfl := lenient_ok eq
          obtain ⟨has, _⟩ := Bool.and_eq_true_iff.mp has
          obtain ⟨has1, has2⟩ := Bool.and_eq_true_iff.mp has
          refine ⟨r, .head _, has1, has2, ?_⟩
          split at after
          case h_2 => cases (trace_pure.mp after).2
          case h_1 =>
            obtain ⟨u, rest, rfl, returns⟩ := trace_perform_bind.mp after
            cases (trace_pure.mp returns).2
            rfl

/-- A call which came later has accepted a credential before as well. -/
lemma Accepted.later {call : Call} {before user : UserInfoAndPolicy} {rest : List AuthSteps.Event}
    (accepted : Accepted conv call before user rest) (sub : rest ⊆ tr) : Accepted conv call before user tr := by
  obtain ⟨r, mem, has1, has2, eq⟩ := accepted
  exact ⟨r, sub mem, has1, has2, eq⟩

variable {service : Service} {request : HTTPServerRequest} {internal : Bool}

/-- The user of a token which is accepted is vouched for. -/
lemma isAuthorized_vouches {user : UserInfoAndPolicy}
    (h : Trace (AuthSteps.isAuthorized service.conv (tokenOf service request) { uInfo := initialUser service } sub) tr
      (true, info')) (eq : info'.uInfo = user) : Vouched service internal sub request tr user := by
  subst eq
  obtain ⟨cached, rest, rfl, after⟩ := trace_perform_bind.mp h
  cases cached with
  | none => exact .token ((retrieveTokenInformation_accepts after).later (List.subset_cons_self ..))
  | some user =>
    dsimp only at after
    obtain ⟨t, rest', rfl, judges⟩ := steps_clock_bind.mp after
    split at judges
    case isTrue =>
      obtain ⟨u, rest, rfl, returns⟩ := trace_perform_bind.mp judges
      cases (trace_pure.mp returns).2
    case isFalse =>
      cases (trace_pure.mp judges).2
      exact .cachedToken (.head _)

/-- So is that of a key. -/
lemma isValidApiKey_vouches {user : UserInfoAndPolicy} (sent : request.apiKey = some key)
    (h : Trace (AuthSteps.isValidApiKey service.conv key { uInfo := initialUser service }) tr (true, info'))
    (eq : info'.uInfo = user) : Vouched service internal sub request tr user := by
  subst eq
  obtain ⟨cached, rest, rfl, after⟩ := trace_perform_bind.mp h
  cases cached with
  | none => exact .key sent ((retrieveApiKeyInformation_accepts after).later (List.subset_cons_self ..))
  | some entry =>
    dsimp only at after
    obtain ⟨t, rest', rfl, judges⟩ := steps_clock_bind.mp after
    split at judges
    case isTrue =>
      cases (trace_pure.mp judges).2
      exact .cachedKey sent (.head _)
    case isFalse =>
      obtain ⟨u, rest, rfl, retrieves⟩ := trace_perform_bind.mp judges
      refine .key sent ((retrieveApiKeyInformation_accepts retrieves).later ?_)
      exact fun e mem => .tail _ (.tail _ (.tail _ mem))

/-- A request which is authorized has a user who is vouched for. -/
lemma authenticate_vouches {h : RESTAPIHandler} {tr : List Event} (always : h.alwaysAuthorize = true)
    (run : Trace (authenticate service h request) tr (true, info')) :
    ∃ steps : List AuthSteps.Event, tr = steps.map authenticating ∧
      Vouched service h.internal h.subOnlyService request steps info'.uInfo := by
  rw [authenticate, if_pos always, isAuthorized] at run
  split at run
  case isTrue instance_ =>
    obtain ⟨rfl, eq⟩ := trace_pure.mp run
    obtain ⟨known, eq⟩ := Prod.mk_inj.mp eq
    rw [eq]
    exact ⟨[], rfl, .service (Bool.and_eq_true_iff.mp instance_).1 (of_decide_eq_true known.symm)⟩
  case isFalse =>
    split at run
    case isTrue key =>
      obtain ⟨key, sent⟩ := Option.isSome_iff_exists.mp (Bool.and_eq_true_iff.mp key).2
      rw [sent] at run
      obtain ⟨steps, runs, rfl⟩ := trace_ofSteps.mp run
      exact ⟨steps, rfl, isValidApiKey_vouches sent runs rfl⟩
    case isFalse =>
      obtain ⟨steps, runs, rfl⟩ := trace_ofSteps.mp run
      exact ⟨steps, rfl, isAuthorized_vouches runs rfl⟩

/-! ### What is asked on the way -/

/-- A step of the authentication client which asks other services at most this. -/
def Consults (call : Call) (e : AuthSteps.Event) : Prop := ∀ c, e.1 = .portal (.call c) → c = call

/-- A call which is consulted. -/
lemma asks_get {call : Call} {service endPoint : String} {queryData : List (String × String)} {msTimeout : Nat}
    {bearerToken : String} {previous : Option Json.Object}
    (same : call = ⟨.get, service, endPoint, queryData, [], msTimeout, bearerToken⟩) : Asks (Consults call)
      (AuthSteps.ofPortal (OpenAPIRequest.get service endPoint queryData msTimeout bearerToken previous)) := by
  intro tr r h e mem
  obtain ⟨calls, runs, rfl⟩ := trace_ofPortal.mp h
  obtain ⟨answer, rest, rfl, returns⟩ := trace_ask.mp runs
  obtain ⟨rfl, _⟩ := trace_ret.mp returns
  obtain rfl := List.mem_singleton.mp mem
  intro c eq
  cases eq
  exact same.symm

/-- The clock may be read. -/
lemma asks_clock {call : Call} : Asks (Consults call) (AuthSteps.ofPortal Portal.clock) := by
  intro tr r h e mem
  obtain ⟨t, rest, rfl, returns⟩ := trace_ask.mp h
  obtain ⟨rfl, _⟩ := trace_ret.mp returns
  obtain rfl := List.mem_singleton.mp mem
  exact fun c eq => by cases eq

/-- To check a token, only its own validation is asked for. -/
lemma retrieveTokenInformation_consults : Asks (Consults (AuthClient.validateCall sub token))
    (AuthSteps.retrieveTokenInformation conv token info sub) := by
  refine .bind (asks_get rfl) fun r => .ite (.pure _) (.ite ?_ (.pure _))
  split
  case h_1 => exact .pure _
  case h_2 =>
    refine .ite (.bind asks_clock fun t => .ite (.pure _) ?_) (.pure _)
    exact .perform_bind (fun _ c eq => by cases eq) fun _ => .pure _

/-- To check a key, only its own validation is asked for. -/
lemma retrieveApiKeyInformation_consults :
    Asks (Consults (validateKeyCall key)) (AuthSteps.retrieveApiKeyInformation conv key info) := by
  refine .bind (asks_get rfl) fun r => .ite (.pure _) (.ite ?_ (.pure _))
  split
  case h_1 => exact .pure _
  case h_2 =>
    refine .ite ?_ (.pure _)
    split
    case h_1 => exact .perform_bind (fun _ c eq => by cases eq) fun _ => .pure _
    case h_2 => exact .pure _

/-- So it is where the token may be in the cache. -/
lemma isAuthorized_consults :
    Asks (Consults (AuthClient.validateCall sub token)) (AuthSteps.isAuthorized conv token info sub) := by
  refine .perform_bind (fun _ c eq => by cases eq) fun cached => ?_
  cases cached with
  | none => exact retrieveTokenInformation_consults
  | some user =>
    refine .bind asks_clock fun t => .ite ?_ (.pure _)
    exact .perform_bind (fun _ c eq => by cases eq) fun _ => .pure _

/-- So it is where the key may be in the cache. -/
lemma isValidApiKey_consults : Asks (Consults (validateKeyCall key)) (AuthSteps.isValidApiKey conv key info) := by
  refine .perform_bind (fun _ c eq => by cases eq) fun cached => ?_
  cases cached with
  | none => exact retrieveApiKeyInformation_consults
  | some entry =>
    refine .bind asks_clock fun t => .ite (.pure _) ?_
    exact .perform_bind (fun _ c eq => by cases eq) fun _ => retrieveApiKeyInformation_consults

/-- Before a function of a handler is called, the rate limiter is asked, and the authentication client, which asks the
security service about the credential of the request. -/
def Introductory (service : Service) (sub : Bool) (request : HTTPServerRequest) (e : Event) : Prop :=
  Preliminary e ∧ ∀ c, e.1 = .auth (.portal (.call c)) →
    c = AuthClient.validateCall sub (tokenOf service request) ∨
      ∃ key, request.apiKey = some key ∧ c = validateKeyCall key

/-- What is consulted for the credential of the request is introductory. -/
lemma asks_introductory {α : Type} {p : AuthSteps.Steps α} {call : Call} (asks : Asks (Consults call) p)
    (own : call = AuthClient.validateCall sub (tokenOf service request) ∨
      ∃ key, request.apiKey = some key ∧ call = validateKeyCall key) :
    Asks (Introductory service sub request) (ofSteps p) := by
  intro tr r h e mem
  obtain ⟨steps, runs, rfl⟩ := trace_ofSteps.mp h
  obtain ⟨step, here, rfl⟩ := List.mem_map.mp mem
  refine ⟨trivial, fun c eq => ?_⟩
  have consulted := asks steps r runs step here c (Op.auth.inj eq)
  rw [consulted]
  exact own

/-- To authenticate a request, only its own credential is asked about. -/
lemma authenticate_introductory {h : RESTAPIHandler} :
    Asks (Introductory service h.subOnlyService request) (authenticate service h request) := by
  refine .ite ?_ (.pure _)
  rw [isAuthorized]
  refine .ite (.pure _) ?_
  split
  case isTrue sent =>
    obtain ⟨key, sent⟩ := Option.isSome_iff_exists.mp (Bool.and_eq_true_iff.mp sent).2
    rw [sent]
    exact asks_introductory isValidApiKey_consults (.inr ⟨key, sent, rfl⟩)
  case isFalse => exact asks_introductory isAuthorized_consults (.inl rfl)

/-- To limit the rate, nothing is asked of another service. -/
lemma isRateLimited_introductory {h : RESTAPIHandler} :
    Asks (Introductory service h.subOnlyService request) (isRateLimited service h request).run := by
  refine .ite ?_ (.attempt_pure _)
  split
  case h_1 => exact .attempt_throw _
  case h_2 => exact .attempt_lift (.perform_bind (fun _ => ⟨trivial, fun c eq => by cases eq⟩) fun _ => .pure _)

end Vouching

/-! ## How a request ends -/

section Ends

variable {service : Service} {h : RESTAPIHandler} {request : HTTPServerRequest} {tr : List Event}

/-- How the authentication of a request ends: it fails, or the request is answered, or it is admitted for a user. -/
inductive Admission (service : Service) (h : RESTAPIHandler) (request : HTTPServerRequest) :
    List Event → Except Thrown (Option Session) → Prop where
  | failed {tr : List Event} : (∀ e ∈ tr, Introductory service h.subOnlyService request e) →
    Admission service h request tr (.error .poco)
  | answered {tr : List Event} (answer : HandlerAnswer) :
    (∀ e ∈ tr, Introductory service h.subOnlyService request e) →
    Admission service h request (tr ++ [respondEvent answer]) (.ok none)
  | admitted {pre : List Event} {steps : List AuthSteps.Event} {session : Session} :
    (∀ e ∈ pre ++ steps.map authenticating, Introductory service h.subOnlyService request e) →
    request.method ≠ "OPTIONS" → request.method ∈ h.methods →
    Vouched service h.internal h.subOnlyService request steps session.user →
    Admission service h request (pre ++ steps.map authenticating) (.ok (some session))

/-- A request which is refused is answered once. -/
lemma Admission.of_answer {answer : HandlerAnswer} {pre : List Event} {r : Except Thrown (Option Session)}
    (quiet : ∀ e ∈ pre, Introductory service h.subOnlyService request e)
    (ends : Trace (do (liftM (respond answer) : Doing Unit); pure none : Doing (Option Session)).run tr r) :
    Admission service h request (pre ++ tr) r := by
  obtain ⟨tr1, tr2, u, rfl, answers, returns⟩ := trace_attempt_lift_bind.mp ends
  obtain rfl := trace_respond.mp answers
  obtain ⟨rfl, rfl⟩ := trace_attempt_pure.mp returns
  exact .answered answer quiet

/-- The admission ends with a session, with an answer or with an exception. -/
lemma admission_ends (always : h.alwaysAuthorize = true) {r : Except Thrown (Option Session)}
    (asks : Trace (admission service h request).run tr r) : Admission service h request tr r := by
  rw [admission] at asks
  rcases trace_attempt_bind.mp asks with ⟨e, rfl, h1⟩ | ⟨tr1, tr2, body, rfl, h1, h2⟩
  · obtain ⟨rfl, failed⟩ := trace_attempt_except.mp h1
    rw [parseBody_error failed.symm]
    exact .failed (List.forall_mem_nil _)
  obtain ⟨rfl, _⟩ := trace_attempt_except.mp h1
  rcases trace_attempt_bind.mp h2 with ⟨e, rfl, h3⟩ | ⟨tr3, tr4, limited, rfl, h3, h4⟩
  · rw [isRateLimited_error h3]
    exact .failed (isRateLimited_introductory _ _ h3)
  have quiet := isRateLimited_introductory _ _ h3
  rw [List.nil_append]
  split at h4
  case isTrue => exact .of_answer quiet h4
  split at h4
  case isTrue => exact .of_answer quiet h4
  case isFalse other =>
    split at h4
    case isTrue => exact .of_answer quiet h4
    case isFalse served =>
      obtain ⟨tr5, tr6, authorization, rfl, h5, h6⟩ := trace_attempt_lift_bind.mp h4
      have quiet := List.forall_mem_append.mpr ⟨quiet, authenticate_introductory _ _ h5⟩
      rw [← List.append_assoc]
      split at h6
      case isTrue allowed =>
        obtain ⟨rfl, rfl⟩ := trace_attempt_pure.mp h6
        rw [List.append_nil]
        obtain ⟨accepted, info⟩ := authorization
        obtain rfl : accepted = true := allowed
        obtain ⟨steps, rfl, vouched⟩ := authenticate_vouches always h5
        exact .admitted quiet other (not_not.mp served) vouched
      case isFalse =>
        obtain ⟨e, eq⟩ := refuse_eq request authorization.2
        rw [eq] at h6
        exact .of_answer quiet h6

/-- What the parameters of a request throw. -/
lemma parseParameters_error {uris : UriParser} {uri : String} {e : Thrown}
    (failed : parseParameters uris uri = .error e) :
    e = .poco ∨ e = .outOfRange ∧ Overflows uris uri := by
  rcases parseParameters_spec uris uri with ⟨_, eq, _, _⟩ | ⟨eq, _⟩ | ⟨eq, overflows⟩
  · rw [eq] at failed
    cases failed
  · rw [eq] at failed
    cases failed
    exact .inl rfl
  · rw [eq] at failed
    cases failed
    exact .inr ⟨rfl, overflows⟩

/-- How a request ends before a function of the handler is called, or that it is. -/
lemma route_ends (always : h.alwaysAuthorize = true) {r : Except Thrown (Option Context)}
    (routes : Trace (route service h request).run tr r) :
    ((∀ e ∈ tr, Introductory service h.subOnlyService request e) ∧
        (r = .error .poco ∨ r = .error .outOfRange ∧ Overflows service.uris request.uri)) ∨
      (∃ pre answer, (∀ e ∈ pre, Introductory service h.subOnlyService request e) ∧
        tr = pre ++ [respondEvent answer] ∧ r = .ok none) ∨
      ∃ session ctx, Admission service h request tr (.ok (some session)) ∧ ctx.user = session.user ∧
        r = .ok (some ctx) := by
  rcases trace_attempt_bind.mp routes with ⟨e, rfl, admits⟩ | ⟨tr1, tr2, admission, rfl, admits, reads⟩
  · cases admission_ends always admits with
    | failed quiet => exact .inl ⟨quiet, .inl rfl⟩
  · have admitted := admission_ends always admits
    cases admission with
    | none =>
      obtain ⟨rfl, rfl⟩ := trace_attempt_pure.mp reads
      rw [List.append_nil]
      cases admitted with
      | answered answer quiet => exact .inr (.inl ⟨_, answer, quiet, rfl, rfl⟩)
    | some session =>
      dsimp only at reads
      rw [if_pos (show roleIsAuthorized request.uri request.method = true from rfl)] at reads
      rcases trace_attempt_bind.mp reads with ⟨e, rfl, parses⟩ | ⟨tr3, tr4, read, rfl, parses, returns⟩
      · obtain ⟨rfl, failed⟩ := trace_attempt_except.mp parses
        rw [List.append_nil]
        cases admitted with
        | admitted quiet _ _ _ =>
          exact .inl ⟨quiet, (parseParameters_error failed.symm).imp (congrArg _) (.imp_left (congrArg _))⟩
      · obtain ⟨rfl, _⟩ := trace_attempt_except.mp parses
        obtain ⟨rfl, rfl⟩ := trace_attempt_pure.mp returns
        rw [List.append_nil, List.append_nil]
        exact .inr (.inr ⟨session, contextOf request session read, admitted, rfl, rfl⟩)

end Ends

/-! ## Handlers which answer once -/

section Answers

variable {P : List Portal.Event → Portal.Event → Prop} {service : Service} {h : RESTAPIHandler}
  {request : HTTPServerRequest} {tr : List Event} {r : Except Thrown Unit}

/-- A function which answers once, after it has asked other services what satisfies `P`. -/
def AnswersAfter (P : List Portal.Event → Portal.Event → Prop) (p : Doing Unit) : Prop :=
  ∀ tr r, Trace p.run tr r → r = .ok () ∧
    ∃ calls answer, tr = calls.map asked ++ [respondEvent answer] ∧ Follows P [] calls

/-- A part of a handler which starts with a program of the portal. -/
lemma trace_portal_bind {α : Type} {p : Portal α} {f : α → Doing Unit} :
    Trace ((liftM (ofSteps (AuthSteps.ofPortal p)) : Doing α) >>= f).run tr r ↔
      ∃ calls a post, tr = calls.map asked ++ post ∧ Trace p calls a ∧ Trace (f a).run post r := by
  refine ⟨?_, ?_⟩
  · intro h
    obtain ⟨tr1, tr2, a, rfl, asks, rest⟩ := trace_attempt_lift_bind.mp h
    obtain ⟨calls, runs, rfl⟩ := trace_portal.mp asks
    exact ⟨calls, a, tr2, rfl, runs, rest⟩
  · intro h
    obtain ⟨calls, a, post, rfl, runs, rest⟩ := h
    exact trace_attempt_lift_bind.mpr ⟨_, post, a, rfl, trace_portal.mpr ⟨calls, runs, rfl⟩, rest⟩

/-- Steps which give an answer are answered with it. -/
lemma answering_answersAfter {p : Portal HandlerAnswer} (asks : AsksAfter P [] p) : AnswersAfter P (answering p) := by
  intro tr r h
  obtain ⟨calls, answer, post, rfl, runs, rest⟩ := trace_portal_bind.mp h
  obtain ⟨rfl, rfl⟩ := trace_attempt_respond.mp rest
  exact ⟨rfl, calls, answer, rfl, asks calls answer runs⟩

/-- An object which is returned is asked for by the steps alone. -/
lemma asks_returned {steps : Handling Json.Object} (asks : AsksAfter P [] steps.run) :
    AsksAfter P [] steps.returned := by
  refine asks.bind fun tr r _ => ?_
  cases r with
  | ok o => exact .pure _
  | error sent => exact .pure _

/-- So is an answer. -/
lemma asks_answer {steps : Handling Unit} {method : String} (asks : AsksAfter P [] steps.run) :
    AsksAfter P [] (steps.answer method) := by
  refine asks.bind fun tr r _ => ?_
  cases r with
  | ok u => exact .pure _
  | error sent => exact .pure _

/-- How a request ends whose handler answers once, after it has asked other services what satisfies `P`. -/
inductive Served (service : Service) (internal sub : Bool) (request : HTTPServerRequest)
    (P : UserInfoAndPolicy → List Portal.Event → Portal.Event → Prop) : List Event → Except Thrown Unit → Prop where
  /-- before a function of the handler is called -/
  | answered {pre : List Event} (answer : HandlerAnswer) :
    (∀ e ∈ pre, Introductory service sub request e) →
    Served service internal sub request P (pre ++ [respondEvent answer]) (.ok ())
  /-- a number of the query is too large -/
  | thrown {tr : List Event} : (∀ e ∈ tr, Introductory service sub request e) →
    Overflows service.uris request.uri → Served service internal sub request P tr (.error .outOfRange)
  | served {pre : List Event} {steps : List AuthSteps.Event} {user : UserInfoAndPolicy} {calls : List Portal.Event}
    (answer : HandlerAnswer) :
    (∀ e ∈ pre ++ steps.map authenticating, Introductory service sub request e) →
    Vouched service internal sub request steps user → Follows (P user) [] calls →
    Served service internal sub request P
      (pre ++ steps.map authenticating ++ (calls.map asked ++ [respondEvent answer])) (.ok ())

/-- A request which is handled is served: it is admitted first, and then asks for its own user. -/
lemma handleRequest_served {P : UserInfoAndPolicy → List Portal.Event → Portal.Event → Prop}
    (always : h.alwaysAuthorize = true)
    (answers : ∀ ctx, request.method ≠ "OPTIONS" → request.method ∈ h.methods →
      AnswersAfter (P ctx.user) (call h request ctx))
    (handles : Trace (handleRequest service h request).run tr r) :
    Served service h.internal h.subOnlyService request P tr r := by
  rcases handleRequest_inv handles with ⟨tr1, processes, rfl, rfl⟩ | ⟨processes, other⟩
  · rcases trace_attempt_bind.mp processes with ⟨e, eq, routes⟩ | ⟨tr2, tr3, ctx, rfl, routes, calls⟩
    · rcases route_ends always routes with ⟨quiet, _⟩ | ⟨_, _, _, _, eq⟩ | ⟨_, _, _, _, eq⟩
      · exact .answered _ quiet
      · cases eq
      · cases eq
    · rcases route_ends always routes with ⟨_, eq | ⟨eq, _⟩⟩ | ⟨_, _, _, _, eq⟩ | ⟨session, ctx, admitted, same, eq⟩
      · cases eq
      · cases eq
      · cases eq
        cases (trace_attempt_pure.mp calls).2
      · cases eq
        -- a handler which answers once does not throw
        cases admitted with
        | admitted _ other served _ => cases (answers ctx other served _ _ calls).1
  · rcases trace_attempt_bind.mp processes with ⟨e, rfl, routes⟩ | ⟨tr2, tr3, ctx, rfl, routes, calls⟩
    · rcases route_ends always routes with ⟨quiet, eq | ⟨eq, overflows⟩⟩ | ⟨_, _, _, _, eq⟩ | ⟨_, _, _, _, eq⟩
      · cases eq
        exact absurd rfl other
      · cases eq
        exact .thrown quiet overflows
      · cases eq
      · cases eq
    · rcases route_ends always routes with
        ⟨_, eq | ⟨eq, _⟩⟩ | ⟨pre, answer, quiet, rfl, eq⟩ | ⟨session, ctx, admitted, same, eq⟩
      · cases eq
      · cases eq
      · cases eq
        obtain ⟨rfl, rfl⟩ := trace_attempt_pure.mp calls
        rw [List.append_nil]
        exact .answered answer quiet
      · cases eq
        cases admitted with
        | admitted quiet other served vouched =>
          obtain ⟨rfl, asked, answer, rfl, follows⟩ := answers ctx other served _ _ calls
          rw [same] at follows
          exact .served answer quiet vouched follows

end Answers

end UserPortal.RequestHandler
