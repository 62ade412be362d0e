import UserPortal.RestApi.ProxyHandlers

/-!
# Request lines

`handleRequest` catches the exceptions of Poco. `handleRequest_answers_iff` says for which requests it
returns with one answer: `std::stoull` throws one of the standard library at a number of the query which
does not fit into 64 bits, and a function of a handler which does nothing answers nothing.
-/

namespace UserPortal.RequestHandler
open Interaction Program

/-- Whatever its environment does, a program returns and has answered once. -/
def Answers (p : Doing Unit) : Prop :=
  ∀ tr r, Trace p.run tr r → r = .ok () ∧ ∃ answer, responses tr = [answer]

/-- A function of a handler answers once, or throws an exception of Poco and has not answered. -/
def Completes (p : Doing Unit) : Prop :=
  ∀ tr r, Trace p.run tr r →
    (r = .ok () ∧ ∃ answer, responses tr = [answer]) ∨ (r = .error .poco ∧ responses tr = [])

/-! ## The functions of the handlers -/

/-- A function which answers what a program of the portal returns completes. -/
lemma completes_answering (p : Portal HandlerAnswer) : Completes (answering p) := by
  intro tr r answers
  obtain ⟨tr1, tr2, answer, rfl, asks, responds⟩ := trace_attempt_lift_bind.mp answers
  obtain ⟨rfl, rfl⟩ := trace_attempt_respond.mp responds
  refine .inl ⟨rfl, answer, ?_⟩
  rw [responses_append, responses_of_preliminary (asks_ofSteps _ _ _ asks)]
  rfl

/-- `RESTAPI_claim_handler`, whose `DoGet` does nothing although `GET` is one of its methods. -/
def claimHandler (internal : Bool) (doPut : Context → Doing Unit) : RESTAPIHandler where
  methods := ["GET", "PUT", "OPTIONS"]
  internal := internal
  doPut := doPut

/-- A `GET` which reaches the claim handler is not answered. -/
lemma not_completes_claimHandler {internal : Bool} {doPut : Context → Doing Unit}
    {request : HTTPServerRequest} {ctx : Context} (get : request.method = "GET") :
    ¬ Completes (call (claimHandler internal doPut) request ctx) := by
  intro completes
  have nothing : Trace (call (claimHandler internal doPut) request ctx).run [] (.ok ()) := by
    rw [call, if_pos get]
    exact .ret _
  rcases completes _ _ nothing with ⟨_, answer, once⟩ | ⟨eq, _⟩
  · cases once
  · cases eq

/-! ## The requests -/

section Lines

variable {service : Service} {h : RESTAPIHandler} {request : HTTPServerRequest} {tr : List Event}
  {session : Session} {r : Except Thrown Unit}

/-- What leaves the `try` block and is not an exception of Poco leaves `handleRequest`. -/
lemma handleRequest_of_process (processes : Trace (process service h request).run tr r)
    (other : r ≠ .error .poco) : Trace (handleRequest service h request).run tr r := by
  refine trace_bind.mpr ⟨tr, [], r, (List.append_nil tr).symm, processes, ?_⟩
  cases r with
  | ok u => exact .ret _
  | error e =>
    cases e with
    | poco => exact absurd rfl other
    | invalidArgument => exact .ret _
    | outOfRange => exact .ret _

/-- An exception of Poco is answered. -/
lemma handleRequest_of_failed (processes : Trace (process service h request).run tr (.error .poco)) :
    Trace (handleRequest service h request).run
      (tr ++ [respondEvent (HandlerAnswer.badRequest request.method Errors.internalError "")]) (.ok ()) := by
  refine trace_bind.mpr ⟨tr, _, .error .poco, rfl, processes, ?_⟩
  exact trace_bind.mpr ⟨_, [], (), (List.append_nil _).symm, trace_respond.mpr rfl, .ret _⟩

/-- What a function of the handler does is done by the `try` block. -/
lemma process_of_call {pre post : List Event} {read : QueryParameters × QueryBlock}
    (admits : Trace (admission service h request).run pre (.ok (some session)))
    (parsed : parseParameters service.uris request.uri = .ok read)
    (calls : Trace (call h request (contextOf request session read)).run post r) :
    Trace (process service h request).run (pre ++ post) r := by
  have routes := route_of_admitted admits
  rw [parsed] at routes
  exact trace_attempt_bind.mpr (.inr ⟨pre, post, _, rfl, routes, calls⟩)

/-- A number which is too large ends `handleRequest`. -/
lemma handleRequest_of_overflow (admits : Trace (admission service h request).run tr (.ok (some session)))
    (overflows : Overflows service.uris request.uri) :
    Trace (handleRequest service h request).run tr (.error .outOfRange) := by
  have routes := route_of_admitted admits
  rw [parseParameters_outOfRange_iff.mpr overflows] at routes
  exact handleRequest_of_process (trace_attempt_bind.mpr (.inl ⟨_, rfl, routes⟩)) nofun

/-- A request is always answered once, and what is read of its numbers is in range, exactly when, wherever
it is authenticated, no number of its query is too large and the function of the handler which is called
completes. -/
theorem handleRequest_answers_iff :
    (Answers (handleRequest service h request) ∧
        ∀ read, parseParameters service.uris request.uri = .ok read → read.2.Fits) ↔
      ∀ tr session, Trace (admission service h request).run tr (.ok (some session)) →
        ¬ Overflows service.uris request.uri ∧
          ∀ read, parseParameters service.uris request.uri = .ok read →
            Completes (call h request (contextOf request session read)) := by
  rw [and_iff_left (fun read parsed => fits_of_parsed parsed)]
  refine ⟨?_, ?_⟩
  · intro answers pre session admits
    refine ⟨fun overflows => ?_, fun read parsed post r calls => ?_⟩
    · cases (answers _ _ (handleRequest_of_overflow admits overflows)).1
    have quiet : responses pre = [] := by
      cases admission_inv admits with
      | admitted quiet _ => exact responses_of_preliminary quiet
    have processes := process_of_call admits parsed calls
    -- the handler answers for a call which ends with an exception of Poco, and only for such a one
    by_cases poco : r = .error .poco
    · subst poco
      obtain ⟨_, answer, once⟩ := answers _ _ (handleRequest_of_failed processes)
      rw [responses_append, responses_append, quiet, responses_respond, List.nil_append] at once
      exact .inr ⟨rfl, (List.append_eq_singleton_iff.mp once).elim And.left fun both => by cases both.2⟩
    · obtain ⟨rfl, answer, once⟩ := answers _ _ (handleRequest_of_process processes poco)
      rw [responses_append, quiet, List.nil_append] at once
      exact .inl ⟨rfl, answer, once⟩
  · -- the ways in which a request is handled
    intro lines tr r handles
    cases handleRequest_handles handles with
    | answered quiet answer =>
      refine ⟨rfl, answer, ?_⟩
      rw [responses_append, responses_of_preliminary quiet]
      rfl
    | thrown admits failed =>
      exact absurd (parseParameters_outOfRange_iff.mp failed) (lines _ _ admits).1
    | called admits parsed calls other =>
      cases admission_inv admits with
      | admitted quiet _ =>
        rcases (lines _ _ admits).2 _ parsed _ _ calls with ⟨rfl, answer, once⟩ | ⟨poco, _⟩
        · refine ⟨rfl, answer, ?_⟩
          rw [responses_append, responses_of_preliminary quiet, once]
          rfl
        · exact absurd poco other
    | failed admits parsed calls =>
      cases admission_inv admits with
      | admitted quiet _ =>
        rcases (lines _ _ admits).2 _ parsed _ _ calls with ⟨eq, _⟩ | ⟨_, none⟩
        · cases eq
        · refine ⟨rfl, HandlerAnswer.badRequest request.method Errors.internalError "", ?_⟩
          rw [responses_append, responses_append, responses_of_preliminary quiet, none]
          rfl

end Lines

/-! ### A number of twenty digits -/

namespace SignIn

/-- A limit of `2 ^ 64`. -/
def overflowRequest : HTTPServerRequest where
  method := "GET"
  uri := "/api/v1/oauth2?limit=18446744073709551616"

/-- The number ends `handleRequest` before anything is answered. -/
theorem overflow_throws :
    ¬ ∀ request, Answers (handleRequest .plain (oauth2Handler .plain false) request) := by
  intro all
  have handles : Trace (handleRequest .plain (oauth2Handler .plain false) overflowRequest).run
      [⟨.isRateLimited "/api/v1/oauth2" 1000 10, false⟩] (.error .outOfRange) :=
    trace_iff_replay.mpr (by rfl)
  cases (all overflowRequest _ _ handles).1

end SignIn

end UserPortal.RequestHandler
