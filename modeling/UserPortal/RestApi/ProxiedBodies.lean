import UserPortal.RestApi.ProxyHandlers

/-!
# The body of a proxied request

The framework parses the body of a request which says how long it is, before the proxy reads the same
stream. `handleRequest_forwards_iff`: the proxy sends the body on exactly when the request does not say how
long it is.
-/

namespace UserPortal.RequestHandler
open Interaction Program

/-- The request which an event sends to another service. -/
def requestOf : Event → Option ProxyRequest
  | ⟨.sendRequest _ proxied, _⟩ => some proxied
  | _ => none

/-- The requests which are sent to another service. -/
def proxiedRequests (tr : List Event) : List ProxyRequest := tr.filterMap requestOf

/-- What is sent on has a body. -/
def Forwards (tr : List Event) (body : Json.Object) : Prop :=
  ∀ proxied ∈ proxiedRequests tr, proxied.body = some body

section Bodies

variable {service : Service} {h : RESTAPIHandler} {request : HTTPServerRequest} {stream : Body}
  {tr : List Event} {r : Except Thrown Unit} {body : Json.Object}

lemma proxiedRequests_of_plain (plain : ∀ e ∈ tr, Plain e) : proxiedRequests tr = [] := by
  refine List.filterMap_eq_nil_iff.mpr ?_
  rintro ⟨op, x⟩ mem
  rcases plain _ mem with preliminary | ⟨answer, eq⟩
  · cases op with
    | isRateLimited => rfl
    | auth => rfl
    | _ => cases preliminary
  · cases eq
    rfl

/-- A request which is sent on has the body which is left in the stream. -/
lemma Proxies.body_eq (proxies : Proxies service request stream tr) :
    ∀ proxied ∈ proxiedRequests tr,
      proxied.body = if request.method = "DELETE" then none else stream.parse := by
  have one : ∀ svc, ∀ proxied ∈ [proxyRequest service request stream svc],
      proxied.body = if request.method = "DELETE" then none else stream.parse := by
    rintro svc proxied (_ | ⟨_, ⟨⟩⟩)
    rfl
  cases proxies with
  | noDestination => exact nofun
  | notSent _ svc => exact one svc
  | notDeleted _ svc => exact one svc
  | notReceived _ svc => exact one svc
  | received _ svc => exact one svc

/-- What is left of the stream of a JSON request. -/
lemma stream_of_parseBody {parsedBody : Option Json.Object}
    (json : "application/json".toList <:+: request.contentType.toList)
    (parsed : parseBody request = .ok (parsedBody, stream)) :
    stream = if 0 < request.contentLength then consumed else request.stream := by
  rw [parseBody] at parsed
  by_cases length : 0 < request.contentLength
  · rw [if_pos ⟨length, json⟩] at parsed
    rw [if_pos length]
    split at parsed
    case h_1 =>
      cases parsed
      rfl
    case h_2 => cases parsed
  · rw [if_neg fun both => length both.1] at parsed
    cases parsed
    rw [if_neg length]

/-- A JSON body is sent on exactly when the request does not say how long it is. -/
theorem handleRequest_forwards_iff (uses : UsesProxy service h)
    (handles : Trace (handleRequest service h request).run tr r)
    (method : request.method = "POST" ∨ request.method = "PUT")
    (json : "application/json".toList <:+: request.contentType.toList)
    (holds : request.stream = .json (.obj body))
    (sentOn : proxiedRequests tr ≠ []) :
    Forwards tr body ↔ request.contentLength ≤ 0 := by
  have notDelete : request.method ≠ "DELETE" := by
    rcases method with eq | eq
    · rw [eq]
      decide
    · rw [eq]
      decide
  obtain ⟨pre, post, parsedBody, stream, parsed, quiet, proxies, rfl, rfl⟩ :=
    proxied_inv uses handles fun plain => sentOn (proxiedRequests_of_plain plain)
  have sent : proxiedRequests (pre ++ post) = proxiedRequests post := by
    rw [proxiedRequests, List.filterMap_append]
    show proxiedRequests pre ++ proxiedRequests post = _
    rw [proxiedRequests_of_plain (plain_of_preliminary quiet), List.nil_append]
  have bodies := proxies.body_eq
  rw [if_neg notDelete, stream_of_parseBody json parsed] at bodies
  rw [Forwards]
  rw [sent] at sentOn ⊢
  refine ⟨?_, ?_⟩
  · intro forwards
    obtain ⟨proxied, mem⟩ := List.exists_mem_of_ne_nil _ sentOn
    have eq := bodies proxied mem
    rw [forwards proxied mem] at eq
    by_contra length
    rw [if_pos (Int.not_le.mp length)] at eq
    cases eq
  · intro noLength proxied mem
    rw [bodies proxied mem, if_neg (Int.not_lt.mpr noLength), holds]
    rfl

end Bodies

/-! ### A sign-in with and without a length -/

namespace SignIn

/-- The request of a client which says how long its body is. -/
def lengthRequest : HTTPServerRequest := { request with contentLength := 49 }

/-- Without a length, the credentials are sent on. -/
theorem chunked_forwards : Forwards (signedIn (some credentials)) credentials := by
  have handles : Trace (handleRequest .plain (oauth2Handler .plain false) request).run
      (signedIn (some credentials)) (.ok ()) := trace_iff_replay.mpr (by rfl)
  exact (handleRequest_forwards_iff (.oauth2 false) handles (.inl rfl) List.infix_rfl rfl nofun).mpr
    (by decide)

/-- With a length, a request without a body is sent on. -/
theorem length_notForwards :
    ¬ ∀ (service : Service) (h : RESTAPIHandler) (request : HTTPServerRequest) (body : Json.Object)
      (tr : List Event) (r : Except Thrown Unit), UsesProxy service h →
      Trace (handleRequest service h request).run tr r →
      request.method = "POST" ∨ request.method = "PUT" →
      "application/json".toList <:+: request.contentType.toList →
      request.stream = .json (.obj body) → proxiedRequests tr ≠ [] → Forwards tr body := by
  intro all
  have handles : Trace (handleRequest .plain (oauth2Handler .plain false) lengthRequest).run
      (signedIn none) (.ok ()) := trace_iff_replay.mpr (by rfl)
  have forwards := all _ _ _ credentials _ _ (.oauth2 false) handles (.inl rfl) List.infix_rfl rfl nofun
  cases forwards _ (List.mem_singleton_self _)

end SignIn

end UserPortal.RequestHandler
