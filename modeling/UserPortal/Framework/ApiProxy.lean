import UserPortal.Framework.RequestHandler

/-!
# The proxy

Port of `src/framework/API_Proxy.h`: a request is sent on to another service, and its answer is sent back.
The time which the other service has is left to the environment.

`apiProxy_inv`: the ways in which it ends.
-/

namespace UserPortal.RequestHandler
open Interaction Program

section Proxy

variable (service : Service) (request : HTTPServerRequest) (stream : Body)

/-- How the proxy names itself to the other service, unless the request has credentials. -/
def proxyHeaders (accessKey : String) : List (String × String) :=
  match request.authorization with
  | some authorization => [("Authorization", authorization)]
  | none => [("X-API-KEY", accessKey), ("X-INTERNAL-NAME", service.publicEndPoint)]

/-- Where a request is sent. -/
def proxyDestination (svc : MicroServices.MicroServiceMeta) (pathRewrite : String) : Except Thrown URI :=
  match service.uris.parse request.uri, service.uris.parse svc.privateEndPoint with
  | some source, some destination =>
    .ok { destination with path := pathRewrite, query := source.query }
  | _, _ => .error .poco

/-- The request which is sent: the body is read from the stream of the request. -/
def proxyRequest (svc : MicroServices.MicroServiceMeta) : ProxyRequest where
  method := request.method
  headers := proxyHeaders service request svc.accessKey
  body := if request.method = "DELETE" then none else stream.parse

/-- The response which was not received has the status with which it is constructed. -/
def defaultStatus : HTTPStatus := HTTPStatus.ok

/-- What is done for the first service; the loop over the services returns at its end. -/
def proxyTo (svc : MicroServices.MicroServiceMeta) (pathRewrite : String) : Doing Unit := do
  let destination ← (liftM (proxyDestination service request svc pathRewrite) : Doing URI)
  let sent ← (liftM (perform (Op.sendRequest destination (proxyRequest service request stream svc)) :
    Serving Bool) : Doing Bool)
  if sent then
    let received ← (liftM (perform Op.receiveResponse : Serving (Option Reply)) : Doing (Option Reply))
    if request.method = "DELETE" then
      match received with
      | none => throw .poco
      | some reply => respond { status := reply.status, document := none }
    else
      match received with
      | none => respond { status := defaultStatus, document := none }
      | some reply => respond { status := reply.status, document := reply.body.parse }
  else throw .poco

/-- The body of the `try` block. -/
def proxy (serviceType pathRewrite : String) : Doing Unit := do
  let services ← (liftM (perform (Op.getServices serviceType) :
    Serving (List MicroServices.MicroServiceMeta)) : Doing (List MicroServices.MicroServiceMeta))
  match services with
  | [] => return ()
  | svc :: _ => proxyTo service request stream svc pathRewrite

/-- `API_Proxy`: an exception of Poco is logged. -/
def apiProxy (serviceType pathRewrite : String) : Doing Unit :=
  ExceptT.mk do
    match ← (proxy service request stream serviceType pathRewrite).run with
    | .error .poco => return .ok ()
    | r => return r

end Proxy

/-! ## The ends of the proxy -/

/-- The services of a type are looked up. -/
abbrev servicesEvent (serviceType : String) (services : List MicroServices.MicroServiceMeta) : Event :=
  ⟨.getServices serviceType, services⟩

/-- A request is sent on, or not. -/
abbrev sendEvent (destination : URI) (request : ProxyRequest) (sent : Bool) : Event :=
  ⟨.sendRequest destination request, sent⟩

/-- A response is received, or not. -/
abbrev receiveEvent (reply : Option Reply) : Event := ⟨.receiveResponse, reply⟩

/-- What the proxy does. -/
inductive Proxies (service : Service) (request : HTTPServerRequest) (stream : Body) : List Event → Prop where
  | noDestination (serviceType : String) (services : List MicroServices.MicroServiceMeta) :
    Proxies service request stream [servicesEvent serviceType services]
  | notSent (serviceType : String) (svc : MicroServices.MicroServiceMeta)
    (services : List MicroServices.MicroServiceMeta) (destination : URI) :
    Proxies service request stream [servicesEvent serviceType (svc :: services),
      sendEvent destination (proxyRequest service request stream svc) false]
  | notDeleted (serviceType : String) (svc : MicroServices.MicroServiceMeta)
    (services : List MicroServices.MicroServiceMeta) (destination : URI) :
    request.method = "DELETE" →
    Proxies service request stream [servicesEvent serviceType (svc :: services),
      sendEvent destination (proxyRequest service request stream svc) true, receiveEvent none]
  | notReceived (serviceType : String) (svc : MicroServices.MicroServiceMeta)
    (services : List MicroServices.MicroServiceMeta) (destination : URI) :
    request.method ≠ "DELETE" →
    Proxies service request stream [servicesEvent serviceType (svc :: services),
      sendEvent destination (proxyRequest service request stream svc) true, receiveEvent none,
      respondEvent { status := defaultStatus, document := none }]
  | received (serviceType : String) (svc : MicroServices.MicroServiceMeta)
    (services : List MicroServices.MicroServiceMeta) (destination : URI) (reply : Reply) :
    Proxies service request stream [servicesEvent serviceType (svc :: services),
      sendEvent destination (proxyRequest service request stream svc) true, receiveEvent (some reply),
      respondEvent {
        status := reply.status
        document := if request.method = "DELETE" then none else reply.body.parse }]

section Ends

variable {service : Service} {request : HTTPServerRequest} {stream : Body} {tr : List Event}
  {svc : MicroServices.MicroServiceMeta} {services : List MicroServices.MicroServiceMeta}
  {serviceType pathRewrite : String} {r : Except Thrown Unit}

lemma proxyTo_inv (proxies : Trace (proxyTo service request stream svc pathRewrite).run tr r) :
    Proxies service request stream (servicesEvent serviceType (svc :: services) :: tr) ∧
      (r = .ok () ∨ r = .error .poco) := by
  rcases trace_attempt_bind.mp proxies with ⟨e, rfl, locates⟩ | ⟨tr1, tr2, destination, rfl, locates, sends⟩
  · obtain ⟨rfl, failed⟩ := trace_attempt_except.mp locates
    rw [proxyDestination] at failed
    split at failed
    case h_1 => cases failed
    case h_2 =>
      cases failed
      exact ⟨.noDestination serviceType _, .inr rfl⟩
  obtain ⟨rfl, _⟩ := trace_attempt_except.mp locates
  obtain ⟨tr3, tr4, sent, rfl, asks, receives⟩ := trace_attempt_lift_bind.mp sends
  obtain rfl := trace_perform.mp asks
  cases sent with
  | false =>
    obtain ⟨rfl, rfl⟩ := trace_attempt_throw.mp receives
    exact ⟨.notSent serviceType svc services destination, .inr rfl⟩
  | true =>
    rw [if_pos rfl] at receives
    obtain ⟨tr5, tr6, received, rfl, waits, answers⟩ := trace_attempt_lift_bind.mp receives
    obtain rfl := trace_perform.mp waits
    cases received with
    | none =>
      by_cases deletes : request.method = "DELETE"
      · rw [if_pos deletes] at answers
        obtain ⟨rfl, rfl⟩ := trace_attempt_throw.mp answers
        exact ⟨.notDeleted serviceType svc services destination deletes, .inr rfl⟩
      · rw [if_neg deletes] at answers
        obtain ⟨rfl, rfl⟩ := trace_attempt_respond.mp answers
        exact ⟨.notReceived serviceType svc services destination deletes, .inl rfl⟩
    | some reply =>
      have ends : Proxies service request stream _ :=
        .received serviceType svc services destination reply
      by_cases deletes : request.method = "DELETE"
      · rw [if_pos deletes] at answers ends
        obtain ⟨rfl, rfl⟩ := trace_attempt_respond.mp answers
        exact ⟨ends, .inl rfl⟩
      · rw [if_neg deletes] at answers ends
        obtain ⟨rfl, rfl⟩ := trace_attempt_respond.mp answers
        exact ⟨ends, .inl rfl⟩

/-- The proxy ends in one of these ways, and throws nothing. -/
lemma apiProxy_inv (proxies : Trace (apiProxy service request stream serviceType pathRewrite).run tr r) :
    Proxies service request stream tr ∧ r = .ok () := by
  obtain ⟨tr1, tr2, r1, rfl, tries, ends⟩ := trace_bind.mp proxies
  obtain ⟨tr3, tr4, services, rfl, looks, sends⟩ := trace_attempt_lift_bind.mp tries
  obtain rfl := trace_perform.mp looks
  have both : Proxies service request stream (servicesEvent serviceType services :: tr4) ∧
      (r1 = .ok () ∨ r1 = .error .poco) := by
    cases services with
    | nil =>
      obtain ⟨rfl, rfl⟩ := trace_attempt_pure.mp sends
      exact ⟨.noDestination serviceType [], .inl rfl⟩
    | cons svc services => exact proxyTo_inv sends
  obtain ⟨proxied, rfl | rfl⟩ := both
  · obtain ⟨rfl, rfl⟩ := trace_pure.mp ends
    rw [List.append_nil]
    exact ⟨proxied, rfl⟩
  · obtain ⟨rfl, rfl⟩ := trace_pure.mp ends
    rw [List.append_nil]
    exact ⟨proxied, rfl⟩

end Ends

end UserPortal.RequestHandler
