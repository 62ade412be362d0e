import UserPortal.Sdk.Gw

/-!
# What the SDK calls ask

For each call of the SDK, the events of its traces and what it returns on each answer.
-/

namespace UserPortal.Sdk
open Interaction Program

namespace ParentalControl

/-- The request of `CreateClientAccess`. -/
def createClientAccessCall (subscriberId : String) (body : Json.Object) : Call where
  verb := .post
  service := uSERVICE_MANGO_PARENTAL_CONTROL
  endPoint := "/api/v1/subscribers/" ++ subscriberId ++ "/client-access"
  queryData := []
  body := body
  msTimeout := 120000
  bearerToken := ""

/-- The request of `DeleteClientAccess`. -/
def deleteClientAccessCall (subscriberId clientMac : String) : Call where
  verb := .delete
  service := uSERVICE_MANGO_PARENTAL_CONTROL
  endPoint := "/api/v1/subscribers/" ++ subscriberId ++ "/client-access/" ++ clientMac
  queryData := []
  body := []
  msTimeout := 120000
  bearerToken := ""

/-- A call to the service, which is sent without a token. -/
def serviceCall (verb : Verb) (endpoint : String) (body : Json.Object) (timeoutMs : Nat) : Call where
  verb := verb
  service := uSERVICE_MANGO_PARENTAL_CONTROL
  endPoint := endpoint
  queryData := []
  body := body
  msTimeout := timeoutMs
  bearerToken := ""

/-- What a GET of an array has done. -/
lemma executeGetArray_inv {endpoint : String} {tr : List Portal.Event}
    {r : CallResult × Option (List Json)} (h : Trace (executeGetArray endpoint) tr r) :
    ∃ answer, tr = [⟨.call (serviceCall .get endpoint [] 60000), answer⟩] ∧
      r.1.success = (r.1.status = HTTPStatus.ok && r.2.isSome) ∧
      (r.1.status, r.2, r.1.response) = OpenAPIRequest.lenientArray none none answer := by
  obtain ⟨answer, rest, rfl, h1⟩ := OpenAPIRequest.trace_getArray_bind.mp h
  obtain ⟨rfl, rfl⟩ := trace_pure.mp h1
  exact ⟨answer, rfl, rfl, rfl⟩

/-- What a GET of an object has done. -/
lemma executeGetObject_inv {endpoint : String} {tr : List Portal.Event} {r : CallResult}
    (h : Trace (executeGetObject endpoint) tr r) :
    ∃ answer, tr = [⟨.call (serviceCall .get endpoint [] 60000), answer⟩] ∧
      r.success = (r.status = HTTPStatus.ok && r.response.isSome) ∧
      (r.status, r.response) = OpenAPIRequest.lenient none answer := by
  obtain ⟨answer, rest, rfl, h1⟩ := OpenAPIRequest.trace_get_bind.mp h
  obtain ⟨rfl, rfl⟩ := trace_pure.mp h1
  exact ⟨answer, rfl, rfl, rfl⟩

/-- What a POST has done. -/
lemma executePostObject_inv {endpoint : String} {body : Json.Object} {timeoutMs : Nat}
    {tr : List Portal.Event} {r : CallResult} (h : Trace (executePostObject endpoint body timeoutMs) tr r) :
    ∃ answer, tr = [⟨.call (serviceCall .post endpoint body timeoutMs), answer⟩] ∧
      r.success = (r.status = HTTPStatus.ok && r.response.isSome) ∧
      (r.status, r.response) = OpenAPIRequest.strict none answer := by
  obtain ⟨answer, rest, rfl, h1⟩ := OpenAPIRequest.trace_post_bind.mp h
  obtain ⟨rfl, rfl⟩ := trace_pure.mp h1
  exact ⟨answer, rfl, rfl, rfl⟩

/-- What a PUT has done. -/
lemma executePutObject_inv {endpoint : String} {body : Json.Object} {timeoutMs : Nat}
    {tr : List Portal.Event} {r : CallResult} (h : Trace (executePutObject endpoint body timeoutMs) tr r) :
    ∃ answer, tr = [⟨.call (serviceCall .put endpoint body timeoutMs), answer⟩] ∧
      r.success = (r.status = HTTPStatus.ok && r.response.isSome) ∧
      (r.status, r.response) = OpenAPIRequest.strict none answer := by
  obtain ⟨answer, rest, rfl, h1⟩ := OpenAPIRequest.trace_put_bind.mp h
  obtain ⟨rfl, rfl⟩ := trace_pure.mp h1
  exact ⟨answer, rfl, rfl, rfl⟩

/-- What a DELETE has done. -/
lemma executeDelete_inv {endpoint : String} {timeoutMs : Nat}
    {accept : Bool → Option Json.Object → Bool} {tr : List Portal.Event} {r : CallResult}
    (h : Trace (executeDelete endpoint timeoutMs accept) tr r) :
    ∃ answer, tr = [⟨.call (serviceCall .delete endpoint [] timeoutMs), answer⟩] ∧
      r.success = (r.status = HTTPStatus.ok &&
        accept ((answer.map fun a => a.body.isEmpty).getD true) r.response) ∧
      (r.status, r.response) = OpenAPIRequest.lenient none answer := by
  obtain ⟨answer, rest, rfl, h1⟩ := OpenAPIRequest.trace_delete_bind.mp h
  obtain ⟨rfl, rfl⟩ := trace_pure.mp h1
  exact ⟨answer, rfl, rfl, rfl⟩

/-- What blocking a client has done. -/
lemma createClientAccess_inv {subscriberId : String} {body : Json.Object} {tr : List Portal.Event}
    {r : CallResult} (h : Trace (createClientAccess subscriberId body) tr r) :
    ∃ answer, tr = [⟨.call (createClientAccessCall subscriberId body), answer⟩] ∧
      r.success = (r.status = HTTPStatus.ok && r.response.isSome) ∧
      (r.status, r.response) = OpenAPIRequest.strict none answer := executePostObject_inv h

/-- What unblocking one has done. -/
lemma deleteClientAccess_inv {subscriberId clientMac : String} {tr : List Portal.Event}
    {r : CallResult} (h : Trace (deleteClientAccess subscriberId clientMac) tr r) :
    ∃ answer, tr = [⟨.call (deleteClientAccessCall subscriberId clientMac), answer⟩] ∧
      r.success = (r.status = HTTPStatus.ok &&
        !(answer.map fun a => a.body.isEmpty).getD true && hasConfigRaw r.response) ∧
      (r.status, r.response) = OpenAPIRequest.lenient none answer := by
  obtain ⟨answer, eq, ok, len⟩ := executeDelete_inv h
  refine ⟨answer, eq, ?_, len⟩
  rw [ok, Bool.and_assoc]
  rfl

end ParentalControl

namespace Gw

/-- The request of `GetConfig`. -/
def getConfigCall (bearerToken mac : String) : Call where
  verb := .get
  service := uSERVICE_GATEWAY
  endPoint := "/api/v1/device/" ++ mac
  queryData := []
  body := []
  msTimeout := 1000
  bearerToken := bearerToken

/-- The request of `Configure`. -/
def configureCall (bearerToken mac : String) (config : Json.Object) (now : Nat) : Call where
  verb := .post
  service := uSERVICE_GATEWAY
  endPoint := "/api/v1/device/" ++ mac ++ "/configure"
  queryData := []
  body := [("UUID", .int now), ("configuration", .obj config), ("serialNumber", .str mac),
    ("when", .int 0)]
  msTimeout := 90000
  bearerToken := bearerToken

/-- What reading a configuration has done. -/
lemma getConfig_inv {bearerToken mac : String} {tr : List Portal.Event} {r : CallResult}
    (h : Trace (getConfig bearerToken mac) tr r) :
    ∃ answer, tr = [⟨.call (getConfigCall bearerToken mac), answer⟩] ∧
      r.success = (r.status = HTTPStatus.ok && hasConfiguration r.response) ∧
      (r.status, r.response) = OpenAPIRequest.lenient none answer := by
  obtain ⟨answer, rest, rfl, h1⟩ := OpenAPIRequest.trace_get_bind.mp h
  obtain ⟨rfl, rfl⟩ := trace_pure.mp h1
  exact ⟨answer, rfl, rfl, rfl⟩

/-- What a push has done: it stamps the configuration and sends it. -/
lemma configure_inv {bearerToken mac : String} {config config' : Json.Object}
    {tr : List Portal.Event} {r : CallResult}
    (h : Trace (configure bearerToken mac config) tr (r, config')) :
    ∃ t answer, tr = [⟨.now, t⟩, ⟨.call (configureCall bearerToken mac config' (Utils.now t)), answer⟩] ∧
      config' = stampConfig config (Utils.now t) ∧ r.success = (r.status = HTTPStatus.ok) ∧
      (r.status, r.response) = OpenAPIRequest.strict none answer := by
  obtain ⟨t, rest, rfl, h1⟩ := trace_perform_bind.mp h
  obtain ⟨answer, rest', rfl, h2⟩ := OpenAPIRequest.trace_post_bind.mp h1
  obtain ⟨rfl, e⟩ := trace_pure.mp h2
  cases e
  exact ⟨t, answer, rfl, rfl, by simp, rfl⟩

/-! ## What a push asks -/

section Push

variable {P : Portal.Event → Prop} {bearerToken gatewaySerial : String} {devices : List SubscriberDevice}

/-- A check asks nothing. -/
lemma ensure_asks (ok : Bool) (r : CallResult) : Asks P (ensure ok r).run := by
  cases ok with
  | true => exact .attempt_pure ()
  | false => exact .attempt_throw r

/-- A push reads the clock and calls the gateway service. -/
lemma configure_asks {mac : String} (now : ∀ t, P ⟨.now, t⟩)
    (push : ∀ config now answer, P ⟨.call (configureCall bearerToken mac config now), answer⟩)
    (config : Json.Object) : Asks P (configure bearerToken mac config) := by
  intro tr r h e he
  obtain ⟨r, config'⟩ := r
  obtain ⟨t, answer, rfl, _⟩ := configure_inv h
  rcases List.mem_cons.mp he with rfl | he
  · exact now t
  · rw [List.mem_singleton.mp he]
    exact push _ _ answer

/-- A serial is itself. -/
lemma isSameSerial_self (serial : String) : isSameSerial serial serial = true := by
  rw [isSameSerial]
  cases Utils.normalizeMac serial with
  | none => simp
  | some s => simp

/-- The loop over the mesh devices asks what configuring each of them asks, wherever it ends. -/
lemma configureMesh_asks
    (one : ∀ device ∈ devices, device.serialNumber ≠ gatewaySerial → ∀ config,
      Asks P (configure bearerToken device.serialNumber config)) (meshConfig : Json.Object) :
    Asks P (configureMesh bearerToken gatewaySerial devices meshConfig).run := by
  induction devices generalizing meshConfig with
  | nil => exact .attempt_pure _
  | cons device devices ih =>
    have rest := ih fun d hd => one d (.tail _ hd)
    rw [configureMesh]
    split
    case isTrue => exact rest meshConfig
    case isFalse mesh =>
      have ne : device.serialNumber ≠ gatewaySerial := by
        intro e
        simp [e, isSameSerial_self] at mesh
      apply (one device (.head _) ne meshConfig).attempt_lift_bind
      intro r
      exact (ensure_asks _ _).attempt_bind fun _ => rest r.2

/-- Pushing to the mesh pushes to each device but the gateway. -/
lemma pushMeshConfig_asks
    (one : ∀ device ∈ devices, device.serialNumber ≠ gatewaySerial → ∀ config,
      Asks P (configure bearerToken device.serialNumber config)) (deviceObj : Json.Object) :
    Asks P (pushMeshConfig bearerToken gatewaySerial devices deviceObj).run := by
  rw [pushMeshConfig]
  split
  case h_1 => exact configureMesh_asks one _
  case h_2 => exact .attempt_throw _

/-- A push asks what configuring the gateway and the other devices asks. -/
lemma pushConfig_asks {body deviceObj : Json.Object}
    (gateway : ∀ config, Asks P (configure bearerToken gatewaySerial config))
    (one : ∀ device ∈ devices, device.serialNumber ≠ gatewaySerial → ∀ config,
      Asks P (configure bearerToken device.serialNumber config)) (config : Json.Object) :
    Asks P (pushConfig bearerToken body devices gatewaySerial deviceObj config).run := by
  apply (gateway config).attempt_lift_bind
  intro r
  refine (ensure_asks _ _).attempt_bind fun _ => ?_
  split
  case isTrue => exact .attempt_pure _
  case isFalse => exact pushMeshConfig_asks one _

/-- Fetching the gateway makes one call. -/
lemma fetchGateway_asks
    (get : ∀ answer, P ⟨.call (getConfigCall bearerToken gatewaySerial), answer⟩) :
    Asks P (fetchGateway bearerToken gatewaySerial).run := by
  apply Asks.attempt_lift_bind
  · intro tr r h e he
    obtain ⟨answer, rfl, _⟩ := getConfig_inv h
    rw [List.mem_singleton.mp he]
    exact get answer
  · intro r
    refine (ensure_asks _ _).attempt_bind fun _ => ?_
    split
    case h_2 => exact .attempt_throw _
    case h_1 =>
      split
      case h_1 => exact .attempt_pure _
      case h_2 => exact .attempt_throw _

end Push

end Gw

end UserPortal.Sdk
