import UserPortal.Sdk.SetConfigStatus
import UserPortal.Sdk.SsidEntries
import UserPortal.Sdk.Traces

/-!
# What a successful configure request has done

The traces of the steps of `SetConfig` which succeed: the gateway's record is fetched, the clients are
blocked and unblocked, and, unless nothing has changed, the gateway and then the mesh devices are
configured.
-/

namespace UserPortal.Sdk.Gw
open Interaction Program

/-- The configuration which an event has given to a device. -/
def configured (serial : String) : Portal.Event → Option Json.Object
  | ⟨.call c, answer⟩ =>
    if c.verb = .post ∧ c.service = uSERVICE_GATEWAY ∧
        c.endPoint = "/api/v1/device/" ++ serial ++ "/configure" ∧
        (OpenAPIRequest.strict none answer).1 = HTTPStatus.ok then
      c.body.getObject? "configuration"
    else none
  | _ => none

/-- The last configuration which a list of events has given to a device. -/
def lastConfigured (serial : String) (tr : List Portal.Event) : Option Json.Object :=
  (tr.filterMap (configured serial)).getLast?

/-- A `configure` which is answered with 200 has configured its device. -/
lemma configured_self {bearerToken serial : String} {config : Json.Object} {now : Nat}
    {answer : Option Reply} (ok : (OpenAPIRequest.strict none answer).1 = HTTPStatus.ok) :
    configured serial ⟨.call (configureCall bearerToken serial config now), answer⟩ = some config := by
  rw [configured, if_pos ⟨rfl, rfl, rfl, ok⟩]
  rfl

/-- Only the configuration of the device itself configures it. -/
lemma configured_configureCall {bearerToken serial serial' : String} {config c : Json.Object}
    {now : Nat} {answer : Option Reply}
    (h : configured serial ⟨.call (configureCall bearerToken serial' config now), answer⟩ = some c) :
    serial' = serial ∧ c = config := by
  rw [configured] at h
  split at h
  case isTrue e =>
    have eq := congrArg String.toList e.2.2.1
    simp only [configureCall, String.toList_append, List.append_cancel_right_eq,
      List.append_cancel_left_eq, String.toList_inj] at eq
    cases h
    exact ⟨eq, rfl⟩
  case isFalse => cases h

/-- Reading the clock configures nothing. -/
@[simp] lemma configured_now (serial : String) (t : Int) : configured serial ⟨.now, t⟩ = none := rfl

/-- Only a call to the gateway service configures a device. -/
lemma configured_of_service {serial : String} {c : Call} {answer : Option Reply}
    (ne : c.service ≠ uSERVICE_GATEWAY) : configured serial ⟨.call c, answer⟩ = none :=
  if_neg fun h => ne h.2.1

/-- Only a POST configures a device. -/
lemma configured_of_verb {serial : String} {c : Call} {answer : Option Reply} (ne : c.verb ≠ .post) :
    configured serial ⟨.call c, answer⟩ = none := if_neg fun h => ne h.1

/-- Nor does reading a configuration. -/
lemma configured_getConfig (serial bearerToken mac : String) (answer : Option Reply) :
    configured serial ⟨.call (getConfigCall bearerToken mac), answer⟩ = none :=
  configured_of_verb nofun

/-- A step behind `ensure` which succeeds: the check passed, and so did the rest. -/
lemma trace_ensure_ok {α : Type} {ok : Bool} {r : CallResult} {p : Attempt α}
    {tr : List Portal.Event} {a : α} :
    Trace (do ensure ok r; p : Attempt α).run tr (.ok a) ↔ ok = true ∧ Trace p.run tr (.ok a) := by
  cases ok with
  | true => exact ⟨fun h => ⟨rfl, h⟩, fun h => h.2⟩
  | false =>
    refine ⟨?_, ?_⟩
    · intro h
      cases (trace_attempt_throw.mp h).2
    · intro h
      cases h.1

/-- The gateway's record is the reply to one call. -/
lemma fetchGateway_inv {bearerToken gatewaySerial : String} {tr : List Portal.Event}
    {deviceObj config : Json.Object}
    (h : Trace (fetchGateway bearerToken gatewaySerial).run tr (.ok (deviceObj, config))) :
    tr = [⟨.call (getConfigCall bearerToken gatewaySerial),
        some ⟨HTTPStatus.ok, .json (.obj deviceObj)⟩⟩] ∧
      deviceObj.getObject? "configuration" = some config := by
  obtain ⟨tr1, tr2, r, rfl, h1, h2⟩ := trace_attempt_lift_bind.mp h
  obtain ⟨ok, h3⟩ := trace_ensure_ok.mp h2
  obtain ⟨answer, rfl, eq, len⟩ := getConfig_inv h1
  rw [eq, Bool.and_eq_true_iff, decide_eq_true_iff] at ok
  split at h3
  case h_2 => cases (trace_attempt_throw.mp h3).2
  case h_1 o resp =>
    split at h3
    case h_2 => cases (trace_attempt_throw.mp h3).2
    case h_1 c cfg =>
      obtain ⟨rfl, e⟩ := trace_attempt_pure.mp h3
      cases e
      rw [resp, ok.1] at len
      obtain ⟨⟨status, body⟩, rfl, rfl, eq'⟩ := OpenAPIRequest.lenient_some (congrArg Prod.snd len).symm
      rw [eq'] at len
      cases len
      exact ⟨rfl, cfg⟩

/-- Applying the SSID of the body asks nothing. -/
lemma updateSsid_inv {conv : Conversions} {config body updated : Json.Object}
    {tr : List Portal.Event} (h : Trace (updateSsid conv config body).run tr (.ok updated)) :
    tr = [] ∧
      (body.has "ssid" = false ∧ updated = config ∨
        body.has "ssid" = true ∧ ∃ req, parseSsid conv body = .ok req ∧
          overrideInterfaces req config = .ok updated) := by
  rw [updateSsid] at h
  split at h
  case isTrue has =>
    obtain ⟨rfl, e⟩ := trace_ret.mp h
    obtain ⟨req, parsed, applied⟩ := except_bind_ok e.symm
    exact ⟨rfl, .inr ⟨has, req, parsed, applied⟩⟩
  case isFalse no =>
    obtain ⟨rfl, e⟩ := trace_attempt_pure.mp h
    cases e
    exact ⟨rfl, .inl ⟨by simpa using no, rfl⟩⟩

/-! ## Client access -/

/-- The object with which the parental-control service has answered a change of its rules. -/
def mutationResponse : Portal.Event → Option Json.Object
  | ⟨.call c, some ⟨status, .json (.obj o)⟩⟩ =>
    if c.service = uSERVICE_MANGO_PARENTAL_CONTROL ∧ c.verb ≠ .get ∧ status = HTTPStatus.ok then some o
    else none
  | _ => none

/-- The object with which the last change of a list of events was answered. -/
def lastMutation (tr : List Portal.Event) : Option Json.Object := (tr.filterMap mutationResponse).getLast?

/-- A reading of the clock, or a change which was answered with an object. -/
def IsAccessEvent (e : Portal.Event) : Prop :=
  (∃ t, e = ⟨.now, t⟩) ∨ ∃ response, mutationResponse e = some response

/-- The object in the answer of a change of the rules. -/
lemma mutationResponse_eq {c : Call} {o : Json.Object} (service : c.service = uSERVICE_MANGO_PARENTAL_CONTROL)
    (verb : c.verb ≠ .get) :
    mutationResponse ⟨.call c, some ⟨HTTPStatus.ok, .json (.obj o)⟩⟩ = some o :=
  if_pos ⟨service, verb, rfl⟩

/-- What such an answer comes from. -/
lemma mutationResponse_inv {e : Portal.Event} {o : Json.Object} (h : mutationResponse e = some o) :
    ∃ c, e = ⟨.call c, some ⟨HTTPStatus.ok, .json (.obj o)⟩⟩ ∧
      c.service = uSERVICE_MANGO_PARENTAL_CONTROL ∧ c.verb ≠ .get := by
  unfold mutationResponse at h
  split at h
  case h_1 c status _ =>
    split at h
    case isTrue m =>
      cases h
      obtain ⟨service, verb, rfl⟩ := m
      exact ⟨c, rfl, service, verb⟩
    case isFalse => cases h
  case h_2 => cases h

/-- The changes of the rules configure no device. -/
lemma configured_accessEvent {serial : String} {e : Portal.Event} (h : IsAccessEvent e) :
    configured serial e = none := by
  rcases h with ⟨t, rfl⟩ | ⟨response, h⟩
  · rfl
  · obtain ⟨c, rfl, s, _⟩ := mutationResponse_inv h
    apply configured_of_service
    rw [s]
    decide

/-- Nor does a list of them. -/
lemma filterMap_accessEvents {serial : String} {tr : List Portal.Event}
    (h : ∀ e ∈ tr, IsAccessEvent e) : tr.filterMap (configured serial) = [] :=
  List.filterMap_eq_nil_iff.mpr fun e he => configured_accessEvent (h e he)

/-- What the validation of a client entry accepts: a block with a duration ends on the date it was
validated. -/
lemma validateClientEntry_inv {conv : Conversions} {entry : Json} {tr : List Portal.Event}
    {a : ValidatedClientEntry} (h : Trace (validateClientEntry conv entry).run tr (.ok a)) :
    (∃ raw, Utils.normalizeMac raw = some a.mac) ∧
    a.formattedMac = Utils.toLower (Utils.serialToMAC a.mac) ∧
    ((tr = [] ∧ a.hasDuration = false) ∨ ∃ t, tr = [⟨.now, t⟩] ∧ a.hasDuration = true ∧
      differentDate (endOf (.ofTimestamp t) a.durationMinutes) (.ofTimestamp t) = false) := by
  have thrown : ∀ {r : CallResult}, ¬ Trace (throw r : Attempt ValidatedClientEntry).run tr (.ok a) := by
    intro r h
    cases (trace_attempt_throw.mp h).2
  rw [validateClientEntry] at h
  split at h
  case h_2 => exact absurd h thrown
  case h_1 =>
    split at h
    case h_2 => exact absurd h thrown
    case h_1 =>
      split at h
      case h_2 => exact absurd h thrown
      case h_1 =>
        dsimp only at h
        split at h
        case h_1 => exact absurd h thrown
        case h_2 mac normalized =>
          split at h
          case isTrue => exact absurd h thrown
          case isFalse =>
            split at h
            case h_1 =>
              obtain ⟨rfl, e⟩ := trace_attempt_pure.mp h
              cases e
              exact ⟨⟨_, normalized⟩, rfl, .inl ⟨rfl, rfl⟩⟩
            case h_2 =>
              split at h
              · exact absurd h thrown
              · exact absurd h thrown
            case h_3 d =>
              split at h
              case isTrue => exact absurd h thrown
              case isFalse =>
                split at h
                case isFalse => exact absurd h thrown
                case isTrue =>
                  obtain ⟨tr1, tr2, t, rfl, h1, h2⟩ := trace_attempt_lift_bind.mp h
                  obtain ⟨same, h3⟩ := trace_ensure_ok.mp h2
                  obtain ⟨rfl, e⟩ := trace_attempt_pure.mp h3
                  cases e
                  obtain ⟨x, rest, rfl, h4⟩ := trace_ask.mp h1
                  obtain ⟨rfl, rfl⟩ := trace_ret.mp h4
                  exact ⟨⟨_, normalized⟩, rfl, .inr ⟨t, rfl, rfl, by simpa using same⟩⟩

/-- The validation reads at most the clock and keeps every entry. -/
lemma validateClientEntries_inv {conv : Conversions} {entries : List Json} {tr : List Portal.Event}
    {validated : List ValidatedClientEntry}
    (h : Trace (validateClientEntries conv entries).run tr (.ok validated)) :
    (∀ e ∈ tr, ∃ t, e = ⟨.now, t⟩) ∧ validated.length = entries.length := by
  induction entries generalizing tr validated with
  | nil =>
    obtain ⟨rfl, e⟩ := trace_attempt_pure.mp h
    cases e
    exact ⟨nofun, rfl⟩
  | cons entry entries ih =>
    obtain ⟨tr1, tr2, a, rfl, h1, h2⟩ := trace_attempt_bind_ok.mp h
    obtain ⟨tr3, tr4, as, rfl, h3, h4⟩ := trace_attempt_bind_ok.mp h2
    obtain ⟨rfl, e⟩ := trace_attempt_pure.mp h4
    cases e
    obtain ⟨nows, len⟩ := ih h3
    refine ⟨?_, congrArg Nat.succ len⟩
    intro e he
    rw [List.append_nil] at he
    rcases List.mem_append.mp he with he | he
    · rcases (validateClientEntry_inv h1).2.2 with ⟨rfl, _⟩ | ⟨t, rfl, _⟩
      · cases he
      · exact ⟨t, List.mem_singleton.mp he⟩
    · exact nows e he

/-- A client blocked with success has been answered with its object. -/
lemma createClientAccess_ok {subscriberId : String} {body : Json.Object} {tr : List Portal.Event}
    {r : CallResult} (h : Trace (ParentalControl.createClientAccess subscriberId body) tr r)
    (ok : r.success = true) : ∃ e o, tr = [e] ∧ mutationResponse e = some o ∧ r.response = some o := by
  obtain ⟨answer, rfl, s, eq⟩ := ParentalControl.createClientAccess_inv h
  rw [s, Bool.and_eq_true_iff, decide_eq_true_iff] at ok
  have ok' : (OpenAPIRequest.strict none answer).1 = HTTPStatus.ok := by rw [← eq, ok.1]
  obtain ⟨⟨status, b⟩, o, rfl, rfl, rfl, eq'⟩ := OpenAPIRequest.strict_ok ok'
  rw [eq'] at eq
  exact ⟨_, o, rfl, mutationResponse_eq rfl nofun, congrArg Prod.snd eq⟩

/-- So has a client unblocked with success. -/
lemma deleteClientAccess_ok {subscriberId clientMac : String} {tr : List Portal.Event}
    {r : CallResult} (h : Trace (ParentalControl.deleteClientAccess subscriberId clientMac) tr r)
    (ok : r.success = true) : ∃ e o, tr = [e] ∧ mutationResponse e = some o ∧ r.response = some o := by
  obtain ⟨answer, rfl, s, eq⟩ := ParentalControl.deleteClientAccess_inv h
  rw [s, Bool.and_eq_true_iff, Bool.and_eq_true_iff, decide_eq_true_iff] at ok
  obtain ⟨⟨ok, _⟩, raw⟩ := ok
  cases resp : r.response with
  | none =>
    rw [resp] at raw
    cases raw
  | some o =>
    rw [resp, ok] at eq
    obtain ⟨⟨status, b⟩, rfl, rfl, eq'⟩ := OpenAPIRequest.lenient_some (congrArg Prod.snd eq).symm
    rw [eq'] at eq
    cases eq
    exact ⟨_, o, rfl, mutationResponse_eq rfl nofun, rfl⟩

/-- A successful change of one client ends with the call that made it. -/
lemma requestClientAccess_ok {subscriberId : String} {entry : ValidatedClientEntry}
    {tr : List Portal.Event} {r : CallResult}
    (h : Trace (requestClientAccess subscriberId entry) tr r) (ok : r.success = true) :
    ∃ pre e o, tr = pre ++ [e] ∧ (∀ d ∈ pre, ∃ t, d = ⟨.now, t⟩) ∧ mutationResponse e = some o ∧
      r.response = some o := by
  have nil : ∀ d ∈ ([] : List Portal.Event), ∃ t, d = ⟨.now, t⟩ := nofun
  rw [requestClientAccess] at h
  split at h
  · split at h
    · obtain ⟨t, rest, rfl, h1⟩ := trace_perform_bind.mp h
      obtain ⟨e, o, rfl, isMut, resp⟩ := createClientAccess_ok h1 ok
      exact ⟨[⟨.now, t⟩], e, o, rfl, fun d hd => ⟨t, List.mem_singleton.mp hd⟩, isMut, resp⟩
    · obtain ⟨e, o, rfl, isMut, resp⟩ := createClientAccess_ok h ok
      exact ⟨[], e, o, rfl, nil, isMut, resp⟩
  · obtain ⟨e, o, rfl, isMut, resp⟩ := deleteClientAccess_ok h ok
    exact ⟨[], e, o, rfl, nil, isMut, resp⟩

/-- Successful changes of clients end with the last call, whose response they return. -/
lemma requestClientAccesses_inv {subscriberId : String} {entries : List ValidatedClientEntry}
    {last response : Option Json.Object} {tr : List Portal.Event}
    (h : Trace (requestClientAccesses subscriberId entries last).run tr (.ok response)) :
    tr = [] ∧ response = last ∧ entries = [] ∨
      ∃ pre e o, tr = pre ++ [e] ∧ (∀ d ∈ pre, IsAccessEvent d) ∧ mutationResponse e = some o ∧
        response = some o := by
  induction entries generalizing last tr with
  | nil =>
    obtain ⟨rfl, e⟩ := trace_attempt_pure.mp h
    cases e
    exact .inl ⟨rfl, rfl, rfl⟩
  | cons entry entries ih =>
    obtain ⟨tr1, tr2, r, rfl, h1, h2⟩ := trace_attempt_lift_bind.mp h
    obtain ⟨ok, h3⟩ := trace_ensure_ok.mp h2
    obtain ⟨pre, e, o, rfl, nows, isMut, resp⟩ := requestClientAccess_ok h1 ok
    have pre_access : ∀ d ∈ pre, IsAccessEvent d := fun d hd => .inl (nows d hd)
    rcases ih h3 with ⟨rfl, rfl, _⟩ | ⟨pre', e', o', rfl, access, isMut', resp'⟩
    · exact .inr ⟨pre, e, o, by simp, pre_access, isMut, resp⟩
    · refine .inr ⟨pre ++ [e] ++ pre', e', o', by simp, ?_, isMut', resp'⟩
      intro d hd
      rcases List.mem_append.mp hd with hd | hd
      · rcases List.mem_append.mp hd with hd | hd
        · exact pre_access d hd
        · rw [List.mem_singleton.mp hd]
          exact .inr ⟨o, isMut⟩
      · exact access d hd

/-- The client-access changes end with a change, whose response updates the configuration. -/
lemma updateClientAccess_inv {conv : Conversions} {config body updated : Json.Object}
    {subscriberId : String} {tr : List Portal.Event}
    (h : Trace (updateClientAccess conv config body subscriberId).run tr (.ok updated)) :
    (∀ e ∈ tr, IsAccessEvent e) ∧
      (body.has "client" = false ∧ tr = [] ∧ updated = config ∨
        body.has "client" = true ∧ ∃ pre e o, tr = pre ++ [e] ∧ mutationResponse e = some o ∧
          updated = updateConfigRaw config (some o)) := by
  rw [updateClientAccess] at h
  split at h
  case isFalse no =>
    obtain ⟨rfl, e⟩ := trace_attempt_pure.mp h
    cases e
    exact ⟨nofun, .inl ⟨by simpa using no, rfl, rfl⟩⟩
  case isTrue has =>
    rw [applyClientAccessChanges] at h
    split at h
    case h_1 => cases (trace_attempt_throw.mp h).2
    case h_2 => cases (trace_attempt_throw.mp h).2
    case h_3 clientList nonempty _ =>
      obtain ⟨tr1, tr2, validated, rfl, h1, h2⟩ := trace_attempt_bind_ok.mp h
      obtain ⟨tr3, tr4, last, rfl, h3, h4⟩ := trace_attempt_bind_ok.mp h2
      obtain ⟨rfl, e⟩ := trace_attempt_pure.mp h4
      cases e
      obtain ⟨nows, len⟩ := validateClientEntries_inv h1
      rw [List.append_nil]
      rcases requestClientAccesses_inv h3 with ⟨_, _, rfl⟩ | ⟨pre, e, o, rfl, access, isMut, rfl⟩
      · -- the array of clients is not empty
        exact (nonempty (List.length_eq_zero_iff.mp len.symm)).elim
      · refine ⟨?_, .inr ⟨has, tr1 ++ pre, e, o, by simp, isMut, rfl⟩⟩
        intro d hd
        rcases List.mem_append.mp hd with hd | hd
        · exact .inl (nows d hd)
        · rcases List.mem_append.mp hd with hd | hd
          · exact access d hd
          · rw [List.mem_singleton.mp hd]
            exact .inr ⟨o, isMut⟩

/-! ## Pushing configurations -/

/-- A successful `Configure` gives the device the stamped configuration, and no other device any. -/
lemma configure_filterMap {bearerToken mac : String} {config config' : Json.Object}
    {tr : List Portal.Event} {r : CallResult}
    (h : Trace (configure bearerToken mac config) tr (r, config')) (ok : r.success = true)
    (serial : String) :
    tr.filterMap (configured serial) = if mac = serial then [config'] else [] := by
  obtain ⟨t, answer, rfl, _, s, eq⟩ := configure_inv h
  rw [List.filterMap_cons_none (configured_now serial t)]
  cases c : configured serial ⟨.call (configureCall bearerToken mac config' (Utils.now t)), answer⟩ with
  | none =>
    rw [List.filterMap_cons_none c, List.filterMap_nil, if_neg]
    rintro rfl
    have status : (OpenAPIRequest.strict none answer).1 = HTTPStatus.ok := eq ▸ s.mp ok
    rw [configured_self status] at c
    cases c
  | some d =>
    obtain ⟨rfl, rfl⟩ := configured_configureCall c
    rw [List.filterMap_cons_some c, List.filterMap_nil, if_pos rfl]

/-- The devices which `SetConfig` takes for mesh devices. -/
def IsMeshDevice (gatewaySerial : String) (device : SubscriberDevice) : Prop :=
  device.serialNumber ≠ "" ∧ isSameSerial device.serialNumber gatewaySerial = false

/-- Whatever the events configure has these SSIDs. -/
def OnlyConfigures (entries : List Json.Object) (tr : List Portal.Event) : Prop :=
  ∀ serial, ∀ c ∈ tr.filterMap (configured serial), ssidEntries c = entries

/-- Both parts of a trace configure these entries only. -/
lemma OnlyConfigures.append {entries : List Json.Object} {tr1 tr2 : List Portal.Event}
    (h1 : OnlyConfigures entries tr1) (h2 : OnlyConfigures entries tr2) :
    OnlyConfigures entries (tr1 ++ tr2) := by
  intro serial c hc
  rw [List.filterMap_append] at hc
  rcases List.mem_append.mp hc with hc | hc
  · exact h1 serial c hc
  · exact h2 serial c hc

/-- A push which succeeds configures the entries of its configuration only. -/
lemma configure_onlyConfigures {bearerToken mac : String} {config config' : Json.Object}
    {tr : List Portal.Event} {r : CallResult}
    (h : Trace (configure bearerToken mac config) tr (r, config')) (ok : r.success = true) :
    OnlyConfigures (ssidEntries config) tr := by
  intro serial c hc
  rw [configure_filterMap h ok serial] at hc
  split at hc
  case isTrue =>
    obtain ⟨t, answer, _, rfl, _⟩ := configure_inv h
    rw [List.mem_singleton.mp hc, ssidEntries_stampConfig]
  case isFalse => cases hc

/-- The loop over the mesh devices reaches every one of them. -/
lemma configureMesh_inv {bearerToken gatewaySerial : String} {devices : List SubscriberDevice}
    {meshConfig : Json.Object} {tr : List Portal.Event} {u : Unit}
    (h : Trace (configureMesh bearerToken gatewaySerial devices meshConfig).run tr (.ok u)) :
    OnlyConfigures (ssidEntries meshConfig) tr ∧
      ∀ d ∈ devices, IsMeshDevice gatewaySerial d → tr.filterMap (configured d.serialNumber) ≠ [] := by
  induction devices generalizing meshConfig tr with
  | nil =>
    obtain ⟨rfl, _⟩ := trace_attempt_pure.mp h
    exact ⟨fun _ => nofun, nofun⟩
  | cons device devices ih =>
    rw [configureMesh] at h
    split at h
    case isTrue skip =>
      obtain ⟨only, all⟩ := ih h
      refine ⟨only, ?_⟩
      intro d hd mesh
      rcases List.mem_cons.mp hd with rfl | hd
      · simp [mesh.1, mesh.2] at skip
      · exact all d hd mesh
    case isFalse =>
      obtain ⟨tr1, tr2, ⟨r, config'⟩, rfl, h1, h2⟩ := trace_attempt_lift_bind.mp h
      obtain ⟨ok, h3⟩ := trace_ensure_ok.mp h2
      obtain ⟨only, all⟩ := ih h3
      have first := configure_filterMap h1 ok
      have stamped : ssidEntries config' = ssidEntries meshConfig := by
        obtain ⟨t, answer, _, rfl, _⟩ := configure_inv h1
        exact ssidEntries_stampConfig meshConfig _
      refine ⟨(configure_onlyConfigures h1 ok).append (stamped ▸ only), ?_⟩
      intro d hd mesh
      rw [List.filterMap_append]
      rcases List.mem_cons.mp hd with rfl | hd
      · rw [first, if_pos rfl]
        exact List.cons_ne_nil _ _
      · exact List.append_ne_nil_of_right_ne_nil _ (all d hd mesh)

/-- The loop over the mesh devices leaves the gateway alone. -/
lemma configureMesh_gateway {bearerToken gatewaySerial : String} {devices : List SubscriberDevice}
    {meshConfig : Json.Object} {tr : List Portal.Event} {u : Unit}
    (h : Trace (configureMesh bearerToken gatewaySerial devices meshConfig).run tr (.ok u)) :
    tr.filterMap (configured gatewaySerial) = [] := by
  induction devices generalizing meshConfig tr with
  | nil =>
    obtain ⟨rfl, _⟩ := trace_attempt_pure.mp h
    rfl
  | cons device devices ih =>
    rw [configureMesh] at h
    split at h
    case isTrue => exact ih h
    case isFalse mesh =>
      obtain ⟨tr1, tr2, ⟨r, config'⟩, rfl, h1, h2⟩ := trace_attempt_lift_bind.mp h
      obtain ⟨ok, h3⟩ := trace_ensure_ok.mp h2
      have ne : device.serialNumber ≠ gatewaySerial := by
        intro e
        simp [e, isSameSerial_self] at mesh
      rw [List.filterMap_append, configure_filterMap h1 ok, if_neg ne, ih h3, List.append_nil]

/-- What a successful push has sent. -/
lemma pushConfig_inv {bearerToken gatewaySerial : String} {body deviceObj config : Json.Object}
    {devices : List SubscriberDevice} {tr : List Portal.Event} {u : Unit}
    (h : Trace (pushConfig bearerToken body devices gatewaySerial deviceObj config).run tr (.ok u)) :
    OnlyConfigures (ssidEntries config) tr ∧
      (∃ now, tr.filterMap (configured gatewaySerial) = [stampConfig config now]) ∧
      (body.has "ssid" = true → 1 < devices.length → ∀ d ∈ devices, IsMeshDevice gatewaySerial d →
        tr.filterMap (configured d.serialNumber) ≠ []) := by
  obtain ⟨tr1, tr2, ⟨r, config'⟩, rfl, h1, h2⟩ := trace_attempt_lift_bind.mp h
  obtain ⟨ok, h3⟩ := trace_ensure_ok.mp h2
  obtain ⟨t, answer, _, rfl, _⟩ := configure_inv h1
  have only := configure_onlyConfigures h1 ok
  have gateway := configure_filterMap h1 ok gatewaySerial
  rw [if_pos rfl] at gateway
  split at h3
  case isTrue small =>
    obtain ⟨rfl, _⟩ := trace_attempt_pure.mp h3
    rw [List.append_nil]
    refine ⟨only, ⟨_, gateway⟩, ?_⟩
    intro has many
    simp only [has, Bool.not_true, Bool.false_or, decide_eq_true_eq] at small
    exact absurd many (Nat.not_lt.mpr small)
  case isFalse =>
    rw [pushMeshConfig] at h3
    split at h3
    case h_2 => cases (trace_attempt_throw.mp h3).2
    case h_1 meshConfig mesh =>
      have entries : ssidEntries meshConfig = ssidEntries config := by
        rw [buildMeshConfig_entries (Json.Object.getObject?_set_self _ _ _) mesh,
          ssidEntries_stampConfig]
      obtain ⟨meshOnly, all⟩ := configureMesh_inv h3
      refine ⟨only.append (entries ▸ meshOnly), ⟨Utils.now t, ?_⟩, ?_⟩
      · rw [List.filterMap_append, gateway, configureMesh_gateway h3, List.append_nil]
      · intro _ _ d hd isMesh
        rw [List.filterMap_append]
        exact List.append_ne_nil_of_right_ne_nil _ (all d hd isMesh)

/-- A reading of the clock, or a POST to the gateway service. -/
def IsPushEvent (e : Portal.Event) : Prop :=
  (∃ t, e = ⟨.now, t⟩) ∨
    ∃ c answer, e = ⟨.call c, answer⟩ ∧ c.verb = .post ∧ c.service = uSERVICE_GATEWAY

/-- A push changes no rule. -/
lemma mutationResponse_pushEvent {e : Portal.Event} (h : IsPushEvent e) : mutationResponse e = none := by
  cases m : mutationResponse e with
  | none => rfl
  | some o =>
    obtain ⟨c', rfl, service, _⟩ := mutationResponse_inv m
    rcases h with ⟨t, eq⟩ | ⟨c, answer, eq, _, gateway⟩
    · cases eq
    · cases eq
      rw [service] at gateway
      exact absurd gateway (by decide)

/-- A push asks for the time and configures devices. -/
lemma pushConfig_pushEvents {bearerToken gatewaySerial : String} {body deviceObj config : Json.Object}
    {devices : List SubscriberDevice} {tr : List Portal.Event} {r : Except CallResult Unit}
    (h : Trace (pushConfig bearerToken body devices gatewaySerial deviceObj config).run tr r) :
    ∀ e ∈ tr, IsPushEvent e := by
  have one : ∀ mac config, Asks IsPushEvent (configure bearerToken mac config) := fun mac =>
    configure_asks (fun t => .inl ⟨t, rfl⟩) fun _ _ _ => .inr ⟨_, _, rfl, rfl, rfl⟩
  exact pushConfig_asks (one gatewaySerial) (fun device _ _ => one device.serialNumber) config tr r h

/-- A push changes no rule. -/
lemma pushConfig_noMutation {bearerToken gatewaySerial : String} {body deviceObj config : Json.Object}
    {devices : List SubscriberDevice} {tr : List Portal.Event} {u : Unit}
    (h : Trace (pushConfig bearerToken body devices gatewaySerial deviceObj config).run tr (.ok u)) :
    tr.filterMap mutationResponse = [] :=
  List.filterMap_eq_nil_iff.mpr fun e he => mutationResponse_pushEvent (pushConfig_pushEvents h e he)

/-! ## Successful requests -/

/-- The configuration of the record with which a list of events starts. -/
def fetchedConfig : List Portal.Event → Option Json.Object
  | ⟨.call _, some ⟨_, .json (.obj deviceObj)⟩⟩ :: _ =>
    Json.Object.getObject? deviceObj "configuration"
  | _ => none

/-- The configuration with the requested SSID and with the snapshot of the last change of the events. -/
def updatedConfig (conv : Conversions) (body config : Json.Object) (tr : List Portal.Event) :
    Except CallResult Json.Object :=
  (if body.has "ssid" then applySsidOverrides conv config body else .ok config).map fun config =>
    if body.has "client" then updateConfigRaw config (lastMutation tr) else config

/-- What a successful request has done: `pre` are the events up to the comparison of the texts. -/
structure Succeeds (conv : Conversions) (condense : Json.Object → String) (bearerToken : String)
    (body : Json.Object) (devices : List SubscriberDevice) (gatewaySerial : String)
    (deviceObj config updated : Json.Object) (access push : List Portal.Event) : Prop where
  /-- the configuration of the record -/
  fetched : deviceObj.getObject? "configuration" = some config
  /-- between the record and the push, only client access is changed -/
  access_events : ∀ e ∈ access, IsAccessEvent e
  /-- where the body has clients, the last of these events is a change -/
  access_last : body.has "client" = true → ∃ pre e o, access = pre ++ [e] ∧ mutationResponse e = some o
  access_none : body.has "client" = false → access = []
  updates : updatedConfig conv body config access = .ok updated
  pushes : condense updated = condense config ∧ push = [] ∨
    condense updated ≠ condense config ∧
      Trace (pushConfig bearerToken body devices gatewaySerial deviceObj updated).run push (.ok ())

variable {conv : Conversions} {condense : Json.Object → String} {bearerToken gatewaySerial : String}
  {subscriberId : String} {body : Option Json.Object} {devices : List SubscriberDevice}
  {tr : List Portal.Event}

/-- What `SetConfig` has done where it succeeds. -/
lemma setConfigSteps_inv {u : Unit}
    (h : Trace (setConfigSteps conv condense bearerToken body devices gatewaySerial subscriberId).run
      tr (.ok u)) :
    ∃ b deviceObj config updated access push, body = some b ∧
      tr = ⟨.call (getConfigCall bearerToken gatewaySerial),
        some ⟨HTTPStatus.ok, .json (.obj deviceObj)⟩⟩ :: (access ++ push) ∧
      Succeeds conv condense bearerToken b devices gatewaySerial deviceObj config updated access push := by
  unfold setConfigSteps at h
  split at h
  case h_1 => cases (trace_attempt_throw.mp h).2
  case h_2 b =>
    obtain ⟨_, h1⟩ := trace_ensure_ok.mp h
    obtain ⟨_, h2⟩ := trace_ensure_ok.mp h1
    obtain ⟨tr1, tr2, ⟨deviceObj, config⟩, rfl, fetch, h3⟩ := trace_attempt_bind_ok.mp h2
    obtain ⟨tr3, tr4, mid, rfl, overrides, h4⟩ := trace_attempt_bind_ok.mp h3
    obtain ⟨access, push, updated, rfl, changes, h5⟩ := trace_attempt_bind_ok.mp h4
    obtain ⟨rfl, fetched⟩ := fetchGateway_inv fetch
    obtain ⟨rfl, ssid⟩ := updateSsid_inv overrides
    obtain ⟨events, client⟩ := updateClientAccess_inv changes
    refine ⟨b, deviceObj, config, updated, access, push, rfl, rfl, fetched, events, ?_, ?_, ?_, ?_⟩
    · intro has
      rcases client with ⟨no, _⟩ | ⟨_, pre, e, o, eq, isMut, _⟩
      · rw [has] at no
        cases no
      · exact ⟨pre, e, o, eq, isMut⟩
    · intro no
      rcases client with ⟨_, rfl, _⟩ | ⟨has, _⟩
      · rfl
      · rw [no] at has
        cases has
    · -- the configuration which is compared has the overrides and the last reply of the entries
      have overridden : (if b.has "ssid" then applySsidOverrides conv config b else .ok config)
          = Except.ok mid := by
        rcases ssid with ⟨no, rfl⟩ | ⟨has, req, parsed, applied⟩
        · rw [no]
          rfl
        · rw [has, if_pos rfl, applySsidOverrides, parsed]
          exact applied
      rw [updatedConfig, overridden]
      rcases client with ⟨no, _, rfl⟩ | ⟨has, pre, e, o, rfl, isMut, rfl⟩
      · rw [no]
        rfl
      · have last : lastMutation (pre ++ [e]) = some o := by
          rw [lastMutation, List.filterMap_append, List.filterMap_cons_some isMut, List.filterMap_nil,
            List.getLast?_concat]
        rw [has, last]
        rfl
    · split at h5
      case isTrue same =>
        obtain ⟨rfl, _⟩ := trace_attempt_pure.mp h5
        exact .inl ⟨same, rfl⟩
      case isFalse differ => exact .inr ⟨differ, h5⟩

/-- A request succeeds when its steps do. -/
lemma setConfig_success {r : CallResult} (ok : r.success = true)
    (h : Trace (setConfig conv condense bearerToken body devices gatewaySerial subscriberId) tr r) :
    ∃ b deviceObj config updated access push, body = some b ∧
      tr = ⟨.call (getConfigCall bearerToken gatewaySerial),
        some ⟨HTTPStatus.ok, .json (.obj deviceObj)⟩⟩ :: (access ++ push) ∧
      Succeeds conv condense bearerToken b devices gatewaySerial deviceObj config updated access push := by
  obtain ⟨tr1, tr2, res, rfl, h1, h2⟩ := trace_bind.mp h
  cases res with
  | ok u =>
    obtain ⟨rfl, rfl⟩ := trace_pure.mp h2
    rw [List.append_nil]
    exact setConfigSteps_inv h1
  | error r' =>
    obtain ⟨rfl, rfl⟩ := trace_pure.mp h2
    rw [((setConfigSteps_settles _ _ _ _ _ _ _).2 _ _ h1).1] at ok
    cases ok

namespace Succeeds

variable {b deviceObj config updated : Json.Object} {access push : List Portal.Event}

/-- The last change of the call is the last change of its client entries. -/
lemma lastMutation_eq
    (h : Succeeds conv condense bearerToken b devices gatewaySerial deviceObj config updated access push) :
    lastMutation (⟨.call (getConfigCall bearerToken gatewaySerial),
      some ⟨HTTPStatus.ok, .json (.obj deviceObj)⟩⟩ :: (access ++ push)) = lastMutation access := by
  have quiet : push.filterMap mutationResponse = [] := by
    rcases h.pushes with ⟨_, rfl⟩ | ⟨_, pushed⟩
    · rfl
    · exact pushConfig_noMutation pushed
  rw [lastMutation, List.filterMap_cons_none rfl, List.filterMap_append, quiet, List.append_nil]
  rfl

/-- The updated configuration carries the requested SSID. -/
lemma carries
    (h : Succeeds conv condense bearerToken b devices gatewaySerial deviceObj config updated access push)
    (ssid : b.has "ssid" = true) :
    ∃ req, parseSsid conv b = .ok req ∧ CarriesSsid req updated := by
  have updates := h.updates
  rw [updatedConfig, if_pos ssid] at updates
  cases overridden : applySsidOverrides conv config b with
  | error r =>
    rw [overridden] at updates
    cases updates
  | ok mid =>
    rw [overridden] at updates
    cases updates
    obtain ⟨req, parsed, applied⟩ := except_bind_ok overridden
    refine ⟨req, parsed, ?_⟩
    have carries := overrideInterfaces_carries applied
    split
    case isTrue =>
      rw [CarriesSsid, ssidEntries_updateConfigRaw]
      exact carries
    case isFalse => exact carries

end Succeeds

end UserPortal.Sdk.Gw
