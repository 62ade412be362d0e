import UserPortal.Interaction.Failure
import UserPortal.RestApi.ActionHandler
import UserPortal.Sdk.Traces

/-!
# The status of a configure request

`SetConfig` reports through two channels, what it returns and the status it leaves, and
`ExecuteConfigure` looks only at the second. The channels agree unless a downstream reply with status
200 lacks what it should carry: such a reply ends the request as a failure and its status is passed on
as it is.

* `Settles p`: the attempt `p` goes on only after confirmed replies, and fails with a status of 200
  exactly when some reply was not confirmed. It is kept by composition.
* `executeConfigure_agrees_iff`: the channels agree exactly when every reply is confirmed.
-/

namespace UserPortal.Sdk.Gw
open Interaction Program

/-- A reply with status 200 which lacks what the SDK expects of it. -/
def Unconfirmed (e : Portal.Event) : Prop :=
  ∃ c r, e = ⟨.call c, some r⟩ ∧ r.status = HTTPStatus.ok ∧
    (c.verb = .get ∧ hasConfiguration r.body.parse = false ∨
      c.verb = .delete ∧ ParentalControl.hasConfigRaw r.body.parse = false)

/-- No reply was unconfirmed. -/
def Confirmed (tr : List Portal.Event) : Prop := ∀ e ∈ tr, ¬ Unconfirmed e

/-- A failure, whose status is 200 exactly when some reply was unconfirmed. -/
def Fails (tr : List Portal.Event) (r : CallResult) : Prop :=
  r.success = false ∧ (r.status = HTTPStatus.ok ↔ ∃ e ∈ tr, Unconfirmed e)

/-- The attempt goes on only after confirmed replies, and fails as `Fails` says. -/
def Settles {α : Type} (p : Attempt α) : Prop :=
  (∀ tr a, Trace p.run tr (.ok a) → Confirmed tr) ∧ ∀ tr r, Trace p.run tr (.error r) → Fails tr r

/-- Where nothing happens, everything is confirmed. -/
lemma confirmed_nil : Confirmed [] := by
  intro e he
  cases he

/-- So it is in two parts which are confirmed each. -/
lemma confirmed_append {tr1 tr2 : List Portal.Event} (h1 : Confirmed tr1) (h2 : Confirmed tr2) :
    Confirmed (tr1 ++ tr2) := by
  intro e he
  rcases List.mem_append.mp he with he | he
  · exact h1 e he
  · exact h2 e he

/-- Confirmed replies before a failure change nothing. -/
lemma Fails.after {tr1 tr2 : List Portal.Event} {r : CallResult} (h1 : Confirmed tr1)
    (h2 : Fails tr2 r) : Fails (tr1 ++ tr2) r := by
  refine ⟨h2.1, h2.2.trans ⟨?_, ?_⟩⟩
  · rintro ⟨e, he, u⟩
    exact ⟨e, List.mem_append_right _ he, u⟩
  · rintro ⟨e, he, u⟩
    rcases List.mem_append.mp he with he | he
    · exact absurd u (h1 e he)
    · exact ⟨e, he, u⟩

/-- A failure of the request itself. -/
lemma Fails.local {tr : List Portal.Event} {r : CallResult} (conf : Confirmed tr)
    (failed : r.Failed) : Fails tr r := by
  refine ⟨failed.1, fun e => absurd e failed.2, ?_⟩
  rintro ⟨e, he, u⟩
  exact absurd u (conf e he)

namespace Settles

variable {α β : Type}

/-- Steps which return without asking settle. -/
lemma pure (a : α) : Settles (pure a : Attempt α) := by
  refine ⟨?_, ?_⟩
  · intro tr b h
    obtain ⟨rfl, _⟩ := trace_attempt_pure.mp h
    exact confirmed_nil
  · intro tr r h
    cases (trace_attempt_pure.mp h).2

/-- A failed call ends the steps. -/
lemma throw {r : CallResult} (failed : r.Failed) : Settles (throw r : Attempt α) := by
  refine ⟨?_, ?_⟩
  · intro tr a h
    cases (trace_attempt_throw.mp h).2
  · intro tr r' h
    obtain ⟨rfl, e⟩ := trace_attempt_throw.mp h
    cases e
    exact .local confirmed_nil failed

/-- Steps which settle one after the other. -/
lemma bind {p : Attempt α} {f : α → Attempt β} (hp : Settles p) (hf : ∀ a, Settles (f a)) :
    Settles (p >>= f) := by
  refine ⟨?_, ?_⟩
  · intro tr b h
    rcases trace_attempt_bind.mp h with ⟨_, e, _⟩ | ⟨tr1, tr2, a, rfl, h1, h2⟩
    · cases e
    · exact confirmed_append (hp.1 tr1 a h1) ((hf a).1 tr2 b h2)
  · intro tr r h
    rcases trace_attempt_bind.mp h with ⟨r', e, h1⟩ | ⟨tr1, tr2, a, rfl, h1, h2⟩
    · cases e
      exact hp.2 tr r h1
    · exact ((hf a).2 tr2 r h2).after (hp.1 tr1 a h1)

/-- A choice between steps which settle. -/
lemma ite {c : Prop} [Decidable c] {p q : Attempt α} (hp : Settles p) (hq : Settles q) :
    Settles (if c then p else q) := by
  split
  · exact hp
  · exact hq

/-- A program none of whose replies needs a confirmation. -/
lemma lift_bind {p : Portal α} {f : α → Attempt β} (hp : ∀ tr a, Trace p tr a → Confirmed tr)
    (hf : ∀ a, Settles (f a)) : Settles ((liftM p : Attempt α) >>= f) := by
  refine ⟨?_, ?_⟩
  · intro tr b h
    obtain ⟨tr1, tr2, a, rfl, h1, h2⟩ := trace_attempt_lift_bind.mp h
    exact confirmed_append (hp tr1 a h1) ((hf a).1 tr2 b h2)
  · intro tr r h
    obtain ⟨tr1, tr2, a, rfl, h1, h2⟩ := trace_attempt_lift_bind.mp h
    exact ((hf a).2 tr2 r h2).after (hp tr1 a h1)

end Settles

/-! ## The calls -/

/-- A call which succeeds only on confirmed replies, and fails as `Fails` says. -/
def Honest (p : Portal CallResult) : Prop :=
  ∀ tr r, Trace p tr r → (r.success = true → Confirmed tr) ∧ (r.success = false → Fails tr r)

/-- A call, after which the attempt goes on only if it succeeded. -/
lemma Settles.call_bind {α : Type} {p : Portal CallResult} {f : CallResult → Attempt α}
    (hp : Honest p) (hf : ∀ r, Settles (f r)) :
    Settles (do
      let r ← p
      ensure r.success (CallResult.failure r.status r.response)
      f r) := by
  have body : ∀ tr1 tr2 a r, Trace p tr1 a → Trace (ensure a.success
      (CallResult.failure a.status a.response) >>= fun _ => f a).run tr2 r →
      a.success = true ∧ Confirmed tr1 ∧ Trace (f a).run tr2 r ∨
        tr2 = [] ∧ r = .error (CallResult.failure a.status a.response) ∧ Fails tr1 a := by
    intro tr1 tr2 a r h1 h2
    cases ok : a.success with
    | true =>
      rw [ok] at h2
      exact .inl ⟨rfl, (hp tr1 a h1).1 ok, h2⟩
    | false =>
      rw [ok] at h2
      obtain ⟨rfl, e⟩ := trace_attempt_throw.mp h2
      exact .inr ⟨rfl, e, (hp tr1 a h1).2 ok⟩
  refine ⟨?_, ?_⟩
  · intro tr b h
    obtain ⟨tr1, tr2, a, rfl, h1, h2⟩ := trace_attempt_lift_bind.mp h
    rcases body tr1 tr2 a _ h1 h2 with ⟨_, conf, h3⟩ | ⟨_, e, _⟩
    · exact confirmed_append conf ((hf a).1 tr2 b h3)
    · cases e
  · intro tr r h
    obtain ⟨tr1, tr2, a, rfl, h1, h2⟩ := trace_attempt_lift_bind.mp h
    rcases body tr1 tr2 a _ h1 h2 with ⟨_, conf, h3⟩ | ⟨rfl, e, fails⟩
    · exact ((hf a).2 tr2 r h3).after conf
    · cases e
      rw [List.append_nil]
      exact ⟨rfl, fails.2⟩

/-- Only replies to reads and to deletions can be unconfirmed. -/
lemma confirmed_post {c : Call} {answer : Option Reply} (post : c.verb = .post) :
    ¬ Unconfirmed ⟨.call c, answer⟩ := by
  rintro ⟨c', r, e, _, ⟨v, _⟩ | ⟨v, _⟩⟩
  · cases e
    rw [post] at v
    cases v
  · cases e
    rw [post] at v
    cases v

/-- The clock is no call. -/
lemma confirmed_now {t : Int} : ¬ Unconfirmed ⟨.now, t⟩ := by
  rintro ⟨c', r, e, _⟩
  cases e

/-- A call with one event, which succeeds unless that event is unconfirmed. -/
lemma honest_event {e : Portal.Event} {r : CallResult}
    (h : r.success = true → ¬ Unconfirmed e)
    (h' : r.success = false → (r.status = HTTPStatus.ok ↔ Unconfirmed e)) :
    (r.success = true → Confirmed [e]) ∧ (r.success = false → Fails [e] r) := by
  refine ⟨?_, ?_⟩
  · intro ok d hd
    rw [List.mem_singleton.mp hd]
    exact h ok
  · intro no
    refine ⟨no, (h' no).trans ⟨fun u => ⟨e, List.mem_singleton_self e, u⟩, ?_⟩⟩
    rintro ⟨d, hd, u⟩
    rwa [List.mem_singleton.mp hd] at u

/-- A call which succeeds on a reply 200 whose object passes a check. -/
lemma honest_checked {c : Call} {answer : Option Reply} {r : CallResult}
    {check : Option Json.Object → Bool}
    (eq : (r.status, r.response) = OpenAPIRequest.lenient none answer)
    (ok : r.success = (r.status = HTTPStatus.ok && check r.response))
    (unconf : ∀ reply, Unconfirmed ⟨.call c, some reply⟩ ↔
      reply.status = HTTPStatus.ok ∧ check reply.body.parse = false) :
    (r.success = true → Confirmed [⟨.call c, answer⟩]) ∧
      (r.success = false → Fails [⟨.call c, answer⟩] r) := by
  rcases OpenAPIRequest.lenient_inv eq with ⟨rfl, s, _⟩ | ⟨reply, rfl, s, e⟩
  · have quiet : ¬ Unconfirmed ⟨.call c, none⟩ := by
      rintro ⟨c', r', eq', _⟩
      cases eq'
    have ne : r.status ≠ HTTPStatus.ok := by
      rw [s]
      decide
    apply honest_event
    · exact fun _ => quiet
    · exact fun _ => ⟨fun s => absurd s ne, fun u => absurd u quiet⟩
  · rw [s, e] at ok
    apply honest_event
    · intro h
      rw [ok, Bool.and_eq_true_iff] at h
      rw [unconf, h.2]
      simp
    · intro h
      rw [ok, Bool.and_eq_false_iff, decide_eq_false_iff_not] at h
      rw [unconf, s]
      tauto

/-- What `GetConfig` reports is what it was answered. -/
lemma getConfig_honest (bearerToken mac : String) : Honest (getConfig bearerToken mac) := by
  intro tr r h
  obtain ⟨answer, rfl, ok, eq⟩ := getConfig_inv h
  apply honest_checked eq ok
  intro reply
  refine ⟨?_, fun h => ⟨_, reply, rfl, h.1, .inl ⟨rfl, h.2⟩⟩⟩
  rintro ⟨c, reply', eq', s, ⟨_, no⟩ | ⟨v, _⟩⟩
  · cases eq'
    exact ⟨s, no⟩
  · cases eq'
    cases v

/-- A body with a `config-raw` is not empty. -/
lemma isEmpty_of_hasConfigRaw {b : Body} (h : ParentalControl.hasConfigRaw b.parse = true) :
    b.isEmpty = false := by
  cases b with
  | text s => cases h
  | json j => rfl

/-- So it is with the removal of a block. -/
lemma deleteClientAccess_honest (subscriberId clientMac : String) :
    Honest (ParentalControl.deleteClientAccess subscriberId clientMac) := by
  intro tr r h
  obtain ⟨answer, rfl, ok, eq⟩ := ParentalControl.deleteClientAccess_inv h
  have ok' : r.success = (r.status = HTTPStatus.ok && ParentalControl.hasConfigRaw r.response) := by
    rw [ok]
    rcases OpenAPIRequest.lenient_inv eq with ⟨_, _, e⟩ | ⟨reply, rfl, _, e⟩
    · rw [e]
      simp [ParentalControl.hasConfigRaw]
    · cases raw : ParentalControl.hasConfigRaw r.response with
      | false => simp
      | true =>
        rw [e] at raw
        simp [isEmpty_of_hasConfigRaw raw]
  apply honest_checked eq ok'
  intro reply
  refine ⟨?_, fun h => ⟨_, reply, rfl, h.1, .inr ⟨rfl, h.2⟩⟩⟩
  rintro ⟨c, reply', eq', s, ⟨v, _⟩ | ⟨_, no⟩⟩
  · cases eq'
    cases v
  · cases eq'
    exact ⟨s, no⟩

/-- And with a block. -/
lemma createClientAccess_honest (subscriberId : String) (body : Json.Object) :
    Honest (ParentalControl.createClientAccess subscriberId body) := by
  intro tr r h
  obtain ⟨answer, rfl, ok, eq⟩ := ParentalControl.createClientAccess_inv h
  have conf : ¬ Unconfirmed
      ⟨.call (ParentalControl.createClientAccessCall subscriberId body), answer⟩ := confirmed_post rfl
  apply honest_event
  · exact fun _ => conf
  · intro no
    refine ⟨fun s => ?_, fun u => absurd u conf⟩
    -- an answer 200 to a creation carries an object, so that the call succeeds
    have s' : (OpenAPIRequest.strict none answer).1 = HTTPStatus.ok := by rw [← eq, s]
    obtain ⟨_, o, _, _, _, eq'⟩ := OpenAPIRequest.strict_ok s'
    rw [eq'] at eq
    have e : r.response = some o := congrArg Prod.snd eq
    rw [ok, s, e] at no
    cases no

/-- And with the request for any entry. -/
lemma requestClientAccess_honest (subscriberId : String) (entry : ValidatedClientEntry) :
    Honest (requestClientAccess subscriberId entry) := by
  rw [requestClientAccess]
  split
  · split
    · intro tr r h
      obtain ⟨t, rest, rfl, h1⟩ := trace_perform_bind.mp h
      obtain ⟨ok, no⟩ := createClientAccess_honest _ _ rest r h1
      have now : Confirmed [⟨.now, t⟩] := by
        intro e he
        rw [List.mem_singleton.mp he]
        exact confirmed_now
      exact ⟨fun s => confirmed_append now (ok s), fun s => (no s).after now⟩
    · exact createClientAccess_honest _ _
  · exact deleteClientAccess_honest _ _

/-! ## The steps of `SetConfig` -/

/-- A bad request is a failure. -/
lemma badRequest_failed (e : ErrorMsg) : (badRequest e).Failed := by
  refine ⟨rfl, ?_⟩
  show HTTPStatus.badRequest ≠ HTTPStatus.ok
  decide

/-- An internal error is a failure. -/
lemma internalError_failed : internalError.Failed := by
  refine ⟨rfl, ?_⟩
  show HTTPStatus.internalServerError ≠ HTTPStatus.ok
  decide

/-- A failed push stays a failure. -/
lemma configureFailure_failed (r : CallResult) : (configureFailure r).Failed := by
  refine ⟨rfl, ?_⟩
  show (if r.status = HTTPStatus.ok then HTTPStatus.internalServerError else r.status) ≠ HTTPStatus.ok
  split
  case isTrue => decide
  case isFalse ne => exact ne

/-- A check of the request itself. -/
lemma Settles.ensure_bind {α : Type} {ok : Bool} {r : CallResult} {p : Attempt α}
    (failed : r.Failed) (hp : Settles p) : Settles (do ensure ok r; p) := by
  apply Settles.bind
  · exact .ite (.pure ()) (.throw failed)
  · exact fun _ => hp

/-- The failures of a pure step are failures of the request itself. -/
lemma Settles.of_except {α : Type} {x : Except CallResult α}
    (h : ∀ r, x = .error r → r.Failed) : Settles (ExceptT.mk (Pure.pure x) : Attempt α) := by
  cases x with
  | ok a => exact .pure a
  | error r => exact .throw (h r rfl)

/-- A refused name or password is a failure. -/
lemma validateSsid_failed {name password : String} {r : CallResult}
    (h : validateSsid name password = .error r) : r.Failed := by
  rw [validateSsid] at h
  split at h
  · cases h
    exact badRequest_failed _
  · split at h
    · cases h
      exact badRequest_failed _
    · split at h
      · cases h
        exact badRequest_failed _
      · cases h

/-- An SSID which cannot be read is a failure. -/
lemma parseSsid_failed {conv : Conversions} {body : Json.Object} {r : CallResult}
    (h : parseSsid conv body = .error r) : r.Failed := by
  rw [parseSsid] at h
  split at h
  · cases h
    exact badRequest_failed _
  · split at h
    · exact validateSsid_failed h
    · cases h
      exact badRequest_failed _

/-- An SSID which cannot be changed is a failure. -/
lemma overrideSsid_failed {req : SsidRequest} {j : Json} {r : CallResult}
    (h : overrideSsid req j = .error r) : r.Failed := by
  rw [overrideSsid] at h
  split at h
  · split at h
    · cases h
    · split at h
      · cases h
      · cases h
        exact internalError_failed
  · cases h

/-- So is an interface. -/
lemma overrideInterface_failed {req : SsidRequest} {j : Json} {r : CallResult}
    (h : overrideInterface req j = .error r) : r.Failed := by
  rw [overrideInterface] at h
  split at h
  · split at h
    · cases h
    · cases h
    · rcases except_bind_error h with err | ⟨ssids, _, err⟩
      · obtain ⟨ssid, _, err⟩ := mapM_error err
        exact overrideSsid_failed err
      · cases err
  · cases h

/-- So are the interfaces of a configuration. -/
lemma overrideInterfaces_failed {req : SsidRequest} {config : Json.Object} {r : CallResult}
    (h : overrideInterfaces req config = .error r) : r.Failed := by
  rw [overrideInterfaces] at h
  split at h
  · cases h
    exact internalError_failed
  · cases h
    exact internalError_failed
  · rcases except_bind_error h with err | ⟨overridden, _, err⟩
    · obtain ⟨iface, _, err⟩ := mapM_error err
      exact overrideInterface_failed err
    · split at err
      · cases err
      · cases err
        exact internalError_failed

/-- The SSID part of a request only ends with failures. -/
lemma applySsidOverrides_failed {conv : Conversions} {config body : Json.Object} {r : CallResult}
    (h : applySsidOverrides conv config body = .error r) : r.Failed := by
  rcases except_bind_error h with err | ⟨req, _, err⟩
  · exact parseSsid_failed err
  · exact overrideInterfaces_failed err

/-- Fetching the gateway settles. -/
lemma fetchGateway_settles (bearerToken gatewaySerial : String) :
    Settles (fetchGateway bearerToken gatewaySerial) := by
  apply Settles.call_bind (getConfig_honest _ _)
  intro r
  split
  · split
    · exact .pure _
    · exact .throw (badRequest_failed _)
  · exact .throw (badRequest_failed _)

/-- The clock needs no confirmation. -/
lemma Settles.clock_bind {α : Type} {f : Int → Attempt α} (hf : ∀ t, Settles (f t)) :
    Settles (do
      let t ← Portal.clock
      f t) := by
  apply Settles.lift_bind
  · intro tr t h
    obtain ⟨t', rest, rfl, h1⟩ := trace_ask.mp h
    obtain ⟨rfl, _⟩ := trace_ret.mp h1
    intro e he
    rw [List.mem_singleton.mp he]
    exact confirmed_now
  · exact hf

/-- `Configure` needs no confirmation. -/
lemma Settles.configure_bind {α : Type} {bearerToken mac : String} {config : Json.Object}
    {f : CallResult × Json.Object → Attempt α} (hf : ∀ r, Settles (f r)) :
    Settles (do
      let r ← configure bearerToken mac config
      f r) := by
  apply Settles.lift_bind
  · intro tr r h
    obtain ⟨r, config'⟩ := r
    obtain ⟨t, answer, rfl, _⟩ := configure_inv h
    intro e he
    rcases List.mem_cons.mp he with rfl | he
    · exact confirmed_now
    · rw [List.mem_singleton.mp he]
      exact confirmed_post rfl
  · exact hf

/-- So does the validation of an entry. -/
lemma validateClientEntry_settles (conv : Conversions) (entry : Json) :
    Settles (validateClientEntry conv entry) := by
  rw [validateClientEntry]
  split
  case h_2 => exact .throw (badRequest_failed _)
  case h_1 e _ =>
    split
    case h_2 => exact .throw (badRequest_failed _)
    case h_1 macValue accessValue _ _ =>
      split
      case h_2 => exact .throw (badRequest_failed _)
      case h_1 mac access duration _ _ _ =>
        dsimp only
        split
        case h_1 => exact .throw (badRequest_failed _)
        case h_2 mac' _ =>
          apply Settles.ite
          · exact .throw (badRequest_failed _)
          · cases duration with
            | absent => exact .pure _
            | null => exact .ite (.throw (badRequest_failed _)) (.throw (badRequest_failed _))
            | minutes d =>
              apply Settles.ite
              · exact .throw (badRequest_failed _)
              · split
                · apply Settles.clock_bind
                  exact fun t => .ensure_bind (badRequest_failed _) (.pure _)
                · exact .throw (badRequest_failed _)

/-- And that of all entries. -/
lemma validateClientEntries_settles (conv : Conversions) (entries : List Json) :
    Settles (validateClientEntries conv entries) := by
  induction entries with
  | nil => exact .pure _
  | cons entry entries ih =>
    exact .bind (validateClientEntry_settles conv entry) fun _ => .bind ih fun _ => .pure _

/-- The requests of the entries settle. -/
lemma requestClientAccesses_settles (subscriberId : String) (entries : List ValidatedClientEntry)
    (last : Option Json.Object) : Settles (requestClientAccesses subscriberId entries last) := by
  induction entries generalizing last with
  | nil => exact .pure _
  | cons entry entries ih =>
    apply Settles.call_bind (requestClientAccess_honest _ _)
    exact fun r => ih r.response

/-- The SSID part settles. -/
lemma updateSsid_settles (conv : Conversions) (config body : Json.Object) :
    Settles (updateSsid conv config body) :=
  .ite (.of_except fun _ => applySsidOverrides_failed) (.pure _)

/-- The client part settles. -/
lemma updateClientAccess_settles (conv : Conversions) (config body : Json.Object)
    (subscriberId : String) : Settles (updateClientAccess conv config body subscriberId) := by
  apply Settles.ite
  · rw [applyClientAccessChanges]
    split
    · exact .throw (badRequest_failed _)
    · exact .throw (badRequest_failed _)
    · exact .bind (validateClientEntries_settles conv _) fun _ =>
        .bind (requestClientAccesses_settles subscriberId _ _) fun _ => .pure _
  · exact .pure _

/-- Configuring the mesh devices settles. -/
lemma configureMesh_settles (bearerToken gatewaySerial : String) (devices : List SubscriberDevice)
    (meshConfig : Json.Object) :
    Settles (configureMesh bearerToken gatewaySerial devices meshConfig) := by
  induction devices generalizing meshConfig with
  | nil => exact .pure _
  | cons device devices ih =>
    apply Settles.ite
    · exact ih meshConfig
    · apply Settles.configure_bind
      exact fun r => .ensure_bind (configureFailure_failed _) (ih r.2)

/-- Pushing the configuration settles. -/
lemma pushConfig_settles (bearerToken : String) (body : Json.Object)
    (subscriberDevices : List SubscriberDevice) (gatewaySerial : String)
    (deviceObj config : Json.Object) :
    Settles (pushConfig bearerToken body subscriberDevices gatewaySerial deviceObj config) := by
  apply Settles.configure_bind
  intro r
  apply Settles.ensure_bind (configureFailure_failed _)
  apply Settles.ite
  · exact .pure _
  · rw [pushMeshConfig]
    split
    · exact configureMesh_settles _ _ _ _
    · exact .throw internalError_failed

/-- All steps of `SetConfig` settle. -/
lemma setConfigSteps_settles (conv : Conversions) (condense : Json.Object → String)
    (bearerToken : String) (body : Option Json.Object) (subscriberDevices : List SubscriberDevice)
    (gatewaySerial subscriberId : String) :
    Settles (setConfigSteps conv condense bearerToken body subscriberDevices gatewaySerial
      subscriberId) := by
  cases body with
  | none => exact .throw (badRequest_failed _)
  | some body =>
    apply Settles.ensure_bind (badRequest_failed _)
    apply Settles.ensure_bind (badRequest_failed _)
    apply Settles.bind (fetchGateway_settles _ _)
    intro fetched
    apply Settles.bind (updateSsid_settles _ _ _)
    intro updated
    apply Settles.bind (updateClientAccess_settles _ _ _ _)
    intro updated
    apply Settles.ite
    · exact .pure _
    · exact pushConfig_settles _ _ _ _ _ _

/-- `SetConfig` succeeds with status 200 after confirmed replies, or fails as `Fails` says. -/
lemma setConfig_settles {conv : Conversions} {condense : Json.Object → String} {bearerToken : String}
    {body : Option Json.Object} {subscriberDevices : List SubscriberDevice}
    {gatewaySerial subscriberId : String} {tr : List Portal.Event} {r : CallResult}
    (h : Trace (setConfig conv condense bearerToken body subscriberDevices gatewaySerial subscriberId)
      tr r) :
    r.success = true ∧ r.status = HTTPStatus.ok ∧ Confirmed tr ∨ Fails tr r := by
  obtain ⟨ok, err⟩ := setConfigSteps_settles conv condense bearerToken body subscriberDevices
    gatewaySerial subscriberId
  obtain ⟨tr1, tr2, a, rfl, h1, h2⟩ := trace_bind.mp h
  cases a with
  | ok a =>
    obtain ⟨rfl, rfl⟩ := trace_pure.mp h2
    rw [List.append_nil]
    exact .inl ⟨rfl, rfl, ok tr1 a h1⟩
  | error r' =>
    obtain ⟨rfl, rfl⟩ := trace_pure.mp h2
    rw [List.append_nil]
    exact .inr (err tr1 r h1)

end UserPortal.Sdk.Gw

namespace UserPortal.RestApi.ActionHandler
open Interaction Program Sdk Gw

/-- What `SetConfig` returns agrees with the status it leaves, and the subscriber is answered with a
success only when it returned true, exactly when every reply was confirmed. -/
theorem executeConfigure_agrees_iff {conv : Conversions} {condense : Json.Object → String}
    {method : String} {parsedBody : Option Json.Object} {subscriberDevices : List SubscriberDevice}
    {gatewaySerial subscriberId : String} {tr : List Portal.Event} {ok : Bool}
    {answer : HandlerAnswer}
    (h : Trace (executeConfigure conv condense method parsedBody subscriberDevices gatewaySerial
      subscriberId) tr (ok, answer)) :
    ∃ r, Trace (setConfig conv condense "" parsedBody subscriberDevices gatewaySerial subscriberId)
        tr r ∧
      (((r.success = true ↔ r.status = HTTPStatus.ok) ∧
          (answer.status = HTTPStatus.ok → r.success = true)) ↔ Confirmed tr) := by
  obtain ⟨tr1, tr2, r, rfl, h1, h2⟩ := trace_bind.mp h
  obtain ⟨rfl, e⟩ := trace_pure.mp h2
  cases e
  rw [List.append_nil]
  refine ⟨r, h1, ?_⟩
  rw [returnSDKResponse_status]
  rcases setConfig_settles h1 with ⟨ok, s, conf⟩ | ⟨no, s⟩
  · simp [ok, s, conf]
  · have conf : Confirmed tr1 ↔ ¬ ∃ e ∈ tr1, Unconfirmed e := by
      refine ⟨?_, ?_⟩
      · intro all some
        obtain ⟨e, mem, unconfirmed⟩ := some
        exact all e mem unconfirmed
      · intro none e mem unconfirmed
        exact none ⟨e, mem, unconfirmed⟩
    rw [conf, ← s, no]
    simp

/-! ### A device record without a configuration -/

/-- The gateway service answers 200 with an empty record. -/
def emptyRecord : List Portal.Event :=
  [⟨.call (getConfigCall "" "gateway"), some ⟨HTTPStatus.ok, .json (.obj [])⟩⟩]

def gatewayDevice : SubscriberDevice where
  serialNumber := "gateway"
  deviceGroup := "olg"

/-- The gateway answers with an empty record, and the request is answered with success. -/
lemma emptyRecord_trace :
    Trace (executeConfigure Conversions.strict (fun _ => "") "POST" (some []) [gatewayDevice] "gateway"
      "subscriber") emptyRecord (true, HandlerAnswer.success "POST") := .ask _ (.ret _)

/-- The statement for this run, in which the record is not confirmed. -/
theorem executeConfigure_agrees_iff_emptyRecord :
    ∃ r, Trace (setConfig Conversions.strict (fun _ => "") "" (some []) [gatewayDevice] "gateway"
        "subscriber") emptyRecord r ∧
      (((r.success = true ↔ r.status = HTTPStatus.ok) ∧
          ((HandlerAnswer.success "POST").status = HTTPStatus.ok → r.success = true)) ↔
        Confirmed emptyRecord) :=
  executeConfigure_agrees_iff emptyRecord_trace

/-- `SetConfig` fails with status 200, and the subscriber is told that the command completed. -/
theorem executeConfigure_emptyRecord :
    Trace (setConfig Conversions.strict (fun _ => "") "" (some []) [gatewayDevice] "gateway"
      "subscriber") emptyRecord
      { success := false, status := HTTPStatus.ok, response := some [] } ∧
    Trace (executeConfigure Conversions.strict (fun _ => "") "POST" (some []) [gatewayDevice] "gateway"
      "subscriber") emptyRecord (true, HandlerAnswer.success "POST") ∧
    (HandlerAnswer.success "POST").status = HTTPStatus.ok :=
  ⟨.ask _ (.ret _), emptyRecord_trace, rfl⟩

end UserPortal.RestApi.ActionHandler
