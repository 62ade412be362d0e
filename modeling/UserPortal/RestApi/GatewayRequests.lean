import UserPortal.Interaction.Interleaving
import UserPortal.RestApi.MutationTraces

/-!
# Requests which rewrite a gateway

A configure request and a change of the parental-control rules each fetch the whole configuration of the
gateway, change a part of it and send the whole back.

* `Services` is what the gateway and the parental-control service hold; each processes one message at a
  time.
* `Rewrites` is what the events of a successful request do to the gateway, whichever request it is.
* `Request.rewrites`: every successful request does so.
-/

namespace UserPortal.RestApi.ParentalControl
open Interaction Program Calendar Sdk Sdk.Gw

/-! ## The services -/

/-- The configuration which the gateway holds and the snapshot of the parental-control rules. -/
structure Services where
  config : Json.Object
  snapshot : List Json
  deriving DecidableEq

section Services

variable (conv : Conversions) (gw : String)

/-- What the services hold after an event. -/
def Services.next (s : Services) (e : Portal.Event) : Services where
  config := (configured gw e).getD s.config
  snapshot := (produced e).getD s.snapshot

/-- The services answer with what they hold. -/
structure Services.Answers (s : Services) (e : Portal.Event) : Prop where
  fetched_config : ∀ config ∈ fetched gw e, config = s.config
  /-- a change of the rules is answered with a snapshot -/
  produced_snapshot : isMutation e = true → (produced e).isSome
  /-- the provisioning service lists the gateway of the subscriber -/
  listed_gateway : ∀ devices ∈ Prov.listed conv e, gatewaySerialOf devices = gw

/-- The services process one event. -/
def serves (s : Services) (e : Portal.Event) (s' : Services) : Prop :=
  s.Answers conv gw e ∧ s' = s.next gw e

instance (s : Services) (e : Portal.Event) : Decidable (s.Answers conv gw e) :=
  decidable_of_iff ((∀ config ∈ fetched gw e, config = s.config) ∧
    (isMutation e = true → (produced e).isSome) ∧
    ∀ devices ∈ Prov.listed conv e, gatewaySerialOf devices = gw)
    ⟨fun h => ⟨h.1, h.2.1, h.2.2⟩, fun h => ⟨h.1, h.2, h.3⟩⟩

/-- The services process a list of events. -/
def Services.accepts (s : Services) : List Portal.Event → Bool
  | [] => true
  | e :: tr => decide (s.Answers conv gw e) && (s.next gw e).accepts tr

variable {conv gw} in
lemma Services.accepts_serves {s : Services} {tr : List Portal.Event}
    (h : s.accepts conv gw tr = true) :
    Accepts (serves conv gw) s tr (tr.foldl (Services.next gw) s) := by
  induction tr generalizing s with
  | nil => exact .nil s
  | cons e tr ih =>
    obtain ⟨answers, rest⟩ := Bool.and_eq_true_iff.mp h
    exact .cons ⟨of_decide_eq_true answers, rfl⟩ (ih rest)

/-- The configuration of the gateway. -/
def gatewayCell : Cell (serves conv gw) Json.Object where
  value s := s.config
  reads := fetched gw
  writes := configured gw
  read_value _ _ _ v st read := st.1.fetched_config v read
  write_value _ _ _ st := congrArg Services.config st.2
  read_quiet _ _ read := configured_of_fetched read

/-- The snapshot of the rules, which nothing reads but the replies to changes. -/
def snapshotCell : Cell (serves conv gw) (List Json) where
  value s := s.snapshot
  reads _ := none
  writes := produced
  read_value _ _ _ _ _ read := nomatch read
  write_value _ _ _ st := congrArg Services.snapshot st.2
  read_quiet _ _ read := nomatch read

end Services

/-! ## Requests -/

/-- A request which rewrites the configuration of the gateway. -/
inductive Request where
  | setConfig (bearerToken : String) (body : Option Json.Object) (devices : List SubscriberDevice)
  | mutation (bearerToken : String) (m : Mutation)

namespace Request

variable (conv : Conversions) (condense : Json.Object → String) (locateZone : String → Option Zone)
  (gw subscriberId operatorId : String)

/-- What a request does, and whether it succeeds: a call of `SetConfig`, or a handler which changes the
rules. -/
def run : Request → Portal Bool
  | setConfig bearerToken body devices => do
    let r ← Gw.setConfig conv condense bearerToken body devices gw subscriberId
    return r.success
  | mutation bearerToken m => do
    let sent ← m.handle conv locateZone bearerToken subscriberId operatorId
    return sent.map (fun answer => answer.status) = [HTTPStatus.ok]

/-- The SSID which a request asks for. -/
def ssid : Request → Option SsidRequest
  | setConfig _ (some body) _ => if body.has "ssid" then (parseSsid conv body).toOption else none
  | _ => none

end Request

/-! ## What a request does -/

section Rewrites

variable (conv : Conversions) (gw : String)

/-- What the events of a successful request do to the gateway. -/
structure Rewrites (ssid : Option SsidRequest) (tr : List Portal.Event) : Prop where
  /-- what is configured is what was fetched, with the snapshot of the request's last change and with
  its SSID -/
  configures : ∀ a e b c, tr = a ++ e :: b → configured gw e = some c →
    ∃ config, (gatewayCell conv gw).Holds config a ∧
      (∀ cmds, lastProduced a = some cmds → RunsSnapshot c cmds) ∧
      (lastProduced a = none → c.get? "config-raw" = config.get? "config-raw") ∧
      (∀ req, ssid = some req → CarriesSsid req c) ∧
      (ssid = none → ssidEntries c = ssidEntries config)
  /-- where nothing is configured after the last change, what was fetched already runs its snapshot -/
  keeps : ∀ a e b cmds, tr = a ++ e :: b → produced e = some cmds →
    (∀ d ∈ b, configured gw d = none ∧ produced d = none) →
    ∃ config, (gatewayCell conv gw).Holds config a ∧ RunsSnapshot config cmds
  /-- where nothing is configured after a fetch, what was fetched already carries the SSID -/
  carries : ∀ req a e b config, ssid = some req → tr = a ++ e :: b → fetched gw e = some config →
    (∀ d ∈ b, configured gw d = none) → CarriesSsid req config
  /-- a request which changes SSIDs comes to the gateway -/
  comes : ∀ req, ssid = some req → ∃ e ∈ tr, (fetched gw e).isSome

variable {conv gw} {condense : Json.Object → String}

/-- A call to another service than the parental-control service changes no rule. -/
lemma produced_of_service {c : Call} {answer : Option Reply}
    (ne : c.service ≠ uSERVICE_MANGO_PARENTAL_CONTROL) : produced ⟨.call c, answer⟩ = none := by
  apply produced_of_mutationResponse
  cases e : mutationResponse ⟨.call c, answer⟩ with
  | none => rfl
  | some o =>
    obtain ⟨c', eq, service, _⟩ := mutationResponse_inv e
    cases eq
    exact absurd service ne

/-- A change of a client's access and a push return no configuration. -/
lemma fetched_eq_none {e : Portal.Event} (h : IsAccessEvent e ∨ IsPushEvent e) :
    fetched gw e = none := by
  cases f : fetched gw e with
  | none => rfl
  | some config =>
    obtain ⟨c, answer, rfl, get, gateway⟩ := fetched_inv f
    rcases h with (⟨t, eq⟩ | ⟨o, isMut⟩) | ⟨t, eq⟩ | ⟨c', answer', eq, post, _⟩
    · cases eq
    · obtain ⟨c', eq, service, _⟩ := mutationResponse_inv isMut
      cases eq
      rw [service] at gateway
      exact absurd gateway (by decide)
    · cases eq
    · cases eq
      rw [post] at get
      cases get

/-! ### Configure requests -/

section SetConfig

variable {bearerToken : String} {b : Json.Object}
  {devices : List SubscriberDevice} {deviceObj config updated : Json.Object}
  {access push : List Portal.Event}

/-- The fetch with which a configure request starts. -/
def fetchEvent (bearerToken gw : String) (deviceObj : Json.Object) : Portal.Event :=
  ⟨.call (getConfigCall bearerToken gw), some ⟨HTTPStatus.ok, .json (.obj deviceObj)⟩⟩

/-- A successful configure request sends what it has fetched, updated, or has nothing to update. -/
lemma setConfig_shape
    (h : Succeeds conv condense bearerToken b devices gw deviceObj config updated access push) :
    condense updated = condense config ∧ push = [] ∨
      ∃ p1 x p2 now, push = p1 ++ x :: p2 ∧ configured gw x = some (stampConfig updated now) ∧
        (∀ d ∈ p1, configured gw d = none) ∧ (∀ d ∈ p2, configured gw d = none) ∧
        ∀ d ∈ push, IsPushEvent d := by
  rcases h.pushes with ⟨same, rfl⟩ | ⟨_, pushed⟩
  · exact .inl ⟨same, rfl⟩
  · obtain ⟨_, ⟨now, once⟩, _⟩ := pushConfig_inv pushed
    obtain ⟨p1, x, p2, rfl, before, cfg, after⟩ := List.filterMap_eq_cons_iff.mp once
    refine .inr ⟨p1, x, p2, now, rfl, cfg, before, ?_, pushConfig_pushEvents pushed⟩
    exact List.filterMap_eq_nil_iff.mp after

lemma produced_fetchEvent : produced (fetchEvent bearerToken gw deviceObj) = none :=
  produced_of_service (show uSERVICE_GATEWAY ≠ uSERVICE_MANGO_PARENTAL_CONTROL by decide)

lemma fetched_fetchEvent
    (h : Succeeds conv condense bearerToken b devices gw deviceObj config updated access push) :
    fetched gw (fetchEvent bearerToken gw deviceObj) = some config := fetched_getConfigCall h.fetched

/-- What comes before the push configures nothing. -/
lemma configured_beforePush
    (h : Succeeds conv condense bearerToken b devices gw deviceObj config updated access push) :
    ∀ d ∈ fetchEvent bearerToken gw deviceObj :: access, configured gw d = none := by
  intro d hd
  rcases List.mem_cons.mp hd with rfl | hd
  · exact configured_of_fetched (fetched_fetchEvent h)
  · exact configured_accessEvent (h.access_events d hd)

/-- The updated configuration carries the SSID which the request asks for. -/
lemma setConfig_ssid
    (h : Succeeds conv condense bearerToken b devices gw deviceObj config updated access push) :
    (∀ req, (Request.setConfig bearerToken (some b) devices).ssid conv = some req →
        CarriesSsid req updated) ∧
      ((Request.setConfig bearerToken (some b) devices).ssid conv = none →
        ssidEntries updated = ssidEntries config) := by
  rw [Request.ssid]
  split
  case isTrue has =>
    obtain ⟨req', parsed, carries⟩ := h.carries has
    rw [parsed]
    refine ⟨?_, nofun⟩
    intro req eq
    cases eq
    exact carries
  case isFalse no => exact ⟨nofun, fun _ => h.entries (by simpa using no)⟩

/-- An event of a configure request which changes the rules is one of its client-access changes. -/
lemma setConfig_split
    (h : Succeeds conv condense bearerToken b devices gw deviceObj config updated access push)
    {a b' : List Portal.Event} {e : Portal.Event} {cmds : List Json} (prod : produced e = some cmds)
    (split : fetchEvent bearerToken gw deviceObj :: (access ++ push) = a ++ e :: b') :
    ∃ a' rest, a = fetchEvent bearerToken gw deviceObj :: a' ∧ access = a' ++ e :: rest ∧
      b' = rest ++ push := by
  have notPushed : e ∉ push := by
    intro mem
    rcases setConfig_shape h with ⟨_, rfl⟩ | ⟨_, _, _, _, _, _, _, _, events⟩
    · cases mem
    · rw [produced_of_mutationResponse (mutationResponse_pushEvent (events e mem))] at prod
      cases prod
  cases a with
  | nil =>
    cases split
    rw [produced_fetchEvent] at prod
    cases prod
  | cons f a =>
    injection split with eq split
    subst eq
    rcases List.append_eq_append_iff.mp split with ⟨m, rfl, eq⟩ | ⟨m, eq, eq'⟩
    · rw [eq] at notPushed
      exact absurd (List.mem_append_right m (List.mem_cons_self ..)) notPushed
    · cases m with
      | nil =>
        rw [List.nil_append] at eq'
        rw [← eq'] at notPushed
        exact absurd (List.mem_cons_self ..) notPushed
      | cons e' m =>
        injection eq' with eq1 eq2
        subst eq1
        exact ⟨a, m, rfl, eq, eq2⟩

/-- Only the push of a configure request configures the gateway, once. -/
lemma setConfig_configures
    (h : Succeeds conv condense bearerToken b devices gw deviceObj config updated access push)
    {a b' : List Portal.Event} {e : Portal.Event} {c : Json.Object} (cfg : configured gw e = some c)
    (split : fetchEvent bearerToken gw deviceObj :: (access ++ push) = a ++ e :: b') :
    ∃ p1 now, a = fetchEvent bearerToken gw deviceObj :: (access ++ p1) ∧ c = stampConfig updated now ∧
      (∀ d ∈ a, configured gw d = none) ∧ ∀ d ∈ p1, IsPushEvent d := by
  have quiet := configured_beforePush h
  rcases setConfig_shape h with ⟨_, rfl⟩ | ⟨p1, x, p2, now, rfl, cfg', before, after, events⟩
  · rw [List.append_nil] at split
    have none := quiet e (split ▸ List.mem_append_right a (List.mem_cons_self ..))
    rw [cfg] at none
    cases none
  · have none_before : ∀ d ∈ fetchEvent bearerToken gw deviceObj :: (access ++ p1),
        configured gw d = none := by
      intro d hd
      rcases List.mem_append.mp (show d ∈ (fetchEvent bearerToken gw deviceObj :: access) ++ p1 from hd)
        with hd | hd
      · exact quiet d hd
      · exact before d hd
    have split' : a ++ e :: b' = (fetchEvent bearerToken gw deviceObj :: (access ++ p1)) ++ x :: p2 := by
      rw [← split]
      simp
    obtain ⟨rfl, rfl, rfl⟩ := split_unique (P := fun d => (configured gw d).isSome) split'
      (Option.isSome_of_eq_some cfg) (fun d hd => by rw [none_before d hd]; exact nofun)
      fun d hd => by rw [after d hd]; exact nofun
    rw [cfg'] at cfg
    cases cfg
    exact ⟨p1, now, rfl, rfl, none_before, fun d hd => events d (List.mem_append_left _ hd)⟩

/-- What a configure request sends to the gateway was fetched, but for its SSID and the snapshot. -/
lemma setConfig_sends
    (h : Succeeds conv condense bearerToken b devices gw deviceObj config updated access push)
    (answered : ∀ e ∈ access, isMutation e = true → (produced e).isSome)
    {a b' : List Portal.Event} {e : Portal.Event} {c : Json.Object}
    (split : fetchEvent bearerToken gw deviceObj :: (access ++ push) = a ++ e :: b')
    (cfg : configured gw e = some c) :
    (gatewayCell conv gw).Holds config a ∧
      (∀ cmds, lastProduced a = some cmds → RunsSnapshot c cmds) ∧
      (lastProduced a = none → c.get? "config-raw" = config.get? "config-raw") ∧
      (∀ req, (Request.setConfig bearerToken (some b) devices).ssid conv = some req →
        CarriesSsid req c) ∧
      ((Request.setConfig bearerToken (some b) devices).ssid conv = none →
        ssidEntries c = ssidEntries config) := by
  obtain ⟨snapshot, noSnapshot⟩ := h.snapshot answered
  obtain ⟨carries, entries⟩ := setConfig_ssid h
  obtain ⟨p1, now, rfl, rfl, none_before, events⟩ := setConfig_configures h cfg split
  have last : lastProduced (fetchEvent bearerToken gw deviceObj :: (access ++ p1)) =
      lastProduced access := by
    have none : p1.filterMap produced = [] := List.filterMap_eq_nil_iff.mpr fun d hd =>
      produced_of_mutationResponse (mutationResponse_pushEvent (events d hd))
    rw [lastProduced, List.filterMap_cons_none produced_fetchEvent, List.filterMap_append, none,
      List.append_nil]
    rfl
  rw [last, ssidEntries_stampConfig, stampConfig, Json.Object.get?_set_of_ne _ _ (by decide),
    ← stampConfig]
  refine ⟨⟨[], _, access ++ p1, rfl, fetched_fetchEvent h, ?_⟩, ?_, noSnapshot, ?_, entries⟩
  · exact fun d hd => none_before d (List.mem_cons_of_mem _ hd)
  · exact fun cmds eq => runsSnapshot_stampConfig.mpr (snapshot cmds eq)
  · intro req asks
    rw [CarriesSsid, ssidEntries_stampConfig]
    exact carries req asks

/-- Where a configure request sends nothing after its last change, the gateway already ran the
snapshot. -/
lemma setConfig_keeps (injective : Function.Injective condense)
    (h : Succeeds conv condense bearerToken b devices gw deviceObj config updated access push)
    (answered : ∀ e ∈ access, isMutation e = true → (produced e).isSome)
    {a b' : List Portal.Event} {e : Portal.Event} {cmds : List Json}
    (split : fetchEvent bearerToken gw deviceObj :: (access ++ push) = a ++ e :: b')
    (prod : produced e = some cmds)
    (quietAfter : ∀ d ∈ b', configured gw d = none ∧ produced d = none) :
    (gatewayCell conv gw).Holds config a ∧ RunsSnapshot config cmds := by
  obtain ⟨snapshot, _⟩ := h.snapshot answered
  obtain ⟨a, rest, rfl, rfl, rfl⟩ := setConfig_split h prod split
  rcases setConfig_shape h with ⟨same, rfl⟩ | ⟨p1, x, p2, now, rfl, cfg, _⟩
  · have last : lastProduced (a ++ e :: rest) = some cmds := by
      have none : rest.filterMap produced = [] := List.filterMap_eq_nil_iff.mpr fun d hd =>
        (quietAfter d (List.mem_append_left _ hd)).2
      rw [lastProduced, List.filterMap_append, List.filterMap_cons_some prod, none,
        List.getLast?_concat]
    refine ⟨⟨[], _, a, rfl, fetched_fetchEvent h, ?_⟩, ?_⟩
    · intro d hd
      exact configured_beforePush h d (List.mem_cons_of_mem _ (List.mem_append_left _ hd))
    · rw [← injective same]
      exact snapshot cmds last
  · -- a push follows the change
    have none := (quietAfter x (by simp)).1
    rw [cfg] at none
    cases none

/-- Where a configure request sends nothing to the gateway, it already carried the SSID. -/
lemma setConfig_carries (injective : Function.Injective condense)
    (h : Succeeds conv condense bearerToken b devices gw deviceObj config updated access push)
    {req : SsidRequest} {a b' : List Portal.Event} {e : Portal.Event} {config' : Json.Object}
    (asks : (Request.setConfig bearerToken (some b) devices).ssid conv = some req)
    (split : fetchEvent bearerToken gw deviceObj :: (access ++ push) = a ++ e :: b')
    (f : fetched gw e = some config') (quietAfter : ∀ d ∈ b', configured gw d = none) :
    CarriesSsid req config' := by
  cases a with
  | nil =>
    injection split with eq1 eq2
    subst eq1 eq2
    rw [fetched_fetchEvent h] at f
    cases f
    rcases setConfig_shape h with ⟨same, rfl⟩ | ⟨p1, x, p2, now, rfl, cfg, _⟩
    · rw [← injective same]
      exact (setConfig_ssid h).1 req asks
    · have none := quietAfter x (by simp)
      rw [cfg] at none
      cases none
  | cons f' a =>
    -- the only fetch is the first event
    injection split with _ split
    have mem : e ∈ access ++ push := split ▸ List.mem_append_right a (List.mem_cons_self ..)
    have none : fetched gw e = none := by
      apply fetched_eq_none
      rcases List.mem_append.mp mem with mem | mem
      · exact .inl (h.access_events e mem)
      · rcases setConfig_shape h with ⟨_, rfl⟩ | ⟨_, _, _, _, _, _, _, _, events⟩
        · cases mem
        · exact .inr (events e mem)
    rw [none] at f
    cases f

/-- What a configure request does to the gateway. -/
lemma setConfig_rewrites (injective : Function.Injective condense)
    (h : Succeeds conv condense bearerToken b devices gw deviceObj config updated access push)
    (answered : ∀ e ∈ access, isMutation e = true → (produced e).isSome) :
    Rewrites conv gw ((Request.setConfig bearerToken (some b) devices).ssid conv)
      (fetchEvent bearerToken gw deviceObj :: (access ++ push)) where
  configures _ _ _ _ split cfg := ⟨config, setConfig_sends h answered split cfg⟩
  keeps _ _ _ _ split prod quietAfter :=
    ⟨config, setConfig_keeps injective h answered split prod quietAfter⟩
  carries _ _ _ _ _ asks split f quietAfter := setConfig_carries injective h asks split f quietAfter
  comes _ _ := ⟨_, List.mem_cons_self .., Option.isSome_of_eq_some (fetched_fetchEvent h)⟩

end SetConfig

/-! ### Changes of the rules -/

section Mutations

/-- The call of a change: its event, and what it returns when it was accepted. -/
structure IsMutationCall (e : Portal.Event) (r : CallResult) : Prop where
  event : ∃ c answer, e = ⟨.call c, answer⟩ ∧ c.service = uSERVICE_MANGO_PARENTAL_CONTROL
  accepted : r.status = HTTPStatus.ok → isMutation e = true
  status_ok : r.success = true → r.status = HTTPStatus.ok
  response : ∀ cmds, produced e = some cmds → r.success = true ∧ ∃ o, r.response = some o ∧
    extractConfigRawSnapshot (some o) true = some (some cmds)

lemma strict_isMutationCall {c : Call} {answer : Option Reply} {r : CallResult}
    (service : c.service = uSERVICE_MANGO_PARENTAL_CONTROL) (verb : c.verb ≠ .get)
    (ok : r.success = (r.status = HTTPStatus.ok && r.response.isSome))
    (eq : (r.status, r.response) = OpenAPIRequest.strict none answer) :
    IsMutationCall ⟨.call c, answer⟩ r := by
  refine ⟨⟨c, answer, rfl, service⟩, ?_, ?_, ?_⟩
  · intro status
    have strict : (OpenAPIRequest.strict none answer).1 = HTTPStatus.ok := by rw [← eq, status]
    obtain ⟨⟨_, b⟩, o, rfl, rfl, rfl, _⟩ := OpenAPIRequest.strict_ok strict
    simp [isMutation, service, verb]
  · intro success
    rw [ok, Bool.and_eq_true_iff, decide_eq_true_iff] at success
    exact success.1
  · intro cmds prod
    obtain ⟨o, isMut, ext⟩ := produced_inv prod
    obtain ⟨c', eq', _, _⟩ := mutationResponse_inv isMut
    cases eq'
    obtain ⟨status, resp⟩ := Prod.mk.inj (show (r.status, r.response) = (HTTPStatus.ok, some o) from eq)
    refine ⟨?_, o, resp, ext⟩
    rw [ok, status, resp]
    rfl

lemma delete_isMutationCall {c : Call} {answer : Option Reply} {r : CallResult}
    {accept : Bool → Option Json.Object → Bool}
    (service : c.service = uSERVICE_MANGO_PARENTAL_CONTROL) (verb : c.verb ≠ .get)
    (accepts : ∀ o : Json.Object, o.has "config-raw" = true → accept false (some o) = true)
    (ok : r.success = (r.status = HTTPStatus.ok &&
      accept ((answer.map fun a => a.body.isEmpty).getD true) r.response))
    (eq : (r.status, r.response) = OpenAPIRequest.lenient none answer) :
    IsMutationCall ⟨.call c, answer⟩ r := by
  refine ⟨⟨c, answer, rfl, service⟩, ?_, ?_, ?_⟩
  · intro status
    rcases OpenAPIRequest.lenient_inv eq with ⟨_, gateway, _⟩ | ⟨a, rfl, st, _⟩
    · rw [gateway] at status
      cases status
    · simp [isMutation, service, verb, ← st, status]
  · intro success
    rw [ok, Bool.and_eq_true_iff, decide_eq_true_iff] at success
    exact success.1
  · intro cmds prod
    obtain ⟨o, isMut, ext⟩ := produced_inv prod
    obtain ⟨c', eq', _, _⟩ := mutationResponse_inv isMut
    cases eq'
    obtain ⟨status, resp⟩ := Prod.mk.inj (show (r.status, r.response) = (HTTPStatus.ok, some o) from eq)
    refine ⟨?_, o, resp, ext⟩
    rw [ok, status, resp, Bool.and_eq_true_iff]
    exact ⟨rfl, accepts o (Json.Object.has_iff.mpr ⟨_, extract_get? ext⟩)⟩

lemma emptyOrObject_accepts (o : Json.Object) (_ : o.has "config-raw" = true) :
    ParentalControl.emptyOrObject false (some o) = true := rfl

lemma objectWithConfigRaw_accepts (o : Json.Object) (has : o.has "config-raw" = true) :
    ParentalControl.objectWithConfigRaw false (some o) = true := has

/-- Every handler which changes the rules makes one call. -/
lemma Mutation.call_inv {m : Mutation} {subscriberId : String} {tr : List Portal.Event}
    {r : CallResult} (h : Trace (m.call subscriberId) tr r) : ∃ e, tr = [e] ∧ IsMutationCall e r := by
  have post : ∀ {endpoint body timeoutMs},
      Trace (ParentalControl.executePostObject endpoint body timeoutMs) tr r →
        ∃ e, tr = [e] ∧ IsMutationCall e r := by
    intro endpoint body timeoutMs h
    obtain ⟨answer, rfl, ok, eq⟩ := ParentalControl.executePostObject_inv h
    exact ⟨_, rfl, strict_isMutationCall rfl nofun ok eq⟩
  have put : ∀ {endpoint body timeoutMs},
      Trace (ParentalControl.executePutObject endpoint body timeoutMs) tr r →
        ∃ e, tr = [e] ∧ IsMutationCall e r := by
    intro endpoint body timeoutMs h
    obtain ⟨answer, rfl, ok, eq⟩ := ParentalControl.executePutObject_inv h
    exact ⟨_, rfl, strict_isMutationCall rfl nofun ok eq⟩
  have delete : ∀ {endpoint timeoutMs accept},
      (∀ o : Json.Object, o.has "config-raw" = true → accept false (some o) = true) →
      Trace (ParentalControl.executeDelete endpoint timeoutMs accept) tr r →
        ∃ e, tr = [e] ∧ IsMutationCall e r := by
    intro endpoint timeoutMs accept accepts h
    obtain ⟨answer, rfl, ok, eq⟩ := ParentalControl.executeDelete_inv h
    exact ⟨_, rfl, delete_isMutationCall rfl nofun accepts ok eq⟩
  cases m with
  | deleteGroup groupId => exact delete emptyOrObject_accepts h
  | updateSchedule scheduleId body timezone => exact put h
  | deleteSchedule scheduleId => exact delete emptyOrObject_accepts h
  | createGroupDevice groupId body => exact post h
  | createGroupDevicesV2 groupId body => exact post h
  | deleteGroupDevice groupId clientMac => exact delete objectWithConfigRaw_accepts h
  | createGroupSchedule groupId body => exact post h
  | replaceGroupSchedules groupId body => exact put h
  | deleteGroupSchedule groupId scheduleId => exact delete objectWithConfigRaw_accepts h

variable {locateZone : String → Option Zone} {bearerToken subscriberId operatorId : String}

/-- A successful change of the rules ends with the configuration of the gateway. -/
lemma mutation_shape {m : Mutation} {tr : List Portal.Event}
    (h : Trace ((Request.mutation bearerToken m).run conv condense locateZone gw subscriberId operatorId)
      tr true)
    (answered : ∀ e ∈ tr, isMutation e = true → (produced e).isSome)
    (listed : ∀ e ∈ tr, ∀ devices ∈ Prov.listed conv e, gatewaySerialOf devices = gw) :
    ∃ e0 cmds prov rest config sent nows, tr = e0 :: prov :: (rest ++ nows) ∧
      produced e0 = some cmds ∧ (∃ c answer, prov = ⟨.call c, answer⟩ ∧ c.service = uSERVICE_PROVISIONING) ∧
      Replaces bearerToken gw cmds rest config sent ∧ ∀ d ∈ nows, ∃ t, d = ⟨.now, t⟩ := by
  obtain ⟨tr1, tr2, sent, rfl, h1, h2⟩ := trace_bind.mp h
  obtain ⟨rfl, ok⟩ := trace_pure.mp h2
  obtain ⟨tr3, tr4, r, rfl, h3, h4⟩ := trace_bind.mp h1
  obtain ⟨e0, rfl, call⟩ := Mutation.call_inv h3
  rw [List.append_nil] at answered listed ⊢
  obtain ⟨answer, rfl, status⟩ := handleParentalControlMutationResult_inv h4
  have ok : answer.status = HTTPStatus.ok := by simpa using ok.symm
  -- the call was accepted, whether the handler has answered for it or has forwarded its status
  have accepted : r.status = HTTPStatus.ok := by
    rcases status with ⟨_, same⟩ | ⟨success, _⟩
    · rw [← same, ok]
    · exact call.status_ok success
  obtain ⟨cmds, prod⟩ := Option.isSome_iff_exists.mp
    (answered e0 (List.mem_append_left _ (List.mem_singleton_self e0)) (call.accepted accepted))
  obtain ⟨success, o, resp, ext⟩ := call.response cmds prod
  rcases status with ⟨failed, _⟩ | ⟨_, error | ⟨_, _, applied, nows, rfl, clock, upToDate⟩⟩
  · rw [success] at failed
    cases failed
  · rw [ok] at error
    exact absurd (show IsSuccess 200 by decide) error
  · rw [resp] at upToDate
    rcases upToDate with ⟨absent, _⟩ | ⟨configRaw, present, answer', devices, rest, config, sent', rfl,
      list, _, replaces⟩
    · rw [extract_of_required ext] at absent
      cases absent
    · rw [extract_of_required ext] at present
      cases present
      have gateway := listed _ (by simp) devices list
      rw [gateway] at replaces
      exact ⟨e0, cmds, ⟨.call (Prov.getDevicesCall "" subscriberId operatorId), answer'⟩, rest, config,
        sent', nows, by simp, prod, ⟨_, _, rfl, rfl⟩, replaces, clock⟩

section Events

variable {e0 : Portal.Event} {cmds : List Json} {c : Call} {answer answer' : Option Reply}
  {deviceObj config : Json.Object} {t : Int} {nows : List Portal.Event}

/-- The configuration which a change of the rules sends in place of `config`. -/
def replacement (config : Json.Object) (cmds : List Json) (t : Int) : Json.Object :=
  stampConfig (config.set "config-raw" (.arr cmds)) (Utils.now t)

/-- The event which sends it. -/
def replaceEvent (bearerToken gw : String) (config : Json.Object) (cmds : List Json) (t : Int)
    (answer : Option Reply) : Portal.Event :=
  ⟨.call (configureCall bearerToken gw (replacement config cmds t) (Utils.now t)), answer⟩

/-- A change of the rules configures the gateway once. -/
lemma mutationEvents_configured (prod : produced e0 = some cmds)
    (service : c.service = uSERVICE_PROVISIONING)
    (read : fetched gw (fetchEvent bearerToken gw deviceObj) = some config)
    (pushes : configured gw (replaceEvent bearerToken gw config cmds t answer') =
      some (replacement config cmds t))
    (clock : ∀ d ∈ nows, ∃ t, d = ⟨.now, t⟩) {a b : List Portal.Event} {e : Portal.Event}
    {c' : Json.Object} (conf : configured gw e = some c')
    (split : e0 :: ⟨.call c, answer⟩ :: ([fetchEvent bearerToken gw deviceObj, ⟨.now, t⟩,
      replaceEvent bearerToken gw config cmds t answer'] ++ nows) = a ++ e :: b) :
    a = [e0, ⟨.call c, answer⟩, fetchEvent bearerToken gw deviceObj, ⟨.now, t⟩] ∧
      c' = replacement config cmds t := by
  have shape : (e0 :: ⟨.call c, answer⟩ :: ([fetchEvent bearerToken gw deviceObj, ⟨.now, t⟩,
      replaceEvent bearerToken gw config cmds t answer'] ++ nows) : List Portal.Event) =
      [e0, ⟨.call c, answer⟩, fetchEvent bearerToken gw deviceObj, ⟨.now, t⟩] ++
        replaceEvent bearerToken gw config cmds t answer' :: nows := rfl
  have provQuiet : configured gw ⟨.call c, answer⟩ = none := by
    apply configured_of_service
    rw [service]
    decide
  have before : ∀ d ∈ [e0, ⟨.call c, answer⟩, fetchEvent bearerToken gw deviceObj, ⟨.now, t⟩],
      ¬ (configured gw d).isSome := by
    intro d hd
    simp only [List.mem_cons, List.not_mem_nil, or_false] at hd
    rcases hd with rfl | rfl | rfl | rfl
    · rw [configured_of_produced prod]
      exact nofun
    · rw [provQuiet]
      exact nofun
    · rw [configured_of_fetched read]
      exact nofun
    · exact nofun
  have after : ∀ d ∈ nows, ¬ (configured gw d).isSome := by
    intro d hd
    obtain ⟨t, rfl⟩ := clock d hd
    exact nofun
  obtain ⟨rfl, rfl, _⟩ := split_unique (split.symm.trans shape) (by rw [conf]; rfl) before after
  rw [pushes] at conf
  cases conf
  exact ⟨rfl, rfl⟩

/-- A change of the rules changes them once, before it configures the gateway. -/
lemma mutationEvents_produced (service : c.service = uSERVICE_PROVISIONING)
    (clock : ∀ d ∈ nows, ∃ t, d = ⟨.now, t⟩) {a b : List Portal.Event}
    {e : Portal.Event} {cmds' : List Json} (prod' : produced e = some cmds')
    (split : e0 :: ⟨.call c, answer⟩ :: ([fetchEvent bearerToken gw deviceObj, ⟨.now, t⟩,
      replaceEvent bearerToken gw config cmds t answer'] ++ nows) = a ++ e :: b) :
    replaceEvent bearerToken gw config cmds t answer' ∈ b := by
  have provProduced : produced ⟨.call c, answer⟩ = none := by
    apply produced_of_service
    rw [service]
    decide
  have after : ∀ d ∈ (⟨.call c, answer⟩ :: ([fetchEvent bearerToken gw deviceObj, ⟨.now, t⟩,
      replaceEvent bearerToken gw config cmds t answer'] ++ nows) : List Portal.Event),
      ¬ (produced d).isSome := by
    intro d hd
    rcases List.mem_append.mp (show d ∈ [⟨.call c, answer⟩, fetchEvent bearerToken gw deviceObj,
      ⟨.now, t⟩, replaceEvent bearerToken gw config cmds t answer'] ++ nows from hd) with hd | hd
    · simp only [List.mem_cons, List.not_mem_nil, or_false] at hd
      rcases hd with rfl | rfl | rfl | rfl
      · rw [provProduced]
        exact nofun
      · rw [produced_fetchEvent]
        exact nofun
      · exact nofun
      · rw [replaceEvent, produced_of_service
          (show uSERVICE_GATEWAY ≠ uSERVICE_MANGO_PARENTAL_CONTROL by decide)]
        exact nofun
    · obtain ⟨t, rfl⟩ := clock d hd
      exact nofun
  have split' : a ++ e :: b = [] ++ e0 :: (⟨.call c, answer⟩ :: ([fetchEvent bearerToken gw deviceObj,
      ⟨.now, t⟩, replaceEvent bearerToken gw config cmds t answer'] ++ nows)) := split.symm
  obtain ⟨_, _, rfl⟩ := split_unique split' (by rw [prod']; rfl) nofun after
  simp

end Events

/-- What a change of the rules does to the gateway. -/
lemma mutation_rewrites {m : Mutation} {tr : List Portal.Event}
    (h : Trace ((Request.mutation bearerToken m).run conv condense locateZone gw subscriberId operatorId)
      tr true)
    (answered : ∀ e ∈ tr, isMutation e = true → (produced e).isSome)
    (listed : ∀ e ∈ tr, ∀ devices ∈ Prov.listed conv e, gatewaySerialOf devices = gw) :
    Rewrites conv gw none tr := by
  obtain ⟨e0, cmds, prov, rest, config, sent, nows, rfl, prod, ⟨c, answer, rfl, service⟩,
    ⟨deviceObj, t, answer', cfg, rfl, rfl, status⟩, clock⟩ := mutation_shape h answered listed
  have read : fetched gw (fetchEvent bearerToken gw deviceObj) = some config :=
    fetched_getConfigCall cfg
  have pushes : configured gw (replaceEvent bearerToken gw config cmds t answer') =
      some (replacement config cmds t) := configured_self status
  refine ⟨?_, ?_, ?_, ?_⟩
  · -- the gateway is configured once
    intro a e b c' split conf
    obtain ⟨rfl, rfl⟩ := mutationEvents_configured prod service read pushes clock conf split
    have provProduced : produced ⟨.call c, answer⟩ = none := by
      apply produced_of_service
      rw [service]
      decide
    have last : lastProduced [e0, ⟨.call c, answer⟩, fetchEvent bearerToken gw deviceObj, ⟨.now, t⟩] =
        some cmds := by
      rw [lastProduced, List.filterMap_cons_some prod, List.filterMap_cons_none provProduced,
        List.filterMap_cons_none produced_fetchEvent, List.filterMap_cons_none rfl]
      rfl
    rw [last]
    refine ⟨config, ⟨[e0, ⟨.call c, answer⟩], _, [⟨.now, t⟩], rfl, read, ?_⟩, ?_, ?_, ?_, ?_⟩
    · intro d hd
      rw [List.mem_singleton.mp hd]
      rfl
    · intro cmds' eq
      cases eq
      exact runsSnapshot_stampConfig.mpr (.inl (Json.Object.get?_set_self ..))
    · intro unchanged
      cases unchanged
    · intro req eq
      cases eq
    · intro _
      rw [replacement, ssidEntries_stampConfig, ssidEntries_set_of_ne config _ (by decide)]
  · -- the change is followed by the configuration
    intro a e b cmds' split prod' quiet
    have none := (quiet _ (mutationEvents_produced service clock prod' split)).1
    rw [pushes] at none
    cases none
  · intro req a e b config eq
    cases eq
  · intro req eq
    cases eq

end Mutations

/-- What a successful request does to the gateway. -/
lemma Request.rewrites {locateZone : String → Option Zone} {subscriberId operatorId : String}
    {request : Request} {tr : List Portal.Event} (injective : Function.Injective condense)
    (h : Trace (request.run conv condense locateZone gw subscriberId operatorId) tr true)
    (answered : ∀ e ∈ tr, isMutation e = true → (produced e).isSome)
    (listed : ∀ e ∈ tr, ∀ devices ∈ Prov.listed conv e, gatewaySerialOf devices = gw) :
    Rewrites conv gw (request.ssid conv) tr := by
  cases request with
  | setConfig bearerToken body devices =>
    obtain ⟨tr1, tr2, r, rfl, h1, h2⟩ := trace_bind.mp h
    obtain ⟨rfl, ok⟩ := trace_pure.mp h2
    obtain ⟨b, deviceObj, config, updated, access, push, rfl, rfl, succeeds⟩ :=
      setConfig_success ok.symm h1
    rw [List.append_nil] at answered ⊢
    apply setConfig_rewrites injective succeeds
    intro e he
    exact answered e (List.mem_cons_of_mem _ (List.mem_append_left _ he))
  | mutation bearerToken m => exact mutation_rewrites h answered listed

end Rewrites

end UserPortal.RestApi.ParentalControl
