import UserPortal.Json.Print
import UserPortal.Sdk.Observed

/-!
# Changes which do not reach the gateway

Pass 2 of `ApplyClientAccessChanges` changes the rules of the clients one by one and returns at the first
call which fails. The calls before it are committed in the parental-control service; the gateway is not
given the rules which they have produced.

* `committed`: the object with which the service has answered a change that was made.
* `held`: the configuration of the gateway, as it was fetched or as it was last pushed.
* `setConfig_agrees_iff`: the gateway is left with the rules of the last change exactly when no change has
  failed, or when it already ran them.
-/

namespace UserPortal.Sdk.Gw
open Interaction Program

/-- A call which asks the parental-control service to change the rules. -/
def isChange : Portal.Event → Bool
  | ⟨.call c, _⟩ => c.service = uSERVICE_MANGO_PARENTAL_CONTROL && c.verb ≠ .get
  | _ => false

/-- The object with which a change was answered that the service has made: the SDK call succeeds. -/
def committed : Portal.Event → Option Json.Object
  | ⟨.call c, some ⟨status, .json (.obj o)⟩⟩ =>
    if c.service = uSERVICE_MANGO_PARENTAL_CONTROL ∧ status = HTTPStatus.ok ∧
        (c.verb = .post ∨ c.verb = .delete ∧ Json.Object.has o "config-raw" = true) then some o
    else none
  | _ => none

/-- The object with which the last change was answered. -/
def lastCommitted (tr : List Portal.Event) : Option Json.Object := (tr.filterMap committed).getLast?

/-- The snapshot of the rules in a reply; null is the empty one. -/
def snapshotOf (o : Json.Object) : Option (List Json) :=
  (RestApi.extractConfigRawSnapshot (some o) true).map fun configRaw => configRaw.getD []

/-- The configuration which an event has sent to a device, whatever the device has answered. -/
def pushed (serial : String) : Portal.Event → Option Json.Object
  | ⟨.call c, _⟩ =>
    if c.verb = .post ∧ c.service = uSERVICE_GATEWAY ∧
        c.endPoint = "/api/v1/device/" ++ serial ++ "/configure" then
      c.body.getObject? "configuration"
    else none
  | _ => none

/-- The configuration which a device is known to have by an event: it was pushed, or fetched. -/
def known (serial : String) (e : Portal.Event) : Option Json.Object :=
  (pushed serial e).or (fetched serial e)

/-- The configuration of a device after a list of events. -/
def held (serial : String) (tr : List Portal.Event) : Option Json.Object :=
  (tr.filterMap (known serial)).getLast?

/-- A block or an unblocking which was answered with 200 and an object. -/
lemma committed_eq {c : Call} {o : Json.Object} (service : c.service = uSERVICE_MANGO_PARENTAL_CONTROL)
    (verb : c.verb = .post ∨ c.verb = .delete ∧ o.has "config-raw" = true) :
    committed ⟨.call c, some ⟨HTTPStatus.ok, .json (.obj o)⟩⟩ = some o := if_pos ⟨service, rfl, verb⟩

/-- What was committed is a change. -/
lemma isChange_of_committed {e : Portal.Event} {o : Json.Object} (h : committed e = some o) :
    isChange e = true := by
  unfold committed at h
  split at h
  case h_2 => cases h
  case h_1 c status _ =>
    split at h
    case isFalse => cases h
    case isTrue m =>
      obtain ⟨service, _, post | ⟨delete, _⟩⟩ := m
      · simp [isChange, service, post]
      · simp [isChange, service, delete]

/-- Without a change nothing is committed. -/
lemma committed_of_not_isChange {e : Portal.Event} (h : isChange e = false) : committed e = none := by
  cases c : committed e with
  | none => rfl
  | some o =>
    rw [isChange_of_committed c] at h
    cases h

/-- The last change of two parts. -/
lemma lastCommitted_append (tr1 tr2 : List Portal.Event) :
    lastCommitted (tr1 ++ tr2) = (lastCommitted tr2).or (lastCommitted tr1) := by
  rw [lastCommitted, List.filterMap_append, List.getLast?_append]
  rfl

/-- Events without a change commit nothing. -/
lemma lastCommitted_quiet {tr : List Portal.Event} (h : ∀ e ∈ tr, isChange e = false) :
    lastCommitted tr = none := by
  rw [lastCommitted, List.filterMap_eq_nil_iff.mpr fun e he => committed_of_not_isChange (h e he),
    List.getLast?_nil]

/-- The configuration updated with a reply runs its snapshot. -/
lemma updateConfigRaw_snapshotOf {config o : Json.Object} {cmds : List Json}
    (h : snapshotOf o = some cmds) : RunsSnapshot (updateConfigRaw config (some o)) cmds := by
  obtain ⟨configRaw, ext, rfl⟩ := Option.map_eq_some_iff.mp h
  cases configRaw with
  | some cmds => exact updateConfigRaw_runsSnapshot ext
  | none =>
    have ext' : RestApi.extractConfigRawSnapshot (some o) false = some none := extract_of_required ext
    rw [updateConfigRaw, Option.bind_some, ext']
    exact .inr ⟨rfl, config.get?_remove_self _⟩

/-! ## Pass 2 -/

/-- A call succeeds exactly where its change is committed, and returns the reply. -/
def Commits (e : Portal.Event) (r : CallResult) : Prop :=
  isChange e = true ∧
    (r.success = true ∧ (∃ o, committed e = some o ∧ r.response = some o) ∨
      r.success = false ∧ committed e = none)

/-- A block is one event, which commits what its result tells. -/
lemma createClientAccess_commits {subscriberId : String} {body : Json.Object}
    {tr : List Portal.Event} {r : CallResult}
    (h : Trace (ParentalControl.createClientAccess subscriberId body) tr r) :
    ∃ e, tr = [e] ∧ Commits e r := by
  obtain ⟨answer, rfl, ok, eq⟩ := ParentalControl.createClientAccess_inv h
  refine ⟨_, rfl, rfl, ?_⟩
  cases success : r.success with
  | true =>
    obtain ⟨e, o, single, isMut, resp⟩ := createClientAccess_ok h success
    cases single
    obtain ⟨c, ev, service, verb⟩ := mutationResponse_inv isMut
    cases ev
    exact .inl ⟨rfl, o, committed_eq rfl (.inl rfl), resp⟩
  | false =>
    refine .inr ⟨rfl, ?_⟩
    rw [success] at ok
    unfold committed
    split
    case h_2 => rfl
    case h_1 c status o ev =>
      cases ev
      obtain ⟨eq1, eq2⟩ := Prod.mk.inj eq
      apply if_neg
      rintro ⟨_, rfl, _⟩
      simp [eq1, eq2] at ok

/-- So is an unblocking. -/
lemma deleteClientAccess_commits {subscriberId clientMac : String} {tr : List Portal.Event}
    {r : CallResult} (h : Trace (ParentalControl.deleteClientAccess subscriberId clientMac) tr r) :
    ∃ e, tr = [e] ∧ Commits e r := by
  obtain ⟨answer, rfl, ok, eq⟩ := ParentalControl.deleteClientAccess_inv h
  refine ⟨_, rfl, rfl, ?_⟩
  cases success : r.success with
  | true =>
    obtain ⟨e, o, single, isMut, resp⟩ := deleteClientAccess_ok h success
    cases single
    obtain ⟨c, ev, service, verb⟩ := mutationResponse_inv isMut
    cases ev
    rw [success, resp] at ok
    have raw : o.has "config-raw" = true := (Bool.and_eq_true_iff.mp ok.symm).2
    exact .inl ⟨rfl, o, committed_eq rfl (.inr ⟨rfl, raw⟩), resp⟩
  | false =>
    refine .inr ⟨rfl, ?_⟩
    rw [success] at ok
    unfold committed
    split
    case h_2 => rfl
    case h_1 c status o ev =>
      cases ev
      obtain ⟨eq1, eq2⟩ := Prod.mk.inj eq
      apply if_neg
      rintro ⟨_, rfl, post | ⟨_, raw⟩⟩
      · cases post
      · simp [eq1, eq2, ParentalControl.hasConfigRaw, Body.isEmpty, Body.parse, raw] at ok

/-- A reading of the clock, or a change. -/
def IsAccess (e : Portal.Event) : Prop := (∃ t, e = ⟨.now, t⟩) ∨ isChange e = true

/-- The change of one client is its last event. -/
lemma requestClientAccess_commits {subscriberId : String} {entry : ValidatedClientEntry}
    {tr : List Portal.Event} {r : CallResult} (h : Trace (requestClientAccess subscriberId entry) tr r) :
    ∃ pre e, tr = pre ++ [e] ∧ (∀ d ∈ pre, ∃ t, d = ⟨.now, t⟩) ∧ Commits e r := by
  have nil : ∀ d ∈ ([] : List Portal.Event), ∃ t, d = ⟨.now, t⟩ := nofun
  rw [requestClientAccess] at h
  split at h
  · split at h
    · obtain ⟨t, rest, rfl, h1⟩ := trace_perform_bind.mp h
      obtain ⟨e, rfl, commits⟩ := createClientAccess_commits h1
      exact ⟨[⟨.now, t⟩], e, rfl, fun d hd => ⟨t, List.mem_singleton.mp hd⟩, commits⟩
    · obtain ⟨e, rfl, commits⟩ := createClientAccess_commits h
      exact ⟨[], e, rfl, nil, commits⟩
  · obtain ⟨e, rfl, commits⟩ := deleteClientAccess_commits h
    exact ⟨[], e, rfl, nil, commits⟩

lemma isChange_now (t : Int) : isChange ⟨.now, t⟩ = false := rfl

/-- Readings of the clock before a change. -/
lemma lastCommitted_concat {pre : List Portal.Event} {e : Portal.Event}
    (nows : ∀ d ∈ pre, ∃ t, d = ⟨.now, t⟩) : lastCommitted (pre ++ [e]) = committed e := by
  have quiet : lastCommitted pre = none := by
    apply lastCommitted_quiet
    intro d hd
    obtain ⟨t, rfl⟩ := nows d hd
    exact isChange_now t
  rw [lastCommitted_append, quiet, Option.or_none, lastCommitted]
  cases c : committed e with
  | none =>
    rw [List.filterMap_cons_none c]
    rfl
  | some o =>
    rw [List.filterMap_cons_some c]
    rfl

/-- Every change was made. -/
def AllCommitted (tr : List Portal.Event) : Prop :=
  ∀ e ∈ tr, isChange e = true → (committed e).isSome = true

instance (tr : List Portal.Event) : Decidable (AllCommitted tr) :=
  inferInstanceAs (Decidable (∀ e ∈ tr, isChange e = true → (committed e).isSome = true))

/-- All changes of both parts were committed. -/
lemma AllCommitted.append {tr1 tr2 : List Portal.Event} (h1 : AllCommitted tr1)
    (h2 : AllCommitted tr2) : AllCommitted (tr1 ++ tr2) := by
  intro e he
  rcases List.mem_append.mp he with he | he
  · exact h1 e he
  · exact h2 e he

/-- Where nothing changes, all changes were committed. -/
lemma allCommitted_quiet {tr : List Portal.Event} (h : ∀ e ∈ tr, isChange e = false) :
    AllCommitted tr := by
  intro e he change
  rw [h e he] at change
  cases change

/-- Pass 2 goes on while the changes are made, and returns the reply to the last one. -/
lemma requestClientAccesses_commits {subscriberId : String} {entries : List ValidatedClientEntry}
    {last : Option Json.Object} {tr : List Portal.Event} {r : Except CallResult (Option Json.Object)}
    (h : Trace (requestClientAccesses subscriberId entries last).run tr r) :
    (∀ e ∈ tr, IsAccess e) ∧
      ((AllCommitted tr ∧ r = .ok ((lastCommitted tr).or last)) ∨
        ¬ AllCommitted tr ∧ ∃ e, r = .error e) := by
  induction entries generalizing last tr with
  | nil =>
    obtain ⟨rfl, rfl⟩ := trace_attempt_pure.mp h
    exact ⟨nofun, .inl ⟨nofun, rfl⟩⟩
  | cons entry entries ih =>
    obtain ⟨tr1, tr2, result, rfl, h1, h2⟩ := trace_attempt_lift_bind.mp h
    obtain ⟨pre, e, rfl, nows, change, commits⟩ := requestClientAccess_commits h1
    have access : ∀ d ∈ pre ++ [e], IsAccess d := by
      intro d hd
      rcases List.mem_append.mp hd with hd | hd
      · exact .inl (nows d hd)
      · rw [List.mem_singleton.mp hd]
        exact .inr change
    rcases commits with ⟨ok, o, com, resp⟩ | ⟨no, com⟩
    · rw [ok] at h2
      have h3 : Trace (requestClientAccesses subscriberId entries result.response).run tr2 r := h2
      obtain ⟨rest, outcome⟩ := ih h3
      have first : AllCommitted (pre ++ [e]) := by
        apply AllCommitted.append
        · apply allCommitted_quiet
          intro d hd
          obtain ⟨t, rfl⟩ := nows d hd
          exact isChange_now t
        · intro d hd _
          rw [List.mem_singleton.mp hd, com]
          rfl
      refine ⟨?_, ?_⟩
      · intro d hd
        rcases List.mem_append.mp hd with hd | hd
        · exact access d hd
        · exact rest d hd
      · rcases outcome with ⟨all, rfl⟩ | ⟨some, error⟩
        · refine .inl ⟨first.append all, ?_⟩
          rw [lastCommitted_append, lastCommitted_concat nows, com, resp, Option.or_some,
            Option.some_or]
        · exact .inr ⟨fun all => some fun d hd => all d (List.mem_append_right _ hd), error⟩
    · rw [no] at h2
      obtain ⟨rfl, rfl⟩ := trace_attempt_throw.mp h2
      rw [List.append_nil]
      refine ⟨access, .inr ⟨?_, _, rfl⟩⟩
      intro all
      have made := all e (by simp) change
      rw [com] at made
      cases made

/-! ## Before pass 2 -/

/-- A reading of the clock. -/
def IsNow (e : Portal.Event) : Prop := ∃ t, e = ⟨.now, t⟩

/-- A check ends the attempt, or the attempt goes on. -/
lemma trace_ensure {α : Type} {ok : Bool} {e : CallResult} {p : Attempt α} {tr : List Portal.Event}
    {r : Except CallResult α} (h : Trace (do ensure ok e; p : Attempt α).run tr r) :
    tr = [] ∨ Trace p.run tr r := by
  cases ok with
  | true => exact .inr h
  | false => exact .inl (trace_attempt_throw.mp h).1

/-- Validating an entry reads at most the clock. -/
lemma validateClientEntry_asks (conv : Conversions) (entry : Json) :
    Asks IsNow (validateClientEntry conv entry).run := by
  rw [validateClientEntry]
  split
  case h_2 => exact .attempt_throw _
  case h_1 =>
    split
    case h_2 => exact .attempt_throw _
    case h_1 =>
      split
      case h_2 => exact .attempt_throw _
      case h_1 =>
        dsimp only
        split
        case h_1 => exact .attempt_throw _
        case h_2 =>
          split
          case isTrue => exact .attempt_throw _
          case isFalse =>
            split
            case h_1 => exact .attempt_pure _
            case h_2 =>
              split
              case isTrue => exact .attempt_throw _
              case isFalse => exact .attempt_throw _
            case h_3 =>
              split
              case isTrue => exact .attempt_throw _
              case isFalse =>
                split
                case isFalse => exact .attempt_throw _
                case isTrue =>
                  apply Asks.attempt_lift_bind
                  · intro tr t h e he
                    obtain ⟨x, rest, rfl, h1⟩ := trace_ask.mp h
                    obtain ⟨rfl, _⟩ := trace_ret.mp h1
                    exact ⟨x, List.mem_singleton.mp he⟩
                  · intro t
                    exact (ensure_asks _ _).attempt_bind fun _ => .attempt_pure _

/-- Validating the entries only reads the clock. -/
lemma validateClientEntries_asks (conv : Conversions) (entries : List Json) :
    Asks IsNow (validateClientEntries conv entries).run := by
  induction entries with
  | nil => exact .attempt_pure _
  | cons entry entries ih =>
    apply (validateClientEntry_asks conv entry).attempt_bind
    intro e
    exact ih.attempt_bind fun es => .attempt_pure _

/-- The clock changes nothing. -/
lemma not_isChange_of_isNow {e : Portal.Event} (h : IsNow e) : isChange e = false := by
  obtain ⟨t, rfl⟩ := h
  rfl

section Access

variable {conv : Conversions} {config body : Json.Object} {subscriberId : String}
  {tr : List Portal.Event} {r : Except CallResult Json.Object}

/-- The client-access changes of a request: with the first change that fails, the attempt fails, else
the last reply updates the configuration. -/
lemma updateClientAccess_commits
    (h : Trace (updateClientAccess conv config body subscriberId).run tr r) :
    (∀ e ∈ tr, IsAccess e) ∧
      ∀ o, lastCommitted tr = some o →
        AllCommitted tr ∧ r = .ok (updateConfigRaw config (some o)) ∨
          ¬ AllCommitted tr ∧ ∃ e, r = .error e := by
  unfold updateClientAccess at h
  split at h
  case isFalse =>
    obtain ⟨rfl, rfl⟩ := trace_attempt_pure.mp h
    exact ⟨nofun, nofun⟩
  case isTrue =>
    unfold applyClientAccessChanges at h
    split at h
    case h_1 =>
      obtain ⟨rfl, rfl⟩ := trace_attempt_throw.mp h
      exact ⟨nofun, nofun⟩
    case h_2 =>
      obtain ⟨rfl, rfl⟩ := trace_attempt_throw.mp h
      exact ⟨nofun, nofun⟩
    case h_3 clientList _ _ =>
      -- all entries are validated, which only reads the clock, before one is requested
      have validates := validateClientEntries_asks conv clientList
      rcases trace_attempt_bind.mp h with ⟨e, rfl, h1⟩ | ⟨tr1, tr2, validated, rfl, h1, h2⟩
      · have nows := validates tr _ h1
        refine ⟨fun d hd => .inl (nows d hd), ?_⟩
        intro o last
        rw [lastCommitted_quiet fun d hd => not_isChange_of_isNow (nows d hd)] at last
        cases last
      · have nows := validates tr1 _ h1
        have quiet : ∀ d ∈ tr1, isChange d = false := fun d hd => not_isChange_of_isNow (nows d hd)
        have all1 : AllCommitted tr1 := allCommitted_quiet quiet
        rcases trace_attempt_bind.mp h2 with ⟨e, rfl, h3⟩ | ⟨tr3, tr4, response, rfl, h3, h4⟩
        · obtain ⟨access, outcome⟩ := requestClientAccesses_commits h3
          refine ⟨?_, ?_⟩
          · intro d hd
            rcases List.mem_append.mp hd with hd | hd
            · exact .inl (nows d hd)
            · exact access d hd
          · intro o last
            rcases outcome with ⟨_, eq⟩ | ⟨some, _⟩
            · cases eq
            · exact .inr ⟨fun all => some fun d hd => all d (List.mem_append_right _ hd), e, rfl⟩
        · obtain ⟨rfl, rfl⟩ := trace_attempt_pure.mp h4
          obtain ⟨access, outcome⟩ := requestClientAccesses_commits h3
          rw [List.append_nil]
          refine ⟨?_, ?_⟩
          · intro d hd
            rcases List.mem_append.mp hd with hd | hd
            · exact .inl (nows d hd)
            · exact access d hd
          · intro o last
            rw [lastCommitted_append, lastCommitted_quiet quiet, Option.or_none] at last
            rcases outcome with ⟨all, eq⟩ | ⟨_, e, eq⟩
            · rw [last] at eq
              cases eq
              exact .inl ⟨all1.append all, rfl⟩
            · cases eq

end Access

/-! ## After pass 2 -/

/-- What `Configure` sends goes to one device. -/
lemma pushed_configureCall (serial : String) {bearerToken serial' : String} {config : Json.Object}
    {now : Nat} {answer : Option Reply} :
    pushed serial ⟨.call (configureCall bearerToken serial' config now), answer⟩ =
      if serial' = serial then some config else none := by
  rw [pushed]
  by_cases eq : serial' = serial
  · rw [if_pos eq, if_pos ⟨rfl, rfl, by rw [eq]; rfl⟩]
    rfl
  · rw [if_neg eq, if_neg]
    rintro ⟨_, _, e⟩
    apply eq
    have e' := congrArg String.toList e
    simp only [configureCall, String.toList_append, List.append_cancel_right_eq,
      List.append_cancel_left_eq, String.toList_inj] at e'
    exact e'

/-- A reading of the clock, or a configuration of another device than the gateway. -/
def IsMeshPush (gatewaySerial : String) (e : Portal.Event) : Prop :=
  IsNow e ∨ ∃ bearerToken serial config now answer, serial ≠ gatewaySerial ∧
    e = ⟨.call (configureCall bearerToken serial config now), answer⟩

/-- Configuring another device than the gateway. -/
lemma configure_meshPush (bearerToken : String) {serial gatewaySerial : String}
    (ne : serial ≠ gatewaySerial) (config : Json.Object) :
    Asks (IsMeshPush gatewaySerial) (configure bearerToken serial config) :=
  configure_asks (fun t => .inl ⟨t, rfl⟩) (fun _ _ _ => .inr ⟨_, _, _, _, _, ne, rfl⟩) config

/-- A push starts with the configuration of the gateway. -/
lemma pushConfig_shape {bearerToken gatewaySerial : String} {body deviceObj config : Json.Object}
    {devices : List SubscriberDevice} {tr : List Portal.Event} {r : Except CallResult Unit}
    (h : Trace (pushConfig bearerToken body devices gatewaySerial deviceObj config).run tr r) :
    ∃ t answer rest, (∀ e ∈ rest, IsMeshPush gatewaySerial e) ∧ tr = ⟨.now, t⟩ ::
      ⟨.call (configureCall bearerToken gatewaySerial (stampConfig config (Utils.now t)) (Utils.now t)),
        answer⟩ :: rest := by
  obtain ⟨tr1, rest, ⟨r1, config'⟩, rfl, h1, h2⟩ := trace_attempt_lift_bind.mp h
  obtain ⟨t, answer, rfl, rfl, _⟩ := configure_inv h1
  refine ⟨t, answer, rest, ?_, rfl⟩
  have asks : Asks (IsMeshPush gatewaySerial) (do
      ensure r1.success (configureFailure r1)
      if !body.has "ssid" || devices.length ≤ 1 then return ()
      else
        pushMeshConfig bearerToken gatewaySerial devices
          (deviceObj.set "configuration" (.obj (stampConfig config (Utils.now t)))) : Attempt Unit).run := by
    refine (ensure_asks _ _).attempt_bind fun _ => ?_
    split
    case isTrue => exact .attempt_pure _
    case isFalse => exact pushMeshConfig_asks (fun _ _ ne => configure_meshPush bearerToken ne) _
  exact asks rest r h2

/-- Nothing is known of a gateway which was neither configured nor read. -/
lemma known_eq_none {serial : String} {e : Portal.Event} :
    known serial e = none ↔ pushed serial e = none ∧ fetched serial e = none := Option.or_eq_none_iff

/-- A block tells nothing about the configuration. -/
lemma known_access {serial : String} {e : Portal.Event} (h : IsAccess e) : known serial e = none := by
  rcases h with ⟨t, rfl⟩ | change
  · rfl
  · obtain ⟨op, answer⟩ := e
    cases op with
    | now => rfl
    | call c =>
      simp only [isChange, Bool.and_eq_true, decide_eq_true_eq] at change
      have gateway : c.service ≠ uSERVICE_GATEWAY := by
        rw [change.1]
        decide
      apply known_eq_none.mpr
      refine ⟨if_neg fun h => gateway h.2.1, ?_⟩
      cases f : fetched serial ⟨.call c, answer⟩ with
      | none => rfl
      | some config =>
        obtain ⟨c', answer', eq, _, service⟩ := fetched_inv f
        cases eq
        exact absurd service gateway

/-- Configuring is not reading. -/
lemma fetched_configureCall {serial bearerToken serial' : String} {config : Json.Object} {now : Nat}
    {answer : Option Reply} :
    fetched serial ⟨.call (configureCall bearerToken serial' config now), answer⟩ = none := by
  cases f : fetched serial ⟨.call (configureCall bearerToken serial' config now), answer⟩ with
  | none => rfl
  | some config' =>
    obtain ⟨c, answer', eq, get, _⟩ := fetched_inv f
    cases eq
    cases get

/-- Configuring a mesh device tells nothing about the gateway. -/
lemma known_meshPush {serial : String} {e : Portal.Event} (h : IsMeshPush serial e) :
    known serial e = none := by
  rcases h with ⟨t, rfl⟩ | ⟨bearerToken, serial', config, now, answer, ne, rfl⟩
  · rfl
  · refine known_eq_none.mpr ⟨?_, fetched_configureCall⟩
    rw [pushed_configureCall, if_neg ne]

/-- What comes later tells nothing new. -/
lemma held_append {serial : String} {tr rest : List Portal.Event}
    (unknown : ∀ e ∈ rest, known serial e = none) : held serial (tr ++ rest) = held serial tr := by
  rw [held, List.filterMap_append, List.filterMap_eq_nil_iff.mpr unknown, List.append_nil]
  rfl

/-- The last event tells what the gateway has. -/
lemma held_concat {serial : String} {tr : List Portal.Event} {e : Portal.Event} {config : Json.Object}
    (h : known serial e = some config) : held serial (tr ++ [e]) = some config := by
  rw [held, List.filterMap_append, List.filterMap_cons_some h, List.filterMap_nil, List.getLast?_concat]

/-- Pushing a configuration does not change the rules. -/
lemma pushConfig_quiet {bearerToken gatewaySerial : String} {body deviceObj config : Json.Object}
    {devices : List SubscriberDevice} {tr : List Portal.Event} {r : Except CallResult Unit}
    (h : Trace (pushConfig bearerToken body devices gatewaySerial deviceObj config).run tr r) :
    ∀ e ∈ tr, isChange e = false := by
  have one : ∀ mac config, Asks (fun e => isChange e = false) (configure bearerToken mac config) :=
    fun _ => configure_asks (fun _ => rfl) fun _ _ _ => rfl
  exact pushConfig_asks (one gatewaySerial) (fun device _ _ => one device.serialNumber) config tr r h

/-! ## Whole requests -/

section Request

variable {conv : Conversions} {condense : Json.Object → String} {bearerToken gatewaySerial : String}
  {subscriberId : String} {body : Option Json.Object} {devices : List SubscriberDevice}
  {tr : List Portal.Event}

/-- The event which fetches the configuration of the gateway. -/
def recordEvent (bearerToken gatewaySerial : String) (deviceObj : Json.Object) : Portal.Event :=
  ⟨.call (getConfigCall bearerToken gatewaySerial), some ⟨HTTPStatus.ok, .json (.obj deviceObj)⟩⟩

/-- The record of the gateway tells its configuration. -/
lemma known_recordEvent {deviceObj config : Json.Object}
    (record : deviceObj.getObject? "configuration" = some config) :
    known gatewaySerial (recordEvent bearerToken gatewaySerial deviceObj) = some config :=
  fetched_getConfigCall record

/-- The SSID part asks nothing. -/
lemma updateSsid_asks (conv : Conversions) (config body : Json.Object) :
    Asks (fun _ => False) (updateSsid conv config body).run := by
  rw [updateSsid]
  split
  case isTrue => exact .pure _
  case isFalse => exact .attempt_pure _

/-- What a request with a committed change has done: the record is fetched and the clients are changed.
With the first change that fails the request ends, else the reply to the last one is pushed. -/
structure Changes (condense : Json.Object → String) (bearerToken : String)
    (devices : List SubscriberDevice) (gatewaySerial : String) (o deviceObj config : Json.Object)
    (access push : List Portal.Event) (r : Except CallResult Unit) : Prop where
  record : deviceObj.getObject? "configuration" = some config
  access_events : ∀ e ∈ access, IsAccess e
  ends : ¬ AllCommitted access ∧ push = [] ∨
    AllCommitted access ∧ ∃ mid,
      (condense (updateConfigRaw mid (some o)) = condense config ∧ push = [] ∨
        ∃ b, Trace (pushConfig bearerToken b devices gatewaySerial deviceObj
          (updateConfigRaw mid (some o))).run push r)

/-- A run in which rules were changed has this shape. -/
lemma setConfigSteps_changes {o : Json.Object} {r : Except CallResult Unit}
    (h : Trace (setConfigSteps conv condense bearerToken body devices gatewaySerial subscriberId).run
      tr r) (last : lastCommitted tr = some o) :
    ∃ deviceObj config access push,
      tr = recordEvent bearerToken gatewaySerial deviceObj :: (access ++ push) ∧
      Changes condense bearerToken devices gatewaySerial o deviceObj config access push r := by
  have quiet_absurd : (∀ e ∈ tr, isChange e = false) → False := by
    intro quiet
    rw [lastCommitted_quiet quiet] at last
    cases last
  unfold setConfigSteps at h
  split at h
  case h_1 =>
    obtain ⟨rfl, _⟩ := trace_attempt_throw.mp h
    exact (quiet_absurd nofun).elim
  case h_2 b =>
    rcases trace_ensure h with rfl | h1
    · exact (quiet_absurd nofun).elim
    rcases trace_ensure h1 with rfl | h2
    · exact (quiet_absurd nofun).elim
    rcases trace_attempt_bind.mp h2 with ⟨_, _, h3⟩ | ⟨tr1, tr2, ⟨deviceObj, config⟩, rfl, fetch, h3⟩
    · exact (quiet_absurd (fetchGateway_asks (fun _ => rfl) tr _ h3)).elim
    obtain ⟨rfl, fetched⟩ := fetchGateway_inv fetch
    -- reading the gateway commits nothing, so the change comes later
    have last2 : lastCommitted tr2 = some o := by
      have quiet : lastCommitted [recordEvent bearerToken gatewaySerial deviceObj] = none := rfl
      have split := lastCommitted_append [recordEvent bearerToken gatewaySerial deviceObj] tr2
      rw [quiet, Option.or_none] at split
      exact split.symm.trans last
    have absurd2 : tr2 ≠ [] := by
      rintro rfl
      cases last2
    rcases trace_attempt_bind.mp h3 with ⟨_, _, h4⟩ | ⟨tr3, tr4, mid, rfl, h4, h5⟩
    · -- the overrides ask nothing, so nothing is changed when they fail
      have none := updateSsid_asks _ _ _ tr2 _ h4
      exact (absurd2 (List.eq_nil_iff_forall_not_mem.mpr none)).elim
    obtain rfl : tr3 = [] := List.eq_nil_iff_forall_not_mem.mpr (updateSsid_asks _ _ _ tr3 _ h4)
    rcases trace_attempt_bind.mp h5 with ⟨e, rfl, h6⟩ | ⟨access, push, updated, rfl, h6, h7⟩
    · obtain ⟨events, outcome⟩ := updateClientAccess_commits h6
      rcases outcome o last2 with ⟨_, eq⟩ | ⟨some, _⟩
      · cases eq
      · -- some entries are committed, and the configuration is not pushed
        refine ⟨deviceObj, config, tr4, [], ?_, fetched, events, .inl ⟨some, rfl⟩⟩
        rw [List.append_nil]
        rfl
    · obtain ⟨events, outcome⟩ := updateClientAccess_commits h6
      -- what is committed last is one of the entries, not the push
      have quiet : ∀ e ∈ push, isChange e = false := by
        split at h7
        case isTrue =>
          obtain ⟨rfl, _⟩ := trace_attempt_pure.mp h7
          exact nofun
        case isFalse => exact pushConfig_quiet h7
      rw [List.nil_append, lastCommitted_append, lastCommitted_quiet quiet, Option.none_or] at last2
      rcases outcome o last2 with ⟨all, eq⟩ | ⟨_, e, eq⟩
      · cases eq
        refine ⟨deviceObj, config, access, push, rfl, fetched, events, .inr ⟨all, mid, ?_⟩⟩
        split at h7
        case isTrue same =>
          obtain ⟨rfl, _⟩ := trace_attempt_pure.mp h7
          exact .inl ⟨same, rfl⟩
        case isFalse => exact .inr ⟨b, h7⟩
      · cases eq

/-- The configuration which the gateway had already runs the commands of a snapshot. -/
def AlreadyRuns (gatewaySerial : String) (tr : List Portal.Event) (cmds : List Json) : Prop :=
  ∃ e ∈ tr, ∃ config, fetched gatewaySerial e = some config ∧ RunsSnapshot config cmds

/-- The gateway is left with a configuration which runs the commands of a snapshot. -/
def LeftWith (gatewaySerial : String) (tr : List Portal.Event) (cmds : List Json) : Prop :=
  ∃ config, held gatewaySerial tr = some config ∧ RunsSnapshot config cmds

/-- The gateway is left with the snapshot if all changes were committed, or if it ran it before. -/
lemma Changes.leftWith_iff {o deviceObj config : Json.Object} {access push : List Portal.Event}
    {r : Except CallResult Unit} {cmds : List Json} (injective : Function.Injective condense)
    (h : Changes condense bearerToken devices gatewaySerial o deviceObj config access push r)
    (snapshot : snapshotOf o = some cmds) :
    LeftWith gatewaySerial (recordEvent bearerToken gatewaySerial deviceObj :: (access ++ push)) cmds ↔
      AllCommitted access ∨ RunsSnapshot config cmds := by
  have unknown : ∀ e ∈ access, known gatewaySerial e = none := fun e he =>
    known_access (h.access_events e he)
  have start : held gatewaySerial [recordEvent bearerToken gatewaySerial deviceObj] = some config := by
    rw [held, List.filterMap_cons_some (known_recordEvent h.record)]
    rfl
  have unpushed : push = [] →
      held gatewaySerial (recordEvent bearerToken gatewaySerial deviceObj :: (access ++ push)) =
        some config := by
    rintro rfl
    rw [List.append_nil]
    exact (held_append unknown).trans start
  rcases h.ends with ⟨some, none⟩ | ⟨all, mid, ⟨same, none⟩ | ⟨b, pushes⟩⟩
  · rw [LeftWith, unpushed none]
    simp [some]
  · have eq : updateConfigRaw mid (some o) = config := injective same
    refine ⟨fun _ => .inl all, fun _ => ?_⟩
    rw [LeftWith, unpushed none, ← eq]
    exact ⟨_, rfl, updateConfigRaw_snapshotOf snapshot⟩
  · obtain ⟨t, answer, rest, mesh, rfl⟩ := pushConfig_shape pushes
    refine ⟨fun _ => .inl all, fun _ => ?_⟩
    have sends : held gatewaySerial ((recordEvent bearerToken gatewaySerial deviceObj ::
        (access ++ [⟨.now, t⟩])) ++ [⟨.call (configureCall bearerToken gatewaySerial
          (stampConfig (updateConfigRaw mid (some o)) (Utils.now t)) (Utils.now t)), answer⟩]) =
        some (stampConfig (updateConfigRaw mid (some o)) (Utils.now t)) := by
      apply held_concat
      rw [known, pushed_configureCall, if_pos rfl]
      rfl
    have eq := (held_append fun e he => known_meshPush (mesh e he)).trans sends
    refine ⟨stampConfig (updateConfigRaw mid (some o)) (Utils.now t), ?_, ?_⟩
    · simpa using eq
    · exact runsSnapshot_stampConfig.mpr (updateConfigRaw_snapshotOf snapshot)

/-- The push neither changes the rules nor reads the gateway. -/
lemma Changes.push_quiet {o deviceObj config : Json.Object} {access push : List Portal.Event}
    {r : Except CallResult Unit}
    (h : Changes condense bearerToken devices gatewaySerial o deviceObj config access push r) :
    ∀ e ∈ push, isChange e = false ∧ fetched gatewaySerial e = none := by
  rcases h.ends with ⟨_, rfl⟩ | ⟨_, mid, ⟨_, rfl⟩ | ⟨b, pushes⟩⟩
  · exact nofun
  · exact nofun
  · obtain ⟨t, answer, rest, mesh, rfl⟩ := pushConfig_shape pushes
    intro e he
    rcases List.mem_cons.mp he with rfl | he
    · exact ⟨rfl, rfl⟩
    · rcases List.mem_cons.mp he with rfl | he
      · exact ⟨rfl, fetched_configureCall⟩
      · rcases mesh e he with ⟨t, rfl⟩ | ⟨_, _, _, _, _, _, rfl⟩
        · exact ⟨rfl, rfl⟩
        · exact ⟨rfl, fetched_configureCall⟩

/-- The changes of a request are made between the record and the push. -/
lemma Changes.allCommitted_iff {o deviceObj config : Json.Object} {access push : List Portal.Event}
    {r : Except CallResult Unit}
    (h : Changes condense bearerToken devices gatewaySerial o deviceObj config access push r) :
    AllCommitted (recordEvent bearerToken gatewaySerial deviceObj :: (access ++ push)) ↔
      AllCommitted access := by
  refine ⟨?_, ?_⟩
  · intro all e he
    exact all e (List.mem_cons_of_mem _ (List.mem_append_left _ he))
  · intro all e he change
    rcases List.mem_cons.mp he with rfl | he
    · cases change
    · rcases List.mem_append.mp he with he | he
      · exact all e he change
      · rw [(h.push_quiet e he).1] at change
        cases change

/-- The configuration of the gateway is only fetched with the record. -/
lemma Changes.alreadyRuns_iff {o deviceObj config : Json.Object} {access push : List Portal.Event}
    {r : Except CallResult Unit} {cmds : List Json}
    (h : Changes condense bearerToken devices gatewaySerial o deviceObj config access push r) :
    AlreadyRuns gatewaySerial (recordEvent bearerToken gatewaySerial deviceObj :: (access ++ push)) cmds ↔
      RunsSnapshot config cmds := by
  have record : fetched gatewaySerial (recordEvent bearerToken gatewaySerial deviceObj) = some config :=
    fetched_getConfigCall h.record
  refine ⟨?_, ?_⟩
  · rintro ⟨e, he, config', fetches, runs⟩
    rcases List.mem_cons.mp he with rfl | he
    · rw [record] at fetches
      cases fetches
      exact runs
    · have none : fetched gatewaySerial e = none := by
        rcases List.mem_append.mp he with he | he
        · exact (known_eq_none.mp (known_access (h.access_events e he))).2
        · exact (h.push_quiet e he).2
      rw [none] at fetches
      cases fetches
  · intro runs
    exact ⟨_, List.mem_cons_self .., config, record, runs⟩

/-- After a request by which the parental-control service has changed its rules, the gateway is left with
the rules of the last change exactly when no change has failed, or when it already ran these rules. -/
theorem setConfig_agrees_iff {r : CallResult} {o : Json.Object} {cmds : List Json}
    (injective : Function.Injective condense)
    (h : Trace (setConfig conv condense bearerToken body devices gatewaySerial subscriberId) tr r)
    (last : lastCommitted tr = some o) (snapshot : snapshotOf o = some cmds) :
    LeftWith gatewaySerial tr cmds ↔ AllCommitted tr ∨ AlreadyRuns gatewaySerial tr cmds := by
  obtain ⟨tr1, tr2, res, rfl, h1, h2⟩ := trace_bind.mp h
  obtain rfl : tr2 = [] := by
    cases res with
    | ok => exact (trace_pure.mp h2).1
    | error => exact (trace_pure.mp h2).1
  rw [List.append_nil] at last ⊢
  obtain ⟨deviceObj, config, access, push, rfl, changes⟩ := setConfigSteps_changes h1 last
  rw [changes.leftWith_iff injective snapshot, changes.allCommitted_iff, changes.alreadyRuns_iff]

end Request

/-! ## Two blocks, the second of which fails -/

namespace TwoBlocks

/-- A request to block two clients. -/
def body : Json.Object :=
  [("client", .arr [.obj [("access", .str "deny"), ("mac", .str "aabbccddee01")],
    .obj [("access", .str "deny"), ("mac", .str "aabbccddee02")]])]

def devices : List SubscriberDevice := [{ serialNumber := "gateway", deviceGroup := "olg" }]

/-- The rules which block the first client. -/
def snapshot : List Json := [.arr [.str "add", .str "rule"]]

/-- The block of a client, with what it is answered. -/
def block (mac : String) (status : HTTPStatus) (reply : Json.Object) : Portal.Event :=
  ⟨.call (ParentalControl.createClientAccessCall "subscriber" [("client_mac", .str mac)]),
    some ⟨status, .json (.obj reply)⟩⟩

/-- The gateway, which has no rules yet, is fetched and the first client is blocked. -/
def first : List Portal.Event :=
  [recordEvent "" "gateway" [("configuration", .obj [])],
    block "aa:bb:cc:dd:ee:01" HTTPStatus.ok [("config-raw", .arr snapshot)]]

/-- The block of the second client fails. -/
def failing : List Portal.Event :=
  first ++ [block "aa:bb:cc:dd:ee:02" HTTPStatus.internalServerError []]

/-- The second client is blocked by the same rules, and the gateway accepts them. -/
def succeeding : List Portal.Event :=
  first ++ [block "aa:bb:cc:dd:ee:02" HTTPStatus.ok [("config-raw", .arr snapshot)], ⟨.now, 0⟩,
    ⟨.call (configureCall "" "gateway" (stampConfig [("config-raw", .arr snapshot)] 0) 0),
      some ⟨HTTPStatus.ok, .json (.obj [])⟩⟩]

/-- The request returns after a list of events. -/
def Returns (tr : List Portal.Event) (r : CallResult) : Prop :=
  Trace (setConfig Conversions.strict Json.Object.condense "" (some body) devices "gateway" "subscriber")
    tr r

/-- The second change fails, and so does the request. -/
lemma returns_failing :
    Returns failing (CallResult.failure HTTPStatus.internalServerError (some [])) := by
  apply trace_iff_replay.mpr
  decide +kernel

/-- Both changes succeed, and so does the request. -/
lemma returns_succeeding : Returns succeeding ⟨true, HTTPStatus.ok, some []⟩ := by
  apply trace_iff_replay.mpr
  decide +kernel

/-- Where both blocks succeed, the gateway is left with their rules. -/
theorem leftWith_succeeding : LeftWith "gateway" succeeding snapshot :=
  have last : lastCommitted succeeding = some [("config-raw", .arr snapshot)] := by decide +kernel
  have commands : snapshotOf [("config-raw", .arr snapshot)] = some snapshot := by decide +kernel
  (setConfig_agrees_iff Json.Object.condense_injective returns_succeeding last commands).mpr
    (.inl (by decide +kernel))

/-- Where the second fails, the rules of the first do not reach the gateway. -/
theorem failing_drifts :
    ¬ ∀ (conv : Conversions) (condense : Json.Object → String) (bearerToken : String)
      (body : Option Json.Object) (devices : List SubscriberDevice)
      (gatewaySerial subscriberId : String) (tr : List Portal.Event) (r : CallResult) (o : Json.Object)
      (cmds : List Json), Function.Injective condense →
      Trace (setConfig conv condense bearerToken body devices gatewaySerial subscriberId) tr r →
      lastCommitted tr = some o → snapshotOf o = some cmds → LeftWith gatewaySerial tr cmds := by
  intro h
  obtain ⟨config, holds, runs⟩ := h _ _ _ _ _ _ _ _ _ [("config-raw", .arr snapshot)] snapshot
    Json.Object.condense_injective returns_failing (by decide +kernel) (by decide +kernel)
  have fetchedConfig : held "gateway" failing = some [] := by decide +kernel
  rw [fetchedConfig] at holds
  cases holds
  exact absurd runs (by decide +kernel)

end TwoBlocks

end UserPortal.Sdk.Gw
