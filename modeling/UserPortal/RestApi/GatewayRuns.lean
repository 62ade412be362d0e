import Mathlib.Data.List.Sublists
import UserPortal.Json.Print
import UserPortal.RestApi.GatewayRequests

/-!
# Runs of requests which share a gateway

Any number of requests of one subscriber rewrite the configuration of its gateway. Their messages may
interleave: a request may then send back a configuration which another one has changed since, or a
snapshot of the rules which is no longer the last.

`gateway_keepsUpdates`: no update is lost where no other request configures the gateway between a
request's fetch and its use of what was fetched, and where requests which change the rules configure the
gateway in the order of their changes.
-/

namespace UserPortal.RestApi.ParentalControl
open Interaction Program Calendar Sdk Sdk.Gw

section Runs

variable (conv : Conversions) (condense : Json.Object → String) (locateZone : String → Option Zone)
  (gw subscriberId operatorId : String) {ι : Type} [DecidableEq ι]

/-- An interleaving of requests, all of which have succeeded. -/
structure GatewayRun (requests : ι → Request) where
  start : Services
  finish : Services
  sched : Schedule ι Portal.Op Portal.Op.Answer
  interleaving : Interleaving (serves conv gw)
    (fun i => (requests i).run conv condense locateZone gw subscriberId operatorId) start sched
    (fun _ => .ret true) finish

variable {conv condense locateZone gw subscriberId operatorId} {requests : ι → Request}

/-- A request uses what it has fetched: it changes the rules or configures the gateway. -/
def Uses (gw : String) (e : Portal.Event) : Prop := (produced e).isSome ∨ (configured gw e).isSome

namespace GatewayRun

variable (run : GatewayRun conv condense locateZone gw subscriberId operatorId requests)

/-- The gateway runs the snapshot of the last change of the rules. -/
def KeepsSnapshot : Prop :=
  ∀ cmds, lastProduced (run.sched.map Prod.snd) = some cmds → RunsSnapshot run.finish.config cmds

/-- No other change of SSIDs is the last to configure the gateway: this request comes to the gateway after
it. -/
def IsLastSsid (i : ι) : Prop :=
  ∀ pre j w post, run.sched = pre ++ (j, w) :: post → (configured gw w).isSome →
    (requests j).ssid conv ≠ none →
      j = i ∨ ∃ e, (i, e) ∈ post ∧ ((fetched gw e).isSome ∨ (configured gw e).isSome)

/-- The gateway carries the last change of SSIDs. -/
def KeepsSsid : Prop :=
  ∀ i req, (requests i).ssid conv = some req → run.IsLastSsid i → CarriesSsid req run.finish.config

/-- No other request configures the gateway between the fetch of a request and its use of what it has
fetched. -/
def Undisturbed : Prop := (gatewayCell conv gw).Undisturbed (Uses gw) run.sched

/-- When a request which has changed the rules configures the gateway, the request of the last change is
this one or has yet to change the rules again or to configure the gateway. -/
def InOrder : Prop :=
  ∀ pre i c post j, run.sched = pre ++ (i, c) :: post → (configured gw c).isSome →
    (∃ m ∈ Schedule.events i pre, (produced m).isSome) → lastWriter produced pre = some j →
      j = i ∨ ∃ e, (j, e) ∈ post ∧ Uses gw e

variable {run}

/-- The events of a request are those of a successful one. -/
lemma rewrites (injective : Function.Injective condense) (i : ι) :
    Rewrites conv gw ((requests i).ssid conv) (Schedule.events i run.sched) := by
  have acc := run.interleaving.accepts
  have mem : ∀ e ∈ Schedule.events i run.sched, e ∈ run.sched.map Prod.snd := fun e he =>
    List.mem_map.mpr ⟨(i, e), mem_events.mp he, rfl⟩
  apply Request.rewrites injective (run.interleaving.trace rfl)
  · intro e he
    exact acc.forall_mem (fun _ _ _ st => st.1.produced_snapshot) e (mem e he)
  · intro e he
    exact acc.forall_mem (fun _ _ _ st => st.1.listed_gateway) e (mem e he)

/-- The events of a request around one of them. -/
lemma events_at {i : ι} {e : Portal.Event} {done rest : Schedule ι Portal.Op Portal.Op.Answer}
    (eq : run.sched = done ++ (i, e) :: rest) :
    Schedule.events i run.sched = Schedule.events i done ++ e :: Schedule.events i rest := by
  rw [eq, events_append, events_cons_self]

/-- The snapshot of the last change is the one the gateway runs, unless its request is not done. -/
def Synced (gw : String) (done rest : Schedule ι Portal.Op Portal.Op.Answer) (s : Services) : Prop :=
  lastWriter produced done = none ∨
    (∃ j e, lastWriter produced done = some j ∧ (j, e) ∈ rest ∧ Uses gw e) ∨
    RunsSnapshot s.config s.snapshot

section Step

variable {done rest : Schedule ι Portal.Op Portal.Op.Answer} {i : ι} {e : Portal.Event}
  {s1 s2 : Services}

lemma synced_mutation (injective : Function.Injective condense) (undisturbed : run.Undisturbed)
    (eq : run.sched = done ++ (i, e) :: rest)
    (acc : Accepts (serves conv gw) run.start (done.map Prod.snd) s1) (st : serves conv gw s1 e s2)
    {cmds : List Json} (prod : produced e = some cmds) : Synced gw (done ++ [(i, e)]) rest s2 := by
  by_cases more : ∃ e', (i, e') ∈ rest ∧ Uses gw e'
  · obtain ⟨e', mem, uses⟩ := more
    exact .inr (.inl ⟨i, e', lastWriter_concat_of_write prod, mem, uses⟩)
  · have quiet : ∀ d ∈ Schedule.events i rest, configured gw d = none ∧ produced d = none := by
      intro d hd
      have none : ¬ Uses gw d := fun uses => more ⟨d, mem_events.mp hd, uses⟩
      rw [Uses, not_or, Option.not_isSome_iff_eq_none, Option.not_isSome_iff_eq_none] at none
      exact ⟨none.2, none.1⟩
    obtain ⟨config, holds, runs⟩ := (rewrites injective i).keeps _ e _ cmds (events_at eq) prod quiet
    have current := Cell.current undisturbed eq acc (.inl (by rw [prod]; rfl)) holds
    obtain ⟨_, rfl⟩ := st
    refine .inr (.inr ?_)
    rw [Services.next, prod, configured_of_produced prod]
    rw [← show s1.config = config from current] at runs
    exact runs

lemma synced_configure (injective : Function.Injective condense) (undisturbed : run.Undisturbed)
    (inOrder : run.InOrder) (eq : run.sched = done ++ (i, e) :: rest)
    (acc : Accepts (serves conv gw) run.start (done.map Prod.snd) s1) (st : serves conv gw s1 e s2)
    {c : Json.Object} (conf : configured gw e = some c) (prod : produced e = none)
    (synced : Synced gw done ((i, e) :: rest) s1) : Synced gw (done ++ [(i, e)]) rest s2 := by
  obtain ⟨config, holds, snapshot, noSnapshot, _⟩ :=
    (rewrites injective i).configures _ e _ c (events_at eq) conf
  have current : s1.config = config :=
    Cell.current undisturbed eq acc (.inr (by rw [conf]; rfl)) holds
  obtain ⟨_, rfl⟩ := st
  rw [Synced, lastWriter_concat_of_quiet prod, Services.next, conf, prod]
  cases own : lastProduced (Schedule.events i done) with
  | some cmds =>
    -- the request has changed the rules: it sends the snapshot of its own last change
    obtain ⟨m, mem, changes⟩ : ∃ m ∈ Schedule.events i done, (produced m).isSome := by
      obtain ⟨m, mem, hm⟩ := List.mem_filterMap.mp (List.mem_of_getLast? own)
      exact ⟨m, mem, by rw [hm]; rfl⟩
    obtain ⟨j, last⟩ := exists_lastWriter (mem_events.mp mem) changes
    rcases inOrder done i e rest j eq (by rw [conf]; rfl) ⟨m, mem, changes⟩ last with rfl | ⟨e', mem', uses⟩
    · have held : s1.snapshot = cmds := by
        have lastAll : ((done.map Prod.snd).filterMap produced).getLast? = some cmds := by
          rw [← lastWriter_events last]
          exact own
        exact (snapshotCell conv gw).value_eq_last acc lastAll
      refine .inr (.inr ?_)
      have runs := snapshot cmds own
      rw [← held] at runs
      exact runs
    · exact .inr (.inl ⟨j, e', last, mem', uses⟩)
  | none =>
    -- the request has changed no rule: it sends the snapshot which it has fetched
    have same : c.get? "config-raw" = s1.config.get? "config-raw" := by
      rw [noSnapshot own, current]
    rcases synced with none | ⟨j, e', last, mem, uses⟩ | runs
    · exact .inl none
    · rcases List.mem_cons.mp mem with here | mem
      · cases here
        obtain ⟨d, mem, changes⟩ := lastWriter_mem last
        have none := List.filterMap_eq_nil_iff.mp (List.getLast?_eq_none_iff.mp own) d
          (mem_events.mpr mem)
        rw [none] at changes
        cases changes
      · exact .inr (.inl ⟨j, e', last, mem, uses⟩)
    · exact .inr (.inr ((runsSnapshot_of_get? same).mpr runs))

/-- One event keeps the invariant. -/
lemma synced_step (injective : Function.Injective condense) (undisturbed : run.Undisturbed)
    (inOrder : run.InOrder) (eq : run.sched = done ++ (i, e) :: rest)
    (acc : Accepts (serves conv gw) run.start (done.map Prod.snd) s1) (st : serves conv gw s1 e s2)
    (synced : Synced gw done ((i, e) :: rest) s1) : Synced gw (done ++ [(i, e)]) rest s2 := by
  cases prod : produced e with
  | some cmds => exact synced_mutation injective undisturbed eq acc st prod
  | none =>
    cases conf : configured gw e with
    | some c => exact synced_configure injective undisturbed inOrder eq acc st conf prod synced
    | none =>
      obtain ⟨_, rfl⟩ := st
      rw [Synced, lastWriter_concat_of_quiet prod, Services.next, conf, prod]
      rcases synced with none | ⟨j, e', last, mem, uses⟩ | runs
      · exact .inl none
      · rcases List.mem_cons.mp mem with here | mem
        · cases here
          rw [Uses, prod, conf] at uses
          rcases uses with uses | uses
          · cases uses
          · cases uses
        · exact .inr (.inl ⟨j, e', last, mem, uses⟩)
      · exact .inr (.inr runs)

end Step

/-- The last change of rules is kept. -/
lemma keepsSnapshot (injective : Function.Injective condense) (undisturbed : run.Undisturbed)
    (inOrder : run.InOrder) : run.KeepsSnapshot := by
  intro cmds last
  have acc := run.interleaving.accepts
  have synced : Synced gw run.sched [] run.finish :=
    acc.along (.inl rfl) fun done i e rest s1 s2 eq pre st h =>
      synced_step injective undisturbed inOrder eq pre st h
  have held : run.finish.snapshot = cmds := (snapshotCell conv gw).value_eq_last acc last
  rcases synced with none | ⟨j, e, _, mem, _⟩ | runs
  · obtain ⟨e, mem, prod⟩ := List.mem_filterMap.mp (List.mem_of_getLast? last)
    obtain ⟨⟨i, e⟩, mem', rfl⟩ := List.mem_map.mp mem
    obtain ⟨j, some⟩ := exists_lastWriter mem' (Option.isSome_of_eq_some prod)
    rw [none] at some
    cases some
  · cases mem
  · rw [held] at runs
    exact runs

/-- A request has yet to come to the gateway, or the gateway carries its SSID. -/
def Carried (gw : String) (i : ι) (req : SsidRequest) (rest : Schedule ι Portal.Op Portal.Op.Answer)
    (s : Services) : Prop :=
  (∃ e, (i, e) ∈ rest ∧ ((fetched gw e).isSome ∨ (configured gw e).isSome)) ∨ CarriesSsid req s.config

/-- One event keeps the SSID of the last change of SSIDs. -/
lemma carried_step (injective : Function.Injective condense) (undisturbed : run.Undisturbed) {i : ι}
    {req : SsidRequest} (asks : (requests i).ssid conv = some req) (isLast : run.IsLastSsid i)
    {done rest : Schedule ι Portal.Op Portal.Op.Answer} {j : ι} {e : Portal.Event} {s1 s2 : Services}
    (eq : run.sched = done ++ (j, e) :: rest)
    (acc : Accepts (serves conv gw) run.start (done.map Prod.snd) s1) (st : serves conv gw s1 e s2)
    (carried : Carried gw i req ((j, e) :: rest) s1) : Carried gw i req rest s2 := by
  obtain ⟨answers, rfl⟩ := st
  by_cases more : ∃ e', (i, e') ∈ rest ∧ ((fetched gw e').isSome ∨ (configured gw e').isSome)
  · exact .inl more
  · refine .inr ?_
    cases conf : configured gw e with
    | some c =>
      obtain ⟨config, holds, _, _, carries, entries⟩ :=
        (rewrites injective j).configures _ e _ c (events_at eq) conf
      rw [Services.next, conf]
      show CarriesSsid req c
      by_cases changes : (requests j).ssid conv = none
      · -- another request sends back the SSIDs which it has fetched
        have current : s1.config = config :=
          Cell.current undisturbed eq acc (.inr (by rw [conf]; rfl)) holds
        rw [CarriesSsid, entries changes, ← current]
        rcases carried with ⟨e', mem, comes⟩ | carries
        · rcases List.mem_cons.mp mem with here | mem
          · cases here
            rw [asks] at changes
            cases changes
          · exact absurd ⟨e', mem, comes⟩ more
        · exact carries
      · rcases isLast done j e rest eq (by rw [conf]; rfl) changes with rfl | comes
        · exact carries req asks
        · exact absurd comes more
    | none =>
      rw [Services.next, conf]
      show CarriesSsid req s1.config
      rcases carried with ⟨e', mem, comes⟩ | carries
      · rcases List.mem_cons.mp mem with here | mem
        · cases here
          rw [conf] at comes
          obtain ⟨config, f⟩ := Option.isSome_iff_exists.mp (comes.resolve_right Bool.false_ne_true)
          -- the request has fetched and configures nothing more
          have quiet : ∀ d ∈ Schedule.events i rest, configured gw d = none := by
            intro d hd
            rw [← Option.not_isSome_iff_eq_none]
            exact fun c => more ⟨d, mem_events.mp hd, .inr c⟩
          rw [← answers.fetched_config config f]
          exact (rewrites injective i).carries req _ e _ config asks (events_at eq) f quiet
        · exact absurd ⟨e', mem, comes⟩ more
      · exact carries

/-- The last change of SSIDs is kept. -/
lemma keepsSsid (injective : Function.Injective condense) (undisturbed : run.Undisturbed) :
    run.KeepsSsid := by
  intro i req asks isLast
  have acc := run.interleaving.accepts
  have start : Carried gw i req run.sched run.start := by
    obtain ⟨e, mem, f⟩ := (rewrites injective i).comes req asks
    exact .inl ⟨e, mem_events.mp mem, .inl f⟩
  have carried : Carried gw i req [] run.finish :=
    acc.along (J := fun _ rest s => Carried gw i req rest s) start
      fun done j e rest s1 s2 eq pre st h => carried_step injective undisturbed asks isLast eq pre st h
  rcases carried with ⟨e, mem, _⟩ | carries
  · cases mem
  · exact carries

end GatewayRun

variable (conv locateZone gw subscriberId operatorId requests) in
/-- No update of the gateway is lost in a run where no other request configures the gateway between the
fetch of a request and its use of what it has fetched, and where requests configure the gateway in the
order in which they have changed the rules. -/
theorem gateway_keepsUpdates (injective : Function.Injective condense)
    (run : GatewayRun conv condense locateZone gw subscriberId operatorId requests)
    (undisturbed : run.Undisturbed) (inOrder : run.InOrder) : run.KeepsSnapshot ∧ run.KeepsSsid :=
  ⟨GatewayRun.keepsSnapshot injective undisturbed inOrder, GatewayRun.keepsSsid injective undisturbed⟩

/-! ### A change of SSIDs and a change of the rules -/

namespace TwoRequests

/-- The configuration of a gateway with one interface, which has one SSID. -/
def config : Json.Object :=
  [("interfaces", .arr [.obj [("ssids", .arr [.obj
    [("encryption", .obj [("key", .str "openwifi")]), ("name", .str "guest")]])]])]

/-- The snapshot after the change. -/
def snapshot : List Json := [.arr [.str "add", .str "rule"]]

def start : Services := { config, snapshot := [] }

def body : Json.Object := [("ssid", .obj [("name", .str "home"), ("password", .str "password")])]

/-- One request changes the SSID, the other adds a device to a group. -/
def pair : Bool → Request
  | true => .setConfig "" (some body) [{ serialNumber := "gateway", deviceGroup := "olg" }]
  | false => .mutation "" (.createGroupDevice "group" [])

/-- The configuration with the SSID changed. -/
def ssidChanged : Json.Object :=
  [("interfaces", .arr [.obj [("ssids", .arr [.obj
    [("encryption", .obj [("key", .str "password")]), ("name", .str "home")]])]])]

/-- The other request's events, up to the fetch of a configuration. -/
def change : List Portal.Event :=
  [⟨.call (ParentalControl.serviceCall .post "/api/v1/subscribers/subscriber/groups/group/devices" []
      120000), some ⟨HTTPStatus.ok, .json (.obj [("config-raw", .arr snapshot)])⟩⟩,
    ⟨.call (Prov.getDevicesCall "" "subscriber" "operator"), some ⟨HTTPStatus.ok,
      .json (.obj [("subscriberDevices", .arr [.obj
        [("deviceGroup", .str "olg"), ("serialNumber", .str "gateway")]])])⟩⟩]

/-- The gateway returns a configuration. -/
def fetch (config : Json.Object) : Portal.Event :=
  fetchEvent "" "gateway" [("configuration", .obj config)]

/-- The gateway accepts a configuration. -/
def push (config : Json.Object) : List Portal.Event :=
  [⟨.now, 0⟩, ⟨.call (configureCall "" "gateway" (stampConfig config 0) 0),
    some ⟨HTTPStatus.ok, .json (.obj [])⟩⟩]

/-- The schedule of events of both requests. -/
def schedule (events : List (Bool × List Portal.Event)) : Schedule Bool Portal.Op Portal.Op.Answer :=
  events.flatMap fun d => d.2.map (d.1, ·)

/-- The SSID is changed first. -/
def oneByOne : Schedule Bool Portal.Op Portal.Op.Answer :=
  schedule [(true, fetch config :: push ssidChanged),
    (false, change ++ fetch (stampConfig ssidChanged 0) ::
      push ((stampConfig ssidChanged 0).set "config-raw" (.arr snapshot)))]

/-- The other request comes between the fetch and the push. -/
def overlapping : Schedule Bool Portal.Op Portal.Op.Answer :=
  schedule [(true, [fetch config]),
    (false, change ++ fetch config :: push (config.set "config-raw" (.arr snapshot))),
    (true, push ssidChanged)]

/-- The services after a schedule. -/
def after (sched : Schedule Bool Portal.Op Portal.Op.Answer) : Services :=
  (sched.map Prod.snd).foldl (Services.next "gateway") start

/-- A schedule which the services accept is a run, when its events are those of successful requests. -/
def runOf (sched : Schedule Bool Portal.Op Portal.Op.Answer)
    (accepted : start.accepts Conversions.strict "gateway" (sched.map Prod.snd) = true)
    (succeed : ∀ i, replay ((pair i).run Conversions.strict Json.Object.condense (fun _ => none) "gateway"
      "subscriber" "operator") (Schedule.events i sched) = some true) :
    GatewayRun Conversions.strict Json.Object.condense (fun _ => none) "gateway" "subscriber" "operator"
      pair where
  start := start
  finish := after sched
  sched := sched
  interleaving := .of_traces (Services.accepts_serves accepted) fun i => trace_iff_replay.mpr (succeed i)

/-- The run in which the requests come one after the other. -/
def serialRun := runOf oneByOne (by decide +kernel) (by decide +kernel)

/-- The run in which they overlap. -/
def overlappingRun := runOf overlapping (by decide +kernel) (by decide +kernel)

/-- Only the second request changes rules. -/
lemma pair_changes : ∀ d ∈ oneByOne, (produced d.2).isSome → d.1 = false := by decide +kernel

/-- The second of three events is not a push between a fetch and the use of what was fetched. -/
def separate : List (Bool × Portal.Event) → Bool
  | [d1, d2, d3] =>
    d1.1 ≠ d3.1 || (fetched "gateway" d1.2).isNone || (configured "gateway" d2.2).isNone ||
      ((produced d3.2).isNone && (configured "gateway" d3.2).isNone) || d2.1 = d1.1
  | _ => true

/-- The requests do not overlap. -/
lemma serialRun_undisturbed : serialRun.Undisturbed := by
  have all : (oneByOne.sublistsLen 3).all separate = true := by decide +kernel
  intro i j r w e sub read write uses
  have h := List.all_eq_true.mp all _ (List.mem_sublistsLen.mpr ⟨sub, rfl⟩)
  have read : (fetched "gateway" r).isSome := read
  have write : (configured "gateway" w).isSome := write
  have noRead : (fetched "gateway" r).isNone = false := by simpa using read
  have noWrite : (configured "gateway" w).isNone = false := by simpa using write
  have uses : ((produced e).isNone && (configured "gateway" e).isNone) = false := by
    rw [Bool.and_eq_false_iff]
    exact uses.imp (by simp) (by simp)
  simpa [separate, noRead, noWrite, uses] using h

lemma serialRun_inOrder : serialRun.InOrder := by
  intro pre i c post j eq _ changes last
  have mem : ∀ d ∈ pre, d ∈ oneByOne := by
    intro d hd
    rw [show oneByOne = pre ++ (i, c) :: post from eq]
    exact List.mem_append_left _ hd
  obtain ⟨m, hm, prod⟩ := changes
  obtain ⟨d, hd, prod'⟩ := lastWriter_mem last
  have hi : i = false := pair_changes _ (mem _ (mem_events.mp hm)) prod
  have hj : j = false := pair_changes _ (mem _ hd) prod'
  exact .inl (hj.trans hi.symm)

/-- One after the other, the requests keep both updates. -/
theorem gateway_keepsUpdates_serial :
    serialRun.Undisturbed ∧ serialRun.InOrder ∧ serialRun.KeepsSnapshot ∧ serialRun.KeepsSsid :=
  ⟨serialRun_undisturbed, serialRun_inOrder,
    gateway_keepsUpdates _ _ _ _ _ _ Json.Object.condense_injective serialRun serialRun_undisturbed
      serialRun_inOrder⟩

/-- Where the requests overlap, the change of the rules is lost. -/
theorem overlapping_loses :
    ¬ ∀ run : GatewayRun Conversions.strict Json.Object.condense (fun _ => none) "gateway" "subscriber"
      "operator" pair, run.KeepsSnapshot ∧ run.KeepsSsid := by
  intro h
  have runs := (h overlappingRun).1 snapshot (by decide +kernel)
  exact absurd runs (by decide +kernel)

end TwoRequests

end Runs

end UserPortal.RestApi.ParentalControl
