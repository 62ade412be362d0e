import UserPortal.Interaction.Interleaving
import UserPortal.RestApi.GatewayRole

/-!
# Devices which are added at the same time

Any number of requests of one subscriber each add a device, and their messages to the other services
interleave. A request decides at its beginning, from the devices which are listed, whether its device
becomes the gateway; nothing keeps another request from storing its record before this one does.

`addRun_oneGateway_iff`: there is at most one gateway exactly when no request which has listed no device
stores its record after another request has stored one.
-/

namespace UserPortal.RestApi.SubscriberDevices
open Interaction Program Sdk Sdk.Prov ConfigMaker

section Concurrent

variable (conv : Conversions) (stringify : Json.Object → String) (subscriberId operatorId : String)
  {ι : Type} [DecidableEq ι]

/-- An interleaving of requests of one subscriber which add devices, all of which have finished. -/
structure AddRun (users : ι → Security.UserInfoAndPolicy) (bindings : ι → String) where
  subscriber : ∀ i, IsSubscriber subscriberId operatorId (users i)
  start : Store
  finish : Store
  sched : Schedule ι Portal.Op Portal.Op.Answer
  results : ι → Except HandlerAnswer Unit
  interleaving : Interleaving (provisions conv subscriberId operatorId)
    (fun i => (addDevice conv stringify (users i) (bindings i)).run) start sched
    (fun i => .ret (results i)) finish

/-- The number of gateways of the subscriber. -/
def gateways (s : Store) : Nat :=
  (s.devicesOf subscriberId operatorId).countP fun r => r.deviceGroup = "olg"

variable {conv stringify subscriberId operatorId} {users : ι → Security.UserInfoAndPolicy}
  {bindings : ι → String}

namespace AddRun

variable (run : AddRun conv stringify subscriberId operatorId users bindings)

/-- No other request stores a record between the listing of no device and the record of a request. -/
def Exclusive : Prop :=
  ∀ i j r w e, [(i, r), (j, w), (i, e)].Sublist run.sched →
    listing conv subscriberId operatorId r = some [] → (created w).isSome → (created e).isSome → j = i

end AddRun

/-! ## The records which are stored -/

/-- An event which removes nothing, and stores records of the subscriber only. -/
def Own (subscriberId operatorId : String) (e : Portal.Event) : Prop :=
  deleted e = none ∧ ∀ r ∈ created e, r.subscriberId = subscriberId ∧ r.operatorId = operatorId

lemma devicesOf_next {s : Store} {e : Portal.Event} (own : Own subscriberId operatorId e) :
    (s.next e).devicesOf subscriberId operatorId =
      s.devicesOf subscriberId operatorId ++ (created e).toList := by
  cases c : created e with
  | none => rw [next_of_quiet ⟨c, own.1⟩, Option.toList_none, List.append_nil]
  | some r =>
    rw [next_of_created c, Store.devicesOf, List.filter_append]
    congr 1
    exact List.filter_cons_of_pos (decide_eq_true (own.2 r c))

/-- The devices of the subscriber are those there were, and those which were stored. -/
lemma devicesOf_accepts {s s' : Store} {tr : List Portal.Event}
    (own : ∀ e ∈ tr, Own subscriberId operatorId e)
    (acc : Accepts (provisions conv subscriberId operatorId) s tr s') :
    s'.devicesOf subscriberId operatorId =
      s.devicesOf subscriberId operatorId ++ tr.filterMap created := by
  induction acc with
  | nil => rw [List.filterMap_nil, List.append_nil]
  | @cons s s1 s' e tr st _ ih =>
    obtain ⟨ownE, ownTr⟩ := List.forall_mem_cons.mp own
    obtain ⟨_, rfl⟩ := st
    rw [ih ownTr, devicesOf_next ownE, List.append_assoc]
    congr 1
    cases c : created e with
    | none => rw [List.filterMap_cons_none c, Option.toList_none, List.nil_append]
    | some r =>
      rw [List.filterMap_cons_some c]
      rfl

namespace AddRun

variable {run : AddRun conv stringify subscriberId operatorId users bindings}
  {pre post : Schedule ι Portal.Op Portal.Op.Answer} {i : ι} {e : Portal.Event}

/-- The events of a request form a trace of it. -/
lemma trace (run : AddRun conv stringify subscriberId operatorId users bindings) (i : ι) :
    Trace (addDevice conv stringify (users i) (bindings i)).run (Schedule.events i run.sched)
      (run.results i) := run.interleaving.trace rfl

/-- Every event of a run is one of its subscriber. -/
lemma own (mem : e ∈ run.sched.map Prod.snd) : Own subscriberId operatorId e := by
  obtain ⟨⟨i, e⟩, scheduled, rfl⟩ := List.mem_map.mp mem
  replace mem := mem_events.mpr scheduled
  obtain ⟨id, owner⟩ := run.subscriber i
  rcases addDevice_inv (run.trace i) with ⟨quiet, _⟩ |
    ⟨mac, list, devices, middle, configuration, stored, _, _, reads, eq, _⟩
  · obtain ⟨c, d⟩ := quiet e mem
    refine ⟨d, fun r hr => ?_⟩
    rw [c] at hr
    cases hr
  · have ofQuiet : Quiet e → Own subscriberId operatorId e := by
      rintro ⟨c, d⟩
      refine ⟨d, fun r hr => ?_⟩
      rw [c] at hr
      cases hr
    rw [eq] at mem
    rcases List.mem_cons.mp mem with rfl | mem
    · exact ofQuiet (quiet_get rfl)
    · rcases List.mem_append.mp mem with mem | mem
      · exact ofQuiet (reads e mem).quiet
      · cases List.mem_singleton.mp mem
        refine ⟨deleted_of_verb nofun, fun r hr => ?_⟩
        rw [createEvent, created_create] at hr
        split at hr
        case isTrue =>
          cases hr
          exact ⟨id, owner⟩
        case isFalse => cases hr

/-- A record is of the group which the devices give it which the request has listed; the request has listed
them once, and has stored nothing before. -/
lemma create_inv (split : run.sched = pre ++ (i, e) :: post) {record : Record}
    (c : created e = some record) :
    ∃ pre1 l pre2 devices, pre = pre1 ++ (i, l) :: pre2 ∧
      listing conv subscriberId operatorId l = some devices ∧
      record.deviceGroup = newDeviceGroup devices ∧
      ∀ d ∈ Schedule.events i pre, created d = none ∧
        (listing conv subscriberId operatorId d ≠ none → d = l) := by
  have events : Schedule.events i run.sched = Schedule.events i pre ++ e :: Schedule.events i post := by
    rw [split, events_append, events_cons_self]
  have mem : e ∈ Schedule.events i run.sched := by
    rw [events]
    exact List.mem_append_right _ (List.mem_cons_self ..)
  obtain ⟨id, owner⟩ := run.subscriber i
  rcases addDevice_inv (run.trace i) with ⟨quiet, _⟩ |
    ⟨mac, list, devices, middle, configuration, stored, _, fetched, reads, eq, _⟩
  · rw [(quiet e mem).1] at c
    cases c
  · have listQuiet : Quiet (listEvent (users i) list) := quiet_get rfl
    have before : ∀ d ∈ listEvent (users i) list :: middle, created d = none := by
      refine List.forall_mem_cons.mpr ⟨listQuiet.1, fun d hd => (reads d hd).quiet.1⟩
    -- the record is stored by the last event of the request
    obtain ⟨pre_eq, rfl, _⟩ := split_unique (P := fun d => created d ≠ none)
      (events.symm.trans eq) (by rw [c]; exact nofun) (fun d hd => not_not.mpr (before d hd)) nofun
    obtain ⟨pre1, pre2, rfl, _, _⟩ := events_split (a := []) pre_eq
    refine ⟨pre1, _, pre2, devices, rfl, ?_, ?_, ?_⟩
    · rw [listEvent, id, owner, listing_getDevices]
      exact fetched
    · rw [createEvent, created_create] at c
      split at c
      case isTrue =>
        cases c
        rfl
      case isFalse => cases c
    · intro d hd
      rw [pre_eq] at hd
      refine ⟨before d hd, fun lists => ?_⟩
      rcases List.mem_cons.mp hd with rfl | hd
      · rfl
      · exact absurd ((reads d hd).listing_eq subscriberId operatorId) lists

/-! ## The devices at a position -/

variable (run) in
/-- The devices of the subscriber after a part of the schedule. -/
def stored (pre : Schedule ι Portal.Op Portal.Op.Answer) : List Record :=
  run.start.devicesOf subscriberId operatorId ++ (pre.map Prod.snd).filterMap created

lemma stored_append (pre post : Schedule ι Portal.Op Portal.Op.Answer) :
    run.stored (pre ++ post) = run.stored pre ++ (post.map Prod.snd).filterMap created := by
  rw [stored, stored, List.map_append, List.filterMap_append, List.append_assoc]

lemma stored_concat (pre : Schedule ι Portal.Op Portal.Op.Answer) (i : ι) (e : Portal.Event) :
    run.stored (pre ++ [(i, e)]) = run.stored pre ++ (created e).toList := by
  have one : [e].filterMap created = (created e).toList := by
    cases c : created e with
    | none => exact List.filterMap_cons_none c
    | some r => exact List.filterMap_cons_some c
  rw [stored_append, List.map_singleton, one]

lemma stored_of_accepts (split : run.sched = pre ++ post) {s : Store}
    (acc : Accepts (provisions conv subscriberId operatorId) run.start (pre.map Prod.snd) s) :
    s.devicesOf subscriberId operatorId = run.stored pre := by
  refine devicesOf_accepts ?_ acc
  intro e he
  have mem : e ∈ run.sched.map Prod.snd := by
    rw [split, List.map_append]
    exact List.mem_append_left _ he
  exact own mem

lemma stored_finish : run.finish.devicesOf subscriberId operatorId = run.stored run.sched :=
  stored_of_accepts (List.append_nil _).symm run.interleaving.accepts

/-- A request lists no device exactly where there is none. -/
lemma listing_at (split : run.sched = pre ++ (i, e) :: post) {devices : List Gw.SubscriberDevice}
    (lists : listing conv subscriberId operatorId e = some devices) :
    devices = [] ↔ run.stored pre = [] := by
  have acc := run.interleaving.accepts
  rw [split, List.map_append, List.map_cons] at acc
  obtain ⟨s, acc1, acc2⟩ := accepts_append.mp acc
  obtain ⟨_, ⟨answers, _⟩, _⟩ := accepts_cons.mp acc2
  have len := congrArg List.length (answers.listing_devices devices lists)
  rw [List.length_map, List.length_map, stored_of_accepts split acc1] at len
  rw [← List.length_eq_zero_iff, ← List.length_eq_zero_iff, len]

/-- A request which lists no device makes its own the gateway. -/
lemma newDeviceGroup_eq_olg {devices : List Gw.SubscriberDevice} :
    newDeviceGroup devices = "olg" ↔ devices = [] := by
  cases devices with
  | nil => exact ⟨fun _ => rfl, fun _ => rfl⟩
  | cons d devices =>
    have mesh : newDeviceGroup (d :: devices) = "ap" := rfl
    rw [mesh]
    exact ⟨fun h => absurd h (by decide), nofun⟩

/-- Where requests are exclusive, a record of a gateway is the first one. -/
lemma stored_nil_of_olg (exclusive : run.Exclusive) (split : run.sched = pre ++ (i, e) :: post)
    {record : Record} (c : created e = some record) (group : record.deviceGroup = "olg") :
    run.stored pre = [] := by
  obtain ⟨pre1, l, pre2, devices, rfl, lists, eq, before⟩ := create_inv split c
  obtain rfl := newDeviceGroup_eq_olg.mp (eq.symm.trans group)
  have split1 : run.sched = pre1 ++ (i, l) :: (pre2 ++ (i, e) :: post) := by
    rw [split, List.append_assoc, List.cons_append]
  rw [stored_append, (listing_at split1 lists).mp rfl, List.nil_append, List.filterMap_eq_nil_iff]
  -- neither this request nor another one has stored a record since the listing
  intro d hd
  obtain ⟨⟨j, d⟩, mem, rfl⟩ := List.mem_map.mp hd
  by_cases own : j = i
  · subst own
    exact (before d (mem_events.mpr (List.mem_append_right _ mem))).1
  · cases w : created d with
    | none => rfl
    | some r =>
      rcases List.mem_cons.mp mem with same | later
      · cases same
        exact absurd rfl own
      · have sub : [(i, l), (j, d), (i, e)].Sublist run.sched := by
          rw [split1]
          refine List.Sublist.trans ?_ (List.sublist_append_right pre1 _)
          refine List.Sublist.cons_cons _ ?_
          exact List.Sublist.append (List.singleton_sublist.mpr later)
            (List.singleton_sublist.mpr (List.mem_cons_self ..))
        have same := exclusive i j l d e sub lists (by rw [w]; rfl) (by rw [c]; rfl)
        exact absurd same own

/-- The number of gateways among some records. -/
def olgs (records : List Record) : Nat := records.countP fun r => r.deviceGroup = "olg"

/-- Exclusive requests keep at most one gateway. -/
lemma olgs_le_one (exclusive : run.Exclusive)
    (start : olgs (run.start.devicesOf subscriberId operatorId) ≤ 1) (split : run.sched = pre ++ post) :
    olgs (run.stored pre) ≤ 1 := by
  induction pre using List.reverseRecOn generalizing post with
  | nil =>
    rw [stored, List.map_nil, List.filterMap_nil, List.append_nil]
    exact start
  | append_singleton pre d ih =>
    obtain ⟨i, e⟩ := d
    have split' : run.sched = pre ++ (i, e) :: post := by
      rw [split, List.append_assoc, List.singleton_append]
    rw [stored_concat, olgs, List.countP_append]
    cases c : created e with
    | none => exact ih split'
    | some record =>
      by_cases group : record.deviceGroup = "olg"
      · rw [stored_nil_of_olg exclusive split' c group, List.countP_nil, Nat.zero_add]
        exact List.countP_le_length
      · rw [Option.toList_some, List.countP_singleton, if_neg (by simpa using group)]
        exact ih split'

/-- Where the subscriber had no device, one of the devices is a gateway. -/
lemma one_le_olgs (start : run.start.devicesOf subscriberId operatorId = [])
    (split : run.sched = pre ++ post) (some : run.stored pre ≠ []) : 1 ≤ olgs (run.stored pre) := by
  induction pre using List.reverseRecOn generalizing post with
  | nil =>
    rw [stored, List.map_nil, List.filterMap_nil, List.append_nil] at some
    exact absurd start some
  | append_singleton pre d ih =>
    obtain ⟨i, e⟩ := d
    have split' : run.sched = pre ++ (i, e) :: post := by
      rw [split, List.append_assoc, List.singleton_append]
    rw [stored_concat] at some ⊢
    rw [olgs, List.countP_append]
    by_cases first : run.stored pre = []
    · cases c : created e with
      | none =>
        rw [first, c] at some
        cases some rfl
      | some record =>
        obtain ⟨pre1, l, pre2, devices, rfl, lists, eq, _⟩ := create_inv split' c
        have split1 : run.sched = pre1 ++ (i, l) :: (pre2 ++ (i, e) :: post) := by
          rw [split', List.append_assoc, List.cons_append]
        rw [stored_append] at first
        have empty := (listing_at split1 lists).mpr (List.append_eq_nil_iff.mp first).1
        have group := eq.trans (newDeviceGroup_eq_olg.mpr empty)
        rw [Option.toList_some, List.countP_singleton, if_pos (by simpa using group)]
        exact Nat.le_add_left 1 _
    · exact Nat.le_add_right_of_le (ih split' first)

/-- Requests which keep at most one gateway are exclusive. -/
lemma exclusive_of_olgs (one : olgs (run.stored run.sched) ≤ 1) : run.Exclusive := by
  intro i j r w e sub lists wrote stores
  by_contra other
  obtain ⟨record, c⟩ := Option.isSome_iff_exists.mp stores
  obtain ⟨a, rest1, eq1, memR, sub1⟩ := List.cons_sublist_iff.mp sub
  obtain ⟨b, rest2, rfl, memW, sub2⟩ := List.cons_sublist_iff.mp sub1
  obtain ⟨a1, a2, rfl⟩ := List.append_of_mem memR
  obtain ⟨c1, c2, rfl⟩ := List.append_of_mem (List.singleton_sublist.mp sub2)
  have splitR : run.sched = a1 ++ (i, r) :: (a2 ++ (b ++ (c1 ++ (i, e) :: c2))) := by
    rw [eq1, List.append_assoc, List.cons_append]
  have splitE : run.sched = (a1 ++ (i, r) :: a2 ++ b ++ c1) ++ (i, e) :: c2 := by
    simp only [eq1, List.append_assoc, List.cons_append]
  -- the subscriber had no device at the listing, so none at the start
  have empty := (listing_at splitR lists).mp rfl
  have start := (List.append_eq_nil_iff.mp empty).1
  -- the request which has listed no device makes its own a gateway
  obtain ⟨_, l, _, devices, _, lists', group, before⟩ := create_inv splitE c
  have same : r = l := by
    refine (before r (mem_events.mpr ?_)).2 (by rw [lists]; exact nofun)
    rw [List.append_assoc, List.append_assoc]
    exact List.mem_append_right _ (List.mem_cons_self ..)
  rw [← same, lists] at lists'
  cases lists'
  have olg : record.deviceGroup = "olg" := group
  -- the other request has stored a record before, so that there was a gateway
  have some : run.stored (a1 ++ (i, r) :: a2 ++ b ++ c1) ≠ [] := by
    intro none
    have nothing := List.filterMap_eq_nil_iff.mp (List.append_eq_nil_iff.mp none).2 w
      (List.mem_map.mpr ⟨(j, w), List.mem_append_left _ (List.mem_append_right _ memW), rfl⟩)
    rw [nothing] at wrote
    cases wrote
  have first := one_le_olgs start splitE some
  have more : run.sched = (a1 ++ (i, r) :: a2 ++ b ++ c1) ++ [(i, e)] ++ c2 := by
    simp only [eq1, List.append_assoc, List.cons_append, List.nil_append]
  rw [more, stored_append, stored_concat, c, olgs, List.countP_append, List.countP_append,
    Option.toList_some, List.countP_singleton, if_pos (decide_eq_true olg)] at one
  rw [olgs] at first
  omega

end AddRun

/-- At the end there is at most one gateway exactly when no request which has listed no device stores its
record after another request has stored one. -/
theorem addRun_oneGateway_iff (run : AddRun conv stringify subscriberId operatorId users bindings)
    (start : gateways subscriberId operatorId run.start ≤ 1) :
    gateways subscriberId operatorId run.finish ≤ 1 ↔ run.Exclusive := by
  rw [gateways, AddRun.stored_finish]
  refine ⟨?_, ?_⟩
  · exact AddRun.exclusive_of_olgs
  · intro exclusive
    exact AddRun.olgs_le_one exclusive start (List.append_nil _).symm

end Concurrent

namespace TwoRequests
open TwoDevices

/-- One request adds the first of two devices, the other one the second. -/
def bindings : Bool → String
  | false => "AA:AA:AA:AA:AA:AA"
  | true => "BB:BB:BB:BB:BB:BB"

/-- The events of the second request, when it has listed no device. -/
def secondGatewayEvents : List Portal.Event :=
  addEvents "bbbbbbbbbbbb" missing [] "bbbbbbbbbbbb"
    ((buildGatewayConfig Json.Object.condense (some config) "bbbbbbbbbbbb").getD [])

/-- The requests come one after the other. -/
def oneByOne : Schedule Bool Portal.Op Portal.Op.Answer :=
  gatewayEvents.map (false, ·) ++ meshEvents.map (true, ·)

/-- The first request comes between the listing and the record of the second one. -/
def overlapping : Schedule Bool Portal.Op Portal.Op.Answer :=
  (true, listEvent user missing) :: gatewayEvents.map (false, ·) ++
    (secondGatewayEvents.drop 1).map (true, ·)

/-- A schedule which provisioning accepts is a run, when its events are those of successful requests. -/
def runOf (sched : Schedule Bool Portal.Op Portal.Op.Answer)
    (accepted : answers (fun s e => decide (s.Answers Conversions.strict "subscriber" "operator" e))
      Store.next [] (sched.map Prod.snd) = true)
    (succeed : ∀ i, replay (addDevice Conversions.strict Json.Object.condense user (bindings i)).run
      (Schedule.events i sched) = some (.ok ())) :
    AddRun Conversions.strict Json.Object.condense "subscriber" "operator" (fun _ : Bool => user)
      bindings where
  subscriber _ := ⟨rfl, rfl⟩
  start := []
  finish := (sched.map Prod.snd).foldl Store.next []
  sched := sched
  results _ := .ok ()
  interleaving := .of_traces (accepts_of_answers _ _ _ accepted) fun i => trace_iff_replay.mpr (succeed i)

def serialRun := runOf oneByOne (by decide +kernel) (by decide +kernel)

def overlappingRun := runOf overlapping (by decide +kernel) (by decide +kernel)

/-- Requests which come one after the other are exclusive. -/
lemma serialRun_exclusive : serialRun.Exclusive := by
  have order : oneByOne.map Prod.fst = List.replicate 5 false ++ List.replicate 5 true := by rfl
  intro i j r w e sub _ _ _
  have tags : [i, j, i].Sublist (oneByOne.map Prod.fst) := sub.map Prod.fst
  rw [order] at tags
  revert tags
  cases i <;> cases j <;> decide

/-- One after the other, the requests make one gateway. -/
theorem serialRun_oneGateway : gateways "subscriber" "operator" serialRun.finish ≤ 1 :=
  (addRun_oneGateway_iff serialRun (by decide +kernel)).mpr serialRun_exclusive

/-- Where the requests overlap, they make two gateways. -/
theorem overlapping_twoGateways :
    ¬ ∀ run : AddRun Conversions.strict Json.Object.condense "subscriber" "operator"
      (fun _ : Bool => user) bindings, run.start = [] → gateways "subscriber" "operator" run.finish ≤ 1 := by
  intro all
  have one := all overlappingRun rfl
  have two : gateways "subscriber" "operator" overlappingRun.finish = 2 := by decide +kernel
  rw [two] at one
  exact absurd one (by decide)

end TwoRequests

end UserPortal.RestApi.SubscriberDevices
