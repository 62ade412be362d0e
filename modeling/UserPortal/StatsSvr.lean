import Mathlib.Data.List.Induction
import UserPortal.Framework.KafkaManager

/-!
# Topic watchers of the portal

Port of `StatsSvr::Start` and `StatsSvr::Stop` of `src/StatsSvr.cpp`, next to the watcher which
`MicroService::StartEverything` registers. A run issues these calls in any order. `Stop` names another
topic than `Start`: the callback of a stopped `StatsSvr` stays where it was registered.
-/

namespace UserPortal.Kafka
open KafkaConsumer

/-- The objects whose callbacks are registered. -/
inductive Watcher where
  | statsSvr
  | microService
  deriving DecidableEq

/-- `StatsSvr` -/
structure StatsSvr where
  running : Bool := false
  statsWatcherId : Nat := 0

namespace StatsSvr

/-- `Start` -/
def start (_ : StatsSvr) (kafka : KafkaConsumer Watcher) : StatsSvr × KafkaConsumer Watcher :=
  let (id, kafka) := kafka.registerTopicWatcher KafkaTopics.state .statsSvr
  ({ running := true, statsWatcherId := id }, kafka)

/-- `Stop` -/
def stop (self : StatsSvr) (kafka : KafkaConsumer Watcher) : StatsSvr × KafkaConsumer Watcher :=
  ({ self with running := false },
    kafka.unregisterTopicWatcher KafkaTopics.connection self.statsWatcherId)

end StatsSvr

/-- The registration of `MicroService::StartEverything`, which drops the id. -/
def startEverything (kafka : KafkaConsumer Watcher) : KafkaConsumer Watcher :=
  (kafka.registerTopicWatcher KafkaTopics.serviceEvents .microService).2

/-! ## Runs -/

inductive Call where
  | start
  | stop
  | startEverything
  deriving DecidableEq

/-- The portal, and the registrations which no stop has ended yet. -/
structure State where
  statsSvr : StatsSvr
  kafka : KafkaConsumer Watcher
  live : List (Registration Watcher)

namespace State

def init : State where
  statsSvr := {}
  kafka := .init
  live := []

/-- A start adds its registration, a stop ends every registration of its subsystem. -/
def step (s : State) : Call → State
  | .start =>
    let (statsSvr, kafka) := s.statsSvr.start s.kafka
    { statsSvr, kafka, live := s.live ++ [⟨KafkaTopics.state, .statsSvr, s.kafka.functionId⟩] }
  | .stop =>
    let (statsSvr, kafka) := s.statsSvr.stop s.kafka
    { statsSvr, kafka, live := s.live.filter fun r => r.callback ≠ .statsSvr }
  | .startEverything =>
    { s with
      kafka := startEverything s.kafka
      live := s.live ++ [⟨KafkaTopics.serviceEvents, .microService, s.kafka.functionId⟩] }

def run (calls : List Call) : State := calls.foldl step init

/-- The calls so far leave the notifier lists with the live registrations, and no callback of a subsystem
which has just stopped. -/
structure Kept (calls : List Call) : Prop where
  sound : Sound (run calls).live (run calls).kafka
  stopped : calls.getLast? = some .stop →
    ∀ topic, ∀ e ∈ (run calls).kafka.notified topic, e.1 ≠ .statsSvr

/-- The calls which register a watcher. -/
def registrations (calls : List Call) : Nat := calls.countP (· ≠ .stop)

/-- No `Stop` of `StatsSvr` follows a `Start`. -/
def NeverStopped (calls : List Call) : Prop :=
  ∀ past, past ++ [.stop] <+: calls → .start ∉ past

variable {calls past : List Call} {c : Call} {s : State}

/-- A run with one more call. -/
@[simp] lemma run_concat : run (calls ++ [c]) = (run calls).step c := List.foldl_concat ..

/-- A call adds at most one registration. -/
lemma registrations_concat :
    registrations (calls ++ [c]) = registrations calls + if c = .stop then 0 else 1 := by
  rw [registrations, List.countP_append]
  cases c <;> rfl

/-- Ids are handed out in order, modulo 2^64. -/
lemma functionId_run : (run calls).kafka.functionId = (1 + registrations calls) % 2 ^ 64 := by
  induction calls using List.reverseRecOn with
  | nil => rfl
  | append_singleton calls c ih =>
    rw [run_concat, registrations_concat]
    cases c with
    | start =>
      show ((run calls).kafka.functionId + 1) % 2 ^ 64 = _
      rw [ih, Nat.mod_add_mod]
      rfl
    | stop => exact functionId_unregisterTopicWatcher.trans ih
    | startEverything =>
      show ((run calls).kafka.functionId + 1) % 2 ^ 64 = _
      rw [ih, Nat.mod_add_mod]
      rfl

/-! ## Runs which stop a started subsystem, or register too often -/

/-- No call removes a callback of the topic which `StatsSvr` watches. -/
lemma notified_step {e : Watcher × Int} (h : e ∈ s.kafka.notified KafkaTopics.state) :
    e ∈ (s.step c).kafka.notified KafkaTopics.state := by
  cases c with
  | start => exact mem_registerTopicWatcher_of_mem h
  | stop =>
    refine notified_unregisterTopicWatcher ▸ ?_
    rwa [if_neg (by decide)]
  | startEverything => exact mem_registerTopicWatcher_of_mem h

/-- The callback of a started `StatsSvr` is there ever after. -/
lemma notified_run (started : .start ∈ calls) :
    ∃ id, (Watcher.statsSvr, id) ∈ (run calls).kafka.notified KafkaTopics.state := by
  induction calls using List.reverseRecOn with
  | nil => cases started
  | append_singleton calls c ih =>
    rw [run_concat]
    rcases List.mem_append.mp started with started | last
    · obtain ⟨id, mem⟩ := ih started
      exact ⟨id, notified_step mem⟩
    · cases List.mem_singleton.mp last
      exact ⟨toInt (run calls).kafka.functionId, mem_registerTopicWatcher⟩

/-- No `Start` comes before a `Stop` which is kept. -/
lemma Kept.not_started (h : Kept (past ++ [.stop])) : .start ∉ past := by
  intro started
  obtain ⟨id, mem⟩ := notified_run (List.mem_append_left [.stop] started)
  exact h.stopped List.getLast?_concat _ _ mem rfl

/-- A registration is listed under its id only while the id is an `int`. -/
lemma Kept.small (h : Kept (past ++ [c])) (registers : c ≠ .stop) (small : registrations past < 2 ^ 31) :
    registrations past + 1 < 2 ^ 31 := by
  by_contra large
  have last : (run past).kafka.functionId = 2 ^ 31 := by
    rw [functionId_run]
    omega
  have listed : ∃ topic f, (f, toInt (2 ^ 31)) ∈ (run (past ++ [c])).kafka.notified topic := by
    rw [run_concat, ← last]
    cases c with
    | start => exact ⟨_, _, mem_registerTopicWatcher⟩
    | stop => exact absurd rfl registers
    | startEverything => exact ⟨_, _, mem_registerTopicWatcher⟩
  obtain ⟨topic, f, mem⟩ := listed
  rw [h.sound.listed] at mem
  obtain ⟨r, _, eq⟩ := List.mem_map.mp mem
  have negative : toInt (2 ^ 31) = -2 ^ 31 := by decide +kernel
  have id : (r.id : Int) = -2 ^ 31 := (Prod.mk.inj eq).2.trans negative
  omega

/-- The numbers of the watchers do not wrap around. -/
lemma registrations_lt (h : ∀ past, past <+: calls → Kept past) : registrations calls < 2 ^ 31 := by
  induction calls using List.reverseRecOn with
  | nil => decide
  | append_singleton calls c ih =>
    have small := ih fun past before => h past (before.trans (List.prefix_append _ _))
    rw [registrations_concat]
    split
    case isTrue => exact small
    case isFalse registers => exact (h _ (List.prefix_refl _)).small registers small

/-! ## The other runs -/

/-- What holds of the live registrations while no started subsystem has been stopped. -/
structure Unstopped (calls : List Call) (s : State) : Prop where
  sound : Sound s.live s.kafka
  /-- the ids in use are below the next one -/
  used : ∀ r ∈ s.live, r.id < s.kafka.functionId
  started : ∀ r ∈ s.live, r.callback = .statsSvr → .start ∈ calls
  unwatched : s.kafka.notifiers.get? KafkaTopics.connection = none

/-- An earlier part was never stopped either. -/
lemma NeverStopped.mono (h : NeverStopped calls) (before : past <+: calls) : NeverStopped past :=
  fun earlier stop => h earlier (stop.trans before)

/-- It has no more registrations. -/
lemma registrations_le (before : past <+: calls) : registrations past ≤ registrations calls :=
  before.sublist.countP_le

/-- A watcher of another topic than the one which `Stop` names is registered. -/
lemma Unstopped.registered {topic : String} {watcher : Watcher} {statsSvr : StatsSvr}
    (h : Unstopped past s) (small : s.kafka.functionId < 2 ^ 31) (other : topic ≠ KafkaTopics.connection)
    (own : watcher = .statsSvr → c = .start) :
    Unstopped (past ++ [c])
      { statsSvr := statsSvr
        kafka := (s.kafka.registerTopicWatcher topic watcher).2
        live := s.live ++ [⟨topic, watcher, s.kafka.functionId⟩] } where
  sound := h.sound.registered (fun r mem => (h.used r mem).ne) small
  used r mem := by
    show r.id < (s.kafka.functionId + 1) % 2 ^ 64
    rw [Nat.mod_eq_of_lt (by omega)]
    rcases List.mem_append.mp mem with mem | last
    · exact (h.used r mem).trans (Nat.lt_succ_self _)
    · rw [List.mem_singleton.mp last]
      exact Nat.lt_succ_self _
  started r mem stats := by
    rcases List.mem_append.mp mem with mem | last
    · exact List.mem_append_left _ (h.started r mem stats)
    · rw [List.mem_singleton.mp last] at stats
      rw [own stats]
      exact List.mem_append_right _ (List.mem_singleton_self _)
  unwatched := (Data.OrderedMap.get?_alter ..).trans ((if_neg other).trans h.unwatched)

/-- A `Stop` before any `Start` ends no registration and finds no notifier list. -/
lemma Unstopped.stopped (h : Unstopped past s) (never : .start ∉ past) :
    Unstopped (past ++ [.stop]) (s.step .stop) := by
  have live : (s.step .stop).live = s.live := by
    refine List.filter_eq_self.mpr fun r mem => decide_eq_true fun stats => ?_
    exact never (h.started r mem stats)
  have kafka : (s.step .stop).kafka = s.kafka := by
    show KafkaConsumer.unregisterTopicWatcher _ _ _ = _
    rw [unregisterTopicWatcher, h.unwatched]
  exact {
    sound := by
      rw [kafka, live]
      exact h.sound
    used r mem := by
      rw [kafka]
      exact h.used r (live ▸ mem)
    started r mem stats := absurd (h.started r (live ▸ mem) stats) never
    unwatched := kafka ▸ h.unwatched }

/-- A run without `Stop` keeps all watchers. -/
lemma unstopped_run (never : NeverStopped calls) (small : registrations calls < 2 ^ 31) :
    Unstopped calls (run calls) := by
  induction calls using List.reverseRecOn with
  | nil => exact ⟨sound_init, nofun, nofun, rfl⟩
  | append_singleton past c ih =>
    have before : past <+: past ++ [c] := List.prefix_append _ _
    have kept := ih (never.mono before) ((registrations_le before).trans_lt small)
    have next : c ≠ .stop → (run past).kafka.functionId < 2 ^ 31 := by
      intro registers
      rw [registrations_concat, if_neg registers] at small
      rw [functionId_run]
      omega
    rw [run_concat]
    cases c with
    | start => exact kept.registered (next nofun) (by decide) fun _ => rfl
    | stop => exact kept.stopped (never past (List.prefix_refl _))
    | startEverything => exact kept.registered (next nofun) (by decide) nofun

/-- Such a run keeps what it should. -/
lemma kept_of_neverStopped (never : NeverStopped calls) (small : registrations calls < 2 ^ 31) :
    Kept calls where
  sound := (unstopped_run never small).sound
  stopped last topic e mem stats := by
    have all := unstopped_run never small
    rw [all.sound.listed] at mem
    obtain ⟨r, live, rfl⟩ := List.mem_map.mp mem
    obtain ⟨past, rfl⟩ : ∃ past, calls = past ++ [.stop] := List.getLast?_eq_some_iff.mp last
    rcases List.mem_append.mp (all.started r (List.mem_filter.mp live).1 stats) with started | eq
    · exact never past (List.prefix_refl _) started
    · cases List.mem_singleton.mp eq

/-- The notifier lists keep to the live registrations throughout the runs in which no started `StatsSvr`
is stopped, while every id is an `int`. -/
theorem kept_iff (calls : List Call) :
    (∀ past, past <+: calls → Kept past) ↔
      NeverStopped calls ∧ registrations calls < 2 ^ 31 := by
  refine ⟨?_, ?_⟩
  · intro kept
    refine ⟨fun past stop => (kept _ stop).not_started, registrations_lt kept⟩
  · rintro ⟨never, small⟩ past before
    exact kept_of_neverStopped (never.mono before)
      ((registrations_le before).trans_lt small)

/-- A `StatsSvr` which is started and stopped leaves its callback in the list of its topic. -/
theorem stopped_notKept : ¬ ∀ past, past <+: [.start, .stop] → Kept past := by
  intro kept
  have last := kept [.start, .stop] (List.prefix_refl _)
  refine last.stopped rfl KafkaTopics.state (.statsSvr, 1) ?_ rfl
  decide

end State

end UserPortal.Kafka
