import UserPortal.Interaction.WorkerQueue
import UserPortal.StatsCache

/-!
# The thread of the statistics server

Port of `Start`, `Stop`, `StatsReceived` and the loop of `run` of `src/StatsSvr.cpp` and `src/StatsSvr.h`: the
callback of the topic posts the messages, and a worker behind the queue makes the cache of them. Here `Running_`
is set before the thread is started, and not by it.
-/

namespace UserPortal.StatsCache
open Interaction Data

/-- `Queue_`, `Worker_` and `Running_`. Each message which was handled carries the time of that. -/
abbrev StatsQueue := WorkerQueue (Option Json) UInt64

/-- A message as it was handled. -/
def message (h : Option Json × UInt64) : Message where
  now := h.2
  document := h.1

/-- `StatsSvr` at run time. -/
structure StatsServer where
  queue : StatsQueue
  deviceStats : Cache

namespace StatsServer

/-- `Start` -/
def start : StatsServer where
  queue := .init
  deviceStats := .empty

variable (memory : Nat → Memory)

/-- What one thread does. -/
inductive Step : StatsServer → StatsServer → Prop where
  /-- `StatsReceived` -/
  | statsReceived {s : StatsServer} (document : Option Json) :
    Step s { s with queue := s.queue.post document }
  /-- the body of the loop -/
  | handle {s : StatsServer} (document : Option Json) (now : UInt64) :
    s.queue.worker = .checking (some document) →
    s.queue.running = true →
    Step s
      { queue := { s.queue with worker := .taking, handled := s.queue.handled ++ [(document, now)] }
        deviceStats := receive memory s.deviceStats (message (document, now)) }
  /-- the thread goes on -/
  | run {s : StatsServer} {queue : StatsQueue} :
    WorkerQueue.WorkerStep false s.queue queue →
    queue.handled = s.queue.handled →
    Step s { s with queue := queue }
  | lower {s : StatsServer} :
    s.queue.stopper = .idle →
    Step s { s with queue := { s.queue with running := false, stopper := .lowered } }
  | wakeUpAll {s : StatsServer} :
    s.queue.stopper = .lowered →
    Step s { s with queue := s.queue.wakeUpAll }
  | join {s : StatsServer} :
    s.queue.stopper = .joining →
    s.queue.worker = .stopped →
    Step s { s with queue := { s.queue with stopper := .returned } }

/-- The states which the server can be in. -/
def Reachable : StatsServer → Prop := Relation.ReflTransGen (Step memory) start

variable {memory} {s : StatsServer}

lemma handled_post {q : StatsQueue} {document : Option Json} : (q.post document).handled = q.handled := by
  rw [WorkerQueue.post]
  split <;> rfl

lemma handled_wakeUpAll {q : StatsQueue} : q.wakeUpAll.handled = q.handled := by
  rw [WorkerQueue.wakeUpAll]
  split <;> rfl

/-- The server is a worker behind a queue, and the cache is made of what it has handled. -/
lemma Reachable.cache (reach : Reachable memory s) : WorkerQueue.Reachable false s.queue ∧
    s.deviceStats = StatsCache.run memory (s.queue.handled.map message) := by
  induction reach with
  | refl => exact ⟨.refl, rfl⟩
  | tail _ step ih =>
    obtain ⟨reach, cache⟩ := ih
    cases step with
    | statsReceived document =>
      refine ⟨reach.tail (.post document), ?_⟩
      rw [handled_post]
      exact cache
    | handle document now checking running =>
      refine ⟨reach.tail (.worker (.handle document now checking running)), ?_⟩
      rw [StatsCache.run] at cache ⊢
      rw [List.map_append, List.foldl_append, ← cache]
      rfl
    | run step same =>
      refine ⟨reach.tail (.worker step), ?_⟩
      rw [same]
      exact cache
    | lower idle => exact ⟨reach.tail (.lower idle), cache⟩
    | wakeUpAll lowered =>
      refine ⟨reach.tail (.wakeUp lowered), ?_⟩
      rw [handled_wakeUpAll]
      exact cache
    | join joining stopped => exact ⟨reach.tail (.join joining stopped), cache⟩

end StatsServer

open StatsServer

/-- However the callback, the thread and `Stop` are interleaved: the cache is what a first part of the messages
received makes of an empty one, one message after the other. Until `Stop` is called, the others are held or
wait in the queue. A `Stop` which wakes up the queue returns, unless a message is received later, exactly when
the thread waits then, or it has ended, or the flag is cleared and there is a message left for it. -/
theorem statsServer_cache {memory : Nat → Memory} {s : StatsServer} (reach : StatsServer.Reachable memory s) :
    (∃ handled : List Message, s.deviceStats = StatsCache.run memory handled ∧
        handled.map Message.document <+: s.queue.posted ∧
        (s.queue.stopper = .idle → s.queue.posted =
          handled.map Message.document ++ s.queue.worker.held ++ s.queue.queue)) ∧
      (s.queue.stopper = .lowered → (WorkerQueue.Ends false s.queue.wakeUpAll ↔
        s.queue.worker = .waiting ∨ s.queue.worker = .stopped ∨ s.queue.running = false ∧
          (s.queue.worker.held ≠ [] ∨
            s.queue.queue ≠ [] ∧ (s.queue.worker = .taking ∨ s.queue.worker = .starting)))) := by
  obtain ⟨queue, cache⟩ := reach.cache
  have documents : (s.queue.handled.map message).map Message.document = s.queue.handled.map Prod.fst := by
    rw [List.map_map]
    rfl
  refine ⟨⟨s.queue.handled.map message, cache, ?_, ?_⟩, ?_⟩
  · rw [documents]
    exact queue.handled_prefix
  · rw [documents]
    exact queue.posted_eq_of_idle
  · intro lowered
    rw [WorkerQueue.stops_iff, WorkerQueue.willStop_wakeUpAll queue.sound lowered]
    simp

/-! ### A server which is stopped -/

namespace TwoReports

def first : Option Json := (stateMessage 1 10 20).document

def second : Option Json := (stateMessage 2 15 21).document

/-- The first report was handled, and the thread holds the second one. -/
def between : StatsServer where
  queue :=
    { (WorkerQueue.init : StatsQueue) with
      posted := [first, second]
      handled := [(first, 5)]
      worker := .checking (some second) }
  deviceStats := receive (fun _ _ => 0) .empty (message (first, 5))

/-- `Stop` has cleared the flag. -/
def lowered : StatsServer :=
  { between with queue := { between.queue with running := false, stopper := .lowered } }

lemma between_reachable : StatsServer.Reachable (fun _ _ => 0) between := by
  have received : StatsServer.Reachable (fun _ _ => 0) { start with queue := start.queue.post first } :=
    .single (.statsReceived first)
  have receives := received.tail (.statsReceived second)
  have begins := receives.tail (.run (.begin rfl) rfl)
  have takes := begins.tail (.run (.take first [second] rfl rfl) rfl)
  have handles := takes.tail (.handle first 5 rfl rfl)
  exact handles.tail (.run (.take second [] rfl rfl) rfl)

/-- The first report has made its device known, and a thread which holds the second one is ended by `Stop`. -/
theorem report_handled :
    (∃ handled : List Message, between.deviceStats = StatsCache.run (fun _ _ => 0) handled ∧
        (between.deviceStats.get? 0x1122334455).isSome = true ∧
        [first, second] = handled.map Message.document ++ [second]) ∧
      WorkerQueue.Ends false lowered.queue.wakeUpAll := by
  obtain ⟨handled, cache, _, idle⟩ := (statsServer_cache between_reachable).1
  have posted := idle rfl
  rw [show between.queue.queue = [] from rfl, List.append_nil] at posted
  refine ⟨⟨handled, cache, by decide +kernel, posted⟩, ?_⟩
  have stops : StatsServer.Reachable (fun _ _ => 0) lowered := between_reachable.tail (.lower rfl)
  exact ((statsServer_cache stops).2 rfl).mpr (.inr (.inr ⟨rfl, .inl (List.cons_ne_nil _ _)⟩))

end TwoReports

end UserPortal.StatsCache
