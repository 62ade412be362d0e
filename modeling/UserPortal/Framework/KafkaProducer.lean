import UserPortal.Framework.KafkaManager
import UserPortal.Interaction.WorkerQueue

/-!
# The Kafka producer

Port of `KafkaProducer` and of `PostMessage` and `WrapSystemId` of `src/framework/KafkaManager.cpp`. The thread
of the producer is a worker behind a queue whose `run` sets `Running_` once more. Whether the broker took a
message is an answer of the environment: an exception of `produce` or of `flush` is logged, and the thread goes
on with the next message.
-/

namespace UserPortal.Kafka
open Interaction

/-- `KafkaMessage` -/
structure KafkaMessage where
  topic : String
  key : String
  payload : String
  deriving DecidableEq

/-- `KafkaProducer`. Each message which was handled carries whether it was produced without an exception. -/
abbrev KafkaProducer := WorkerQueue KafkaMessage Bool

/-- What the manager knows of its service: `KafkaEnabled_`, `MicroServiceID()` and
`MicroServicePrivateEndPoint()`. -/
structure KafkaManager where
  kafkaEnabled : Bool
  microServiceID : Nat
  microServicePrivateEndPoint : String

/-- The arguments of `PostMessage`. -/
structure Post where
  topic : String
  key : String
  payLoad : String
  wrapMessage : Bool := true

namespace KafkaManager

variable (self : KafkaManager)

/-- `WrapSystemId` -/
def wrapSystemId (payLoad : String) : String :=
  "\x7b \"system\" : \x7b \"id\" : " ++ toString self.microServiceID ++ ", \"host\" : \"" ++
    self.microServicePrivateEndPoint ++ "\" \x7d, \"payload\" : " ++ payLoad ++ " \x7d"

/-- What `PostMessage` produces. -/
def message (p : Post) : KafkaMessage where
  topic := p.topic
  key := p.key
  payload := if p.wrapMessage then self.wrapSystemId p.payLoad else p.payLoad

/-- `PostMessage` -/
def postMessage (producer : KafkaProducer) (p : Post) : KafkaProducer :=
  if self.kafkaEnabled then producer.post (self.message p) else producer

/-- The calls of `PostMessage` so far, and the producer. -/
abbrev State := List Post × KafkaProducer

/-- What one thread does. `Start` and `Stop` do nothing where Kafka is not enabled, and `Stop` of the producer
nothing where it is not running. -/
inductive Step : State → State → Prop where
  | postMessage {posts : List Post} {producer : KafkaProducer} (p : Post) :
    Step (posts, producer) (posts ++ [p], self.postMessage producer p)
  | run {posts : List Post} {producer producer' : KafkaProducer} :
    self.kafkaEnabled = true →
    WorkerQueue.WorkerStep true producer producer' →
    Step (posts, producer) (posts, producer')
  | lower {posts : List Post} {producer : KafkaProducer} :
    self.kafkaEnabled = true →
    producer.running = true →
    producer.stopper = .idle →
    Step (posts, producer) (posts, { producer with running := false, stopper := .lowered })
  | wakeUpAll {posts : List Post} {producer : KafkaProducer} :
    producer.stopper = .lowered →
    Step (posts, producer) (posts, producer.wakeUpAll)
  | join {posts : List Post} {producer : KafkaProducer} :
    producer.stopper = .joining →
    producer.worker = .stopped →
    Step (posts, producer) (posts, { producer with stopper := .returned })

/-- The states which the manager can be in. -/
def Reachable : State → Prop := Relation.ReflTransGen self.Step ([], .init)

end KafkaManager

/-- What the broker has taken, in order. -/
def KafkaProducer.produced (producer : KafkaProducer) : List KafkaMessage :=
  (producer.handled.filter fun h => h.2).map Prod.fst

variable {self : KafkaManager} {posts : List Post} {producer : KafkaProducer}

/-- The producer is a worker behind a queue, which is posted what the calls make of their arguments. -/
lemma KafkaManager.Reachable.queue (reach : self.Reachable (posts, producer)) :
    WorkerQueue.Reachable true producer ∧
      producer.posted = if self.kafkaEnabled then posts.map self.message else [] := by
  generalize eq : (posts, producer) = s at reach
  induction reach generalizing posts producer with
  | refl =>
    cases eq
    exact ⟨.refl, by split <;> rfl⟩
  | tail _ step ih =>
    cases step with
    | postMessage p =>
      cases eq
      obtain ⟨reach, posted⟩ := ih rfl
      rw [KafkaManager.postMessage]
      by_cases enabled : self.kafkaEnabled = true
      · rw [if_pos enabled] at posted ⊢
        rw [if_pos enabled]
        refine ⟨reach.tail (.post _), ?_⟩
        rw [WorkerQueue.posted_post, posted, List.map_append]
        rfl
      · rw [if_neg enabled] at posted ⊢
        rw [if_neg enabled]
        exact ⟨reach, posted⟩
    | run enabled step =>
      cases eq
      obtain ⟨reach, posted⟩ := ih rfl
      exact ⟨reach.tail (.worker step), (WorkerQueue.posted_workerStep step).trans posted⟩
    | lower enabled running idle =>
      cases eq
      obtain ⟨reach, posted⟩ := ih rfl
      exact ⟨reach.tail (.lower idle), posted⟩
    | wakeUpAll lowered =>
      cases eq
      obtain ⟨reach, posted⟩ := ih rfl
      exact ⟨reach.tail (.wakeUp lowered), WorkerQueue.posted_wakeUpAll.trans posted⟩
    | join joining stopped =>
      cases eq
      obtain ⟨reach, posted⟩ := ih rfl
      exact ⟨reach.tail (.join joining stopped), posted⟩

/-- A step of the manager is one of its producer, or a call which is not enabled. -/
lemma KafkaManager.Step.queue {posts' : List Post} {producer' : KafkaProducer}
    (step : self.Step (posts, producer) (posts', producer')) :
    WorkerQueue.Step true producer producer' ∨ producer' = producer := by
  cases step with
  | postMessage p =>
    rw [KafkaManager.postMessage]
    split
    · exact .inl (.post _)
    · exact .inr rfl
  | run _ step => exact .inl (.worker step)
  | lower _ _ idle => exact .inl (.lower idle)
  | wakeUpAll lowered => exact .inl (.wakeUp lowered)
  | join joining stopped => exact .inl (.join joining stopped)

/-- A `Stop` which has cleared the flag and wakes up the queue returns, unless a message is posted later,
exactly when the thread waits then, or it has ended, or the flag is still cleared and the thread holds a
message, or finds one. A thread which was not yet started, or is just about to ask an empty queue, waits for
ever. -/
theorem stop_returns_iff (reach : self.Reachable (posts, producer)) (lowered : producer.stopper = .lowered) :
    WorkerQueue.Ends true producer.wakeUpAll ↔
      producer.worker = .waiting ∨ producer.worker = .stopped ∨ producer.running = false ∧
        (producer.worker.held ≠ [] ∨ producer.queue ≠ [] ∧ producer.worker = .taking) := by
  have sound := reach.queue.1.sound
  rw [WorkerQueue.stops_iff, WorkerQueue.willStop_wakeUpAll sound lowered]
  have notStarting : ¬ (true = false ∧ producer.worker = .starting) := fun h => nomatch h.1
  rw [or_iff_left notStarting]

/-! ### A producer which is stopped -/

namespace TwoPosts

/-- A manager which is enabled. -/
def manager : KafkaManager where
  kafkaEnabled := true
  microServiceID := 9
  microServicePrivateEndPoint := "https://sub"

/-- A message of the event bus. -/
def post (payLoad : String) : Post where
  topic := KafkaTopics.serviceEvents
  key := "https://sub"
  payLoad := payLoad
  wrapMessage := false

def calls : List Post := [post "ping", post "pong"]

/-- The messages were posted while the thread was started. -/
def begun : KafkaProducer :=
  { ((WorkerQueue.init : KafkaProducer).post (manager.message (post "ping"))).post (manager.message (post "pong")) with
    worker := .taking
    running := true }

/-- The broker has taken the first message, and the thread holds the second one. -/
def between : KafkaProducer :=
  { begun with
    handled := [(manager.message (post "ping"), true)]
    worker := .checking (some (manager.message (post "pong")))
    queue := [] }

/-- Producing the second message has thrown, and the thread waits. -/
def waiting : KafkaProducer :=
  { between with
    handled := between.handled ++ [(manager.message (post "pong"), false)]
    worker := .waiting }

/-- `Stop` has ended the thread. -/
def ended : KafkaProducer :=
  { waiting with
    running := false
    stopper := .joining
    worker := .stopped }

lemma between_reachable : manager.Reachable (calls, between) := by
  have ping : manager.Reachable ([post "ping"], manager.postMessage .init (post "ping")) :=
    .single (.postMessage (post "ping"))
  have posted : manager.Reachable
      (calls, manager.postMessage (manager.postMessage .init (post "ping")) (post "pong")) :=
    ping.tail (.postMessage (post "pong"))
  have begins : manager.Reachable (calls, begun) := posted.tail (.run rfl (.begin rfl))
  have takes : manager.Reachable (calls, { begun with
      worker := .checking (some (manager.message (post "ping")))
      queue := [manager.message (post "pong")] }) :=
    begins.tail (.run rfl (.take _ _ rfl rfl))
  have handles := takes.tail (.run rfl (.handle (manager.message (post "ping")) true rfl rfl))
  exact handles.tail (.run rfl (.take (manager.message (post "pong")) [] rfl rfl))

/-- A producer which is stopped before its thread begins. -/
theorem starting_neverEnds : ¬ WorkerQueue.Ends true
    (WorkerQueue.wakeUpAll { (.init : KafkaProducer) with running := false, stopper := .lowered }) := by
  have reach : manager.Reachable ([], { (.init : KafkaProducer) with running := false, stopper := .lowered }) :=
    .single (.lower rfl rfl rfl)
  rw [stop_returns_iff reach rfl]
  decide

end TwoPosts

end UserPortal.Kafka
