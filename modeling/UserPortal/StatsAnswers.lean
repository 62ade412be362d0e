import UserPortal.Framework.Handler
import UserPortal.Framework.JsonFields
import UserPortal.Framework.KafkaConsumer
import UserPortal.StatsServer
import UserPortal.StatsSvr

/-!
# Answers to requests for statistics

Port of `src/RESTAPI/RESTAPI_stats_handler.cpp`, behind the consumer, the callback and the thread which make the
statistics.

`statistics_shown`: wherever the threads are, a subscriber is shown the latest samples of what its own access point
has reported in a first part of the messages which were consumed since the server was started.
-/

namespace UserPortal

namespace SubObjects

instance : ToJsonObject StatsEntry where
  toJson e o := ((o.set "timestamp" (.int e.timestamp)).set "tx" (.int e.tx)).set "rx" (.int e.rx)

instance : ToJsonObject StatsBlock where
  toJson b o := objectsToJson "internal" b.internal
    (objectsToJson "external" b.external (o.set "modified" (.int b.modified)))

end SubObjects

namespace StatsCache
open Interaction Data Kafka SubObjects

/-! ## The handler -/

section Handler

variable {Rest : Type} [Inhabited Rest] (subInfoDB : String → Option (SubscriberInfo Rest)) (cache : Cache)
  (subscriberId mac : String)

/-- `RESTAPI_stats_handler::DoGet` -/
def doGet : Except Thrown HandlerAnswer :=
  if mac = "" ∨ Utils.validSerialNumber mac = false then
    return HandlerAnswer.badRequest "GET" Errors.invalidSerialNumber ""
  else
    match subInfoDB subscriberId with
    | none => return HandlerAnswer.notFound "GET"
    | some si =>
      match si.accessPoints.list.find? fun device => device.macAddress = mac with
      | none => return HandlerAnswer.returnObject (newObject ({} : StatsBlock))
      | some device => do
        let sb ← get cache device.serialNumber {}
        return HandlerAnswer.returnObject (newObject sb)

/-- The latest samples of the reports about a device, with the time of the last one. -/
def block (messages : List Message) (serial : Nat) : StatsBlock where
  modified := if (reports serial messages).length < 2 then 0
    else (((reports serial messages).getLast?).elim 0 Report.now).toNat
  external := (DeviceStats.kept ((reports serial messages).map Report.call)).map DeviceStats.Sample.external
  internal := (DeviceStats.kept ((reports serial messages).map Report.call)).map DeviceStats.Sample.internal

/-- What a subscriber is shown after some messages: of its first access point with the address, and of no other. -/
inductive Shows (messages : List Message) : Except Thrown HandlerAnswer → Prop where
  | refused : mac = "" ∨ Utils.validSerialNumber mac = false →
    Shows messages (.ok (HandlerAnswer.badRequest "GET" Errors.invalidSerialNumber ""))
  | unknown : subInfoDB subscriberId = none → Shows messages (.ok (HandlerAnswer.notFound "GET"))
  | unlisted {si : SubscriberInfo Rest} :
    subInfoDB subscriberId = some si →
    (∀ device ∈ si.accessPoints.list, device.macAddress ≠ mac) →
    Shows messages (.ok (HandlerAnswer.returnObject (newObject ({} : StatsBlock))))
  | own {si : SubscriberInfo Rest} {device : AccessPoint Rest} {serial : Nat} :
    subInfoDB subscriberId = some si →
    (si.accessPoints.list.find? fun device => device.macAddress = mac) = some device →
    Utils.serialNumberToInt device.serialNumber = .ok serial →
    Shows messages (.ok (HandlerAnswer.returnObject (newObject (block messages serial))))
  | unreadable {si : SubscriberInfo Rest} {device : AccessPoint Rest} {e : Thrown} :
    subInfoDB subscriberId = some si →
    (si.accessPoints.list.find? fun device => device.macAddress = mac) = some device →
    Utils.serialNumberToInt device.serialNumber = .error e →
    Shows messages (.error e)

end Handler

/-! ## From the broker to the cache -/

/-- The consumer, what has happened to it since `Start`, and the server. -/
structure Pipeline where
  kafka : Dispatching Watcher
  events : List (ConsumerEvent Watcher)
  server : StatsServer

section Heard

variable (parse : String → Option Json)

/-- The documents which some calls of callbacks bring to the server. -/
def heard (calls : List (CallbackCall Watcher)) : List (Option Json) :=
  (calls.filter fun call => call.1.1 = .statsSvr).map fun call => parse call.2.payload

/-- The calls which are made for an event. -/
def callsFor (kafka : Dispatching Watcher) : ConsumerEvent Watcher → List (CallbackCall Watcher)
  | .consumed msg => (kafka.consumer.notified msg.topic).map fun callback => (callback, msg)
  | _ => []

/-- `StatsReceived`, for some documents -/
def StatsServer.receiveAll (s : StatsServer) (documents : List (Option Json)) : StatsServer where
  queue := documents.foldl WorkerQueue.post s.queue
  deviceStats := s.deviceStats

end Heard

namespace Pipeline

section Steps

variable (parse : String → Option Json) (memory : Nat → Memory) (before : List (ConsumerEvent Watcher))

/-- `StatsSvr::Start`, after the consumer has run for a while. -/
def started : Pipeline where
  kafka := (Dispatching.init.run before).step (.register KafkaTopics.state .statsSvr)
  events := []
  server := .start

/-- What happens next. Another `Start` does not. -/
inductive Step : Pipeline → Pipeline → Prop where
  /-- the consumer, with the callbacks which it calls -/
  | consumer {p : Pipeline} (event : ConsumerEvent Watcher) :
    (∀ topic, event ≠ .register topic .statsSvr) →
    Step p
      { kafka := p.kafka.step event
        events := p.events ++ [event]
        server := p.server.receiveAll (heard parse (callsFor p.kafka event)) }
  /-- the thread of the server, or `Stop` -/
  | server {p : Pipeline} (server : StatsServer) :
    StatsServer.Step memory p.server server →
    server.queue.posted = p.server.queue.posted →
    Step p { p with server := server }

/-- The states after `Start`. -/
def Reachable : Pipeline → Prop := Relation.ReflTransGen (Step parse memory) (started before)

end Steps

/-- The messages which the server is to hear of: those of its topic until its registration is ended. -/
def consumed (id : Nat) (events : List (ConsumerEvent Watcher)) : List KafkaMessage :=
  (events.takeWhile fun e => !e.ends KafkaTopics.state id).filterMap (ConsumerEvent.message? KafkaTopics.state)

end Pipeline

/-! ## The cache -/

section Cache

variable {memory : Nat → Memory} {messages : List Message}

/-- The time of the last call but the first one, which sets the bases alone. -/
lemma lastUpdate_run (memory : Memory) (calls : List DeviceStats.Call) :
    (DeviceStats.run memory calls).lastUpdate =
      if calls.length < 2 then 0 else calls.getLast?.elim 0 DeviceStats.Call.now := by
  induction calls using List.reverseRecOn with
  | nil => rfl
  | append_singleton calls c _ =>
    rw [DeviceStats.run_concat, List.length_append, List.length_singleton, List.getLast?_concat]
    rcases List.eq_nil_or_concat calls with none | ⟨past, previous, eq⟩
    · rw [none]
      rfl
    · have inv : DeviceStats.Kept (DeviceStats.run memory calls) past previous := by
        rw [eq, List.concat_eq_append]
        exact DeviceStats.kept_run past previous
      have more : ¬ calls.length + 1 < 2 := by
        rw [eq, List.length_concat]
        omega
      rw [if_neg more, DeviceStats.addValue, inv.noBase, if_neg Bool.false_ne_true]
      dsimp only
      split
      · rfl
      · rfl

/-- What is shown of a device after the calls for its reports. -/
lemma get_calls (memory : Memory) (messages : List Message) (serial : Nat) :
    (DeviceStats.run memory ((reports serial messages).map Report.call)).get {} = block messages serial := by
  have last : ((reports serial messages).map Report.call).getLast?.elim 0 DeviceStats.Call.now =
      (reports serial messages).getLast?.elim 0 Report.now := by
    rw [List.getLast?_map]
    cases (reports serial messages).getLast? with
    | none => rfl
    | some r => rfl
  have time := lastUpdate_run memory ((reports serial messages).map Report.call)
  rw [last, List.length_map] at time
  obtain ⟨external, internal⟩ := DeviceStats.get_eq memory ((reports serial messages).map Report.call) {}
  rw [DeviceStats.get, block, time, StatsBlock.mk.injEq]
  refine ⟨?_, ?_, ?_⟩
  · split
    · rfl
    · rfl
  · exact external.trans (List.nil_append _)
  · exact internal.trans (List.nil_append _)

/-- The answer after all messages is the block of their reports. -/
lemma get_messages_block (memory : Nat → Memory) (messages : List Message) (serialNumber : String) :
    get (run memory messages) serialNumber {} = (Utils.serialNumberToInt serialNumber).map (block messages) := by
  rw [get]
  congr 1
  funext serial
  rw [← get_calls (memory serial), get?_run]
  cases (reports serial messages).map Report.call with
  | nil => rfl
  | cons c calls => rfl

/-- The handler shows what the messages which were handled have left. -/
lemma doGet_run {Rest : Type} [Inhabited Rest] (subInfoDB : String → Option (SubscriberInfo Rest))
    (subscriberId mac : String) :
    Shows subInfoDB subscriberId mac messages (doGet subInfoDB (run memory messages) subscriberId mac) := by
  rw [doGet]
  split
  case isTrue invalid => exact .refused invalid
  case isFalse =>
    split
    case h_1 unknown => exact .unknown unknown
    case h_2 si kept =>
      split
      case h_1 unlisted =>
        refine .unlisted kept fun device mem same => ?_
        exact List.find?_eq_none.mp unlisted device mem (decide_eq_true same)
      case h_2 device listed =>
        rw [get_messages_block]
        cases read : Utils.serialNumberToInt device.serialNumber with
        | error e => exact .unreadable kept listed read
        | ok serial => exact .own kept listed read

end Cache

/-! ## The messages on their way -/

section Messages

variable {parse : String → Option Json} {memory : Nat → Memory} {before events : List (ConsumerEvent Watcher)}
  {p p' : Pipeline}

/-- What is heard in two parts, one after the other. -/
lemma heard_append (calls more : List (CallbackCall Watcher)) :
    heard parse (calls ++ more) = heard parse calls ++ heard parse more := by
  rw [heard, List.filter_append, List.map_append]
  rfl

/-- A step adds the calls of its event. -/
lemma calls_step (kafka : Dispatching Watcher) (event : ConsumerEvent Watcher) :
    (kafka.step event).calls = kafka.calls ++ callsFor kafka event := by
  cases event with
  | register topic f => exact (List.append_nil _).symm
  | unregister topic id => exact (List.append_nil _).symm
  | consumed msg => rfl

/-- Received documents are posted in their order. -/
lemma posted_receiveAll (s : StatsServer) (documents : List (Option Json)) :
    (s.receiveAll documents).queue.posted = s.queue.posted ++ documents := by
  show (documents.foldl WorkerQueue.post s.queue).posted = _
  induction documents generalizing s with
  | nil => exact (List.append_nil _).symm
  | cons document documents ih =>
    rw [List.foldl_cons, ih { s with queue := s.queue.post document }, WorkerQueue.posted_post, List.append_assoc]
    rfl

/-- Receiving them keeps the server reachable. -/
lemma reachable_receiveAll {s : StatsServer} (reach : StatsServer.Reachable memory s)
    (documents : List (Option Json)) : StatsServer.Reachable memory (s.receiveAll documents) := by
  induction documents generalizing s with
  | nil => exact reach
  | cons document documents ih => exact ih (reach.tail (.statsReceived document))

namespace Pipeline

/-- What has reached the server is what its callback was called with. -/
structure Sound (parse : String → Option Json) (memory : Nat → Memory) (before : List (ConsumerEvent Watcher))
    (p : Pipeline) : Prop where
  kafka : p.kafka = (started before).kafka.run p.events
  once : ∀ topic, .register topic .statsSvr ∉ p.events
  server : StatsServer.Reachable memory p.server
  posted : p.server.queue.posted = heard parse p.kafka.calls

/-- Every step keeps the pipeline sound. -/
lemma Sound.step (h : Sound parse memory before p) (step : Step parse memory p p') :
    Sound parse memory before p' := by
  cases step with
  | consumer event other =>
    refine ⟨?_, fun topic mem => ?_, reachable_receiveAll h.server _, ?_⟩
    · show p.kafka.step event = (started before).kafka.run (p.events ++ [event])
      rw [Dispatching.run, List.foldl_concat, h.kafka]
      rfl
    · rcases List.mem_append.mp mem with mem | last
      · exact h.once topic mem
      · exact other topic (List.mem_singleton.mp last).symm
    · rw [posted_receiveAll, h.posted, calls_step, heard_append]
  | server server step same => exact ⟨h.kafka, h.once, h.server.tail step, same.trans h.posted⟩

/-- Where nothing is registered for the server, what is registered is for another watcher. -/
lemma otherWatcher {past : List (ConsumerEvent Watcher)} {topic : String} {f : Watcher}
    (never : ∀ topic, .register topic .statsSvr ∉ events) (le : past ++ [.register topic f] <+: events) :
    f ≠ .statsSvr := by
  intro own
  subst own
  exact never topic (le.subset (List.mem_append_right _ (List.mem_singleton_self _)))

/-- Before `Start`, nothing is registered for the server or has reached it. -/
lemma absent (unstarted : ∀ topic, .register topic .statsSvr ∉ before) :
    (Dispatching.init.run before).Every fun e => e.1 ≠ Watcher.statsSvr := by
  refine Dispatching.Every.run ⟨fun topic e mem => ?_, fun call mem => ?_⟩
    fun past topic f le => otherWatcher unstarted le
  · cases mem
  · cases mem

/-- It is sound when the server has started. -/
lemma sound_started (unstarted : ∀ topic, .register topic .statsSvr ∉ before) :
    Sound parse memory before (started before) where
  kafka := rfl
  once topic mem := absurd mem List.not_mem_nil
  server := .refl
  posted := by
    have none : ((Dispatching.init.run before).calls.filter fun call => call.1.1 = Watcher.statsSvr) = [] := by
      rw [List.filter_eq_nil_iff]
      intro call mem own
      exact (absent unstarted).called call mem (of_decide_eq_true own)
    show [] = heard parse (Dispatching.init.run before).calls
    rw [heard, none, List.map_nil]

/-- Every reachable pipeline is sound. -/
lemma Reachable.sound (unstarted : ∀ topic, .register topic .statsSvr ∉ before)
    (reach : Reachable parse memory before p) : Sound parse memory before p := by
  induction reach with
  | refl => exact sound_started unstarted
  | tail _ step ih => exact ih.step step

/-- The consumer at `Start`: the id which comes next is small and was not given before. -/
lemma young_started (few : before.countP ConsumerEvent.isRegister < 2 ^ 31 - 2) :
    Dispatching.Young (started before).kafka ∧ (started before).kafka.consumer.functionId =
      (Dispatching.init.run before).consumer.functionId + 1 := by
  obtain ⟨young, count⟩ := Dispatching.young_run (F := Watcher)
    (show before.countP ConsumerEvent.isRegister < 2 ^ 31 - 1 by omega)
  have one : (Dispatching.init.run before).consumer.functionId +
      [ConsumerEvent.register KafkaTopics.state Watcher.statsSvr].countP ConsumerEvent.isRegister < 2 ^ 31 := by
    rw [count, List.countP_singleton]
    show _ + 1 < _
    omega
  exact young.run one

/-- At `Start`, the id of the server is that of its callback alone. -/
lemma every_started (unstarted : ∀ topic, .register topic .statsSvr ∉ before)
    (young : (Dispatching.init.run before).Young) : (started before).kafka.Every fun e =>
      e.1 = Watcher.statsSvr ↔ e.2 = Kafka.toInt (Dispatching.init.run before).consumer.functionId := by
  have absent := absent unstarted
  have small := young.ids.small
  have earlier : (Dispatching.init.run before).Every fun e =>
      e.1 = Watcher.statsSvr ↔ e.2 = Kafka.toInt (Dispatching.init.run before).consumer.functionId := by
    refine ⟨fun topic e mem => iff_of_false (absent.registered topic e mem) ?_,
      fun call mem => iff_of_false (absent.called call mem) ?_⟩
    · rw [toInt_of_lt small]
      exact (young.ids.below topic e mem).ne
    · rw [toInt_of_lt small]
      exact (young.calls call mem).ne
  show ((Dispatching.init.run before).step (.register KafkaTopics.state .statsSvr)).Every _
  refine earlier.step fun topic f eq => ?_
  obtain ⟨_, own⟩ := ConsumerEvent.register.inj eq
  rw [← own]
  dsimp only
  exact iff_of_true rfl rfl

/-- The callback of the server is the one with the id of its registration. -/
lemma every_run (unstarted : ∀ topic, .register topic .statsSvr ∉ before)
    (once : ∀ topic, .register topic .statsSvr ∉ events)
    (few : before.countP ConsumerEvent.isRegister + events.countP ConsumerEvent.isRegister < 2 ^ 31 - 2) :
    ((started before).kafka.run events).Every fun e =>
      e.1 = Watcher.statsSvr ↔ e.2 = Kafka.toInt (Dispatching.init.run before).consumer.functionId := by
  obtain ⟨young, count⟩ := Dispatching.young_run (F := Watcher)
    (show before.countP ConsumerEvent.isRegister < 2 ^ 31 - 1 by omega)
  have small := young.ids.small
  obtain ⟨begun, next⟩ := young_started (show before.countP ConsumerEvent.isRegister < 2 ^ 31 - 2 by omega)
  refine (every_started unstarted young).run fun past topic f le => iff_of_false (otherWatcher once le) ?_
  -- another watcher gets a later id, which is still small
  have fewer : past.countP ConsumerEvent.isRegister ≤ events.countP ConsumerEvent.isRegister :=
    ((List.prefix_append _ _).trans le).sublist.countP_le
  have room : (started before).kafka.consumer.functionId + past.countP ConsumerEvent.isRegister < 2 ^ 31 := by
    rw [next, count]
    omega
  obtain ⟨_, later⟩ := begun.run room
  have below : ((started before).kafka.run past).consumer.functionId < 2 ^ 31 := by
    rw [later]
    exact room
  rw [toInt_of_lt below, toInt_of_lt small, later, next]
  omega

end Pipeline

/-- What reached the server is what was delivered to the callback with its id. -/
lemma heard_delivered {kafka : Dispatching Watcher} {id : Nat}
    (own : kafka.Every fun e => e.1 = Watcher.statsSvr ↔ e.2 = Kafka.toInt id) :
    heard parse kafka.calls = (kafka.delivered (Kafka.toInt id)).map fun msg => parse msg.payload := by
  have same : (kafka.calls.filter fun call => call.1.1 = Watcher.statsSvr) =
      kafka.calls.filter fun call => call.1.2 = Kafka.toInt id :=
    List.filter_congr fun call mem => decide_eq_decide.mpr (own.called call mem)
  rw [heard, same, Dispatching.delivered, List.map_map]
  rfl

end Messages

/-- Wherever the consumer, the thread of the server and `Stop` are: what a request is shown is what some messages have
left, which were consumed one after the other since the server was started, and not after its registration was ended.
Until `Stop` is called, the others of these are held or wait in the queue. -/
theorem statistics_shown {parse : String → Option Json} {memory : Nat → Memory}
    {before : List (ConsumerEvent Watcher)} {p : Pipeline}
    (unstarted : ∀ topic, .register topic .statsSvr ∉ before) (reach : Pipeline.Reachable parse memory before p)
    (few : before.countP ConsumerEvent.isRegister + p.events.countP ConsumerEvent.isRegister < 2 ^ 31 - 2) :
    let documents := (Pipeline.consumed (Dispatching.init.run before).consumer.functionId p.events).map
      fun msg => parse msg.payload
    ∃ handled : List Message, handled.map Message.document <+: documents ∧
      (p.server.queue.stopper = .idle →
        documents = handled.map Message.document ++ p.server.queue.worker.held ++ p.server.queue.queue) ∧
      ∀ (Rest : Type) (_ : Inhabited Rest) (subInfoDB : String → Option (SubscriberInfo Rest))
        (subscriberId mac : String),
        Shows subInfoDB subscriberId mac handled (doGet subInfoDB p.server.deviceStats subscriberId mac) := by
  intro documents
  have sound := reach.sound unstarted
  obtain ⟨queue, cache⟩ := sound.server.cache
  have early : before.countP ConsumerEvent.isRegister < 2 ^ 31 - 1 := by omega
  obtain ⟨young, count⟩ := Dispatching.young_run (F := Watcher) early
  have posted : p.server.queue.posted = documents := by
    have own := Pipeline.every_run unstarted sound.once few
    rw [sound.posted, sound.kafka, heard_delivered own]
    refine congrArg _ (young.delivered_run ?_)
    rw [count]
    omega
  have handled : (p.server.queue.handled.map message).map Message.document =
      p.server.queue.handled.map Prod.fst := by
    rw [List.map_map]
    rfl
  refine ⟨p.server.queue.handled.map message, ?_, ?_, fun Rest _ subInfoDB subscriberId mac => ?_⟩
  · rw [handled, ← posted]
    exact queue.handled_prefix
  · rw [handled, ← posted]
    exact queue.posted_eq_of_idle
  · rw [cache]
    exact doGet_run subInfoDB subscriberId mac

/-! ### Two reports and a request -/

namespace TwoConsumed

open TwoReports (first second)

/-- A message about the state of a device. -/
def message (payload : String) : KafkaMessage where
  topic := KafkaTopics.state
  key := "001122334455"
  payload := payload

def parse (payload : String) : Option Json := if payload = "1" then first else second

/-- The record of one subscriber. -/
def subInfoDB (id : String) : Option (SubscriberInfo Unit) :=
  if id = "s" then
    some { accessPoints := { list := [{ macAddress := "aabbccddeeff", serialNumber := "001122334455" }] } }
  else none

/-- Both reports were consumed, and wait for the thread. -/
def consumed : Pipeline where
  kafka := ((Pipeline.started []).kafka.step (.consumed (message "1"))).step (.consumed (message "2"))
  events := [.consumed (message "1"), .consumed (message "2")]
  server := StatsServer.start.receiveAll [first, second]

/-- Both reports were handled. -/
def handled : Pipeline :=
  { consumed with
    server :=
      { queue :=
          { consumed.server.queue with
            queue := []
            worker := .taking
            handled := [(first, 7), (second, 8)] }
        deviceStats := receive (fun _ _ => 0) (receive (fun _ _ => 0) .empty (StatsCache.message (first, 7)))
          (StatsCache.message (second, 8)) } }

/-- The pipeline which has consumed both reports is reachable. -/
lemma consumed_reachable : Pipeline.Reachable parse (fun _ _ => 0) [] consumed :=
  (Relation.ReflTransGen.single (.consumer (.consumed (message "1")) fun _ => nofun)).tail
    (.consumer (.consumed (message "2")) fun _ => nofun)

/-- So is the one which has handled them. -/
lemma handled_reachable : Pipeline.Reachable parse (fun _ _ => 0) [] handled := by
  have begins := consumed_reachable.tail (.server _ (.run (.begin rfl) rfl) rfl)
  have takes := begins.tail (.server _ (.run (.take first [second] rfl rfl) rfl) rfl)
  have handles := takes.tail (.server _ (.handle first 7 rfl rfl) rfl)
  have takes' := handles.tail (.server _ (.run (.take second [] rfl rfl) rfl) rfl)
  exact takes'.tail (.server _ (.handle second 8 rfl rfl) rfl)

/-- What the counters of the second report have more than those of the first one. -/
def shown : StatsBlock where
  modified := 8
  external := [{ timestamp := 2, tx := 1, rx := 5 }]
  internal := [{ timestamp := 2, tx := 0, rx := 0 }]

/-- The subscriber is shown the sample. -/
theorem sample_shown : ∃ messages : List Message,
    [first, second] = messages.map Message.document ∧
      Shows subInfoDB "s" "aabbccddeeff" messages (.ok (HandlerAnswer.returnObject (newObject shown))) := by
  have few : ([] : List (ConsumerEvent Watcher)).countP ConsumerEvent.isRegister +
      handled.events.countP ConsumerEvent.isRegister < 2 ^ 31 - 2 := by
    show 0 + 0 < 2 ^ 31 - 2
    omega
  obtain ⟨messages, _, idle, shows_⟩ := statistics_shown (fun _ => List.not_mem_nil) handled_reachable few
  have answered : doGet subInfoDB handled.server.deviceStats "s" "aabbccddeeff" =
      .ok (HandlerAnswer.returnObject (newObject shown)) := by rfl
  have documents := idle rfl
  rw [← answered]
  exact ⟨messages, documents.trans (by rw [List.append_assoc]; exact List.append_nil _), shows_ _ _ _ _ _⟩

end TwoConsumed

end StatsCache

end UserPortal
