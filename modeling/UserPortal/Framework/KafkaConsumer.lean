import Mathlib.Data.List.Induction
import UserPortal.Framework.KafkaProducer

/-!
# The Kafka consumer

Port of the callback of `KafkaConsumer::run` of `src/framework/KafkaManager.cpp`: what a message which was
consumed is handed to, between registrations and their ends.

`delivered_exactly`: a callback is handed the messages of its topic which come after its registration and
before it is ended, each once and in order, whatever else is registered, ended, or throws.
-/

namespace UserPortal.Kafka

variable {F : Type}

/-- A callback with its id, and the message which it was called with. -/
abbrev CallbackCall (F : Type) := (F × Int) × KafkaMessage

/-- What happens to the consumer, one lock of `ConsumerMutex_` at a time. -/
inductive ConsumerEvent (F : Type) where
  | register (topic : String) (f : F)
  | unregister (topic : String) (id : Nat)
  | consumed (msg : KafkaMessage)

/-- The consumer, and the calls which it has made. -/
structure Dispatching (F : Type) where
  consumer : KafkaConsumer F
  calls : List (CallbackCall F)

namespace Dispatching

/-- The consumer before its first registration. -/
def init : Dispatching F where
  consumer := .init
  calls := []

/-- Every callback of the topic is called, in the order of the list. What one of them throws is caught
before the next one. -/
def dispatch (s : Dispatching F) (msg : KafkaMessage) : Dispatching F where
  consumer := s.consumer
  calls := s.calls ++ (s.consumer.notified msg.topic).map fun callback => (callback, msg)

def step (s : Dispatching F) : ConsumerEvent F → Dispatching F
  | .register topic f => { s with consumer := (s.consumer.registerTopicWatcher topic f).2 }
  | .unregister topic id => { s with consumer := s.consumer.unregisterTopicWatcher topic id }
  | .consumed msg => s.dispatch msg

def run (s : Dispatching F) (events : List (ConsumerEvent F)) : Dispatching F := events.foldl step s

/-- The messages which the callback with an id was called with. -/
def delivered (s : Dispatching F) (id : Int) : List KafkaMessage :=
  (s.calls.filter fun call => call.1.2 = id).map Prod.snd

end Dispatching

namespace ConsumerEvent

/-- A registration. -/
def isRegister : ConsumerEvent F → Bool
  | register .. => true
  | _ => false

/-- The end of a registration. -/
def ends (topic : String) (id : Nat) : ConsumerEvent F → Bool
  | unregister topic' id' => topic' = topic && toInt id' = toInt id
  | _ => false

/-- A message of a topic. -/
def message? (topic : String) : ConsumerEvent F → Option KafkaMessage
  | consumed msg => if msg.topic = topic then some msg else none
  | _ => none

end ConsumerEvent

namespace Dispatching

variable {s : Dispatching F} {topic topic' : String} {f : F} {n id : Nat} {event : ConsumerEvent F}
  {events : List (ConsumerEvent F)}

/-- The callbacks of a topic with an id. -/
def withId (consumer : KafkaConsumer F) (topic : String) (id : Nat) : TopicNotifyFunctionList F :=
  (consumer.notified topic).filter fun e => e.2 = toInt id

/-- The ids so far are below the next one, which is small. -/
structure Ids (consumer : KafkaConsumer F) : Prop where
  small : consumer.functionId < 2 ^ 31
  below : ∀ topic, ∀ e ∈ consumer.notified topic, e.2 < consumer.functionId

/-! ## What one event does to the callbacks with an id -/

/-- A registration leaves the older watchers. -/
lemma withId_registerTopicWatcher_of_ne {consumer : KafkaConsumer F} (small : consumer.functionId < 2 ^ 31)
    (older : id < consumer.functionId) :
    withId (consumer.registerTopicWatcher topic' f).2 topic id = withId consumer topic id := by
  rw [withId, withId, KafkaConsumer.notified_registerTopicWatcher, List.filter_append]
  have ne : ¬ toInt consumer.functionId = toInt id := by
    rw [toInt_of_lt small, toInt_of_lt (older.trans small)]
    omega
  split
  · rw [List.filter_cons_of_neg (by simpa using ne), List.filter_nil, List.append_nil]
  · rw [List.filter_nil, List.append_nil]

/-- An element which is erased is one of those with its id. -/
lemma filter_eraseP {α : Type} (p q : α → Bool) (xs : List α) (exclusive : ∀ x, p x = true → q x = false) :
    (xs.eraseP p).filter q = xs.filter q := by
  induction xs with
  | nil => rfl
  | cons x xs ih =>
    by_cases found : p x = true
    · rw [List.eraseP_cons_of_pos found, List.filter_cons_of_neg (by rw [exclusive x found]; decide)]
    · rw [List.eraseP_cons_of_neg found, List.filter_cons, List.filter_cons, ih]

/-- The first callback with an id is the one which is removed. -/
lemma filter_eraseP_self {α : Type} (p : α → Bool) (xs : List α) :
    (xs.eraseP p).filter p = (xs.filter p).tail := by
  induction xs with
  | nil => rfl
  | cons x xs ih =>
    by_cases found : p x = true
    · rw [List.eraseP_cons_of_pos found, List.filter_cons_of_pos found, List.tail_cons]
    · rw [List.eraseP_cons_of_neg found, List.filter_cons_of_neg found, List.filter_cons_of_neg found, ih]

/-- Taking a watcher out takes out the first of its number. -/
lemma withId_unregisterTopicWatcher {consumer : KafkaConsumer F} :
    withId (consumer.unregisterTopicWatcher topic' n) topic id =
      if topic' = topic ∧ toInt n = toInt id then (withId consumer topic id).tail
      else withId consumer topic id := by
  rw [withId, withId, KafkaConsumer.notified_unregisterTopicWatcher]
  by_cases same : topic' = topic
  · rw [if_pos same]
    by_cases eq : toInt n = toInt id
    · rw [if_pos ⟨same, eq⟩, eq]
      exact filter_eraseP_self _ _
    · rw [if_neg (fun both => eq both.2)]
      apply filter_eraseP
      intro e found
      rw [of_decide_eq_true found]
      exact decide_eq_false eq
  · rw [if_neg same, if_neg (fun both => same both.1)]

/-! ## The ids -/

/-- The numbers are sound at first. -/
lemma ids_init : Ids (.init : KafkaConsumer F) where
  small := by
    show 1 < 2 ^ 31
    decide
  below _ e mem := absurd mem List.not_mem_nil

/-- A registration keeps them so. -/
lemma Ids.registered {consumer : KafkaConsumer F} (h : Ids consumer) (more : consumer.functionId + 1 < 2 ^ 31) :
    Ids (consumer.registerTopicWatcher topic f).2 := by
  have next : (consumer.registerTopicWatcher topic f).2.functionId = consumer.functionId + 1 :=
    Nat.mod_eq_of_lt (by omega)
  refine ⟨by rw [next]; exact more, fun topic' e mem => ?_⟩
  rw [next]
  rw [KafkaConsumer.notified_registerTopicWatcher] at mem
  rcases List.mem_append.mp mem with mem | mem
  · have below := h.below topic' e mem
    omega
  · split at mem
    · rw [List.mem_singleton.mp mem, toInt_of_lt h.small]
      omega
    · cases mem

/-- So does taking a watcher out. -/
lemma Ids.unregistered {consumer : KafkaConsumer F} (h : Ids consumer) :
    Ids (consumer.unregisterTopicWatcher topic n) := by
  refine ⟨by rw [KafkaConsumer.functionId_unregisterTopicWatcher]; exact h.small, fun topic' e mem => ?_⟩
  rw [KafkaConsumer.functionId_unregisterTopicWatcher]
  rw [KafkaConsumer.notified_unregisterTopicWatcher] at mem
  split at mem
  · exact h.below topic' e (List.mem_of_mem_eraseP mem)
  · exact h.below topic' e mem

/-- No callback has the next id yet. -/
lemma Ids.fresh {consumer : KafkaConsumer F} (h : Ids consumer) :
    withId consumer topic consumer.functionId = [] := by
  rw [withId, List.filter_eq_nil_iff]
  intro e mem
  have below := h.below topic e mem
  rw [decide_eq_true_eq, toInt_of_lt h.small]
  omega

/-! ## One registration -/

/-- Where a callback is registered: once under its topic, or nowhere any more. -/
structure Registered (consumer : KafkaConsumer F) (topic : String) (f : F) (id : Nat) (active : Bool) : Prop where
  own : withId consumer topic id = if active then [(f, toInt id)] else []
  others : ∀ topic', topic' ≠ topic → withId consumer topic' id = []
  older : id < consumer.functionId

/-- A watcher stays while others register. -/
lemma Registered.registered {consumer : KafkaConsumer F} {active : Bool} {g : F} (ids : Ids consumer)
    (more : consumer.functionId + 1 < 2 ^ 31) (h : Registered consumer topic f id active) :
    Registered (consumer.registerTopicWatcher topic' g).2 topic f id active where
  own := (withId_registerTopicWatcher_of_ne ids.small h.older).trans h.own
  others other ne := (withId_registerTopicWatcher_of_ne ids.small h.older).trans (h.others other ne)
  older := by
    have next : (consumer.registerTopicWatcher topic' g).2.functionId = consumer.functionId + 1 :=
      Nat.mod_eq_of_lt (by omega)
    rw [next]
    exact Nat.lt_succ_of_lt h.older

/-- It stays while others are taken out. -/
lemma Registered.unregistered {consumer : KafkaConsumer F} {active : Bool}
    (h : Registered consumer topic f id active) :
    Registered (consumer.unregisterTopicWatcher topic' n) topic f id
      (active && !ConsumerEvent.ends topic id (.unregister topic' n : ConsumerEvent F)) where
  own := by
    rw [withId_unregisterTopicWatcher, h.own, ConsumerEvent.ends]
    by_cases ended : topic' = topic ∧ toInt n = toInt id
    · rw [if_pos ended, decide_eq_true ended.1, decide_eq_true ended.2]
      cases active <;> rfl
    · rw [if_neg ended, ← Bool.decide_and, decide_eq_false ended]
      cases active <;> rfl
  others other ne := by
    rw [withId_unregisterTopicWatcher, h.others other ne]
    split <;> rfl
  older := by
    rw [KafkaConsumer.functionId_unregisterTopicWatcher]
    exact h.older

/-- The first registration of a callback. -/
lemma Ids.registers {consumer : KafkaConsumer F} (h : Ids consumer) (more : consumer.functionId + 1 < 2 ^ 31) :
    Registered (consumer.registerTopicWatcher topic f).2 topic f consumer.functionId true where
  own := by
    have fresh : withId consumer topic consumer.functionId = [] := h.fresh
    rw [withId, KafkaConsumer.notified_registerTopicWatcher, List.filter_append]
    rw [withId] at fresh
    rw [fresh, if_pos rfl]
    simp
  others other ne := by
    have fresh : withId consumer other consumer.functionId = [] := h.fresh
    rw [withId, KafkaConsumer.notified_registerTopicWatcher, List.filter_append]
    rw [withId] at fresh
    rw [fresh, if_neg (Ne.symm ne)]
    rfl
  older := by
    have next : (consumer.registerTopicWatcher topic f).2.functionId = consumer.functionId + 1 :=
      Nat.mod_eq_of_lt (by omega)
    rw [next]
    exact Nat.lt_succ_self _

/-- A message is handed to a callback which is registered under its topic. -/
lemma delivered_dispatch {active : Bool} {msg : KafkaMessage} (h : Registered s.consumer topic f id active) :
    (s.dispatch msg).delivered (toInt id) =
      s.delivered (toInt id) ++ if active = true ∧ msg.topic = topic then [msg] else [] := by
  rw [delivered, dispatch]
  dsimp only
  rw [List.filter_append, List.map_append, List.filter_map, List.map_map]
  congr 1
  show (withId s.consumer msg.topic id).map (fun _ => msg) = _
  by_cases same : msg.topic = topic
  · rw [same, h.own]
    cases active
    · rw [if_neg nofun, if_neg (fun both => nomatch both.1)]
      rfl
    · rw [if_pos rfl, if_pos ⟨rfl, rfl⟩]
      rfl
  · rw [h.others _ same, if_neg (fun both => same both.2)]
    rfl

/-! ## A whole run -/

/-- What is delivered to a callback which is registered, from here on. -/
lemma delivered_run {active : Bool} (ids : Ids s.consumer)
    (few : s.consumer.functionId + events.countP ConsumerEvent.isRegister < 2 ^ 31)
    (h : Registered s.consumer topic f id active) :
    (s.run events).delivered (toInt id) = s.delivered (toInt id) ++
      if active then (events.takeWhile fun e => !e.ends topic id).filterMap (ConsumerEvent.message? topic)
      else [] := by
  induction events generalizing s active with
  | nil =>
    rw [run, List.foldl_nil]
    split <;> exact (List.append_nil _).symm
  | cons event events ih =>
    rw [run, List.foldl_cons]
    cases event with
    | register topic' g =>
      have more : s.consumer.functionId + 1 + events.countP ConsumerEvent.isRegister < 2 ^ 31 := by
        rw [List.countP_cons_of_pos rfl] at few
        omega
      have next : (s.consumer.registerTopicWatcher topic' g).2.functionId = s.consumer.functionId + 1 :=
        Nat.mod_eq_of_lt (by omega)
      have rest := ih (s := s.step (.register topic' g)) (ids.registered (by omega))
        (by rw [step, next]; exact more) (h.registered ids (by omega))
      rw [List.takeWhile_cons_of_pos rfl, List.filterMap_cons_none rfl]
      exact rest
    | unregister topic' n =>
      rw [List.countP_cons_of_neg Bool.false_ne_true] at few
      have rest := ih (s := s.step (.unregister topic' n)) ids.unregistered
        (by rw [step, KafkaConsumer.functionId_unregisterTopicWatcher]; exact few) h.unregistered
      refine rest.trans ?_
      show s.delivered (toInt id) ++ _ = _
      congr 1
      by_cases ended : ConsumerEvent.ends topic id (.unregister topic' n : ConsumerEvent F) = true
      · rw [ended, Bool.not_true, Bool.and_false, if_neg nofun,
          List.takeWhile_cons_of_neg (by rw [ended]; exact nofun), List.filterMap_nil, ite_self]
      · rw [Bool.not_eq_true] at ended
        rw [ended, Bool.not_false, Bool.and_true, List.takeWhile_cons_of_pos (by rw [ended]; rfl),
          List.filterMap_cons_none rfl]
    | consumed msg =>
      rw [List.countP_cons_of_neg Bool.false_ne_true] at few
      have rest := ih (s := s.dispatch msg) ids few h
      refine rest.trans ?_
      rw [delivered_dispatch h, List.append_assoc, List.takeWhile_cons_of_pos rfl]
      congr 1
      cases active with
      | false => simp
      | true =>
        by_cases same : msg.topic = topic
        · have read : ConsumerEvent.message? topic (.consumed msg : ConsumerEvent F) = some msg := if_pos same
          rw [if_pos ⟨rfl, same⟩, if_pos rfl, if_pos rfl, List.filterMap_cons_some read]
          rfl
        · have unread : ConsumerEvent.message? topic (.consumed msg : ConsumerEvent F) = none := if_neg same
          rw [if_neg (fun both => same both.2), if_pos rfl, if_pos rfl, List.filterMap_cons_none unread]
          rfl

/-- No callback was called which is yet to be registered. -/
structure Young (s : Dispatching F) : Prop where
  ids : Ids s.consumer
  calls : ∀ call ∈ s.calls, call.1.2 < s.consumer.functionId

/-- While the numbers do not wrap around, nothing is called early, and each registration takes one number. -/
lemma Young.run (h : Young s) (few : s.consumer.functionId + events.countP ConsumerEvent.isRegister < 2 ^ 31) :
    Young (s.run events) ∧ (s.run events).consumer.functionId =
      s.consumer.functionId + events.countP ConsumerEvent.isRegister := by
  induction events generalizing s with
  | nil => exact ⟨h, rfl⟩
  | cons event events ih =>
    rw [Dispatching.run, List.foldl_cons]
    cases event with
    | register topic g =>
      rw [List.countP_cons_of_pos rfl] at few ⊢
      have next : (s.consumer.registerTopicWatcher topic g).2.functionId = s.consumer.functionId + 1 :=
        Nat.mod_eq_of_lt (by omega)
      have young : Young (s.step (.register topic g)) := by
        refine ⟨h.ids.registered (by omega), fun call mem => ?_⟩
        have below := h.calls call mem
        rw [step, next]
        omega
      obtain ⟨young', count⟩ := ih young (by rw [step, next]; omega)
      refine ⟨young', count.trans ?_⟩
      rw [step, next]
      omega
    | unregister topic n =>
      rw [List.countP_cons_of_neg Bool.false_ne_true] at few ⊢
      have same : (s.step (.unregister topic n)).consumer.functionId = s.consumer.functionId :=
        KafkaConsumer.functionId_unregisterTopicWatcher
      have young : Young (s.step (.unregister topic n)) := by
        refine ⟨h.ids.unregistered, fun call mem => ?_⟩
        rw [same]
        exact h.calls call mem
      obtain ⟨young', count⟩ := ih young (by rw [same]; exact few)
      exact ⟨young', by rw [← same]; exact count⟩
    | consumed msg =>
      rw [List.countP_cons_of_neg Bool.false_ne_true] at few ⊢
      refine ih ⟨h.ids, fun call mem => ?_⟩ few
      rcases List.mem_append.mp mem with mem | mem
      · exact h.calls call mem
      · obtain ⟨e, listed, rfl⟩ := List.mem_map.mp mem
        exact h.ids.below msg.topic e listed

/-- What holds of every callback which is registered, and of every one which was called. -/
structure Every (P : F × Int → Prop) (s : Dispatching F) : Prop where
  registered : ∀ topic, ∀ e ∈ s.consumer.notified topic, P e
  called : ∀ call ∈ s.calls, P call.1

/-- It goes on to hold where it holds of what is registered with the next id. -/
lemma Every.step {P : F × Int → Prop} (h : Every P s)
    (registers : ∀ topic f, event = .register topic f → P (f, toInt s.consumer.functionId)) :
    Every P (s.step event) := by
  cases event with
  | register topic' g =>
    refine ⟨fun topic e mem => ?_, h.called⟩
    rw [step, KafkaConsumer.notified_registerTopicWatcher] at mem
    rcases List.mem_append.mp mem with mem | mem
    · exact h.registered topic e mem
    · split at mem
      · rw [List.mem_singleton.mp mem]
        exact registers topic' g rfl
      · cases mem
  | unregister topic' n =>
    refine ⟨fun topic e mem => ?_, h.called⟩
    rw [step, KafkaConsumer.notified_unregisterTopicWatcher] at mem
    split at mem
    · exact h.registered topic e (List.mem_of_mem_eraseP mem)
    · exact h.registered topic e mem
  | consumed msg =>
    refine ⟨h.registered, fun call mem => ?_⟩
    rcases List.mem_append.mp mem with mem | mem
    · exact h.called call mem
    · obtain ⟨e, listed, rfl⟩ := List.mem_map.mp mem
      exact h.registered msg.topic e listed

/-- What holds of each registration holds of all watchers. -/
lemma Every.run {P : F × Int → Prop} (h : Every P s)
    (registers : ∀ past topic f, past ++ [.register topic f] <+: events →
      P (f, toInt (s.run past).consumer.functionId)) : Every P (s.run events) := by
  induction events using List.reverseRecOn with
  | nil => exact h
  | append_singleton events event ih =>
    have before := ih fun past topic f le => registers past topic f (le.trans (List.prefix_append _ _))
    rw [Dispatching.run, List.foldl_concat]
    refine before.step fun topic f eq => registers events topic f ?_
    subst eq
    exact List.prefix_refl _

/-- The consumer after some events from the start: the next id is small, and no callback was called with it. -/
lemma young_run (few : events.countP ConsumerEvent.isRegister < 2 ^ 31 - 1) :
    Young ((init : Dispatching F).run events) ∧
      ((init : Dispatching F).run events).consumer.functionId = 1 + events.countP ConsumerEvent.isRegister := by
  have fresh : Young (init : Dispatching F) := ⟨ids_init, fun _ mem => absurd mem List.not_mem_nil⟩
  have start : (init : Dispatching F).consumer.functionId = 1 := rfl
  rw [← start]
  exact fresh.run (by rw [start]; omega)

/-- A number which is not given out has received nothing. -/
lemma Young.undelivered (h : Young s) : s.delivered (toInt s.consumer.functionId) = [] := by
  rw [delivered, List.map_eq_nil_iff, List.filter_eq_nil_iff]
  intro call mem
  have below := h.calls call mem
  rw [decide_eq_true_eq, toInt_of_lt h.ids.small]
  omega

/-- What is delivered to a callback after its registration. -/
lemma Young.delivered_run (h : Young s)
    (few : s.consumer.functionId + 1 + events.countP ConsumerEvent.isRegister < 2 ^ 31) :
    ((s.step (.register topic f)).run events).delivered (toInt s.consumer.functionId) =
      (events.takeWhile fun e => !e.ends topic s.consumer.functionId).filterMap
        (ConsumerEvent.message? topic) := by
  have more : s.consumer.functionId + 1 < 2 ^ 31 := by omega
  have next : (s.consumer.registerTopicWatcher topic f).2.functionId = s.consumer.functionId + 1 :=
    Nat.mod_eq_of_lt (by omega)
  refine (Dispatching.delivered_run (h.ids.registered more) ?_ (h.ids.registers more)).trans ?_
  · show (s.consumer.registerTopicWatcher topic f).2.functionId + _ < _
    rw [next]
    exact few
  · show s.delivered (toInt s.consumer.functionId) ++ _ = _
    rw [h.undelivered]
    rfl

end Dispatching

open Dispatching

/-- A callback is handed the messages of its topic which were consumed after its registration and before it
was unregistered under its topic and id, each once and in order, as long as there are fewer registrations than
ids. Before its registration it is handed nothing. -/
theorem delivered_exactly (before after : List (ConsumerEvent F)) (topic : String) (f : F)
    (few : (before ++ .register topic f :: after).countP ConsumerEvent.isRegister < 2 ^ 31 - 1) :
    let id := (init.run before).consumer.functionId
    (init.run (before ++ .register topic f :: after)).delivered (toInt id) =
      (after.takeWhile fun e => !e.ends topic id).filterMap (ConsumerEvent.message? topic) := by
  intro id
  rw [List.countP_append, List.countP_cons_of_pos rfl] at few
  have early : before.countP ConsumerEvent.isRegister < 2 ^ 31 - 1 := by omega
  obtain ⟨young, count⟩ := young_run (F := F) early
  rw [run, List.foldl_append, List.foldl_cons]
  apply young.delivered_run
  rw [count]
  omega

/-- A message which comes before the end of its registration, and one which comes after it. -/
theorem ended_notDelivered : (init.run [.register KafkaTopics.state "stats",
      .consumed ⟨KafkaTopics.state, "1", "first"⟩, .unregister KafkaTopics.state 1,
      .consumed ⟨KafkaTopics.state, "1", "second"⟩]).delivered (toInt 1) =
    [⟨KafkaTopics.state, "1", "first"⟩] := by
  have few : ([.register KafkaTopics.state "stats", .consumed ⟨KafkaTopics.state, "1", "first"⟩,
      .unregister KafkaTopics.state 1, .consumed ⟨KafkaTopics.state, "1", "second"⟩] :
      List (ConsumerEvent String)).countP ConsumerEvent.isRegister < 2 ^ 31 - 1 := by
    show 1 < 2 ^ 31 - 1
    omega
  refine (delivered_exactly [] _ _ _ few).trans ?_
  decide

end UserPortal.Kafka
