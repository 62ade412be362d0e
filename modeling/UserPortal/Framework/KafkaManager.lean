import Mathlib.Data.List.Nodup
import UserPortal.Data.Ordered

/-!
# Topic watchers

Port of `RegisterTopicWatcher` and `UnregisterTopicWatcher` of `src/framework/KafkaManager.cpp`, over the
callbacks `F`. `KafkaConsumer.Sound` is what the notifier lists keep when every registration which ends is
removed from the list it is in.
-/

namespace UserPortal.Kafka

namespace KafkaTopics

def state : String := "state"
def connection : String := "connection"
def serviceEvents : String := "service_events"

end KafkaTopics

variable {F : Type}

/-- `Types::TopicNotifyFunctionList` -/
abbrev TopicNotifyFunctionList (F : Type) := List (F × Int)

/-- The `int` of an unsigned 64-bit integer. -/
def toInt (n : Nat) : Int := (n : Int).bmod (2 ^ 32)

lemma toInt_of_lt {n : Nat} (small : n < 2 ^ 31) : toInt n = n := by
  apply Int.bmod_eq_of_le
  · omega
  · omega

/-- `KafkaConsumer` -/
structure KafkaConsumer (F : Type) where
  notifiers : Data.OrderedMap String (TopicNotifyFunctionList F)
  functionId : Nat
  topics : List String

namespace KafkaConsumer

/-- The consumer before its first registration. -/
def init : KafkaConsumer F where
  notifiers := .empty
  functionId := 1
  topics := []

/-- The registration and the id it returns. -/
def registerTopicWatcher (self : KafkaConsumer F) (topic : String) (f : F) : Nat × KafkaConsumer F :=
  (self.functionId,
    { notifiers := self.notifiers.alter topic (· ++ [(f, toInt self.functionId)]) []
      functionId := (self.functionId + 1) % 2 ^ 64
      topics := Data.insertKey topic self.topics })

/-- The first callback of the topic with the id is removed. -/
def unregisterTopicWatcher (self : KafkaConsumer F) (topic : String) (id : Nat) : KafkaConsumer F :=
  match self.notifiers.get? topic with
  | some _ =>
    { self with notifiers := self.notifiers.alter topic (List.eraseP fun e => e.2 = toInt id) [] }
  | none => self

/-- The callbacks which a message of the topic is dispatched to. -/
def notified (self : KafkaConsumer F) (topic : String) : TopicNotifyFunctionList F :=
  (self.notifiers.get? topic).getD []

variable {self : KafkaConsumer F} {topic topic' : String} {f : F} {id : Nat}

lemma notified_registerTopicWatcher :
    (self.registerTopicWatcher topic f).2.notified topic' =
      self.notified topic' ++ if topic = topic' then [(f, toInt self.functionId)] else [] := by
  rw [notified, registerTopicWatcher, Data.OrderedMap.get?_alter]
  split
  case isTrue eq =>
    subst eq
    rfl
  case isFalse => exact (List.append_nil _).symm

/-- A new watcher is notified under its id. -/
lemma mem_registerTopicWatcher :
    (f, toInt self.functionId) ∈ (self.registerTopicWatcher topic f).2.notified topic := by
  rw [notified_registerTopicWatcher, if_pos rfl]
  exact List.mem_append_right _ (List.mem_singleton_self _)

/-- The watchers which are there stay. -/
lemma mem_registerTopicWatcher_of_mem {e : F × Int} (h : e ∈ self.notified topic') :
    e ∈ (self.registerTopicWatcher topic f).2.notified topic' := by
  rw [notified_registerTopicWatcher]
  exact List.mem_append_left _ h

lemma notified_unregisterTopicWatcher :
    (self.unregisterTopicWatcher topic id).notified topic' =
      if topic = topic' then (self.notified topic').eraseP fun e => e.2 = toInt id
      else self.notified topic' := by
  rw [unregisterTopicWatcher]
  split
  case h_1 found =>
    rw [notified, Data.OrderedMap.get?_alter]
    split
    case isTrue eq =>
      subst eq
      rfl
    case isFalse => rfl
  case h_2 absent =>
    split
    case isTrue eq =>
      subst eq
      rw [notified, absent]
      rfl
    case isFalse => rfl

@[simp] lemma functionId_unregisterTopicWatcher :
    (self.unregisterTopicWatcher topic id).functionId = self.functionId := by
  rw [unregisterTopicWatcher]
  split <;> rfl

end KafkaConsumer

/-! ## Live registrations -/

/-- A registration, with the id it returned. -/
structure Registration (F : Type) where
  topic : String
  callback : F
  id : Nat
  deriving DecidableEq

namespace KafkaConsumer

/-- The notifier lists hold the live registrations, in the order they were made. -/
structure Sound (live : List (Registration F)) (consumer : KafkaConsumer F) : Prop where
  distinct : (live.map Registration.id).Nodup
  listed : ∀ topic, consumer.notified topic =
    (live.filter fun r => r.topic = topic).map fun r => (r.callback, (r.id : Int))

variable {live : List (Registration F)} {consumer : KafkaConsumer F} {topic : String} {f : F}

lemma sound_init : Sound [] (init (F := F)) where
  distinct := .nil
  listed _ := rfl

/-- A registration under an id which no live one has. -/
lemma Sound.registered (h : Sound live consumer) (fresh : ∀ r ∈ live, r.id ≠ consumer.functionId)
    (small : consumer.functionId < 2 ^ 31) :
    Sound (live ++ [⟨topic, f, consumer.functionId⟩]) (consumer.registerTopicWatcher topic f).2 where
  distinct := by
    rw [List.map_append, List.nodup_append]
    refine ⟨h.distinct, List.nodup_singleton _, ?_⟩
    rintro i mem j (_ | ⟨_, ⟨⟩⟩) rfl
    obtain ⟨r, mem, eq⟩ := List.mem_map.mp mem
    exact fresh r mem eq
  listed topic' := by
    rw [notified_registerTopicWatcher, h.listed, List.filter_append, List.map_append, toInt_of_lt small]
    by_cases eq : topic = topic' <;> simp [eq]

/-- The first registration with an id is the only one which has it. -/
lemma eraseP_id (distinct : (live.map Registration.id).Nodup) (id : Nat) :
    live.eraseP (fun r => r.id = id) = live.filter fun r => r.id ≠ id := by
  induction live with
  | nil => rfl
  | cons r live ih =>
    obtain ⟨first, rest⟩ := List.nodup_cons.mp distinct
    by_cases eq : r.id = id
    · have others : ∀ r' ∈ live, decide (r'.id ≠ id) = true := by
        intro r' mem
        refine decide_eq_true fun eq' => first ?_
        rw [eq, ← eq']
        exact List.mem_map_of_mem mem
      rw [List.eraseP_cons_of_pos (by simpa using eq), List.filter_cons_of_neg (by simpa using eq),
        List.filter_eq_self.mpr others]
    · rw [List.eraseP_cons_of_neg (by simpa using eq), List.filter_cons_of_pos (by simpa using eq),
        ih rest]

/-- A registration ends which is removed under its own topic and id. -/
lemma Sound.unregistered (h : Sound live consumer) {r : Registration F} (mem : r ∈ live)
    (small : r.id < 2 ^ 31) :
    Sound (live.filter fun r' => r'.id ≠ r.id) (consumer.unregisterTopicWatcher r.topic r.id) where
  distinct := h.distinct.sublist (List.filter_sublist.map _)
  listed topic := by
    rw [notified_unregisterTopicWatcher, h.listed, toInt_of_lt small, List.filter_comm]
    split
    case isTrue eq =>
      have distinct : ((live.filter fun r' => r'.topic = topic).map Registration.id).Nodup :=
        h.distinct.sublist (List.filter_sublist.map _)
      rw [List.eraseP_map, ← eraseP_id distinct]
      congr 2
      funext r'
      exact decide_eq_decide.mpr Int.natCast_inj
    case isFalse ne =>
      congr 1
      refine (List.filter_eq_self.mpr ?_).symm
      intro r' mem'
      obtain ⟨live', topic'⟩ := List.mem_filter.mp mem'
      -- the registration with the id is one of another topic
      refine decide_eq_true fun eq => ne ?_
      rw [← List.inj_on_of_nodup_map h.distinct live' mem eq]
      exact of_decide_eq_true topic'

end KafkaConsumer

end UserPortal.Kafka
