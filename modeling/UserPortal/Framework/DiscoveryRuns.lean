import UserPortal.Framework.Discovery

/-!
# Deployments at run time

The invariant of a deployment, and what its registries hold in every state it can be in.

* `registry_lists_heard`: whatever is lost, a registry lists an instance exactly when the last event
  received of it is an announcement which is not too old.
* `discovery_at_rest`: where nothing is lost, a node which has received everything lists the instances
  which are running, and no others.
-/

namespace UserPortal.MicroServices
open Interaction Program Security

namespace Network

section Nodes

variable {ι : Type} {d : Deployment ι} {conv : Conversions} {n : Network ι} {j : ι}

/-! ## What every step keeps -/

/-- What is known of the messages of a party. -/
def Genuine (d : Deployment ι) (conv : Conversions) (i : ι) (payload : Body) : Prop :=
  (d.inst i).Event payload ∨ Other d conv payload

/-- What holds of a node: its registry is what a run of its messages has left, and these are what its
consumer has read, in the order of the log. -/
structure NodeSound (d : Deployment ι) (conv : Conversions) (bus : Broadcast ι Body) (j : ι) (node : Node) :
    Prop where
  run : Run conv (d.inst j).id node.received node.self
  reads : (node.received.map Received.payload).reverse = (bus.window j).map Prod.snd

/-- The invariant of a deployment. -/
structure Sound (d : Deployment ι) (conv : Conversions) (n : Network ι) : Prop where
  inBounds : n.bus.InBounds
  nodes : ∀ j, NodeSound d conv n.bus j (n.node j)
  genuine : n.bus.AllPosted (Genuine d conv)

/-- The network is sound at first. -/
lemma sound_init : Sound d conv (init d) where
  inBounds := Broadcast.inBounds_empty
  nodes _ := ⟨.init, rfl⟩
  genuine := Broadcast.allPosted_empty

/-- A node does not see what was appended to the log. -/
lemma NodeSound.of_window {bus bus' : Broadcast ι Body} {node : Node} (h : NodeSound d conv bus j node)
    (same : bus'.window j = bus.window j) : NodeSound d conv bus' j node :=
  ⟨h.run, by rw [same]; exact h.reads⟩

/-- Whatever was received is an event of an instance, or is none for anyone. -/
lemma Sound.known (h : Sound d conv n) : ∀ m ∈ (n.node j).received,
    (∃ i, (d.inst i).Event m.payload) ∨ Other d conv m.payload := by
  intro m mem
  have read : m.payload ∈ (n.bus.window j).map Prod.snd := by
    rw [← (h.nodes j).reads]
    exact List.mem_reverse.mpr (List.mem_map_of_mem mem)
  obtain ⟨e, mem, eq⟩ := List.mem_map.mp read
  rw [← eq]
  rcases h.genuine.1 e (Broadcast.mem_log_of_mem_window mem) with event | other
  · exact .inl ⟨e.1, event⟩
  · exact .inr other

end Nodes

variable {ι : Type} [DecidableEq ι] {d : Deployment ι} {conv : Conversions} {lossy : Bool} {n n' : Network ι}

/-- One node is changed. -/
lemma forall_update {P : ι → Node → Prop} {node : ι → Node} {i : ι} {x : Node} (new : P i x)
    (others : ∀ j, j ≠ i → P j (node j)) (j : ι) : P j (Function.update node i x j) := by
  by_cases eq : j = i
  · subst eq
    rw [Function.update_self]
    exact new
  · rw [Function.update_of_ne eq]
    exact others j eq

/-- An event of an instance is posted. -/
lemma Sound.announced (h : Sound d conv n) {i : ι} {type : String} {running : Bool}
    (event : (d.inst i).Event ((d.inst i).event type)) : Sound d conv (n.announce d i type running) where
  inBounds := h.inBounds
  nodes := by
    apply forall_update (P := NodeSound d conv (n.bus.post i ((d.inst i).event type)))
    · exact ⟨(h.nodes i).run, (h.nodes i).reads⟩
    · exact fun j _ => (h.nodes j).of_window Broadcast.window_post
  genuine := h.genuine.post (.inl event)

/-- Every step keeps it so. -/
lemma Sound.step (h : Sound d conv n) (step : Step d conv lossy n n') : Sound d conv n' := by
  cases step with
  | start i _ _ => exact h.announced .join
  | keepAlive i _ => exact h.announced .keepAlive
  | stop i _ => exact h.announced .leave
  | other i payload other =>
    exact ⟨h.inBounds, fun j => (h.nodes j).of_window Broadcast.window_post, h.genuine.post (.inr other)⟩
  | produce i bus produced =>
    refine ⟨h.inBounds.produce produced, fun j => ?_, h.genuine.produce produced⟩
    exact (h.nodes j).of_window (Broadcast.window_produce h.inBounds produced)
  | lose i bus _ lost =>
    refine ⟨h.inBounds.lose lost, fun j => ?_, h.genuine.lose lost⟩
    exact (h.nodes j).of_window (Broadcast.window_lose lost)
  | restart i position _ within =>
    refine ⟨h.inBounds.restart within, ?_, h.genuine.restart⟩
    apply forall_update (P := NodeSound d conv (n.bus.restart i position))
    · refine ⟨.init, ?_⟩
      rw [Broadcast.window_restart_self]
      rfl
    · intro j ne
      exact (h.nodes j).of_window (Broadcast.window_restart_of_ne ne)
  | receive j payload bus events self authClient read tr =>
    refine ⟨h.inBounds.read read, ?_, h.genuine.read read⟩
    apply forall_update (P := NodeSound d conv bus)
    · refine ⟨?_, ?_⟩
      · exact .step ⟨payload, (n.node j).self, events, self⟩ (n.node j).authClient authClient (h.nodes j).run tr
      · obtain ⟨i, _, window⟩ := Broadcast.window_read h.inBounds read
        rw [window, List.map_append, List.map_cons, List.reverse_cons, (h.nodes j).reads]
        rfl
    · intro k ne
      exact (h.nodes k).of_window (Broadcast.window_read_of_ne ne read)

/-- Every reachable network is sound. -/
lemma Reachable.sound (reach : Reachable d conv lossy n) : Sound d conv n := by
  induction reach with
  | refl => exact sound_init
  | tail _ step ih => exact ih.step step

end Network

open Network

variable {ι : Type} [DecidableEq ι] {d : Deployment ι} {conv : Conversions} {lossy : Bool} {n : Network ι}

/-- In every state which a deployment can be in, whatever was lost and whoever was restarted: a node has
received a stretch of the log, its registry lists another instance exactly when the last event received of
it is an announcement which no sweep has found too old, and the key of a record is the one which its
instance accepts. -/
theorem registry_lists_heard (reach : Reachable d conv lossy n) (j : ι) :
    ((n.node j).received.map Received.payload).reverse = (n.bus.window j).map Prod.snd ∧
      (∀ p r, (n.node j).self.services.get? p = some r ↔ Listed d j (n.node j).received p r) ∧
      ∀ type, ∀ r ∈ (n.node j).self.getServices type, ∃ i, i ≠ j ∧
        r.privateEndPoint = (d.inst i).myPrivateEndPoint ∧
        (d.inst i).isValidAPIKEY (some r.accessKey) = true := by
  have sound := reach.sound
  have registry := (sound.nodes j).run.registry sound.known
  refine ⟨(sound.nodes j).reads, registry, fun type r mem => ?_⟩
  obtain ⟨e, held, rfl⟩ := List.mem_map.mp (List.mem_filter.mp mem).1
  obtain ⟨i, t, ne, _, _, hr⟩ := (registry e.1 e.2).mp (Data.OrderedMap.get?_eq_some.mpr held)
  rw [hr]
  exact ⟨i, ne, rfl, decide_eq_true rfl⟩

/-! ## Where nothing is lost -/

instance (self : Instance) : DecidablePred self.Event := fun payload =>
  decidable_of_iff (payload = self.event EventBus.eventJoin ∨ payload = self.event EventBus.eventKeepAlive ∨
      payload = self.event EventBus.eventLeave) <| by
    refine ⟨?_, ?_⟩
    · intro h
      rcases h with rfl | rfl | rfl
      · exact .join
      · exact .keepAlive
      · exact .leave
    · intro h
      cases h with
      | join => exact .inl rfl
      | keepAlive => exact .inr (.inl rfl)
      | leave => exact .inr (.inr rfl)

/-- The last event of an instance among some payloads. -/
def Instance.lastEvent (self : Instance) (payloads : List Body) : Option Body :=
  (payloads.filter fun m => self.Event m).getLast?

section LastEvent

variable {self : Instance} {payloads : List Body} {m x : Body}

/-- An event of an instance is its last one. -/
lemma lastEvent_concat_of_event (event : self.Event m) : self.lastEvent (payloads ++ [m]) = some m := by
  have kept : [m].filter (fun m => self.Event m) = [m] := by simp [event]
  rw [Instance.lastEvent, List.filter_append, kept]
  exact List.getLast?_concat

/-- Another message leaves its last event. -/
lemma lastEvent_concat_of_not_event (other : ¬ self.Event m) :
    self.lastEvent (payloads ++ [m]) = self.lastEvent payloads := by
  have dropped : [m].filter (fun m => self.Event m) = [] := by simp [other]
  rw [Instance.lastEvent, Instance.lastEvent, List.filter_append, dropped, List.append_nil]

/-- The last event is an announcement. -/
def Instance.LastAnnounces (self : Instance) (payloads : List Body) : Prop :=
  ∃ m, self.lastEvent payloads = some m ∧ self.Announcement m

/-- An announcement is its last event. -/
lemma lastAnnounces_concat_of_announcement (announcement : self.Announcement m) :
    self.LastAnnounces (payloads ++ [m]) := ⟨m, lastEvent_concat_of_event announcement.event, announcement⟩

/-- After a leave its last event is no announcement. -/
lemma not_lastAnnounces_concat_leave :
    ¬ self.LastAnnounces (payloads ++ [self.event EventBus.eventLeave]) := by
  intro h
  obtain ⟨m, last, announcement⟩ := h
  rw [lastEvent_concat_of_event .leave] at last
  cases last
  exact Instance.event_ne_leave announcement

/-- Another message leaves what it announced. -/
lemma lastAnnounces_concat_of_not_event (other : ¬ self.Event m) :
    self.LastAnnounces (payloads ++ [m]) ↔ self.LastAnnounces payloads := by
  rw [Instance.LastAnnounces, Instance.LastAnnounces, lastEvent_concat_of_not_event other]

end LastEvent

/-- An instance which someone else listens to is running exactly when the last event it has posted is an
announcement. -/
lemma Reachable.posted (reach : Reachable d conv false n) {i j : ι} (ne : i ≠ j) :
    (n.node i).running = true ↔ (d.inst i).LastAnnounces (n.bus.posted i) := by
  induction reach with
  | refl =>
    refine ⟨fun up => absurd up Bool.false_ne_true, fun h => ?_⟩
    obtain ⟨m, last, _⟩ := h
    cases last
  | @tail n n' _ step ih =>
    -- the threads of other instances touch neither side
    have announced : ∀ k type running, (k = i → (running = true ↔
          (d.inst i).LastAnnounces (n.bus.posted i ++ [(d.inst i).event type]))) →
        (((n.announce d k type running).node i).running = true ↔
          (d.inst i).LastAnnounces ((n.announce d k type running).bus.posted i)) := by
      intro k type running own
      by_cases eq : k = i
      · subst eq
        have running' : ((n.announce d k type running).node k).running = running := by
          show (Function.update n.node k _ k).running = running
          rw [Function.update_self]
        rw [running', announce, Broadcast.posted_post]
        exact own rfl
      · have node : (n.announce d k type running).node i = n.node i := Function.update_of_ne (Ne.symm eq) ..
        rw [node, announce, Broadcast.posted_post_of_ne (Ne.symm eq)]
        exact ih
    cases step with
    | start k _ _ =>
      refine announced k _ _ fun _ => ⟨fun _ => ?_, fun _ => rfl⟩
      exact lastAnnounces_concat_of_announcement (.inl rfl)
    | keepAlive k _ =>
      refine announced k _ _ fun _ => ⟨fun _ => ?_, fun _ => rfl⟩
      exact lastAnnounces_concat_of_announcement (.inr rfl)
    | stop k _ =>
      refine announced k _ _ fun _ => ⟨fun up => absurd up Bool.false_ne_true, fun h => ?_⟩
      exact absurd h not_lastAnnounces_concat_leave
    | other k payload other =>
      by_cases eq : k = i
      · subst eq
        rw [Broadcast.posted_post, lastAnnounces_concat_of_not_event (Deployment.not_event_of_other ne other)]
        exact ih
      · rw [Broadcast.posted_post_of_ne (Ne.symm eq)]
        exact ih
    | produce k bus produced =>
      rw [Broadcast.posted_produce produced]
      exact ih
    | lose _ _ lossy _ => cases lossy
    | restart _ _ lossy _ => cases lossy
    | receive k payload bus events self authClient read _ =>
      rw [Broadcast.posted_read read]
      show (Function.update n.node k _ i).running = true ↔ _
      by_cases eq : i = k
      · subst eq
        rw [Function.update_self]
        exact ih
      · rw [Function.update_of_ne eq]
        exact ih

/-- The events of an instance in the log are those which it has sent. -/
lemma Network.Sound.lastEvent_log (h : Sound d conv n) {i j : ι} (ne : i ≠ j) :
    (d.inst i).lastEvent (n.bus.log.map Prod.snd) = (d.inst i).lastEvent (n.bus.sent i) := by
  rw [Instance.lastEvent, Instance.lastEvent, Broadcast.sent, List.filter_map, List.filter_map,
    List.filter_filter]
  congr 2
  apply List.filter_congr
  intro e mem
  rw [Function.comp_apply, Bool.eq_iff_iff, Bool.and_eq_true, decide_eq_true_eq, decide_eq_true_eq]
  refine ⟨fun event => ⟨event, ?_⟩, fun both => both.1⟩
  rcases h.genuine.1 e mem with own | other
  · exact d.event_unique own event
  · exact absurd event (Deployment.not_event_of_other ne other)

/-- The payloads which were received, the first first. -/
def payloads (history : List Received) : List Body := (history.map Received.payload).reverse

/-- No sweep since the last announcement of an instance has found it too old. -/
def Timely (inst : Instance) (history : List Received) : Prop :=
  ∀ later m earlier t sweep, history = later ++ m :: earlier → inst.Announcement m.payload →
    m.events = [⟨.now, t⟩, ⟨.now, sweep⟩] → (∀ e ∈ later, ¬ inst.Event e.payload) →
    ∀ e ∈ m :: later, ∀ s, e.sweptAt = some s →
      MicroService.isLive (Utils.now s) (inst.record (Utils.now t)) = true

omit [DecidableEq ι] in
/-- What was heard of an instance is the last event of it. -/
lemma Heard.lastAnnounces {inst : Instance} {history : List Received} {t : Int} (heard : Heard inst history t) :
    inst.LastAnnounces (payloads history) := by
  induction history with
  | nil => exact absurd heard not_heard_nil
  | cons m history ih =>
    rw [payloads, List.map_cons, List.reverse_cons]
    by_cases event : inst.Event m.payload
    · rcases event.cases with announcement | leaves
      · exact lastAnnounces_concat_of_announcement announcement
      · exact absurd heard (not_heard_cons_of_leave leaves)
    · rw [lastAnnounces_concat_of_not_event event]
      exact ih ((heard_cons_of_not_event event).mp heard).1

/-- The last event is where nothing behind it is one. -/
lemma lastAnnounces_split {inst : Instance} {history : List Received}
    (last : inst.LastAnnounces (payloads history)) :
    ∃ later m earlier, history = later ++ m :: earlier ∧ inst.Announcement m.payload ∧
      ∀ e ∈ later, ¬ inst.Event e.payload := by
  induction history with
  | nil =>
    obtain ⟨m, last, _⟩ := last
    cases last
  | cons m history ih =>
    rw [payloads, List.map_cons, List.reverse_cons] at last
    by_cases event : inst.Event m.payload
    · obtain ⟨m', eq, announcement⟩ := last
      rw [lastEvent_concat_of_event event] at eq
      cases eq
      exact ⟨[], m, history, rfl, announcement, fun _ mem => absurd mem List.not_mem_nil⟩
    · obtain ⟨later, m', earlier, rfl, announcement, quiet⟩ :=
        ih ((lastAnnounces_concat_of_not_event event).mp last)
      refine ⟨m :: later, m', earlier, rfl, announcement, fun e mem => ?_⟩
      rcases List.mem_cons.mp mem with rfl | mem
      · exact event
      · exact quiet e mem

omit [DecidableEq ι] in
/-- An announcement which is timely was heard. -/
lemma Run.heard {i j : ι} {history : List Received} {self : MicroService}
    (run : Run conv (d.inst j).id history self) (ne : i ≠ j)
    (last : (d.inst i).LastAnnounces (payloads history)) (timely : Timely (d.inst i) history) :
    ∃ t, Heard (d.inst i) history t := by
  obtain ⟨later, m, earlier, rfl, announcement, quiet⟩ := lastAnnounces_split last
  obtain ⟨_, run'⟩ := run.before
  have reads : readMessage conv (d.inst j).id m.payload = _ := announcement.readMessage (d.id_ne ne)
  cases run'.cons_inv.2.2 with
  | throws unread _ _ =>
    rw [reads] at unread
    cases unread
  | handled message t sweep reads' events _ =>
    rw [reads] at reads'
    cases reads'
    exact ⟨t, later, m, earlier, sweep, rfl, announcement, events, quiet,
      timely later m earlier t sweep rfl announcement events quiet⟩

/-- Where nothing is lost and nothing is under way, a node which has received everything in time lists the
instances which are running, and no others. -/
theorem discovery_at_rest (reach : Reachable d conv false n) {j : ι} (delivered : ∀ i, n.bus.outbox i = [])
    (caughtUp : n.bus.CaughtUp j) (timely : ∀ i, i ≠ j → Timely (d.inst i) (n.node j).received) :
    (∀ i, i ≠ j → (n.node i).running = true → ∃ t,
        (n.node j).self.services.get? (d.inst i).myPrivateEndPoint = some ((d.inst i).record t)) ∧
      ∀ p r, (n.node j).self.services.get? p = some r → ∃ i, i ≠ j ∧ (n.node i).running = true ∧
        p = (d.inst i).myPrivateEndPoint ∧ ∃ t, r = (d.inst i).record t := by
  have sound := reach.sound
  have run := (sound.nodes j).run
  have registry := run.registry sound.known
  have running : ∀ i, i ≠ j →
      ((n.node i).running = true ↔ (d.inst i).LastAnnounces (payloads (n.node j).received)) := by
    intro i ne
    have read : payloads (n.node j).received = n.bus.log.map Prod.snd := by
      rw [payloads, (sound.nodes j).reads, caughtUp.window_eq]
    have sent : n.bus.posted i = n.bus.sent i := by
      rw [Broadcast.posted, delivered i, List.append_nil]
    rw [Reachable.posted reach ne, read, sent, Instance.LastAnnounces, Instance.LastAnnounces,
      sound.lastEvent_log ne]
  refine ⟨?_, ?_⟩
  · intro i ne up
    obtain ⟨t, heard⟩ := run.heard ne ((running i ne).mp up) (timely i ne)
    exact ⟨Utils.now t, (registry _ _).mpr ⟨i, t, ne, heard, rfl, rfl⟩⟩
  · intro p r held
    obtain ⟨i, t, ne, heard, hp, hr⟩ := (registry p r).mp held
    exact ⟨i, ne, (running i ne).mpr heard.lastAnnounces, hp, Utils.now t, hr⟩

/-! ### Two instances -/

namespace TwoInstances

/-- The portal, or the provisioning service. -/
def deployment : Deployment Bool where
  inst provisioning :=
    { id := if provisioning then 1 else 9
      id_lt := by
        split
        · omega
        · omega
      appName := if provisioning then "owprov" else "owsub"
      myPublicEndPoint := ""
      myPrivateEndPoint := if provisioning then "https://prov" else "https://sub"
      myHash := ""
      version := "" }
  distinctIds := by decide
  distinctEndPoints := by decide
  kafkaEnabled _ := true

/-- The provisioning service has joined. -/
def joined : Network Bool := (Network.init deployment).announce deployment true EventBus.eventJoin true

/-- Its message is in the log. -/
def produced : Network Bool where
  node := joined.node
  bus :=
    { outbox := Function.update joined.bus.outbox true []
      log := [(true, (deployment.inst true).event EventBus.eventJoin)]
      reader := joined.bus.reader }

/-- What the portal knows then. -/
def known : MicroService where
  id := 9
  services := .single "https://prov" ((deployment.inst true).record 1)

/-- The message, as the portal has received it. -/
def message : Received where
  payload := (deployment.inst true).event EventBus.eventJoin
  before := .init 9
  events := [⟨.now, (1000000 : Int)⟩, ⟨.now, (1000000 : Int)⟩]
  after := known

/-- The portal has received it. -/
def received : Network Bool where
  node := Function.update produced.node false
    { running := false, self := known, authClient := .init, received := [message] }
  bus := { produced.bus with reader := Function.update produced.bus.reader false ⟨0, 1⟩ }

/-- The network which has received an announcement is reachable. -/
lemma received_reachable {lossy : Bool} :
    Network.Reachable deployment Conversions.strict lossy received := by
  have start : Network.Step deployment Conversions.strict lossy (.init deployment) joined :=
    .start true rfl rfl
  have produce : Network.Step deployment Conversions.strict lossy joined produced :=
    .produce true produced.bus rfl
  have receive : Network.Step deployment Conversions.strict lossy produced received := by
    refine .receive false message.payload received.bus message.events known .init rfl ?_
    exact trace_iff_replay.mpr rfl
  exact ((Relation.ReflTransGen.single start).tail produce).tail receive

/-- The portal lists the provisioning service since it has heard of it. -/
theorem received_lists : Listed deployment false [message] "https://prov" ((deployment.inst true).record 1) :=
  ((registry_lists_heard (received_reachable : Network.Reachable _ _ true _) false).2.1 _ _).mp rfl

/-- Its announcement came in time. -/
lemma received_timely : Timely (deployment.inst true) [message] := by
  intro later m earlier t sweep split announcement events quiet e mem s swept
  cases later with
  | nil =>
    cases split
    cases List.mem_singleton.mp mem
    cases events
    cases swept
    rfl
  | cons d later =>
    cases later with
    | nil => cases split
    | cons d later => cases split

/-- The portal has received everything. -/
theorem received_atRest : ∃ t, known.services.get? "https://prov" = some ((deployment.inst true).record t) := by
  have caughtUp : received.bus.CaughtUp false := ⟨rfl, rfl⟩
  have delivered : ∀ i, received.bus.outbox i = [] := by
    intro i
    cases i with
    | false => rfl
    | true => rfl
  have timely : ∀ i, i ≠ false → Timely (deployment.inst i) [message] := by
    intro i ne
    cases i with
    | false => exact absurd rfl ne
    | true => exact received_timely
  exact (discovery_at_rest received_reachable delivered caughtUp timely).1 true nofun rfl

end TwoInstances

end UserPortal.MicroServices
