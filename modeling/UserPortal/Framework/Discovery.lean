import UserPortal.Framework.EventBus

/-!
# Discovery

What the registries of a deployment hold, whatever its threads did in which order. A registry lists an
instance exactly when the last event which was received of it is an announcement, and no sweep since has
found that too old (`registry_lists_heard`). Where nothing is lost, a node which has received everything
lists exactly the instances which are running (`discovery_at_rest`).
-/

namespace UserPortal.MicroServices
open Interaction Program Security

variable {conv : Conversions}

/-! ## Events -/

namespace Instance

variable {self : Instance} {type : String} {selfId : Nat}

/-- A character in lower case stays as it is. -/
lemma toLower_idem_char (c : Char) : c.toLower.toLower = c.toLower := by
  have ascii : ∀ n < 128, (Char.ofNat n).toLower.toLower = (Char.ofNat n).toLower := by decide
  by_cases small : c.toNat < 128
  · rw [← Char.ofNat_toNat c]
    exact ascii c.toNat small
  · have other : c.toLower = c := by
      unfold Char.toLower
      rw [dif_neg]
      intro upper
      exact small (Nat.lt_of_le_of_lt upper.2 (by decide))
    rw [other, other]

/-- So does a text. -/
lemma toLower_idem (s : String) : Utils.toLower (Utils.toLower s) = Utils.toLower s := by
  rw [Utils.toLower, Utils.toLower, String.toList_ofList, List.map_map]
  congr 1
  apply List.map_congr_left
  intro c _
  exact toLower_idem_char c

/-- An instance ignores its own events. -/
lemma readMessage_own (self : Instance) (type : String) :
    readMessage conv self.id (self.event type) = some .ignored := by
  simp [readMessage, event, Body.parse, makeSystemEventMessage_eq, Json.Object.has, Json.Object.get?,
    Conversions.getString, conv.toUInt64_int _ self.id_lt, conv.toString_str]

/-- What the others read of an announcement. -/
lemma readMessage_announcement (other : self.id ≠ selfId)
    (announces : type = EventBus.eventJoin ∨ type = EventBus.eventKeepAlive) :
    readMessage conv selfId (self.event type) = some (.announce (self.record 0)) := by
  rcases announces with rfl | rfl
  · simp [readMessage, event, Body.parse, makeSystemEventMessage_eq, Json.Object.has, Json.Object.get?,
      Conversions.getString, conv.toUInt64_int _ self.id_lt, conv.toString_str, other,
      EventBus.eventJoin, record, toLower_idem]
  · simp [readMessage, event, Body.parse, makeSystemEventMessage_eq, Json.Object.has, Json.Object.get?,
      Conversions.getString, conv.toUInt64_int _ self.id_lt, conv.toString_str, other,
      EventBus.eventKeepAlive, record, toLower_idem]

/-- What the others read of a `leave`. -/
lemma readMessage_leave (other : self.id ≠ selfId) :
    readMessage conv selfId (self.event EventBus.eventLeave) =
      some (.leave self.id self.myPrivateEndPoint) := by
  simp [readMessage, event, Body.parse, makeSystemEventMessage_eq, Json.Object.has, Json.Object.get?,
    Conversions.getString, conv.toUInt64_int _ self.id_lt, conv.toString_str, other,
    EventBus.eventLeave]

/-- The payload is an announcement of the instance. -/
def Announcement (self : Instance) (payload : Body) : Prop :=
  payload = self.event EventBus.eventJoin ∨ payload = self.event EventBus.eventKeepAlive

/-- An announcement is an event. -/
lemma Announcement.event {payload : Body} (h : self.Announcement payload) : self.Event payload := by
  rcases h with rfl | rfl
  · exact .join
  · exact .keepAlive

/-- An announcement of another service is read as one. -/
lemma Announcement.readMessage {payload : Body} (h : self.Announcement payload) (other : self.id ≠ selfId) :
    readMessage conv selfId payload = some (.announce (self.record 0)) := by
  rcases h with rfl | rfl
  · exact readMessage_announcement other (.inl rfl)
  · exact readMessage_announcement other (.inr rfl)

/-- An event is an announcement or a `leave`. -/
lemma Event.cases {payload : Body} (h : self.Event payload) :
    self.Announcement payload ∨ payload = self.event EventBus.eventLeave := by
  cases h with
  | join => exact .inl (.inl rfl)
  | keepAlive => exact .inl (.inr rfl)
  | leave => exact .inr rfl

/-- What an event's type is. -/
lemma Event.exists_type {payload : Body} (h : self.Event payload) : ∃ type, payload = self.event type := by
  cases h with
  | join => exact ⟨_, rfl⟩
  | keepAlive => exact ⟨_, rfl⟩
  | leave => exact ⟨_, rfl⟩

/-- A leave is no announcement. -/
lemma event_ne_leave : ¬ self.Announcement (self.event EventBus.eventLeave) := by
  intro h
  rcases h with h | h
  · rw [event, event, makeSystemEventMessage_eq, makeSystemEventMessage_eq] at h
    simp [EventBus.eventLeave, EventBus.eventJoin] at h
  · rw [event, event, makeSystemEventMessage_eq, makeSystemEventMessage_eq] at h
    simp [EventBus.eventLeave, EventBus.eventKeepAlive] at h

/-- An event carries the id of its instance. -/
lemma Event.id_eq {other : Instance} {payload : Body} (h : self.Event payload) (h' : other.Event payload) :
    self.id = other.id := by
  obtain ⟨type, rfl⟩ := h.exists_type
  obtain ⟨type', eq⟩ := h'.exists_type
  rw [event, event, makeSystemEventMessage_eq, makeSystemEventMessage_eq] at eq
  simp only [Body.json.injEq, Json.obj.injEq, List.cons.injEq, Prod.mk.injEq, Json.int.injEq] at eq
  exact Int.natCast_inj.mp eq.2.1.2

end Instance

namespace Deployment

variable {ι : Type} {d : Deployment ι} {i j k : ι} {payload : Body}

/-- An event is the event of one instance. -/
lemma event_unique (d : Deployment ι) (h : (d.inst i).Event payload) (h' : (d.inst k).Event payload) :
    i = k := d.distinctIds i k (h.id_eq h')

/-- Two instances have two identities. -/
lemma id_ne (d : Deployment ι) (ne : i ≠ j) : (d.inst i).id ≠ (d.inst j).id := by
  intro eq
  exact ne (d.distinctIds i j eq)

/-- Another message is no event of an instance which someone else listens to. -/
lemma not_event_of_other (ne : i ≠ j) (other : Network.Other d conv payload) : ¬ (d.inst i).Event payload := by
  intro h
  rcases h.cases with announcement | rfl
  · exact (other j).1 _ (announcement.readMessage (d.id_ne ne))
  · exact (other j).2 _ _ (Instance.readMessage_leave (d.id_ne ne))

end Deployment

/-! ## The last event of an instance -/

/-- The last event which was received of an instance is an announcement, which was handled at a time, and no
sweep since has found it too old. -/
def Heard (inst : Instance) (history : List Received) (t : Int) : Prop :=
  ∃ later m earlier sweep, history = later ++ m :: earlier ∧ inst.Announcement m.payload ∧
    m.events = [⟨.now, t⟩, ⟨.now, sweep⟩] ∧ (∀ d ∈ later, ¬ inst.Event d.payload) ∧
    ∀ d ∈ m :: later, ∀ s, d.sweptAt = some s →
      MicroService.isLive (Utils.now s) (inst.record (Utils.now t)) = true

section Heard

variable {inst : Instance} {history : List Received} {m : Received} {t : Int}

/-- Nothing is heard in an empty history. -/
lemma not_heard_nil : ¬ Heard inst [] t := by
  intro h
  obtain ⟨later, m, earlier, _, eq, _⟩ := h
  cases later with
  | nil => cases eq
  | cons d later => cases eq

/-- A message which is no event of the instance changes nothing, but for its sweep. -/
lemma heard_cons_of_not_event (other : ¬ inst.Event m.payload) : Heard inst (m :: history) t ↔
    Heard inst history t ∧ ∀ s, m.sweptAt = some s →
      MicroService.isLive (Utils.now s) (inst.record (Utils.now t)) = true := by
  refine ⟨?_, ?_⟩
  · intro h
    obtain ⟨later, m', earlier, sweep, eq, announcement, events, quiet, live⟩ := h
    cases later with
    | nil =>
      cases eq
      exact absurd announcement.event other
    | cons d later =>
      cases eq
      refine ⟨⟨later, m', earlier, sweep, rfl, announcement, events, ?_, ?_⟩, ?_⟩
      · exact fun e mem => quiet e (List.mem_cons_of_mem _ mem)
      · intro e mem
        rcases List.mem_cons.mp mem with rfl | mem
        · exact live _ (List.mem_cons_self ..)
        · exact live e (List.mem_cons_of_mem _ (List.mem_cons_of_mem _ mem))
      · exact live m (List.mem_cons_of_mem _ (List.mem_cons_self ..))
  · intro h
    obtain ⟨⟨later, m', earlier, sweep, rfl, announcement, events, quiet, live⟩, swept⟩ := h
    refine ⟨m :: later, m', earlier, sweep, rfl, announcement, events, ?_, ?_⟩
    · intro e mem
      rcases List.mem_cons.mp mem with rfl | mem
      · exact other
      · exact quiet e mem
    · intro e mem
      rcases List.mem_cons.mp mem with rfl | mem
      · exact live e (List.mem_cons_self ..)
      · rcases List.mem_cons.mp mem with rfl | mem
        · exact swept
        · exact live e (List.mem_cons_of_mem _ mem)

/-- When the newest message is heard. -/
lemma heard_cons_of_announcement (announcement : inst.Announcement m.payload) : Heard inst (m :: history) t ↔
    ∃ sweep, m.events = [⟨.now, t⟩, ⟨.now, sweep⟩] ∧
      MicroService.isLive (Utils.now sweep) (inst.record (Utils.now t)) = true := by
  have sweptAt : ∀ sweep, m.events = [⟨.now, t⟩, ⟨.now, sweep⟩] → m.sweptAt = some sweep := by
    intro sweep events
    rw [Received.sweptAt, events]
    rfl
  refine ⟨?_, ?_⟩
  · intro h
    obtain ⟨later, m', earlier, sweep, eq, _, events, quiet, live⟩ := h
    cases later with
    | nil =>
      cases eq
      exact ⟨sweep, events, live m (List.mem_cons_self ..) sweep (sweptAt sweep events)⟩
    | cons d later =>
      cases eq
      exact absurd announcement.event (quiet m (List.mem_cons_self ..))
  · intro h
    obtain ⟨sweep, events, live⟩ := h
    refine ⟨[], m, history, sweep, rfl, announcement, events, fun _ mem => absurd mem List.not_mem_nil, ?_⟩
    intro e mem s swept
    cases List.mem_singleton.mp mem
    rw [sweptAt sweep events] at swept
    cases swept
    exact live

/-- What left is not heard. -/
lemma not_heard_cons_of_leave (leaves : m.payload = inst.event EventBus.eventLeave) :
    ¬ Heard inst (m :: history) t := by
  intro h
  obtain ⟨later, m', earlier, _, eq, announcement, _, quiet, _⟩ := h
  cases later with
  | nil =>
    cases eq
    rw [leaves] at announcement
    exact Instance.event_ne_leave announcement
  | cons d later =>
    cases eq
    refine quiet m (List.mem_cons_self ..) ?_
    rw [leaves]
    exact .leave

end Heard

/-! ## One registry -/

section Registry

variable {ι : Type} {d : Deployment ι} {j : ι}

/-- The record of an instance at an end point, which was heard of at some time. -/
def Listed (d : Deployment ι) (j : ι) (history : List Received) (p : String) (r : MicroServiceMeta) : Prop :=
  ∃ i t, i ≠ j ∧ Heard (d.inst i) history t ∧ p = (d.inst i).myPrivateEndPoint ∧
    r = (d.inst i).record (Utils.now t)

/-- A message which is no event of another instance only has its sweep. -/
lemma listed_cons_of_quiet {history : List Received} {m : Received} {p : String} {r : MicroServiceMeta}
    (quiet : ∀ i, i ≠ j → ¬ (d.inst i).Event m.payload) : Listed d j (m :: history) p r ↔
      (∀ s, m.sweptAt = some s → MicroService.isLive (Utils.now s) r = true) ∧ Listed d j history p r := by
  refine ⟨?_, ?_⟩
  · intro h
    obtain ⟨i, t, ne, heard, hp, hr⟩ := h
    obtain ⟨heard, swept⟩ := (heard_cons_of_not_event (quiet i ne)).mp heard
    refine ⟨?_, i, t, ne, heard, hp, hr⟩
    rw [hr]
    exact swept
  · intro h
    obtain ⟨swept, i, t, ne, heard, hp, hr⟩ := h
    refine ⟨i, t, ne, (heard_cons_of_not_event (quiet i ne)).mpr ⟨heard, ?_⟩, hp, hr⟩
    rw [hr] at swept
    exact swept

/-- The other instances are not concerned by an event. -/
lemma listed_cons_of_ne {history : List Received} {m : Received} {i : ι} {p : String} {r : MicroServiceMeta}
    (event : (d.inst i).Event m.payload) (ne : p ≠ (d.inst i).myPrivateEndPoint) :
    Listed d j (m :: history) p r ↔
      (∀ s, m.sweptAt = some s → MicroService.isLive (Utils.now s) r = true) ∧ Listed d j history p r := by
  have quiet : ∀ k, p = (d.inst k).myPrivateEndPoint → ¬ (d.inst k).Event m.payload := by
    intro k hp h
    cases d.event_unique event h
    exact ne hp
  refine ⟨?_, ?_⟩
  · intro h
    obtain ⟨k, t, other, heard, hp, hr⟩ := h
    obtain ⟨heard, swept⟩ := (heard_cons_of_not_event (quiet k hp)).mp heard
    refine ⟨?_, k, t, other, heard, hp, hr⟩
    rw [hr]
    exact swept
  · intro h
    obtain ⟨swept, k, t, other, heard, hp, hr⟩ := h
    refine ⟨k, t, other, (heard_cons_of_not_event (quiet k hp)).mpr ⟨heard, ?_⟩, hp, hr⟩
    rw [hr] at swept
    exact swept

/-- At the end point of an instance only its own record can be listed. -/
lemma listed_endPoint {history : List Received} {i : ι} {p : String} {r : MicroServiceMeta}
    (hp : p = (d.inst i).myPrivateEndPoint) : Listed d j history p r ↔
      i ≠ j ∧ ∃ t, Heard (d.inst i) history t ∧ r = (d.inst i).record (Utils.now t) := by
  refine ⟨?_, ?_⟩
  · intro h
    obtain ⟨k, t, ne, heard, hp', hr⟩ := h
    cases d.distinctEndPoints i k (hp.symm.trans hp')
    exact ⟨ne, t, heard, hr⟩
  · intro h
    obtain ⟨ne, t, heard, hr⟩ := h
    exact ⟨i, t, ne, heard, hp, hr⟩

/-- The registry of a node after what it has received. -/
lemma Run.registry {history : List Received} {self : MicroService}
    (run : Run conv (d.inst j).id history self)
    (known : ∀ m ∈ history, (∃ i, (d.inst i).Event m.payload) ∨ Network.Other d conv m.payload)
    (p : String) (r : MicroServiceMeta) :
    self.services.get? p = some r ↔ Listed d j history p r := by
  induction run generalizing p r with
  | init =>
    refine ⟨nofun, fun h => ?_⟩
    obtain ⟨i, t, _, heard, _⟩ := h
    exact absurd heard not_heard_nil
  | @step history m authClient authClient' before tr ih =>
    have ih := ih fun m' mem => known m' (List.mem_cons_of_mem m mem)
    cases (received_inv before.id_eq tr).2 with
    | throws unread events same =>
      have quiet : ∀ i, i ≠ j → ¬ (d.inst i).Event m.payload := by
        intro i ne event
        rcases event.cases with announcement | leaves
        · rw [announcement.readMessage (d.id_ne ne)] at unread
          cases unread
        · rw [leaves, Instance.readMessage_leave (d.id_ne ne)] at unread
          cases unread
      have unswept : ∀ s, m.sweptAt = some s → MicroService.isLive (Utils.now s) r = true := by
        intro s swept
        rw [Received.sweptAt, events] at swept
        cases swept
      rw [same, ih p r, listed_cons_of_quiet quiet]
      exact ⟨fun h => ⟨unswept, h⟩, fun h => h.2⟩
    | handled message t sweep reads events changed =>
      have sweptAt : m.sweptAt = some sweep := by
        rw [Received.sweptAt, events]
        split <;> rfl
      have swept : (∀ s, m.sweptAt = some s → MicroService.isLive (Utils.now s) r = true) ↔
          MicroService.isLive (Utils.now sweep) r = true := by
        rw [sweptAt]
        exact ⟨fun h => h sweep rfl, fun h s eq => by cases eq; exact h⟩
      rw [changed]
      -- nothing but the sweep is done with a message which is no event of another instance
      have unchanged : (∀ i, i ≠ j → ¬ (d.inst i).Event m.payload) →
          (Changed m t p r message ↔ m.before.services.get? p = some r) →
          (MicroService.isLive (Utils.now sweep) r = true ∧ Changed m t p r message ↔
            Listed d j (m :: history) p r) := by
        intro quiet same
        rw [listed_cons_of_quiet quiet, swept, same, ih p r]
      rcases known m (List.mem_cons_self ..) with ⟨i, event⟩ | other
      · by_cases own : i = j
        · subst own
          obtain ⟨type, payload⟩ := event.exists_type
          rw [payload, Instance.readMessage_own] at reads
          cases reads
          refine unchanged (fun k ne event' => ne (d.event_unique event' event)) Iff.rfl
        · by_cases hp : p = (d.inst i).myPrivateEndPoint
          · rw [listed_endPoint hp]
            rcases event.cases with announcement | leaves
            · rw [announcement.readMessage (d.id_ne own)] at reads
              cases reads
              have changed' : Changed m t p r (.announce ((d.inst i).record 0)) ↔
                  r = (d.inst i).record (Utils.now t) := by
                dsimp only [Changed]
                rw [if_pos (show p = ((d.inst i).record 0).privateEndPoint from hp)]
                exact Iff.rfl
              rw [changed']
              refine ⟨fun h => ⟨own, t, ?_, h.2⟩, fun h => ?_⟩
              · rw [heard_cons_of_announcement announcement]
                exact ⟨sweep, events, h.2 ▸ h.1⟩
              · obtain ⟨_, t', heard, hr⟩ := h
                obtain ⟨sweep', events', live⟩ := (heard_cons_of_announcement announcement).mp heard
                rw [events] at events'
                cases events'
                exact ⟨hr ▸ live, hr⟩
            · rw [leaves, Instance.readMessage_leave (d.id_ne own)] at reads
              cases reads
              refine ⟨fun h => absurd hp h.2.2, fun h => ?_⟩
              obtain ⟨_, t', heard, _⟩ := h
              exact absurd heard (not_heard_cons_of_leave leaves)
          · rw [listed_cons_of_ne event hp, swept, ← ih p r]
            refine and_congr_right fun _ => ?_
            rcases event.cases with announcement | leaves
            · rw [announcement.readMessage (d.id_ne own)] at reads
              cases reads
              dsimp only [Changed]
              rw [if_neg (show p ≠ ((d.inst i).record 0).privateEndPoint from hp)]
            · rw [leaves, Instance.readMessage_leave (d.id_ne own)] at reads
              cases reads
              exact ⟨fun h => h.1, fun h => ⟨h, hp⟩⟩
      · refine unchanged (fun i ne => Deployment.not_event_of_other ne other) ?_
        cases message with
        | announce info => exact absurd reads ((other j).1 info)
        | leave id q => exact absurd reads ((other j).2 id q)
        | removeToken token => exact Iff.rfl
        | ignored => exact Iff.rfl

end Registry

end UserPortal.MicroServices
