import UserPortal.Framework.MicroService

/-!
# Runs of the service registry

The registry is keyed by private endpoint, while messages carry the id of an instance. Whatever was
received, a record is never the portal's own, and it was announced at most 120 seconds before the last
message. A `leave` removes the record of its endpoint, whose ever it is.

`registry_sound_iff`: the registry is sound along a run exactly when every `leave` names an endpoint of its
own sender, or one without a live record.
-/

namespace UserPortal.MicroServices
open Interaction Program Security

/-- A message which was received. -/
structure Received where
  payload : Body
  before : MicroService
  events : List Portal.Event
  after : MicroService

variable (conv : Conversions)

/-- Runs from the empty registry, the last message first. The caches of the authentication client may
show in between. -/
inductive Run (selfId : Nat) : List Received → MicroService → Prop where
  | init : Run selfId [] (.init selfId)
  | step {history : List Received} (m : Received) (authClient authClient' : AuthClient) :
    Run selfId history m.before →
    Trace (m.before.busMessageReceived conv authClient m.payload) m.events (m.after, authClient') →
    Run selfId (m :: history) m.after

/-- The seconds which were read, the last first. -/
def seconds (history : List Received) : List Nat :=
  history.flatMap fun m => ((Portal.readings m.events).map Utils.now).reverse

/-- The clock does not go back. -/
def Chronological (history : List Received) : Prop := (seconds history).Pairwise (· ≥ ·)

/-- A record which a message has announced at a time. -/
structure Announces (selfId : Nat) (m : Received) (info : MicroServiceMeta) : Prop where
  reads : ∃ announced, readMessage conv selfId m.payload = some (.announce announced) ∧
    info = { announced with lastUpdate := info.lastUpdate }
  clock : ∃ t sweep, m.events = [⟨.now, t⟩, ⟨.now, sweep⟩] ∧ info.lastUpdate = Utils.now t

variable {conv} {selfId : Nat}

/-! ## One message -/

/-- Only another instance is announced. -/
lemma readMessage_announce {payload : Body} {info : MicroServiceMeta}
    (h : readMessage conv selfId payload = some (.announce info)) : info.id ≠ selfId := by
  obtain ⟨object, _, h⟩ := Option.bind_eq_some_iff.mp h
  split at h
  case isFalse => cases h
  case isTrue =>
    obtain ⟨id, _, h⟩ := Option.bind_eq_some_iff.mp h
    obtain ⟨event, _, h⟩ := Option.bind_eq_some_iff.mp h
    split at h
    case isTrue => cases h
    case isFalse other =>
      split at h
      case isTrue =>
        split at h
        case isFalse => cases h
        case isTrue =>
          obtain ⟨privateEndPoint, _, h⟩ := Option.bind_eq_some_iff.mp h
          split at h
          case isTrue => cases h
          case isFalse =>
            obtain ⟨type, _, h⟩ := Option.bind_eq_some_iff.mp h
            obtain ⟨publicEndPoint, _, h⟩ := Option.bind_eq_some_iff.mp h
            obtain ⟨accessKey, _, h⟩ := Option.bind_eq_some_iff.mp h
            obtain ⟨version, _, h⟩ := Option.bind_eq_some_iff.mp h
            cases h
            exact other
      case isFalse =>
        split at h
        case isFalse => cases h
        case isTrue =>
          split at h
          case isFalse => cases h
          case isTrue =>
            obtain ⟨token, _, h⟩ := Option.bind_eq_some_iff.mp h
            cases h

/-- What the registry holds after the change of a message, which was handled at a time. -/
def Changed (m : Received) (t : Int) (p : String) (r : MicroServiceMeta) : BusMessage → Prop
  | .announce info =>
    if p = info.privateEndPoint then r = { info with lastUpdate := Utils.now t }
    else m.before.services.get? p = some r
  | .leave _ q => m.before.services.get? p = some r ∧ p ≠ q
  | .removeToken _ | .ignored => m.before.services.get? p = some r

/-- What a message has done: nothing when it throws, else its own change and the sweep. -/
inductive Outcome (conv : Conversions) (selfId : Nat) (m : Received) : Prop where
  | throws :
    readMessage conv selfId m.payload = none →
    m.events = [] →
    m.after = m.before →
    Outcome conv selfId m
  | handled (message : BusMessage) (t sweep : Int) :
    readMessage conv selfId m.payload = some message →
    m.events = (if message matches .announce _ then [⟨.now, t⟩, ⟨.now, sweep⟩] else [⟨.now, sweep⟩]) →
    (∀ p r, m.after.services.get? p = some r ↔
      MicroService.isLive (Utils.now sweep) r = true ∧ Changed m t p r message) →
    Outcome conv selfId m

/-- The sweep reads the clock once, and leaves what is live then. -/
lemma sweep_inv {self self' : MicroService} {tr : List Portal.Event}
    (h : Trace self.sweep tr self') :
    ∃ t, tr = [⟨.now, t⟩] ∧ self'.id = self.id ∧ ∀ p r, self'.services.get? p = some r ↔
      MicroService.isLive (Utils.now t) r = true ∧ self.services.get? p = some r := by
  obtain ⟨t, rest, rfl, h1⟩ := trace_perform_bind.mp h
  obtain ⟨rfl, rfl⟩ := trace_pure.mp h1
  refine ⟨t, rfl, rfl, fun p r => ?_⟩
  rw [Data.OrderedMap.get?_filter]
  exact and_comm

/-- The change of a message. -/
lemma handle_inv {m : Received} {self' : MicroService} {authClient authClient' : AuthClient}
    {message : BusMessage} {tr : List Portal.Event}
    (h : Trace (m.before.handle authClient message) tr (self', authClient')) :
    ∃ t, tr = (if message matches .announce _ then [⟨.now, t⟩] else []) ∧ self'.id = m.before.id ∧
      ∀ p r, self'.services.get? p = some r ↔ Changed m t p r message := by
  cases message with
  | announce info =>
    obtain ⟨t, rest, rfl, h1⟩ := trace_perform_bind.mp h
    obtain ⟨rfl, eq⟩ := trace_pure.mp h1
    cases eq
    refine ⟨t, rfl, rfl, fun p r => ?_⟩
    dsimp only [Changed]
    rw [Data.OrderedMap.get?_alter]
    by_cases same : info.privateEndPoint = p
    · rw [if_pos same, if_pos same.symm]
      exact Option.some_inj.trans eq_comm
    · rw [if_neg same, if_neg (Ne.symm same)]
  | leave id q =>
    obtain ⟨rfl, eq⟩ := trace_pure.mp h
    cases eq
    exact ⟨0, rfl, rfl, fun p r => Data.OrderedMap.get?_erase⟩
  | removeToken token =>
    obtain ⟨rfl, eq⟩ := trace_pure.mp h
    cases eq
    exact ⟨0, rfl, rfl, fun p r => Iff.rfl⟩
  | ignored =>
    obtain ⟨rfl, eq⟩ := trace_pure.mp h
    cases eq
    exact ⟨0, rfl, rfl, fun p r => Iff.rfl⟩

/-- The outcomes of a message. -/
lemma received_inv {m : Received} {authClient authClient' : AuthClient} (own : m.before.id = selfId)
    (h : Trace (m.before.busMessageReceived conv authClient m.payload) m.events
      (m.after, authClient')) : m.after.id = selfId ∧ Outcome conv selfId m := by
  rw [MicroService.busMessageReceived, own] at h
  split at h
  case h_1 none =>
    obtain ⟨events, eq⟩ := trace_pure.mp h
    obtain ⟨same, _⟩ := Prod.mk.inj eq
    exact ⟨by rw [same, own], .throws none events same⟩
  case h_2 message read =>
    obtain ⟨tr1, tr2, ⟨self', authClient''⟩, split, h1, h2⟩ := trace_bind.mp h
    obtain ⟨t, rfl, id, changed⟩ := handle_inv h1
    obtain ⟨tr3, tr4, self'', rfl, h3, h4⟩ := trace_bind.mp h2
    obtain ⟨sweep, rfl, id', swept⟩ := sweep_inv h3
    obtain ⟨rfl, eq⟩ := trace_pure.mp h4
    obtain ⟨after, _⟩ := Prod.mk.inj eq
    rw [after]
    refine ⟨by rw [id', id, own], .handled message t sweep read ?_ fun p r => ?_⟩
    · rw [split]
      cases message with
      | _ => rfl
    · rw [after, swept, changed]

/-! ## The clock -/

/-- When the registry was swept after a message. A message which throws reads no clock. -/
def Received.sweptAt (m : Received) : Option Int := (Portal.readings m.events).getLast?

/-- The seconds which the newest message adds. -/
lemma seconds_cons (m : Received) (history : List Received) :
    seconds (m :: history) = ((Portal.readings m.events).map Utils.now).reverse ++ seconds history := rfl

/-- A reading of a message is one of the history. -/
lemma mem_seconds {m : Received} {history : List Received} {t : Int} (mem : m ∈ history)
    (reads : t ∈ Portal.readings m.events) : Utils.now t ∈ seconds history :=
  List.mem_flatMap.mpr ⟨m, mem, List.mem_reverse.mpr (List.mem_map_of_mem reads)⟩

/-- The sweep is the last time which was read. -/
lemma Chronological.le_sweep {m : Received} {history : List Received} {t : Int} {s : Nat}
    (chronological : Chronological (m :: history)) (swept : m.sweptAt = some t)
    (mem : s ∈ seconds (m :: history)) : s ≤ Utils.now t := by
  obtain ⟨ts, eq⟩ := List.getLast?_eq_some_iff.mp swept
  rw [Chronological, seconds_cons, eq, List.map_append, List.reverse_append] at chronological
  rw [seconds_cons, eq, List.map_append, List.reverse_append] at mem
  rcases List.mem_cons.mp mem with rfl | mem
  · exact le_refl _
  · exact (List.pairwise_cons.mp chronological).1 s mem

/-- An earlier part of a chronological history is chronological. -/
lemma Chronological.suffix (later : List Received) {history : List Received}
    (chronological : Chronological (later ++ history)) : Chronological history := by
  rw [Chronological, seconds, List.flatMap_append] at chronological
  exact (List.pairwise_append.mp chronological).2.1

/-- The clock in seconds fits into 64 bits. -/
lemma now_lt (t : Int) : Utils.now t < 2 ^ 64 := by
  rw [Utils.now]
  omega

/-- For a record which was not announced in the future, the difference is the age. -/
lemma isLive_iff {r : MicroServiceMeta} {t : Int} (past : r.lastUpdate ≤ Utils.now t) :
    MicroService.isLive (Utils.now t) r = true ↔ Utils.now t ≤ r.lastUpdate + 120 := by
  have bound := now_lt t
  rw [MicroService.isLive, decide_eq_true_iff]
  omega

/-! ## Whole runs -/

/-- No message changes the identity of the service. -/
lemma Run.id_eq {history : List Received} {self : MicroService} (run : Run conv selfId history self) :
    self.id = selfId := by
  induction run with
  | init => rfl
  | step m authClient authClient' _ tr ih => exact (received_inv ih tr).1

/-- The last step of a run. -/
lemma Run.cons_inv {m : Received} {history : List Received} {self : MicroService}
    (run : Run conv selfId (m :: history) self) :
    self = m.after ∧ Run conv selfId history m.before ∧ Outcome conv selfId m := by
  cases run with
  | step _ authClient authClient' before tr => exact ⟨rfl, before, (received_inv before.id_eq tr).2⟩

/-- What a message with a sweep has done. -/
lemma Outcome.sweptAt {m : Received} (outcome : Outcome conv selfId m) {t : Int}
    (swept : m.sweptAt = some t) :
    ∃ message t', readMessage conv selfId m.payload = some message ∧
      m.events = (if message matches .announce _ then [⟨.now, t'⟩, ⟨.now, t⟩] else [⟨.now, t⟩]) ∧
      ∀ p r, m.after.services.get? p = some r ↔
        MicroService.isLive (Utils.now t) r = true ∧ Changed m t' p r message := by
  cases outcome with
  | throws _ events _ =>
    rw [Received.sweptAt, events] at swept
    cases swept
  | handled message t' sweep reads events changed =>
    have same : sweep = t := by
      rw [Received.sweptAt, events] at swept
      split at swept
      · exact Option.some_inj.mp swept
      · exact Option.some_inj.mp swept
    subst same
    exact ⟨message, t', reads, events, changed⟩

/-- Every record was announced, under its endpoint. -/
lemma Run.announced {history : List Received} {self : MicroService}
    (run : Run conv selfId history self) {p : String} {r : MicroServiceMeta}
    (held : self.services.get? p = some r) :
    p = r.privateEndPoint ∧ ∃ m ∈ history, Announces conv selfId m r := by
  induction run generalizing p r with
  | init => cases held
  | @step history m authClient authClient' before tr ih =>
    have earlier : m.before.services.get? p = some r →
        p = r.privateEndPoint ∧ ∃ m' ∈ m :: history, Announces conv selfId m' r := by
      intro held
      obtain ⟨eq, m', mem, announces⟩ := ih held
      exact ⟨eq, m', List.mem_cons_of_mem _ mem, announces⟩
    cases (received_inv before.id_eq tr).2 with
    | throws _ _ same =>
      rw [same] at held
      exact earlier held
    | handled message t sweep reads events changed =>
      have change := ((changed p r).mp held).2
      cases message with
      | announce info =>
        dsimp only [Changed] at change
        split at change
        case isTrue eq =>
          subst change
          exact ⟨eq, m, List.mem_cons_self .., ⟨info, reads, rfl⟩, t, sweep, events, rfl⟩
        case isFalse => exact earlier change
      | leave id q => exact earlier change.1
      | removeToken token => exact earlier change
      | ignored => exact earlier change

/-- A service takes no announcement of itself. -/
lemma Announces.id_ne {m : Received} {r : MicroServiceMeta} (announces : Announces conv selfId m r) :
    r.id ≠ selfId := by
  obtain ⟨announced, reads, eq⟩ := announces.reads
  have ne := readMessage_announce reads
  rw [eq]
  exact ne

/-- A record carries a time which was read. -/
lemma Announces.mem_seconds {m : Received} {r : MicroServiceMeta} {history : List Received}
    (announces : Announces conv selfId m r) (mem : m ∈ history) : r.lastUpdate ∈ seconds history := by
  obtain ⟨t, sweep, events, eq⟩ := announces.clock
  rw [eq]
  apply MicroServices.mem_seconds mem
  rw [events]
  exact List.mem_cons_self ..

/-- A `leave` names an endpoint of its sender, or one without a live record. -/
def LeavesOwn (conv : Conversions) (selfId : Nat) (m : Received) : Prop :=
  ∀ x p t r, readMessage conv selfId m.payload = some (.leave x p) → m.sweptAt = some t →
    m.before.services.get? p = some r → Utils.now t ≤ r.lastUpdate + 120 → r.id = x

/-- The last announcement of an instance, which has not left since, and whose endpoint no other instance
has announced since. -/
def LastSeen (conv : Conversions) (selfId : Nat) (history : List Received) (r : MicroServiceMeta) : Prop :=
  ∃ later m earlier, history = later ++ m :: earlier ∧ Announces conv selfId m r ∧
    ∀ d ∈ later,
      (∀ info, readMessage conv selfId d.payload = some (.announce info) →
        info.id ≠ r.id ∧ info.privateEndPoint ≠ r.privateEndPoint) ∧
      ∀ p, readMessage conv selfId d.payload ≠ some (.leave r.id p)

/-- What holds of the registry after a message which was handled at a time. -/
structure Sound (conv : Conversions) (selfId : Nat) (m : Received) (earlier : List Received) (now : Nat) :
    Prop where
  notSelf : ∀ p r, m.after.services.get? p = some r → r.id ≠ selfId
  /-- a `leave` removes no live record of another instance -/
  leaves : ∀ x p, readMessage conv selfId m.payload = some (.leave x p) →
    ∀ q r, m.before.services.get? q = some r → r.id ≠ x → now ≤ r.lastUpdate + 120 →
      m.after.services.get? q = some r
  refreshed : ∀ p r, m.after.services.get? p = some r → now ≤ r.lastUpdate + 120 ∧
    ∃ m' ∈ m :: earlier, Announces conv selfId m' r
  found : ∀ r type, LastSeen conv selfId (m :: earlier) r → now ≤ r.lastUpdate + 120 →
    r.type = Utils.toLower type → r ∈ m.after.getServices type

/-- A record is at most 120 seconds old when a message has been handled. -/
def LiveAt (m : Received) (r : MicroServiceMeta) : Prop :=
  ∀ t, m.sweptAt = some t → r.lastUpdate ≤ Utils.now t ∧ Utils.now t ≤ r.lastUpdate + 120

/-- An announced service which stays fresh is live at the newest message. -/
lemma Announces.liveAt {m d : Received} {history : List Received} {r : MicroServiceMeta}
    (announces : Announces conv selfId m r) (mem : m ∈ d :: history)
    (chronological : Chronological (d :: history))
    (fresh : ∀ s ∈ seconds (d :: history), s ≤ r.lastUpdate + 120) : LiveAt d r := by
  intro t swept
  refine ⟨chronological.le_sweep swept (announces.mem_seconds mem), fresh _ ?_⟩
  apply MicroServices.mem_seconds (List.mem_cons_self ..)
  exact List.mem_of_getLast? swept

/-- An announcement is stored. -/
lemma Announces.stored {m : Received} {r : MicroServiceMeta} (announces : Announces conv selfId m r)
    (outcome : Outcome conv selfId m) (live : LiveAt m r) :
    m.after.services.get? r.privateEndPoint = some r := by
  obtain ⟨announced, reads, eq⟩ := announces.reads
  obtain ⟨t, sweep, events, time⟩ := announces.clock
  have swept : m.sweptAt = some sweep := by
    rw [Received.sweptAt, events]
    rfl
  obtain ⟨message, t', reads', events', changed⟩ := outcome.sweptAt swept
  rw [reads] at reads'
  cases reads'
  rw [events] at events'
  cases events'
  obtain ⟨past, young⟩ := live sweep swept
  refine (changed _ _).mpr ⟨(isLive_iff past).mpr young, ?_⟩
  have endpoint : r.privateEndPoint = announced.privateEndPoint := by rw [eq]
  dsimp only [Changed]
  rw [if_pos endpoint, ← time]
  exact eq

/-- A record is kept by a message which neither announces its endpoint nor takes the leave of its
instance. -/
lemma Outcome.keeps {m : Received} {r : MicroServiceMeta} (outcome : Outcome conv selfId m)
    (own : LeavesOwn conv selfId m) (live : LiveAt m r)
    (others : ∀ info, readMessage conv selfId m.payload = some (.announce info) →
      info.privateEndPoint ≠ r.privateEndPoint)
    (stays : ∀ p, readMessage conv selfId m.payload ≠ some (.leave r.id p))
    (held : m.before.services.get? r.privateEndPoint = some r) :
    m.after.services.get? r.privateEndPoint = some r := by
  cases outcome with
  | throws _ _ same =>
    rw [same]
    exact held
  | handled message t sweep reads events changed =>
    have swept : m.sweptAt = some sweep := by
      rw [Received.sweptAt, events]
      split <;> rfl
    obtain ⟨past, young⟩ := live sweep swept
    refine (changed _ _).mpr ⟨(isLive_iff past).mpr young, ?_⟩
    cases message with
    | announce info =>
      dsimp only [Changed]
      rw [if_neg (others info reads).symm]
      exact held
    | leave x q =>
      refine ⟨held, fun eq => ?_⟩
      -- the endpoint is that of the live record, whose instance stays
      have sender := own x q sweep r reads swept (eq ▸ held) young
      exact stays q (by rw [reads, sender])
    | removeToken token => exact held
    | ignored => exact held

/-- Where every `leave` names an endpoint of its own, the last announcement of an instance is kept until
it is too old. -/
lemma Run.keeps {history : List Received} {self : MicroService} {r : MicroServiceMeta}
    (run : Run conv selfId history self) (chronological : Chronological history)
    (own : ∀ m ∈ history, LeavesOwn conv selfId m) (seen : LastSeen conv selfId history r)
    (fresh : ∀ s ∈ seconds history, s ≤ r.lastUpdate + 120) :
    self.services.get? r.privateEndPoint = some r := by
  obtain ⟨later, m, earlier, rfl, announces, quiet⟩ := seen
  induction later generalizing self with
  | nil =>
    obtain ⟨rfl, _, outcome⟩ := run.cons_inv
    exact announces.stored outcome (announces.liveAt (List.mem_cons_self ..) chronological fresh)
  | cons d later ih =>
    obtain ⟨rfl, before, outcome⟩ := run.cons_inv
    have fresh' : ∀ s ∈ seconds (later ++ m :: earlier), s ≤ r.lastUpdate + 120 := by
      intro s hs
      refine fresh s ?_
      rw [List.cons_append, seconds_cons]
      exact List.mem_append_right _ hs
    have held := ih before (Chronological.suffix [d] chronological)
      (fun m hm => own m (List.mem_cons_of_mem d hm)) fresh' fun e he => quiet e (List.mem_cons_of_mem d he)
    have live : LiveAt d r := announces.liveAt (by simp) chronological fresh
    obtain ⟨others, stays⟩ := quiet d (List.mem_cons_self ..)
    exact outcome.keeps (own d (List.mem_cons_self ..)) live (fun info reads => (others info reads).2) stays held

/-- The registry is sound after every message which was handled. -/
def SoundThroughout (conv : Conversions) (selfId : Nat) (history : List Received) : Prop :=
  ∀ later m earlier t, history = later ++ m :: earlier → m.sweptAt = some t →
    Sound conv selfId m earlier (Utils.now t)

/-- A run has been in an earlier state. -/
lemma Run.before {later history : List Received} {self : MicroService}
    (run : Run conv selfId (later ++ history) self) : ∃ self', Run conv selfId history self' := by
  induction later generalizing self with
  | nil => exact ⟨self, run⟩
  | cons d later ih => exact ih run.cons_inv.2.1

/-- A service of the type asked for is among the answer. -/
lemma mem_getServices {self : MicroService} {p type : String} {r : MicroServiceMeta}
    (held : self.services.get? p = some r) (fits : r.type = Utils.toLower type) :
    r ∈ self.getServices type := by
  refine List.mem_filter.mpr ⟨?_, decide_eq_true fits⟩
  exact List.mem_map.mpr ⟨(p, r), Data.OrderedMap.get?_eq_some.mp held, rfl⟩

/-- A message is handled soundly exactly when it leaves as it should. -/
lemma Run.sound {m : Received} {earlier : List Received} {self : MicroService} {t : Int}
    (run : Run conv selfId (m :: earlier) self) (chronological : Chronological (m :: earlier))
    (own : ∀ d ∈ m :: earlier, LeavesOwn conv selfId d) (swept : m.sweptAt = some t) :
    Sound conv selfId m earlier (Utils.now t) := by
  obtain ⟨rfl, before, outcome⟩ := run.cons_inv
  obtain ⟨message, t', reads, _, changed⟩ := outcome.sweptAt swept
  have past : ∀ d ∈ m :: earlier, ∀ r, Announces conv selfId d r → r.lastUpdate ≤ Utils.now t :=
    fun d mem r announces => chronological.le_sweep swept (announces.mem_seconds mem)
  refine ⟨?_, ?_, ?_, ?_⟩
  · intro p r held
    obtain ⟨_, d, _, announces⟩ := run.announced held
    exact announces.id_ne
  · intro x p leaving q r held other young
    rw [reads] at leaving
    cases leaving
    obtain ⟨_, d, mem, announces⟩ := before.announced held
    refine (changed q r).mpr ⟨?_, held, fun eq => ?_⟩
    · exact (isLive_iff (past d (List.mem_cons_of_mem m mem) r announces)).mpr young
    · exact other (own m (List.mem_cons_self ..) x p t r reads swept (eq ▸ held) young)
  · intro p r held
    obtain ⟨_, d, mem, announces⟩ := run.announced held
    refine ⟨?_, d, mem, announces⟩
    exact (isLive_iff (past d mem r announces)).mp ((changed p r).mp held).1
  · intro r type seen young fits
    refine mem_getServices (run.keeps chronological own seen ?_) fits
    exact fun s hs => (chronological.le_sweep swept hs).trans young

/-- The registry is sound throughout a run exactly when every `leave` names an endpoint of its sender, or
one without a live record. -/
theorem registry_sound_iff {history : List Received} {self : MicroService}
    (run : Run conv selfId history self) (chronological : Chronological history) :
    SoundThroughout conv selfId history ↔ ∀ m ∈ history, LeavesOwn conv selfId m := by
  refine ⟨?_, ?_⟩
  · intro sound m mem x p t r leaving swept held young
    obtain ⟨later, earlier, rfl⟩ := List.append_of_mem mem
    by_contra other
    have kept := (sound later m earlier t rfl swept).leaves x p leaving p r held other young
    obtain ⟨self', run'⟩ := run.before
    obtain ⟨rfl, _, outcome⟩ := run'.cons_inv
    obtain ⟨message, t', reads, _, changed⟩ := outcome.sweptAt swept
    rw [leaving] at reads
    cases reads
    exact ((changed p r).mp kept).2.2 rfl
  · intro own later m earlier t split swept
    subst split
    obtain ⟨self', run'⟩ := run.before
    exact run'.sound (Chronological.suffix later chronological)
      (fun d mem => own d (List.mem_append_right later mem)) swept

/-! ### An endpoint which is used again -/

namespace UsedAgain

/-- What an instance announces. -/
def info (id : Nat) (lastUpdate : Nat) : MicroServiceMeta where
  id := id
  type := "owprov"
  privateEndPoint := "https://prov"
  publicEndPoint := ""
  accessKey := ""
  version := ""
  lastUpdate := lastUpdate

/-- A message of an instance, at its endpoint. -/
def message (id : Nat) (event : String) : Body :=
  .json (.obj [("event", .str event), ("id", .int id), ("key", .str ""),
    ("privateEndPoint", .str "https://prov"), ("publicEndPoint", .str ""), ("type", .str "owprov"),
    ("version", .str "")])

/-- The registry with one record. -/
def holding (info : MicroServiceMeta) : MicroService where
  id := 9
  services := .single "https://prov" info

/-- The first instance joins. -/
def joins : Received where
  payload := message 1 "join"
  before := .init 9
  events := [⟨.now, (1000000 : Int)⟩, ⟨.now, (1000000 : Int)⟩]
  after := holding (info 1 1)

/-- It is restarted as the second instance, at the same endpoint. -/
def restarts : Received where
  payload := message 2 "join"
  before := holding (info 1 1)
  events := [⟨.now, (2000000 : Int)⟩, ⟨.now, (2000000 : Int)⟩]
  after := holding (info 2 2)

/-- One of the two leaves. -/
def leaves (id : Nat) : Received where
  payload := message id "leave"
  before := holding (info 2 2)
  events := [⟨.now, (3000000 : Int)⟩]
  after := .init 9

/-- The restart is a run. -/
lemma restarts_run : Run Conversions.strict 9 [restarts, joins] restarts.after := by
  refine .step restarts .init .init (.step joins .init .init .init ?_) ?_
  · exact trace_iff_replay.mpr rfl
  · exact trace_iff_replay.mpr rfl

/-- The leave after it is one. -/
lemma leaves_run (id : Nat) (read : readMessage Conversions.strict 9 (message id "leave") =
    some (.leave id "https://prov")) :
    Run Conversions.strict 9 [leaves id, restarts, joins] (leaves id).after := by
  refine .step (leaves id) .init .init restarts_run ?_
  apply trace_iff_replay.mpr
  have own : (leaves id).before.id = 9 := rfl
  rw [MicroService.busMessageReceived, own]
  have payload : (leaves id).payload = message id "leave" := rfl
  rw [payload, read]
  rfl

/-- Its clock goes forwards. -/
lemma leaves_chronological (id : Nat) : Chronological [leaves id, restarts, joins] := by
  show [3, 2, 2, 1, 1].Pairwise (· ≥ ·)
  decide

/-- The instance whose record it is may leave. -/
theorem secondLeaves_sound : SoundThroughout Conversions.strict 9 [leaves 2, restarts, joins] := by
  refine (registry_sound_iff (leaves_run 2 rfl) (leaves_chronological 2)).mpr ?_
  intro m mem x p t r leaving _ held _
  rcases List.mem_cons.mp mem with rfl | mem
  · cases (show some (BusMessage.leave 2 "https://prov") = some (.leave x p) from leaving)
    cases (show some (info 2 2) = some r from held)
    rfl
  · rcases List.mem_cons.mp mem with rfl | mem
    · cases (show some (BusMessage.announce (info 2 0)) = some (.leave x p) from leaving)
    · cases List.mem_singleton.mp mem
      cases (show some (BusMessage.announce (info 1 0)) = some (.leave x p) from leaving)

/-- The `leave` of the first instance arrives late, and removes the second one. -/
theorem firstLeaves_notSound :
    ¬ ∀ (conv : Conversions) (selfId : Nat) (history : List Received) (self : MicroService),
      Run conv selfId history self → Chronological history → SoundThroughout conv selfId history := by
  intro all
  have sound := all _ _ _ _ (leaves_run 1 rfl) (leaves_chronological 1)
  have kept := (sound [] (leaves 1) [restarts, joins] 3000000 rfl rfl).leaves 1 "https://prov" rfl
    "https://prov" (info 2 2) rfl (by decide) (by decide)
  cases kept

end UsedAgain

end UserPortal.MicroServices
