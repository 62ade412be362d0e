import Mathlib.Data.List.Nodup
import UserPortal.Data.Runs

/-!
# Clients of the web-socket server

Port of the connections of `src/framework/UI_WebSocketClientServer.cpp`. A connection which ends stays in the
map of the clients, under its socket, and a reference to its entry is queued; the cleaner erases what is
queued every two seconds. A reference to an entry which is no longer in the map must not be erased.

`removals_valid_iff`: the queue stays valid exactly as long as no connection ends twice, no client takes an
entry over which is queued, and the server is not stopped while something is queued.
-/

namespace UserPortal.WebSocketClients
open Data

/-- The handle of a socket, `sockfd`. -/
abbrev Socket := Int

/-- A `UI_WebSocketClientInfo`, and the entry of the map which holds it. -/
structure Client where
  entry : Nat
  authenticated : Bool := false
  socketRegistered : Bool := false
  deriving DecidableEq

/-- A `ClientList::iterator`: the entry at a socket. -/
structure Reference where
  socket : Socket
  entry : Nat
  deriving DecidableEq

/-- `UI_WebSocketClientServer`, with the number of the entries which have been made. -/
structure Server where
  clients : Socket → Option Client
  toBeRemoved : List Reference
  running : Bool
  entries : Nat

/-- What a text asks for, once the client is authenticated: it is no JSON object, it drops notifications, with
identifiers which may not be numbers, or it is processed. -/
inductive Command where
  | malformed
  | dropNotifications (valid : Bool)
  | process (answered closeConnection : Bool)

/-- What is received from a socket. Where something is sent back, the sending may throw. -/
inductive Frame where
  | failed
  | empty
  | ping (sent : Bool)
  | pong
  | close
  | text (authorized sent : Bool) (command : Command)
  | other

/-- The events of the server. -/
inductive Event where
  | newClient (socket : Socket)
  | readable (socket : Socket) (frame : Frame)
  | shutdown (socket : Socket)
  | error (socket : Socket)
  | clean
  | stop

/-- Change what a socket stands for. -/
def assign (clients : Socket → Option Client) (socket : Socket) (client : Option Client) :
    Socket → Option Client :=
  fun other => if other = socket then client else clients other

namespace Server

/-- The server after its start. -/
def started : Server where
  clients _ := none
  toBeRemoved := []
  running := true
  entries := 0

/-- `NewClient`: the assignment keeps an entry which is there, and makes a new one otherwise. -/
def newClient (s : Server) (socket : Socket) : Server :=
  let entry :=
    match s.clients socket with
    | some old => old.entry
    | none => s.entries
  let client : Client := { entry, socketRegistered := true }
  { s with clients := assign s.clients socket (some client), entries := s.entries + 1 }

/-- `EndConnection` -/
def endConnection (s : Server) (socket : Socket) (client : Client) : Server :=
  let client := if client.socketRegistered then { client with socketRegistered := false } else client
  { s with
    clients := assign s.clients socket (some client)
    toBeRemoved := s.toBeRemoved ++ [⟨socket, client.entry⟩] }

end Server

/-- What a command does: whether the connection ends. -/
def Command.ends : Command → Bool
  | malformed => true
  | dropNotifications valid => !valid
  | process answered closeConnection => !answered || closeConnection

/-- What `OnSocketReadable` does with a frame: whether the connection ends, and the client. An exception ends
the connection. -/
def receive (client : Client) : Frame → Bool × Client
  | .failed => (true, client)
  | .empty => (true, client)
  | .ping sent => (!sent, client)
  | .pong => (false, client)
  | .close => (true, client)
  | .text authorized sent command =>
    -- the answers to an authentication and to a command are what the event carries
    if client.authenticated then (command.ends, client)
    -- authenticated also when the welcome cannot be sent
    else if authorized then (!sent, { client with authenticated := true })
    else (true, client)
  | .other => (false, client)

namespace Server

/-- `OnSocketReadable` -/
def onSocketReadable (s : Server) (socket : Socket) (frame : Frame) : Server :=
  match s.clients socket with
  | none => s
  | some client =>
    let received := receive client frame
    if received.1 then s.endConnection socket received.2
    else { s with clients := assign s.clients socket (some received.2) }

/-- `OnSocketError`, and `OnSocketShutdown` -/
def onSocketError (s : Server) (socket : Socket) : Server :=
  match s.clients socket with
  | none => s
  | some client => s.endConnection socket client

end Server

/-- A reference is to an entry of the map. -/
def Current (clients : Socket → Option Client) (r : Reference) : Prop :=
  ∃ client, clients r.socket = some client ∧ client.entry = r.entry

/-- Erase what some references refer to. There is no result where one of them is stale. -/
def eraseAll (clients : Socket → Option Client) : List Reference → Option (Socket → Option Client)
  | [] => some clients
  | i :: references =>
    if (clients i.socket).map Client.entry = some i.entry then
      eraseAll (assign clients i.socket none) references
    else none

namespace Server

/-- A pass of the cleaner, in `run`. -/
def clean (s : Server) : Option Server :=
  (eraseAll s.clients s.toBeRemoved).map fun clients => { s with clients, toBeRemoved := [] }

/-- `Stop` -/
def stop (s : Server) : Server :=
  -- what is queued stays queued
  if s.running then { s with clients := fun _ => none, running := false } else s

/-- What an event does. -/
def step (s : Server) : Event → Option Server
  | .newClient socket => some (s.newClient socket)
  | .readable socket frame => some (s.onSocketReadable socket frame)
  | .shutdown socket => some (s.onSocketError socket)
  | .error socket => some (s.onSocketError socket)
  | .clean => s.clean
  | .stop => some s.stop

/-- The references are distinct, and each of them is to an entry of the map. -/
structure Valid (s : Server) : Prop where
  distinct : s.toBeRemoved.Nodup
  current : ∀ r ∈ s.toBeRemoved, Current s.clients r

/-- A pass of the cleaner leaves the connections which have not ended, and no others. -/
def CleansEnded (s : Server) : Prop :=
  ∃ s', s.step .clean = some s' ∧ ∀ socket, s'.clients socket = (s.clients socket).filter Client.socketRegistered

/-- The condition on a step: no connection ends which has ended and is still in the map, no client takes the
entry of such a connection, and the server does not stop while references are queued. -/
def Keeps (s : Server) : Event → Prop
  | .newClient socket => ∀ client, s.clients socket = some client → client.socketRegistered = true
  | .readable socket frame => ∀ client, s.clients socket = some client → (receive client frame).1 = true →
      client.socketRegistered = true
  | .shutdown socket => ∀ client, s.clients socket = some client → client.socketRegistered = true
  | .error socket => ∀ client, s.clients socket = some client → client.socketRegistered = true
  | .clean => True
  | .stop => s.running = true → s.toBeRemoved = []

end Server

/-! ## The queue of the references -/

section Queue

variable {clients : Socket → Option Client} {socket : Socket} {client old : Client} {r : Reference} {s : Server}

lemma assign_same : assign clients socket (some client) socket = some client := if_pos rfl

lemma assign_of_ne {other : Socket} {value : Option Client} (ne : other ≠ socket) :
    assign clients socket value other = clients other := if_neg ne

/-- A reference is to the entry of a connection which has ended. -/
def Ended (clients : Socket → Option Client) (r : Reference) : Prop :=
  ∃ client, clients r.socket = some client ∧ client.entry = r.entry ∧ client.socketRegistered = false

/-- What is queued is what has ended, once each. -/
structure Accurate (s : Server) : Prop where
  distinct : s.toBeRemoved.Nodup
  mem_iff : ∀ r, r ∈ s.toBeRemoved ↔ Ended s.clients r

lemma ended_iff (here : clients r.socket = some client) :
    Ended clients r ↔ client.entry = r.entry ∧ client.socketRegistered = false := by
  refine ⟨?_, ?_⟩
  · rintro ⟨found, eq, ended⟩
    cases here.symm.trans eq
    exact ended
  · intro ended
    exact ⟨client, here, ended⟩

lemma ended_assign_of_ne {value : Option Client} (ne : r.socket ≠ socket) :
    Ended (assign clients socket value) r ↔ Ended clients r := by
  rw [Ended, Ended, assign_of_ne ne]

lemma Ended.current (ended : Ended clients r) : Current clients r := by
  obtain ⟨client, here, entry, -⟩ := ended
  exact ⟨client, here, entry⟩

/-- Two references to entries at one socket are the same. -/
lemma Current.unique {r' : Reference} (current : Current clients r) (current' : Current clients r')
    (same : r.socket = r'.socket) : r = r' := by
  obtain ⟨client, here, entry⟩ := current
  obtain ⟨client', here', entry'⟩ := current'
  rw [same] at here
  cases here.symm.trans here'
  cases r
  cases r'
  cases same
  cases entry.symm.trans entry'
  rfl

/-- Distinct references to entries are all erased. -/
lemma eraseAll_eq {references : List Reference} (distinct : references.Nodup)
    (current : ∀ r ∈ references, Current clients r) :
    ∃ left, eraseAll clients references = some left ∧
      (∀ r ∈ references, left r.socket = none) ∧
      ∀ socket, (∀ r ∈ references, r.socket ≠ socket) → left socket = clients socket := by
  induction references generalizing clients with
  | nil =>
    refine ⟨clients, rfl, ?_, fun socket _ => rfl⟩
    intro r mem
    cases mem
  | cons i references ih =>
    obtain ⟨new, distinct⟩ := List.nodup_cons.mp distinct
    have here := current i List.mem_cons_self
    have apart : ∀ r ∈ references, r.socket ≠ i.socket := by
      intro r mem same
      rw [(current r (List.mem_cons_of_mem _ mem)).unique here same] at mem
      exact new mem
    have rest : ∀ r ∈ references, Current (assign clients i.socket none) r := by
      intro r mem
      rw [Current, assign_of_ne (apart r mem)]
      exact current r (List.mem_cons_of_mem _ mem)
    obtain ⟨left, eq, erased, kept⟩ := ih distinct rest
    have found : (clients i.socket).map Client.entry = some i.entry := by
      obtain ⟨client, found, entry⟩ := here
      rw [found, Option.map_some, entry]
    refine ⟨left, ?_, ?_, ?_⟩
    · rw [eraseAll, if_pos found]
      exact eq
    · intro r mem
      rcases List.mem_cons.mp mem with first | later
      · rw [first, kept i.socket apart]
        exact if_pos rfl
      · exact erased r later
    · intro socket others
      rw [kept socket fun r mem => others r (List.mem_cons_of_mem _ mem)]
      exact assign_of_ne (others i List.mem_cons_self).symm

/-- A pass over a valid queue. -/
lemma Server.Valid.clean (valid : s.Valid) :
    ∃ left, s.step .clean = some { s with clients := left, toBeRemoved := [] } ∧
      (∀ r ∈ s.toBeRemoved, left r.socket = none) ∧
      ∀ socket, (∀ r ∈ s.toBeRemoved, r.socket ≠ socket) → left socket = s.clients socket := by
  obtain ⟨left, eq, erased, kept⟩ := eraseAll_eq valid.distinct valid.current
  refine ⟨left, ?_, erased, kept⟩
  rw [Server.step, Server.clean, eq]
  rfl

/-- Nothing which is queued is at the socket of an entry which is not. -/
lemma Server.Valid.apart (valid : s.Valid) (current : Current s.clients r) (absent : r ∉ s.toBeRemoved) :
    ∀ r' ∈ s.toBeRemoved, r'.socket ≠ r.socket := by
  intro r' mem same
  rw [(valid.current r' mem).unique current same] at mem
  exact absent mem

/-- When a pass erases exactly what has ended, then that is what is queued. -/
lemma Server.Valid.accurate (valid : s.Valid) (cleans : s.CleansEnded) : Accurate s := by
  obtain ⟨s', eq, cleaned⟩ := cleans
  obtain ⟨left, eq', erased, kept⟩ := valid.clean
  cases eq.symm.trans eq'
  refine ⟨valid.distinct, fun r => ?_⟩
  refine ⟨?_, ?_⟩
  · intro mem
    obtain ⟨client, here, entry⟩ := valid.current r mem
    have gone := (erased r mem).symm.trans (cleaned r.socket)
    rw [here, Option.filter_some] at gone
    refine ⟨client, here, entry, ?_⟩
    by_contra registered
    rw [if_pos (Bool.not_eq_false _ ▸ registered)] at gone
    cases gone
  · intro ended
    by_contra absent
    have stays := (kept r.socket (valid.apart ended.current absent)).symm.trans (cleaned r.socket)
    obtain ⟨client, here, -, off⟩ := ended
    rw [here, Option.filter_some, off, if_neg Bool.false_ne_true] at stays
    cases stays

lemma Accurate.valid (accurate : Accurate s) : s.Valid :=
  ⟨accurate.distinct, fun r mem => ((accurate.mem_iff r).mp mem).current⟩

/-- A pass over an accurate queue, by what is at each socket. -/
lemma Accurate.cleansEnded (accurate : Accurate s) : s.CleansEnded := by
  obtain ⟨left, eq, erased, kept⟩ := accurate.valid.clean
  refine ⟨_, eq, fun socket => ?_⟩
  cases here : s.clients socket with
  | none =>
    have others : ∀ r ∈ s.toBeRemoved, r.socket ≠ socket := by
      intro r mem same
      obtain ⟨client, found, -⟩ := accurate.valid.current r mem
      rw [same, here] at found
      cases found
    exact (kept socket others).trans here
  | some client =>
    have current : Current s.clients ⟨socket, client.entry⟩ := ⟨client, here, rfl⟩
    have queued : ⟨socket, client.entry⟩ ∈ s.toBeRemoved ↔ client.socketRegistered = false := by
      rw [accurate.mem_iff, ended_iff here, and_iff_right rfl]
    rw [Option.filter_some]
    cases off : client.socketRegistered with
    | false =>
      rw [if_neg Bool.false_ne_true]
      exact erased _ (queued.mpr off)
    | true =>
      have absent : ⟨socket, client.entry⟩ ∉ s.toBeRemoved := by
        rw [queued, off]
        exact Bool.noConfusion
      rw [if_pos rfl]
      exact (kept socket (accurate.valid.apart current absent)).trans here

/-- A queue is valid, and a pass erases exactly what has ended, when the queue is accurate, and only then. -/
lemma accurate_iff : s.Valid ∧ s.CleansEnded ↔ Accurate s := by
  refine ⟨?_, ?_⟩
  · intro ⟨valid, cleans⟩
    exact valid.accurate cleans
  · intro accurate
    exact ⟨accurate.valid, accurate.cleansEnded⟩

/-! ## Steps -/

/-- A client in the place of one of the same entry, which has ended or not as before. -/
lemma Accurate.replace (accurate : Accurate s) (here : s.clients socket = some old)
    (entry : client.entry = old.entry) (registered : client.socketRegistered = old.socketRegistered) :
    Accurate { s with clients := assign s.clients socket (some client) } := by
  refine ⟨accurate.distinct, fun r => (accurate.mem_iff r).trans ?_⟩
  by_cases same : r.socket = socket
  · rw [← same] at here
    rw [ended_iff here, ← same, ended_iff assign_same, entry, registered]
  · exact (ended_assign_of_ne same).symm

/-- A new client must not take the entry of a connection which has ended. -/
lemma Accurate.newClient_iff (accurate : Accurate s) (socket : Socket) :
    Accurate (s.newClient socket) ↔ ∀ client, s.clients socket = some client → client.socketRegistered = true := by
  refine ⟨?_, ?_⟩
  · intro after client here
    by_contra off
    have off : client.socketRegistered = false := Bool.not_eq_true _ ▸ off
    have queued : ⟨socket, client.entry⟩ ∈ s.toBeRemoved := (accurate.mem_iff _).mpr ⟨client, here, rfl, off⟩
    obtain ⟨new, eq, -, ended⟩ := (after.mem_iff ⟨socket, client.entry⟩).mp queued
    cases assign_same.symm.trans eq
    cases ended
  · intro registered
    refine ⟨accurate.distinct, fun r => (accurate.mem_iff r).trans ?_⟩
    by_cases same : r.socket = socket
    · refine iff_of_false ?_ ?_
      · rintro ⟨client, here, -, off⟩
        rw [same] at here
        rw [registered client here] at off
        cases off
      · rintro ⟨new, eq, -, ended⟩
        rw [same] at eq
        cases assign_same.symm.trans eq
        cases ended
    · exact (ended_assign_of_ne same).symm

/-- A connection must not end twice. -/
lemma Accurate.endConnection_iff (accurate : Accurate s) (here : s.clients socket = some old)
    (entry : client.entry = old.entry) (registered : client.socketRegistered = old.socketRegistered) :
    Accurate (s.endConnection socket client) ↔ old.socketRegistered = true := by
  -- the flag is off afterwards, whatever it was
  have off : (if client.socketRegistered then { client with socketRegistered := false } else client) =
      { client with socketRegistered := false } := by
    cases client with
    | mk entry authenticated socketRegistered => cases socketRegistered <;> rfl
  rw [Server.endConnection, off]
  cases before : old.socketRegistered with
  | false =>
    refine iff_of_false (fun after => ?_) Bool.false_ne_true
    have queued : ⟨socket, client.entry⟩ ∈ s.toBeRemoved :=
      (accurate.mem_iff _).mpr ⟨old, here, entry.symm, before⟩
    exact List.disjoint_of_nodup_append after.distinct queued (List.mem_singleton_self _)
  | true =>
    have still (r : Reference) (same : r.socket = socket) : ¬ Ended s.clients r := by
      rintro ⟨found, eq, -, ended⟩
      rw [same, here] at eq
      cases eq
      rw [before] at ended
      cases ended
    refine iff_of_true ⟨?_, fun r => ?_⟩ rfl
    · rw [← List.concat_eq_append]
      exact accurate.distinct.concat fun mem => still _ rfl ((accurate.mem_iff _).mp mem)
    · rw [List.mem_append, List.mem_singleton, accurate.mem_iff]
      by_cases same : r.socket = socket
      · rw [or_iff_right (still r same), ← same, ended_iff assign_same]
        refine ⟨?_, ?_⟩
        · intro eq
          rw [eq]
          exact ⟨rfl, rfl⟩
        · rintro ⟨entry, -⟩
          cases r
          cases same
          cases entry
          rfl
      · rw [ended_assign_of_ne same, or_iff_left]
        intro eq
        rw [eq] at same
        exact same rfl

/-- An error or a shutdown must not end a connection which has ended. -/
lemma Accurate.onSocketError_iff (accurate : Accurate s) (socket : Socket) :
    Accurate (s.onSocketError socket) ↔
      ∀ client, s.clients socket = some client → client.socketRegistered = true := by
  rw [Server.onSocketError]
  cases here : s.clients socket with
  | none =>
    refine iff_of_true accurate fun client eq => ?_
    cases eq
  | some old =>
    refine (accurate.endConnection_iff here rfl rfl).trans ?_
    refine ⟨?_, ?_⟩
    · intro registered client eq
      cases eq
      exact registered
    · intro registered
      exact registered old rfl

/-- A frame leaves the entry of a client, and whether its connection has ended, as they are. -/
lemma receive_same (client : Client) (frame : Frame) :
    (receive client frame).2.entry = client.entry ∧
      (receive client frame).2.socketRegistered = client.socketRegistered := by
  cases frame with
  | text authorized sent command =>
    rw [receive]
    split
    · exact ⟨rfl, rfl⟩
    · split <;> exact ⟨rfl, rfl⟩
  | _ => exact ⟨rfl, rfl⟩

/-- Nor must a frame. -/
lemma Accurate.onSocketReadable_iff (accurate : Accurate s) (socket : Socket) (frame : Frame) :
    Accurate (s.onSocketReadable socket frame) ↔
      ∀ client, s.clients socket = some client → (receive client frame).1 = true →
        client.socketRegistered = true := by
  rw [Server.onSocketReadable]
  cases here : s.clients socket with
  | none =>
    refine iff_of_true accurate fun client eq => ?_
    cases eq
  | some old =>
    obtain ⟨entry, registered⟩ := receive_same old frame
    dsimp only
    by_cases ends : (receive old frame).1 = true
    · rw [if_pos ends]
      refine (accurate.endConnection_iff here entry registered).trans ?_
      refine ⟨?_, ?_⟩
      · intro registered client eq _
        cases eq
        exact registered
      · intro registered
        exact registered old rfl ends
    · rw [if_neg ends]
      refine iff_of_true (accurate.replace here entry registered) fun client eq ends' => ?_
      cases eq
      exact absurd ends' ends

/-- Nothing may be queued when the server stops. -/
lemma Accurate.stop_iff (accurate : Accurate s) :
    Accurate s.stop ↔ (s.running = true → s.toBeRemoved = []) := by
  rw [Server.stop]
  by_cases running : s.running
  · rw [if_pos running, imp_iff_right running]
    refine ⟨?_, ?_⟩
    · intro after
      rw [List.eq_nil_iff_forall_not_mem]
      intro r mem
      obtain ⟨client, eq, -⟩ := (after.mem_iff r).mp mem
      cases eq
    · intro none
      refine ⟨accurate.distinct, fun r => ?_⟩
      show r ∈ s.toBeRemoved ↔ _
      rw [none]
      refine iff_of_false List.not_mem_nil ?_
      rintro ⟨client, eq, -⟩
      cases eq
  · rw [if_neg running]
    exact iff_of_true accurate fun run => absurd run running

/-- A pass of the cleaner leaves nothing queued, and nothing which has ended. -/
lemma Accurate.clean (accurate : Accurate s) : ∃ s', s.step .clean = some s' ∧ Accurate s' := by
  obtain ⟨valid, s', eq, cleaned⟩ := accurate_iff.mpr accurate
  obtain ⟨left, eq', -⟩ := valid.clean
  cases eq.symm.trans eq'
  refine ⟨_, eq, List.nodup_nil, fun r => iff_of_false List.not_mem_nil ?_⟩
  rintro ⟨client, here, -, off⟩
  rw [cleaned] at here
  obtain ⟨-, registered⟩ := Option.filter_eq_some_iff.mp here
  rw [off] at registered
  cases registered

/-- A step leaves the queue accurate if and only if it meets the condition. -/
lemma Accurate.step_iff (s : Server) (e : Event) (accurate : Accurate s) :
    (∃ s', s.step e = some s' ∧ Accurate s') ↔ s.Keeps e := by
  have total {after : Server} : (∃ s', some after = some s' ∧ Accurate s') ↔ Accurate after := by
    refine ⟨?_, ?_⟩
    · rintro ⟨s', eq, accurate⟩
      cases eq
      exact accurate
    · intro accurate
      exact ⟨_, rfl, accurate⟩
  cases e with
  | newClient socket => exact total.trans (accurate.newClient_iff socket)
  | readable socket frame => exact total.trans (accurate.onSocketReadable_iff socket frame)
  | shutdown socket => exact total.trans (accurate.onSocketError_iff socket)
  | error socket => exact total.trans (accurate.onSocketError_iff socket)
  | clean => exact iff_of_true accurate.clean trivial
  | stop => exact total.trans accurate.stop_iff

lemma accurate_started : Accurate .started := by
  refine ⟨List.nodup_nil, fun r => iff_of_false List.not_mem_nil ?_⟩
  rintro ⟨client, eq, -⟩
  cases eq

end Queue

/-- In every state of a run the references are distinct and to entries of the map, and a pass of the cleaner
erases exactly the connections which have ended, if and only if each step of the run meets the condition: no
connection ends which has ended already, no client takes the entry of such a connection, and the server does
not stop while something is queued. -/
theorem removals_valid_iff (events : List Event) :
    StaysGood Server.step .started (fun s => s.Valid ∧ s.CleansEnded) events ↔
      MeetsCondition Server.step .started Server.Keeps events := by
  apply run_good_iff
  · exact accurate_iff.mpr accurate_started
  · intro s e good
    simp only [accurate_iff] at *
    exact good.step_iff s e

/-- A client which has disconnected is still queued when the server stops. -/
theorem removals_stale :
    ¬ StaysGood Server.step .started (fun s => s.Valid ∧ s.CleansEnded)
      [.newClient 5, .shutdown 5, .stop] := by
  intro stays
  obtain ⟨s, eq, valid, -⟩ := stays _ List.prefix_rfl
  have stale : ∃ r ∈ s.toBeRemoved, s.clients r.socket = none := by
    cases eq
    exact ⟨⟨5, 0⟩, List.mem_cons_self, rfl⟩
  obtain ⟨r, mem, gone⟩ := stale
  obtain ⟨client, found, -⟩ := valid.current r mem
  rw [gone] at found
  cases found

end UserPortal.WebSocketClients
