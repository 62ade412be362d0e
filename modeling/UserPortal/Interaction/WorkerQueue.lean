import Mathlib.Logic.Relation
import Mathlib.Tactic.Common

/-!
# A worker behind a queue

A thread takes messages from a queue and handles them while a flag is set. `Stop` clears the flag, wakes up
those who wait for the queue, and joins the thread. Whoever posts while the thread waits hands the message
over; a waiting thread which is woken up gets none.

* `Reachable.posted_eq`: what was posted is what was handled, what the thread has dropped or holds, and what is
  still in the queue, in this order.
* `stops_iff`: the thread gets to its end by itself exactly when it `WillStop`; `willStop_wakeUpAll` says where
  `wakeUpAll` must find it. A thread which finds its queue empty afterwards waits for ever.
-/

namespace UserPortal.Interaction

variable {M R : Type}

/-- Where the thread is. -/
inductive Worker (M : Type) where
  | starting
  | taking
  | waiting
  | checking (note : Option M)
  | stopped
  deriving DecidableEq

namespace Worker

/-- The message which the thread holds. -/
def held : Worker M → List M
  | checking note => note.toList
  | _ => []

end Worker

/-- Where `Stop` is. -/
inductive Stopper where
  | idle
  | lowered
  | joining
  | returned
  deriving DecidableEq

/-- The queue, its thread, and what became of the messages. -/
structure WorkerQueue (M R : Type) where
  posted : List M
  queue : List M
  worker : Worker M
  running : Bool
  stopper : Stopper
  handled : List (M × R)
  dropped : List M

namespace WorkerQueue

/-- The thread was started. -/
def init : WorkerQueue M R where
  posted := []
  queue := []
  worker := .starting
  running := true
  stopper := .idle
  handled := []
  dropped := []

/-- A message is posted. -/
def post (s : WorkerQueue M R) (m : M) : WorkerQueue M R :=
  match s.worker with
  | .waiting => { s with posted := s.posted ++ [m], worker := .checking (some m) }
  | _ => { s with posted := s.posted ++ [m], queue := s.queue ++ [m] }

/-- Those who wait are woken up. -/
def wakeUpAll (s : WorkerQueue M R) : WorkerQueue M R :=
  match s.worker with
  | .waiting => { s with stopper := .joining, worker := .checking none }
  | _ => { s with stopper := .joining }

/-- What the thread does. Its first step may set the flag. -/
inductive WorkerStep (raises : Bool) : WorkerQueue M R → WorkerQueue M R → Prop where
  | begin {s : WorkerQueue M R} :
    s.worker = .starting →
    WorkerStep raises s { s with worker := .taking, running := raises || s.running }
  | take {s : WorkerQueue M R} (m : M) (rest : List M) :
    s.worker = .taking →
    s.queue = m :: rest →
    WorkerStep raises s { s with worker := .checking (some m), queue := rest }
  | wait {s : WorkerQueue M R} :
    s.worker = .taking →
    s.queue = [] →
    WorkerStep raises s { s with worker := .waiting }
  | handle {s : WorkerQueue M R} (m : M) (r : R) :
    s.worker = .checking (some m) →
    s.running = true →
    WorkerStep raises s { s with worker := .taking, handled := s.handled ++ [(m, r)] }
  | exit {s : WorkerQueue M R} (note : Option M) :
    s.worker = .checking note →
    note = none ∨ s.running = false →
    WorkerStep raises s { s with worker := .stopped, dropped := note.toList }

/-- What any thread does. -/
inductive Step (raises : Bool) : WorkerQueue M R → WorkerQueue M R → Prop where
  | worker {s s' : WorkerQueue M R} :
    WorkerStep raises s s' →
    Step raises s s'
  | post {s : WorkerQueue M R} (m : M) :
    Step raises s (s.post m)
  | lower {s : WorkerQueue M R} :
    s.stopper = .idle →
    Step raises s { s with running := false, stopper := .lowered }
  | wakeUp {s : WorkerQueue M R} :
    s.stopper = .lowered →
    Step raises s s.wakeUpAll
  | join {s : WorkerQueue M R} :
    s.stopper = .joining →
    s.worker = .stopped →
    Step raises s { s with stopper := .returned }

/-- The states which the queue can be in. -/
def Reachable (raises : Bool) : WorkerQueue M R → Prop := Relation.ReflTransGen (Step raises) init

variable {raises : Bool} {s s' : WorkerQueue M R} {m : M}

/-- A post adds its message. -/
lemma posted_post : (s.post m).posted = s.posted ++ [m] := by
  rw [post]
  split <;> rfl

/-- Waking up adds none. -/
lemma posted_wakeUpAll : s.wakeUpAll.posted = s.posted := by
  rw [wakeUpAll]
  split <;> rfl

/-- Nor does the worker. -/
lemma posted_workerStep (step : WorkerStep raises s s') : s'.posted = s.posted := by
  cases step with
  | _ => rfl

/-! ## What becomes of the messages -/

/-- What holds of the messages and of the flag. -/
structure Sound (s : WorkerQueue M R) : Prop where
  posted_eq : s.posted = s.handled.map Prod.fst ++ s.dropped ++ s.worker.held ++ s.queue
  dropped : s.worker ≠ .stopped → s.dropped = []
  waiting : s.worker = .waiting → s.queue = []
  /-- until `Stop` is called, the flag is set and the thread does not end -/
  idle : s.stopper = .idle → s.running = true ∧ s.worker ≠ .stopped
  /-- only `Stop` wakes up the thread without a message -/
  woken : s.worker = .checking none → s.stopper ≠ .idle ∧ s.stopper ≠ .lowered

/-- The queue is sound at first. -/
lemma sound_init : Sound (init : WorkerQueue M R) where
  posted_eq := rfl
  dropped _ := rfl
  waiting := nofun
  idle _ := ⟨rfl, nofun⟩
  woken := nofun

/-- A post keeps it so. -/
lemma Sound.post (h : Sound s) : Sound (s.post m) := by
  have posted_eq := h.posted_eq
  rw [WorkerQueue.post]
  split
  case h_1 waiting =>
    have dropped : s.dropped = [] := h.dropped (by rw [waiting]; exact nofun)
    rw [waiting, h.waiting waiting, dropped] at posted_eq
    refine ⟨?_, fun _ => dropped, nofun, fun idle => ⟨(h.idle idle).1, nofun⟩, nofun⟩
    rw [posted_eq, h.waiting waiting, dropped]
    simp [Worker.held]
  case h_2 other =>
    refine ⟨?_, h.dropped, fun waiting => absurd waiting other, h.idle, h.woken⟩
    rw [posted_eq, List.append_assoc]

/-- So does waking up. -/
lemma Sound.wakeUpAll (h : Sound s) : Sound s.wakeUpAll := by
  have posted_eq := h.posted_eq
  rw [WorkerQueue.wakeUpAll]
  split
  case h_1 waiting =>
    rw [waiting] at posted_eq
    exact ⟨posted_eq, fun _ => h.dropped (by rw [waiting]; exact nofun), nofun, nofun, fun _ => ⟨nofun, nofun⟩⟩
  case h_2 => exact ⟨posted_eq, h.dropped, h.waiting, nofun, fun _ => ⟨nofun, nofun⟩⟩

/-- So does the worker. -/
lemma Sound.workerStep (h : Sound s) (step : WorkerStep raises s s') : Sound s' := by
  have posted_eq := h.posted_eq
  cases step with
  | begin starting =>
    rw [starting] at posted_eq
    refine ⟨posted_eq, fun _ => h.dropped (by rw [starting]; exact nofun), nofun, fun idle => ⟨?_, nofun⟩, nofun⟩
    show (raises || s.running) = true
    rw [(h.idle idle).1, Bool.or_true]
  | take m rest taking queue =>
    have dropped : s.dropped = [] := h.dropped (by rw [taking]; exact nofun)
    rw [taking, queue] at posted_eq
    refine ⟨?_, fun _ => dropped, nofun, fun idle => ⟨(h.idle idle).1, nofun⟩, nofun⟩
    rw [posted_eq]
    simp [Worker.held]
  | wait taking queue =>
    rw [taking] at posted_eq
    have dropped : s.dropped = [] := h.dropped (by rw [taking]; exact nofun)
    exact ⟨posted_eq, fun _ => dropped, fun _ => queue, fun idle => ⟨(h.idle idle).1, nofun⟩, nofun⟩
  | handle m r checking running =>
    have dropped : s.dropped = [] := h.dropped (by rw [checking]; exact nofun)
    rw [checking, dropped] at posted_eq
    refine ⟨?_, fun _ => dropped, nofun, fun idle => ⟨running, nofun⟩, nofun⟩
    rw [posted_eq, dropped]
    simp [Worker.held]
  | exit note checking ended =>
    have dropped : s.dropped = [] := h.dropped (by rw [checking]; exact nofun)
    rw [checking, dropped] at posted_eq
    refine ⟨?_, fun running => absurd rfl running, nofun, fun idle => ?_, nofun⟩
    · rw [posted_eq]
      simp [Worker.held]
    · -- before `Stop` there is no reason to end
      rcases ended with rfl | lowered
      · exact absurd idle (h.woken checking).1
      · rw [(h.idle idle).1] at lowered
        cases lowered

/-- So does every step. -/
lemma Sound.step (h : Sound s) (step : Step raises s s') : Sound s' := by
  cases step with
  | worker step => exact h.workerStep step
  | post m => exact h.post
  | lower idle =>
    exact ⟨h.posted_eq, h.dropped, h.waiting, nofun, fun woken => absurd idle (h.woken woken).1⟩
  | wakeUp lowered => exact h.wakeUpAll
  | join joining stopped => exact ⟨h.posted_eq, h.dropped, h.waiting, nofun, fun _ => ⟨nofun, nofun⟩⟩

/-- Every reachable queue is sound. -/
lemma Reachable.sound (reach : Reachable raises s) : Sound s := by
  induction reach with
  | refl => exact sound_init
  | tail _ step ih => exact ih.step step

/-- What was posted is what was handled, what was dropped or is held, and what is still in the queue. -/
lemma Reachable.posted_eq (reach : Reachable raises s) :
    s.posted = s.handled.map Prod.fst ++ s.dropped ++ s.worker.held ++ s.queue := reach.sound.posted_eq

/-- Until `Stop` is called, nothing is lost. -/
lemma Reachable.posted_eq_of_idle (reach : Reachable raises s) (idle : s.stopper = .idle) :
    s.posted = s.handled.map Prod.fst ++ s.worker.held ++ s.queue := by
  have sound := reach.sound
  have posted_eq := sound.posted_eq
  rw [sound.dropped (sound.idle idle).2, List.append_nil] at posted_eq
  exact posted_eq

/-- Messages are handled in the order in which they were posted. -/
lemma Reachable.handled_prefix (reach : Reachable raises s) : s.handled.map Prod.fst <+: s.posted := by
  rw [reach.posted_eq, List.append_assoc, List.append_assoc]
  exact List.prefix_append ..

/-- The thread gets to its end by itself. -/
def Ends (raises : Bool) (s : WorkerQueue M R) : Prop :=
  ∃ s', Relation.ReflTransGen (WorkerStep raises) s s' ∧ s'.worker = .stopped

/-- The thread is at its end, or it finds a message or nothing to go on with, and the flag cleared. -/
def WillStop (raises : Bool) (s : WorkerQueue M R) : Prop :=
  match s.worker with
  | .stopped => True
  | .checking none => True
  | .checking (some _) => s.running = false
  | .taking => s.running = false ∧ s.queue ≠ []
  | .starting => raises = false ∧ s.running = false ∧ s.queue ≠ []
  | .waiting => False

/-- A thread which will stop after a step would do so before. -/
lemma WillStop.before (step : WorkerStep raises s s') (h : WillStop raises s') : WillStop raises s := by
  cases step with
  | begin starting =>
    rw [WillStop, starting]
    obtain ⟨running, queue⟩ : (raises || s.running) = false ∧ s.queue ≠ [] := h
    obtain ⟨quiet, running⟩ := Bool.or_eq_false_iff.mp running
    exact ⟨quiet, running, queue⟩
  | take m rest taking queue =>
    rw [WillStop, taking]
    exact ⟨h, by rw [queue]; exact nofun⟩
  | wait taking queue => exact h.elim
  | handle m r checking running =>
    obtain ⟨lowered, _⟩ : s.running = false ∧ s.queue ≠ [] := h
    rw [running] at lowered
    cases lowered
  | exit note checking ended =>
    rw [WillStop, checking]
    cases note with
    | none => exact trivial
    | some m =>
      rcases ended with ended | lowered
      · cases ended
      · exact lowered

/-- Whoever holds something to end with ends. -/
lemma ends_of_checking {note : Option M} (checking : s.worker = .checking note)
    (ended : note = none ∨ s.running = false) : Ends raises s :=
  ⟨_, .single (.exit note checking ended), rfl⟩

/-- What ends after a step of the worker ends before it. -/
lemma Ends.head (step : WorkerStep raises s s') (h : Ends raises s') : Ends raises s := by
  obtain ⟨s'', path, stopped⟩ := h
  exact ⟨s'', .head step path, stopped⟩

/-- A worker which is told to end before it takes a message ends. -/
lemma ends_of_taking (taking : s.worker = .taking) (running : s.running = false) (queue : s.queue ≠ []) :
    Ends raises s := by
  obtain ⟨m, rest, eq⟩ := List.exists_cons_of_ne_nil queue
  refine .head (.take m rest taking eq) ?_
  apply ends_of_checking
  · rfl
  · exact .inr running

/-- Where `wakeUpAll` of `Stop` must find the thread for it to get to its end. -/
lemma willStop_wakeUpAll (sound : Sound s) (lowered : s.stopper = .lowered) :
    WillStop raises s.wakeUpAll ↔ s.worker = .waiting ∨ s.worker = .stopped ∨ s.running = false ∧
      (s.worker.held ≠ [] ∨ s.queue ≠ [] ∧ (s.worker = .taking ∨ raises = false ∧ s.worker = .starting)) := by
  rw [wakeUpAll, WillStop]
  cases eq : s.worker with
  | starting =>
    simp only [Worker.held]
    tauto
  | taking =>
    simp only [Worker.held]
    tauto
  | waiting =>
    simp only
    tauto
  | checking note =>
    cases note with
    | none => exact absurd lowered (sound.woken eq).2
    | some m =>
      simp only [Worker.held, Option.toList_some]
      tauto
  | stopped =>
    simp only
    tauto

/-- The thread gets to its end by itself exactly when it will stop. -/
lemma stops_iff : Ends raises s ↔ WillStop raises s := by
  refine ⟨?_, ?_⟩
  · intro h
    obtain ⟨s', path, stopped⟩ := h
    induction path using Relation.ReflTransGen.head_induction_on with
    | refl =>
      rw [WillStop, stopped]
      exact trivial
    | head step _ ih => exact ih.before step
  · intro h
    rw [WillStop] at h
    split at h
    case h_1 stopped => exact ⟨s, .refl, stopped⟩
    case h_2 checking => exact ends_of_checking checking (.inl rfl)
    case h_3 checking => exact ends_of_checking checking (.inr h)
    case h_4 taking => exact ends_of_taking taking h.1 h.2
    case h_5 starting =>
      obtain ⟨quiet, running, queue⟩ := h
      refine .head (.begin starting) ?_
      apply ends_of_taking
      · rfl
      · show (raises || s.running) = false
        rw [quiet, running]
        rfl
      · exact queue
    case h_6 => exact h.elim

end WorkerQueue

end UserPortal.Interaction
