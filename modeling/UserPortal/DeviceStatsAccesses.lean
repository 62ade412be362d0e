import UserPortal.DeviceStats

/-!
# The accesses of the statistics of a device

What `AddValue` of `src/StatsSvr.h` does to the memory of the object, one access after the other: elements of
the arrays are stored, the bases are stored, and the bytes of an array are shifted. `memory_run`: nothing else
happens to the memory.

An element is always stored inside of its array. A shift never reads inside of its array only: it begins at
the second element, and it is one byte short of a whole array.
-/

namespace UserPortal.DeviceStats
open Data

/-- An access of `AddValue`. Offsets and lengths of a shift count bytes of the array. -/
inductive Access where
  | element (array index : Nat) (value : Memory → UInt64)
  | base (member : Nat) (value : UInt64)
  | shift (array dst src length : Nat)

namespace Access

/-- What an access does. -/
def perform (memory : Memory) : Access → Memory
  | element array index value => memory.writeWord (array + 8 * index) (value memory)
  | base member value => memory.writeWord member value
  | shift array dst src length => memory.memmove (array + dst) (array + src) length

/-- An access to an array stays inside of it, whose size is that of its elements. -/
def Inside : Access → Prop
  | element _ index _ => index < bufferSize
  | base _ _ => True
  | shift _ dst src length => src + length ≤ 8 * bufferSize ∧ dst + length ≤ 8 * bufferSize

/-- An access shifts an array. -/
def IsShift : Access → Prop
  | shift .. => True
  | _ => False

end Access

open Access

/-- The accesses of `record`. -/
def recorded (array index baseMember : Nat) (value : UInt32) : List Access :=
  [element array index fun memory => value.toUInt64 - memory.readWord baseMember,
    base baseMember value.toUInt64]

/-- `memmove(&array[0], &array[1], sizeof(array[1]) * buffer_size - 1)` -/
def shifted (array : Nat) : Access := shift array 0 8 (8 * bufferSize - 1)

/-- The accesses of a call of `AddValue`. -/
def accesses (s : DeviceStats) (c : Call) : List Access :=
  if s.noBase then
    [base baseIntRx c.intRx.toUInt64, base baseIntTx c.intTx.toUInt64, base baseExtRx c.extRx.toUInt64,
      base baseExtTx c.extTx.toUInt64]
  else
    [element timestamps s.index fun _ => c.ts] ++ recorded intTxs s.index baseIntTx c.intTx ++
      recorded intRxs s.index baseIntRx c.intRx ++ recorded extTxs s.index baseExtTx c.extTx ++
      recorded extRxs s.index baseExtRx c.extRx ++
      if s.index + 1 = bufferSize then
        [shifted timestamps, shifted extTxs, shifted extRxs, shifted intTxs, shifted intRxs]
      else []

/-- The accesses of some calls, one after the other. -/
def performed (s : DeviceStats) : List Call → List Access
  | [] => []
  | c :: calls => s.accesses c ++ performed (s.addValue c) calls

variable {memory : Memory} {s : DeviceStats} {c : Call} {calls past : List Call} {a : Access}

/-- The accesses of a call are what happens to the memory. -/
lemma memory_addValue (s : DeviceStats) (c : Call) :
    (s.addValue c).memory = (s.accesses c).foldl perform s.memory := by
  rw [addValue, accesses]
  by_cases first : s.noBase
  · rw [if_pos first, if_pos first]
    rfl
  · rw [if_neg first, if_neg first]
    by_cases full : s.index + 1 = bufferSize
    · rw [if_pos full, if_pos full]
      rfl
    · rw [if_neg full, if_neg full]
      rfl

lemma memory_foldl (s : DeviceStats) (calls : List Call) :
    (calls.foldl addValue s).memory = (s.performed calls).foldl perform s.memory := by
  induction calls generalizing s with
  | nil => rfl
  | cons c calls ih => rw [List.foldl_cons, ih, memory_addValue, performed, List.foldl_append]

/-- The accesses of a run are what happens to the memory. -/
lemma memory_run (memory : Memory) (calls : List Call) :
    (run memory calls).memory = ((fresh memory).performed calls).foldl perform (fresh memory).memory :=
  memory_foldl (fresh memory) calls

lemma performed_concat (s : DeviceStats) (calls : List Call) (c : Call) :
    s.performed (calls ++ [c]) = s.performed calls ++ (calls.foldl addValue s).accesses c := by
  induction calls generalizing s with
  | nil => exact List.append_nil _
  | cons first calls ih => rw [List.cons_append, performed, ih, performed, List.append_assoc, List.foldl_cons]

/-- A shift reads past the end of its array. -/
lemma not_inside_shifted (array : Nat) : ¬ (shifted array).Inside := by
  rw [shifted, Inside, bufferSize]
  omega

lemma inside_recorded {array index member : Nat} {value : UInt32} (within : index < bufferSize) :
    ∀ a ∈ recorded array index member value, ¬ a.IsShift ∧ a.Inside := by
  intro a mem
  rcases List.mem_pair.mp mem with rfl | rfl
  · exact ⟨id, within⟩
  · exact ⟨id, trivial⟩

/-- What a call does before the arrays are full stays inside of them. -/
lemma inside_accesses (within : s.index < bufferSize) (mem : a ∈ s.accesses c) :
    (¬ a.IsShift ∧ a.Inside) ∨
      (s.noBase = false ∧ s.index + 1 = bufferSize ∧ a.IsShift ∧ ¬ a.Inside) := by
  rw [accesses] at mem
  by_cases first : s.noBase
  · rw [if_pos first] at mem
    left
    simp only [List.mem_cons, List.not_mem_nil, or_false] at mem
    rcases mem with rfl | rfl | rfl | rfl <;> exact ⟨id, trivial⟩
  · rw [if_neg first] at mem
    simp only [List.mem_append] at mem
    rcases mem with ((((mem | mem) | mem) | mem) | mem) | mem
    · rw [List.mem_singleton.mp mem]
      exact Or.inl ⟨id, within⟩
    · exact Or.inl (inside_recorded within a mem)
    · exact Or.inl (inside_recorded within a mem)
    · exact Or.inl (inside_recorded within a mem)
    · exact Or.inl (inside_recorded within a mem)
    · by_cases full : s.index + 1 = bufferSize
      · rw [if_pos full] at mem
        right
        refine ⟨Bool.not_eq_true _ ▸ first, full, ?_⟩
        simp only [List.mem_cons, List.not_mem_nil, or_false] at mem
        rcases mem with rfl | rfl | rfl | rfl | rfl <;> exact ⟨trivial, not_inside_shifted _⟩
      · rw [if_neg full] at mem
        cases mem

/-- A full array is shifted. -/
lemma shifted_mem_accesses (based : s.noBase = false) (full : s.index + 1 = bufferSize) :
    shifted timestamps ∈ s.accesses c := by
  rw [accesses, based, if_neg Bool.false_ne_true, if_pos full]
  exact List.mem_append_right _ List.mem_cons_self

/-- The index after some calls. -/
lemma index_run (memory : Memory) (calls : List Call) :
    (run memory calls).index = min (calls.length - 1) (bufferSize - 1) ∧
      ((run memory calls).noBase = false ↔ calls ≠ []) := by
  -- the first call sets the bases and leaves the index alone
  rcases List.eq_nil_or_concat calls with none | ⟨past, c, eq⟩
  · rw [none]
    exact ⟨rfl, iff_of_false Bool.true_eq_false_eq_False (fun some => some rfl)⟩
  · rw [eq, List.concat_eq_append]
    have inv : Kept (run memory (past ++ [c])) past c := kept_run past c
    exact ⟨inv.index.trans length_kept,
      iff_of_true inv.noBase (List.append_ne_nil_of_right_ne_nil _ (List.cons_ne_nil _ _))⟩

/-- Every element is stored inside of its array, in every run. -/
lemma inside_of_not_shift (memory : Memory) (calls : List Call) :
    ∀ a ∈ (fresh memory).performed calls, ¬ a.IsShift → a.Inside := by
  induction calls using List.reverseRecOn with
  | nil => intro a mem; cases mem
  | append_singleton past c ih =>
    intro a mem notShift
    rw [performed_concat] at mem
    rcases List.mem_append.mp mem with before | now
    · exact ih a before notShift
    · have within : (run memory past).index < bufferSize := by
        rw [(index_run memory past).1, bufferSize]
        omega
      rcases inside_accesses within now with ⟨-, inside⟩ | ⟨-, -, shift, -⟩
      · exact inside
      · exact absurd shift notShift

/-- Nothing is shifted before the twenty-first call. -/
lemma inside_iff (memory : Memory) (calls : List Call) :
    (∀ a ∈ (fresh memory).performed calls, a.Inside) ↔ calls.length ≤ bufferSize := by
  induction calls using List.reverseRecOn with
  | nil => exact iff_of_true (fun a mem => absurd mem List.not_mem_nil) (Nat.zero_le _)
  | append_singleton past c ih =>
    obtain ⟨index, based⟩ := index_run memory past
    rw [performed_concat, List.length_append, List.length_singleton]
    refine ⟨?_, ?_⟩
    · intro inside
      have fewer : past.length ≤ bufferSize := by
        rw [← ih]
        intro a mem
        exact inside a (List.mem_append_left _ mem)
      by_contra more
      -- the arrays are full, and this call shifts them
      have full : past.length = bufferSize := by omega
      have some : past ≠ [] := by
        intro none
        rw [none] at full
        cases full
      have last : (run memory past).index + 1 = bufferSize := by
        rw [index, full]
        rfl
      have shift : shifted timestamps ∈ (run memory past).accesses c :=
        shifted_mem_accesses (based.mpr some) last
      exact not_inside_shifted _ (inside _ (List.mem_append_right _ shift))
    · intro few a mem
      rcases List.mem_append.mp mem with before | now
      · exact ih.mpr (Nat.le_of_succ_le few) a before
      · have within : (run memory past).index + 1 < bufferSize := by
          rw [index]
          rw [bufferSize] at *
          omega
        rcases inside_accesses (Nat.lt_of_succ_lt within) now with ⟨-, inside⟩ | ⟨-, full, -⟩
        · exact inside
        · exact absurd full (Nat.ne_of_lt within)

/-- Whatever the calls on a new object, an element is stored inside of its array. All shifts read and write
inside of theirs if and only if there are at most 20 calls, after which nothing has been shifted yet. -/
theorem accesses_inside_iff (memory : Memory) (calls : List Call) :
    (∀ array index value, element array index value ∈ (fresh memory).performed calls → index < 20) ∧
      ((∀ array dst src length, shift array dst src length ∈ (fresh memory).performed calls →
        src + length ≤ 8 * 20 ∧ dst + length ≤ 8 * 20) ↔ calls.length ≤ 20) := by
  refine ⟨fun array index value mem => inside_of_not_shift memory calls _ mem id, ?_⟩
  refine Iff.trans ?_ (inside_iff memory calls)
  refine ⟨?_, ?_⟩
  · intro shifts a mem
    cases a with
    | element array index value => exact inside_of_not_shift memory calls _ mem id
    | base member value => trivial
    | shift array dst src length => exact shifts array dst src length mem
  · intro inside array dst src length mem
    exact inside _ mem

/-- The twenty-first call reads seven bytes behind the array. -/
theorem accesses_outside :
    ¬ ∀ array dst src length,
      shift array dst src length ∈
          (fresh fun _ => 0).performed (List.replicate 20 ⟨0, 0, 0, 0, 0, 0⟩ ++ [⟨0, 0, 0, 0, 0, 0⟩]) →
        src + length ≤ 8 * 20 ∧ dst + length ≤ 8 * 20 := by
  intro inside
  have outside : 8 + 159 ≤ 8 * 20 ∧ 0 + 159 ≤ 8 * 20 := by
    apply inside timestamps
    rw [performed_concat]
    exact List.mem_append_right _ (shifted_mem_accesses rfl rfl)
  exact absurd outside.1 (by decide)

end UserPortal.DeviceStats
