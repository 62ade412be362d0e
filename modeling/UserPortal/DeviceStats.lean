import UserPortal.Data.Consecutive
import UserPortal.Data.Memory
import UserPortal.RestObjects.SubObjects

/-!
# The statistics of a device

Port of `DeviceStats` of `src/StatsSvr.h`: the members of 64 bits lie behind each other in a memory, as
they are declared. `memmove` is told one byte less than the words it should move, and one word more than
there is behind the first one: it reads into the next member.

`get_run`: what is kept are the latest differences.
-/

namespace UserPortal
open Data

/-- `buffer_size` -/
def bufferSize : Nat := 20

/-- `DeviceStats`. The addresses of the members in the memory follow. -/
structure DeviceStats where
  lastUpdate : UInt64
  memory : Memory
  index : Nat
  noBase : Bool

namespace DeviceStats

def timestamps : Nat := 0
def extTxs : Nat := timestamps + 8 * bufferSize
def extRxs : Nat := extTxs + 8 * bufferSize
def intTxs : Nat := extRxs + 8 * bufferSize
def intRxs : Nat := intTxs + 8 * bufferSize
def baseIntTx : Nat := intRxs + 8 * bufferSize
def baseIntRx : Nat := baseIntTx + 8
def baseExtTx : Nat := baseIntRx + 8
def baseExtRx : Nat := baseExtTx + 8

/-- The arguments of a call of `AddValue`, and the time at which it is made. -/
structure Call where
  now : UInt64
  ts : UInt64
  extTx : UInt32
  extRx : UInt32
  intTx : UInt32
  intRx : UInt32

/-- A new object, whose arrays hold what was in the memory before. -/
def fresh (memory : Memory) : DeviceStats :=
  let memory := memory.writeWord baseIntTx 0
  let memory := memory.writeWord baseIntRx 0
  let memory := memory.writeWord baseExtTx 0
  let memory := memory.writeWord baseExtRx 0
  { lastUpdate := 0, memory, index := 0, noBase := true }

/-- The difference to the base goes into an array, and the value becomes the base. -/
def record (memory : Memory) (array index base : Nat) (value : UInt32) : Memory :=
  let memory := memory.writeWord (array + 8 * index) (value.toUInt64 - memory.readWord base)
  memory.writeWord base value.toUInt64

/-- Move everything of an array down by one. -/
def moveDown (memory : Memory) (array : Nat) : Memory :=
  memory.memmove array (array + 8) (8 * bufferSize - 1)

/-- What a call writes behind the samples of the arrays. -/
def writeSample (memory : Memory) (index : Nat) (c : Call) : Memory :=
  let memory := memory.writeWord (timestamps + 8 * index) c.ts
  let memory := record memory intTxs index baseIntTx c.intTx
  let memory := record memory intRxs index baseIntRx c.intRx
  let memory := record memory extTxs index baseExtTx c.extTx
  record memory extRxs index baseExtRx c.extRx

/-- What a call does when the arrays are full. -/
def moveAllDown (memory : Memory) : Memory :=
  let memory := moveDown memory timestamps
  let memory := moveDown memory extTxs
  let memory := moveDown memory extRxs
  let memory := moveDown memory intTxs
  moveDown memory intRxs

/-- What the first call writes. -/
def writeBase (memory : Memory) (c : Call) : Memory :=
  let memory := memory.writeWord baseIntRx c.intRx.toUInt64
  let memory := memory.writeWord baseIntTx c.intTx.toUInt64
  let memory := memory.writeWord baseExtRx c.extRx.toUInt64
  memory.writeWord baseExtTx c.extTx.toUInt64

/-- `AddValue` -/
def addValue (s : DeviceStats) (c : Call) : DeviceStats :=
  if s.noBase then { s with memory := writeBase s.memory c, noBase := false }
  else
    let memory := writeSample s.memory s.index c
    let index := s.index + 1
    if index = bufferSize then
      { s with memory := moveAllDown memory, index := index - 1, lastUpdate := c.now }
    else { s with memory, index, lastUpdate := c.now }

/-- The entries of two arrays. -/
def entries (s : DeviceStats) (txs rxs : Nat) : List SubObjects.StatsEntry :=
  (List.range s.index).map fun i =>
    { timestamp := (s.memory.readWord (timestamps + 8 * i)).toNat
      tx := (s.memory.readWord (txs + 8 * i)).toNat
      rx := (s.memory.readWord (rxs + 8 * i)).toNat }

/-- `Get` -/
def get (s : DeviceStats) (stats : SubObjects.StatsBlock) : SubObjects.StatsBlock where
  modified := s.lastUpdate.toNat
  external := stats.external ++ s.entries extTxs extRxs
  internal := stats.internal ++ s.entries intTxs intRxs

/-- Some calls on a new object. -/
def run (memory : Memory) (calls : List Call) : DeviceStats := calls.foldl addValue (fresh memory)

/-! ## What is kept -/

/-- The differences between a call and the one before. -/
structure Sample where
  timestamp : UInt64
  extTx : UInt64
  extRx : UInt64
  intTx : UInt64
  intRx : UInt64

/-- The differences of the arguments of two calls. -/
def sample (previous c : Call) : Sample where
  timestamp := c.ts
  extTx := c.extTx.toUInt64 - previous.extTx.toUInt64
  extRx := c.extRx.toUInt64 - previous.extRx.toUInt64
  intTx := c.intTx.toUInt64 - previous.intTx.toUInt64
  intRx := c.intRx.toUInt64 - previous.intRx.toUInt64

/-- The entry of a sample in the list of the external interfaces. -/
def Sample.external (s : Sample) : SubObjects.StatsEntry where
  timestamp := s.timestamp.toNat
  tx := s.extTx.toNat
  rx := s.extRx.toNat

/-- The entry of a sample in the list of the internal interfaces. -/
def Sample.internal (s : Sample) : SubObjects.StatsEntry where
  timestamp := s.timestamp.toNat
  tx := s.intTx.toNat
  rx := s.intRx.toNat

/-- The latest samples of some calls. -/
def kept (calls : List Call) : List Sample := (consecutive sample calls).rtake (bufferSize - 1)

/-! ## Arrays and bases -/

section Arrays

variable {m : Memory} {samples : List Sample} {previous c : Call} {a b n k base : Nat} {v : UInt32}

/-- A difference is recorded behind those before. -/
lemma readWords_record (room : a + 8 * n + 8 ≤ base) :
    (record m a n base v).readWords a (n + 1) = m.readWords a n ++ [v.toUInt64 - m.readWord base] := by
  rw [record, Memory.readWords_writeWord_of_disjoint (Or.inl room), Memory.readWords_writeWord]

/-- Another array is left alone. -/
lemma readWords_record_of_disjoint (array : a + 8 * n ≤ b ∨ b + 8 * k + 8 ≤ a) (bases : a + 8 * n ≤ base) :
    (record m b k base v).readWords a n = m.readWords a n := by
  rw [record, Memory.readWords_writeWord_of_disjoint (Or.inl bases)]
  apply Memory.readWords_writeWord_of_disjoint
  omega

/-- The new base is what was recorded. -/
lemma readWord_record : (record m a n base v).readWord base = v.toUInt64 := by
  rw [record, Memory.readWord_writeWord]

/-- The other bases are left alone. -/
lemma readWord_record_of_disjoint (array : b + 8 * k + 8 ≤ a) (bases : a + 8 ≤ base ∨ base + 8 ≤ a) :
    (record m b k base v).readWord a = m.readWord a := by
  rw [record, Memory.readWord_writeWord_of_disjoint bases,
    Memory.readWord_writeWord_of_disjoint (Or.inr array)]

/-- Moving down drops the first value. -/
lemma readWords_moveDown (within : n < bufferSize) :
    (moveDown m a).readWords a n = (m.readWords a (n + 1)).tail := by
  apply Memory.readWords_memmove
  rw [bufferSize] at *
  omega

/-- It leaves another array alone. -/
lemma readWords_moveDown_of_disjoint (apart : a + 8 * n ≤ b ∨ b + 8 * bufferSize ≤ a) :
    (moveDown m b).readWords a n = m.readWords a n := by
  apply Memory.readWords_memmove_of_disjoint
  omega

/-- It leaves what lies behind it alone. -/
lemma readWord_moveDown_of_disjoint (apart : b + 8 * bufferSize ≤ a) :
    (moveDown m b).readWord a = m.readWord a := by
  apply Memory.readWord_memmove_of_disjoint
  omega

/-- Where the members are. -/
lemma layout :
    bufferSize = 20 ∧ timestamps = 0 ∧ extTxs = 160 ∧ extRxs = 320 ∧ intTxs = 480 ∧ intRxs = 640 ∧
      baseIntTx = 800 ∧ baseIntRx = 808 ∧ baseExtTx = 816 ∧ baseExtRx = 824 := by decide

/-- The arrays begin with some samples. -/
structure Holds (m : Memory) (samples : List Sample) : Prop where
  timestamps : m.readWords timestamps samples.length = samples.map Sample.timestamp
  extTxs : m.readWords extTxs samples.length = samples.map Sample.extTx
  extRxs : m.readWords extRxs samples.length = samples.map Sample.extRx
  intTxs : m.readWords intTxs samples.length = samples.map Sample.intTx
  intRxs : m.readWords intRxs samples.length = samples.map Sample.intRx

/-- The bases are the values of a call. -/
structure Based (m : Memory) (c : Call) : Prop where
  intTx : m.readWord baseIntTx = c.intTx.toUInt64
  intRx : m.readWord baseIntRx = c.intRx.toUInt64
  extTx : m.readWord baseExtTx = c.extTx.toUInt64
  extRx : m.readWord baseExtRx = c.extRx.toUInt64

/-- The first call sets the bases. -/
lemma based_writeBase (m : Memory) (c : Call) : Based (writeBase m c) c := by
  obtain ⟨size, ts, et, er, it, ir, bit, bir, bet, ber⟩ := layout
  constructor <;>
    simp (disch := omega) only [writeBase, Memory.readWord_writeWord, Memory.readWord_writeWord_of_disjoint]

/-- A sample sets them again. -/
lemma Based.writeSample (within : n < bufferSize) : Based (writeSample m n c) c := by
  obtain ⟨size, ts, et, er, it, ir, bit, bir, bet, ber⟩ := layout
  constructor <;>
    simp (disch := omega) only [DeviceStats.writeSample, readWord_record, readWord_record_of_disjoint]

/-- Moving the arrays down keeps the bases. -/
lemma Based.moveAllDown (based : Based m c) : Based (moveAllDown m) c := by
  obtain ⟨size, ts, et, er, it, ir, bit, bir, bet, ber⟩ := layout
  constructor <;>
    simp (disch := omega) only [DeviceStats.moveAllDown, readWord_moveDown_of_disjoint, based.intTx,
      based.intRx, based.extTx, based.extRx]

/-- What a call writes joins the samples. -/
lemma Holds.writeSample (holds : Holds m samples) (based : Based m previous)
    (within : samples.length < bufferSize) :
    Holds (writeSample m samples.length c) (samples ++ [sample previous c]) := by
  obtain ⟨size, ts, et, er, it, ir, bit, bir, bet, ber⟩ := layout
  constructor <;> rw [List.length_append, List.length_singleton, List.map_append]
  · simp (disch := omega) only [DeviceStats.writeSample, readWords_record_of_disjoint,
      Memory.readWords_writeWord, holds.timestamps]
    rfl
  · simp (disch := omega) only [DeviceStats.writeSample, readWords_record_of_disjoint,
      readWords_record, readWord_record_of_disjoint, Memory.readWord_writeWord_of_disjoint,
      Memory.readWords_writeWord_of_disjoint, holds.extTxs, based.extTx]
    rfl
  · simp (disch := omega) only [DeviceStats.writeSample, readWords_record_of_disjoint,
      readWords_record, readWord_record_of_disjoint, Memory.readWord_writeWord_of_disjoint,
      Memory.readWords_writeWord_of_disjoint, holds.extRxs, based.extRx]
    rfl
  · simp (disch := omega) only [DeviceStats.writeSample, readWords_record_of_disjoint,
      readWords_record, Memory.readWord_writeWord_of_disjoint,
      Memory.readWords_writeWord_of_disjoint, holds.intTxs, based.intTx]
    rfl
  · simp (disch := omega) only [DeviceStats.writeSample, readWords_record_of_disjoint,
      readWords_record, readWord_record_of_disjoint, Memory.readWord_writeWord_of_disjoint,
      Memory.readWords_writeWord_of_disjoint, holds.intRxs, based.intRx]
    rfl

/-- Moving everything down drops the first sample. -/
lemma Holds.moveAllDown (holds : Holds m samples) (full : samples.length = bufferSize) :
    Holds (moveAllDown m) samples.tail := by
  obtain ⟨size, ts, et, er, it, ir, bit, bir, bet, ber⟩ := layout
  have pred : samples.tail.length + 1 = samples.length := by
    rw [List.length_tail]
    omega
  constructor <;>
    simp (disch := omega) only [DeviceStats.moveAllDown, readWords_moveDown, readWords_moveDown_of_disjoint,
      pred, holds.timestamps, holds.extTxs, holds.extRxs, holds.intTxs, holds.intRxs, List.map_tail]

end Arrays

/-! ## Runs -/

section Runs

variable {memory : Memory} {calls : List Call} {previous c : Call}

@[simp] lemma run_concat : run memory (calls ++ [c]) = (run memory calls).addValue c := List.foldl_concat ..

/-- One call leaves no sample. -/
lemma kept_singleton (c : Call) : kept [c] = [] := List.rtake_nil _

/-- One more call adds its sample, and drops the first one when there would be too many. -/
lemma kept_concat (past : List Call) (previous c : Call) :
    kept (past ++ [previous] ++ [c]) =
      if (kept (past ++ [previous])).length + 1 = bufferSize then
        (kept (past ++ [previous]) ++ [sample previous c]).tail
      else kept (past ++ [previous]) ++ [sample previous c] := by
  rw [kept, kept, consecutive_concat, rtake_concat, length_rtake, bufferSize]
  split
  · rw [if_neg]
    omega
  · rw [if_pos]
    omega

/-- There is one sample less than calls, and no more than fit. -/
lemma length_kept : (kept calls).length = min (calls.length - 1) (bufferSize - 1) := by
  rw [kept, length_rtake, length_consecutive]
  exact Nat.min_comm _ _

/-- After some calls the object holds their latest samples, and the last one is the base. -/
structure Kept (s : DeviceStats) (past : List Call) (c : Call) : Prop where
  noBase : s.noBase = false
  index : s.index = (kept (past ++ [c])).length
  holds : Holds s.memory (kept (past ++ [c]))
  based : Based s.memory c

/-- What is kept after the first call. -/
lemma kept_first (c : Call) : Kept (run memory [c]) [] c where
  noBase := rfl
  index := by
    rw [List.nil_append, kept_singleton]
    rfl
  holds := by
    rw [List.nil_append, kept_singleton]
    constructor <;> rfl
  based := based_writeBase _ c

/-- What is kept after one more call. -/
lemma Kept.addValue {s : DeviceStats} {past : List Call} (inv : Kept s past previous) :
    Kept (s.addValue c) (past ++ [previous]) c := by
  have room : (kept (past ++ [previous])).length < bufferSize := by
    rw [length_kept, bufferSize]
    omega
  have holds : Holds (writeSample s.memory s.index c) (kept (past ++ [previous]) ++ [sample previous c]) := by
    rw [inv.index]
    exact inv.holds.writeSample inv.based room
  have based : Based (writeSample s.memory s.index c) c := by
    rw [inv.index]
    exact Based.writeSample room
  have index : s.index + 1 = (kept (past ++ [previous]) ++ [sample previous c]).length := by
    rw [inv.index, List.length_append, List.length_singleton]
  have latest := kept_concat past previous c
  rw [DeviceStats.addValue, inv.noBase, if_neg Bool.false_ne_true]
  rw [← inv.index] at latest
  by_cases full : s.index + 1 = bufferSize
  · rw [if_pos full] at latest
    dsimp only
    rw [if_pos full]
    refine ⟨rfl, ?_, ?_, based.moveAllDown⟩
    · rw [latest, List.length_tail, ← index]
    · rw [latest]
      exact holds.moveAllDown (index.symm.trans full)
  · rw [if_neg full] at latest
    dsimp only
    rw [if_neg full]
    refine ⟨rfl, ?_, ?_, based⟩
    · rw [latest, ← index]
    · rw [latest]
      exact holds

/-- What is kept after any calls. -/
lemma kept_run (past : List Call) (c : Call) : Kept (run memory (past ++ [c])) past c := by
  induction past using List.reverseRecOn generalizing c with
  | nil => exact kept_first c
  | append_singleton past previous ih =>
    rw [run_concat]
    exact (ih previous).addValue

/-- The entries which are listed are those of the samples. -/
lemma entries_eq {s : DeviceStats} {samples : List Sample} {txs rxs : Nat} {tx rx : Sample → UInt64}
    (index : s.index = samples.length)
    (ts : s.memory.readWords timestamps samples.length = samples.map Sample.timestamp)
    (txsHeld : s.memory.readWords txs samples.length = samples.map tx)
    (rxsHeld : s.memory.readWords rxs samples.length = samples.map rx) :
    s.entries txs rxs = samples.map fun sample =>
      { timestamp := sample.timestamp.toNat, tx := (tx sample).toNat, rx := (rx sample).toNat } := by
  rw [entries, index]
  refine List.ext_getElem ?_ fun k lt lt' => ?_
  · rw [List.length_map, List.length_map, List.length_range]
  · have within : k < samples.length := by rwa [List.length_map] at lt'
    rw [List.getElem_map, List.getElem_map, List.getElem_range, Memory.readWord_of_readWords ts within,
      Memory.readWord_of_readWords txsHeld within, Memory.readWord_of_readWords rxsHeld within]

/-- `Get` lists the latest samples behind what is listed already. -/
lemma get_eq (memory : Memory) (calls : List Call) (stats : SubObjects.StatsBlock) :
    ((run memory calls).get stats).external = stats.external ++ (kept calls).map Sample.external ∧
      ((run memory calls).get stats).internal = stats.internal ++ (kept calls).map Sample.internal := by
  rcases List.eq_nil_or_concat calls with none | ⟨past, c, eq⟩
  · rw [none]
    exact ⟨rfl, rfl⟩
  · rw [eq, List.concat_eq_append]
    have inv : Kept (run memory (past ++ [c])) past c := kept_run past c
    rw [get, entries_eq inv.index inv.holds.timestamps inv.holds.extTxs inv.holds.extRxs,
      entries_eq inv.index inv.holds.timestamps inv.holds.intTxs inv.holds.intRxs]
    exact ⟨rfl, rfl⟩

end Runs

/-- After any number of calls on a new object, whatever its arrays held before, the latest samples are kept,
all but the first call giving one, and `Get` lists them in order, behind what is listed already. -/
theorem get_run (memory : Memory) {calls : List Call} (some : calls ≠ []) :
    (run memory calls).index ≤ 19 ∧
      (kept calls).length = min (calls.length - 1) 19 ∧
      ∀ stats, ((run memory calls).get stats).external = stats.external ++ (kept calls).map Sample.external ∧
        ((run memory calls).get stats).internal = stats.internal ++ (kept calls).map Sample.internal := by
  refine ⟨?_, length_kept, get_eq memory calls⟩
  rcases List.eq_nil_or_concat calls with none | ⟨past, c, eq⟩
  · exact absurd none some
  · have inv : Kept (run memory (past ++ [c])) past c := kept_run past c
    rw [eq, List.concat_eq_append, inv.index, length_kept]
    exact Nat.min_le_right _ _

/-- Three calls, the second one of which wraps around. -/
theorem get_run_three :
    ((run (fun _ => 255) [⟨0, 1, 10, 20, 30, 40⟩, ⟨5, 2, 11, 19, 30, 41⟩, ⟨9, 3, 12, 20, 31, 41⟩]).get {}).external =
      [⟨2, 1, 2 ^ 64 - 1⟩, ⟨3, 1, 1⟩] := by
  rw [((get_run _ (List.cons_ne_nil _ _)).2.2 _).1]
  rfl

end DeviceStats

end UserPortal
