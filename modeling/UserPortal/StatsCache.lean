import UserPortal.Data.Assignments
import UserPortal.DeviceStats
import UserPortal.Framework.AddressCodecs
import UserPortal.Framework.Routing
import UserPortal.RestApi.ClientLists

/-!
# The statistics cache

Port of `StatsSvr::run` and `StatsSvr::Get` of `src/StatsSvr.cpp` and `src/StatsSvr.h`: what the cache makes
of the state messages of the devices. A message whose document lacks something, or is read with an
exception, is dropped: `none`. The log is left out.

`truthful_iff`: what is recorded are the increases of the counters as long as only the interface which a
message lists last moves, by less than a multiple of 2^32.
-/

namespace UserPortal.StatsCache
open Data RestApi.ClientLists

/-- `DeviceStats_` -/
abbrev Cache := OrderedMap Nat DeviceStats

/-- A message: when it is taken from the queue, and the document which its text parses as, if it does. -/
structure Message where
  now : UInt64
  document : Option Json

/-- The counters of an interface. -/
structure Interface where
  external : Bool
  rx : UInt64
  tx : UInt64
  deriving DecidableEq

/-- `get<uint64_t>` -/
def getUInt64 (v : Json) : Option UInt64 := (uint64? v).map UInt64.ofNat

/-- `external_stats`: the location of an internal interface has three parts, and does not end in 0. -/
def externalStats (iface : Json) : Option Bool :=
  match item iface "location" with
  | none => some true
  | some location => (string? location).map fun location =>
    match Routing.tokens location with
    | [_, _, part] => part = "0"
    | _ => true

/-- What the loop reads of an interface, if it has counters. -/
def readInterface (iface : Json) : Option (Option Interface) := do
  let external ← externalStats iface
  match item iface "counters" with
  | none => return none
  | some counters =>
    match item counters "rx_bytes", item counters "tx_bytes" with
    | some rx, some tx =>
      let rx ← getUInt64 rx
      let tx ← getUInt64 tx
      return some { external, rx, tx }
    | _, _ => return none

/-- The variables of the loop over the interfaces. -/
structure Totals where
  intRx : UInt64 := 0
  intTx : UInt64 := 0
  extRx : UInt64 := 0
  extTx : UInt64 := 0

/-- The counters of an interface are assigned. -/
def Totals.assign (t : Totals) (i : Interface) : Totals :=
  if i.external then { t with extRx := i.rx, extTx := i.tx } else { t with intRx := i.rx, intTx := i.tx }

/-- One round of the loop. -/
def round (t : Totals) (iface : Json) : Option Totals :=
  (readInterface iface).map fun i => i.elim t t.assign

/-- What a message is about: the number of the device, its time and its interfaces. -/
def readMessage (document : Json) : Option (Nat × UInt64 × List Json) := do
  let payload ← item document "payload"
  let state ← item payload "state"
  let serial ← item payload "serial"
  let serialNumber ← string? serial
  let _ ← item state "version"
  let unit ← item state "unit"
  let localtime ← item unit "localtime"
  let timestamp ← getUInt64 localtime
  match ← item state "interfaces" with
  | .arr interfaces =>
    let serialInt ← (Utils.serialNumberToInt serialNumber).toOption
    return (serialInt, timestamp, interfaces)
  | _ => none

/-- The arguments of `AddValue`, of 32 bits. -/
def Totals.call (t : Totals) (now ts : UInt64) : DeviceStats.Call where
  now
  ts
  extTx := t.extTx.toUInt32
  extRx := t.extRx.toUInt32
  intTx := t.intTx.toUInt32
  intRx := t.intRx.toUInt32

variable (memory : Nat → Memory)

/-- The values of a message go to its device, which is new where there is none. -/
def addValue (cache : Cache) (serial : Nat) (c : DeviceStats.Call) : Cache :=
  match cache.get? serial with
  | none => cache.assign serial ((DeviceStats.fresh (memory serial)).addValue c)
  | some s => cache.assign serial (s.addValue c)

/-- What `run` does with a message. -/
def receive (cache : Cache) (m : Message) : Cache :=
  let values := do
    let (serial, ts, interfaces) ← m.document.bind readMessage
    let totals ← interfaces.foldlM round {}
    return (serial, totals.call m.now ts)
  match values with
  | none => cache
  | some (serial, c) => addValue memory cache serial c

/-- `run`, on the messages of the queue. -/
def run (messages : List Message) : Cache := messages.foldl (receive memory) .empty

/-- `Get` -/
def get (cache : Cache) (serialNumber : String) (stats : SubObjects.StatsBlock) :
    Except Thrown SubObjects.StatsBlock :=
  (Utils.serialNumberToInt serialNumber).map fun serial =>
    match cache.get? serial with
    | none => stats
    | some s => s.get stats

/-! ## What the samples should be -/

/-- What a message tells about a device. -/
structure Report where
  now : UInt64
  serial : Nat
  timestamp : UInt64
  interfaces : List Interface

/-- The report of a message which is not dropped. -/
def report (m : Message) : Option Report := do
  let (serial, timestamp, interfaces) ← m.document.bind readMessage
  let interfaces ← interfaces.mapM readInterface
  return { now := m.now, serial, timestamp, interfaces := interfaces.reduceOption }

/-- The reports about a device. -/
def reports (serial : Nat) (messages : List Message) : List Report :=
  messages.filterMap fun m => (report m).filter (·.serial = serial)

namespace Report

/-- A counter of all external or internal interfaces. -/
def counters (r : Report) (external : Bool) (counter : Interface → UInt64) : List UInt64 :=
  (r.interfaces.filter (·.external = external)).map counter

/-- The counter of the interface which is listed last. -/
def last (r : Report) (external : Bool) (counter : Interface → UInt64) : Nat :=
  ((r.counters external counter).getLastD 0).toNat

/-- The total over the other interfaces. -/
def others (r : Report) (external : Bool) (counter : Interface → UInt64) : Nat :=
  ((r.counters external counter).dropLast.map UInt64.toNat).sum

/-- The total over all interfaces. -/
def total (r : Report) (external : Bool) (counter : Interface → UInt64) : Nat :=
  ((r.counters external counter).map UInt64.toNat).sum

/-- The time of a report, and the increases of the totals since the one before. -/
def increase (external : Bool) (previous r : Report) : Nat × Int × Int :=
  (r.timestamp.toNat, (r.total external Interface.tx : Int) - previous.total external Interface.tx,
    (r.total external Interface.rx : Int) - previous.total external Interface.rx)

/-- The total does not decrease, it fits into 64 bits what it increases by, and this is up to a multiple of
2^64 the increase of the last interface alone, below a multiple of 2^32. -/
structure Tracked (external : Bool) (counter : Interface → UInt64) (previous r : Report) : Prop where
  grows : previous.total external counter ≤ r.total external counter
  fits : r.total external counter < previous.total external counter + 2 ^ 64
  aligned : (2 ^ 64 : Int) ∣ (r.others external counter - previous.others external counter) +
    2 ^ 32 * ((r.last external counter / 2 ^ 32 : Nat) - (previous.last external counter / 2 ^ 32 : Nat))

end Report

/-- What is listed for a sample. -/
def listed (e : SubObjects.StatsEntry) : Nat × Int × Int := (e.timestamp, e.tx, e.rx)

/-- After any of the messages, the entries of a device are the latest increases of its totals. -/
def Truthful (serialNumber : String) (serial : Nat) (messages : List Message) : Prop :=
  ∀ past, past <+: messages → ∃ stats, get (run memory past) serialNumber {} = .ok stats ∧
    stats.external.map listed = (consecutive (Report.increase true) (reports serial past)).rtake 19 ∧
    stats.internal.map listed = (consecutive (Report.increase false) (reports serial past)).rtake 19

/-! ## What a message comes down to -/

namespace Report

/-- The arguments of the call for a report. -/
def call (r : Report) : DeviceStats.Call := (r.interfaces.foldl Totals.assign {}).call r.now r.timestamp

end Report

section Messages

variable {memory} {m : Message} {cache : Cache} {serial : Nat} {messages : List Message} {r previous : Report}
  {t : Totals} {external : Bool} {counter : Interface → UInt64}

/-- The loop fails where an interface cannot be read, and assigns the counters of those which have some. -/
lemma foldlM_round (interfaces : List Json) (t : Totals) :
    interfaces.foldlM round t =
      (interfaces.mapM readInterface).map fun is => is.reduceOption.foldl Totals.assign t := by
  induction interfaces generalizing t with
  | nil => rfl
  | cons iface interfaces ih =>
    rw [List.foldlM_cons, List.mapM_cons, round]
    cases readInterface iface with
    | none => rfl
    | some i =>
      show interfaces.foldlM round (i.elim t t.assign) = _
      rw [ih]
      cases interfaces.mapM readInterface with
      | none => rfl
      | some is =>
        cases i with
        | none => rfl
        | some i => rfl

/-- A message adds its report to the device of its serial. -/
lemma receive_eq (cache : Cache) (m : Message) :
    receive memory cache m =
      match report m with
      | none => cache
      | some r => addValue memory cache r.serial r.call := by
  rw [receive, report]
  cases m.document.bind readMessage with
  | none => rfl
  | some read =>
    obtain ⟨serial, ts, interfaces⟩ := read
    simp only [Option.bind_eq_bind, Option.bind_some, foldlM_round]
    cases interfaces.mapM readInterface with
    | none => rfl
    | some is => rfl

/-- The statistics of a device after some calls: there are none before the first one. -/
def device (memory : Memory) : List DeviceStats.Call → Option DeviceStats
  | [] => none
  | c :: calls => some (DeviceStats.run memory (c :: calls))

/-- A device after one more report. -/
lemma device_concat (memory : Memory) (calls : List DeviceStats.Call) (c : DeviceStats.Call) :
    device memory (calls ++ [c]) =
      some (((device memory calls).getD (DeviceStats.fresh memory)).addValue c) := by
  cases calls with
  | nil => rfl
  | cons first calls =>
    rw [List.cons_append, device, ← List.cons_append, DeviceStats.run_concat]
    rfl

/-- Adding a report changes the device of its serial only. -/
lemma get?_addValue (cache : Cache) (serial : Nat) (c : DeviceStats.Call) (k : Nat) :
    (addValue memory cache serial c).get? k =
      if serial = k then
        some (((cache.get? serial).getD (DeviceStats.fresh (memory serial))).addValue c)
      else cache.get? k := by
  rw [addValue]
  cases cache.get? serial with
  | none => exact OrderedMap.get?_assign cache k
  | some s => exact OrderedMap.get?_assign cache k

/-- The reports of a device after one more message. -/
lemma reports_concat (serial : Nat) (messages : List Message) (m : Message) :
    reports serial (messages ++ [m]) =
      reports serial messages ++ ((report m).filter (·.serial = serial)).toList := by
  rw [reports, List.filterMap_append]
  refine congrArg _ ?_
  rw [List.filterMap_cons]
  cases (report m).filter (·.serial = serial) with
  | none => rfl
  | some r => rfl

/-- The cache holds for every device what the calls for its reports make of it. -/
lemma get?_run (serial : Nat) (messages : List Message) :
    (run memory messages).get? serial =
      device (memory serial) ((reports serial messages).map Report.call) := by
  induction messages using List.reverseRecOn with
  | nil => rfl
  | append_singleton messages m ih =>
    have step : run memory (messages ++ [m]) = receive memory (run memory messages) m :=
      List.foldl_concat ..
    rw [step, receive_eq, reports_concat]
    cases report m with
    | none =>
      rw [Option.filter_none, Option.toList_none, List.append_nil]
      exact ih
    | some r =>
      dsimp only
      rw [get?_addValue, Option.filter_some]
      by_cases own : r.serial = serial
      · rw [if_pos own, if_pos (decide_eq_true own), Option.toList_some, List.map_append, List.map_singleton,
          device_concat, own, ih]
      · rw [if_neg own, if_neg (by simpa using own), Option.toList_none, List.append_nil]
        exact ih

/-- `Get` lists the latest samples of the calls for the reports. -/
lemma get_messages (memory : Nat → Memory) {serialNumber : String}
    (device : Utils.serialNumberToInt serialNumber = .ok serial)
    (messages : List Message) :
    ∃ stats, get (run memory messages) serialNumber {} = .ok stats ∧
      stats.external =
        (DeviceStats.kept ((reports serial messages).map Report.call)).map DeviceStats.Sample.external ∧
      stats.internal =
        (DeviceStats.kept ((reports serial messages).map Report.call)).map DeviceStats.Sample.internal := by
  rw [get, device, Except.map, get?_run]
  cases (reports serial messages).map Report.call with
  | nil => exact ⟨{}, rfl, rfl, rfl⟩
  | cons c calls => exact ⟨_, rfl, DeviceStats.get_eq (memory serial) (c :: calls) {}⟩

/-! ## One step -/

/-- The last external interface counts for sending. -/
lemma assign_extTx (t : Totals) (i : Interface) :
    (t.assign i).extTx = if i.external = true then i.tx else t.extTx := by
  rw [Totals.assign]
  split <;> rfl

/-- And for receiving. -/
lemma assign_extRx (t : Totals) (i : Interface) :
    (t.assign i).extRx = if i.external = true then i.rx else t.extRx := by
  rw [Totals.assign]
  split <;> rfl

/-- So does the last internal interface for sending. -/
lemma assign_intTx (t : Totals) (i : Interface) :
    (t.assign i).intTx = if i.external = false then i.tx else t.intTx := by
  rw [Totals.assign]
  cases i.external <;> rfl

/-- And for receiving. -/
lemma assign_intRx (t : Totals) (i : Interface) :
    (t.assign i).intRx = if i.external = false then i.rx else t.intRx := by
  rw [Totals.assign]
  cases i.external <;> rfl

/-- The loop leaves the counter of the last interface of its kind. -/
lemma foldl_assign {value : Totals → UInt64}
    (assigned : ∀ t i, value (t.assign i) = if i.external = external then counter i else value t)
    (is : List Interface) (t : Totals) :
    value (is.foldl Totals.assign t) =
      ((is.filter (·.external = external)).map counter).getLastD (value t) := by
  induction is generalizing t with
  | nil => rfl
  | cons i is ih =>
    rw [List.foldl_cons, ih, assigned]
    by_cases own : i.external = external
    · rw [if_pos own, List.filter_cons_of_pos (by simpa using own), List.map_cons, List.getLastD_cons]
    · rw [if_neg own, List.filter_cons_of_neg (by simpa using own)]

/-- The calls are made with the counters of the last interfaces. -/
lemma call_eq (r : Report) :
    r.call.extTx = ((r.counters true Interface.tx).getLastD 0).toUInt32 ∧
      r.call.extRx = ((r.counters true Interface.rx).getLastD 0).toUInt32 ∧
      r.call.intTx = ((r.counters false Interface.tx).getLastD 0).toUInt32 ∧
      r.call.intRx = ((r.counters false Interface.rx).getLastD 0).toUInt32 := by
  have extTx := foldl_assign (fun t i => assign_extTx t i) r.interfaces {}
  have extRx := foldl_assign (fun t i => assign_extRx t i) r.interfaces {}
  have intTx := foldl_assign (fun t i => assign_intTx t i) r.interfaces {}
  have intRx := foldl_assign (fun t i => assign_intRx t i) r.interfaces {}
  exact ⟨congrArg UInt64.toUInt32 extTx, congrArg UInt64.toUInt32 extRx, congrArg UInt64.toUInt32 intTx,
    congrArg UInt64.toUInt32 intRx⟩

/-- A total is the last interface and the others. -/
lemma total_eq (r : Report) (external : Bool) (counter : Interface → UInt64) :
    r.total external counter = r.others external counter + r.last external counter := by
  rw [Report.total, Report.others, Report.last]
  rcases List.eq_nil_or_concat (r.counters external counter) with none | ⟨front, last, eq⟩
  · rw [none]
    rfl
  · rw [eq, List.concat_eq_append, List.map_append, List.sum_append, List.dropLast_concat,
      List.getLastD_concat, List.map_singleton, List.sum_singleton]

/-- The difference of two counters which were cut off at 32 bits, in 64 bits. -/
lemma toNat_sub_toUInt32 (l p : UInt64) :
    (l.toUInt32.toUInt64 - p.toUInt32.toUInt64).toNat =
      (2 ^ 64 - p.toNat % 2 ^ 32 + l.toNat % 2 ^ 32) % 2 ^ 64 := by
  rw [UInt64.toNat_sub, UInt32.toNat_toUInt64, UInt32.toNat_toUInt64, UInt64.toNat_toUInt32,
    UInt64.toNat_toUInt32]

/-- What is recorded of a counter is its increase where the counter is tracked. -/
lemma tracked_iff (external : Bool) (counter : Interface → UInt64) (previous r : Report) :
    ((((r.counters external counter).getLastD 0).toUInt32.toUInt64 -
        ((previous.counters external counter).getLastD 0).toUInt32.toUInt64).toNat : Int) =
      (r.total external counter : Int) - previous.total external counter ↔
    Report.Tracked external counter previous r := by
  rw [toNat_sub_toUInt32, ← Report.last, ← Report.last]
  have now := total_eq r external counter
  have before := total_eq previous external counter
  refine ⟨?_, ?_⟩
  · intro eq
    constructor
    · omega
    · omega
    · omega
  · rintro ⟨grows, fits, aligned⟩
    omega

/-- A counter which never decreases is tracked where only the last interface moves, and passes no multiple
of 2^32. -/
lemma tracked_iff_of_growing (othersGrow : previous.others external counter ≤ r.others external counter)
    (lastGrows : previous.last external counter ≤ r.last external counter)
    (fits : r.total external counter < previous.total external counter + (2 ^ 64 - 2 ^ 32)) :
    Report.Tracked external counter previous r ↔
      r.others external counter = previous.others external counter ∧
        r.last external counter / 2 ^ 32 = previous.last external counter / 2 ^ 32 := by
  have now := total_eq r external counter
  have before := total_eq previous external counter
  refine ⟨?_, ?_⟩
  · rintro ⟨_, _, aligned⟩
    omega
  · rintro ⟨still, sameHigh⟩
    constructor
    · omega
    · omega
    · rw [still, sameHigh, sub_self, sub_self, mul_zero, add_zero]
      exact dvd_zero _

/-- The entry of a sample in the list of the external or of the internal interfaces. -/
def entry (external : Bool) (previous r : Report) : SubObjects.StatsEntry :=
  let sample := DeviceStats.sample previous.call r.call
  if external then sample.external else sample.internal

/-- When a difference is the true increase. -/
lemma listed_entry_iff (external : Bool) (previous r : Report) :
    listed (entry external previous r) = Report.increase external previous r ↔
      Report.Tracked external Interface.tx previous r ∧ Report.Tracked external Interface.rx previous r := by
  rw [← tracked_iff, ← tracked_iff]
  obtain ⟨extTx, extRx, intTx, intRx⟩ := call_eq r
  obtain ⟨extTx', extRx', intTx', intRx'⟩ := call_eq previous
  cases external with
  | true =>
    rw [← extTx, ← extRx, ← extTx', ← extRx']
    exact ⟨fun eq => Prod.ext_iff.mp (Prod.ext_iff.mp eq).2, fun eq => Prod.ext rfl (Prod.ext_iff.mpr eq)⟩
  | false =>
    rw [← intTx, ← intRx, ← intTx', ← intRx']
    exact ⟨fun eq => Prod.ext_iff.mp (Prod.ext_iff.mp eq).2, fun eq => Prod.ext rfl (Prod.ext_iff.mpr eq)⟩

/-- The samples kept are the last nineteen differences. -/
lemma listed_kept (rs : List Report) :
    ((DeviceStats.kept (rs.map Report.call)).map DeviceStats.Sample.external).map listed =
        (consecutive (fun previous r => listed (entry true previous r)) rs).rtake 19 ∧
      ((DeviceStats.kept (rs.map Report.call)).map DeviceStats.Sample.internal).map listed =
        (consecutive (fun previous r => listed (entry false previous r)) rs).rtake 19 := by
  rw [DeviceStats.kept, consecutive_map, map_rtake, map_rtake, map_rtake, map_rtake, map_consecutive,
    map_consecutive, map_consecutive, map_consecutive]
  exact ⟨rfl, rfl⟩

/-- What `Get` lists is what the calls for the reports make of their counters. -/
lemma listed_iff {serialNumber : String} (device : Utils.serialNumberToInt serialNumber = .ok serial)
    {external internal : List (Nat × Int × Int)} :
    (∃ stats, get (run memory messages) serialNumber {} = .ok stats ∧
      stats.external.map listed = external ∧ stats.internal.map listed = internal) ↔
    (consecutive (fun previous r => listed (entry true previous r)) (reports serial messages)).rtake 19 =
        external ∧
      (consecutive (fun previous r => listed (entry false previous r)) (reports serial messages)).rtake 19 =
        internal := by
  obtain ⟨stats, found, ext, int⟩ := get_messages memory device messages
  rw [← (listed_kept _).1, ← (listed_kept _).2, ← ext, ← int, found]
  refine ⟨?_, ?_⟩
  · rintro ⟨stats', same, lists⟩
    cases same
    exact lists
  · intro lists
    exact ⟨stats, rfl, lists⟩

end Messages

/-- What is recorded of a device are the increases of its totals, in every run of messages of any devices,
if and only if each two consecutive reports about the device are tracked. -/
theorem truthful_iff (memory : Nat → Memory) {serialNumber : String} {serial : Nat}
    (device : Utils.serialNumberToInt serialNumber = .ok serial) (messages : List Message) :
    Truthful memory serialNumber serial messages ↔
      ∀ past previous r, past ++ [previous] ++ [r] <+: reports serial messages → ∀ external,
        Report.Tracked external Interface.tx previous r ∧
          Report.Tracked external Interface.rx previous r := by
  have lists : Truthful memory serialNumber serial messages ↔ ∀ external past, past <+: reports serial messages →
      (consecutive (fun previous r => listed (entry external previous r)) past).rtake 19 =
        (consecutive (Report.increase external) past).rtake 19 := by
    refine ⟨?_, ?_⟩
    · intro truthful external past here
      obtain ⟨before, mem, eq⟩ := List.prefix_filterMap_iff.mp here
      obtain ⟨ext, int⟩ := (listed_iff device).mp (truthful before mem)
      rw [eq]
      cases external with
      | true => exact ext
      | false => exact int
    · intro same past here
      have known : reports serial past <+: reports serial messages :=
        List.prefix_filterMap_iff.mpr ⟨past, here, rfl⟩
      exact (listed_iff device).mpr ⟨same true _ known, same false _ known⟩
  rw [lists]
  refine ⟨?_, ?_⟩
  · intro same past previous r here external
    exact (listed_entry_iff external previous r).mp
      ((rtake_consecutive_iff (by decide)).mp (same external) past previous r here)
  · intro tracked external
    refine (rtake_consecutive_iff (by decide)).mpr fun past previous r here => ?_
    exact (listed_entry_iff external previous r).mpr (tracked past previous r here external)

/-- A state message of a device with one interface. -/
def stateMessage (time rx tx : Int) : Message :=
  let counters := Json.obj [("rx_bytes", .int rx), ("tx_bytes", .int tx)]
  let state := Json.obj [("interfaces", .arr [.obj [("counters", counters), ("location", .str "/interfaces/0")]]),
    ("unit", .obj [("localtime", .int time)]), ("version", .int 1)]
  { now := 0, document := some (.obj [("payload", .obj [("serial", .str "001122334455"), ("state", state)])]) }

/-- A counter below 2^32. -/
theorem truthful_below :
    Truthful (fun _ _ => 255) "001122334455" 0x1122334455 [stateMessage 1 10 20, stateMessage 2 15 21] := by
  refine (truthful_iff _ (by rfl) _).mpr fun past previous r here external => ?_
  have known : reports 0x1122334455 [stateMessage 1 10 20, stateMessage 2 15 21] =
      [⟨0, 0x1122334455, 1, [⟨true, 10, 20⟩]⟩, ⟨0, 0x1122334455, 2, [⟨true, 15, 21⟩]⟩] := by rfl
  rw [known] at here
  have first : past = [] := by
    have short := here.length_le
    simp only [List.length_append, List.length_cons, List.length_nil] at short
    exact List.eq_nil_of_length_eq_zero (by omega)
  rw [first] at here
  have eq := here.eq_of_length rfl
  cases eq
  cases external <;> constructor <;> constructor <;> decide

/-- A counter which passes 2^32. -/
theorem not_truthful_above :
    ¬ Truthful (fun _ _ => 255) "001122334455" 0x1122334455
      [stateMessage 1 4294967295 20, stateMessage 2 4294967305 21] := by
  intro truthful
  obtain ⟨external, _⟩ := (listed_iff (by rfl)).mp (truthful _ List.prefix_rfl)
  exact absurd external (by decide +kernel)

end UserPortal.StatsCache
