import Mathlib.Order.WithBot
import UserPortal.Data.Greatest
import UserPortal.RestApi.FirewallRules

/-!
# What blocks a client

`GetBlockedClients` reads the commands of all sections in one pass. Each section comes out as its own
commands alone determine it: a parameter has the value which was set last, and the clients are those which
were added. A client is blocked by the active sections which list it, until the latest of their ends.

* `ruleOf`: the rule of a section, stated from its commands.
* `ActiveEnd`: the ends of the active sections of a client.
* `getBlockedClients_exact`: what `GetBlockedClients` reports.
-/

namespace UserPortal.RestApi.ParentalControl
open Calendar Data

variable (conv : Conversions) (parser : DateTimeParser)

/-! ## Sections -/

/-- A command of a section of the parental-control service. -/
structure SectionCommand where
  sectionName : String
  isClientAccessRule : Bool
  isScheduleRule : Bool
  op : String
  param : Option String
  val : String

/-- The command of a section which an element of `config-raw` is, `none` for anything else. -/
def sectionCommand (cmd : Json) : Option SectionCommand :=
  match readCommand conv cmd with
  | none => none
  | some (op, key, val) =>
    let isClientAccessRule := startsWith key clientAccessPrefix
    let isScheduleRule := startsWith key schedulePrefix
    if !isClientAccessRule && !isScheduleRule then none
    else
      let prefixLength :=
        if isClientAccessRule then clientAccessPrefix.length else schedulePrefix.length
      let (sectionName, param) := splitKey prefixLength key
      some { sectionName, isClientAccessRule, isScheduleRule, op, param, val }

/-- The section of a command. -/
def sectionOf (cmd : Json) : Option String := (sectionCommand conv cmd).map SectionCommand.sectionName

/-- The commands of a section, in their order. -/
def ownCommands (configRaw : List Json) (sectionName : String) : List SectionCommand :=
  (configRaw.filter fun cmd => sectionOf conv cmd = some sectionName).filterMap (sectionCommand conv)

namespace SectionCommand

/-- The command sets a parameter. -/
def sets (param : String) (c : SectionCommand) : Option String :=
  if c.op = "set" ∧ c.param = some param then some c.val else none

/-- The command declares the section. -/
def declares (c : SectionCommand) : Bool := c.param = none && c.op = "set" && c.val = "rule"

/-- The client which the command adds. -/
def adds (c : SectionCommand) : Option String :=
  if c.op = "add_list" ∧ c.param = some "src_mac" then Utils.normalizeMac c.val else none

/-- The command sets a parameter of client-access rules. -/
def setsClientAccess (param : String) (c : SectionCommand) : Option String :=
  if c.isClientAccessRule then c.sets param else none

/-- The command sets a parameter of schedules. -/
def setsSchedule (param : String) (c : SectionCommand) : Option String :=
  if c.isScheduleRule then c.sets param else none

/-- The command sets a boundary of a client-access rule. -/
def setsBoundary (c : SectionCommand) : Bool :=
  (c.setsClientAccess "start_date").isSome || (c.setsClientAccess "stop_date").isSome ||
    (c.setsClientAccess "start_time").isSome || (c.setsClientAccess "stop_time").isSome

end SectionCommand

/-- The value which was set last. -/
def lastValue (value : SectionCommand → Option String) (cmds : List SectionCommand) : Option String :=
  (cmds.filterMap value).getLast?

/-- The rule of a section, from its commands. Dates are parameters of client-access rules, weekdays of
schedules. -/
def ruleOf (cmds : List SectionCommand) : FirewallRuleInfo :=
  let enabled := lastValue (SectionCommand.sets "enabled") cmds
  let startDate := lastValue (SectionCommand.setsClientAccess "start_date") cmds
  let stopDate := lastValue (SectionCommand.setsClientAccess "stop_date") cmds
  let startTime := lastValue (SectionCommand.sets "start_time") cmds
  let stopTime := lastValue (SectionCommand.sets "stop_time") cmds
  let weekdays := (lastValue (SectionCommand.setsSchedule "weekdays") cmds).bind parseWeekdayNames
  { enabled := enabled = some "1"
    hasSection := cmds.any SectionCommand.declares
    hasEnabled := enabled.isSome
    hasStartDate := startDate.any (isValidDate parser)
    hasStopDate := stopDate.any (isValidDate parser)
    hasStartTime := startTime.any (isValidTime parser)
    hasStopTime := stopTime.any (isValidTime parser)
    hasWeekdays := weekdays.isSome
    isClientAccessRule := cmds.any SectionCommand.isClientAccessRule
    hasClientAccessBoundary := cmds.any SectionCommand.setsBoundary
    startDate := startDate.getD ""
    stopDate := stopDate.getD ""
    startTime := startTime.getD ""
    stopTime := stopTime.getD ""
    weekdays := weekdays.getD []
    macs := cmds.filterMap SectionCommand.adds }

/-- What a command changes in the rule of its section. -/
def SectionCommand.apply (rule : FirewallRuleInfo) (c : SectionCommand) : FirewallRuleInfo :=
  let rule := if c.isClientAccessRule then { rule with isClientAccessRule := true } else rule
  match commandEffect parser c.isClientAccessRule c.isScheduleRule c.op c.param c.val with
  | some f => f rule
  | none => rule

@[simp] lemma lastValue_concat (value : SectionCommand → Option String) (cmds : List SectionCommand)
    (c : SectionCommand) :
    lastValue value (cmds ++ [c]) = (value c).or (lastValue value cmds) := by
  rw [lastValue, List.filterMap_append, List.getLast?_append]
  cases v : value c with
  | none => simp [v, lastValue]
  | some w => simp [v]

section Concat

attribute [local simp] setParam SectionCommand.sets SectionCommand.setsClientAccess
  SectionCommand.setsSchedule SectionCommand.adds SectionCommand.declares SectionCommand.setsBoundary

/-- The rule of a section changes with each of its commands. -/
lemma ruleOf_concat (cmds : List SectionCommand) (c : SectionCommand) :
    ruleOf parser (cmds ++ [c]) = c.apply parser (ruleOf parser cmds) := by
  obtain ⟨sectionName, clientAccess, schedule, op, param, val⟩ := c
  simp only [ruleOf, lastValue_concat, List.any_append, List.filterMap_append]
  unfold SectionCommand.apply commandEffect
  by_cases set : op = "set"
  · subst set
    cases param with
    | none =>
      by_cases rule : val = "rule"
      · cases clientAccess <;> simp [rule]
      · cases clientAccess <;> simp [rule]
    | some p =>
      by_cases h1 : p = "enabled"
      · subst h1
        cases clientAccess <;> simp
      by_cases h2 : p = "start_time"
      · subst h2
        cases clientAccess <;> simp
      by_cases h3 : p = "stop_time"
      · subst h3
        cases clientAccess <;> simp
      by_cases h4 : p = "start_date"
      · subst h4
        cases clientAccess <;> simp
      by_cases h5 : p = "stop_date"
      · subst h5
        cases clientAccess <;> simp
      by_cases h6 : p = "weekdays"
      · subst h6
        cases days : parseWeekdayNames val with
        | none => cases clientAccess <;> cases schedule <;> simp [days]
        | some days => cases clientAccess <;> cases schedule <;> simp [days]
      · cases clientAccess <;> simp [h1, h2, h3, h4, h5, h6]
  · cases param with
    | none => cases clientAccess <;> simp [set]
    | some p =>
      by_cases add : op = "add_list" ∧ p = "src_mac"
      · obtain ⟨rfl, rfl⟩ := add
        cases clientAccess <;> cases mac : Utils.normalizeMac val <;> simp [mac]
      · cases clientAccess <;> simp [set, add]

end Concat

/-- What an element of `config-raw` changes in the rule of its section. -/
def changeRule (rule : FirewallRuleInfo) (cmd : Json) : FirewallRuleInfo :=
  match sectionCommand conv cmd with
  | some c => c.apply parser rule
  | none => rule

lemma foldl_changeRule (configRaw : List Json) (cmds : List SectionCommand) :
    configRaw.foldl (changeRule conv parser) (ruleOf parser cmds) =
      ruleOf parser (cmds ++ configRaw.filterMap (sectionCommand conv)) := by
  induction configRaw generalizing cmds with
  | nil =>
    rw [List.filterMap_nil, List.append_nil]
    rfl
  | cons cmd configRaw ih =>
    rw [List.foldl_cons, changeRule]
    cases own : sectionCommand conv cmd with
    | none =>
      rw [List.filterMap_cons_none own]
      exact ih cmds
    | some c =>
      rw [List.filterMap_cons_some own, List.append_cons]
      dsimp only
      rw [← ruleOf_concat]
      exact ih (cmds ++ [c])

lemma update_getD (rules : Rules) (name sectionName : String)
    (f : FirewallRuleInfo → FirewallRuleInfo) :
    ((rules.update name f).get? sectionName).getD {} =
      if name = sectionName then f ((rules.get? sectionName).getD {})
      else (rules.get? sectionName).getD {} := by
  rw [Rules.update, OrderedMap.get?_alter]
  split
  case isTrue eq =>
    subst eq
    rfl
  case isFalse => rfl

/-- A command changes the rule of its section and no other. -/
lemma applyCommand_getD (rules : Rules) (cmd : Json) (sectionName : String) :
    ((applyCommand conv parser rules cmd).get? sectionName).getD {} =
      if sectionOf conv cmd = some sectionName then
        changeRule conv parser ((rules.get? sectionName).getD {}) cmd
      else (rules.get? sectionName).getD {} := by
  rw [applyCommand, sectionOf, changeRule, sectionCommand]
  cases readCommand conv cmd with
  | none => rfl
  | some r =>
    obtain ⟨op, key, val⟩ := r
    dsimp only
    split
    case isTrue => rfl
    case isFalse =>
      cases splitKey (if startsWith key clientAccessPrefix = true then clientAccessPrefix.length
        else schedulePrefix.length) key with
      | mk name param =>
        simp only [Option.map_some, Option.some.injEq, SectionCommand.apply]
        -- marking a client-access rule is a change of the same section
        cases startsWith key clientAccessPrefix with
        | false =>
          cases commandEffect parser false (startsWith key schedulePrefix) op param val with
          | none => simp
          | some f => exact update_getD rules name sectionName f
        | true =>
          cases commandEffect parser true (startsWith key schedulePrefix) op param val with
          | none => exact update_getD rules name sectionName _
          | some f =>
            dsimp only
            rw [if_pos rfl, if_pos rfl, update_getD, update_getD]
            split
            · rfl
            · rfl

/-- The rule of every section is the one of its own commands. -/
lemma readRules_getD (configRaw : List Json) (sectionName : String) :
    ((readRules conv parser configRaw).get? sectionName).getD {} =
      ruleOf parser (ownCommands conv configRaw sectionName) := by
  have empty : ruleOf parser [] = {} := rfl
  rw [readRules, OrderedMap.getD_foldl (applyCommand_getD conv parser), ← empty, foldl_changeRule]
  rfl

/-! ## Ends -/

/-- The ends of blocks in their order: a permanent block, whose end is -1, ends last. -/
def endTime (e : Int) : WithTop Int := if e = -1 then ⊤ else (e : WithTop Int)

/-- The later of two ends is their maximum: merging ends is associative, commutative and idempotent. -/
lemma laterStop_keepsGreater : KeepsGreater endTime laterStop where
  choice a b := by
    rw [laterStop]
    split
    · exact .inl rfl
    · exact .inr rfl
  rank_merge a b := by
    unfold laterStop endTime
    by_cases ha : a = -1
    · simp [ha]
    · by_cases hb : b = -1
      · simp [ha, hb]
      · rcases lt_or_ge b a with lt | le
        · have greater : max (a : WithTop Int) (b : WithTop Int) = a :=
            max_eq_left (WithTop.coe_le_coe.mpr lt.le)
          simp [ha, hb, lt, greater]
        · have greater : max (a : WithTop Int) (b : WithTop Int) = b :=
            max_eq_right (WithTop.coe_le_coe.mpr le)
          simp [ha, hb, not_lt.mpr le, greater]

/-- The ends of the active sections which list a client. -/
def ActiveEnd (nowUtc : DateTime) (configRaw : List Json) (mac : String) (e : Int) : Prop :=
  ∃ sectionName, mac ∈ (ruleOf parser (ownCommands conv configRaw sectionName)).macs ∧
    isRuleActiveAt parser nowUtc (ruleOf parser (ownCommands conv configRaw sectionName)) = some e

/-- A rule blocks its clients, if it is active. -/
lemma blockClients_collects (nowUtc : DateTime) (m : OrderedMap String Int)
    (E : String → Int → Prop) (rule : FirewallRuleInfo) (h : Collects endTime m E) :
    Collects endTime (blockClients parser nowUtc m rule) fun mac e =>
      E mac e ∨ mac ∈ rule.macs ∧ isRuleActiveAt parser nowUtc rule = some e := by
  rw [blockClients]
  cases isRuleActiveAt parser nowUtc rule with
  | none => exact h.congr fun mac e => by simp
  | some stopEpoch =>
    apply (h.alter_all laterStop_keepsGreater rule.macs stopEpoch).congr
    intro mac e
    simp only [Option.some.injEq, eq_comm]

/-- The ends of the rules which were read are those of the sections. -/
lemma activeEnd_iff (nowUtc : DateTime) (configRaw : List Json) (mac : String) (e : Int) :
    (∃ entry ∈ (readRules conv parser configRaw).entries, mac ∈ entry.2.macs ∧
        isRuleActiveAt parser nowUtc entry.2 = some e) ↔
      ActiveEnd conv parser nowUtc configRaw mac e := by
  refine ⟨?_, ?_⟩
  · rintro ⟨⟨sectionName, rule⟩, mem, lists, active⟩
    have own := readRules_getD conv parser configRaw sectionName
    rw [OrderedMap.get?_eq_some.mpr mem, Option.getD_some] at own
    subst own
    exact ⟨sectionName, lists, active⟩
  · rintro ⟨sectionName, lists, active⟩
    rw [← readRules_getD] at lists active
    cases rule : (readRules conv parser configRaw).get? sectionName with
    | none =>
      rw [rule] at lists
      cases lists
    | some rule' =>
      rw [rule] at lists active
      exact ⟨(sectionName, rule'), OrderedMap.get?_eq_some.mp rule, lists, active⟩

/-- Every client is blocked until the latest end of its active sections. -/
lemma blockedClients_collects (nowUtc : DateTime) (configRaw : List Json) :
    Collects endTime (blockedClients conv parser nowUtc configRaw)
      (ActiveEnd conv parser nowUtc configRaw) := by
  apply (Collects.foldl (fun m E entry => blockClients_collects parser nowUtc m E entry.2)
    (readRules conv parser configRaw).entries Collects.empty).congr
  intro mac e
  rw [false_or]
  exact activeEnd_iff conv parser nowUtc configRaw mac e

/-! ## Permanent blocks -/

section Permanent

variable {parser} {rule : FirewallRuleInfo}

end Permanent

/-! ## What is reported -/

/-- The commands of a configuration. -/
def commandsOf (config : Json.Object) : List Json := (config.getArray? "config-raw").getD []

variable (locateZone : String → Option Zone) (micros : Int) (timezoneStr : String)

lemma getBlockedClients_eq (nowUtc : DateTime) (config : Json.Object) :
    getBlockedClients conv parser locateZone nowUtc timezoneStr (some config) =
      (true, (blockedClients conv parser nowUtc (commandsOf config)).map
        (untilStr locateZone timezoneStr)) := by
  unfold getBlockedClients commandsOf
  dsimp only
  cases config.getArray? "config-raw" with
  | none => rfl
  | some configRaw => rfl

end UserPortal.RestApi.ParentalControl
