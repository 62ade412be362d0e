import UserPortal.Interaction.Failure
import UserPortal.RestApi.FirewallRules

/-!
# Sections of the parental-control service

The commands with which the parental-control service declares the section of a rule, and the rule which
`GetBlockedClients` reads back from them. The service is not part of the repository: a schedule is
written with its UTC times as `HH:MM:00` and the names of its weekdays, a timed block with the dates
and times it was requested with.
-/

namespace UserPortal.RestApi.ParentalControl
open Calendar Data

def command (op key val : String) : Json := .arr [.str op, .str key, .str val]

/-- The name of a section behind its prefix. -/
structure SectionName where
  text : String
  no_dot : '.' ∉ text.toList

/-- The key of a parameter of the section. -/
def SectionName.key (name : SectionName) (start param : String) : String :=
  start ++ (name.text ++ "." ++ param)

/-- The section of a timed block. -/
def timedBlockCommands (name : SectionName) (startDate startTime stopDate stopTime mac : String) :
    List Json :=
  [command "set" (clientAccessPrefix ++ name.text) "rule",
    command "set" (name.key clientAccessPrefix "enabled") "1",
    command "set" (name.key clientAccessPrefix "start_date") startDate,
    command "set" (name.key clientAccessPrefix "start_time") startTime,
    command "set" (name.key clientAccessPrefix "stop_date") stopDate,
    command "set" (name.key clientAccessPrefix "stop_time") stopTime,
    command "add_list" (name.key clientAccessPrefix "src_mac") mac]

/-- The section of the timed block which a client-access request asks for. -/
def renderTimedBlock (name : SectionName) (body : Json.Object) : Option (List Json) := do
  let startDate ← body.getString? "start_date"
  let startTime ← body.getString? "start_time"
  let stopDate ← body.getString? "stop_date"
  let stopTime ← body.getString? "stop_time"
  let clientMac ← body.getString? "client_mac"
  return timedBlockCommands name startDate startTime stopDate stopTime clientMac

/-! ## Keys -/

/-- A text starts with its first part. -/
lemma startsWith_append (start rest : String) : startsWith (start ++ rest) start = true := by
  rw [startsWith, String.toList_append]
  exact List.isPrefixOf_iff_prefix.mpr (List.prefix_append _ _)

/-- The name of a section has no dot. -/
lemma SectionName.all_ne_dot (name : SectionName) :
    ∀ c ∈ name.text.toList, decide (c ≠ '.') = true := by
  intro c hc
  have ne : c ≠ '.' := fun e => name.no_dot (e ▸ hc)
  simpa using ne

/-- The key of a section has no parameter. -/
lemma splitKey_section (start : String) (name : SectionName) :
    splitKey start.length (start ++ name.text) = (start ++ name.text, none) := by
  have all : (name.text.toList ++ []).dropWhile (· ≠ '.') = [].dropWhile (· ≠ '.') :=
    List.dropWhile_append_of_pos name.all_ne_dot
  rw [List.append_nil, List.dropWhile_nil] at all
  simp only [splitKey, String.toList_append, ← String.length_toList, List.drop_left, all]

/-- The key of a parameter is split at its dot. -/
lemma splitKey_param (start : String) (name : SectionName) (param : String) :
    splitKey start.length (name.key start param) = (start ++ name.text, some param) := by
  have dot : (".").toList = ['.'] := rfl
  have rest : (name.key start param).toList.drop start.length =
      name.text.toList ++ '.' :: param.toList := by
    simp only [SectionName.key, String.toList_append, List.append_assoc, ← String.length_toList,
      List.drop_left, dot, List.singleton_append]
  have front : (name.key start param).toList.take start.length = start.toList := by
    simp only [SectionName.key, String.toList_append, List.append_assoc, ← String.length_toList,
      List.take_left]
  simp only [splitKey]
  rw [rest, front, List.dropWhile_append_of_pos name.all_ne_dot,
    List.takeWhile_append_of_pos name.all_ne_dot]
  simp [String.ofList_append]

/-- A key of a client-access rule is no key of a schedule. -/
lemma startsWith_clientAccess (rest : String) :
    startsWith (clientAccessPrefix ++ rest) schedulePrefix = false := by
  rw [startsWith, String.toList_append]
  rfl

/-! ## Commands -/

section Commands

variable {conv : Conversions} {parser : DateTimeParser} {rules : Rules} {name : SectionName}

/-- A printed command reads back. -/
lemma readCommand_command (op key val : String) :
    readCommand conv (command op key val) = some (op, key, val) := by
  simp only [readCommand, command, Json.array?, conv.toString_str]
  rfl

/-- A command of a client-access rule marks and changes its rule. -/
lemma applyCommand_clientAccess {op val rest : String} {param : Option String}
    {f : FirewallRuleInfo → FirewallRuleInfo}
    (key : splitKey clientAccessPrefix.length (clientAccessPrefix ++ rest) =
      (clientAccessPrefix ++ name.text, param))
    (effect : commandEffect parser true false op param val = some f) :
    applyCommand conv parser rules (command op (clientAccessPrefix ++ rest) val) =
      (rules.update (clientAccessPrefix ++ name.text) fun rule =>
        { rule with isClientAccessRule := true }).update (clientAccessPrefix ++ name.text) f := by
  rw [applyCommand]
  rw [readCommand_command]
  simp only [startsWith_clientAccess, startsWith_append, Bool.not_true, Bool.false_and,
    Bool.false_eq_true, if_false, if_true, key, effect]

/-! ## Weekdays -/

/-- A formatted time is valid. -/
lemma isValidTime_formatTime {s : Int} (h : 0 ≤ s ∧ s < 86400) :
    isValidTime parser (formatTime s) = true := by
  rw [isValidTime, formatTime_length h, parser.time s h]
  rfl

/-- A formatted date is valid. -/
lemma isValidDate_formatDate {z : Int} (h : FourDigitYear z) :
    isValidDate parser (formatDate z) = true := by
  rw [isValidDate, formatDate_length h, parser.date z h]
  rfl

/-- The rule of a timed block. -/
def timedBlockRule (startDate startTime stopDate stopTime mac : String) : FirewallRuleInfo where
  hasSection := true
  enabled := true
  hasEnabled := true
  isClientAccessRule := true
  hasClientAccessBoundary := true
  startDate
  hasStartDate := true
  startTime
  hasStartTime := true
  stopDate
  hasStopDate := true
  stopTime
  hasStopTime := true
  macs := [mac]

/-- The section of a timed block is read back as its rule. -/
lemma readRules_timedBlockCommands {startDate startTime stopDate stopTime mac normalized : String}
    (hasStartDate : isValidDate parser startDate = true)
    (hasStartTime : isValidTime parser startTime = true)
    (hasStopDate : isValidDate parser stopDate = true)
    (hasStopTime : isValidTime parser stopTime = true)
    (valid : Utils.normalizeMac mac = some normalized) :
    readRules conv parser (timedBlockCommands name startDate startTime stopDate stopTime mac) =
      .single (clientAccessPrefix ++ name.text)
        (timedBlockRule startDate startTime stopDate stopTime normalized) := by
  have macs : commandEffect parser true false "add_list" (some "src_mac") mac =
      some fun rule => { rule with macs := rule.macs ++ [normalized] } := by
    rw [commandEffect, valid]
    rfl
  have start_date : commandEffect parser true false "set" (some "start_date") startDate =
      some fun rule => { rule with
        hasClientAccessBoundary := true, startDate, hasStartDate := isValidDate parser startDate } := by
    simp [commandEffect, setParam]
  have stop_date : commandEffect parser true false "set" (some "stop_date") stopDate =
      some fun rule => { rule with
        hasClientAccessBoundary := true, stopDate, hasStopDate := isValidDate parser stopDate } := by
    simp [commandEffect, setParam]
  have key := splitKey_param clientAccessPrefix name
  simp only [readRules, timedBlockCommands, List.foldl_cons, List.foldl_nil, SectionName.key]
  rw [applyCommand_clientAccess (splitKey_section _ _) rfl,
    applyCommand_clientAccess (key "enabled") rfl, applyCommand_clientAccess (key "start_date") start_date,
    applyCommand_clientAccess (key "start_time") rfl, applyCommand_clientAccess (key "stop_date") stop_date,
    applyCommand_clientAccess (key "stop_time") rfl, applyCommand_clientAccess (key "src_mac") macs]
  simp only [Rules.update, OrderedMap.alter_empty, OrderedMap.alter_single]
  rw [hasStartDate, hasStartTime, hasStopDate, hasStopTime]
  rfl

end Commands

end UserPortal.RestApi.ParentalControl
