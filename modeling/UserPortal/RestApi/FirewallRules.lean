import UserPortal.Calendar.Zone
import UserPortal.Data.Ordered
import UserPortal.Framework.DateTime
import UserPortal.Framework.Dynamic
import UserPortal.Framework.Utils

/-!
# Blocked clients

Port of the blocked-client evaluation of `src/RESTAPI/RESTAPI_parental_control_utils.cpp`. The
`config-raw` of a gateway is a list of commands, which build up the sections of its firewall;
`GetBlockedClients` reads the sections of the parental-control service back and finds the clients which
they block now.

A function which returns `false` or an end in a reference parameter returns an `Option` here; the end
of a permanent block is -1.
-/

namespace UserPortal.RestApi.ParentalControl
open Calendar Data

/-- `FirewallRuleInfo` -/
structure FirewallRuleInfo where
  enabled : Bool := false
  hasSection : Bool := false
  hasEnabled : Bool := false
  hasStartDate : Bool := false
  hasStopDate : Bool := false
  hasStartTime : Bool := false
  hasStopTime : Bool := false
  hasWeekdays : Bool := false
  isClientAccessRule : Bool := false
  hasClientAccessBoundary : Bool := false
  startDate : String := ""
  stopDate : String := ""
  startTime : String := ""
  stopTime : String := ""
  weekdays : List Int := []
  macs : List String := []
  deriving DecidableEq

variable (conv : Conversions) (parser : DateTimeParser)

/-! ## Active rules -/

/-- `IsValidDate` -/
def isValidDate (date : String) : Bool := date.length = 10 && (parser.tryParse "%Y-%m-%d" date).isSome

/-- `IsValidTime` -/
def isValidTime (time : String) : Bool := time.length = 8 && (parser.tryParse "%H:%M:%S" time).isSome

/-- The end of a block, when it is later than now. -/
def stopEpoch (stopStr : String) (nowUtc : DateTime) : Option Int :=
  match parser.tryParse "%Y-%m-%d %H:%M:%S" stopStr with
  | some stopDt => if stopDt.utcTime ≤ nowUtc.utcTime then none else some stopDt.epochTime
  | none => none

/-- Where a rule with weekdays stops, when it is active: its stop time today or, in an overnight
window which has begun today, tomorrow. -/
def weekdayStop (nowUtcWeekday : Int) (nowDateStr nowTimeStr : String) (rule : FirewallRuleInfo)
    (nowUtc : DateTime) : Option String :=
  let start := rule.startTime
  let stop := rule.stopTime
  if start < stop then
    if nowUtcWeekday ∈ rule.weekdays ∧ start ≤ nowTimeStr ∧ nowTimeStr < stop then
      some (nowDateStr ++ " " ++ stop)
    else none
  else
    let previousWeekday := (nowUtcWeekday + 6).tmod 7
    if nowUtcWeekday ∈ rule.weekdays ∧ start ≤ nowTimeStr then
      some ((nowUtc.add (timespan 86400)).formatDate ++ " " ++ stop)
    else if previousWeekday ∈ rule.weekdays ∧ nowTimeStr < stop then
      some (nowDateStr ++ " " ++ stop)
    else none

/-- `IsRuleActive`: the end of the block, `none` when the rule is not active. -/
def isRuleActive (nowUtcWeekday : Int) (nowDateStr nowTimeStr : String) (rule : FirewallRuleInfo)
    (nowUtc : DateTime) : Option Int :=
  if !rule.hasSection || !rule.hasEnabled || !rule.enabled then none
  else if rule.macs = [] then none
  else if rule.hasWeekdays then
    if !rule.hasStartTime || !rule.hasStopTime then none
    else if rule.startTime = rule.stopTime then none
    else
      match weekdayStop nowUtcWeekday nowDateStr nowTimeStr rule nowUtc with
      | some stopStr => stopEpoch parser stopStr nowUtc
      | none => none
  else if !rule.isClientAccessRule then none
  else if !rule.hasClientAccessBoundary then some (-1)
  else if !rule.hasStartDate || !rule.hasStopDate || !rule.hasStartTime || !rule.hasStopTime then none
  else
    let nowStr := nowDateStr ++ " " ++ nowTimeStr
    if nowStr < rule.startDate ++ " " ++ rule.startTime then none
    else
      -- a window within one day stops on its start date, its stop date being the day after
      let stopDate := if rule.startTime ≤ rule.stopTime then rule.startDate else rule.stopDate
      let stopStr := stopDate ++ " " ++ rule.stopTime
      if stopStr ≤ nowStr then none else stopEpoch parser stopStr nowUtc

/-- `IsRuleActive` as `GetBlockedClients` calls it, with what it takes from the clock. -/
def isRuleActiveAt (nowUtc : DateTime) (rule : FirewallRuleInfo) : Option Int :=
  isRuleActive parser nowUtc.dayOfWeek nowUtc.formatDate nowUtc.formatTime rule nowUtc

/-- A rule which blocks its clients without an end: a client-access rule with neither weekdays nor a
boundary. -/
structure FirewallRuleInfo.Permanent (rule : FirewallRuleInfo) : Prop where
  hasSection : rule.hasSection = true
  enabled : rule.hasEnabled = true ∧ rule.enabled = true
  macs : rule.macs ≠ []
  noWeekdays : rule.hasWeekdays = false
  isClientAccessRule : rule.isClientAccessRule = true
  noBoundary : rule.hasClientAccessBoundary = false

variable {parser} in
lemma FirewallRuleInfo.Permanent.active {rule : FirewallRuleInfo} (h : rule.Permanent) (nowUtc : DateTime) :
    isRuleActiveAt parser nowUtc rule = some (-1) := by
  rw [isRuleActiveAt, isRuleActive]
  rw [h.hasSection, h.enabled.1, h.enabled.2, h.noWeekdays, h.isClientAccessRule, h.noBoundary,
    if_neg h.macs]
  rfl

/-! ## Reading the commands -/

def clientAccessPrefix : String := "firewall.pc_client_access_"

def schedulePrefix : String := "firewall.pc_rule_g"

/-- `key.rfind(start, 0) == 0` -/
def startsWith (key start : String) : Bool := start.toList.isPrefixOf key.toList

/-- The section of a key and the parameter after the first dot behind its prefix, if there is one. -/
def splitKey (prefixLength : Nat) (key : String) : String × Option String :=
  let rest := key.toList.drop prefixLength
  match rest.dropWhile (· ≠ '.') with
  | [] => (key, none)
  | _ :: param =>
    (String.ofList (key.toList.take prefixLength ++ rest.takeWhile (· ≠ '.')),
      some (String.ofList param))

/-- The value without its quotes. -/
def unquote (val : String) : String :=
  match val.toList with
  | '\'' :: c :: cs =>
    if (c :: cs).getLast? = some '\'' then String.ofList (c :: cs).dropLast else val
  | _ => val

/-- The words which `stream >> token` reads. -/
def tokens : List Char → List Char → List String
  | [], word => if word = [] then [] else [String.ofList word]
  | c :: cs, word =>
    if Utils.isSpace c then
      if word = [] then tokens cs [] else String.ofList word :: tokens cs []
    else tokens cs (word ++ [c])

/-- The number of a weekday. -/
def weekdayNumber (token : String) : Option Int :=
  if token = "Sun" then some 0
  else if token = "Mon" then some 1
  else if token = "Tue" then some 2
  else if token = "Wed" then some 3
  else if token = "Thu" then some 4
  else if token = "Fri" then some 5
  else if token = "Sat" then some 6
  else none

/-- The weekdays of a value, when it has some and all are valid. -/
def parseWeekdayNames (val : String) : Option (List Int) :=
  match (tokens (unquote val).toList []).mapM weekdayNumber with
  | some (day :: days) => some (toSet (day :: days))
  | _ => none

/-- What setting a parameter changes, `none` when nothing does. -/
def setParam (isClientAccessRule isScheduleRule : Bool) (param val : String) :
    Option (FirewallRuleInfo → FirewallRuleInfo) :=
  let boundary (rule : FirewallRuleInfo) :=
    if isClientAccessRule then { rule with hasClientAccessBoundary := true } else rule
  if param = "enabled" then
    some fun rule => { rule with enabled := val = "1", hasEnabled := true }
  else if param = "start_time" then
    some fun rule => { boundary rule with startTime := val, hasStartTime := isValidTime parser val }
  else if param = "stop_time" then
    some fun rule => { boundary rule with stopTime := val, hasStopTime := isValidTime parser val }
  else if isClientAccessRule && param = "start_date" then
    some fun rule => { boundary rule with startDate := val, hasStartDate := isValidDate parser val }
  else if isClientAccessRule && param = "stop_date" then
    some fun rule => { boundary rule with stopDate := val, hasStopDate := isValidDate parser val }
  else if isScheduleRule && param = "weekdays" then
    match parseWeekdayNames val with
    | some days => some fun rule => { rule with weekdays := days, hasWeekdays := true }
    | none => some fun rule => { rule with weekdays := [], hasWeekdays := false }
  else none

/-- The operation, the key and the value of a command, `none` where it has not three strings. -/
def readCommand (cmd : Json) : Option (String × String × String) :=
  match cmd.array? with
  | some [op, key, val] => do
    let op ← conv.toString op
    let key ← conv.toString key
    let val ← conv.toString val
    return (op, key, val)
  | _ => none

/-- `std::map<std::string, FirewallRuleInfo>` -/
abbrev Rules := OrderedMap String FirewallRuleInfo

/-- Change the rule of a section. -/
def Rules.update (rules : Rules) (section_ : String) (f : FirewallRuleInfo → FirewallRuleInfo) :
    Rules := rules.alter section_ f {}

/-- What a command does to the rule of its section, `none` when nothing. A key without a parameter
declares the section. -/
def commandEffect (isClientAccessRule isScheduleRule : Bool) (op : String) (param : Option String)
    (val : String) : Option (FirewallRuleInfo → FirewallRuleInfo) :=
  match param with
  | none =>
    if op = "set" ∧ val = "rule" then some fun rule => { rule with hasSection := true } else none
  | some param =>
    if op = "set" then setParam parser isClientAccessRule isScheduleRule param val
    else if op = "add_list" ∧ param = "src_mac" then
      match Utils.normalizeMac val with
      | some mac => some fun rule => { rule with macs := rule.macs ++ [mac] }
      | none => none
    else none

/-- The loop body of `GetBlockedClients` over the commands. -/
def applyCommand (rules : Rules) (cmd : Json) : Rules :=
  match readCommand conv cmd with
  | none => rules
  | some (op, key, val) =>
    let isClientAccessRule := startsWith key clientAccessPrefix
    let isScheduleRule := startsWith key schedulePrefix
    if !isClientAccessRule && !isScheduleRule then rules
    else
      let prefixLength :=
        if isClientAccessRule then clientAccessPrefix.length else schedulePrefix.length
      let (section_, param) := splitKey prefixLength key
      let rules :=
        if isClientAccessRule then
          rules.update section_ fun rule => { rule with isClientAccessRule := true }
        else rules
      match commandEffect parser isClientAccessRule isScheduleRule op param val with
      | some f => rules.update section_ f
      | none => rules

/-- The rules of a list of commands. -/
def readRules (configRaw : List Json) : Rules := configRaw.foldl (applyCommand conv parser) .empty

/-! ## Blocked clients -/

/-- The later end of two, -1 being the latest. -/
def laterStop (stopEpoch old : Int) : Int :=
  if stopEpoch = -1 ∨ (old ≠ -1 ∧ stopEpoch > old) then stopEpoch else old

/-- The loop body of `GetBlockedClients` over the rules. -/
def blockClients (nowUtc : DateTime) (macStopEpochMap : OrderedMap String Int)
    (rule : FirewallRuleInfo) : OrderedMap String Int :=
  match isRuleActiveAt parser nowUtc rule with
  | some stopEpoch => rule.macs.foldl (fun m mac => m.alter mac (laterStop stopEpoch) stopEpoch) macStopEpochMap
  | none => macStopEpochMap

/-- The text of the end of a block, in the time zone when it is known. -/
def untilStr (locateZone : String → Option Zone) (timezoneStr : String) (stopEpoch : Int) : String :=
  if stopEpoch = -1 then "indefinite"
  else
    match if timezoneStr = "" then none else locateZone timezoneStr with
    | some zone =>
      let localTp := zone.toLocal stopEpoch
      formatStamp (localTp / 86400) (localTp % 86400)
    | none =>
      let stopDt := DateTime.ofSeconds stopEpoch
      stopDt.formatDate ++ " " ++ stopDt.formatTime

/-- The end of the block of every client that is blocked. -/
def blockedClients (nowUtc : DateTime) (configRaw : List Json) : OrderedMap String Int :=
  (readRules conv parser configRaw).entries.foldl (fun m e => blockClients parser nowUtc m e.2) .empty

/-- `GetBlockedClients` -/
def getBlockedClients (locateZone : String → Option Zone) (nowUtc : DateTime) (timezoneStr : String)
    (config : Option Json.Object) : Bool × OrderedMap String String :=
  match config with
  | none => (false, .empty)
  | some config =>
    match config.getArray? "config-raw" with
    | none => (true, .empty)
    | some configRaw =>
      (true, (blockedClients conv parser nowUtc configRaw).map (untilStr locateZone timezoneStr))

end UserPortal.RestApi.ParentalControl
