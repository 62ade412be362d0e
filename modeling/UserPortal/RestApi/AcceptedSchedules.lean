import UserPortal.RestApi.ScheduleRequests

/-!
# Accepted schedules

The bodies which `ParseAndValidateScheduleRequest` accepts, and what the payload for the service keeps of
them.
-/

namespace UserPortal.RestApi.ParentalControl
open Calendar Data Interaction

variable {conv : Conversions} {body : Json.Object} {enabledRequired : Bool}

/-! ## Times and weekdays -/

/-- A digit is the character of its value. -/
lemma digitChar_of_isDigit {c : Char} (h : c.isDigit = true) :
    ∃ n < 10, c.toNat = n + 48 ∧ Nat.digitChar n = c := by
  have chars : ∀ n < 10, Nat.digitChar n = Char.ofNat (n + 48) := by decide
  simp only [Char.isDigit, Bool.and_eq_true, decide_eq_true_eq] at h
  have lo : 48 ≤ c.toNat := h.1
  have hi : c.toNat ≤ 57 := h.2
  refine ⟨c.toNat - 48, by omega, by omega, ?_⟩
  rw [chars _ (by omega), show c.toNat - 48 + 48 = c.toNat by omega, Char.ofNat_toNat]

/-- `ParseTimeString` reads what `MinuteToTimeString` writes, and nothing else. -/
lemma parseTimeString_iff {v : Json} {m : Int} :
    parseTimeString v = some m ↔ ∃ s, v = .str s ∧ minuteToTimeString m = some s := by
  refine ⟨?_, ?_⟩
  · intro h
    have bounds := parseTimeString_bounds h
    unfold parseTimeString at h
    split at h
    case h_2 => cases h
    case h_1 s =>
      refine ⟨s, rfl, ?_⟩
      split at h
      case h_2 => cases h
      case h_1 a b c d eq =>
        split at h
        case isFalse => cases h
        case isTrue digits =>
          simp only [Bool.and_eq_true] at digits
          obtain ⟨na, la, ea, rfl⟩ := digitChar_of_isDigit digits.1.1.1
          obtain ⟨nb, lb, eb, rfl⟩ := digitChar_of_isDigit digits.1.1.2
          obtain ⟨nc, lc, ec, rfl⟩ := digitChar_of_isDigit digits.1.2
          obtain ⟨nd, ld, ed, rfl⟩ := digitChar_of_isDigit digits.2
          dsimp only at h
          split at h
          case isTrue => cases h
          case isFalse small =>
            rw [Option.some_inj] at h
            have hour : m / 60 = ((na * 10 + nb : Nat) : Int) := by omega
            have minute : m % 60 = ((nc * 10 + nd : Nat) : Int) := by omega
            have text : s = String.ofList [Nat.digitChar na, Nat.digitChar nb, ':', Nat.digitChar nc,
                Nat.digitChar nd] := by
              rw [← eq, String.ofList_toList]
            rw [minuteToTimeString, if_neg (by omega), Int.tdiv_eq_ediv_of_nonneg bounds.1,
              Int.tmod_eq_emod_of_nonneg bounds.1, hour, minute, pad0, pad0, if_neg (by omega),
              if_neg (by omega), Int.toNat_natCast, Int.toNat_natCast, padDigits_two (by omega),
              padDigits_two (by omega), show (na * 10 + nb) / 10 = na by omega,
              show (na * 10 + nb) % 10 = nb by omega, show (nc * 10 + nd) / 10 = nc by omega,
              show (nc * 10 + nd) % 10 = nd by omega, text]
            rfl
  · rintro ⟨s, rfl, written⟩
    have bounds : 0 ≤ m ∧ m < 1440 := by
      rw [minuteToTimeString] at written
      split at written
      case isTrue => cases written
      case isFalse inside => omega
    obtain ⟨s', written', parsed⟩ := parseTimeString_minuteToTimeString bounds
    rw [written] at written'
    cases written'
    exact parsed

/-- Distinct numbers from 0 to 6 are valid days. -/
lemma validateDays_of_numbers {ws : List Json} {seen days : List Int} (numbers : Numbers conv ws days)
    (nodup : days.Nodup) (range : ∀ d ∈ days, (0 ≤ d ∧ d ≤ 6) ∧ d ∉ seen) :
    validateDays conv ws seen = true := by
  induction ws generalizing seen days with
  | nil => rfl
  | cons w ws ih =>
    rw [Numbers, List.mapM_cons] at numbers
    obtain ⟨day, eq, numbers⟩ := Option.bind_eq_some_iff.mp numbers
    obtain ⟨days', rest, numbers⟩ := Option.bind_eq_some_iff.mp numbers
    cases numbers
    obtain ⟨first, later⟩ := List.forall_mem_cons.mp range
    obtain ⟨new, nodup⟩ := List.nodup_cons.mp nodup
    have inside : ¬ (day < 0 ∨ day > 6 ∨ day ∈ seen) := by
      rintro (lo | hi | mem)
      · omega
      · omega
      · exact first.2 mem
    simp only [validateDays, eq, if_neg inside]
    refine ih rest nodup ?_
    intro d mem
    refine ⟨(later d mem).1, ?_⟩
    intro again
    rcases mem_insertKey.mp again with rfl | again
    · exact new mem
    · exact (later d mem).2 again

/-- `ValidateWeekdays` accepts the arrays of distinct weekdays. -/
lemma validateWeekdays_iff {ws : List Json} :
    validateWeekdays conv ws = true ↔ ∃ days, Numbers conv ws days ∧ ValidDays days := by
  refine ⟨?_, ?_⟩
  · exact validateWeekdays_inv
  · rintro ⟨days, numbers, valid⟩
    rw [validateWeekdays, Bool.and_eq_true_iff, decide_eq_true_iff]
    refine ⟨?_, validateDays_of_numbers numbers valid.nodup fun d mem => ⟨valid.range d mem, List.not_mem_nil⟩⟩
    rintro rfl
    cases numbers
    exact valid.ne_nil rfl

/-! ## Allowed bodies -/

/-- The key holds the time `HH:MM` of a minute of the day. -/
def HoldsTime (body : Json.Object) (k : String) (m : Int) : Prop :=
  ∃ s, body.get? k = some (.str s) ∧ minuteToTimeString m = some s

/-- The key holds a text which is not empty once trimmed. -/
def HoldsText (body : Json.Object) (k : String) : Prop :=
  ∃ s, body.get? k = some (.str s) ∧ Utils.trim s ≠ ""

/-- The rules for the body of a schedule. -/
structure Allowed (conv : Conversions) (body : Json.Object) (enabledRequired : Bool) : Prop where
  known : ∀ k ∈ body.getNames, k ∈ scheduleFields
  name : HoldsText body "name"
  action : body.get? "action_type" = some (.str "BLOCK")
  target :
    (body.get? "target_kind" = some (.str "INTERNET") ∧
      (body.get? "target_value" = none ∨ body.get? "target_value" = some .null)) ∨
    (body.get? "target_kind" = some (.str "APP") ∧ HoldsText body "target_value")
  times : ∃ start stop, HoldsTime body "start_time" start ∧ HoldsTime body "stop_time" stop ∧ start ≠ stop
  weekdays : ∃ ws days, body.get? "weekdays" = some (.arr ws) ∧ Numbers conv ws days ∧ ValidDays days
  enabled : (∃ b, body.get? "enabled" = some (.bool b)) ∨
    (enabledRequired = false ∧ body.get? "enabled" = none)
  description : body.get? "description" = none ∨ body.get? "description" = some .null ∨
    ∃ s, body.get? "description" = some (.str s)

/-- A text, trimmed; `null` stays `null`. -/
def trimValue : Json → Json
  | .str s => .str (Utils.trim s)
  | v => v

/-- The keys of the payload. -/
def payloadFields : List String :=
  ["action_type", "description", "enabled", "name", "start_minute", "stop_minute", "target_kind",
    "target_value", "weekdays"]

/-- What the payload keeps of a body. -/
structure Keeps (body payload : Json.Object) : Prop where
  name : payload.get? "name" = (body.get? "name").map trimValue
  action : payload.get? "action_type" = body.get? "action_type"
  description : payload.get? "description" = (body.get? "description").map trimValue
  enabled : payload.get? "enabled" = some ((body.get? "enabled").getD (.bool true))
  targetKind : payload.get? "target_kind" = body.get? "target_kind"
  targetValue : payload.get? "target_value" = (body.get? "target_value").map trimValue
  start : ∃ m, HoldsTime body "start_time" m ∧ payload.get? "start_minute" = some (.int m)
  stop : ∃ m, HoldsTime body "stop_time" m ∧ payload.get? "stop_minute" = some (.int m)
  weekdays : payload.get? "weekdays" = body.get? "weekdays"
  others : ∀ k ∉ payloadFields, payload.get? k = none

/-! ## Step by step -/

/-- When a required text is accepted. -/
lemma requireString_ok_iff {k message s : String} :
    requireString body k message = .ok s ↔ body.get? k = some (.str s) := by
  rw [← Json.Object.getString?_eq_some]
  rw [requireString]
  cases body.getString? k with
  | none => exact ⟨nofun, nofun⟩
  | some t =>
    refine ⟨?_, ?_⟩
    · intro h
      cases h
      rfl
    · intro h
      cases h
      rfl

/-- When a required text with blanks around it is accepted. -/
lemma requireTrimmed_ok_iff {k missing message t : String} :
    requireTrimmed body k missing message = .ok t ↔
      ∃ s, body.get? k = some (.str s) ∧ Utils.trim s ≠ "" ∧ t = Utils.trim s := by
  rw [requireTrimmed]
  refine ⟨?_, ?_⟩
  · intro h
    obtain ⟨s, found, h⟩ := except_bind_ok h
    split at h
    case isTrue => cases h
    case isFalse nonempty =>
      cases h
      exact ⟨s, requireString_ok_iff.mp found, nonempty, rfl⟩
  · rintro ⟨s, found, nonempty, rfl⟩
    rw [requireString_ok_iff.mpr found, except_ok_bind, if_neg nonempty]
    rfl

/-- When an action type is accepted. -/
lemma parseActionType_ok_iff :
    parseActionType body = .ok () ↔ body.get? "action_type" = some (.str "BLOCK") := by
  rw [← Json.Object.getString?_eq_some, parseActionType]
  split
  case isTrue block => exact ⟨fun _ => block, fun _ => rfl⟩
  case isFalse other => exact ⟨nofun, fun block => absurd block other⟩

/-- A field which is missing counts as `null`. -/
lemma isNull_iff {k : String} :
    body.isNull k = true ↔ body.get? k = none ∨ body.get? k = some .null := by
  rw [Json.Object.isNull]
  split
  case h_1 none_ => exact ⟨fun _ => .inl none_, fun _ => rfl⟩
  case h_2 null => exact ⟨fun _ => .inr null, fun _ => rfl⟩
  case h_3 v notNull found =>
    refine ⟨fun h => absurd h Bool.false_ne_true, ?_⟩
    rintro (h | h)
    · rw [found] at h
      cases h
    · rw [found] at h
      cases h
      exact absurd rfl notNull

/-- The targets which are accepted, and what is kept of them. -/
lemma parseTarget_ok_iff {target : Target} :
    parseTarget body = .ok target ↔
      (body.get? "target_kind" = some (.str "INTERNET") ∧
        (body.get? "target_value" = none ∨ body.get? "target_value" = some .null) ∧
        target = .internet (body.has "target_value")) ∨
      (body.get? "target_kind" = some (.str "APP") ∧
        ∃ s, body.get? "target_value" = some (.str s) ∧ Utils.trim s ≠ "" ∧ target = .app (Utils.trim s)) := by
  rw [parseTarget]
  refine ⟨?_, ?_⟩
  · intro h
    obtain ⟨kind, found, h⟩ := except_bind_ok h
    have found := requireString_ok_iff.mp found
    split at h
    case isTrue internet =>
      subst internet
      split at h
      case isFalse => cases h
      case isTrue null =>
        cases h
        exact .inl ⟨found, isNull_iff.mp null, rfl⟩
    case isFalse =>
      split at h
      case isFalse => cases h
      case isTrue app =>
        subst app
        obtain ⟨value, trimmed, h⟩ := except_bind_ok h
        cases h
        obtain ⟨s, text, nonempty, rfl⟩ := requireTrimmed_ok_iff.mp trimmed
        exact .inr ⟨found, s, text, nonempty, rfl⟩
  · rintro (⟨found, null, rfl⟩ | ⟨found, s, text, nonempty, rfl⟩)
    · rw [requireString_ok_iff.mpr found, except_ok_bind, if_pos rfl, if_pos (isNull_iff.mpr null)]
      rfl
    · rw [requireString_ok_iff.mpr found, except_ok_bind, if_neg (by decide), if_pos rfl,
        requireTrimmed_ok_iff.mpr ⟨s, text, nonempty, rfl⟩]
      rfl

/-- When a time is accepted. -/
lemma parseTime_ok_iff {k message : String} {m : Int} :
    parseTime body k message = .ok m ↔ HoldsTime body k m := by
  have holds : (body.get? k).bind parseTimeString = some m ↔ HoldsTime body k m := by
    rw [Option.bind_eq_some_iff]
    simp only [parseTimeString_iff]
    constructor
    · rintro ⟨v, found, s, rfl, written⟩
      exact ⟨s, found, written⟩
    · rintro ⟨s, found, written⟩
      exact ⟨_, found, s, rfl, written⟩
  rw [← holds]
  unfold parseTime
  cases (body.get? k).bind parseTimeString with
  | none => exact ⟨nofun, nofun⟩
  | some n =>
    constructor
    · intro h
      cases h
      rfl
    · intro h
      cases h
      rfl

/-- When both times are accepted. -/
lemma parseTimes_ok_iff {start stop : Int} :
    parseTimes body = .ok (start, stop) ↔
      HoldsTime body "start_time" start ∧ HoldsTime body "stop_time" stop ∧ start ≠ stop := by
  rw [parseTimes]
  refine ⟨?_, ?_⟩
  · intro h
    obtain ⟨a, ha, h⟩ := except_bind_ok h
    obtain ⟨b, hb, h⟩ := except_bind_ok h
    split at h
    case isTrue => cases h
    case isFalse differ =>
      cases h
      exact ⟨parseTime_ok_iff.mp ha, parseTime_ok_iff.mp hb, differ⟩
  · rintro ⟨ha, hb, differ⟩
    rw [parseTime_ok_iff.mpr ha, except_ok_bind, parseTime_ok_iff.mpr hb, except_ok_bind, if_neg differ]
    rfl

/-- When the weekdays are accepted. -/
lemma parseWeekdays_ok_iff {ws : List Json} :
    parseWeekdays conv body = .ok ws ↔
      body.get? "weekdays" = some (.arr ws) ∧ ∃ days, Numbers conv ws days ∧ ValidDays days := by
  rw [← Json.Object.getArray?_eq_some, ← validateWeekdays_iff]
  unfold parseWeekdays
  cases body.getArray? "weekdays" with
  | none =>
    refine ⟨nofun, ?_⟩
    rintro ⟨h, _⟩
    cases h
  | some ws' =>
    dsimp only
    split
    case isTrue valid =>
      constructor
      · intro h
        cases h
        exact ⟨rfl, valid⟩
      · rintro ⟨h, _⟩
        cases h
        rfl
    case isFalse invalid =>
      refine ⟨nofun, ?_⟩
      rintro ⟨h, valid⟩
      cases h
      exact absurd valid invalid

/-- When `enabled` is accepted. -/
lemma parseEnabled_ok_iff {enabled : Bool} :
    parseEnabled body enabledRequired = .ok enabled ↔
      body.get? "enabled" = some (.bool enabled) ∨
        (enabledRequired = false ∧ body.get? "enabled" = none ∧ enabled = true) := by
  unfold parseEnabled
  split
  case h_1 b found =>
    rw [found]
    constructor
    · intro h
      cases h
      exact .inl rfl
    · rintro (h | ⟨_, h, _⟩)
      · cases h
        rfl
      · cases h
  case h_2 none_ =>
    rw [none_]
    cases enabledRequired with
    | true =>
      refine ⟨nofun, ?_⟩
      rintro (h | ⟨h, _⟩)
      · cases h
      · cases h
    | false =>
      constructor
      · intro h
        cases h
        exact .inr ⟨rfl, rfl, rfl⟩
      · rintro (h | ⟨_, _, rfl⟩)
        · cases h
        · rfl
  case h_3 v other found =>
    rw [found]
    refine ⟨?_, ?_⟩
    · intro h
      cases enabledRequired with
      | true => cases h
      | false => cases h
    · rintro (h | ⟨_, h, _⟩)
      · cases h
        exact absurd rfl (other _)
      · cases h

/-- When a description is accepted. -/
lemma parseDescription_ok_iff {description : Option (Option String)} :
    parseDescription body = .ok description ↔
      (body.get? "description" = none ∧ description = none) ∨
      (body.get? "description" = some .null ∧ description = some none) ∨
      ∃ s, body.get? "description" = some (.str s) ∧ description = some (some (Utils.trim s)) := by
  unfold parseDescription
  rcases body.get? "description" with _ | v
  · constructor
    · intro h
      cases h
      exact .inl ⟨rfl, rfl⟩
    · rintro (⟨_, rfl⟩ | ⟨h, _⟩ | ⟨s, h, _⟩)
      · rfl
      · cases h
      · cases h
  · cases v with
    | null =>
      constructor
      · intro h
        cases h
        exact .inr (.inl ⟨rfl, rfl⟩)
      · rintro (⟨h, _⟩ | ⟨_, rfl⟩ | ⟨s, h, _⟩)
        · cases h
        · rfl
        · cases h
    | str s =>
      constructor
      · intro h
        cases h
        exact .inr (.inr ⟨s, rfl, rfl⟩)
      · rintro (⟨h, _⟩ | ⟨h, _⟩ | ⟨s, h, rfl⟩)
        · cases h
        · cases h
        · cases h
          rfl
    | _ =>
      refine ⟨nofun, ?_⟩
      rintro (⟨h, _⟩ | ⟨h, _⟩ | ⟨s, h, _⟩)
      · cases h
      · cases h
      · cases h

/-- Each step reads its field of the request off the body. -/
structure ReadOff (conv : Conversions) (body : Json.Object) (enabledRequired : Bool)
    (request : ParsedScheduleRequest) : Prop where
  known : ∀ k ∈ body.getNames, k ∈ scheduleFields
  name : requireTrimmed body "name" "name is required" "name must be non-empty" = .ok request.name
  action : parseActionType body = .ok ()
  target : parseTarget body = .ok request.target
  times : parseTimes body = .ok (request.startMinute, request.stopMinute)
  weekdays : parseWeekdays conv body = .ok request.weekdays
  enabled : parseEnabled body enabledRequired = .ok request.enabled
  description : parseDescription body = .ok request.description

/-- When a whole body is accepted. -/
lemma parseAndValidateScheduleRequest_ok_iff {request : ParsedScheduleRequest} :
    parseAndValidateScheduleRequest conv body enabledRequired = .ok request ↔
      ReadOff conv body enabledRequired request := by
  rw [parseAndValidateScheduleRequest]
  refine ⟨?_, ?_⟩
  · intro h
    split at h
    case h_1 => cases h
    case h_2 none_ =>
      obtain ⟨name, hname, h⟩ := except_bind_ok h
      obtain ⟨_, haction, h⟩ := except_bind_ok h
      obtain ⟨target, htarget, h⟩ := except_bind_ok h
      obtain ⟨⟨start, stop⟩, htimes, h⟩ := except_bind_ok h
      obtain ⟨weekdays, hweekdays, h⟩ := except_bind_ok h
      obtain ⟨enabled, henabled, h⟩ := except_bind_ok h
      obtain ⟨description, hdescription, h⟩ := except_bind_ok h
      cases h
      refine ⟨?_, hname, haction, htarget, htimes, hweekdays, henabled, hdescription⟩
      intro k mem
      simpa using List.find?_eq_none.mp none_ k mem
  · rintro ⟨known, hname, haction, htarget, htimes, hweekdays, henabled, hdescription⟩
    have none_ : (body.getNames.find? fun name => name ∉ scheduleFields) = none := by
      refine List.find?_eq_none.mpr ?_
      intro k mem
      simpa using known k mem
    rw [none_]
    dsimp only
    rw [hname, haction, htarget, htimes, hweekdays, henabled, hdescription]
    rfl

/-- What is accepted is what the rules allow. -/
lemma accepts_iff_allowed :
    (∃ request, parseAndValidateScheduleRequest conv body enabledRequired = .ok request) ↔
      Allowed conv body enabledRequired := by
  simp only [parseAndValidateScheduleRequest_ok_iff]
  refine ⟨?_, ?_⟩
  · rintro ⟨request, known, name, action, target, times, weekdays, enabled, description⟩
    refine ⟨known, ?_, parseActionType_ok_iff.mp action, ?_, ⟨_, _, parseTimes_ok_iff.mp times⟩, ?_, ?_, ?_⟩
    · obtain ⟨s, found, nonempty, _⟩ := requireTrimmed_ok_iff.mp name
      exact ⟨s, found, nonempty⟩
    · rcases parseTarget_ok_iff.mp target with ⟨kind, null, _⟩ | ⟨kind, s, found, nonempty, _⟩
      · exact .inl ⟨kind, null⟩
      · exact .inr ⟨kind, s, found, nonempty⟩
    · obtain ⟨found, days, numbers, valid⟩ := parseWeekdays_ok_iff.mp weekdays
      exact ⟨_, days, found, numbers, valid⟩
    · rcases parseEnabled_ok_iff.mp enabled with found | ⟨optional, none_, _⟩
      · exact .inl ⟨_, found⟩
      · exact .inr ⟨optional, none_⟩
    · rcases parseDescription_ok_iff.mp description with ⟨none_, _⟩ | ⟨null, _⟩ | ⟨s, text, _⟩
      · exact .inl none_
      · exact .inr (.inl null)
      · exact .inr (.inr ⟨s, text⟩)
  · rintro ⟨known, ⟨name, hname, nonempty⟩, action, target, ⟨start, stop, times⟩,
      ⟨ws, days, found, numbers, valid⟩, enabled, description⟩
    obtain ⟨target, htarget⟩ : ∃ t, parseTarget body = .ok t := by
      rcases target with ⟨kind, null⟩ | ⟨kind, s, text, ne⟩
      · exact ⟨_, parseTarget_ok_iff.mpr (.inl ⟨kind, null, rfl⟩)⟩
      · exact ⟨_, parseTarget_ok_iff.mpr (.inr ⟨kind, s, text, ne, rfl⟩)⟩
    obtain ⟨enabled, henabled⟩ : ∃ b, parseEnabled body enabledRequired = .ok b := by
      rcases enabled with ⟨b, hb⟩ | ⟨optional, none_⟩
      · exact ⟨b, parseEnabled_ok_iff.mpr (.inl hb)⟩
      · exact ⟨true, parseEnabled_ok_iff.mpr (.inr ⟨optional, none_, rfl⟩)⟩
    obtain ⟨description, hdescription⟩ : ∃ d, parseDescription body = .ok d := by
      rcases description with none_ | null | ⟨s, text⟩
      · exact ⟨_, parseDescription_ok_iff.mpr (.inl ⟨none_, rfl⟩)⟩
      · exact ⟨_, parseDescription_ok_iff.mpr (.inr (.inl ⟨null, rfl⟩))⟩
      · exact ⟨_, parseDescription_ok_iff.mpr (.inr (.inr ⟨s, text, rfl⟩))⟩
    exact ⟨{ name := Utils.trim name, description, enabled, target, startMinute := start,
             stopMinute := stop, weekdays := ws },
      known, requireTrimmed_ok_iff.mpr ⟨name, hname, nonempty, rfl⟩, parseActionType_ok_iff.mpr action,
      htarget, parseTimes_ok_iff.mpr times, parseWeekdays_ok_iff.mpr ⟨found, days, numbers, valid⟩,
      henabled, hdescription⟩

/-! ## The payload -/

/-- The description of a payload. -/
def descriptionValue : Option (Option String) → Option Json
  | none => none
  | some none => some .null
  | some (some s) => some (.str s)

/-- The kind of a target, and its value. -/
def targetValues : Target → String × Option Json
  | .internet false => ("INTERNET", none)
  | .internet true => ("INTERNET", some .null)
  | .app s => ("APP", some (.str s))

/-- What the keys of a payload hold. -/
lemma buildScheduleRequestBody_get? (request : ParsedScheduleRequest) (k : String) :
    (buildScheduleRequestBody request).get? k =
      if k = "action_type" then some (.str "BLOCK")
      else if k = "description" then descriptionValue request.description
      else if k = "enabled" then some (.bool request.enabled)
      else if k = "name" then some (.str request.name)
      else if k = "start_minute" then some (.int request.startMinute)
      else if k = "stop_minute" then some (.int request.stopMinute)
      else if k = "target_kind" then some (.str (targetValues request.target).1)
      else if k = "target_value" then (targetValues request.target).2
      else if k = "weekdays" then some (.arr request.weekdays)
      else none := by
  obtain ⟨name, description, enabled, target, startMinute, stopMinute, weekdays⟩ := request
  have block : ∀ k, Json.Object.get? [("action_type", .str "BLOCK")] k =
      if "action_type" = k then some (.str "BLOCK") else none := fun _ => rfl
  rcases description with _ | _ | description
  all_goals
    rcases target with (_ | _) | targetValue
    all_goals
      simp only [buildScheduleRequestBody, Json.Object.get?_set, block, descriptionValue, targetValues,
        if_true, Bool.false_eq_true, if_false]
      grind

/-- The payload keeps what was read off the body. -/
lemma ReadOff.keeps {request : ParsedScheduleRequest} (r : ReadOff conv body enabledRequired request) :
    Keeps body (buildScheduleRequestBody request) := by
  have get := buildScheduleRequestBody_get? request
  obtain ⟨start, stop, _⟩ := parseTimes_ok_iff.mp r.times
  obtain ⟨found, _⟩ := parseWeekdays_ok_iff.mp r.weekdays
  have target : some (.str (targetValues request.target).1) = body.get? "target_kind" ∧
      (targetValues request.target).2 = (body.get? "target_value").map trimValue := by
    rcases parseTarget_ok_iff.mp r.target with ⟨kind, value, eq⟩ | ⟨kind, s, text, _, eq⟩
    · rcases value with none_ | null
      · rw [eq, Json.Object.has_eq_false_iff.mpr none_, kind, none_]
        exact ⟨rfl, rfl⟩
      · rw [eq, Json.Object.has_iff.mpr ⟨_, null⟩, kind, null]
        exact ⟨rfl, rfl⟩
    · rw [eq, kind, text]
      exact ⟨rfl, rfl⟩
  refine ⟨?_, ?_, ?_, ?_, ?_, ?_, ?_, ?_, ?_, ?_⟩
  · obtain ⟨s, text, _, eq⟩ := requireTrimmed_ok_iff.mp r.name
    rw [text]
    exact (get "name").trans (congrArg (some ∘ Json.str) eq)
  · exact (get "action_type").trans (parseActionType_ok_iff.mp r.action).symm
  · refine (get "description").trans ?_
    rcases parseDescription_ok_iff.mp r.description with ⟨none_, eq⟩ | ⟨null, eq⟩ | ⟨s, text, eq⟩
    · rw [none_]
      exact congrArg descriptionValue eq
    · rw [null]
      exact congrArg descriptionValue eq
    · rw [text]
      exact congrArg descriptionValue eq
  · refine (get "enabled").trans ?_
    rcases parseEnabled_ok_iff.mp r.enabled with given | ⟨_, none_, eq⟩
    · rw [given]
      rfl
    · rw [none_]
      exact congrArg (some ∘ Json.bool) eq
  · exact (get "target_kind").trans target.1
  · exact (get "target_value").trans target.2
  · exact ⟨_, start, get "start_minute"⟩
  · exact ⟨_, stop, get "stop_minute"⟩
  · exact (get "weekdays").trans found.symm
  · intro k notAny
    have ne : ∀ f ∈ payloadFields, k ≠ f := by
      rintro f mem rfl
      exact notAny mem
    rw [get, if_neg (ne _ (by decide)), if_neg (ne _ (by decide)), if_neg (ne _ (by decide)),
      if_neg (ne _ (by decide)), if_neg (ne _ (by decide)), if_neg (ne _ (by decide)),
      if_neg (ne _ (by decide)), if_neg (ne _ (by decide)), if_neg (ne _ (by decide))]

/-- The bodies which are allowed are accepted, and no others; and from any request that is passed in, the
payload keeps the meaning of the body. -/
theorem schedule_validation_exact (conv : Conversions) (body : Json.Object) (enabledRequired : Bool)
    (out : Flagged.ParsedScheduleRequest) :
    ((∃ request, Flagged.parseAndValidateScheduleRequest conv body out enabledRequired = .ok request) ↔
      Allowed conv body enabledRequired) ∧
    ∀ request, Flagged.parseAndValidateScheduleRequest conv body out enabledRequired = .ok request →
      Keeps body (Flagged.buildScheduleRequestBody request) := by
  rw [Flagged.parseAndValidateScheduleRequest_eq, ← accepts_iff_allowed]
  refine ⟨?_, ?_⟩
  · refine ⟨?_, ?_⟩
    · rintro ⟨request, h⟩
      obtain ⟨parsed, accepted, _⟩ := except_map_ok h
      exact ⟨parsed, accepted⟩
    · rintro ⟨parsed, h⟩
      exact ⟨Flagged.ofRequest parsed, by rw [h]; rfl⟩
  · intro request h
    obtain ⟨parsed, accepted, rfl⟩ := except_map_ok h
    rw [Flagged.buildScheduleRequestBody_ofRequest]
    exact (parseAndValidateScheduleRequest_ok_iff.mp accepted).keeps

end UserPortal.RestApi.ParentalControl
