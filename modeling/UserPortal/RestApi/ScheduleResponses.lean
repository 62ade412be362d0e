import UserPortal.RestApi.ScheduleTimes

/-!
# Schedules in responses

`NormalizeScheduleResponse` changes the schedule it is given in place. It gives up before the first change,
or it makes all of them: what converts is converted before the weekdays are replaced, and a minute of a day
can always be written.
-/

namespace UserPortal.RestApi.ParentalControl
open Calendar Data Interaction

variable {conv : Conversions}

/-- The day, counted modulo 7, is among the weekdays. -/
def Denotes (conv : Conversions) (weekdays : List Json) (x : Int) : Prop :=
  ∃ w ∈ weekdays, ∃ day, conv.toInt w = some day ∧ x = day % 7

/-- The fields which `NormalizeScheduleResponse` changes. -/
def responseFields : List String :=
  ["config-raw", "start_minute", "start_time", "stop_minute", "stop_time", "weekdays"]

/-- A text which `ParseTimeString` accepts. -/
def IsTime (v : Option Json) : Prop := ∃ s m, v = some (.str s) ∧ parseTimeString (.str s) = some m

/-- A schedule with local times, its weekdays moved by some days. -/
structure Normalized (conv : Conversions) (shift : Int) (schedule out : Json.Object) : Prop where
  configRaw : out.get? "config-raw" = none
  startMinute : out.get? "start_minute" = none
  stopMinute : out.get? "stop_minute" = none
  startTime : IsTime (out.get? "start_time")
  stopTime : IsTime (out.get? "stop_time")
  weekdays : ∀ ws, schedule.getArray? "weekdays" = some ws → ∃ ws', out.getArray? "weekdays" = some ws' ∧
    ∀ x, Denotes conv ws' x ↔ ∃ y, Denotes conv ws y ∧ x = (y + shift) % 7
  noWeekdays : schedule.getArray? "weekdays" = none → out.get? "weekdays" = schedule.get? "weekdays"
  others : ∀ k ∉ responseFields, out.get? k = schedule.get? k

/-! ## Weekdays -/

/-- What converts as a list converts one by one. -/
lemma Numbers.denotes_iff {ws : List Json} {days : List Int} (numbers : Numbers conv ws days) (x : Int) :
    Denotes conv ws x ↔ ∃ d ∈ days, x = d % 7 := by
  induction ws generalizing days with
  | nil =>
    cases numbers
    refine ⟨?_, ?_⟩
    · rintro ⟨_, mem, _⟩
      cases mem
    · rintro ⟨_, mem, _⟩
      cases mem
  | cons w ws ih =>
    rw [Numbers, List.mapM_cons] at numbers
    obtain ⟨day, eq, numbers⟩ := Option.bind_eq_some_iff.mp numbers
    obtain ⟨days', rest, numbers⟩ := Option.bind_eq_some_iff.mp numbers
    cases numbers
    have ih := ih rest
    refine ⟨?_, ?_⟩
    · rintro ⟨v, mem, d, dv, rfl⟩
      rcases List.mem_cons.mp mem with rfl | mem
      · rw [eq] at dv
        cases dv
        exact ⟨day, List.mem_cons_self .., rfl⟩
      · obtain ⟨e, he, same⟩ := ih.mp ⟨v, mem, d, dv, rfl⟩
        exact ⟨e, List.mem_cons_of_mem _ he, same⟩
    · rintro ⟨d, mem, rfl⟩
      rcases List.mem_cons.mp mem with rfl | mem
      · exact ⟨w, List.mem_cons_self .., d, eq, rfl⟩
      · obtain ⟨v, hv, e, ev, same⟩ := ih.mpr ⟨d, mem, rfl⟩
        exact ⟨v, List.mem_cons_of_mem _ hv, e, ev, same⟩

/-- Weekdays which are written as integers. -/
lemma numbers_ints {days : List Int} (range : ∀ d ∈ days, 0 ≤ d ∧ d < 7) :
    Numbers conv (days.map .int) days := by
  apply mapM_map_some
  intro d mem
  have r := range d mem
  exact conv.toInt_int d (by omega) (by omega)

/-- `ShiftWeekdays` moves the days it is given. -/
lemma shiftWeekdays_denotes {ws ws' : List Json} {shift : Int}
    (h : shiftWeekdays conv ws shift = some ws') (x : Int) :
    Denotes conv ws' x ↔ ∃ y, Denotes conv ws y ∧ x = (y + shift) % 7 := by
  rw [shiftWeekdays] at h
  split at h
  case isTrue kept =>
    cases h
    refine ⟨?_, ?_⟩
    · rintro ⟨w, mem, day, eq, rfl⟩
      refine ⟨day % 7, ⟨w, mem, day, eq, rfl⟩, ?_⟩
      rcases kept with rfl | rfl
      · cases mem
      · omega
    · rintro ⟨y, ⟨w, mem, day, eq, rfl⟩, rfl⟩
      refine ⟨w, mem, day, eq, ?_⟩
      rcases kept with rfl | rfl
      · cases mem
      · omega
  case isFalse =>
    obtain ⟨days, numbers, rfl⟩ := Option.map_eq_some_iff.mp h
    have moved : ∀ d ∈ toSet (days.map (shiftDay shift)), ∃ day ∈ days, d = (day + shift) % 7 := by
      intro d mem
      obtain ⟨day, hday, rfl⟩ := List.mem_map.mp (mem_toSet.mp mem)
      exact ⟨day, hday, shiftDay_eq shift day⟩
    have range : ∀ d ∈ toSet (days.map (shiftDay shift)), 0 ≤ d ∧ d < 7 := by
      intro d mem
      obtain ⟨day, _, rfl⟩ := moved d mem
      omega
    rw [(numbers_ints range).denotes_iff]
    simp only [Numbers.denotes_iff numbers]
    refine ⟨?_, ?_⟩
    · rintro ⟨d, mem, rfl⟩
      obtain ⟨day, hday, rfl⟩ := moved d mem
      exact ⟨day % 7, ⟨day, hday, rfl⟩, by omega⟩
    · rintro ⟨y, ⟨day, hday, rfl⟩, rfl⟩
      refine ⟨shiftDay shift day, mem_toSet.mpr (List.mem_map.mpr ⟨day, hday, rfl⟩), ?_⟩
      rw [shiftDay_eq]
      omega

/-! ## The schedule -/

variable {schedule moved : Json.Object} {shift : Int}

/-- The schedule with its weekdays moved is the one it was elsewhere. -/
lemma shiftResponseWeekdays_inv (h : shiftResponseWeekdays conv schedule shift = some moved) :
    (∀ ws, schedule.getArray? "weekdays" = some ws → ∃ ws', moved.getArray? "weekdays" = some ws' ∧
      ∀ x, Denotes conv ws' x ↔ ∃ y, Denotes conv ws y ∧ x = (y + shift) % 7) ∧
    (schedule.getArray? "weekdays" = none → moved.get? "weekdays" = schedule.get? "weekdays") ∧
    ∀ k, "weekdays" ≠ k → moved.get? k = schedule.get? k := by
  rw [shiftResponseWeekdays] at h
  split at h
  case h_1 ws found =>
    obtain ⟨ws', shifted, rfl⟩ := Option.map_eq_some_iff.mp h
    refine ⟨?_, ?_, fun k ne => schedule.get?_set_of_ne _ ne⟩
    · intro ws'' eq
      rw [found] at eq
      cases eq
      exact ⟨ws', schedule.getArray?_set_self .., shiftWeekdays_denotes shifted⟩
    · intro none_
      rw [found] at none_
      cases none_
  case h_2 none_ =>
    cases h
    refine ⟨?_, fun _ => rfl, fun _ _ => rfl⟩
    intro ws eq
    rw [none_] at eq
    cases eq

/-- The last changes: times for minutes, and no `config-raw`. -/
lemma normalized_of_moved {startTime stopTime : String} {startMinute stopMinute : Int}
    (h : shiftResponseWeekdays conv schedule shift = some moved)
    (start : parseTimeString (.str startTime) = some startMinute)
    (stop : parseTimeString (.str stopTime) = some stopMinute) :
    Normalized conv shift schedule
      (((((moved.set "start_time" (.str startTime)).set "stop_time" (.str stopTime)).remove
        "start_minute").remove "stop_minute").remove "config-raw") := by
  obtain ⟨weekdays, noWeekdays, others⟩ := shiftResponseWeekdays_inv h
  -- a field which is not among the last changes
  have kept : ∀ k, "start_time" ≠ k → "stop_time" ≠ k → "start_minute" ≠ k → "stop_minute" ≠ k →
      "config-raw" ≠ k →
      (((((moved.set "start_time" (.str startTime)).set "stop_time" (.str stopTime)).remove
        "start_minute").remove "stop_minute").remove "config-raw").get? k = moved.get? k := by
    intro k h1 h2 h3 h4 h5
    rw [Json.Object.get?_remove_of_ne _ h5, Json.Object.get?_remove_of_ne _ h4,
      Json.Object.get?_remove_of_ne _ h3, Json.Object.get?_set_of_ne _ _ h2,
      Json.Object.get?_set_of_ne _ _ h1]
  have keptWeekdays := kept "weekdays" (by decide) (by decide) (by decide) (by decide) (by decide)
  refine ⟨?_, ?_, ?_, ⟨startTime, startMinute, ?_, start⟩, ⟨stopTime, stopMinute, ?_, stop⟩, ?_, ?_, ?_⟩
  · exact Json.Object.get?_remove_self ..
  · rw [Json.Object.get?_remove_of_ne _ (by decide), Json.Object.get?_remove_of_ne _ (by decide),
      Json.Object.get?_remove_self]
  · rw [Json.Object.get?_remove_of_ne _ (by decide), Json.Object.get?_remove_self]
  · rw [Json.Object.get?_remove_of_ne _ (by decide), Json.Object.get?_remove_of_ne _ (by decide),
      Json.Object.get?_remove_of_ne _ (by decide), Json.Object.get?_set_of_ne _ _ (by decide),
      Json.Object.get?_set_self]
  · rw [Json.Object.get?_remove_of_ne _ (by decide), Json.Object.get?_remove_of_ne _ (by decide),
      Json.Object.get?_remove_of_ne _ (by decide), Json.Object.get?_set_self]
  · intro ws eq
    obtain ⟨ws', found, denotes⟩ := weekdays ws eq
    refine ⟨ws', ?_, denotes⟩
    rw [Json.Object.getArray?, keptWeekdays]
    exact found
  · intro none_
    rw [keptWeekdays, noWeekdays none_]
  · intro k notAny
    have ne : ∀ f ∈ responseFields, f ≠ k := by
      rintro f mem rfl
      exact notAny mem
    rw [kept k (ne _ (by decide)) (ne _ (by decide)) (ne _ (by decide)) (ne _ (by decide))
      (ne _ (by decide)), others k (ne _ (by decide))]

end UserPortal.RestApi.ParentalControl
