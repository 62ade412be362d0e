import Mathlib.Tactic.Common

/-!
# Time zones

A time zone is an arbitrary offset for every instant, in seconds, together with the resolution of
local times: a local time which several instants have is the earliest of them, and one which the local
clock jumps over is the instant of the jump. This is `date::time_zone` with `to_sys` under
`choose::earliest`.
-/

namespace UserPortal.Calendar

/-- A time zone. Instants and local times are in seconds. -/
structure Zone where
  /-- what is added to an instant -/
  offset : Int → Int
  /-- `to_sys(local, choose::earliest)` -/
  toSys : Int → Int
  earliest : ∀ l t, t + offset t = l → toSys l + offset (toSys l) = l ∧ toSys l ≤ t
  gap : ∀ l, (∀ t, t + offset t ≠ l) →
    toSys l - 1 + offset (toSys l - 1) < l ∧ l < toSys l + offset (toSys l)

namespace Zone

/-- The local time of an instant. -/
def toLocal (zone : Zone) (t : Int) : Int := t + zone.offset t

/-- The local day of an instant. -/
def localDay (zone : Zone) (t : Int) : Int := zone.toLocal t / 86400

/-- Some instant has the local time. -/
def Exists (zone : Zone) (l : Int) : Prop := ∃ t, zone.toLocal t = l

/-- The offset is less than a day. -/
def Bounded (zone : Zone) : Prop := ∀ t, -86400 < zone.offset t ∧ zone.offset t < 86400

/-- The offset is constant over a period. -/
def ConstantOver (zone : Zone) (c lo hi : Int) : Prop := ∀ t, lo ≤ t → t ≤ hi → zone.offset t = c

lemma toLocal_toSys {zone : Zone} {l : Int} (h : zone.Exists l) : zone.toLocal (zone.toSys l) = l := by
  obtain ⟨t, eq⟩ := h
  exact (zone.earliest l t eq).1

lemma ConstantOver.toLocal {zone : Zone} {c lo hi t : Int} (const : zone.ConstantOver c lo hi)
    (h1 : lo ≤ t) (h2 : t ≤ hi) : zone.toLocal t = t + c := by
  rw [Zone.toLocal, const t h1 h2]

/-- Within a period of constant offset, local times are the instants shifted by it. -/
lemma ConstantOver.toSys {zone : Zone} {c lo hi l : Int} (const : zone.ConstantOver c lo hi)
    (bound : zone.Bounded) (h1 : lo + 86400 ≤ l) (h2 : lo ≤ l - c) (h3 : l - c ≤ hi) :
    zone.toSys l = l - c := by
  obtain ⟨eq, le⟩ := zone.earliest l (l - c) (by rw [const _ h2 h3, Int.sub_add_cancel])
  have b := (bound (zone.toSys l)).2
  have same := const (zone.toSys l) (by omega) (by omega)
  rw [same] at eq
  omega

/-- A zone without transitions. -/
def fixed (c : Int) : Zone where
  offset _ := c
  toSys l := l - c
  earliest l t eq := by
    refine ⟨?_, ?_⟩
    · exact Int.sub_add_cancel l c
    · omega
  gap l none := absurd (Int.sub_add_cancel l c) (none _)

lemma fixed_constantOver (c lo hi : Int) : (fixed c).ConstantOver c lo hi := fun _ _ _ => rfl

lemma fixed_bounded {c : Int} (h : -86400 < c ∧ c < 86400) : (fixed c).Bounded := fun _ => h

/-- A zone with one transition, at which the offset `a` becomes `b`. -/
def transition (at_ a b : Int) : Zone where
  offset t := if t < at_ then a else b
  toSys l := if l < at_ + a then l - a else if l < at_ + b then at_ else l - b
  earliest l t eq := by
    split at eq
    · rw [if_pos (by omega), if_pos (by omega)]
      omega
    · split
      · rw [if_pos (by omega)]
        omega
      · rw [if_neg (by omega), if_neg (by omega)]
        omega
  gap l none := by
    -- before the transition the offset is `a`, from then on `b`
    have before := none (l - a)
    have after := none (l - b)
    by_cases h1 : l < at_ + a
    · rw [if_pos (by omega)] at before
      omega
    · by_cases h2 : l < at_ + b
      · rw [if_neg h1, if_pos h2, if_pos (by omega), if_neg (by omega)]
        omega
      · rw [if_neg (by omega)] at after
        omega

end Zone

end UserPortal.Calendar
