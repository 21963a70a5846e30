import EduAi.Store.UtcDate
import Mathlib.Tactic.Linarith

set_option autoImplicit false

namespace EduAi.Store

-- What a clock on the wall shows: an instant moved by the zone's offset at that instant.
section WallClock

def msPerMinute : Int :=
  60000

abbrev Zone := Int → Int

variable (zone : Zone)

def wall (t : Int) : Int :=
  t + zone t

def localDay (t : Int) : Int :=
  utcDay (wall zone t)

def localTime (t : Int) : Int :=
  timeWithinDay (wall zone t)

def localMinute (t : Int) : Int :=
  localTime zone t / msPerMinute

def weekday (day : Int) : Int :=
  (day + 4) % 7

def Steady (a b : Int) : Prop :=
  ∀ t, a ≤ t → t ≤ b → zone t = zone a

-- From one instant to the other the clock stays between two minutes of one day.
def StaysWithin (day earliest latest a b : Int) : Prop :=
  ∀ t, a ≤ t → t ≤ b → localDay zone t = day ∧ earliest * msPerMinute ≤ localTime zone t ∧ localTime zone t ≤ latest * msPerMinute

theorem wall_day_time (t : Int) : wall zone t = localDay zone t * msPerDay + localTime zone t :=
  (makeDate_utcDay (wall zone t)).symm

theorem localTime_bounds (t : Int) : 0 ≤ localTime zone t ∧ localTime zone t < msPerDay :=
  timeWithinDay_bounds (wall zone t)

theorem localMinute_ge (t earliest : Int) : earliest ≤ localMinute zone t ↔ earliest * msPerMinute ≤ localTime zone t := by
  unfold localMinute msPerMinute
  omega

theorem localTime_le (t latest : Int) :
    localTime zone t ≤ latest * msPerMinute ↔
      localMinute zone t ≤ latest ∧ (localMinute zone t < latest ∨ localTime zone t = localMinute zone t * msPerMinute) := by
  unfold localMinute msPerMinute
  omega

section Steadily

variable (a b : Int) (steady : Steady zone a b)

include steady

theorem steady_wall (t : Int) (after : a ≤ t) (before : t ≤ b) : wall zone t = wall zone a + (t - a) := by
  unfold wall
  rw [steady t after before]
  omega

theorem steady_weekday (ordered : a ≤ b) (short : b - a ≤ 6 * msPerDay)
    (same : weekday (localDay zone a) = weekday (localDay zone b)) : localDay zone a = localDay zone b := by
  have moved := steady_wall zone a b steady b ordered le_rfl
  have dayA := wall_day_time zone a
  have dayB := wall_day_time zone b
  have timeA := localTime_bounds zone a
  have timeB := localTime_bounds zone b
  unfold weekday at same
  unfold msPerDay at *
  omega

theorem steady_staysWithin (ordered : a ≤ b) (same : localDay zone a = localDay zone b) (earliest latest : Int) :
    StaysWithin zone (localDay zone a) earliest latest a b ↔
      earliest * msPerMinute ≤ localTime zone a ∧ localTime zone b ≤ latest * msPerMinute := by
  constructor
  · intro stays
    exact ⟨(stays a le_rfl ordered).2.1, (stays b ordered le_rfl).2.2⟩
  · rintro ⟨from_, until_⟩ t after before
    have atT := steady_wall zone a b steady t after before
    have atB := steady_wall zone a b steady b ordered le_rfl
    have dayA := wall_day_time zone a
    have dayB := wall_day_time zone b
    have dayT := wall_day_time zone t
    have timeA := localTime_bounds zone a
    have timeB := localTime_bounds zone b
    have timeT := localTime_bounds zone t
    have day : localDay zone t = localDay zone a := by
      unfold msPerDay at *
      omega
    rw [day] at dayT
    rw [← same] at dayB
    refine ⟨day, ?_, ?_⟩
    · linarith
    · linarith

end Steadily

end WallClock

end EduAi.Store
