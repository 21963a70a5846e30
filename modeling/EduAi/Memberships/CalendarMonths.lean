import EduAi.Store.UtcDate

set_option autoImplicit false

namespace EduAi.Memberships

open EduAi.Store

-- The month after months, with the day kept where the month has it; none is an invalid date.
def monthsAfter (start months : Int) : Option Int := do
  let originalDay := getUTCDate start
  let first ← setUTCDate start 1
  let result ← setUTCMonth first (getUTCMonth first + months)
  let last ← dateUTC (getUTCFullYear result) (getUTCMonth result + 1) 0
  setUTCDate result (min originalDay (getUTCDate last))

def addCalendarMonths (start : Option Int) (months : Int) : Except String (Option Int) :=
  match start with
  | none => .error "A valid start and positive whole-month duration are required."
  | some start =>
      if months ≤ 0 then .error "A valid start and positive whole-month duration are required."
      else .ok (monthsAfter start months)

inductive MembershipChangeAction where
  | purchase | renew | upgrade | downgrade
deriving DecidableEq, Repr

structure MembershipTerm where
  startsAt : Int
  endsAt : Option Int
  activatesImmediately : Bool
deriving DecidableEq, Repr

def resolveMembershipChange (action : MembershipChangeAction) (months : Int) (paymentAt : Int) (activeExpiresAt : Option Int) :
    Except String MembershipTerm := do
  let activeExpiry := activeExpiresAt.filter (fun expiry => paymentAt < expiry)
  let startsAt := if action = .renew ∨ action = .downgrade then activeExpiry.getD paymentAt else paymentAt
  let endsAt ← addCalendarMonths (some startsAt) months
  return { startsAt := startsAt, endsAt := endsAt, activatesImmediately := action ≠ .downgrade }

section Months

variable (start months : Int)

def startOf (month : Int) : Int :=
  makeDate (monthStart month) (timeWithinDay start)

def clampMonth (month : Int) : Int :=
  12 * makeFullYear (month / 12) + month % 12

def clampedDay (month : Int) : Int :=
  min (getUTCDate start) (monthLength (clampMonth month))

def clampedAt (month : Int) : Int :=
  makeDate (monthStart month + clampedDay start month - 1) (timeWithinDay start)

def lastMidnight (month : Int) : Int :=
  makeDate (monthStart (clampMonth month + 1) - 1) 0

theorem clampMonth_length (month : Int) :
    monthLength (clampMonth month) = if month = 1 then 28 else monthLength month := by
  have split := year_month month
  have low : 0 ≤ month % 12 := by omega
  have high : month % 12 ≤ 11 := by omega
  have same := monthLength_of (month / 12) (month % 12) low high
  rw [split] at same
  unfold clampMonth
  rw [monthLength_of _ _ low high, same]
  unfold makeFullYear
  by_cases mapped : 0 ≤ month / 12 ∧ month / 12 ≤ 99
  · rw [if_pos mapped]
    unfold leapDay leapYear
    by_cases february : month % 12 = 1
    · rw [if_pos february, if_pos february]
      by_cases zero : month = 1
      · subst zero
        decide
      · rw [if_neg zero]
        have later : month / 12 ≠ 0 := by omega
        congr 1
        refine if_congr ?_ rfl rfl
        omega
    · rw [if_neg february, if_neg february, if_neg (by omega : ¬ month = 1)]
  · rw [if_neg mapped, if_neg (by omega : ¬ month = 1)]

theorem clampMonth_within (month : Int) :
    monthLength (clampMonth month) ≤ monthLength month := by
  have february : monthLength 1 = 29 := by decide
  rw [clampMonth_length]
  by_cases one : month = 1
  · rw [if_pos one, one, february]
    decide
  · rw [if_neg one]

theorem clampedDay_bounds (month : Int) : 1 ≤ clampedDay start month ∧ clampedDay start month ≤ monthLength month := by
  have day := (getUTCDate_bounds start).1
  have length := (monthLength_bounds (clampMonth month)).1
  have within := clampMonth_within month
  unfold clampedDay
  omega

theorem startOf_fields (month : Int) :
    utcMonth (startOf start month) = month ∧ getUTCDate (startOf start month) = 1 ∧
      timeWithinDay (startOf start month) = timeWithinDay start := by
  obtain ⟨least, most⟩ := timeWithinDay_bounds start
  have next : monthStart month < monthStart (month + 1) := monthStart_lt (by omega)
  refine ⟨utcMonth_makeDate _ _ least most month le_rfl next, ?_, timeWithinDay_makeDate _ _ least most⟩
  rw [startOf, getUTCDate_makeDate _ _ least most month le_rfl next]
  omega

theorem lastMidnight_date (month : Int) : getUTCDate (lastMidnight month) = monthLength (clampMonth month) := by
  have next : monthStart (clampMonth month) < monthStart (clampMonth month + 1) := monthStart_lt (by omega)
  rw [lastMidnight, getUTCDate_makeDate _ _ le_rfl (by decide) (clampMonth month) (by omega) (by omega)]
  unfold monthLength
  omega

theorem firstOfMonth : setUTCDate start 1 = timeClip (startOf start (utcMonth start)) := by
  rw [setUTCDate_ok, add_sub_cancel_right]
  rfl

theorem monthMoved (month : Int) :
    setUTCMonth (startOf start month) (getUTCMonth (startOf start month) + months) = timeClip (startOf start (month + months)) := by
  obtain ⟨same, first, time⟩ := startOf_fields start month
  have index : 12 * (month / 12) + (month % 12 + months) = month + months := by omega
  unfold setUTCMonth getUTCFullYear getUTCMonth makeDay
  rw [same, first, time, index, add_sub_cancel_right]
  rfl

theorem lastOfMonth (month : Int) :
    dateUTC (getUTCFullYear (startOf start month)) (getUTCMonth (startOf start month) + 1) 0 = timeClip (lastMidnight month) := by
  obtain ⟨same, _, _⟩ := startOf_fields start month
  unfold dateUTC getUTCFullYear getUTCMonth makeDay lastMidnight clampMonth
  rw [same, add_zero, ← add_assoc]

theorem dayClamped (month : Int) :
    setUTCDate (startOf start month) (min (getUTCDate start) (getUTCDate (lastMidnight month))) =
      timeClip (clampedAt start month) := by
  obtain ⟨same, _, time⟩ := startOf_fields start month
  rw [setUTCDate_ok, same, time, lastMidnight_date]
  rfl

theorem monthsAfter_some (r : Int) :
    monthsAfter start months = some r ↔
      Representable (startOf start (utcMonth start)) ∧ Representable (startOf start (utcMonth start + months)) ∧
        Representable (lastMidnight (utcMonth start + months)) ∧ Representable r ∧ r = clampedAt start (utcMonth start + months) := by
  unfold monthsAfter
  rw [firstOfMonth]
  simp only [Option.bind_eq_bind, Option.bind_eq_some_iff, timeClip_some]
  constructor
  · rintro ⟨first, ⟨whole, rfl⟩, result, moved, last, ended, placed⟩
    rw [monthMoved, timeClip_some] at moved
    obtain ⟨moved, rfl⟩ := moved
    rw [lastOfMonth, timeClip_some] at ended
    obtain ⟨ended, rfl⟩ := ended
    rw [dayClamped, timeClip_some] at placed
    obtain ⟨placed, rfl⟩ := placed
    exact ⟨whole, moved, ended, placed, rfl⟩
  · rintro ⟨whole, moved, ended, placed, rfl⟩
    refine ⟨_, ⟨whole, rfl⟩, startOf start (utcMonth start + months), ?_, lastMidnight (utcMonth start + months), ?_, ?_⟩
    · rw [monthMoved, timeClip_some]
      exact ⟨moved, rfl⟩
    · rw [lastOfMonth, timeClip_some]
      exact ⟨ended, rfl⟩
    · rw [dayClamped, timeClip_some]
      exact ⟨placed, rfl⟩

theorem addCalendarMonths_ok (r : Int) :
    addCalendarMonths (some start) months = .ok (some r) ↔ 0 < months ∧ monthsAfter start months = some r := by
  unfold addCalendarMonths
  by_cases low : months ≤ 0
  · simp only [low, if_true, not_lt.mpr low, false_and, reduceCtorEq]
  · simp only [low, if_false, Except.ok.injEq, not_le.mp low, true_and]

theorem clampedAt_fields (month : Int) :
    utcMonth (clampedAt start month) = month ∧ getUTCDate (clampedAt start month) = clampedDay start month ∧
      timeWithinDay (clampedAt start month) = timeWithinDay start := by
  obtain ⟨least, most⟩ := timeWithinDay_bounds start
  obtain ⟨low, high⟩ := clampedDay_bounds start month
  unfold monthLength at high
  have from' : monthStart month ≤ monthStart month + clampedDay start month - 1 := by omega
  have until' : monthStart month + clampedDay start month - 1 < monthStart (month + 1) := by omega
  refine ⟨utcMonth_makeDate _ _ least most month from' until', ?_, timeWithinDay_makeDate _ _ least most⟩
  rw [clampedAt, getUTCDate_makeDate _ _ least most month from' until']
  omega

theorem clampedAt_lt (month month' : Int) (later : month < month') : clampedAt start month < clampedAt start month' := by
  have high := (clampedDay_bounds start month).2
  have low := (clampedDay_bounds start month').1
  have between : monthStart (month + 1) ≤ monthStart month' := monthStart_le (Int.add_one_le_of_lt later)
  unfold monthLength at high
  refine makeDate_lt _ _ _ ?_
  omega

theorem lastMidnight_representable (month : Int) (low : -maxTime ≤ startOf start month) (high : startOf start (month + 1) ≤ maxTime) :
    Representable (lastMidnight month) := by
  have time := timeWithinDay_bounds start
  have split := year_month month
  unfold startOf makeDate at low high
  unfold lastMidnight clampMonth makeFullYear makeDate Representable
  by_cases mapped : 0 ≤ month / 12 ∧ month / 12 ≤ 99
  · rw [if_pos mapped]
    have early : monthStart 22800 < monthStart (12 * (1900 + month / 12) + month % 12 + 1) := monthStart_lt (by omega)
    have late : monthStart (12 * (1900 + month / 12) + month % 12 + 1) ≤ monthStart 24000 := monthStart_le (by omega)
    have first : monthStart 22800 = -25567 := by decide
    have last : monthStart 24000 = 10957 := by decide
    unfold msPerDay maxTime at *
    omega
  · rw [if_neg mapped, split]
    have length := (monthLength_bounds month).1
    unfold monthLength at length
    unfold msPerDay at *
    omega

theorem monthsAfter_shorter (shorter r : Int) (positive : 0 < shorter) (less : shorter < months)
    (valid : monthsAfter start months = some r) :
    ∃ r', monthsAfter start shorter = some r' ∧ r' < r := by
  obtain ⟨whole, moved, ended, placed, rfl⟩ := (monthsAfter_some start months r).mp valid
  have lt : clampedAt start (utcMonth start + shorter) < clampedAt start (utcMonth start + months) :=
    clampedAt_lt start _ _ (by omega)
  refine ⟨_, (monthsAfter_some start shorter _).mpr ⟨whole, ?moved, ?ended, ?placed, rfl⟩, lt⟩
  case moved =>
    have after : startOf start (utcMonth start) < startOf start (utcMonth start + shorter) :=
      makeDate_lt _ _ _ (monthStart_lt (by omega))
    have before : startOf start (utcMonth start + shorter) < startOf start (utcMonth start + months) :=
      makeDate_lt _ _ _ (monthStart_lt (by omega))
    unfold Representable at *
    omega
  case placed =>
    have low := (clampedDay_bounds start (utcMonth start + shorter)).1
    have after : startOf start (utcMonth start) < clampedAt start (utcMonth start + shorter) := by
      have later : monthStart (utcMonth start) < monthStart (utcMonth start + shorter) := monthStart_lt (by omega)
      exact makeDate_lt _ _ _ (by omega)
    unfold Representable at *
    omega
  case ended =>
    have after : startOf start (utcMonth start) < startOf start (utcMonth start + shorter) :=
      makeDate_lt _ _ _ (monthStart_lt (by omega))
    have before : startOf start (utcMonth start + shorter + 1) ≤ startOf start (utcMonth start + months) := by
      have later : monthStart (utcMonth start + shorter + 1) ≤ monthStart (utcMonth start + months) :=
        monthStart_le (by omega)
      unfold startOf makeDate msPerDay
      omega
    unfold Representable at whole moved
    exact lastMidnight_representable start _ (by omega) (by omega)

end Months

end EduAi.Memberships
