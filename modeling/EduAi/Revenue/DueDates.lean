import EduAi.Memberships.CalendarMonths
import EduAi.Store.Checks

set_option autoImplicit false

namespace EduAi.Revenue

open EduAi.Store EduAi.Memberships

structure RevenueEarningPeriod where
  snapshotId : String
  sellerId : String
  courseId : String
  periodIndex : Nat
  amountMinor : Int
  dueAt : Int
deriving DecidableEq, Repr

def storedDate (date : Option Int) : Except String Int :=
  match date with
  | some t => .ok t
  | none => .error "Provided Date object is invalid."

def dueDate (startsAt expiresAt : Int) (months index : Nat) : Except String Int := do
  let date ← if index + 1 = months then .ok (some expiresAt) else addCalendarMonths (some startsAt) (index + 1)
  storedDate date

def periodRow (snapshotId sellerId courseId : String) (x : Int × Nat) (due : Int) : RevenueEarningPeriod where
  snapshotId := snapshotId
  sellerId := sellerId
  courseId := courseId
  periodIndex := x.2
  amountMinor := x.1
  dueAt := due

def createPeriods (snapshotId sellerId courseId : String) (startsAt expiresAt : Int) (values : List Int) :
    Except String (List RevenueEarningPeriod) :=
  values.zipIdx.mapM (fun x => do
    let due ← dueDate startsAt expiresAt values.length x.2
    return periodRow snapshotId sellerId courseId x due)

-- The result lies in the month that many months on, on the day of the start as far as the month has it, at the same time of day.
structure MonthsLater (start months r : Int) : Prop where
  month : utcMonth r = utcMonth start + months
  day : getUTCDate r = min (getUTCDate start) (monthLength (utcMonth start + months))
  time : timeWithinDay r = timeWithinDay start

def Clamped (start months : Int) : Prop :=
  utcMonth start + months = 1 → getUTCDate start ≤ 28

def DueInOrder (start expiresAt : Int) (months : Nat) : Prop :=
  ∀ snapshotId sellerId courseId values, values.length = months →
    ∃ periods, createPeriods snapshotId sellerId courseId start expiresAt values = .ok periods ∧
      periods.map (·.amountMinor) = values ∧ (periods.map (·.dueAt)).Pairwise (· < ·) ∧
      (periods.map (·.dueAt)).getLast? = some expiresAt

section DueDates

variable (start : Int) (months : Nat) (expiresAt : Int)

theorem monthsLater_iff (m r : Int) (result : addCalendarMonths (some start) m = .ok (some r)) :
    MonthsLater start m r ↔ Clamped start m := by
  obtain ⟨_, valid⟩ := (addCalendarMonths_ok start m r).mp result
  obtain ⟨_, _, _, _, rfl⟩ := (monthsAfter_some start m r).mp valid
  obtain ⟨month, day, time⟩ := clampedAt_fields start (utcMonth start + m)
  have february : monthLength 1 = 29 := by decide
  constructor
  · intro later one
    have same := day.symm.trans later.day
    unfold clampedDay at same
    rw [clampMonth_length, if_pos one, one, february] at same
    omega
  · intro clamped
    refine { month := month, day := day.trans ?_, time := time }
    unfold clampedDay
    rw [clampMonth_length]
    by_cases one : utcMonth start + m = 1
    · have low := clamped one
      rw [if_pos one, one, february]
      omega
    · rw [if_neg one]

theorem dueDate_at (expiry : addCalendarMonths (some start) months = .ok (some expiresAt)) (index : Nat) (within : index < months) :
    dueDate start expiresAt months index = .ok (clampedAt start (utcMonth start + (index + 1))) := by
  obtain ⟨_, valid⟩ := (addCalendarMonths_ok start months expiresAt).mp expiry
  unfold dueDate
  by_cases last : index + 1 = months
  · obtain ⟨_, _, _, _, same⟩ := (monthsAfter_some start months expiresAt).mp valid
    have whole : ((index : Int) + 1) = months := by omega
    rw [if_pos last, same, ← whole]
    rfl
  · obtain ⟨date, shorter, _⟩ := monthsAfter_shorter start months (index + 1) expiresAt (by omega) (by omega) valid
    obtain ⟨_, _, _, _, same⟩ := (monthsAfter_some start (index + 1) date).mp shorter
    have added := (addCalendarMonths_ok start (index + 1) date).mpr ⟨by omega, shorter⟩
    rw [if_neg last, added, same]
    rfl

theorem due_in_order (expiry : addCalendarMonths (some start) months = .ok (some expiresAt)) : DueInOrder start expiresAt months := by
  intro snapshotId sellerId courseId values length
  obtain ⟨positive, valid⟩ := (addCalendarMonths_ok start months expiresAt).mp expiry
  have created : createPeriods snapshotId sellerId courseId start expiresAt values =
      .ok (values.zipIdx.map (fun x =>
        periodRow snapshotId sellerId courseId x (clampedAt start (utcMonth start + (x.2 + 1))))) := by
    refine mapM_answers _ _ _ (fun x member => ?_)
    have within : x.2 < months := by
      have := List.snd_lt_of_mem_zipIdx member
      omega
    rw [length, dueDate_at start months expiresAt expiry x.2 within]
    rfl
  have dates : ∀ f : Nat → Int, (values.zipIdx.map (fun x => f x.2)) = (List.range months).map f := by
    intro f
    have indices : values.zipIdx.map Prod.snd = List.range months := by
      rw [List.zipIdx_map_snd, length, List.range_eq_range']
    rw [← indices, List.map_map]
    rfl
  refine ⟨_, created, ?_, ?_, ?_⟩
  · rw [List.map_map]
    exact List.zipIdx_map_fst 0 values
  · rw [List.map_map]
    simp only [Function.comp_def, periodRow]
    rw [dates (fun index => clampedAt start (utcMonth start + (index + 1))), List.pairwise_map]
    refine List.pairwise_lt_range.imp (fun before => clampedAt_lt start _ _ ?_)
    omega
  · rw [List.map_map]
    simp only [Function.comp_def, periodRow]
    rw [dates (fun index => clampedAt start (utcMonth start + (index + 1)))]
    obtain ⟨_, _, _, _, same⟩ := (monthsAfter_some start months expiresAt).mp valid
    have whole : ((months - 1 : Nat) : Int) + 1 = months := by omega
    rw [List.getLast?_map, List.getLast?_range, if_neg (by omega), Option.map_some, whole, same]

theorem term_due_in_order (action : MembershipChangeAction) (paymentAt : Int) (activeExpiresAt : Option Int) (term : MembershipTerm)
    (resolved : resolveMembershipChange action months paymentAt activeExpiresAt = .ok term) (endsAt : Int)
    (valid : term.endsAt = some endsAt) : DueInOrder term.startsAt endsAt months := by
  unfold resolveMembershipChange at resolved
  obtain ⟨date, added, resolved⟩ := (answered_bind _ _ _).mp resolved
  obtain rfl := (answered_pure _ _).mp resolved
  obtain rfl : date = some endsAt := valid
  exact due_in_order _ months endsAt added

end DueDates

structure CalendarMonths (start : Int) (m n : Nat) (r r' : Int) : Prop where
  increasing : r < r'
  first : MonthsLater start m r
  second : MonthsLater start n r'
  due : DueInOrder start r' n

/-- More months give a later date, and periods fall due in order up to the expiry, from every start; the day is the clamped one
exactly where the month is not the February of year zero or the start is early enough in its month. -/
theorem calendar_months (start : Int) (m n : Nat) (lt : m < n) (r r' : Int)
    (first : addCalendarMonths (some start) m = .ok (some r)) (second : addCalendarMonths (some start) n = .ok (some r')) :
    (r < r' ∧ DueInOrder start r' n) ∧ (CalendarMonths start m n r r' ↔ Clamped start m ∧ Clamped start n) := by
  obtain ⟨positive, valid⟩ := (addCalendarMonths_ok start m r).mp first
  obtain ⟨_, valid'⟩ := (addCalendarMonths_ok start n r').mp second
  obtain ⟨date, same, increasing⟩ := monthsAfter_shorter start n m r' positive (by omega) valid'
  obtain rfl : date = r := Option.some.inj (same.symm.trans valid)
  have due := due_in_order start n r' second
  refine ⟨⟨increasing, due⟩, ?_⟩
  constructor
  · intro calendar
    exact ⟨(monthsLater_iff start m date first).mp calendar.first, (monthsLater_iff start n r' second).mp calendar.second⟩
  · rintro ⟨clamped, clamped'⟩
    exact {
      increasing := increasing
      first := (monthsLater_iff start m date first).mpr clamped
      second := (monthsLater_iff start n r' second).mpr clamped'
      due := due }

-- The last of January 2028 and the two months after it.
theorem calendar_months_sample :
    CalendarMonths 1832889600000 1 2 1835395200000 1838073600000 ∧ ((1835395200000 : Int) < 1838073600000) := by
  have first : addCalendarMonths (some 1832889600000) 1 = .ok (some 1835395200000) := by decide +kernel
  have second : addCalendarMonths (some 1832889600000) 2 = .ok (some 1838073600000) := by decide +kernel
  have month : utcMonth 1832889600000 = 24336 := by decide +kernel
  obtain ⟨⟨increasing, _⟩, calendar⟩ := calendar_months 1832889600000 1 2 (by decide) 1835395200000 1838073600000 first second
  refine ⟨calendar.mpr ⟨fun one => ?_, fun one => ?_⟩, increasing⟩
  · rw [month] at one
    cases one
  · rw [month] at one
    cases one

-- A month after the last of January of the year zero, a leap year, is the 28th of February.
theorem year_zero_clamped_short :
    addCalendarMonths (some (-62164627200000)) 1 = .ok (some (-62162208000000)) ∧
    addCalendarMonths (some (-62164627200000)) 2 = .ok (some (-62159443200000)) ∧
    ¬ CalendarMonths (-62164627200000) 1 2 (-62162208000000) (-62159443200000) := by
  refine ⟨by decide +kernel, by decide +kernel, fun calendar => ?_⟩
  have day := calendar.first.day
  revert day
  decide +kernel

end EduAi.Revenue
