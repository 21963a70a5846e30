import EduAi.Store.Calendar

set_option autoImplicit false

namespace EduAi.Store

-- Dates as JavaScript has them: a count of milliseconds since 1970 within a fixed range, or an invalid date.
section UtcDate

def msPerDay : Int :=
  86400000

def maxTime : Int :=
  8640000000000000

def Representable (t : Int) : Prop :=
  -maxTime ≤ t ∧ t ≤ maxTime

instance (t : Int) : Decidable (Representable t) := by
  unfold Representable
  infer_instance

def timeClip (t : Int) : Option Int :=
  if Representable t then some t else none

def utcDay (t : Int) : Int :=
  t / msPerDay

def timeWithinDay (t : Int) : Int :=
  t % msPerDay

def makeDate (day time : Int) : Int :=
  day * msPerDay + time

def makeDay (year month date : Int) : Int :=
  monthStart (12 * year + month) + date - 1

def utcMonth (t : Int) : Int :=
  monthOf (utcDay t)

def getUTCFullYear (t : Int) : Int :=
  utcMonth t / 12

def getUTCMonth (t : Int) : Int :=
  utcMonth t % 12

def getUTCDate (t : Int) : Int :=
  dayOfMonth (utcDay t)

def setUTCDate (t date : Int) : Option Int :=
  timeClip (makeDate (makeDay (getUTCFullYear t) (getUTCMonth t) date) (timeWithinDay t))

def setUTCMonth (t month : Int) : Option Int :=
  timeClip (makeDate (makeDay (getUTCFullYear t) month (getUTCDate t)) (timeWithinDay t))

def makeFullYear (year : Int) : Int :=
  if 0 ≤ year ∧ year ≤ 99 then 1900 + year else year

def dateUTC (year month date : Int) : Option Int :=
  timeClip (makeDate (makeDay (makeFullYear year) month date) 0)

theorem timeClip_some (t r : Int) : timeClip t = some r ↔ Representable t ∧ r = t := by
  unfold timeClip
  by_cases fits : Representable t
  · simp [fits, eq_comm]
  · simp [fits]

section MakeDate

variable (day time : Int) (least : 0 ≤ time) (most : time < msPerDay)

include least most in
theorem utcDay_makeDate : utcDay (makeDate day time) = day := by
  unfold utcDay makeDate
  unfold msPerDay at *
  omega

include least most in
theorem timeWithinDay_makeDate : timeWithinDay (makeDate day time) = time := by
  unfold timeWithinDay makeDate
  unfold msPerDay at *
  omega

include least most in
theorem utcMonth_makeDate (month : Int) (from' : monthStart month ≤ day) (until' : day < monthStart (month + 1)) :
    utcMonth (makeDate day time) = month := by
  unfold utcMonth
  rw [utcDay_makeDate day time least most]
  exact monthOf_unique day month from' until'

include least most in
theorem getUTCDate_makeDate (month : Int) (from' : monthStart month ≤ day) (until' : day < monthStart (month + 1)) :
    getUTCDate (makeDate day time) = day - monthStart month + 1 := by
  unfold getUTCDate dayOfMonth
  rw [utcDay_makeDate day time least most, monthOf_unique day month from' until']

end MakeDate

theorem timeWithinDay_bounds (t : Int) : 0 ≤ timeWithinDay t ∧ timeWithinDay t < msPerDay := by
  unfold timeWithinDay msPerDay
  omega

theorem makeDate_utcDay (t : Int) : makeDate (utcDay t) (timeWithinDay t) = t := by
  unfold makeDate utcDay timeWithinDay msPerDay
  omega

theorem getUTCDate_bounds (t : Int) : 1 ≤ getUTCDate t ∧ getUTCDate t ≤ monthLength (utcMonth t) := by
  have within := monthOf_within (utcDay t)
  unfold getUTCDate dayOfMonth utcMonth monthLength
  omega

theorem makeDate_lt (day day' time : Int) (before : day < day') : makeDate day time < makeDate day' time := by
  unfold makeDate msPerDay
  omega

theorem year_month (month : Int) : 12 * (month / 12) + month % 12 = month := by
  omega

theorem setUTCDate_ok (t date : Int) :
    setUTCDate t date = timeClip (makeDate (monthStart (utcMonth t) + date - 1) (timeWithinDay t)) := by
  unfold setUTCDate getUTCFullYear getUTCMonth makeDay
  rw [year_month]

end UtcDate

end EduAi.Store
