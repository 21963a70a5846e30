import EduAi.Store.UtcDate

set_option autoImplicit false

namespace EduAi.Store

-- The time of day of a date, and dates made from all six fields.
section UtcTime

def getUTCHours (t : Int) : Int :=
  timeWithinDay t / 3600000

def getUTCMinutes (t : Int) : Int :=
  timeWithinDay t / 60000 % 60

def getUTCSeconds (t : Int) : Int :=
  timeWithinDay t / 1000 % 60

def makeTime (hour minute second : Int) : Int :=
  hour * 3600000 + minute * 60000 + second * 1000

-- Date.UTC of six numbers.
def dateTimeUTC (year month date hour minute second : Int) : Option Int :=
  timeClip (makeDate (makeDay (makeFullYear year) month date) (makeTime hour minute second))

def wholeSeconds (t : Int) : Int :=
  t - t % 1000

variable (t : Int)

theorem getUTCHours_bounds : 0 ≤ getUTCHours t ∧ getUTCHours t ≤ 23 := by
  have bounds := timeWithinDay_bounds t
  unfold msPerDay at bounds
  unfold getUTCHours
  omega

theorem getUTCMinutes_bounds : 0 ≤ getUTCMinutes t ∧ getUTCMinutes t ≤ 59 := by
  unfold getUTCMinutes
  omega

theorem getUTCSeconds_bounds : 0 ≤ getUTCSeconds t ∧ getUTCSeconds t ≤ 59 := by
  unfold getUTCSeconds
  omega

theorem getUTCMonth_bounds : 0 ≤ getUTCMonth t ∧ getUTCMonth t ≤ 11 := by
  unfold getUTCMonth
  omega

theorem getUTCDate_range : 1 ≤ getUTCDate t ∧ getUTCDate t ≤ 31 := by
  have bounds := getUTCDate_bounds t
  have longest := (monthLength_bounds (utcMonth t)).2
  omega

theorem makeDay_fields : makeDay (getUTCFullYear t) (getUTCMonth t) (getUTCDate t) = utcDay t := by
  have month : 12 * getUTCFullYear t + getUTCMonth t = utcMonth t := year_month (utcMonth t)
  rw [makeDay, month, getUTCDate, dayOfMonth, utcMonth]
  omega

theorem makeDate_fields :
    makeDate (makeDay (getUTCFullYear t) (getUTCMonth t) (getUTCDate t))
      (makeTime (getUTCHours t) (getUTCMinutes t) (getUTCSeconds t)) = wholeSeconds t := by
  rw [makeDay_fields]
  unfold makeDate makeTime getUTCHours getUTCMinutes getUTCSeconds wholeSeconds utcDay timeWithinDay msPerDay
  omega

theorem utcDay_seconds : utcDay (wholeSeconds t) = utcDay t := by
  unfold utcDay wholeSeconds msPerDay
  omega

theorem timeWithinDay_seconds : timeWithinDay (wholeSeconds t) = timeWithinDay t - timeWithinDay t % 1000 := by
  unfold timeWithinDay wholeSeconds msPerDay
  omega

theorem date_seconds : getUTCFullYear (wholeSeconds t) = getUTCFullYear t ∧ getUTCMonth (wholeSeconds t) = getUTCMonth t ∧
    getUTCDate (wholeSeconds t) = getUTCDate t := by
  unfold getUTCFullYear getUTCMonth getUTCDate utcMonth
  rw [utcDay_seconds]
  exact ⟨rfl, rfl, rfl⟩

theorem time_seconds : getUTCHours (wholeSeconds t) = getUTCHours t ∧ getUTCMinutes (wholeSeconds t) = getUTCMinutes t ∧
    getUTCSeconds (wholeSeconds t) = getUTCSeconds t := by
  unfold getUTCHours getUTCMinutes getUTCSeconds
  rw [timeWithinDay_seconds]
  omega

end UtcTime

end EduAi.Store
