import Mathlib.Order.Monotone.Basic
import Mathlib.Algebra.Order.Group.Int
import Mathlib.Order.SuccPred.LinearLocallyFinite
import Mathlib.Tactic.Common
import Mathlib.Tactic.IntervalCases

set_option autoImplicit false

namespace EduAi.Store

-- The proleptic Gregorian calendar over the integers. Days are counted from the first of January 1970,
-- months from January of year zero.
section Calendar

def leapYear (year : Int) : Prop :=
  year % 4 = 0 ∧ (year % 100 ≠ 0 ∨ year % 400 = 0)

instance (year : Int) : Decidable (leapYear year) := by
  unfold leapYear
  infer_instance

def daysBeforeYear (year : Int) : Int :=
  365 * (year - 1970) + (year - 1969) / 4 - (year - 1901) / 100 + (year - 1601) / 400

def leapDay (year : Int) : Int :=
  if leapYear year then 1 else 0

def daysBeforeMonth (year month : Int) : Int :=
  if month ≤ 0 then 0
  else if month = 1 then 31
  else leapDay year +
    (if month = 2 then 59 else if month = 3 then 90 else if month = 4 then 120 else if month = 5 then 151
      else if month = 6 then 181 else if month = 7 then 212 else if month = 8 then 243 else if month = 9 then 273
      else if month = 10 then 304 else if month = 11 then 334 else 365)

def monthStart (month : Int) : Int :=
  daysBeforeYear (month / 12) + daysBeforeMonth (month / 12) (month % 12)

def monthLength (month : Int) : Int :=
  monthStart (month + 1) - monthStart month

theorem leapDay_bounds (year : Int) : 0 ≤ leapDay year ∧ leapDay year ≤ 1 := by
  unfold leapDay
  split <;> omega

theorem daysBeforeYear_succ (year : Int) : daysBeforeYear (year + 1) = daysBeforeYear year + 365 + leapDay year := by
  unfold daysBeforeYear leapDay
  by_cases leap : leapYear year
  · rw [if_pos leap]
    unfold leapYear at leap
    omega
  · rw [if_neg leap]
    unfold leapYear at leap
    omega

theorem monthLength_of (year month : Int) (least : 0 ≤ month) (most : month ≤ 11) :
    monthLength (12 * year + month) = if month = 1 then 28 + leapDay year else
      if month = 3 ∨ month = 5 ∨ month = 8 ∨ month = 10 then 30 else 31 := by
  have quotient : (12 * year + month) / 12 = year := by omega
  have rest : (12 * year + month) % 12 = month := by omega
  have next := daysBeforeYear_succ year
  unfold monthLength monthStart
  rw [quotient, rest]
  by_cases last : month = 11
  · have quotient' : (12 * year + month + 1) / 12 = year + 1 := by omega
    have rest' : (12 * year + month + 1) % 12 = 0 := by omega
    rw [quotient', rest', next, last]
    simp [daysBeforeMonth]
    omega
  · have quotient' : (12 * year + month + 1) / 12 = year := by omega
    have rest' : (12 * year + month + 1) % 12 = month + 1 := by omega
    rw [quotient', rest']
    unfold daysBeforeMonth
    interval_cases month <;> simp at *
    -- February is the one month whose length depends on the year.
    omega

theorem monthLength_bounds (month : Int) : 28 ≤ monthLength month ∧ monthLength month ≤ 31 := by
  have split : 12 * (month / 12) + month % 12 = month := by omega
  have leap := leapDay_bounds (month / 12)
  rw [← split, monthLength_of (month / 12) (month % 12) (by omega) (by omega)]
  split
  · omega
  · split <;> omega

theorem monthStart_lt {m n : Int} (later : m < n) : monthStart m < monthStart n := by
  have grows : StrictMono monthStart := by
    refine strictMono_int_of_lt_succ (fun month => ?_)
    have := (monthLength_bounds month).1
    unfold monthLength at this
    omega
  exact grows later

theorem monthStart_le {m n : Int} (later : m ≤ n) : monthStart m ≤ monthStart n := by
  rcases Int.lt_or_eq_of_le later with after | rfl
  · exact Int.le_of_lt (monthStart_lt after)
  · exact Int.le_refl _

def yearOf (day : Int) : Int :=
  let guess := 1970 + 400 * day / 146097
  if day < daysBeforeYear guess then guess - 1
  else if daysBeforeYear (guess + 1) ≤ day then guess + 1
  else guess

def monthSearch (year day : Int) : Nat → Int
  | 0 => 0
  | n + 1 => if daysBeforeMonth year (n + 1) ≤ day then n + 1 else monthSearch year day n

def monthWithin (year day : Int) : Int :=
  monthSearch year day 11

def monthOf (day : Int) : Int :=
  12 * yearOf day + monthWithin (yearOf day) (day - daysBeforeYear (yearOf day))

def dayOfMonth (day : Int) : Int :=
  day - monthStart (monthOf day) + 1

theorem yearOf_within (day : Int) : daysBeforeYear (yearOf day) ≤ day ∧ day < daysBeforeYear (yearOf day + 1) := by
  have early : daysBeforeYear (1970 + 400 * day / 146097 - 1) ≤ day := by
    unfold daysBeforeYear
    omega
  have late : day < daysBeforeYear (1970 + 400 * day / 146097 + 1 + 1) := by
    unfold daysBeforeYear
    omega
  unfold yearOf
  by_cases before : day < daysBeforeYear (1970 + 400 * day / 146097)
  · rw [if_pos before, sub_add_cancel]
    exact ⟨early, before⟩
  · rw [if_neg before]
    by_cases after : daysBeforeYear (1970 + 400 * day / 146097 + 1) ≤ day
    · rw [if_pos after]
      exact ⟨after, late⟩
    · rw [if_neg after]
      exact ⟨not_lt.mp before, not_le.mp after⟩

theorem monthSearch_bounds (year day : Int) (n : Nat) : 0 ≤ monthSearch year day n ∧ monthSearch year day n ≤ n := by
  induction n with
  | zero => exact ⟨le_rfl, le_rfl⟩
  | succ n ih =>
      unfold monthSearch
      split
      · omega
      · omega

theorem monthStart_split (year month : Int) (least : 0 ≤ month) (most : month ≤ 11) :
    monthStart (12 * year + month) = daysBeforeYear year + daysBeforeMonth year month := by
  have quotient : (12 * year + month) / 12 = year := by omega
  have rest : (12 * year + month) % 12 = month := by omega
  rw [monthStart, quotient, rest]

theorem monthSearch_covers (year day : Int) (n : Nat) (least : 0 ≤ day) (most : day < daysBeforeMonth year (n + 1)) :
    daysBeforeMonth year (monthSearch year day n) ≤ day ∧ day < daysBeforeMonth year (monthSearch year day n + 1) := by
  induction n with
  | zero => exact ⟨least, most⟩
  | succ n ih =>
      unfold monthSearch
      by_cases started : daysBeforeMonth year (n + 1) ≤ day
      · rw [if_pos started]
        exact ⟨started, most⟩
      · rw [if_neg started]
        exact ih (not_le.mp started)

theorem monthOf_within (day : Int) : monthStart (monthOf day) ≤ day ∧ day < monthStart (monthOf day + 1) := by
  obtain ⟨low, high⟩ := yearOf_within day
  have year := daysBeforeYear_succ (yearOf day)
  have whole : daysBeforeMonth (yearOf day) ((11 : Nat) + 1) = leapDay (yearOf day) + 365 := rfl
  obtain ⟨least, most⟩ := monthSearch_bounds (yearOf day) (day - daysBeforeYear (yearOf day)) 11
  obtain ⟨from', until'⟩ := monthSearch_covers (yearOf day) (day - daysBeforeYear (yearOf day)) 11 (by omega) (by omega)
  unfold monthOf monthWithin
  generalize monthSearch (yearOf day) (day - daysBeforeYear (yearOf day)) 11 = month at least most from' until'
  have start := monthStart_split (yearOf day) month least most
  refine ⟨by omega, ?_⟩
  by_cases last : month = 11
  · have next := monthStart_split (yearOf day + 1) 0 le_rfl (by decide)
    have zero : daysBeforeMonth (yearOf day + 1) 0 = 0 := rfl
    have same : 12 * yearOf day + month + 1 = 12 * (yearOf day + 1) + 0 := by omega
    rw [same, next, zero]
    omega
  · have next := monthStart_split (yearOf day) (month + 1) (by omega) (by omega)
    rw [add_assoc, next]
    omega

theorem monthOf_unique (day month : Int) (least : monthStart month ≤ day) (most : day < monthStart (month + 1)) :
    monthOf day = month := by
  obtain ⟨low, high⟩ := monthOf_within day
  have notLater : ¬ month < monthOf day := fun later => by
    have := monthStart_le (Int.add_one_le_of_lt later)
    omega
  have notEarlier : ¬ monthOf day < month := fun earlier => by
    have := monthStart_le (Int.add_one_le_of_lt earlier)
    omega
  omega

end Calendar

end EduAi.Store
