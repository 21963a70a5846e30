import EduAi.Store.UtcDate

set_option autoImplicit false

namespace EduAi.Memberships.Entitlements

open EduAi.Store

inductive EntitlementValueType where
  | boolean | metered | unlimited
deriving DecidableEq, Repr

inductive EntitlementResetPeriod where
  | none | calendarMonth | membershipTerm
deriving DecidableEq, Repr

structure UsageWindow where
  startsAt : Int
  endsAt : Option Int
deriving DecidableEq, Repr

def entitlementUsageWindow (resetPeriod : EntitlementResetPeriod) (grantStartsAt : Int) (grantEndsAt : Option Int)
    (moment : Int) : Option UsageWindow :=
  if resetPeriod ≠ .calendarMonth then some { startsAt := grantStartsAt, endsAt := grantEndsAt }
  else do
    let monthStart ← dateUTC (getUTCFullYear moment) (getUTCMonth moment) 1
    let nextMonth ← dateUTC (getUTCFullYear moment) (getUTCMonth moment + 1) 1
    some {
      startsAt := if monthStart < grantStartsAt then grantStartsAt else monthStart
      endsAt := some (if grantEndsAt.any (fun endsAt => endsAt < nextMonth) then grantEndsAt.getD nextMonth else nextMonth) }

-- date_trunc('month', _) of a timestamp without time zone.
def truncMonth (moment : Int) : Int :=
  makeDate (monthStart (utcMonth moment)) 0

def truncNextMonth (moment : Int) : Int :=
  makeDate (monthStart (utcMonth moment + 1)) 0

-- The window that service_entitlement_validate_usage expects of a row.
def expectedWindow (resetPeriod : EntitlementResetPeriod) (grantStart : Int) (grantEnd : Option Int) (createdAt : Int) :
    UsageWindow :=
  if resetPeriod = .calendarMonth then {
    startsAt := max grantStart (truncMonth createdAt)
    endsAt := some (grantEnd.elim (truncNextMonth createdAt) (fun endsAt => min endsAt (truncNextMonth createdAt))) }
  else { startsAt := grantStart, endsAt := grantEnd }

def Dated (moment : Int) : Prop :=
  100 ≤ getUTCFullYear moment ∧ getUTCFullYear moment ≤ 9999

def Within (startsAt : Int) (endsAt : Option Int) (moment : Int) : Prop :=
  startsAt ≤ moment ∧ ∀ e, endsAt = some e → moment < e

instance decidableWithin (startsAt : Int) (endsAt : Option Int) (moment : Int) : Decidable (Within startsAt endsAt moment) :=
  match endsAt with
  | none => decidable_of_iff (startsAt ≤ moment) ⟨fun begun => ⟨begun, fun _ ends => by cases ends⟩, fun within => within.1⟩
  | some e => decidable_of_iff (startsAt ≤ moment ∧ moment < e)
      ⟨fun both => ⟨both.1, fun x ends => Option.some.inj ends ▸ both.2⟩, fun within => ⟨within.1, within.2 e rfl⟩⟩

def UsageWindow.Contains (w : UsageWindow) (moment : Int) : Prop :=
  Within w.startsAt w.endsAt moment

instance decidableContains (w : UsageWindow) (moment : Int) : Decidable (w.Contains moment) :=
  decidableWithin w.startsAt w.endsAt moment

def UsageWindow.Before (w w' : UsageWindow) : Prop :=
  ∃ e, w.endsAt = some e ∧ e ≤ w'.startsAt

section Months

variable (moment : Int)

theorem truncMonth_within : truncMonth moment ≤ moment ∧ moment < truncNextMonth moment := by
  obtain ⟨low, high⟩ := monthOf_within (utcDay moment)
  have time := timeWithinDay_bounds moment
  have split := makeDate_utcDay moment
  unfold truncMonth truncNextMonth utcMonth
  unfold makeDate msPerDay at *
  omega

theorem utcMonth_within (month : Int) (start : makeDate (monthStart month) 0 ≤ moment) (later : moment < makeDate (monthStart (month + 1)) 0) :
    utcMonth moment = month := by
  have time := timeWithinDay_bounds moment
  have split := makeDate_utcDay moment
  refine monthOf_unique _ month ?_ ?_
  · unfold makeDate msPerDay at *
    omega
  · unfold makeDate msPerDay at *
    omega

theorem truncNextMonth_le (moment' : Int) (before : utcMonth moment < utcMonth moment') : truncNextMonth moment ≤ truncMonth moment' := by
  have later : monthStart (utcMonth moment + 1) ≤ monthStart (utcMonth moment') := monthStart_le (Int.add_one_le_of_lt before)
  unfold truncNextMonth truncMonth makeDate msPerDay
  omega

variable {moment}

theorem dateUTC_month (dated : Dated moment) (ahead : Int) (near : ahead = 0 ∨ ahead = 1) :
    dateUTC (getUTCFullYear moment) (getUTCMonth moment + ahead) 1 = some (makeDate (monthStart (utcMonth moment + ahead)) 0) := by
  obtain ⟨least, most⟩ := dated
  have first : makeFullYear (getUTCFullYear moment) = getUTCFullYear moment := by
    unfold makeFullYear
    rw [if_neg (by omega)]
  have index : 12 * getUTCFullYear moment + (getUTCMonth moment + ahead) = utcMonth moment + ahead := by
    unfold getUTCFullYear getUTCMonth
    omega
  unfold dateUTC makeDay
  rw [first, index, add_sub_cancel_right, timeClip_some]
  refine ⟨?_, rfl⟩
  have early : monthStart 0 ≤ monthStart (utcMonth moment + ahead) := monthStart_le (by
    unfold getUTCFullYear at least
    omega)
  have late : monthStart (utcMonth moment + ahead) ≤ monthStart 120000 := monthStart_le (by
    unfold getUTCFullYear at most
    omega)
  have from' : monthStart 0 = -719528 := by decide
  have until' : monthStart 120000 = 2932897 := by decide
  unfold Representable makeDate msPerDay maxTime
  omega

end Months

section Windows

variable (resetPeriod : EntitlementResetPeriod) (grantStart : Int) (grantEnd : Option Int)

theorem usageWindow_expected (moment : Int) (dated : Dated moment) :
    entitlementUsageWindow resetPeriod grantStart grantEnd moment = some (expectedWindow resetPeriod grantStart grantEnd moment) := by
  unfold entitlementUsageWindow expectedWindow
  by_cases monthly : resetPeriod = .calendarMonth
  · have start := dateUTC_month dated 0 (.inl rfl)
    have next := dateUTC_month dated 1 (.inr rfl)
    rw [add_zero, add_zero] at start
    rw [if_neg (not_not.mpr monthly), if_pos monthly]
    simp only [Option.bind_eq_bind]
    rw [start, next, Option.bind_some, Option.bind_some]
    have begins : (if makeDate (monthStart (utcMonth moment)) 0 < grantStart then grantStart else makeDate (monthStart (utcMonth moment)) 0) =
        max grantStart (truncMonth moment) := by
      unfold truncMonth
      rcases lt_or_ge (makeDate (monthStart (utcMonth moment)) 0) grantStart with before | after
      · rw [if_pos before, max_eq_left (le_of_lt before)]
      · rw [if_neg (not_lt.mpr after), max_eq_right after]
    rw [begins]
    cases grantEnd with
    | none => rfl
    | some e =>
        show some (UsageWindow.mk _ (some (if decide (e < truncNextMonth moment) = true then e else truncNextMonth moment))) = _
        rcases lt_or_ge e (truncNextMonth moment) with before | after
        · rw [if_pos (decide_eq_true before), Option.elim_some, min_eq_left (le_of_lt before)]
        · rw [if_neg (by simpa using after), Option.elim_some, min_eq_right after]
  · rw [if_pos monthly, if_neg monthly]

variable {resetPeriod grantStart grantEnd}

theorem expected_contains (moment : Int) (granted : Within grantStart grantEnd moment) :
    (expectedWindow resetPeriod grantStart grantEnd moment).Contains moment := by
  obtain ⟨from', until'⟩ := truncMonth_within moment
  unfold expectedWindow
  by_cases monthly : resetPeriod = .calendarMonth
  · rw [if_pos monthly]
    refine ⟨max_le granted.1 from', ?_⟩
    intro e ends
    obtain rfl := Option.some.inj ends
    cases last : grantEnd with
    | none => exact until'
    | some e => exact lt_min (granted.2 e last) until'
  · rw [if_neg monthly]
    exact granted

theorem expected_same (moment moment' : Int)
    (inside : (expectedWindow resetPeriod grantStart grantEnd moment).Contains moment') :
    expectedWindow resetPeriod grantStart grantEnd moment' = expectedWindow resetPeriod grantStart grantEnd moment := by
  unfold expectedWindow at *
  by_cases monthly : resetPeriod = .calendarMonth
  · rw [if_pos monthly] at inside
    obtain ⟨from', until'⟩ := inside
    have starts : truncMonth moment ≤ moment' := le_trans (le_max_right _ _) from'
    have ends : moment' < truncNextMonth moment := by
      refine lt_of_lt_of_le (until' _ rfl) ?_
      cases grantEnd with
      | none => exact le_rfl
      | some e => exact min_le_right _ _
    have month := utcMonth_within moment' (utcMonth moment) starts ends
    rw [if_pos monthly, if_pos monthly, truncMonth, truncNextMonth, month]
    rfl
  · rw [if_neg monthly, if_neg monthly]

theorem expected_apart (moment moment' : Int) (earlier : moment ≤ moment')
    (other : expectedWindow resetPeriod grantStart grantEnd moment ≠ expectedWindow resetPeriod grantStart grantEnd moment') :
    (expectedWindow resetPeriod grantStart grantEnd moment).Before (expectedWindow resetPeriod grantStart grantEnd moment') := by
  unfold expectedWindow at *
  by_cases monthly : resetPeriod = .calendarMonth
  · rw [if_pos monthly, if_pos monthly] at *
    have later : utcMonth moment < utcMonth moment' := by
      by_contra notLater
      refine other ?_
      rcases Int.lt_or_eq_of_le (not_lt.mp notLater) with before | same
      · have back := truncNextMonth_le moment' moment before
        obtain ⟨_, until'⟩ := truncMonth_within moment'
        obtain ⟨from', _⟩ := truncMonth_within moment
        exact absurd (lt_of_lt_of_le until' (le_trans back from')) (not_lt.mpr earlier)
      · unfold truncMonth truncNextMonth
        rw [same]
    have next := truncNextMonth_le moment moment' later
    refine ⟨_, rfl, ?_⟩
    refine le_trans ?_ (le_max_right _ _)
    cases grantEnd with
    | none => exact next
    | some e => exact le_trans (min_le_right _ _) next
  · rw [if_neg monthly, if_neg monthly] at other
    exact absurd rfl other

/-- The windows of a grant are those of the trigger, hold the moments they are worked out for, and are equal or follow each other. -/
theorem usage_windows_partition (moment moment' : Int) (dated : Dated moment) (dated' : Dated moment')
    (granted : Within grantStart grantEnd moment) (granted' : Within grantStart grantEnd moment') :
    ∃ w w', entitlementUsageWindow resetPeriod grantStart grantEnd moment = some w ∧
      entitlementUsageWindow resetPeriod grantStart grantEnd moment' = some w' ∧
      w = expectedWindow resetPeriod grantStart grantEnd moment ∧ w.Contains moment ∧ (w.Contains moment' ↔ w = w') ∧
      (w = w' ∨ w.Before w' ∨ w'.Before w) := by
  refine ⟨_, _, usageWindow_expected resetPeriod grantStart grantEnd moment dated,
    usageWindow_expected resetPeriod grantStart grantEnd moment' dated', rfl, expected_contains moment granted, ?_, ?_⟩
  · constructor
    · intro inside
      exact (expected_same moment moment' inside).symm
    · intro same
      rw [same]
      exact expected_contains moment' granted'
  · by_cases same : expectedWindow resetPeriod grantStart grantEnd moment = expectedWindow resetPeriod grantStart grantEnd moment'
    · exact .inl same
    · right
      rcases le_total moment moment' with earlier | later
      · exact .inl (expected_apart moment moment' earlier same)
      · exact .inr (expected_apart moment' moment later (Ne.symm same))

-- The last moment of February 2024 and the first of March, in a grant that starts within February.
theorem leap_february_windows :
    ∃ w w', entitlementUsageWindow .calendarMonth 1707000000000 none 1709251199999 = some w ∧
      entitlementUsageWindow .calendarMonth 1707000000000 none 1709251200000 = some w' ∧ (w = w' ∨ w.Before w' ∨ w'.Before w) := by
  obtain ⟨w, w', found, found', _, _, _, apart⟩ :=
    @usage_windows_partition .calendarMonth 1707000000000 none 1709251199999 1709251200000 (by unfold Dated; decide)
      (by unfold Dated; decide) ⟨by decide, fun _ ends => by cases ends⟩ ⟨by decide, fun _ ends => by cases ends⟩
  exact ⟨w, w', found, found', apart⟩

end Windows

end EduAi.Memberships.Entitlements
