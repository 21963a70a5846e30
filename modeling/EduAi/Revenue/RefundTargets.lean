import EduAi.Revenue.Finance
import EduAi.Revenue.LargestRemainder

set_option autoImplicit false

namespace EduAi.Revenue

open EduAi.Store

theorem allocateMinor_accepts (amount : Int) (weights : List WeightedAmount) (shares : List AllocatedAmount)
    (accepted : allocateMinor amount weights = .ok shares) :
    0 ≤ amount ∧ (∀ x ∈ weights, 0 < x.weight) ∧ distinctIds weights := by
  by_cases refused : amount < 0 ∨ weights.any (fun x => x.weight ≤ 0) ∨ ¬ distinctIds weights
  · rw [allocateMinor, if_pos refused] at accepted
    cases accepted
  · obtain ⟨low, rest⟩ := not_or.mp refused
    obtain ⟨none, distinct⟩ := not_or.mp rest
    refine ⟨not_lt.mp low, ?_, not_not.mp distinct⟩
    intro x member
    by_contra flat
    exact none (List.any_eq_true.mpr ⟨x, member, by simpa using flat⟩)

theorem allocateMinor_share (amount : Int) (weights : List WeightedAmount) (shares : List AllocatedAmount)
    (accepted : allocateMinor amount weights = .ok shares) (x : WeightedAmount) (member : x ∈ weights) :
    shareOf shares x.id = granted amount weights x := by
  obtain ⟨low, positive, distinct⟩ := allocateMinor_accepts amount weights shares accepted
  have given := allocateMinor_shares amount weights low positive distinct (List.ne_nil_of_mem member)
  rw [given] at accepted
  obtain rfl := Except.ok.inj accepted
  exact shareOf_map weights distinct _ x member

theorem allocateMinor_outside (amount : Int) (weights : List WeightedAmount) (shares : List AllocatedAmount)
    (accepted : allocateMinor amount weights = .ok shares) (id : String) (missing : id ∉ weights.map (·.id)) :
    shareOf shares id = 0 := by
  obtain ⟨low, positive, distinct⟩ := allocateMinor_accepts amount weights shares accepted
  by_cases none : weights = []
  · subst none
    by_cases nothing : amount = 0
    · subst nothing
      obtain rfl := Except.ok.inj accepted
      rfl
    · rw [allocateMinor, if_neg (by simp [distinctIds]; omega), if_pos rfl, if_neg nothing] at accepted
      cases accepted
  · rw [allocateMinor_shares amount weights low positive distinct none] at accepted
    obtain rfl := Except.ok.inj accepted
    exact shareOf_missing _ id (by simpa [Function.comp_def] using missing)

theorem refundTargets_accepts (refunded basis : Int) (originals : List WeightedAmount) (targets : List AllocatedAmount)
    (accepted : refundTargets refunded basis originals = .ok targets) :
    refunded ≤ basis ∧ total (·.weight) originals = basis ∧ allocateMinor refunded (paying originals) = .ok targets := by
  by_cases refused : basis < 0 ∨ refunded < 0 ∨ basis < refunded ∨ total (·.weight) originals ≠ basis
  · rw [refundTargets, if_pos refused] at accepted
    cases accepted
  · rw [refundTargets, if_neg refused] at accepted
    simp only [not_or, not_lt, not_not] at refused
    exact ⟨refused.2.2.1, refused.2.2.2, accepted⟩

section Growth

variable (amount later : Int) (weights : List WeightedAmount) (x : WeightedAmount)

theorem granted_rounded : quota amount weights x ≤ granted amount weights x ∧
    granted amount weights x ≤ quota amount weights x + 1 := by
  unfold granted
  split <;> omega

theorem quota_mono (grows : amount ≤ later) (positive : 0 < x.weight) (whole : 0 < total (·.weight) weights) :
    quota amount weights x ≤ quota later weights x :=
  Int.ediv_le_ediv whole (Int.mul_le_mul_of_nonneg_right grows (Int.le_of_lt positive))

theorem granted_unrounded (whole : 0 < total (·.weight) weights)
    (below : (granted amount weights x : ℚ) ≤ exactQuota amount weights x) : granted amount weights x = quota amount weights x := by
  have floor : granted amount weights x ≤ ⌊exactQuota amount weights x⌋ := Int.le_floor.mpr below
  rw [exactQuota_floor amount weights x whole] at floor
  exact Int.le_antisymm floor (granted_rounded amount weights x).1

theorem quota_unit (grown : exactQuota amount weights x + 1 ≤ exactQuota later weights x) (whole : 0 < total (·.weight) weights) :
    quota amount weights x + 1 ≤ quota later weights x := by
  rw [← exactQuota_floor amount weights x whole, ← exactQuota_floor later weights x whole, Int.le_floor]
  push_cast
  exact le_trans (by linarith [Int.floor_le (exactQuota amount weights x)]) grown

end Growth

/-- A later, larger refund takes back at most the unit that rounding gave a participant, and none that its quota covers. -/
theorem refund_targets_monotone (first second basis : Int) (originals : List WeightedAmount) (before after : List AllocatedAmount)
    (grows : first ≤ second) (earlier : refundTargets first basis originals = .ok before)
    (later : refundTargets second basis originals = .ok after) :
    (∀ id, shareOf before id - 1 ≤ shareOf after id) ∧
    (∀ x ∈ paying originals, (shareOf before x.id : ℚ) ≤ exactQuota first (paying originals) x ∨
        exactQuota first (paying originals) x + 1 ≤ exactQuota second (paying originals) x →
      shareOf before x.id ≤ shareOf after x.id) ∧
    (second = basis → (∀ x ∈ originals, 0 ≤ x.weight) → ∀ id, shareOf before id ≤ shareOf after id) := by
  obtain ⟨fits, _, early⟩ := refundTargets_accepts first basis originals before earlier
  obtain ⟨_, sum, late⟩ := refundTargets_accepts second basis originals after later
  obtain ⟨low, positive, distinct⟩ := allocateMinor_accepts first _ before early
  have whole : ∀ x ∈ paying originals, 0 < total (·.weight) (paying originals) := by
    intro x member
    have above := total_lt (paying originals) (fun _ => 0) (·.weight) (List.ne_nil_of_mem member) positive
    rwa [total_const, Int.mul_zero] at above
  have ids : ∀ id, (∃ x ∈ paying originals, x.id = id) ∨ (shareOf before id = 0 ∧ shareOf after id = 0) := by
    intro id
    by_cases listed : id ∈ (paying originals).map (·.id)
    · exact .inl (List.mem_map.mp listed)
    · exact .inr ⟨allocateMinor_outside first _ before early id listed, allocateMinor_outside second _ after late id listed⟩
  refine ⟨?_, ?_, ?_⟩
  · intro id
    cases ids id with
    | inl inside =>
        obtain ⟨x, member, named⟩ := inside
        subst named
        rw [allocateMinor_share first _ before early x member, allocateMinor_share second _ after late x member]
        have high := (granted_rounded first (paying originals) x).2
        have floor := (granted_rounded second (paying originals) x).1
        have quotas := quota_mono first second (paying originals) x grows (positive x member) (whole x member)
        omega
    | inr outside =>
        rw [outside.1, outside.2]
        decide
  · intro x member covered
    rw [allocateMinor_share first _ before early x member] at covered ⊢
    rw [allocateMinor_share second _ after late x member]
    have floor := (granted_rounded second (paying originals) x).1
    cases covered with
    | inl below =>
        have same := granted_unrounded first (paying originals) x (whole x member) below
        have quotas := quota_mono first second (paying originals) x grows (positive x member) (whole x member)
        omega
    | inr grown =>
        have high := (granted_rounded first (paying originals) x).2
        have quotas := quota_unit first second (paying originals) x grown (whole x member)
        omega
  · intro full nonneg id
    cases ids id with
    | inl inside =>
        obtain ⟨x, member, named⟩ := inside
        subst named
        have all : second = total (·.weight) (paying originals) := by
          rw [paying_total originals nonneg, sum, full]
        rw [allocateMinor_share first _ before early x member, allocateMinor_share second _ after late x member]
        have within := granted_within first (paying originals) low (by omega) x (positive x member) (whole x member)
        have exact_ : quota second (paying originals) x = x.weight := by
          rw [quota, all]
          exact Int.mul_ediv_cancel_left x.weight (Int.ne_of_gt (whole x member))
        have floor := (granted_rounded second (paying originals) x).1
        omega
    | inr outside =>
        rw [outside.1, outside.2]

def sampleEarnings : List WeightedAmount :=
  [⟨"a", 6⟩, ⟨"b", 6⟩, ⟨"c", 2⟩]

theorem refund_targets_monotone_sample :
    ∃ before after, refundTargets 10 14 sampleEarnings = .ok before ∧ refundTargets 11 14 sampleEarnings = .ok after ∧
      ∀ id, shareOf before id - 1 ≤ shareOf after id := by
  have monotone := refund_targets_monotone 10 11 14 sampleEarnings [⟨"a", 4⟩, ⟨"b", 4⟩, ⟨"c", 2⟩] [⟨"a", 5⟩, ⟨"b", 5⟩, ⟨"c", 1⟩]
    (by decide) (by decide +kernel) (by decide +kernel)
  exact ⟨_, _, by decide +kernel, by decide +kernel, monotone.1⟩

-- One more unit refunded, and a participant's target falls from 2 to 1.
theorem refund_target_lowered :
    ∃ before after, refundTargets 10 14 sampleEarnings = .ok before ∧ refundTargets 11 14 sampleEarnings = .ok after ∧
      shareOf after "c" < shareOf before "c" :=
  ⟨[⟨"a", 4⟩, ⟨"b", 4⟩, ⟨"c", 2⟩], [⟨"a", 5⟩, ⟨"b", 5⟩, ⟨"c", 1⟩], by decide +kernel, by decide +kernel, by decide +kernel⟩

end EduAi.Revenue
