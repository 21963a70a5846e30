import EduAi.Revenue.Allocation
import Mathlib.Data.Rat.Floor
import Mathlib.Tactic.FieldSimp

set_option autoImplicit false

namespace EduAi.Revenue

open EduAi.Store

section Ranking

theorem ranked_total (a b : Part) : ranked a b ∨ ranked b a := by
  unfold ranked
  by_cases tie : a.remainder = b.remainder
  · rw [if_pos tie, if_pos tie.symm]
    exact textLe_total a.id b.id
  · rw [if_neg tie, if_neg (fun same => tie same.symm)]
    omega

theorem ranked_trans (a b c : Part) (first : ranked a b) (second : ranked b c) : ranked a c := by
  unfold ranked at first second ⊢
  by_cases tie : a.remainder = b.remainder
  · rw [if_pos tie] at first
    rw [tie]
    by_cases tie' : b.remainder = c.remainder
    · rw [if_pos tie'] at second ⊢
      exact textLe_trans a.id b.id c.id first second
    · rw [if_neg tie'] at second ⊢
      exact second
  · rw [if_neg tie] at first
    by_cases tie' : b.remainder = c.remainder
    · rw [← tie', if_neg tie]
      exact first
    · rw [if_neg tie'] at second
      rw [if_neg (by omega)]
      omega

instance : Std.Total ranked :=
  ⟨ranked_total⟩

instance : IsTrans Part ranked :=
  ⟨ranked_trans⟩

theorem ranked_both (a b : Part) (first : ranked a b) (second : ranked b a) : a.id = b.id := by
  unfold ranked at first second
  by_cases tie : a.remainder = b.remainder
  · rw [if_pos tie] at first
    rw [if_pos tie.symm] at second
    exact textLe_antisymm a.id b.id first second
  · rw [if_neg tie] at first
    rw [if_neg (fun same => tie same.symm)] at second
    omega

theorem ranked_remainder (a b : Part) (order : ranked a b) : b.remainder ≤ a.remainder := by
  unfold ranked at order
  by_cases tie : a.remainder = b.remainder
  · exact Int.le_of_eq tie.symm
  · rw [if_neg tie] at order
    exact Int.le_of_lt order

theorem take_ranked (sorted : List Part) (order : sorted.Pairwise ranked) (n : Nat) (a b : Part) (taken : b ∈ sorted.take n)
    (listed : a ∈ sorted) (left : a ∉ sorted.take n) : ranked b a := by
  rw [← List.take_append_drop n sorted] at order listed
  have dropped := (List.mem_append.mp listed).resolve_left left
  exact (List.pairwise_append.mp order).2.2 b taken a dropped

end Ranking

section Parts

variable (amount : Int) (weights : List WeightedAmount)

def remainderOf (x : WeightedAmount) : Int :=
  amount * x.weight % total (·.weight) weights

def partOf (x : WeightedAmount) : Part where
  id := x.id
  amountMinor := quota amount weights x
  remainder := remainderOf amount weights x

def sortedParts : List Part :=
  (floors amount weights).insertionSort ranked

theorem floors_map : floors amount weights = weights.map (partOf amount weights) := rfl

theorem sortedParts_ranked : (sortedParts amount weights).Pairwise ranked :=
  List.pairwise_insertionSort ranked _

theorem mem_sortedParts (part : Part) : part ∈ sortedParts amount weights ↔ ∃ x ∈ weights, partOf amount weights x = part := by
  rw [sortedParts, List.mem_insertionSort, floors_map, List.mem_map]

theorem chosenIds_take (whole : 0 < total (·.weight) weights) :
    chosenIds amount weights = ((sortedParts amount weights).take (shortfall amount weights).toNat).map (·.id) := by
  obtain ⟨low, _⟩ := shortfall_bounds amount weights whole
  rw [← toppedUp_take, Int.toNat_of_nonneg low]
  rfl

variable (distinct : distinctIds weights) (whole : 0 < total (·.weight) weights)

include distinct in
theorem partOf_unique (x y : WeightedAmount) (hx : x ∈ weights) (hy : y ∈ weights) (same : x.id = y.id) : x = y :=
  List.inj_on_of_nodup_map distinct hx hy same

include distinct whole in
theorem chosen_iff (x : WeightedAmount) (member : x ∈ weights) :
    x.id ∈ chosenIds amount weights ↔ partOf amount weights x ∈ (sortedParts amount weights).take (shortfall amount weights).toNat := by
  rw [chosenIds_take amount weights whole, List.mem_map]
  constructor
  · intro chosen
    obtain ⟨part, taken, same⟩ := chosen
    obtain ⟨y, hy, named⟩ := (mem_sortedParts amount weights part).mp (List.mem_of_mem_take taken)
    subst named
    rw [← partOf_unique weights distinct y x hy member same]
    exact taken
  · exact fun taken => ⟨_, taken, rfl⟩

theorem remainders_total : total (remainderOf amount weights) weights = total (·.weight) weights * shortfall amount weights := by
  have split := quotas_split amount (fun x : WeightedAmount => x.weight) weights (total (·.weight) weights)
  rw [shortfall, Int.mul_sub]
  have sums : total (fun x : WeightedAmount => amount * x.weight / total (·.weight) weights) weights =
      total (quota amount weights) weights := rfl
  have rest : total (fun x : WeightedAmount => amount * x.weight % total (·.weight) weights) weights =
      total (remainderOf amount weights) weights := rfl
  rw [sums, rest] at split
  linarith [Int.mul_comm amount (total (fun x : WeightedAmount => x.weight) weights)]

theorem sorted_total : total (·.remainder) (sortedParts amount weights) = total (·.weight) weights * shortfall amount weights := by
  rw [← remainders_total, sortedParts, total_perm _ _ _ (List.perm_insertionSort ranked _), floors_map, total_map]
  rfl

include distinct whole in
theorem chosen_remainder (x : WeightedAmount) (member : x ∈ weights) (chosen : x.id ∈ chosenIds amount weights) :
    0 < remainderOf amount weights x := by
  by_contra flat
  obtain ⟨low, _⟩ := shortfall_bounds amount weights whole
  have taken := (chosen_iff amount weights distinct whole x member).mp chosen
  have order := sortedParts_ranked amount weights
  have sum := sorted_total amount weights
  rw [← List.take_append_drop (shortfall amount weights).toNat (sortedParts amount weights)] at order sum
  rw [total_append] at sum
  have dropped : total (·.remainder) ((sortedParts amount weights).drop (shortfall amount weights).toNat) ≤ 0 := by
    refine le_trans (total_mono _ (fun _ => 0) _ (fun part inside => ?_)) (Int.le_of_eq (total_zero _ _ (fun _ _ => rfl)))
    have behind := ranked_remainder _ _ ((List.pairwise_append.mp order).2.2 _ taken part inside)
    exact le_trans behind (not_lt.mp flat)
  have ahead : total (·.remainder) ((sortedParts amount weights).take (shortfall amount weights).toNat) <
      total (fun _ => total (·.weight) weights) ((sortedParts amount weights).take (shortfall amount weights).toNat) := by
    refine total_lt _ _ _ (List.ne_nil_of_mem taken) (fun part inside => ?_)
    obtain ⟨y, _, named⟩ := (mem_sortedParts amount weights part).mp (List.mem_of_mem_take inside)
    subst named
    exact Int.emod_lt_of_pos _ whole
  have short : (((sortedParts amount weights).take (shortfall amount weights).toNat).length : Int) ≤ shortfall amount weights := by
    have bound := List.length_take_le (shortfall amount weights).toNat (sortedParts amount weights)
    omega
  rw [total_const] at ahead
  nlinarith [ahead, sum, dropped, short, whole]

def Precedes (x y : WeightedAmount) : Prop :=
  remainderOf amount weights y < remainderOf amount weights x ∨
    (remainderOf amount weights y = remainderOf amount weights x ∧ ¬ textLe y.id x.id)

include distinct whole in
theorem chosen_precedes (x y : WeightedAmount) (hx : x ∈ weights) (hy : y ∈ weights) (first : Precedes amount weights x y)
    (chosen : y.id ∈ chosenIds amount weights) : x.id ∈ chosenIds amount weights := by
  have taken := (chosen_iff amount weights distinct whole y hy).mp chosen
  rw [chosen_iff amount weights distinct whole x hx]
  by_contra left
  have listed := (mem_sortedParts amount weights _).mpr ⟨x, hx, rfl⟩
  have behind := take_ranked _ (sortedParts_ranked amount weights) _ (partOf amount weights x) (partOf amount weights y) taken listed left
  have remainders : remainderOf amount weights x ≤ remainderOf amount weights y := ranked_remainder _ _ behind
  cases first with
  | inl larger => omega
  | inr tied =>
      unfold ranked at behind
      rw [if_pos (show (partOf amount weights y).remainder = (partOf amount weights x).remainder from tied.1)] at behind
      exact tied.2 behind

end Parts

section Permutations

variable (amount : Int) (weights permuted : List WeightedAmount) (same : weights.Perm permuted)

include same

theorem partOf_perm : partOf amount permuted = partOf amount weights := by
  funext x
  have whole := total_perm weights (fun x : WeightedAmount => x.weight) permuted same
  simp only [partOf, quota, remainderOf, whole]

theorem quota_perm : quota amount permuted = quota amount weights := by
  funext x
  exact congrArg Part.amountMinor (congrFun (partOf_perm amount weights permuted same) x)

theorem shortfall_perm : shortfall amount permuted = shortfall amount weights := by
  rw [shortfall, shortfall, quota_perm amount weights permuted same, total_perm weights _ permuted same]

theorem sortedParts_perm (distinct : distinctIds weights) : sortedParts amount permuted = sortedParts amount weights := by
  have shuffled : (sortedParts amount permuted).Perm (sortedParts amount weights) := by
    refine (List.perm_insertionSort ranked _).trans (List.Perm.trans ?_ (List.perm_insertionSort ranked _).symm)
    rw [floors_map, floors_map, partOf_perm amount weights permuted same]
    exact same.symm.map _
  refine List.Perm.eq_of_pairwise ?_ (sortedParts_ranked amount permuted) (sortedParts_ranked amount weights) shuffled
  intro a b ha hb first second
  obtain ⟨x, hx, atX⟩ := (mem_sortedParts amount weights a).mp (shuffled.mem_iff.mp ha)
  obtain ⟨y, hy, atY⟩ := (mem_sortedParts amount weights b).mp hb
  subst atX atY
  rw [partOf_unique weights distinct x y hx hy (ranked_both _ _ first second)]

theorem granted_perm (distinct : distinctIds weights) (x : WeightedAmount) :
    granted amount permuted x = granted amount weights x := by
  have chosen : chosenIds amount permuted = chosenIds amount weights := by
    rw [chosenIds, chosenIds, shortfall_perm amount weights permuted same]
    congr 1
    exact sortedParts_perm amount weights permuted same distinct
  rw [granted, granted, chosen, quota_perm amount weights permuted same]

end Permutations

def exactQuota (amount : Int) (weights : List WeightedAmount) (x : WeightedAmount) : ℚ :=
  ((amount * x.weight : Int) : ℚ) / ((total (·.weight) weights : Int) : ℚ)

section Quotients

variable (amount : Int) (weights : List WeightedAmount) (x : WeightedAmount) (whole : 0 < total (·.weight) weights)

include whole

theorem exactQuota_split : exactQuota amount weights x =
    quota amount weights x + (remainderOf amount weights x : ℚ) / ((total (·.weight) weights : Int) : ℚ) := by
  have positive : ((total (·.weight) weights : Int) : ℚ) ≠ 0 := by
    exact_mod_cast (Int.ne_of_gt whole)
  have split : total (·.weight) weights * quota amount weights x + remainderOf amount weights x = amount * x.weight :=
    Int.mul_ediv_add_emod (amount * x.weight) (total (·.weight) weights)
  rw [exactQuota, ← split]
  push_cast
  field_simp

theorem remainder_fraction : 0 ≤ (remainderOf amount weights x : ℚ) / ((total (·.weight) weights : Int) : ℚ) ∧
    (remainderOf amount weights x : ℚ) / ((total (·.weight) weights : Int) : ℚ) < 1 := by
  have positive : (0 : ℚ) < ((total (·.weight) weights : Int) : ℚ) := by
    exact_mod_cast whole
  have low : (0 : ℚ) ≤ (remainderOf amount weights x : ℚ) := by
    exact_mod_cast Int.emod_nonneg (amount * x.weight) (Int.ne_of_gt whole)
  have high : (remainderOf amount weights x : ℚ) < ((total (·.weight) weights : Int) : ℚ) := by
    exact_mod_cast Int.emod_lt_of_pos (amount * x.weight) whole
  exact ⟨div_nonneg low positive.le, (div_lt_one positive).mpr high⟩

theorem exactQuota_floor : ⌊exactQuota amount weights x⌋ = quota amount weights x := by
  obtain ⟨low, high⟩ := remainder_fraction amount weights x whole
  rw [Int.floor_eq_iff, exactQuota_split amount weights x whole]
  constructor
  · linarith
  · linarith

theorem exactQuota_fract : Int.fract (exactQuota amount weights x) =
    (remainderOf amount weights x : ℚ) / ((total (·.weight) weights : Int) : ℚ) := by
  rw [Int.fract, exactQuota_floor amount weights x whole, exactQuota_split amount weights x whole]
  ring

theorem exactQuota_ceil (some : 0 < remainderOf amount weights x) : ⌈exactQuota amount weights x⌉ = quota amount weights x + 1 := by
  obtain ⟨_, high⟩ := remainder_fraction amount weights x whole
  have positive : (0 : ℚ) < ((total (·.weight) weights : Int) : ℚ) := by
    exact_mod_cast whole
  have above : (0 : ℚ) < (remainderOf amount weights x : ℚ) / ((total (·.weight) weights : Int) : ℚ) :=
    div_pos (by exact_mod_cast some) positive
  rw [Int.ceil_eq_iff, exactQuota_split amount weights x whole]
  push_cast
  constructor
  · linarith
  · linarith

end Quotients

structure ExactAllocation (amount : Int) (weights : List WeightedAmount) (shares : List AllocatedAmount) : Prop where
  listed : shares.map (·.id) = weights.map (·.id)
  sum : total (·.amountMinor) shares = amount
  rounded : ∀ x ∈ weights, shareOf shares x.id = ⌊exactQuota amount weights x⌋ ∨ shareOf shares x.id = ⌈exactQuota amount weights x⌉
  within : amount ≤ total (·.weight) weights → ∀ x ∈ weights, shareOf shares x.id ≤ x.weight
  extra : ∀ x ∈ weights, ∀ y ∈ weights,
    Int.fract (exactQuota amount weights y) < Int.fract (exactQuota amount weights x) ∨
      (Int.fract (exactQuota amount weights y) = Int.fract (exactQuota amount weights x) ∧ ¬ textLe y.id x.id) →
    shareOf shares y.id - ⌊exactQuota amount weights y⌋ ≤ shareOf shares x.id - ⌊exactQuota amount weights x⌋

theorem granted_exact (amount : Int) (weights : List WeightedAmount) (nonneg : 0 ≤ amount) (positive : ∀ x ∈ weights, 0 < x.weight)
    (distinct : distinctIds weights) (whole : 0 < total (·.weight) weights) :
    ExactAllocation amount weights (weights.map (fun x => { id := x.id, amountMinor := granted amount weights x })) := by
  have own := shareOf_map weights distinct (granted amount weights)
  refine ⟨by simp [Function.comp_def], ?_, ?_, ?_, ?_⟩
  · rw [total_map]
    exact granted_total amount weights distinct whole
  · intro x member
    rw [own x member, exactQuota_floor amount weights x whole]
    by_cases chosen : x.id ∈ chosenIds amount weights
    · right
      rw [exactQuota_ceil amount weights x whole (chosen_remainder amount weights distinct whole x member chosen), granted, if_pos chosen]
    · left
      rw [granted, if_neg chosen]
  · intro fits x member
    rw [own x member]
    exact granted_within amount weights nonneg fits x (positive x member) whole
  · intro x hx y hy before
    have denominator : (0 : ℚ) < ((total (·.weight) weights : Int) : ℚ) := by
      exact_mod_cast whole
    have precedes : Precedes amount weights x y := by
      rw [exactQuota_fract amount weights x whole, exactQuota_fract amount weights y whole] at before
      cases before with
      | inl larger => exact .inl (by exact_mod_cast (div_lt_div_iff_of_pos_right denominator).mp larger)
      | inr tied => exact .inr ⟨by exact_mod_cast (div_left_inj' denominator.ne').mp tied.1, tied.2⟩
    rw [own x hx, own y hy, exactQuota_floor amount weights x whole, exactQuota_floor amount weights y whole, granted, granted]
    by_cases chosen : y.id ∈ chosenIds amount weights
    · rw [if_pos chosen, if_pos (chosen_precedes amount weights distinct whole x y hx hy precedes chosen)]
      omega
    · rw [if_neg chosen]
      split <;> omega

/-- Largest remainders split an amount exactly, and the order of the weights does not matter. -/
theorem allocation_exact (amount : Int) (weights : List WeightedAmount) (nonneg : 0 ≤ amount) (some : weights ≠ [])
    (positive : ∀ x ∈ weights, 0 < x.weight) (distinct : distinctIds weights) :
    ∃ shares, allocateMinor amount weights = .ok shares ∧ ExactAllocation amount weights shares ∧
      ∀ permuted, weights.Perm permuted → ∃ shares', allocateMinor amount permuted = .ok shares' ∧ shares.Perm shares' ∧
        ∀ id, shareOf shares' id = shareOf shares id := by
  have whole : 0 < total (·.weight) weights := by
    have above := total_lt weights (fun _ => 0) (·.weight) some positive
    rwa [total_const, Int.mul_zero] at above
  refine ⟨_, allocateMinor_shares amount weights nonneg positive distinct some, granted_exact amount weights nonneg positive distinct whole, ?_⟩
  intro permuted same
  have distinct' : distinctIds permuted := (same.map _).nodup_iff.mp distinct
  have shares := allocateMinor_shares amount permuted nonneg (fun x member => positive x (same.mem_iff.mpr member)) distinct'
    (fun none => some ((none ▸ same).eq_nil))
  have granted' : granted amount permuted = granted amount weights :=
    funext (granted_perm amount weights permuted same distinct)
  rw [granted'] at shares
  refine ⟨_, shares, same.map _, ?_⟩
  intro id
  by_cases listed : id ∈ weights.map (·.id)
  · obtain ⟨x, member, named⟩ := List.mem_map.mp listed
    subst named
    rw [shareOf_map weights distinct _ x member, shareOf_map permuted distinct' _ x (same.mem_iff.mp member)]
  · have missing : id ∉ permuted.map (·.id) := fun inside => listed ((same.map _).mem_iff.mpr inside)
    rw [shareOf_missing _ id (by simpa [Function.comp_def] using missing), shareOf_missing _ id (by simpa [Function.comp_def] using listed)]

theorem allocation_exact_sample :
    ∃ shares, allocateMinor 5 [⟨"b", 1⟩, ⟨"a", 1⟩] = .ok shares ∧ ExactAllocation 5 [⟨"b", 1⟩, ⟨"a", 1⟩] shares := by
  obtain ⟨shares, given, exact_, _⟩ := allocation_exact 5 [⟨"b", 1⟩, ⟨"a", 1⟩] (by decide) (by decide) (by decide) (by decide)
  exact ⟨shares, given, exact_⟩

end EduAi.Revenue
