import EduAi.Store.KeyOrder
import EduAi.Store.Quotas

set_option autoImplicit false

namespace EduAi.Revenue

open EduAi.Store

structure WeightedAmount where
  id : String
  weight : Int
deriving DecidableEq, Repr

structure AllocatedAmount where
  id : String
  amountMinor : Int
deriving DecidableEq, Repr

structure Part where
  id : String
  amountMinor : Int
  remainder : Int
deriving DecidableEq, Repr

def ranked (a b : Part) : Prop :=
  if a.remainder = b.remainder then textLe a.id b.id else b.remainder < a.remainder

instance : DecidableRel ranked := fun a b => by
  unfold ranked
  infer_instance

def floors (amount : Int) (weights : List WeightedAmount) : List Part :=
  let whole := total (·.weight) weights
  weights.map (fun x => { id := x.id, amountMinor := amount * x.weight / whole, remainder := amount * x.weight % whole })

def toppedUp : Int → List Part → List String
  | _, [] => []
  | remaining, part :: rest => if remaining = 0 then [] else part.id :: toppedUp (remaining - 1) rest

def distinctIds (weights : List WeightedAmount) : Prop :=
  (weights.map (·.id)).Nodup

instance (weights : List WeightedAmount) : Decidable (distinctIds weights) := by
  unfold distinctIds
  infer_instance

def allocateMinor (amount : Int) (weights : List WeightedAmount) : Except String (List AllocatedAmount) :=
  if amount < 0 ∨ weights.any (fun x => x.weight ≤ 0) ∨ ¬ distinctIds weights then
    .error "Invalid allocation."
  else if weights = [] then
    if amount = 0 then .ok [] else .error "Allocation recipients are required."
  else
    let parts := floors amount weights
    let remaining := amount - total (·.amountMinor) parts
    let topped := toppedUp remaining (parts.insertionSort ranked)
    .ok (parts.map (fun part =>
      { id := part.id, amountMinor := if part.id ∈ topped then part.amountMinor + 1 else part.amountMinor }))

-- The surrogates of 😀 come before Ａ, although its code point comes after.
example : allocateMinor 1 [⟨"Ａ", 1⟩, ⟨"😀", 1⟩] = .ok [⟨"Ａ", 0⟩, ⟨"😀", 1⟩] := by decide +kernel

def shareOf (shares : List AllocatedAmount) (id : String) : Int :=
  ((shares.find? (fun x => x.id = id)).map (·.amountMinor)).getD 0

theorem shareOf_map (weights : List WeightedAmount) (distinct : distinctIds weights) (amountOf : WeightedAmount → Int)
    (x : WeightedAmount) (member : x ∈ weights) :
    shareOf (weights.map (fun y => { id := y.id, amountMinor := amountOf y })) x.id = amountOf x := by
  unfold shareOf
  have found : weights.find? (fun y => y.id = x.id) = some x := by
    refine find_unique (fun y => some y.id) _ weights ?_ x x.id member (by simp) rfl (fun y _ same => by simpa using same)
    simpa [UniqueKey, distinctIds, List.filterMap_eq_map'] using distinct
  rw [List.find?_map, Function.comp_def, found]
  rfl

theorem shareOf_missing (shares : List AllocatedAmount) (id : String) (missing : id ∉ shares.map (·.id)) :
    shareOf shares id = 0 := by
  have unfound : shares.find? (fun x => x.id = id) = none := by
    refine List.find?_eq_none.mpr (fun x member same => missing ?_)
    exact List.mem_map.mpr ⟨x, member, by simpa using same⟩
  rw [shareOf, unfound]
  rfl

theorem shareOf_nonneg (shares : List AllocatedAmount) (nonneg : ∀ x ∈ shares, 0 ≤ x.amountMinor) (id : String) :
    0 ≤ shareOf shares id := by
  unfold shareOf
  cases found : shares.find? (fun x => x.id = id) with
  | none => exact Int.le_refl 0
  | some x => exact nonneg x (find_some _ shares x found).1

theorem toppedUp_take (parts : List Part) (remaining : Nat) : toppedUp remaining parts = (parts.take remaining).map (·.id) := by
  induction parts generalizing remaining with
  | nil => simp [toppedUp]
  | cons part rest ih =>
      cases remaining with
      | zero => simp [toppedUp]
      | succ n =>
          have open_ : ((n + 1 : Nat) : Int) ≠ 0 := by omega
          have less : ((n + 1 : Nat) : Int) - 1 = n := by omega
          rw [toppedUp, if_neg open_, less, ih n]
          rfl

section Parts

variable (amount : Int) (weights : List WeightedAmount)

def quota (x : WeightedAmount) : Int :=
  amount * x.weight / total (·.weight) weights

def shortfall : Int :=
  amount - total (quota amount weights) weights

def chosenIds : List String :=
  toppedUp (shortfall amount weights) ((floors amount weights).insertionSort ranked)

def granted (x : WeightedAmount) : Int :=
  if x.id ∈ chosenIds amount weights then quota amount weights x + 1 else quota amount weights x

theorem floors_total : total (·.amountMinor) (floors amount weights) = total (quota amount weights) weights := by
  rw [floors, total_map]
  rfl

theorem floors_ids : (floors amount weights).map (·.id) = weights.map (·.id) := by
  simp [floors, Function.comp_def]

theorem allocateMinor_shares (nonneg : 0 ≤ amount) (positive : ∀ x ∈ weights, 0 < x.weight) (distinct : distinctIds weights)
    (some : weights ≠ []) :
    allocateMinor amount weights = .ok (weights.map (fun x => { id := x.id, amountMinor := granted amount weights x })) := by
  have accepted : ¬ (amount < 0 ∨ weights.any (fun x => x.weight ≤ 0) ∨ ¬ distinctIds weights) := by
    rintro (negative | flat | repeated)
    · omega
    · obtain ⟨x, member, low⟩ := List.any_eq_true.mp flat
      have := positive x member
      simp only [decide_eq_true_eq] at low
      omega
    · exact repeated distinct
  rw [allocateMinor, if_neg accepted, if_neg some]
  dsimp only
  rw [floors_total]
  congr 1
  rw [floors, List.map_map]
  rfl

theorem shortfall_bounds (whole : 0 < total (·.weight) weights) :
    0 ≤ shortfall amount weights ∧ shortfall amount weights < weights.length :=
  ⟨shortfall_nonneg amount (fun x : WeightedAmount => x.weight) weights whole,
    shortfall_lt amount (fun x : WeightedAmount => x.weight) weights whole⟩

theorem chosenIds_length (whole : 0 < total (·.weight) weights) : ((chosenIds amount weights).length : Int) = shortfall amount weights := by
  obtain ⟨low, high⟩ := shortfall_bounds amount weights whole
  obtain ⟨n, same⟩ := Int.eq_ofNat_of_zero_le low
  rw [chosenIds, same, toppedUp_take, List.length_map, List.length_take, List.length_insertionSort]
  rw [same] at high
  simp only [floors, List.length_map]
  omega

theorem chosenIds_ids (distinct : distinctIds weights) (whole : 0 < total (·.weight) weights) :
    (chosenIds amount weights).Nodup ∧ ∀ id ∈ chosenIds amount weights, id ∈ weights.map (·.id) := by
  obtain ⟨low, _⟩ := shortfall_bounds amount weights whole
  obtain ⟨n, same⟩ := Int.eq_ofNat_of_zero_le low
  have sorted := ((floors amount weights).perm_insertionSort ranked).map (·.id)
  rw [floors_ids] at sorted
  have taken := (List.take_sublist n ((floors amount weights).insertionSort ranked)).map (·.id)
  rw [chosenIds, same, toppedUp_take]
  exact ⟨taken.nodup (sorted.nodup_iff.mpr distinct), fun id member => sorted.mem_iff.mp (taken.subset member)⟩

theorem granted_total (distinct : distinctIds weights) (whole : 0 < total (·.weight) weights) :
    total (granted amount weights) weights = amount := by
  obtain ⟨once, present⟩ := chosenIds_ids amount weights distinct whole
  have parts : total (granted amount weights) weights =
      total (quota amount weights) weights + total (fun x => if x.id ∈ chosenIds amount weights then 1 else 0) weights := by
    rw [← total_add]
    refine total_congr _ _ weights (fun x _ => ?_)
    by_cases chosen : x.id ∈ chosenIds amount weights
    · simp [granted, chosen]
    · simp [granted, chosen]
  rw [parts, total_chosen weights (·.id) _ distinct once present, chosenIds_length amount weights whole, shortfall]
  omega

theorem granted_nonneg (nonneg : 0 ≤ amount) (x : WeightedAmount) (positive : 0 < x.weight) (whole : 0 < total (·.weight) weights) :
    0 ≤ granted amount weights x := by
  have floor : 0 ≤ quota amount weights x :=
    Int.ediv_nonneg (Int.mul_nonneg nonneg (Int.le_of_lt positive)) (Int.le_of_lt whole)
  rw [granted]
  split <;> omega

theorem granted_within (nonneg : 0 ≤ amount) (fits : amount ≤ total (·.weight) weights) (x : WeightedAmount)
    (positive : 0 < x.weight) (whole : 0 < total (·.weight) weights) : granted amount weights x ≤ x.weight := by
  by_cases full : amount = total (·.weight) weights
  · have exact_ : ∀ y : WeightedAmount, quota amount weights y = y.weight := by
      intro y
      rw [quota, full]
      exact Int.mul_ediv_cancel_left y.weight (Int.ne_of_gt whole)
    have nothing : shortfall amount weights = 0 := by
      rw [shortfall, total_congr (quota amount weights) (·.weight) weights (fun y _ => exact_ y)]
      omega
    have unchosen : chosenIds amount weights = [] := by
      rw [chosenIds, nothing]
      exact toppedUp_take _ 0
    rw [granted, unchosen, if_neg (by simp), exact_ x]
  · have below := quota_below amount x.weight (total (·.weight) weights) positive (by omega) nonneg
    have floor : quota amount weights x < x.weight := below
    rw [granted]
    split <;> omega

end Parts

structure Allocation (amount : Int) (weights : List WeightedAmount) (shares : List AllocatedAmount) : Prop where
  sum : total (fun x => shareOf shares x.id) weights = amount
  nonneg : ∀ id, 0 ≤ shareOf shares id
  within : amount ≤ total (·.weight) weights → ∀ x ∈ weights, shareOf shares x.id ≤ x.weight
  outside : ∀ id, id ∉ weights.map (·.id) → shareOf shares id = 0

theorem allocateMinor_ok (amount : Int) (weights : List WeightedAmount) (nonneg : 0 ≤ amount)
    (positive : ∀ x ∈ weights, 0 < x.weight) (distinct : distinctIds weights) (recipients : weights = [] → amount = 0) :
    ∃ shares, allocateMinor amount weights = .ok shares ∧ Allocation amount weights shares := by
  by_cases none : weights = []
  · have nothing := recipients none
    subst none nothing
    exact ⟨[], rfl, ⟨rfl, fun _ => Int.le_refl 0, fun _ x member => absurd member (by simp), fun _ _ => rfl⟩⟩
  · have whole : 0 < total (·.weight) weights := by
      have := total_lt weights (fun _ => 0) (·.weight) none positive
      rwa [total_const, Int.mul_zero] at this
    have own := shareOf_map weights distinct (granted amount weights)
    refine ⟨_, allocateMinor_shares amount weights nonneg positive distinct none, ?_, ?_, ?_, ?_⟩
    · rw [total_congr _ _ weights own]
      exact granted_total amount weights distinct whole
    · refine shareOf_nonneg _ (fun share member => ?_)
      obtain ⟨x, hx, rfl⟩ := List.mem_map.mp member
      exact granted_nonneg amount weights nonneg x (positive x hx) whole
    · intro fits x member
      rw [own x member]
      exact granted_within amount weights nonneg fits x (positive x member) whole
    · intro id missing
      refine shareOf_missing _ id ?_
      simpa [Function.comp_def] using missing

end EduAi.Revenue
