import EduAi.Revenue.Allocation

set_option autoImplicit false

namespace EduAi.Revenue

open EduAi.Store

structure RevenueSplit where
  platformAmountMinor : Int
  shares : List AllocatedAmount
deriving DecidableEq, Repr

def splitRevenue (amount : Int) (platformFeeBps : Int) (weights : List WeightedAmount) : Except String RevenueSplit := do
  if amount < 0 ∨ platformFeeBps < 0 ∨ 10000 < platformFeeBps then
    throw "Invalid revenue basis or fee."
  let platformAmountMinor := amount * platformFeeBps / 10000
  let shares ← allocateMinor (amount - platformAmountMinor) weights
  return { platformAmountMinor, shares }

def monthlyAmounts (amount : Int) (months : Nat) : Except String (List Int) :=
  if months < 1 ∨ 1200 < months ∨ amount < 0 then
    .error "Invalid membership term."
  else
    let base := amount / months
    let remainder := amount % months
    .ok ((List.range months).map (fun (i : Nat) => base + if (i : Int) < remainder then 1 else 0))

def paying (originals : List WeightedAmount) : List WeightedAmount :=
  originals.filter (fun x => 0 < x.weight)

def refundTargets (refunded basis : Int) (originals : List WeightedAmount) : Except String (List AllocatedAmount) :=
  if basis < 0 ∨ refunded < 0 ∨ basis < refunded ∨ total (·.weight) originals ≠ basis then
    .error "Invalid cumulative refund."
  else
    allocateMinor refunded (paying originals)

def WeightedAmount.less (x : WeightedAmount) (amount : Int) : WeightedAmount :=
  { x with weight := x.weight - amount }

def allocateMonths (originals : List WeightedAmount) :
    List Int → List WeightedAmount → Except String (List (List AllocatedAmount))
  | [], _ => .ok []
  | budget :: budgets, remaining => do
      let allocated ← allocateMinor budget (paying remaining)
      let months ← allocateMonths originals budgets (remaining.map (fun x => x.less (shareOf allocated x.id)))
      return originals.map (fun x => { id := x.id, amountMinor := shareOf allocated x.id }) :: months

def monthlyRevenueShares (originals : List WeightedAmount) (months : Nat) : Except String (List (List AllocatedAmount)) := do
  if originals.any (fun x => x.weight < 0) ∨ ¬ distinctIds originals then
    throw "Invalid original shares."
  let budgets ← monthlyAmounts (total (·.weight) originals) months
  allocateMonths originals budgets originals

section Paying

variable (originals : List WeightedAmount)

theorem paying_total (nonneg : ∀ x ∈ originals, 0 ≤ x.weight) :
    total (·.weight) (paying originals) = total (·.weight) originals := by
  rw [paying, total_filter]
  refine total_congr _ _ originals (fun x member => ?_)
  have low := nonneg x member
  by_cases positive : 0 < x.weight
  · simp [positive]
  · have zero : x.weight = 0 := by omega
    simp [zero]

theorem paying_distinct (distinct : distinctIds originals) : distinctIds (paying originals) :=
  (List.filter_sublist.map (fun x : WeightedAmount => x.id)).nodup distinct

theorem mem_paying (x : WeightedAmount) : x ∈ paying originals ↔ x ∈ originals ∧ 0 < x.weight := by
  simp [paying]

theorem paying_share (distinct : distinctIds originals) (amount : Int) (shares : List AllocatedAmount)
    (allocation : Allocation amount (paying originals) shares) (x : WeightedAmount) (member : x ∈ originals)
    (flat : ¬ 0 < x.weight) : shareOf shares x.id = 0 := by
  refine allocation.outside x.id (fun listed => ?_)
  obtain ⟨y, hy, same⟩ := List.mem_map.mp listed
  obtain ⟨inside, positive⟩ := (mem_paying originals y).mp hy
  have one : y = x := List.inj_on_of_nodup_map distinct inside member same
  exact flat (one ▸ positive)

theorem paying_sum (distinct : distinctIds originals) (amount : Int) (shares : List AllocatedAmount)
    (allocation : Allocation amount (paying originals) shares) : total (fun x => shareOf shares x.id) originals = amount := by
  rw [← allocation.sum, paying, total_filter]
  refine total_congr _ _ originals (fun x member => ?_)
  by_cases positive : 0 < x.weight
  · simp [positive]
  · simp [positive, paying_share originals distinct amount shares allocation x member positive]

theorem paying_within (distinct : distinctIds originals) (nonneg : ∀ x ∈ originals, 0 ≤ x.weight) (amount : Int)
    (shares : List AllocatedAmount) (allocation : Allocation amount (paying originals) shares)
    (fits : amount ≤ total (·.weight) originals) (x : WeightedAmount) (member : x ∈ originals) :
    shareOf shares x.id ≤ x.weight := by
  by_cases positive : 0 < x.weight
  · exact allocation.within (by rwa [paying_total originals nonneg]) x ((mem_paying originals x).mpr ⟨member, positive⟩)
  · rw [paying_share originals distinct amount shares allocation x member positive]
    exact nonneg x member

theorem allocate_paying (distinct : distinctIds originals) (nonneg : ∀ x ∈ originals, 0 ≤ x.weight) (amount : Int)
    (low : 0 ≤ amount) (fits : amount ≤ total (·.weight) originals) :
    ∃ shares, allocateMinor amount (paying originals) = .ok shares ∧ Allocation amount (paying originals) shares := by
  refine allocateMinor_ok amount (paying originals) low (fun x member => ((mem_paying originals x).mp member).2)
    (paying_distinct originals distinct) (fun none => ?_)
  have nothing := paying_total originals nonneg
  rw [none, total_nil] at nothing
  omega

end Paying

theorem refundTargets_ok (refunded basis : Int) (originals : List WeightedAmount) (distinct : distinctIds originals)
    (nonneg : ∀ x ∈ originals, 0 ≤ x.weight) (whole : total (·.weight) originals = basis) (low : 0 ≤ refunded)
    (high : refunded ≤ basis) :
    ∃ targets, refundTargets refunded basis originals = .ok targets ∧ Allocation refunded (paying originals) targets := by
  have accepted : ¬ (basis < 0 ∨ refunded < 0 ∨ basis < refunded ∨ total (·.weight) originals ≠ basis) := by
    omega
  rw [refundTargets, if_neg accepted]
  exact allocate_paying originals distinct nonneg refunded low (by omega)

-- The table of a term: a row a month, and every participant's column adds up to its share.
structure MonthlyTable (originals remaining : List WeightedAmount) (months : Nat) (table : List (List AllocatedAmount)) : Prop where
  length : table.length = months
  listed : ∀ month ∈ table, month.map (·.id) = originals.map (·.id)
  nonneg : ∀ month ∈ table, ∀ id, 0 ≤ shareOf month id
  columns : ∀ x ∈ remaining, total (fun month => shareOf month x.id) table = x.weight

theorem allocateMonths_ok (originals : List WeightedAmount) (budgets : List Int) (remaining : List WeightedAmount)
    (same : remaining.map (·.id) = originals.map (·.id)) (distinct : distinctIds originals)
    (nonneg : ∀ x ∈ remaining, 0 ≤ x.weight) (budgeted : ∀ b ∈ budgets, 0 ≤ b)
    (whole : total (·.weight) remaining = total id budgets) :
    ∃ table, allocateMonths originals budgets remaining = .ok table ∧
      MonthlyTable originals remaining budgets.length table := by
  induction budgets generalizing remaining with
  | nil =>
      refine ⟨[], rfl, ⟨rfl, fun _ member => absurd member (by simp), fun _ member => absurd member (by simp), ?_⟩⟩
      intro x member
      have below := part_le_total (fun x : WeightedAmount => x.weight) remaining nonneg x member
      have low := nonneg x member
      rw [whole, total_nil] at below
      exact Int.le_antisymm low below
  | cons budget budgets ih =>
      have unique : distinctIds remaining := by
        unfold distinctIds
        rw [same]
        exact distinct
      have low := budgeted budget (by simp)
      have later := total_nonneg id budgets (fun b member => budgeted b (by simp [member]))
      rw [total_cons] at whole
      have fits : budget ≤ total (·.weight) remaining := by
        rw [whole]
        exact Int.le_add_of_nonneg_right later
      obtain ⟨allocated, given, allocation⟩ := allocate_paying remaining unique nonneg budget low fits
      have within := paying_within remaining unique nonneg budget allocated allocation fits
      have sum := paying_sum remaining unique budget allocated allocation
      obtain ⟨months, rest, table⟩ := ih (remaining.map (fun x => x.less (shareOf allocated x.id)))
        (by simpa [Function.comp_def, WeightedAmount.less] using same)
        (by
          intro y member
          obtain ⟨x, hx, rfl⟩ := List.mem_map.mp member
          have := within x hx
          simp only [WeightedAmount.less]
          omega)
        (fun b member => budgeted b (by simp [member]))
        (by
          have taken := total_add remaining (fun x => shareOf allocated x.id) (fun x => x.weight - shareOf allocated x.id)
          have all : total (fun x => shareOf allocated x.id + (x.weight - shareOf allocated x.id)) remaining =
              total (·.weight) remaining := total_congr _ _ remaining (fun x _ => by ring)
          rw [total_map]
          simp only [WeightedAmount.less, id] at whole ⊢
          omega)
      have listed : ∀ x ∈ remaining, x.id ∈ originals.map (·.id) := by
        intro x member
        rw [← same]
        exact List.mem_map_of_mem member
      have row : ∀ x ∈ remaining, shareOf (originals.map (fun y => { id := y.id, amountMinor := shareOf allocated y.id })) x.id =
          shareOf allocated x.id := by
        intro x member
        obtain ⟨y, hy, named⟩ := List.mem_map.mp (listed x member)
        rw [← named]
        exact shareOf_map originals distinct (fun y => shareOf allocated y.id) y hy
      refine ⟨_, by rw [allocateMonths, given]; simp only [bind, Except.bind, rest]; rfl, ?_, ?_, ?_, ?_⟩
      · rw [List.length_cons, table.length, List.length_cons]
      · intro month member
        rcases List.mem_cons.mp member with rfl | inRest
        · simp [Function.comp_def]
        · exact table.listed month inRest
      · intro month member
        rcases List.mem_cons.mp member with rfl | inRest
        · refine shareOf_nonneg _ (fun share hs => ?_)
          obtain ⟨x, _, rfl⟩ := List.mem_map.mp hs
          exact allocation.nonneg x.id
        · exact table.nonneg month inRest
      · intro x member
        have column := table.columns _ (List.mem_map_of_mem member)
        rw [total_cons, row x member]
        simp only [WeightedAmount.less] at column
        omega

theorem range_count (n r : Nat) (le : r ≤ n) : total (fun i : Nat => if i < r then 1 else 0) (List.range n) = r := by
  induction n generalizing r with
  | zero =>
      have zero : r = 0 := by omega
      subst zero
      rfl
  | succ n ih =>
      rw [List.range_succ, total_append_one]
      by_cases full : r = n + 1
      · have all : total (fun i : Nat => if i < r then 1 else 0) (List.range n) = total (fun i => if i < n then 1 else 0) (List.range n) := by
          refine total_congr _ _ _ (fun i member => ?_)
          have := List.mem_range.mp member
          rw [if_pos (by omega), if_pos this]
        rw [all, ih n (Nat.le_refl n), if_pos (by omega), full]
        push_cast
        ring
      · rw [ih r (by omega), if_neg (by omega)]
        ring

theorem monthlyAmounts_ok (amount : Int) (months : Nat) (nonneg : 0 ≤ amount) (one : 1 ≤ months) (bounded : months ≤ 1200) :
    ∃ budgets, monthlyAmounts amount months = .ok budgets ∧ budgets.length = months ∧ (∀ b ∈ budgets, 0 ≤ b) ∧
      total id budgets = amount := by
  have positive : (0 : Int) < months := by omega
  have base := Int.ediv_nonneg nonneg (Int.le_of_lt positive)
  have low := Int.emod_nonneg amount (Int.ne_of_gt positive)
  have high := Int.emod_lt_of_pos amount positive
  have split := Int.mul_ediv_add_emod amount months
  refine ⟨_, by rw [monthlyAmounts, if_neg (by omega)], by simp, ?_, ?_⟩
  · intro b member
    obtain ⟨i, _, rfl⟩ := List.mem_map.mp member
    split <;> omega
  · obtain ⟨r, same⟩ := Int.eq_ofNat_of_zero_le low
    have extra : total (fun i : Nat => if (i : Int) < amount % months then 1 else 0) (List.range months) = amount % months := by
      rw [same] at high ⊢
      refine Eq.trans (total_congr _ _ _ (fun i _ => ?_)) (range_count months r (by omega))
      simp only [Nat.cast_lt]
    rw [total_map]
    simp only [id]
    rw [total_add, total_const, extra, List.length_range]
    exact split

theorem monthlyRevenueShares_ok (originals : List WeightedAmount) (months : Nat) (distinct : distinctIds originals)
    (nonneg : ∀ x ∈ originals, 0 ≤ x.weight) (one : 1 ≤ months) (bounded : months ≤ 1200) :
    ∃ table, monthlyRevenueShares originals months = .ok table ∧ MonthlyTable originals originals months table := by
  have accepted : ¬ (originals.any (fun x => x.weight < 0) ∨ ¬ distinctIds originals) := by
    rintro (negative | repeated)
    · obtain ⟨x, member, low⟩ := List.any_eq_true.mp negative
      have := nonneg x member
      simp only [decide_eq_true_eq] at low
      omega
    · exact repeated distinct
  obtain ⟨budgets, given, length, budgeted, sum⟩ :=
    monthlyAmounts_ok (total (·.weight) originals) months (total_nonneg _ originals nonneg) one bounded
  obtain ⟨table, ok, shape⟩ := allocateMonths_ok originals budgets originals rfl distinct nonneg budgeted sum.symm
  refine ⟨table, ?_, length ▸ shape⟩
  rw [monthlyRevenueShares, if_neg accepted, given]
  exact ok

end EduAi.Revenue
