import EduAi.Revenue.RefundTargets

set_option autoImplicit false

namespace EduAi.Revenue

open EduAi.Store

-- The table of a term: a row a month that spends the month's budget, a column a participant that adds up to its total.
structure ContingencyTable (originals : List WeightedAmount) (budgets : List Int) (table : List (List AllocatedAmount)) : Prop where
  listed : ∀ month ∈ table, month.map (·.id) = originals.map (·.id)
  nonneg : ∀ month ∈ table, ∀ share ∈ month, 0 ≤ share.amountMinor
  columns : ∀ x ∈ originals, total (fun month => shareOf month x.id) table = x.weight
  rows : List.Forall₂ (fun month budget => total (·.amountMinor) month = budget) table budgets

section Rows

variable (originals : List WeightedAmount) (distinct : distinctIds originals)

theorem row_total (remaining : List WeightedAmount) (same : remaining.map (·.id) = originals.map (·.id)) (budget : Int)
    (allocated : List AllocatedAmount) (distinct' : distinctIds remaining) (allocation : Allocation budget (paying remaining) allocated) :
    total (·.amountMinor) (originals.map (fun x => { id := x.id, amountMinor := shareOf allocated x.id : AllocatedAmount })) = budget := by
  have ids : total (shareOf allocated) (originals.map (·.id)) = total (shareOf allocated) (remaining.map (·.id)) := by
    rw [same]
  rw [total_map, total_map] at ids
  rw [total_map, ids]
  exact paying_sum remaining distinct' budget allocated allocation

include distinct in
theorem allocateMonths_rows (budgets : List Int) (remaining : List WeightedAmount)
    (same : remaining.map (·.id) = originals.map (·.id)) (nonneg : ∀ x ∈ remaining, 0 ≤ x.weight)
    (budgeted : ∀ b ∈ budgets, 0 ≤ b) (whole : total (·.weight) remaining = total id budgets) (table : List (List AllocatedAmount))
    (ran : allocateMonths originals budgets remaining = .ok table) :
    List.Forall₂ (fun month budget => total (·.amountMinor) month = budget) table budgets := by
  induction budgets generalizing remaining table with
  | nil =>
      obtain rfl := Except.ok.inj ran
      exact .nil
  | cons budget budgets ih =>
      have distinct' : distinctIds remaining := by
        unfold distinctIds
        rw [same]
        exact distinct
      have later := total_nonneg id budgets (fun b member => budgeted b (by simp [member]))
      rw [total_cons] at whole
      have fits : budget ≤ total (·.weight) remaining := by
        rw [whole]
        exact Int.le_add_of_nonneg_right later
      obtain ⟨allocated, given, allocation⟩ := allocate_paying remaining distinct' nonneg budget (budgeted budget (by simp)) fits
      have within := paying_within remaining distinct' nonneg budget allocated allocation fits
      have sum := paying_sum remaining distinct' budget allocated allocation
      simp only [allocateMonths, given, bind, Except.bind, pure, Except.pure] at ran
      cases rest : allocateMonths originals budgets (remaining.map (fun x => x.less (shareOf allocated x.id))) with
      | error e =>
          rw [rest] at ran
          cases ran
      | ok months =>
          rw [rest] at ran
          obtain rfl := Except.ok.inj ran
          refine .cons (row_total originals remaining same budget allocated distinct' allocation)
            (ih _ ?ids ?left (fun b member => budgeted b (by simp [member])) ?spent months rest)
          case ids =>
            simpa [Function.comp_def, WeightedAmount.less] using same
          case left =>
            intro y member
            obtain ⟨x, hx, named⟩ := List.mem_map.mp member
            subst named
            have := within x hx
            simp only [WeightedAmount.less]
            omega
          case spent =>
            have taken := total_add remaining (fun x => shareOf allocated x.id) (fun x => x.weight - shareOf allocated x.id)
            have all : total (fun x => shareOf allocated x.id + (x.weight - shareOf allocated x.id)) remaining =
                total (·.weight) remaining := total_congr _ _ remaining (fun x _ => by ring)
            rw [total_map]
            simp only [WeightedAmount.less, id] at whole ⊢
            omega

end Rows

theorem monthlyRevenueShares_table (originals : List WeightedAmount) (months : Nat) (distinct : distinctIds originals)
    (nonneg : ∀ x ∈ originals, 0 ≤ x.weight) (one : 1 ≤ months) (bounded : months ≤ 1200) :
    ∃ table budgets, monthlyRevenueShares originals months = .ok table ∧
      monthlyAmounts (total (·.weight) originals) months = .ok budgets ∧ table.length = months ∧
      ContingencyTable originals budgets table := by
  obtain ⟨table, ran, shape⟩ := monthlyRevenueShares_ok originals months distinct nonneg one bounded
  obtain ⟨budgets, given, _, budgeted, sum⟩ :=
    monthlyAmounts_ok (total (·.weight) originals) months (total_nonneg _ originals nonneg) one bounded
  have accepted : ¬ (originals.any (fun x => x.weight < 0) ∨ ¬ distinctIds originals) := by
    intro refused
    cases refused with
    | inl negative =>
        obtain ⟨x, member, low⟩ := List.any_eq_true.mp negative
        exact absurd (nonneg x member) (not_le.mpr (by simpa using low))
    | inr repeated => exact repeated distinct
  have months' : allocateMonths originals budgets originals = .ok table := by
    rw [monthlyRevenueShares, if_neg accepted, given] at ran
    exact ran
  refine ⟨table, budgets, ran, given, shape.length, shape.listed, ?_, shape.columns,
    allocateMonths_rows originals distinct budgets originals rfl nonneg budgeted sum.symm table months'⟩
  intro month member share listed
  have ids : distinctIds (month.map (fun s => { id := s.id, weight := s.amountMinor })) := by
    unfold distinctIds at distinct ⊢
    rw [List.map_map]
    exact ((shape.listed month member).symm ▸ distinct : (month.map (·.id)).Nodup)
  have own := shareOf_map _ ids (fun s => s.weight) _ (List.mem_map_of_mem listed)
  rw [List.map_map] at own
  have back : month.map ((fun y => { id := y.id, amountMinor := y.weight : AllocatedAmount }) ∘
      fun s => { id := s.id, weight := s.amountMinor : WeightedAmount }) = month := List.map_id month
  rw [back] at own
  have low := shape.nonneg month member share.id
  rw [own] at low
  exact low

def AllocatedAmount.weighted (share : AllocatedAmount) : WeightedAmount where
  id := share.id
  weight := share.amountMinor

theorem splitRevenue_accepts (amount fee : Int) (weights : List WeightedAmount) (split : RevenueSplit)
    (accepted : splitRevenue amount fee weights = .ok split) :
    0 ≤ amount ∧ 0 ≤ fee ∧ fee ≤ 10000 ∧ split.platformAmountMinor = amount * fee / 10000 ∧
      allocateMinor (amount - amount * fee / 10000) weights = .ok split.shares := by
  unfold splitRevenue at accepted
  by_cases refused : amount < 0 ∨ fee < 0 ∨ 10000 < fee
  · simp only [if_pos refused, bind, Except.bind, throw, throwThe, MonadExceptOf.throw] at accepted
    cases accepted
  · simp only [if_neg refused, bind, Except.bind, pure, Except.pure] at accepted
    cases given : allocateMinor (amount - amount * fee / 10000) weights with
    | error e =>
        rw [given] at accepted
        cases accepted
    | ok shares =>
        rw [given] at accepted
        obtain rfl := Except.ok.inj accepted
        exact ⟨by omega, by omega, by omega, rfl, rfl⟩

theorem allocateMinor_totals (amount : Int) (weights : List WeightedAmount) (shares : List AllocatedAmount)
    (accepted : allocateMinor amount weights = .ok shares) :
    total (·.amountMinor) shares = amount ∧ (∀ share ∈ shares, 0 ≤ share.amountMinor) ∧
      shares.map (·.id) = weights.map (·.id) := by
  obtain ⟨low, positive, distinct⟩ := allocateMinor_accepts amount weights shares accepted
  by_cases none : weights = []
  · subst none
    by_cases nothing : amount = 0
    · subst nothing
      obtain rfl := Except.ok.inj accepted
      exact ⟨rfl, (fun _ member => by cases member), rfl⟩
    · rw [allocateMinor, if_neg (by simp [distinctIds]; omega), if_pos rfl, if_neg nothing] at accepted
      cases accepted
  · have whole : 0 < total (·.weight) weights := by
      have above := total_lt weights (fun _ => 0) (·.weight) none positive
      rwa [total_const, Int.mul_zero] at above
    rw [allocateMinor_shares amount weights low positive distinct none] at accepted
    obtain rfl := Except.ok.inj accepted
    have exact_ := granted_exact amount weights low positive distinct whole
    refine ⟨exact_.sum, ?_, exact_.listed⟩
    intro share member
    obtain ⟨x, hx, named⟩ := List.mem_map.mp member
    subst named
    exact granted_nonneg amount weights low x (positive x hx) whole

/-- A term of up to 1200 months splits into an exact table, for the participants alone and with the platform's part in front. -/
theorem monthly_revenue_exact (amount fee : Int) (weights : List WeightedAmount) (split : RevenueSplit) (months : Nat)
    (accepted : splitRevenue amount fee weights = .ok split) (one : 1 ≤ months) (bounded : months ≤ 1200) :
    split.platformAmountMinor + total (·.amountMinor) split.shares = amount ∧
    (∃ table budgets, monthlyRevenueShares (split.shares.map (·.weighted)) months = .ok table ∧
      monthlyAmounts (total (·.amountMinor) split.shares) months = .ok budgets ∧ table.length = months ∧
      ContingencyTable (split.shares.map (·.weighted)) budgets table) ∧
    ("platform" ∉ weights.map (·.id) → ∃ table budgets,
      monthlyRevenueShares (⟨"platform", split.platformAmountMinor⟩ :: split.shares.map (·.weighted)) months = .ok table ∧
      monthlyAmounts amount months = .ok budgets ∧ table.length = months ∧
      ContingencyTable (⟨"platform", split.platformAmountMinor⟩ :: split.shares.map (·.weighted)) budgets table) := by
  obtain ⟨low, feeLow, feeHigh, platform, given⟩ := splitRevenue_accepts amount fee weights split accepted
  obtain ⟨sum, nonneg, ids⟩ := allocateMinor_totals _ weights split.shares given
  have distinct : distinctIds (split.shares.map (·.weighted)) := by
    obtain ⟨_, _, once⟩ := allocateMinor_accepts _ weights split.shares given
    unfold distinctIds at once ⊢
    rw [List.map_map]
    exact (ids.symm ▸ once : (split.shares.map (·.id)).Nodup)
  have weights' : ∀ x ∈ split.shares.map (·.weighted), 0 ≤ x.weight := by
    intro x member
    obtain ⟨share, listed, named⟩ := List.mem_map.mp member
    subst named
    exact nonneg share listed
  have whole : total (·.weight) (split.shares.map (·.weighted)) = total (·.amountMinor) split.shares := by
    rw [total_map]
    rfl
  have part : 0 ≤ split.platformAmountMinor := by
    rw [platform]
    exact Int.ediv_nonneg (Int.mul_nonneg low feeLow) (by decide)
  have all : split.platformAmountMinor + total (·.amountMinor) split.shares = amount := by
    rw [sum, platform]
    omega
  refine ⟨all, ?_, ?_⟩
  · have table := monthlyRevenueShares_table (split.shares.map (·.weighted)) months distinct weights' one bounded
    rwa [whole] at table
  · intro apart
    have table := monthlyRevenueShares_table (⟨"platform", split.platformAmountMinor⟩ :: split.shares.map (·.weighted)) months ?_
      (List.forall_mem_cons.mpr ⟨part, weights'⟩) one bounded
    · rwa [total_cons, whole, all] at table
    · refine List.nodup_cons.mpr ⟨?_, distinct⟩
      rw [List.map_map]
      exact (ids.symm ▸ apart : "platform" ∉ split.shares.map (·.id))

def sampleSplit : RevenueSplit :=
  { platformAmountMinor := 1, shares := [⟨"a", 4⟩, ⟨"b", 2⟩] }

theorem monthly_revenue_exact_sample :
    ∃ table budgets, monthlyRevenueShares (⟨"platform", 1⟩ :: sampleSplit.shares.map (·.weighted)) 3 = .ok table ∧
      monthlyAmounts 7 3 = .ok budgets ∧ table.length = 3 ∧
      ContingencyTable (⟨"platform", 1⟩ :: sampleSplit.shares.map (·.weighted)) budgets table :=
  (monthly_revenue_exact 7 2000 [⟨"a", 2⟩, ⟨"b", 1⟩] sampleSplit 3 (by decide +kernel) (by decide) (by decide)).2.2 (by decide)

-- A term of 1201 months is refused, whatever is to be split.
theorem monthly_revenue_refused :
    splitRevenue 1 0 [⟨"a", 1⟩] = .ok { platformAmountMinor := 0, shares := [⟨"a", 1⟩] } ∧
      monthlyRevenueShares [⟨"a", 1⟩] 1201 = .error "Invalid membership term." := by
  decide +kernel

end EduAi.Revenue
