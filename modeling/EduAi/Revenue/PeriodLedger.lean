import EduAi.Revenue.Ledger
import EduAi.Revenue.MonthlyTable

set_option autoImplicit false

namespace EduAi.Revenue

open EduAi.Store EduAi.Gds EduAi.Commerce EduAi.Payments

structure Captured (s : RevenueOrderSnapshot) : Prop where
  distinct : distinctIds s.shares
  nonneg : ∀ x ∈ s.shares, 0 ≤ x.weight
  whole : total (·.weight) s.shares = s.basisAmountMinor

theorem captureLine_captured (line : CommerceOrderLine) (fee : Int) (recipients : List Recipient) (s : RevenueOrderSnapshot)
    (captured : captureLine line fee recipients = .ok s) (apart : "platform" ∉ recipients.map (·.courseId)) : Captured s := by
  unfold captureLine at captured
  cases given : splitRevenue line.finalAmountMinor fee (recipients.map (fun p => { id := p.courseId, weight := p.weight })) with
  | error e =>
      rw [given] at captured
      cases captured
  | ok split =>
      rw [given] at captured
      obtain rfl := Except.ok.inj captured
      obtain ⟨low, feeLow, feeHigh, platform, allocated⟩ := splitRevenue_accepts _ _ _ _ given
      obtain ⟨_, positive, distinct⟩ := allocateMinor_accepts _ _ _ allocated
      have ids : (recipients.map (fun p => ({ id := p.courseId, weight := p.weight } : WeightedAmount))).map (·.id) =
          recipients.map (·.courseId) := by
        rw [List.map_map]
        rfl
      have unique : (recipients.map (·.courseId)).Nodup := by
        unfold distinctIds at distinct
        rwa [ids] at distinct
      obtain ⟨sum, nonneg, same⟩ := allocateMinor_totals _ _ _ allocated
      have feeTaken : 0 ≤ line.finalAmountMinor * fee / 10000 := Int.ediv_nonneg (Int.mul_nonneg low feeLow) (by decide)
      have shared : total (fun p : Recipient => shareOf split.shares p.courseId) recipients =
          line.finalAmountMinor - split.platformAmountMinor := by
        have own : total (fun x : AllocatedAmount => shareOf split.shares x.id) split.shares =
            total (·.amountMinor) split.shares := by
          refine total_congr _ _ _ (fun x member => ?_)
          have found : split.shares.find? (fun y => y.id = x.id) = some x := by
            refine find_unique (fun y => some y.id) _ _ ?_ x x.id member (by simp) rfl (fun y _ named => by simpa using named)
            unfold UniqueKey
            rw [List.filterMap_eq_map', same, ids]
            exact unique
          rw [shareOf, found]
          rfl
        have listed : total (shareOf split.shares) (split.shares.map (·.id)) = total (shareOf split.shares) (recipients.map (·.courseId)) := by
          rw [same, ids]
        rw [total_map, total_map] at listed
        rw [← listed, own, sum, platform]
      refine ⟨?_, ?_, ?_⟩
      · simp only [distinctIds, RevenueOrderSnapshot.shares, List.map_cons, List.map_map, List.nodup_cons]
        exact ⟨apart, unique⟩
      · intro x member
        simp only [RevenueOrderSnapshot.shares, List.mem_cons, List.mem_map] at member
        rcases member with rfl | ⟨_, ⟨p, _, rfl⟩, rfl⟩
        · rw [platform]
          exact feeTaken
        · exact shareOf_nonneg _ nonneg _
      · simp only [RevenueOrderSnapshot.shares, total_cons, total_map]
        rw [shared]
        omega

section Targets

variable (s : RevenueOrderSnapshot) (periods : List EarningPeriodRow)

def participantTarget (cumulative : Int) (courseId : Uuid) : Int :=
  match refundTargets cumulative s.basisAmountMinor s.shares with
  | .ok targets => shareOf targets courseId
  | .error _ => 0

def refundTarget (cumulative : Int) (p : EarningPeriodRow) : Int :=
  match allocateMinor (participantTarget s cumulative p.courseId) (periodWeights (groupOf periods p.courseId)) with
  | .ok periodTargets => shareOf periodTargets p.id
  | .error _ => 0

structure TermTable : Prop where
  distinct : (periods.map (·.id)).Nodup
  nonneg : ∀ p ∈ periods, 0 ≤ p.amountMinor
  listed : ∀ p ∈ periods, p.courseId ∈ s.participants.map (·.courseId)
  whole : ∀ x ∈ s.participants, total (·.amountMinor) (groupOf periods x.courseId) = x.amountMinor

def weightOf (p : EarningPeriodRow) : WeightedAmount where
  id := p.id
  weight := p.amountMinor

theorem participant_share (x : Participant) (hx : x ∈ s.participants) :
    ({ id := x.courseId, weight := x.amountMinor } : WeightedAmount) ∈ s.shares :=
  List.mem_cons_of_mem _ (List.mem_map_of_mem hx)

section Bounds

variable (captured : Captured s) (table : TermTable s periods) (cumulative : Int) (fits : cumulative ≤ s.basisAmountMinor)

include captured fits in
theorem participantTarget_bounds (x : Participant) (hx : x ∈ s.participants) :
    0 ≤ participantTarget s cumulative x.courseId ∧ participantTarget s cumulative x.courseId ≤ x.amountMinor := by
  have share := participant_share s x hx
  unfold participantTarget
  by_cases negative : cumulative < 0
  · have refused : refundTargets cumulative s.basisAmountMinor s.shares = .error "Invalid cumulative refund." := by
      rw [refundTargets, if_pos (Or.inr (Or.inl negative))]
    rw [refused]
    exact ⟨Int.le_refl 0, captured.nonneg _ share⟩
  · obtain ⟨targets, given, allocation⟩ := refundTargets_ok cumulative s.basisAmountMinor s.shares captured.distinct captured.nonneg
      captured.whole (by omega) fits
    rw [given]
    exact ⟨allocation.nonneg _, paying_within s.shares captured.distinct captured.nonneg cumulative targets allocation
      (by rw [captured.whole]; exact fits) _ share⟩

theorem mem_groupOf (courseId : Uuid) (p : EarningPeriodRow) : p ∈ groupOf periods courseId ↔ p ∈ periods ∧ p.courseId = courseId := by
  simp [groupOf]

include table in
theorem group_weights (courseId : Uuid) : distinctIds ((groupOf periods courseId).map weightOf) ∧
    ∀ x ∈ (groupOf periods courseId).map weightOf, 0 ≤ x.weight := by
  constructor
  · unfold distinctIds
    rw [List.map_map]
    exact (List.filter_sublist.map (fun p : EarningPeriodRow => p.id)).nodup table.distinct
  · intro x member
    obtain ⟨p, hp, rfl⟩ := List.mem_map.mp member
    exact table.nonneg p ((mem_groupOf periods courseId p).mp hp).1

include captured table fits in
theorem period_targets (x : Participant) (hx : x ∈ s.participants) :
    ∃ periodTargets, allocateMinor (participantTarget s cumulative x.courseId) (periodWeights (groupOf periods x.courseId)) = .ok periodTargets ∧
      Allocation (participantTarget s cumulative x.courseId) (paying ((groupOf periods x.courseId).map weightOf)) periodTargets := by
  obtain ⟨low, high⟩ := participantTarget_bounds s captured cumulative fits x hx
  obtain ⟨distinct, nonneg⟩ := group_weights s periods table x.courseId
  refine allocate_paying _ distinct nonneg _ low ?_
  rw [total_map]
  exact le_of_le_of_eq high (table.whole x hx).symm

include captured table fits in
theorem refundTarget_bounds (p : EarningPeriodRow) (hp : p ∈ periods) :
    0 ≤ refundTarget s periods cumulative p ∧ refundTarget s periods cumulative p ≤ p.amountMinor := by
  obtain ⟨x, hx, course⟩ := List.mem_map.mp (table.listed p hp)
  obtain ⟨low, high⟩ := participantTarget_bounds s captured cumulative fits x hx
  obtain ⟨distinct, nonneg⟩ := group_weights s periods table x.courseId
  obtain ⟨periodTargets, given, allocation⟩ := period_targets s periods captured table cumulative fits x hx
  have total : participantTarget s cumulative x.courseId ≤ total (·.weight) ((groupOf periods x.courseId).map weightOf) := by
    rw [total_map]
    exact le_of_le_of_eq high (table.whole x hx).symm
  unfold refundTarget
  rw [← course, given]
  have inGroup : weightOf p ∈ (groupOf periods x.courseId).map weightOf :=
    List.mem_map_of_mem ((mem_groupOf periods x.courseId p).mpr ⟨hp, course.symm⟩)
  exact ⟨allocation.nonneg p.id, paying_within _ distinct nonneg _ periodTargets allocation total (weightOf p) inGroup⟩

end Bounds

theorem refundTarget_none (captured : Captured s) (table : TermTable s periods) (cumulative : Int) (none : cumulative ≤ 0)
    (p : EarningPeriodRow) (hp : p ∈ periods) : refundTarget s periods cumulative p = 0 := by
  obtain ⟨x, hx, course⟩ := List.mem_map.mp (table.listed p hp)
  have basis : 0 ≤ s.basisAmountMinor := by
    rw [← captured.whole]
    exact total_nonneg _ _ captured.nonneg
  have nothing : participantTarget s cumulative x.courseId = 0 := by
    unfold participantTarget
    by_cases negative : cumulative < 0
    · rw [refundTargets, if_pos (Or.inr (Or.inl negative))]
    · obtain ⟨targets, given, allocation⟩ := refundTargets_ok cumulative s.basisAmountMinor s.shares captured.distinct captured.nonneg
        captured.whole (by omega) (by omega)
      rw [given]
      have sum := paying_sum s.shares captured.distinct cumulative targets allocation
      have below := part_le_total (fun x => shareOf targets x.id) s.shares (fun x _ => allocation.nonneg x.id) _ (participant_share s x hx)
      have low := allocation.nonneg x.courseId
      simp only at below ⊢
      omega
  obtain ⟨distinct, nonneg⟩ := group_weights s periods table x.courseId
  obtain ⟨periodTargets, given, allocation⟩ := period_targets s periods captured table cumulative (by omega) x hx
  have sum := paying_sum _ distinct _ periodTargets allocation
  have inGroup : weightOf p ∈ (groupOf periods x.courseId).map weightOf :=
    List.mem_map_of_mem ((mem_groupOf periods x.courseId p).mpr ⟨hp, course.symm⟩)
  have below := part_le_total (fun x => shareOf periodTargets x.id) _ (fun x _ => allocation.nonneg x.id) _ inGroup
  have low := allocation.nonneg p.id
  unfold refundTarget
  rw [← course, given]
  rw [sum, nothing] at below
  exact Int.le_antisymm below low

end Targets

section Entries

def kindTotal (kind : LedgerKind) (entries : List RevenueLedgerEntry) : Int :=
  total (fun e => if e.kind = kind then e.amountMinor else 0) entries

theorem pendingRefund_total (entries : List RevenueLedgerEntry) : pendingRefund entries = kindTotal .refundPending entries := by
  unfold pendingRefund kindTotal
  rw [total_filter]
  simp only [decide_eq_true_eq]

theorem reversed_total (entries : List RevenueLedgerEntry) :
    reversed entries = -(kindTotal .refundPending entries + kindTotal .refundRecognized entries) := by
  unfold reversed kindTotal
  rw [total_filter, ← total_add]
  congr 1
  refine total_congr _ _ _ (fun e _ => ?_)
  cases e.kind <;> simp [LedgerKind.isRefund]

-- What a period has earned: what is recognized, less the refunds since; or its amount, less the refunds pending.
def netEarning (p : EarningPeriodRow) (entries : List RevenueLedgerEntry) : Int :=
  if isRecognized entries then total (fun e => e.amountMinor) (entries.filter (fun e => e.kind ≠ .refundPending))
  else p.amountMinor + pendingRefund entries

theorem unpending_total (entries : List RevenueLedgerEntry) :
    total (fun e => e.amountMinor) (entries.filter (fun e => e.kind ≠ .refundPending)) =
      kindTotal .recognized entries + kindTotal .refundRecognized entries := by
  unfold kindTotal
  rw [total_filter, ← total_add]
  refine total_congr _ _ _ (fun e _ => ?_)
  cases e.kind <;> simp

structure PeriodLedger (p : EarningPeriodRow) (target cumulative : Int) (entries : List RevenueLedgerEntry) : Prop where
  reversed : reversed entries = target
  recognized : isRecognized entries = true → kindTotal .recognized entries = p.amountMinor + kindTotal .refundPending entries
  pending : isRecognized entries = false → kindTotal .refundRecognized entries = 0
  earlier : ∀ e ∈ entries, ∀ periodId c, e.sourceKey = .refund periodId c → c ≤ cumulative

variable (p : EarningPeriodRow) (target cumulative : Int) (entries : List RevenueLedgerEntry)

theorem ledger_net (ledger : PeriodLedger p target cumulative entries) : netEarning p entries = p.amountMinor - target := by
  have taken := ledger.reversed
  rw [reversed_total] at taken
  unfold netEarning
  cases earned : isRecognized entries with
  | true =>
      have recognized := ledger.recognized earned
      rw [if_pos rfl, unpending_total]
      omega
  | false =>
      have pending := ledger.pending earned
      rw [if_neg (by simp), pendingRefund_total]
      omega

theorem kindTotal_append (kind : LedgerKind) (more : List RevenueLedgerEntry) :
    kindTotal kind (entries ++ more) = kindTotal kind entries + kindTotal kind more :=
  total_append _ _ _

theorem isRecognized_append (more : List RevenueLedgerEntry) :
    isRecognized (entries ++ more) = (isRecognized entries || isRecognized more) :=
  List.any_append

theorem ledger_refunded (later target' : Int) (source : Option Uuid) (grown : cumulative ≤ later)
    (ledger : PeriodLedger p target cumulative entries) :
    PeriodLedger p target' later (entries ++ (refundEntry later source target' p entries).toList) := by
  have taken := ledger.reversed
  unfold refundEntry
  dsimp only
  by_cases same : target' - reversed entries = 0
  · rw [if_neg (by simpa using same), Option.toList_none, List.append_nil]
    exact ⟨by omega, ledger.recognized, ledger.pending, fun e he periodId c keyed => le_trans (ledger.earlier e he periodId c keyed) grown⟩
  · rw [if_pos same, Option.toList_some]
    refine ⟨?_, ?_, ?_, ?_⟩
    · rw [reversed_total] at taken ⊢
      rw [reversed_total, kindTotal_append, kindTotal_append]
      cases earned : isRecognized entries <;> simp [kindTotal, total] <;> omega
    · intro earned
      cases before : isRecognized entries with
      | true =>
          have recognized := ledger.recognized before
          rw [kindTotal_append, kindTotal_append]
          simpa [kindTotal, total] using recognized
      | false =>
          rw [isRecognized_append, before] at earned
          simp [isRecognized] at earned
    · intro unearned
      rw [isRecognized_append, Bool.or_eq_false_iff] at unearned
      rw [kindTotal_append, ledger.pending unearned.1, unearned.1]
      simp [kindTotal, total]
    · intro e member periodId c keyed
      rcases List.mem_append.mp member with old | new
      · exact le_trans (ledger.earlier e old periodId c keyed) grown
      · obtain rfl := List.mem_singleton.mp new
        exact le_of_eq (LedgerSource.refund.inj keyed).2.symm

theorem ledger_recognized (ledger : PeriodLedger p target cumulative entries) :
    PeriodLedger p target cumulative (entries ++ (recognition p entries).toList) := by
  have taken := ledger.reversed
  unfold recognition
  cases before : isRecognized entries with
  | true =>
      rw [if_pos rfl, Option.toList_none, List.append_nil]
      exact ledger
  | false =>
      have pending := ledger.pending before
      rw [if_neg (by simp), Option.toList_some]
      refine ⟨?_, ?_, ?_, ?_⟩
      · rw [reversed_total] at taken ⊢
        rw [kindTotal_append, kindTotal_append]
        simpa [kindTotal, total] using taken
      · intro _
        have unearned : kindTotal .recognized entries = 0 := by
          refine total_zero _ _ (fun e member => ?_)
          have other : e.kind ≠ .recognized := by
            intro own
            have all : isRecognized entries = true := List.any_eq_true.mpr ⟨e, member, by simp [own]⟩
            rw [before] at all
            cases all
          rw [if_neg other]
        rw [kindTotal_append, kindTotal_append, unearned, pendingRefund_total]
        simp [kindTotal, total]
      · intro unearned
        rw [isRecognized_append, Bool.or_eq_false_iff] at unearned
        simp [isRecognized] at unearned
      · intro e member periodId c keyed
        rcases List.mem_append.mp member with old | new
        · exact ledger.earlier e old periodId c keyed
        · obtain rfl := List.mem_singleton.mp new
          cases keyed

end Entries

end EduAi.Revenue
