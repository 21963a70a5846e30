import EduAi.Revenue.LedgerRows

set_option autoImplicit false

namespace EduAi.Revenue

open EduAi.Store EduAi.Gds EduAi.Commerce EduAi.Payments EduAi.Memberships

theorem ofResult_bind {α : Type} (outcome : Except String α) (a : α) (given : outcome = .ok a) (f : α → RevenueTxn Unit) :
    (ofResult outcome >>= f : RevenueTxn Unit) = f a := by
  rw [given]
  rfl

theorem ofResult_wp {α : Type} (outcome : Except String α) (a : α) (given : outcome = .ok a) (Q : α → RevenueDb → Prop)
    (db : RevenueDb) : Wp (ofResult outcome) Q db ↔ Q a db := by
  rw [given]
  exact wp_pure a Q db

section Adjustments

variable (commerce : CommerceDb) (db : RevenueDb) (s : RevenueOrderSnapshot) (order : CommerceOrder)

def RefundsOfOrder (commerce : CommerceDb) (order : CommerceOrder) : Prop :=
  ∀ r ∈ commerce.refunds, some r.settlementId = order.confirmedSettlementId → r.orderId = order.id

theorem lastRefund_source (found : order ∈ commerce.orders) (named : order.id = s.orderId) (stored : s ∈ db.snapshots)
    (own : RefundsOfOrder commerce order) (p : EarningPeriodRow) (hp : p ∈ periodsOf db s.id) (e : RevenueLedgerEntry)
    (of : e.periodId = p.id) (source : e.sourceRefundId = lastRefund commerce order s.id) (some' : e.sourceRefundId.isSome = true) :
    refundSource commerce db e = true := by
  obtain ⟨inPeriods, snapshot⟩ := (mem_periodsOf db s.id p).mp hp
  rw [source] at some'
  obtain ⟨id, last⟩ := Option.isSome_iff_exists.mp some'
  obtain ⟨x, hx, rfl⟩ := Option.map_eq_some_iff.mp last
  have member := List.mem_of_getLast? hx
  obtain ⟨r, hr, allocated⟩ := List.mem_flatMap.mp member
  obtain ⟨a, ha, rfl⟩ := List.mem_map.mp allocated
  obtain ⟨inRefunds, recorded⟩ := List.mem_filter.mp hr
  obtain ⟨inAllocations, ofLine⟩ := List.mem_filter.mp ha
  simp only [decide_eq_true_eq] at recorded ofLine
  refine List.any_eq_true.mpr ⟨r, inRefunds, decide_eq_true ⟨by rw [source, last], recorded.1, ?_⟩⟩
  refine List.any_eq_true.mpr ⟨a, inAllocations, List.any_eq_true.mpr ⟨p, inPeriods, decide_eq_true ⟨of.symm, by rw [snapshot, ofLine], ?_⟩⟩⟩
  refine List.any_eq_true.mpr ⟨s, stored, decide_eq_true ⟨snapshot.symm, ?_⟩⟩
  exact List.any_eq_true.mpr ⟨order, found, decide_eq_true ⟨named, own r inRefunds recorded.2, recorded.2⟩⟩

variable (captured : Captured s) (table : TermTable s (periodsOf db s.id)) (keys : RevenueKeys db)

include captured table in
theorem adjustments_eq (cumulative : Int) (source : Option Uuid) (targets : List AllocatedAmount)
    (fits : cumulative ≤ s.basisAmountMinor) (given : refundTargets cumulative s.basisAmountMinor s.shares = .ok targets) :
    s.participants.forM (fun x => adjustParticipant commerce db s cumulative source targets x.courseId) =
      (refundRows db s cumulative source).forM (insertEntry commerce) := by
  unfold refundRows grouped
  rw [List.filterMap_flatMap, forM_flatMap]
  refine forM_congr _ _ _ (fun x hx => ?_)
  obtain ⟨periodTargets, allocated, _⟩ := period_targets s (periodsOf db s.id) captured table cumulative fits x hx
  have share : participantTarget s cumulative x.courseId = shareOf targets x.courseId := by
    unfold participantTarget
    rw [given]
  unfold adjustParticipant
  dsimp only
  rw [ofResult_bind _ periodTargets (by rw [← share]; exact allocated), createEntries_eq]
  congr 1
  refine List.filterMap_congr (fun p member => ?_)
  have course := ((mem_groupOf _ _ p).mp member).2
  unfold refundTarget
  rw [course, allocated]

variable (cumulative : Int) (settled : Settled db s cumulative) (grown : cumulative ≤ recordedRefund commerce order s.id)

include captured table settled grown in
theorem refundRows_none (none : recordedRefund commerce order s.id ≤ 0) (source : Option Uuid) :
    refundRows db s (recordedRefund commerce order s.id) source = [] := by
  unfold refundRows
  rw [List.filterMap_eq_nil_iff]
  intro p member
  have listed := (mem_grouped db s table p).mp member
  have ledger := settled.ledgers p listed
  refine refundEntry_none _ _ _ _ _ ?_
  rw [ledger.reversed, refundTarget_none s _ captured table cumulative (le_trans grown none) p listed,
    refundTarget_none s _ captured table _ none p listed]

include captured table keys settled grown in
theorem adjustRefunds_wp (found : order ∈ commerce.orders) (named : order.id = s.orderId) (stored : s ∈ db.snapshots)
    (own : RefundsOfOrder commerce order) (fits : recordedRefund commerce order s.id ≤ s.basisAmountMinor) :
    Wp (adjustRefunds commerce s order) (fun _ t => RevenueKeys t ∧
      t = withEntries db (refundRows db s (recordedRefund commerce order s.id) (lastRefund commerce order s.id))) db := by
  unfold adjustRefunds
  simp only [wp_bind, wp_get, wp_require]
  refine ⟨fits, (wp_ite _ _ _ _ _).mpr ⟨fun positive => ?_, fun none => ?_⟩⟩
  · obtain ⟨targets, given, _⟩ := refundTargets_ok (recordedRefund commerce order s.id) s.basisAmountMinor s.shares captured.distinct
      captured.nonneg captured.whole (Int.le_of_lt positive) fits
    rw [wp_bind, ofResult_wp _ targets given]
    have some' : (lastRefund commerce order s.id).isSome = true := by
      have nonempty : refundAllocations commerce order s.id ≠ [] := by
        intro empty
        rw [recordedRefund, empty, total_nil] at positive
        omega
      rw [lastRefund, Option.isSome_map, List.getLast?_isSome]
      exact nonempty
    have rows := adjustments_eq commerce db s captured table (recordedRefund commerce order s.id) (lastRefund commerce order s.id)
      targets fits given
    have entries : ∀ e ∈ refundRows db s (recordedRefund commerce order s.id) (lastRefund commerce order s.id),
        EntryFits commerce db e := by
      intro e member
      obtain ⟨p, hp, entry⟩ := List.mem_filterMap.mp member
      obtain ⟨_, of, key, source, refund⟩ := refundEntry_some _ _ _ _ _ e entry
      have listed := (mem_grouped db s table p).mp hp
      refine ⟨fun kind => ?_, by rw [source, some', refund], fun _ => ?_, ⟨p, ((mem_periodsOf db s.id p).mp listed).1, of.symm⟩,
        Or.inr ⟨_, by rw [of]; exact key⟩⟩
      · rw [kind] at refund
        cases refund
      · exact lastRefund_source commerce db s order found named stored own p listed e of source (by rw [source]; exact some')
    have unique := refundRows_unique db s captured table keys cumulative _ (lastRefund commerce order s.id) grown settled
    refine wp_mono _ _ ?_ (fun _ t same => ⟨?_, same⟩)
    · exact (congrArg (fun m => Wp m (fun _ t => t = withEntries db _) db) rows).mpr (insertEntries_wp commerce db _ entries unique)
    · rw [same]
      exact withEntries_keys commerce db keys _ entries unique
  · have nothing := refundRows_none commerce db s order captured table cumulative settled grown (Int.not_lt.mp none)
      (lastRefund commerce order s.id)
    rw [wp_pure, nothing, withEntries_none]
    exact ⟨keys, rfl⟩

include captured table keys settled in
theorem recognizeDue_wp (now : Instant) (fits : cumulative ≤ s.basisAmountMinor) :
    Wp (recognizeDue commerce s now) (fun _ t => RevenueKeys t ∧ t = withEntries db (dueRows db s now)) db := by
  have left : ∀ p ∈ periodsOf db s.id, 0 ≤ netEarning p (entriesOf db p.id) := by
    intro p hp
    have bounds := refundTarget_bounds s _ captured table cumulative fits p hp
    rw [ledger_net p _ cumulative _ (settled.ledgers p hp)]
    omega
  have rows : ((periodsOf db s.id).filter (fun p => p.dueAt ≤ now)).forM (fun p => recognizePeriod commerce p (entriesOf db p.id)) =
      (dueRows db s now).forM (insertEntry commerce) := by
    have each : ∀ p ∈ (periodsOf db s.id).filter (fun p => p.dueAt ≤ now),
        recognizePeriod commerce p (entriesOf db p.id) = createEntry commerce (recognition p (entriesOf db p.id)) := by
      intro p member
      have low := left p (List.mem_filter.mp member).1
      funext t
      refine require_bind_run _ _ _ t (fun unrecognized => ?_)
      simpa [netEarning, unrecognized] using low
    rw [forM_congr _ _ _ each, createEntries_eq, List.filterMap_filter]
    congr 1
    refine List.filterMap_congr (fun p _ => ?_)
    simp only [decide_eq_true_eq]
  have entries : ∀ e ∈ dueRows db s now, EntryFits commerce db e := by
    intro e member
    obtain ⟨p, hp, given⟩ := List.mem_filterMap.mp member
    by_cases due : p.dueAt ≤ now
    · rw [if_pos due] at given
      obtain ⟨_, of, key, source, kind, amount⟩ := recognition_some p _ e given
      refine ⟨fun _ => by rw [amount]; exact left p hp, by rw [source, kind]; rfl, fun refund => ?_,
        ⟨p, ((mem_periodsOf db s.id p).mp hp).1, of.symm⟩, Or.inl ⟨by rw [of]; exact key, kind⟩⟩
      rw [kind] at refund
      cases refund
    · rw [if_neg due] at given
      cases given
  have unique := dueRows_unique db s table keys now
  unfold recognizeDue
  rw [wp_bind, wp_get, rows]
  refine wp_mono _ _ (insertEntries_wp commerce db _ entries unique) (fun _ t same => ⟨?_, same⟩)
  rw [same]
  exact withEntries_keys commerce db keys _ entries unique

end Adjustments

section Creation

variable (commerce : CommerceDb) (db : RevenueDb) (s : RevenueOrderSnapshot) (r : RevenueRun)

def withPeriods (db : RevenueDb) (rows : List EarningPeriodRow) : RevenueDb :=
  { db with periods := db.periods ++ rows }

theorem insertPeriods_wp (rows : List EarningPeriodRow) (stored : ∃ s ∈ db.snapshots, ∀ p ∈ rows, s.id = p.snapshotId)
    (nonneg : ∀ p ∈ rows, 0 ≤ p.amountMinor) (ids : UniqueKey (fun p => some p.id) (db.periods ++ rows))
    (indexes : UniqueKey (fun p => some (p.snapshotId, p.courseId, p.periodIndex)) (db.periods ++ rows)) :
    Wp (rows.forM insertPeriod) (fun _ t => t = withPeriods db rows) db := by
  have all : Wp (rows.forM insertPeriod) (fun _ t => t = withPeriods db rows) (withPeriods db []) := by
    refine wp_inserts insertPeriod (withPeriods db) rows (fun done p rest split => ?_)
    have listed : p ∈ rows := by simp [split]
    rw [split, ← List.append_assoc] at ids indexes
    obtain ⟨s, hs, own⟩ := stored
    simp only [insertPeriod, wp_bind, wp_get, wp_require, wp_modify]
    refine ⟨nonneg p listed, List.any_eq_true.mpr ⟨s, hs, decide_eq_true (own p listed)⟩, unique_split _ _ rest p ids,
      unique_split _ _ rest p indexes, ?_⟩
    simp only [withPeriods, List.append_assoc]
  simpa [withPeriods] using all

def participantPeriods (monthly : List (List AllocatedAmount)) (due : Nat → Instant) (p : Participant) : List EarningPeriodRow :=
  (monthly.map (fun parts => shareOf parts p.courseId)).zipIdx.map (fun x => earningPeriod r s p x (due x.2))

def termPeriods (monthly : List (List AllocatedAmount)) (due : Nat → Instant) : List EarningPeriodRow :=
  s.participants.flatMap (participantPeriods s r monthly due)

def drawnIds (months : Nat) : List Uuid :=
  s.participants.flatMap (fun p => (List.range months).map (r.periodId p.courseId))

variable (monthly : List (List AllocatedAmount)) (due : Nat → Instant)

theorem participantPeriods_ids (p : Participant) :
    (participantPeriods s r monthly due p).map (·.id) = (List.range monthly.length).map (r.periodId p.courseId) := by
  have indices : (monthly.map (fun parts => shareOf parts p.courseId)).zipIdx.map Prod.snd = List.range monthly.length := by
    rw [List.zipIdx_map_snd, List.length_map, List.range_eq_range']
  unfold participantPeriods
  rw [List.map_map, ← indices, List.map_map]
  rfl

theorem termPeriods_ids : (termPeriods s r monthly due).map (·.id) = drawnIds s r monthly.length := by
  unfold termPeriods drawnIds
  rw [List.map_flatMap]
  simp only [participantPeriods_ids]

theorem mem_termPeriods (p : EarningPeriodRow) (hp : p ∈ termPeriods s r monthly due) : p.snapshotId = s.id ∧
    ∃ x ∈ s.participants, p.courseId = x.courseId ∧ ∃ parts ∈ monthly, p.amountMinor = shareOf parts x.courseId := by
  obtain ⟨x, hx, own⟩ := List.mem_flatMap.mp hp
  obtain ⟨y, hy, rfl⟩ := List.mem_map.mp own
  have value := List.fst_mem_of_mem_zipIdx hy
  obtain ⟨parts, hparts, same⟩ := List.mem_map.mp value
  exact ⟨rfl, x, hx, rfl, parts, hparts, same.symm⟩

theorem termPeriods_indexes (courses : (s.participants.map (·.courseId)).Nodup) :
    UniqueKey (fun p => some (p.snapshotId, p.courseId, p.periodIndex)) (termPeriods s r monthly due) := by
  have keys : (termPeriods s r monthly due).filterMap (fun p => some (p.snapshotId, p.courseId, p.periodIndex)) =
      s.participants.flatMap (fun x => (List.range monthly.length).map (fun index => (s.id, x.courseId, index))) := by
    rw [List.filterMap_eq_map', termPeriods, List.map_flatMap]
    refine List.flatMap_congr (fun x _ => ?_)
    have indices : (monthly.map (fun parts => shareOf parts x.courseId)).zipIdx.map Prod.snd = List.range monthly.length := by
      rw [List.zipIdx_map_snd, List.length_map, List.range_eq_range']
    unfold participantPeriods
    rw [List.map_map, ← indices, List.map_map]
    rfl
  unfold UniqueKey
  rw [keys]
  generalize s.participants = participants at courses
  induction participants with
  | nil => simp
  | cons x rest ih =>
      rw [List.map_cons, List.nodup_cons] at courses
      rw [List.flatMap_cons, List.nodup_append]
      refine ⟨?_, ih courses.2, ?_⟩
      · exact List.nodup_range.map (fun i j same => (Prod.mk.inj (Prod.mk.inj same).2).2)
      · intro key hkey key' hkey' same
        obtain ⟨i, _, rfl⟩ := List.mem_map.mp hkey
        obtain ⟨y, hy, inRest⟩ := List.mem_flatMap.mp hkey'
        obtain ⟨j, _, rfl⟩ := List.mem_map.mp inRest
        have course : x.courseId = y.courseId := (Prod.mk.inj (Prod.mk.inj same).2).1
        exact courses.1 (course ▸ List.mem_map_of_mem hy)

variable (captured : Captured s) (months : Nat) (shape : MonthlyTable s.shares s.shares months monthly)

theorem participantPeriods_total (p : Participant) :
    total (·.amountMinor) (participantPeriods s r monthly due p) = total (fun parts => shareOf parts p.courseId) monthly := by
  have values : (monthly.map (fun parts => shareOf parts p.courseId)).zipIdx.map Prod.fst =
      monthly.map (fun parts => shareOf parts p.courseId) := List.zipIdx_map_fst 0 _
  unfold participantPeriods
  rw [total_map]
  simp only [earningPeriod, periodRow]
  have summed := congrArg (total id) values
  rw [total_map, total_map] at summed
  exact summed

include captured shape in
theorem termPeriods_table (drawn : (drawnIds s r monthly.length).Nodup) : TermTable s (termPeriods s r monthly due) := by
  refine ⟨by rw [termPeriods_ids]; exact drawn, fun p hp => ?_, fun p hp => ?_, fun x hx => ?_⟩
  · obtain ⟨_, x, _, _, parts, hparts, amount⟩ := mem_termPeriods s r monthly due p hp
    rw [amount]
    exact shape.nonneg parts hparts x.courseId
  · obtain ⟨_, x, hx, course, _⟩ := mem_termPeriods s r monthly due p hp
    rw [course]
    exact List.mem_map_of_mem hx
  · have own : ∀ y ∈ s.participants, total (fun p => if p.courseId = x.courseId then p.amountMinor else 0)
        (participantPeriods s r monthly due y) = if y.courseId = x.courseId then y.amountMinor else 0 := by
      intro y hy
      have column : total (fun parts => shareOf parts y.courseId) monthly = y.amountMinor := shape.columns _ (participant_share s y hy)
      have courses : ∀ p ∈ participantPeriods s r monthly due y, p.courseId = y.courseId := by
        intro p hp
        obtain ⟨z, _, rfl⟩ := List.mem_map.mp hp
        rfl
      by_cases same : y.courseId = x.courseId
      · rw [if_pos same, ← column, ← participantPeriods_total s r monthly due y]
        refine total_congr _ _ _ (fun p hp => if_pos ?_)
        rw [courses p hp, same]
      · rw [if_neg same]
        refine total_zero _ _ (fun p hp => if_neg ?_)
        rw [courses p hp]
        exact same
    unfold groupOf
    rw [total_filter]
    simp only [decide_eq_true_eq]
    rw [termPeriods, total_flatMap, total_congr _ _ _ own]
    exact total_one s.participants (fun y : Participant => y.courseId) (fun y => y.amountMinor) (courses_distinct s captured) x hx

end Creation

structure TermDated (term : EarningTerm) : Prop where
  positive : 1 ≤ term.months
  bounded : term.months ≤ 1200
  dates : ∃ due : Nat → Instant, ∀ index < term.months, periodDue term index = .ok (due index)

theorem course_dated (startsAt : Instant) : TermDated { months := 1, startsAt := startsAt, expiresAt := none } :=
  { positive := Nat.le_refl 1
    bounded := by
      have bounded : 1 ≤ 1200 := by decide
      exact bounded
    dates := ⟨fun _ => startsAt, fun _ _ => rfl⟩ }

theorem membership_dated (months : Nat) (startsAt expiresAt : Instant) (bounded : months ≤ 1200)
    (expiry : addCalendarMonths (some startsAt) months = .ok (some expiresAt)) :
    TermDated { months := months, startsAt := startsAt, expiresAt := some expiresAt } := by
  have positive := ((addCalendarMonths_ok startsAt months expiresAt).mp expiry).1
  have one : 1 ≤ months := by omega
  exact ⟨one, bounded, _, fun index within => dueDate_at startsAt months expiresAt expiry index within⟩

section Ensure

variable (commerce : CommerceDb) (db : RevenueDb) (s : RevenueOrderSnapshot) (r : RevenueRun) (order : CommerceOrder)

theorem createEarningPeriods_eq (term : EarningTerm) (monthly : List (List AllocatedAmount))
    (given : monthlyRevenueShares s.shares term.months = .ok monthly) (length : monthly.length = term.months) (due : Nat → Instant)
    (dates : ∀ index < term.months, periodDue term index = .ok (due index)) :
    createEarningPeriods r s term = (termPeriods s r monthly due).forM insertPeriod := by
  unfold createEarningPeriods termPeriods
  rw [ofResult_bind _ monthly given, forM_flatMap]
  refine forM_congr _ _ _ (fun p _ => ?_)
  unfold createParticipantPeriods participantPeriods
  rw [List.forM_eq_forM, List.forM_eq_forM, List.forM_map]
  refine forM_congr _ _ _ (fun x member => ?_)
  have within : x.2 < term.months := by
    have := List.snd_lt_of_mem_zipIdx member
    rw [List.length_map, length] at this
    omega
  exact ofResult_bind _ (due x.2) (dates x.2 within) _

structure FreshIds (months : Nat) : Prop where
  distinct : (drawnIds s r months).Nodup
  unused : ∀ id ∈ drawnIds s r months, ∀ p ∈ db.periods, p.id ≠ id

def Ready : Prop :=
  periodsOf db s.id = [] → s.participants ≠ [] → (earningTerm commerce r s order).isSome = true

theorem withPeriods_keys (keys : RevenueKeys db) (none : periodsOf db s.id = []) (monthly : List (List AllocatedAmount))
    (due : Nat → Instant) (fresh : FreshIds db s r monthly.length) (courses : (s.participants.map (·.courseId)).Nodup) :
    RevenueKeys (withPeriods db (termPeriods s r monthly due)) := by
  refine ⟨?_, ?_, keys.entries, fun e member => ?_, keys.named⟩
  · refine unique_append_rows _ _ _ keys.periods ?_ ?_
    · have distinct := fresh.distinct
      rw [← termPeriods_ids s r monthly due] at distinct
      unfold UniqueKey
      rw [List.filterMap_eq_map']
      exact distinct
    · intro p hp q hq k keyed keyed'
      have drawn : q.id ∈ drawnIds s r monthly.length := by
        rw [← termPeriods_ids s r monthly due]
        exact List.mem_map_of_mem hq
      exact fresh.unused q.id drawn p hp (Option.some.inj (keyed.trans keyed'.symm))
  · refine unique_append_rows _ _ _ keys.indexes (termPeriods_indexes s r monthly due courses) ?_
    intro p hp q hq k keyed keyed'
    have same := Option.some.inj (keyed.trans keyed'.symm)
    have own : p.snapshotId = s.id := (Prod.mk.inj same).1.trans (mem_termPeriods s r monthly due q hq).1
    have listed : p ∈ periodsOf db s.id := (mem_periodsOf db s.id p).mpr ⟨hp, own⟩
    rw [none] at listed
    cases listed
  · obtain ⟨p, hp, named⟩ := keys.posted e member
    exact ⟨p, List.mem_append_left _ hp, named⟩

theorem withPeriods_periodsOf (none : periodsOf db s.id = []) (monthly : List (List AllocatedAmount)) (due : Nat → Instant) :
    periodsOf (withPeriods db (termPeriods s r monthly due)) s.id = termPeriods s r monthly due := by
  unfold periodsOf at none ⊢
  simp only [withPeriods]
  rw [List.filter_append, none, List.nil_append, List.filter_eq_self]
  intro p hp
  exact decide_eq_true (mem_termPeriods s r monthly due p hp).1

theorem withPeriods_settled (captured : Captured s) (keys : RevenueKeys db) (none : periodsOf db s.id = [])
    (monthly : List (List AllocatedAmount)) (due : Nat → Instant) (fresh : FreshIds db s r monthly.length)
    (table : TermTable s (termPeriods s r monthly due)) (cumulative : Int) (nothing : cumulative ≤ 0) :
    Settled (withPeriods db (termPeriods s r monthly due)) s cumulative := by
  have listed := withPeriods_periodsOf db s r none monthly due
  refine ⟨fun _ => by rw [listed]; exact table, fun p hp => ?_⟩
  rw [listed] at hp ⊢
  have empty : entriesOf (withPeriods db (termPeriods s r monthly due)) p.id = [] := by
    have unposted : entriesOf db p.id = [] := by
      unfold entriesOf
      rw [List.filter_eq_nil_iff]
      intro e member of
      obtain ⟨q, hq, named⟩ := keys.posted e member
      have drawn : p.id ∈ drawnIds s r monthly.length := by
        rw [← termPeriods_ids s r monthly due]
        exact List.mem_map_of_mem hp
      exact fresh.unused p.id drawn q hq (named.trans (of_decide_eq_true of))
    exact unposted
  rw [empty, refundTarget_none s _ captured table cumulative nothing p hp]
  exact ⟨rfl, fun earned => (by cases earned), fun _ => rfl, fun e member => (by cases member)⟩

theorem termPeriods_some (monthly : List (List AllocatedAmount)) (due : Nat → Instant) (one : 1 ≤ monthly.length)
    (some' : s.participants ≠ []) : termPeriods s r monthly due ≠ [] := by
  intro empty
  obtain ⟨x, rest, split⟩ := List.exists_cons_of_ne_nil some'
  have ids := termPeriods_ids s r monthly due
  have drawn : r.periodId x.courseId 0 ∈ drawnIds s r monthly.length := by
    unfold drawnIds
    rw [List.mem_flatMap]
    exact ⟨x, by simp [split], List.mem_map_of_mem (List.mem_range.mpr (by omega))⟩
  rw [← ids, empty] at drawn
  cases drawn

structure Created (db u : RevenueDb) (s : RevenueOrderSnapshot) (later : Int) : Prop where
  keys : RevenueKeys u
  snapshots : u.snapshots = db.snapshots
  table : TermTable s (periodsOf u s.id)
  settled : ∃ earlier, earlier ≤ later ∧ Settled u s earlier
  made : periodsOf u s.id = [] → s.participants = []
  kept : periodsOf db s.id ≠ [] ∨ s.participants = [] → u = db

theorem ensurePeriods_wp (captured : Captured s) (keys : RevenueKeys db) (stored : s ∈ db.snapshots) (cumulative later : Int)
    (grown : cumulative ≤ later) (settled : Settled db s cumulative)
    (due : periodsOf db s.id = [] → s.participants ≠ [] → ∀ term, earningTerm commerce r s order = some term →
      TermDated term ∧ FreshIds db s r term.months) :
    Wp (ensurePeriods commerce r s order) (fun ready u => (ready = true ↔ Ready commerce db s r order) ∧
      (ready = false → u = db) ∧ (ready = true → Created db u s later)) db := by
  unfold ensurePeriods Ready
  rw [wp_bind, wp_get]
  refine (wp_ite _ _ _ _ _).mpr ⟨fun absent => ?_, fun present => ?_⟩
  · obtain ⟨none, some'⟩ := absent
    cases found : earningTerm commerce r s order with
    | none =>
        dsimp only
        rw [wp_pure]
        exact ⟨⟨fun h => (by cases h), fun ready => (by cases ready none some')⟩, fun _ => rfl, fun h => (by cases h)⟩
    | some term =>
        obtain ⟨dated, fresh⟩ := due none some' term found
        obtain ⟨due, dates⟩ := dated.dates
        obtain ⟨monthly, given, shape⟩ := monthlyRevenueShares_ok s.shares term.months captured.distinct captured.nonneg dated.positive
          dated.bounded
        have one : 1 ≤ monthly.length := by
          rw [shape.length]
          exact dated.positive
        rw [← shape.length] at fresh
        have keys' := withPeriods_keys db s r keys none monthly due fresh (courses_distinct s captured)
        have table := termPeriods_table s r monthly due captured term.months shape fresh.distinct
        have listed := withPeriods_periodsOf db s r none monthly due
        dsimp only
        rw [wp_bind, createEarningPeriods_eq s r term monthly given shape.length due dates]
        refine wp_mono _ _ (insertPeriods_wp db _ ⟨s, stored, fun p hp => (mem_termPeriods s r monthly due p hp).1.symm⟩ table.nonneg
          keys'.periods keys'.indexes) ?_
        rintro _ u rfl
        rw [wp_pure]
        refine ⟨⟨fun _ _ _ => rfl, fun _ => rfl⟩, fun h => (by cases h), fun _ => ?_⟩
        exact {
          keys := keys'
          snapshots := rfl
          table := by rw [listed]; exact table
          settled := ⟨min later 0, min_le_left _ _, withPeriods_settled db s r captured keys none monthly due fresh table _ (min_le_right _ _)⟩
          made := by
            rw [listed]
            exact fun empty => absurd empty (termPeriods_some s r monthly due one some')
          kept := by
            rintro (present | nobody)
            · exact absurd none present
            · exact absurd nobody some' }
  · have made : periodsOf db s.id = [] → s.participants = [] := by
      intro none
      by_contra some'
      exact present ⟨none, some'⟩
    rw [wp_pure]
    refine ⟨⟨fun _ none some' => absurd ⟨none, some'⟩ present, fun _ => rfl⟩, fun h => (by cases h), fun _ => ?_⟩
    exact {
      keys := keys
      snapshots := rfl
      table := by
        by_cases none : periodsOf db s.id = []
        · rw [none]
          exact ⟨by simp, fun p hp => (by cases hp), fun p hp => (by cases hp), fun x hx => (by rw [made none] at hx; cases hx)⟩
        · exact settled.table none
      settled := ⟨cumulative, grown, settled⟩
      made := made
      kept := fun _ => rfl }

def settledDb (u : RevenueDb) (s : RevenueOrderSnapshot) (cumulative : Int) (source : Option Uuid) (now : Instant) : RevenueDb :=
  let adjusted := withEntries u (refundRows u s cumulative source)
  withEntries adjusted (dueRows adjusted s now)

theorem settledDb_settled (captured : Captured s) (u : RevenueDb) (later : Int) (source : Option Uuid) (now : Instant)
    (created : Created db u s later) : Settled (settledDb u s later source now) s later := by
  obtain ⟨earlier, grown, settled⟩ := created.settled
  have adjusted := settled_refunded u s captured created.table earlier later source grown settled
  exact settled_recognized (withEntries u (refundRows u s later source)) s created.table later now adjusted

theorem settledDb_idle (u : RevenueDb) (table : TermTable s (periodsOf u s.id)) (cumulative : Int)
    (settled : Settled u s cumulative) (source : Option Uuid) (now : Instant)
    (due : ∀ p ∈ periodsOf u s.id, p.dueAt ≤ now → isRecognized (entriesOf u p.id) = true) :
    settledDb u s cumulative source now = u := by
  have unmoved : refundRows u s cumulative source = [] := by
    unfold refundRows
    rw [List.filterMap_eq_nil_iff]
    intro p member
    exact refundEntry_none _ _ _ _ _ (settled.ledgers p ((mem_grouped u s table p).mp member)).reversed
  have nothing : dueRows u s now = [] := by
    unfold dueRows
    rw [List.filterMap_eq_nil_iff]
    intro p member
    by_cases late : p.dueAt ≤ now
    · rw [if_pos late, recognition, if_pos (due p member late)]
    · rw [if_neg late]
  unfold settledDb
  dsimp only
  rw [unmoved, withEntries_none, nothing, withEntries_none]

theorem settleSnapshot_wp (captured : Captured s) (keys : RevenueKeys db) (stored : s ∈ db.snapshots) (cumulative : Int)
    (grown : cumulative ≤ recordedRefund commerce order s.id) (fits : recordedRefund commerce order s.id ≤ s.basisAmountMinor)
    (settled : Settled db s cumulative) (found : order ∈ commerce.orders) (named : order.id = s.orderId)
    (own : RefundsOfOrder commerce order)
    (due : periodsOf db s.id = [] → s.participants ≠ [] → ∀ term, earningTerm commerce r s order = some term →
      TermDated term ∧ FreshIds db s r term.months) :
    Wp (settleSnapshot commerce r s order) (fun _ t =>
      (¬ Ready commerce db s r order → t = db) ∧
      (Ready commerce db s r order → ∃ u, Created db u s (recordedRefund commerce order s.id) ∧ RevenueKeys t ∧
        t = settledDb u s (recordedRefund commerce order s.id) (lastRefund commerce order s.id) r.now)) db := by
  unfold settleSnapshot
  rw [wp_bind]
  refine wp_mono _ _ (ensurePeriods_wp commerce db s r order captured keys stored cumulative _ grown settled due) ?_
  rintro ready u ⟨isReady, kept, created⟩
  refine (wp_ite _ _ _ _ _).mpr ⟨fun goes => ?_, fun waits => ?_⟩
  · have made := created goes
    obtain ⟨earlier, grown', settled'⟩ := made.settled
    have stored' : s ∈ u.snapshots := by
      rw [made.snapshots]
      exact stored
    rw [wp_bind]
    refine wp_mono _ _ (adjustRefunds_wp commerce u s order captured made.table made.keys earlier settled' grown' found named stored'
      own fits) ?_
    rintro _ v ⟨keys', rfl⟩
    have adjusted := settled_refunded u s captured made.table earlier _ (lastRefund commerce order s.id) grown' settled'
    have table : TermTable s (periodsOf (withEntries u (refundRows u s (recordedRefund commerce order s.id)
        (lastRefund commerce order s.id))) s.id) := made.table
    refine wp_mono _ _ (recognizeDue_wp commerce _ s captured table keys' _ adjusted r.now fits) ?_
    rintro _ t ⟨keys'', rfl⟩
    exact ⟨fun blocked => absurd (isReady.mp goes) blocked, fun _ => ⟨u, made, keys'', rfl⟩⟩
  · have unready : ready = false := by simpa using waits
    rw [wp_pure]
    exact ⟨fun _ => kept unready, fun goes => absurd (isReady.mpr goes) waits⟩

end Ensure

end EduAi.Revenue
