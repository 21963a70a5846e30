import EduAi.Revenue.PeriodLedger

set_option autoImplicit false

namespace EduAi.Revenue

open EduAi.Store EduAi.Gds EduAi.Commerce EduAi.Payments

structure RevenueKeys (db : RevenueDb) : Prop where
  periods : UniqueKey (fun p => some p.id) db.periods
  indexes : UniqueKey (fun p => some (p.snapshotId, p.courseId, p.periodIndex)) db.periods
  entries : UniqueKey (fun e => some e.sourceKey) db.entries
  posted : ∀ e ∈ db.entries, ∃ p ∈ db.periods, p.id = e.periodId
  named : ∀ e ∈ db.entries, (e.sourceKey = .recognize e.periodId ∧ e.kind = .recognized) ∨ ∃ c, e.sourceKey = .refund e.periodId c

def withEntries (db : RevenueDb) (rows : List RevenueLedgerEntry) : RevenueDb :=
  { db with entries := db.entries ++ rows }

@[simp] theorem withEntries_periods (db : RevenueDb) (rows : List RevenueLedgerEntry) : (withEntries db rows).periods = db.periods := rfl

@[simp] theorem withEntries_snapshots (db : RevenueDb) (rows : List RevenueLedgerEntry) :
    (withEntries db rows).snapshots = db.snapshots := rfl

@[simp] theorem withEntries_periodsOf (db : RevenueDb) (rows : List RevenueLedgerEntry) (id : Uuid) :
    periodsOf (withEntries db rows) id = periodsOf db id := rfl

@[simp] theorem withEntries_none (db : RevenueDb) : withEntries db [] = db := by
  simp [withEntries]

theorem entriesOf_withEntries (db : RevenueDb) (rows : List RevenueLedgerEntry) (id : Uuid) :
    entriesOf (withEntries db rows) id = entriesOf db id ++ rows.filter (fun e => e.periodId = id) := by
  simp [entriesOf, withEntries]

theorem mem_periodsOf (db : RevenueDb) (id : Uuid) (p : EarningPeriodRow) : p ∈ periodsOf db id ↔ p ∈ db.periods ∧ p.snapshotId = id := by
  simp [periodsOf]

section Inserts

variable (commerce : CommerceDb) (db : RevenueDb)

structure EntryFits (e : RevenueLedgerEntry) : Prop where
  nonneg : e.kind = .recognized → 0 ≤ e.amountMinor
  source : e.sourceRefundId.isSome = e.kind.isRefund
  refund : e.kind.isRefund = true → refundSource commerce db e = true
  period : ∃ p ∈ db.periods, p.id = e.periodId
  named : (e.sourceKey = .recognize e.periodId ∧ e.kind = .recognized) ∨ ∃ c, e.sourceKey = .refund e.periodId c

theorem insertEntries_wp (rows : List RevenueLedgerEntry) (fits : ∀ e ∈ rows, EntryFits commerce db e)
    (unique : UniqueKey (fun e => some e.sourceKey) (db.entries ++ rows)) :
    Wp (rows.forM (insertEntry commerce)) (fun _ t => t = withEntries db rows) db := by
  have all : Wp (rows.forM (insertEntry commerce)) (fun _ t => t = withEntries db rows) (withEntries db []) := by
    refine wp_inserts (insertEntry commerce) (withEntries db) rows (fun done e rest split => ?_)
    have entry := fits e (by simp [split])
    have unused : free (fun e : RevenueLedgerEntry => some e.sourceKey) e (db.entries ++ done) = true := by
      refine unique_split _ (db.entries ++ done) rest e ?_
      rwa [List.append_assoc, ← split]
    obtain ⟨p, hp, named⟩ := entry.period
    simp only [insertEntry, wp_bind, wp_get, wp_require, wp_modify]
    refine ⟨entry.nonneg, entry.source, entry.refund, List.any_eq_true.mpr ⟨p, hp, by simp [named]⟩, unused, ?_⟩
    simp only [withEntries, List.append_assoc]
  rwa [withEntries_none] at all

theorem withEntries_keys (keys : RevenueKeys db) (rows : List RevenueLedgerEntry) (fits : ∀ e ∈ rows, EntryFits commerce db e)
    (unique : UniqueKey (fun e => some e.sourceKey) (db.entries ++ rows)) : RevenueKeys (withEntries db rows) := by
  refine ⟨keys.periods, keys.indexes, unique, fun e member => ?_, fun e member => ?_⟩
  · rcases List.mem_append.mp member with old | new
    · exact keys.posted e old
    · exact (fits e new).period
  · rcases List.mem_append.mp member with old | new
    · exact keys.named e old
    · exact (fits e new).named

theorem createEntries_eq {α : Type} (entry : α → Option RevenueLedgerEntry) (rows : List α) :
    rows.forM (fun x => createEntry commerce (entry x)) = (rows.filterMap entry).forM (insertEntry commerce) := by
  induction rows with
  | nil => rfl
  | cons x rest ih =>
      rw [List.forM_eq_forM] at ih ⊢
      rw [List.forM_cons, ih]
      cases given : entry x with
      | none =>
          rw [List.filterMap_cons_none given]
          rfl
      | some e =>
          rw [List.filterMap_cons_some given]
          rfl

end Inserts

structure Settled (db : RevenueDb) (s : RevenueOrderSnapshot) (cumulative : Int) : Prop where
  table : periodsOf db s.id ≠ [] → TermTable s (periodsOf db s.id)
  ledgers : ∀ p ∈ periodsOf db s.id, PeriodLedger p (refundTarget s (periodsOf db s.id) cumulative p) cumulative (entriesOf db p.id)

section Rows

variable (db : RevenueDb) (s : RevenueOrderSnapshot)

def grouped (participants : List Participant) (periods : List EarningPeriodRow) : List EarningPeriodRow :=
  participants.flatMap (fun x => groupOf periods x.courseId)

def refundRows (cumulative : Int) (source : Option Uuid) : List RevenueLedgerEntry :=
  (grouped s.participants (periodsOf db s.id)).filterMap (fun p =>
    refundEntry cumulative source (refundTarget s (periodsOf db s.id) cumulative p) p (entriesOf db p.id))

def dueRows (now : Instant) : List RevenueLedgerEntry :=
  (periodsOf db s.id).filterMap (fun p => if p.dueAt ≤ now then recognition p (entriesOf db p.id) else none)

variable (captured : Captured s) (table : TermTable s (periodsOf db s.id))

include captured in
theorem courses_distinct : (s.participants.map (·.courseId)).Nodup := by
  have distinct := captured.distinct
  simp only [distinctIds, RevenueOrderSnapshot.shares, List.map_cons, List.map_map, List.nodup_cons] at distinct
  exact distinct.2

include table in
theorem mem_grouped (p : EarningPeriodRow) : p ∈ grouped s.participants (periodsOf db s.id) ↔ p ∈ periodsOf db s.id := by
  unfold grouped
  rw [List.mem_flatMap]
  constructor
  · rintro ⟨x, _, inGroup⟩
    exact ((mem_groupOf _ _ p).mp inGroup).1
  · intro member
    obtain ⟨x, hx, course⟩ := List.mem_map.mp (table.listed p member)
    exact ⟨x, hx, (mem_groupOf _ _ p).mpr ⟨member, course.symm⟩⟩

theorem grouped_distinct (participants : List Participant) (courses : (participants.map (·.courseId)).Nodup)
    (periods : List EarningPeriodRow) (distinct : (periods.map (·.id)).Nodup) : ((grouped participants periods).map (·.id)).Nodup := by
  induction participants with
  | nil => simp [grouped]
  | cons x rest ih =>
      rw [List.map_cons, List.nodup_cons] at courses
      simp only [grouped, List.flatMap_cons, List.map_append, List.nodup_append]
      refine ⟨(List.filter_sublist.map (fun p : EarningPeriodRow => p.id)).nodup distinct, ih courses.2, ?_⟩
      intro id hid id' hid' same
      obtain ⟨p, hp, rfl⟩ := List.mem_map.mp hid
      obtain ⟨q, hq, rfl⟩ := List.mem_map.mp hid'
      obtain ⟨y, hy, inGroup⟩ := List.mem_flatMap.mp hq
      obtain ⟨inPeriods, course⟩ := (mem_groupOf periods x.courseId p).mp hp
      obtain ⟨inPeriods', course'⟩ := (mem_groupOf periods y.courseId q).mp inGroup
      obtain rfl := List.inj_on_of_nodup_map distinct inPeriods inPeriods' same
      exact courses.1 (by rw [← course, course']; exact List.mem_map_of_mem hy)

theorem refundEntry_some (cumulative target : Int) (source : Option Uuid) (p : EarningPeriodRow) (entries : List RevenueLedgerEntry)
    (e : RevenueLedgerEntry) (given : refundEntry cumulative source target p entries = some e) :
    reversed entries ≠ target ∧ e.periodId = p.id ∧ e.sourceKey = .refund p.id cumulative ∧ e.sourceRefundId = source ∧
      e.kind.isRefund = true := by
  unfold refundEntry at given
  dsimp only at given
  by_cases same : target - reversed entries = 0
  · rw [if_neg (by simpa using same)] at given
    cases given
  · rw [if_pos same] at given
    cases given
    refine ⟨by omega, rfl, rfl, rfl, ?_⟩
    cases isRecognized entries <;> rfl

theorem refundEntry_none (cumulative target : Int) (source : Option Uuid) (p : EarningPeriodRow) (entries : List RevenueLedgerEntry)
    (same : reversed entries = target) : refundEntry cumulative source target p entries = none := by
  unfold refundEntry
  dsimp only
  rw [if_neg (by omega)]

theorem recognition_some (p : EarningPeriodRow) (entries : List RevenueLedgerEntry) (e : RevenueLedgerEntry)
    (given : recognition p entries = some e) :
    isRecognized entries = false ∧ e.periodId = p.id ∧ e.sourceKey = .recognize p.id ∧ e.sourceRefundId = none ∧
      e.kind = .recognized ∧ e.amountMinor = netEarning p entries := by
  unfold recognition at given
  cases before : isRecognized entries with
  | true =>
      rw [before, if_pos rfl] at given
      cases given
  | false =>
      rw [before, if_neg (by simp)] at given
      cases given
      exact ⟨rfl, rfl, rfl, rfl, rfl, by simp [netEarning, before]⟩

include captured table in
theorem entries_refunded (cumulative : Int) (source : Option Uuid) (p : EarningPeriodRow) (hp : p ∈ periodsOf db s.id) :
    entriesOf (withEntries db (refundRows db s cumulative source)) p.id =
      entriesOf db p.id ++ (refundEntry cumulative source (refundTarget s (periodsOf db s.id) cumulative p) p (entriesOf db p.id)).toList := by
  rw [entriesOf_withEntries]
  congr 1
  refine filter_filterMap_own (fun p : EarningPeriodRow => p.id) (fun e : RevenueLedgerEntry => e.periodId) _ _ ?_
    (grouped_distinct s.participants (courses_distinct s captured) _ table.distinct) p ((mem_grouped db s table p).mpr hp)
  intro q e given
  exact (refundEntry_some _ _ _ _ _ e given).2.1

include table in
theorem entries_recognized (now : Instant) (p : EarningPeriodRow) (hp : p ∈ periodsOf db s.id) :
    entriesOf (withEntries db (dueRows db s now)) p.id =
      entriesOf db p.id ++ (if p.dueAt ≤ now then recognition p (entriesOf db p.id) else none).toList := by
  rw [entriesOf_withEntries]
  congr 1
  refine filter_filterMap_own (fun p : EarningPeriodRow => p.id) (fun e : RevenueLedgerEntry => e.periodId) _ _ ?_ table.distinct p hp
  intro q e given
  by_cases due : q.dueAt ≤ now
  · rw [if_pos due] at given
    exact (recognition_some q _ e given).2.1
  · rw [if_neg due] at given
    cases given

include captured table in
theorem settled_refunded (cumulative later : Int) (source : Option Uuid) (grown : cumulative ≤ later) (settled : Settled db s cumulative) :
    Settled (withEntries db (refundRows db s later source)) s later := by
  refine ⟨fun _ => table, fun p hp => ?_⟩
  rw [withEntries_periodsOf] at hp ⊢
  rw [entries_refunded db s captured table later source p hp]
  exact ledger_refunded p _ cumulative _ later _ source grown (settled.ledgers p hp)

include table in
theorem settled_recognized (cumulative : Int) (now : Instant) (settled : Settled db s cumulative) :
    Settled (withEntries db (dueRows db s now)) s cumulative := by
  refine ⟨fun _ => table, fun p hp => ?_⟩
  rw [withEntries_periodsOf] at hp ⊢
  rw [entries_recognized db s table now p hp]
  by_cases due : p.dueAt ≤ now
  · rw [if_pos due]
    exact ledger_recognized p _ cumulative _ (settled.ledgers p hp)
  · rw [if_neg due, Option.toList_none, List.append_nil]
    exact settled.ledgers p hp

variable (keys : RevenueKeys db)

include captured table keys in
theorem refundRows_unique (cumulative later : Int) (source : Option Uuid) (grown : cumulative ≤ later) (settled : Settled db s cumulative) :
    UniqueKey (fun e => some e.sourceKey) (db.entries ++ refundRows db s later source) := by
  have distinct := grouped_distinct s.participants (courses_distinct s captured) _ table.distinct
  refine unique_append_rows _ _ _ keys.entries ?_ ?_
  · refine unique_filterMap (fun p : EarningPeriodRow => p.id) (fun id => LedgerSource.refund id later) _ _ _ ?_ ?_ distinct
    · intro p _ e given
      rw [(refundEntry_some _ _ _ _ _ e given).2.2.1]
    · intro id id' same
      exact (LedgerSource.refund.inj same).1
  · intro e member e' new k keyed keyed'
    obtain ⟨p, hp, given⟩ := List.mem_filterMap.mp new
    obtain ⟨unsettled, _, key, _, _⟩ := refundEntry_some _ _ _ _ _ e' given
    have listed := (mem_grouped db s table p).mp hp
    have same : e.sourceKey = .refund p.id later := (Option.some.inj keyed).trans ((Option.some.inj keyed').symm.trans key)
    have own : e.periodId = p.id := by
      rcases keys.named e member with ⟨recognized, _⟩ | ⟨c, refund⟩
      · rw [recognized] at same
        cases same
      · rw [refund] at same
        exact (LedgerSource.refund.inj same).1
    have ledger := settled.ledgers p listed
    have before := ledger.earlier e (List.mem_filter.mpr ⟨member, by simp [own]⟩) p.id later same
    obtain rfl : cumulative = later := Int.le_antisymm grown before
    exact unsettled ledger.reversed

include table keys in
theorem dueRows_unique (now : Instant) : UniqueKey (fun e => some e.sourceKey) (db.entries ++ dueRows db s now) := by
  have entry : ∀ (p : EarningPeriodRow) e, (if p.dueAt ≤ now then recognition p (entriesOf db p.id) else none) = some e →
      recognition p (entriesOf db p.id) = some e := by
    intro p e given
    by_cases due : p.dueAt ≤ now
    · rwa [if_pos due] at given
    · rw [if_neg due] at given
      cases given
  refine unique_append_rows _ _ _ keys.entries ?_ ?_
  · refine unique_filterMap (fun p : EarningPeriodRow => p.id) LedgerSource.recognize _ _ _ ?_ ?_ table.distinct
    · intro p _ e given
      rw [(recognition_some p _ e (entry p e given)).2.2.1]
    · intro id id' same
      exact LedgerSource.recognize.inj same
  · intro e member e' new k keyed keyed'
    obtain ⟨p, hp, given⟩ := List.mem_filterMap.mp new
    obtain ⟨unrecognized, _, key, _⟩ := recognition_some p _ e' (entry p e' given)
    have same : e.sourceKey = .recognize p.id := (Option.some.inj keyed).trans ((Option.some.inj keyed').symm.trans key)
    rcases keys.named e member with ⟨recognized, kind⟩ | ⟨c, refund⟩
    · rw [recognized] at same
      have own : e.periodId = p.id := LedgerSource.recognize.inj same
      have earned : isRecognized (entriesOf db p.id) = true :=
        List.any_eq_true.mpr ⟨e, List.mem_filter.mpr ⟨member, by simp [own]⟩, by simp [kind]⟩
      rw [unrecognized] at earned
      cases earned
    · rw [refund] at same
      cases same

end Rows

end EduAi.Revenue
