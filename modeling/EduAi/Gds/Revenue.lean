import EduAi.Gds.Withdrawals

set_option autoImplicit false

namespace EduAi.Gds

open EduAi.Store

def createEarningPeriod (row : RevenueEarningPeriod) : GdsTxn Unit := do
  let db ← get
  require (0 ≤ row.amountMinor) (.check "revenue_earning_periods_bounds")
  require (free (fun p => some p.id) row db.periods) (.unique "revenue_earning_periods_pkey")
  modify (fun db => { db with periods := db.periods ++ [row] })

def createLedgerEntry (row : RevenueLedgerEntry) : GdsTxn Unit := do
  let db ← get
  require (db.periods.any (fun p => p.id = row.periodId)) (.foreignKey "revenue_ledger_entries_period_id_fkey")
  require (row.kind = .recognized → 0 ≤ row.amountMinor) (.check "revenue_ledger_entries_kind")
  require (free (fun e => some e.sourceKey) row db.ledgerEntries) (.unique "revenue_ledger_entries_source_key_key")
  modify (fun db => { db with ledgerEntries := db.ledgerEntries ++ [row] })

def recognizedMinor (db : GdsDb) (periodId : Uuid) : Int :=
  total (fun e => if e.periodId = periodId ∧ e.kind = .recognized then e.amountMinor else 0) db.ledgerEntries

def recognizedNetMinor (db : GdsDb) (periodId : Uuid) : Int :=
  total (fun e => if e.periodId = periodId ∧ e.kind ≠ .refundPending then e.amountMinor else 0) db.ledgerEntries

def historicPeriod (db : GdsDb) (periodId : Uuid) : Bool :=
  db.ledgerEntries.any (fun e => e.periodId = periodId ∧ e.kind = .recognized ∧ e.createdAt ≤ db.settings.revenueCutoffAt)

def createProjection (row : RevenueProjection) : GdsTxn Unit := do
  let db ← get
  require (db.periods.any (fun p => p.id = row.periodId ∧
      db.wallets.any (fun w => w.id = row.walletId ∧ w.buyerId = p.sellerId)) ∧
      row.appliedNetMinor = 0 ∧ row.historicalPaidMinor = 0 ∧ row.revision = 0 ∧
      row.reviewRequired = historicPeriod db row.periodId ∧ row.reviewedAt = none ∧ row.reviewedById = none)
    (.raised "GDS revenue projection invalid source")
  require (free (fun p => some p.id) row db.projections) (.unique "gds_revenue_projections_pkey")
  require (free (fun p => some p.periodId) row db.projections) (.unique "gds_revenue_projections_period_id_key")
  modify (fun db => { db with projections := db.projections ++ [row] })

def reviewKept (old new : RevenueProjection) : Prop :=
  new.historicalPaidMinor = old.historicalPaidMinor ∧ new.reviewRequired = old.reviewRequired ∧
  new.reviewedAt = old.reviewedAt ∧ new.reviewedById = old.reviewedById

instance (old new : RevenueProjection) : Decidable (reviewKept old new) := by
  unfold reviewKept
  infer_instance

def reviewAccepted (db : GdsDb) (old new : RevenueProjection) : Prop :=
  new.reviewedById.isSome ∧ new.reviewedAt.isSome ∧ nonblank new.reviewReason ∧
  new.historicalPaidMinor ≤ recognizedMinor db old.periodId ∧
  ¬ db.wallets.any (fun w => w.id = new.walletId ∧ some w.buyerId = new.reviewedById)

instance (db : GdsDb) (old new : RevenueProjection) : Decidable (reviewAccepted db old new) := by
  unfold reviewAccepted
  infer_instance

def replaceProjection (new : RevenueProjection) (db : GdsDb) : GdsDb :=
  { db with projections := updateWhere (fun p => p.id = new.id) (fun _ => new) db.projections }

-- An update of the application, at trigger depth one: only the review columns may change, and once.
def updateProjection (new : RevenueProjection) : GdsTxn Unit := do
  let db ← get
  let old ← orThrow (projectionById db new.id) (.missingRow "gds_revenue_projections")
  require (new.periodId = old.periodId ∧ new.walletId = old.walletId ∧ new.appliedNetMinor = old.appliedNetMinor ∧
      new.revision = old.revision)
    (.raised "GDS revenue projection is effect-controlled")
  require (old.reviewedAt.isSome → reviewKept old new ∧ new.reviewReason = old.reviewReason)
    (.raised "GDS revenue review is immutable")
  if old.reviewRequired ∧ !new.reviewRequired then
    require (reviewAccepted db old new) (.raised "GDS revenue review invalid")
  else
    require (reviewKept old new) (.raised "GDS revenue review invalid transition")
  require (0 ≤ new.historicalPaidMinor) (.check "gds_revenue_projections_historical_paid_minor_check")
  modify (replaceProjection new)

structure RevenueSplit where
  delta : Int
  cash : Int
  debt : Int
deriving DecidableEq, Repr

def revenueSplit (target : Int) (p : RevenueProjection) (w : Wallet) : RevenueSplit :=
  let delta := target - p.historicalPaidMinor - p.appliedNetMinor
  if 0 < delta then
    let debt := -min delta w.debtMinor
    { delta, cash := delta + debt, debt }
  else
    let cash := -min (-delta) w.availableMinor
    { delta, cash, debt := -delta + cash }

def revenuePosting (w : Wallet) (e : RevenueEffect) (cash : Int) : JournalEntry where
  walletId := w.id
  eventKey := "gds:revenue:" ++ e.id
  kind := if 0 < cash then .revenueCredit else .revenueReversal
  amountMinor := |cash|
  availableDeltaMinor := cash
  heldDeltaMinor := 0
  clearingDeltaMinor := -cash
  orderRef := some e.id

def Wallet.owing (w : Wallet) (debt : Int) : Wallet :=
  { w with debtMinor := w.debtMinor + debt }

def RevenueProjection.applied (p : RevenueProjection) (net : Int) (revision : Nat) : RevenueProjection :=
  { p with appliedNetMinor := net, revision }

def boundedPeriod (db : GdsDb) (now : Instant) (p : RevenueProjection) (target : Int) : Bool :=
  db.periods.any (fun ep => ep.id = p.periodId ∧ target ≤ ep.amountMinor ∧ ep.dueAt ≤ now)

def postRevenueSplit (now : Instant) (e : RevenueEffect) (p : RevenueProjection) (w : Wallet) (target : Int) : GdsTxn Unit := do
  let split := revenueSplit target p w
  require (e.deltaMinor = split.delta ∧ e.availableDeltaMinor = split.cash ∧ e.debtDeltaMinor = split.debt)
    (.raised "GDS revenue effect source or balance mismatch")
  modify (replaceProjection (p.applied (target - p.historicalPaidMinor) e.revision))
  require (walletChecks (w.owing split.debt)) (.check "gds_internal_wallets_debt_minor_check")
  modify (replaceWallet (w.owing split.debt))
  if split.cash ≠ 0 then insertJournal now (revenuePosting w e split.cash) else pure ()

-- settled is the answer of the join from the period to a confirmed, matched Commerce settlement. The join names a
-- column (s.id) that the snapshot table does not declare, so no answer is derived here and a run takes either one.
def gdsRevenueEffectApply (now : Instant) (settled : Bool) (e : RevenueEffect) : GdsTxn Unit := do
  let db ← get
  let p ← orThrow (projectionById db e.projectionId) (.raised "GDS revenue requires review or revision mismatch")
  require (!p.reviewRequired ∧ e.revision = p.revision + 1) (.raised "GDS revenue requires review or revision mismatch")
  let w ← orThrow (walletById db p.walletId) (.missingRow "gds_internal_wallets")
  let target := recognizedNetMinor db p.periodId
  require (0 ≤ target ∧ boundedPeriod db now p target ∧ settled)
    (.raised "GDS revenue requires verified settlement and bounded recognized amount")
  postRevenueSplit now e p w target

def recordEffect (e : RevenueEffect) (db : GdsDb) : GdsDb :=
  { db with effects := db.effects ++ [e] }

def insertEffect (now : Instant) (settled : Bool) (e : RevenueEffect) : GdsTxn Unit := do
  let db ← get
  require (e.deltaMinor ≠ 0 ∧ e.availableDeltaMinor - e.debtDeltaMinor = e.deltaMinor) (.check "gds_revenue_effects")
  require (free (fun x => some x.id) e db.effects) (.unique "gds_revenue_effects_pkey")
  require (free (fun x => some (x.projectionId, x.revision)) e db.effects)
    (.unique "gds_revenue_effects_projection_id_revision_key")
  modify (recordEffect e)
  gdsRevenueEffectApply now settled e

end EduAi.Gds
