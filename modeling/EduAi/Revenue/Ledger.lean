import EduAi.Payments.DualControl
import EduAi.Payments.RefundSound
import EduAi.Revenue.DueDates
import EduAi.Revenue.RefundTargets

set_option autoImplicit false

namespace EduAi.Revenue

open EduAi.Store EduAi.Gds EduAi.Commerce EduAi.Payments

structure Recipient where
  courseId : Uuid
  sellerId : Uuid
  weight : Int
deriving DecidableEq, Repr

structure Participant extends Recipient where
  amountMinor : Int
deriving DecidableEq, Repr

structure RevenueOrderSnapshot where
  id : Uuid
  orderId : Uuid
  productType : CommerceProductType
  platformFeeBps : Int
  basisAmountMinor : Int
  platformAmountMinor : Int
  sellerAmountMinor : Int
  participants : List Participant
deriving DecidableEq, Repr

structure EarningPeriodRow extends RevenueEarningPeriod where
  id : Uuid
deriving DecidableEq, Repr

inductive LedgerSource where
  | recognize (periodId : Uuid)
  | refund (periodId : Uuid) (cumulative : Int)
deriving DecidableEq, Repr

inductive LedgerKind where
  | recognized | refundPending | refundRecognized
deriving DecidableEq, Repr

def LedgerKind.isRefund : LedgerKind → Bool
  | .recognized => false
  | .refundPending | .refundRecognized => true

structure RevenueLedgerEntry where
  periodId : Uuid
  sourceKey : LedgerSource
  sourceRefundId : Option Uuid
  kind : LedgerKind
  amountMinor : Int
deriving DecidableEq, Repr

structure RevenueDb where
  snapshots : List RevenueOrderSnapshot
  periods : List EarningPeriodRow
  entries : List RevenueLedgerEntry
deriving DecidableEq, Repr

abbrev RevenueTxn := Txn RevenueDb Fault

def captureLine (line : CommerceOrderLine) (platformFeeBps : Int) (recipients : List Recipient) : Except String RevenueOrderSnapshot := do
  let split ← splitRevenue line.finalAmountMinor platformFeeBps (recipients.map (fun p => { id := p.courseId, weight := p.weight }))
  return {
    id := line.id
    orderId := line.orderId
    productType := line.productType
    platformFeeBps := platformFeeBps
    basisAmountMinor := line.finalAmountMinor
    platformAmountMinor := split.platformAmountMinor
    sellerAmountMinor := line.finalAmountMinor - split.platformAmountMinor
    participants := recipients.map (fun p => { p with amountMinor := shareOf split.shares p.courseId }) }

def RevenueOrderSnapshot.shares (s : RevenueOrderSnapshot) : List WeightedAmount :=
  { id := "platform", weight := s.platformAmountMinor } :: s.participants.map (fun p => { id := p.courseId, weight := p.amountMinor })

section Verification

def walletVerified (db : CommerceDb) (order : CommerceOrder) (s : CommerceSettlement) : Bool :=
  (holdByOrder db order.id).any (fun h => h.status = .captured ∧ h.amountMinor = s.amountMinor ∧
    (walletById db.gds h.walletId).any (fun w => w.buyerId = order.buyerId) ∧
    (db.gds.journal.find? (fun j => j.eventKey = captureKey order.id)).any (fun j => j.kind = .capture ∧
      j.walletId = h.walletId ∧ j.amountMinor = s.amountMinor)) ∧
  s.providerSettlementReference = some (gdsOrderReference order.id) ∧ s.paymentAttemptId = none ∧ s.paymentEventId = none

def gatewayVerified (db : CommerceDb) (order : CommerceOrder) (s : CommerceSettlement) : Bool :=
  s.kind = .providerCollection ∧ s.disposition = .matched ∧ s.provider.any isPaymentProviderName ∧
  s.providerSettlementReference.any (fun reference => reference ≠ "") ∧
  (eventOfSettlement db s).any (fun e => (attemptOfSettlement db s).any (fun a =>
    a.orderId = order.id ∧ e.paymentAttemptId = a.id ∧ some a.provider = s.provider ∧ some e.provider = s.provider ∧
    a.providerPaymentIdentity.any (fun identity => identity ≠ "") ∧ a.providerOrderCode.isSome ∧
    some e.providerPaymentIdentity = a.providerPaymentIdentity ∧
    some e.providerSettlementReference = s.providerSettlementReference ∧ e.nextStatus = .paid ∧ a.status = .paid ∧
    e.amountMinor = s.amountMinor ∧ a.amountMinor = s.amountMinor ∧ a.currency = s.currency ∧ e.currency = s.currency ∧
    e.providerOccurredAt = s.settledAt))

def isVerified (deployment : Deployment) (clock : Instant) (order : CommerceOrder) : CommerceTxn Bool := do
  let db ← get
  match confirmingSettlement db order with
  | none => pure false
  | some s =>
      if order.status ≠ .confirmed ∨ s.orderId ≠ order.id ∨ s.amountMinor ≠ order.payableAmountMinor ∨ s.currency ≠ "VND" ∨
          order.currency ≠ "VND" then pure false
      else if s.kind = .noPaymentRequired then pure (order.payableAmountMinor = 0 ∧ s.disposition = .internal)
      else if s.provider = some .bankTransfer then do
        requireBankTransferProof deployment clock order.id s.id
        pure true
      else if s.kind = .walletCapture ∧ s.provider = some .gds ∧ s.disposition = .internal then pure (walletVerified db order s)
      else pure (gatewayVerified db order s)

end Verification

section Ledger

variable (commerce : CommerceDb)

def refundSource (db : RevenueDb) (e : RevenueLedgerEntry) : Bool :=
  commerce.refunds.any (fun r => some r.id = e.sourceRefundId ∧ r.status = .recorded ∧
    r.allocations.any (fun a => db.periods.any (fun p => p.id = e.periodId ∧ p.snapshotId = a.orderLineId ∧
      db.snapshots.any (fun s => s.id = p.snapshotId ∧ commerce.orders.any (fun o => o.id = s.orderId ∧
        r.orderId = o.id ∧ some r.settlementId = o.confirmedSettlementId)))))

def insertEntry (e : RevenueLedgerEntry) : RevenueTxn Unit := do
  let db ← get
  require (e.kind = .recognized → 0 ≤ e.amountMinor) (.check "revenue_ledger_entries_kind")
  require (e.sourceRefundId.isSome = e.kind.isRefund) (.check "revenue_ledger_refund_source_required")
  require (e.kind.isRefund → refundSource commerce db e)
    (.raised "revenue adjustment requires a recorded canonical refund allocated to its order line")
  require (db.periods.any (fun p => p.id = e.periodId)) (.foreignKey "revenue_ledger_entries_period_id_fkey")
  require (free (fun e => some e.sourceKey) e db.entries) (.unique "revenue_ledger_entries_source_key_key")
  modify (fun db => { db with entries := db.entries ++ [e] })

def createEntry : Option RevenueLedgerEntry → RevenueTxn Unit
  | none => pure ()
  | some e => insertEntry commerce e

end Ledger

def insertPeriod (p : EarningPeriodRow) : RevenueTxn Unit := do
  let db ← get
  require (0 ≤ p.amountMinor) (.check "revenue_earning_periods_bounds")
  require (db.snapshots.any (fun s => s.id = p.snapshotId)) (.foreignKey "revenue_earning_periods_snapshot_id_fkey")
  require (free (fun p => some p.id) p db.periods) (.unique "revenue_earning_periods_pkey")
  require (free (fun p => some (p.snapshotId, p.courseId, p.periodIndex)) p db.periods)
    (.unique "revenue_earning_periods_snapshot_id_course_id_period_index_key")
  modify (fun db => { db with periods := db.periods ++ [p] })

def ofResult {α : Type} (outcome : Except String α) : RevenueTxn α :=
  match outcome with
  | .ok a => pure a
  | .error message => throw (.invariant message)

def snapshotById (db : RevenueDb) (id : Uuid) : Option RevenueOrderSnapshot :=
  db.snapshots.find? (fun s => s.id = id)

def periodsOf (db : RevenueDb) (snapshotId : Uuid) : List EarningPeriodRow :=
  db.periods.filter (fun p => p.snapshotId = snapshotId)

def entriesOf (db : RevenueDb) (periodId : Uuid) : List RevenueLedgerEntry :=
  db.entries.filter (fun e => e.periodId = periodId)

structure EarningTerm where
  months : Nat
  startsAt : Instant
  expiresAt : Option Instant
deriving DecidableEq, Repr

-- One run over a snapshot: what it reads beside the ledger and the store of payments, its clock, and the ids it draws.
structure RevenueRun where
  history : List Input
  orderCreatedAt : Instant
  months : Nat
  now : Instant
  periodId : Uuid → Nat → Uuid

def earningTerm (commerce : CommerceDb) (r : RevenueRun) (s : RevenueOrderSnapshot) (order : CommerceOrder) : Option EarningTerm :=
  match s.productType with
  | .course => some { months := 1, startsAt := order.confirmedAt.getD r.orderCreatedAt, expiresAt := none }
  | .membership => do
      let subscription ← commerce.subscriptions.find? (fun m => m.sourceOrderLineId = some s.id)
      let _ ← intentOf commerce order.id
      some { months := r.months, startsAt := subscription.startsAt, expiresAt := some subscription.expiresAt }

def periodDue (term : EarningTerm) (index : Nat) : Except String Instant :=
  match term.expiresAt with
  | none => .ok term.startsAt
  | some expiresAt => dueDate term.startsAt expiresAt term.months index

def earningPeriod (r : RevenueRun) (s : RevenueOrderSnapshot) (p : Participant) (x : Int × Nat) (due : Instant) : EarningPeriodRow where
  toRevenueEarningPeriod := periodRow s.id p.sellerId p.courseId x due
  id := r.periodId p.courseId x.2

def createParticipantPeriods (r : RevenueRun) (s : RevenueOrderSnapshot) (term : EarningTerm) (monthly : List (List AllocatedAmount))
    (p : Participant) : RevenueTxn Unit :=
  (monthly.map (fun parts => shareOf parts p.courseId)).zipIdx.forM (fun x => do
    let due ← ofResult (periodDue term x.2)
    insertPeriod (earningPeriod r s p x due))

def createEarningPeriods (r : RevenueRun) (s : RevenueOrderSnapshot) (term : EarningTerm) : RevenueTxn Unit := do
  let monthly ← ofResult (monthlyRevenueShares s.shares term.months)
  s.participants.forM (createParticipantPeriods r s term monthly)

def ensurePeriods (commerce : CommerceDb) (r : RevenueRun) (s : RevenueOrderSnapshot) (order : CommerceOrder) : RevenueTxn Bool := do
  let db ← get
  if periodsOf db s.id = [] ∧ s.participants ≠ [] then
    match earningTerm commerce r s order with
    | none => pure false
    | some term => do
        createEarningPeriods r s term
        pure true
  else pure true

section Refunds

def refundAllocations (commerce : CommerceDb) (order : CommerceOrder) (lineId : Uuid) :
    List (CommerceRefund × CommerceRefundAllocation) :=
  (commerce.refunds.filter (fun r => r.status = .recorded ∧ some r.settlementId = order.confirmedSettlementId)).flatMap
    (fun r => (r.allocations.filter (fun a => a.orderLineId = lineId)).map (fun a => (r, a)))

def recordedRefund (commerce : CommerceDb) (order : CommerceOrder) (lineId : Uuid) : Int :=
  total (fun x => x.2.amountMinor) (refundAllocations commerce order lineId)

def lastRefund (commerce : CommerceDb) (order : CommerceOrder) (lineId : Uuid) : Option Uuid :=
  (refundAllocations commerce order lineId).getLast?.map (fun x => x.1.id)

def reversed (entries : List RevenueLedgerEntry) : Int :=
  -total (fun e => e.amountMinor) (entries.filter (fun e => e.kind.isRefund))

def isRecognized (entries : List RevenueLedgerEntry) : Bool :=
  entries.any (fun e => e.kind = .recognized)

def refundEntry (cumulative : Int) (sourceRefundId : Option Uuid) (target : Int) (p : EarningPeriodRow)
    (entries : List RevenueLedgerEntry) : Option RevenueLedgerEntry :=
  let delta := target - reversed entries
  if delta ≠ 0 then
    some {
      periodId := p.id
      sourceKey := .refund p.id cumulative
      sourceRefundId := sourceRefundId
      kind := if isRecognized entries then .refundRecognized else .refundPending
      amountMinor := -delta }
  else none

def groupOf (periods : List EarningPeriodRow) (courseId : Uuid) : List EarningPeriodRow :=
  periods.filter (fun x => x.courseId = courseId)

def periodWeights (group : List EarningPeriodRow) : List WeightedAmount :=
  paying (group.map (fun x => { id := x.id, weight := x.amountMinor }))

def adjustParticipant (commerce : CommerceDb) (db : RevenueDb) (s : RevenueOrderSnapshot) (cumulative : Int)
    (sourceRefundId : Option Uuid) (targets : List AllocatedAmount) (courseId : Uuid) : RevenueTxn Unit := do
  let group := groupOf (periodsOf db s.id) courseId
  let periodTargets ← ofResult (allocateMinor (shareOf targets courseId) (periodWeights group))
  group.forM (fun p =>
    createEntry commerce (refundEntry cumulative sourceRefundId (shareOf periodTargets p.id) p (entriesOf db p.id)))

def adjustRefunds (commerce : CommerceDb) (s : RevenueOrderSnapshot) (order : CommerceOrder) : RevenueTxn Unit := do
  let db ← get
  let cumulative := recordedRefund commerce order s.id
  require (cumulative ≤ s.basisAmountMinor) (.conflict "REVENUE_REFUND_EXCEEDS_BASIS")
  if 0 < cumulative then do
    let targets ← ofResult (refundTargets cumulative s.basisAmountMinor s.shares)
    s.participants.forM (fun x => adjustParticipant commerce db s cumulative (lastRefund commerce order s.id) targets x.courseId)
  else pure ()

end Refunds

section Recognition

def pendingRefund (entries : List RevenueLedgerEntry) : Int :=
  total (fun e => e.amountMinor) (entries.filter (fun e => e.kind = .refundPending))

def recognition (p : EarningPeriodRow) (entries : List RevenueLedgerEntry) : Option RevenueLedgerEntry :=
  if isRecognized entries then none
  else
    some {
      periodId := p.id
      sourceKey := .recognize p.id
      sourceRefundId := none
      kind := .recognized
      amountMinor := p.amountMinor + pendingRefund entries }

def recognizePeriod (commerce : CommerceDb) (p : EarningPeriodRow) (entries : List RevenueLedgerEntry) : RevenueTxn Unit := do
  require (isRecognized entries = false → 0 ≤ p.amountMinor + pendingRefund entries) (.conflict "NEGATIVE_REVENUE_RECOGNITION")
  createEntry commerce (recognition p entries)

def recognizeDue (commerce : CommerceDb) (s : RevenueOrderSnapshot) (now : Instant) : RevenueTxn Unit := do
  let db ← get
  ((periodsOf db s.id).filter (fun p => p.dueAt ≤ now)).forM (fun p => recognizePeriod commerce p (entriesOf db p.id))

end Recognition

def readCommerce {α : Type} (m : CommerceTxn α) (commerce : CommerceDb) : RevenueTxn α :=
  match m commerce with
  | .ok (a, _) => pure a
  | .error e => throw e

def settleSnapshot (commerce : CommerceDb) (r : RevenueRun) (s : RevenueOrderSnapshot) (order : CommerceOrder) : RevenueTxn Unit := do
  let ready ← ensurePeriods commerce r s order
  if ready then do
    adjustRefunds commerce s order
    recognizeDue commerce s r.now
  else pure ()

def processSnapshot (deployment : Deployment) (payments : System) (r : RevenueRun) (id : Uuid) : RevenueTxn Unit := do
  let db ← get
  let s ← orThrow (snapshotById db id) (.missingRow "revenue_order_snapshots")
  match orderById payments.db s.orderId with
  | none => pure ()
  | some order => do
      let verified ← readCommerce (isVerified deployment payments.now order) payments.db
      if verified then settleSnapshot payments.db r s order else pure ()

end EduAi.Revenue
