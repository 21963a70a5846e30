import EduAi.Commerce.Orders

set_option autoImplicit false

namespace EduAi.Commerce

open EduAi.Store EduAi.Gds EduAi.Payments

def isOpenAttempt (a : CommercePaymentAttempt) : Bool :=
  a.status = .created || a.status = .pending

def orderCodeKey (a : CommercePaymentAttempt) : Option (CollectionProvider × Int) :=
  a.providerOrderCode.map (fun code => (a.provider, code))

def paymentIdentityKey (a : CommercePaymentAttempt) : Option (CollectionProvider × String) :=
  a.providerPaymentIdentity.map (fun identity => (a.provider, identity))

def openOrderKey (a : CommercePaymentAttempt) : Option Uuid :=
  if isOpenAttempt a then some a.orderId else none

def attemptChecks (a : CommercePaymentAttempt) : CommerceTxn Unit := do
  require (a.currency = "VND") (.check "commerce_payment_attempts_currency_check")
  require (0 < a.amountMinor) (.check "commerce_payment_attempts_amount_check")
  require (a.provider = .payos → (∃ code, a.providerOrderCode = some code ∧ 0 < code) ∧
      (∃ expiry, a.providerExpiresAt = some expiry ∧ a.createdAt < expiry) ∧ a.providerRequestStartedAt.isSome)
    (.check "commerce_payment_attempts_provider_request_check")
  require (a.provider = .payos → a.status = .created ∨ a.providerReceivingAccountHash.isSome)
    (.check "commerce_payment_attempts_receiving_account_check")

def insertAttempt (a : CommercePaymentAttempt) : CommerceTxn Unit := do
  let db ← get
  let o ← orThrow (orderById db a.orderId) (.foreignKey "commerce_payment_attempts_order_id_fkey")
  require (a.status = .created) (.raised "commerce_payment_attempts must be created in its initial state")
  require (a.amountMinor = o.payableAmountMinor ∧ a.currency = o.currency ∧ 0 < o.payableAmountMinor)
    (.raised "payment attempt must match a positive authoritative order total")
  attemptChecks a
  require (free (fun a => some a.id) a db.attempts) (.unique "commerce_payment_attempts_pkey")
  require (free orderCodeKey a db.attempts) (.unique "commerce_payment_attempts_provider_order_code_key")
  require (free paymentIdentityKey a db.attempts) (.unique "commerce_payment_attempts_provider_payment_identity_key")
  require (free openOrderKey a db.attempts) (.unique "commerce_payment_attempts_one_open_per_order_idx")
  modify (fun db => { db with attempts := db.attempts ++ [a] })

def attemptTransition : CommercePaymentStatus → CommercePaymentStatus → Bool
  | .created, .pending => true
  | .created, .failed => true
  | .pending, .paid => true
  | .pending, .failed => true
  | .pending, .cancelled => true
  | .pending, .expired => true
  | .cancelled, .latePaid => true
  | .expired, .latePaid => true
  | old, new => old = new

inductive AttemptPatch where
  | attach (identity : String) (accountHash : Option String)
  | checked (now : Instant) (identity : Option String) (accountHash : Option String) (recovered : Bool)
  | settle (status : CommercePaymentStatus)
  | close (status : CommercePaymentStatus) (now : Instant) (cancellationRequested : Bool)
  | start
  | reject
deriving DecidableEq, Repr

def AttemptPatch.apply : AttemptPatch → CommercePaymentAttempt → CommercePaymentAttempt
  | .attach identity accountHash, a =>
      { a with
        providerPaymentIdentity := some identity, providerReceivingAccountHash := accountHash, status := .pending }
  | .checked now identity accountHash recovered, a =>
      { a with
        providerStatusCheckedAt := some now
        providerPaymentIdentity := identity.orElse (fun _ => a.providerPaymentIdentity)
        providerReceivingAccountHash := accountHash.orElse (fun _ => a.providerReceivingAccountHash)
        status := if recovered then .pending else a.status }
  | .settle status, a => { a with status }
  | .close status now requested, a =>
      { a with
        status
        providerStatusCheckedAt := some now
        providerCancellationRequestedAt := if requested then some now else a.providerCancellationRequestedAt }
  | .start, a => { a with status := .pending }
  | .reject, a => { a with status := .failed }

def updateAttempt (id : Uuid) (patch : AttemptPatch) : CommerceTxn Unit := do
  let db ← get
  let old ← orThrow (attemptById db id) (.missingRow "commerce_payment_attempts")
  let new := patch.apply old
  require (old.providerPaymentIdentity = none ∨ new.providerPaymentIdentity = old.providerPaymentIdentity)
    (.raised "provider payment identity is immutable once assigned")
  require (attemptTransition old.status new.status) (.raised "invalid payment attempt status transition")
  require (new.status = .cancelled ∨ new.status = .expired →
      new.providerStatusCheckedAt.isSome ∨ new.providerCancellationRequestedAt.isSome)
    (.raised "closing a payment attempt requires a provider check or cancellation request")
  require (old.providerCancellationRequestedAt = none ∨
      new.providerCancellationRequestedAt = old.providerCancellationRequestedAt) (.raised "payment terminal evidence is immutable")
  require (old.providerReceivingAccountHash = none ∨ new.providerReceivingAccountHash = old.providerReceivingAccountHash)
    (.raised "provider receiving account identity is immutable once assigned")
  attemptChecks new
  require (free paymentIdentityKey new (db.attempts.filter (fun a => a.id ≠ id)))
    (.unique "commerce_payment_attempts_provider_payment_identity_key")
  modify (fun db => { db with attempts := updateWhere (fun a => a.id = id) patch.apply db.attempts })

def insertEvent (e : CommercePaymentEvent) : CommerceTxn Unit := do
  let db ← get
  let a ← orThrow (attemptById db e.paymentAttemptId) (.foreignKey "commerce_payment_events_payment_attempt_id_fkey")
  require (e.provider = a.provider ∧ e.amountMinor = a.amountMinor ∧ e.currency = a.currency ∧
      (a.providerPaymentIdentity = none ∨ a.providerPaymentIdentity = some e.providerPaymentIdentity))
    (.raised "payment event does not match its local attempt")
  require (e.currency = "VND") (.check "commerce_payment_events_currency_check")
  require (0 ≤ e.amountMinor) (.check "commerce_payment_events_amount_check")
  require (free (fun e => some e.id) e db.events) (.unique "commerce_payment_events_pkey")
  require (free (fun e => some (e.provider, e.providerEventIdentity)) e db.events)
    (.unique "commerce_payment_events_provider_event_identity_key")
  modify (fun db => { db with events := db.events ++ [e] })

def settlementShape (s : CommerceSettlement) : Bool :=
  (s.kind = .providerCollection ∧
    (s.disposition = .matched ∨ s.disposition = .duplicateCollection ∨ s.disposition = .lateCollection) ∧
    s.paymentAttemptId.isSome ∧ s.paymentEventId.isSome ∧ s.provider.isSome ∧ s.providerSettlementReference.isSome ∧
    0 < s.amountMinor) ∨
  (s.kind = .noPaymentRequired ∧ s.disposition = .internal ∧ s.paymentAttemptId = none ∧ s.paymentEventId = none ∧
    s.provider = none ∧ s.providerSettlementReference = none ∧ s.amountMinor = 0) ∨
  (s.kind = .walletCapture ∧ s.disposition = .internal ∧ s.paymentAttemptId = none ∧ s.paymentEventId = none ∧
    s.provider = some .gds ∧ 0 < s.amountMinor)

def captureSettled (db : CommerceDb) (o : CommerceOrder) : Bool :=
  db.gds.holds.any (fun h => h.orderRef = o.id ∧ h.amountMinor = o.payableAmountMinor ∧ h.status = .captured ∧
    db.gds.wallets.any (fun w => w.id = h.walletId ∧ w.buyerId = o.buyerId ∧ w.status = .active) ∧
    db.gds.journal.any (fun j => j.walletId = h.walletId ∧ j.orderRef = some o.id ∧ j.kind = .capture ∧
      j.eventKey = captureKey o.id ∧ j.amountMinor = o.payableAmountMinor ∧ j.availableDeltaMinor = 0 ∧
      j.heldDeltaMinor = -o.payableAmountMinor ∧ j.clearingDeltaMinor = o.payableAmountMinor ∧ j.topupId = none ∧
      j.collectionReference = none))

def walletSettlementProven (db : CommerceDb) (o : CommerceOrder) (s : CommerceSettlement) : Bool :=
  o.status = .pendingPayment ∧ o.confirmedSettlementId = none ∧ 0 < s.amountMinor ∧ s.currency = "VND" ∧
    s.disposition = .internal ∧ s.provider = some .gds ∧ s.paymentAttemptId = none ∧ s.paymentEventId = none ∧
    s.providerSettlementReference = some (gdsOrderReference o.id) ∧ (∀ a ∈ db.attempts, a.orderId ≠ o.id) ∧
    (∀ s' ∈ db.settlements, s'.orderId ≠ o.id) ∧ captureSettled db o

def eventOfSettlement (db : CommerceDb) (s : CommerceSettlement) : Option CommercePaymentEvent :=
  s.paymentEventId.bind (eventById db)

def collectionProven (db : CommerceDb) (o : CommerceOrder) (s : CommerceSettlement) : Bool :=
  (attemptOfSettlement db s).any (fun a => a.orderId = s.orderId) ∧
    (eventOfSettlement db s).any (fun e => some e.paymentAttemptId = s.paymentAttemptId ∧ some e.provider = s.provider ∧
      some e.providerSettlementReference = s.providerSettlementReference ∧ (e.nextStatus = .paid ∨ e.nextStatus = .latePaid)) ∧
    (s.disposition = .matched → o.status = .pendingPayment) ∧
    (s.disposition = .lateCollection → o.status = .cancelled ∨ o.status = .expired ∨ o.status = .latePaymentReview)

def settlementProven (db : CommerceDb) (o : CommerceOrder) (s : CommerceSettlement) : Bool :=
  match s.kind with
  | .noPaymentRequired => o.payableAmountMinor = 0
  | .walletCapture => walletSettlementProven db o s
  | .providerCollection => collectionProven db o s

def isActiveAdmin (db : CommerceDb) (id : Uuid) : Bool :=
  (userById db id).any (fun u => u.active ∧ ¬ u.deleted ∧ u.platformAdmin)

def approversOf (db : CommerceDb) (evidenceId : Uuid) : List Uuid :=
  (db.bankApprovals.filter (fun p => p.evidenceId = evidenceId)).map (fun p => p.actorId)

-- commerce_bank_validate_settlement: the evidence row the settlement quotes, under its own request.
def bankSettlementProven (now : Instant) (db : CommerceDb) (o : CommerceOrder) (s : CommerceSettlement) : Bool :=
  db.bankRequests.any (fun r => r.orderId = s.orderId ∧ some r.paymentAttemptId = s.paymentAttemptId ∧
    r.status = .underReview ∧ now < r.expiresAt ∧ o.status = .pendingPayment ∧ o.payableAmountMinor = r.amountMinor ∧
    o.confirmedSettlementId = none ∧ s.amountMinor = r.amountMinor ∧ s.kind = .providerCollection ∧
    s.disposition = .matched ∧ s.currency = "VND" ∧
    db.bankEvidence.any (fun e => e.requestId = r.id ∧ some e.id = s.providerSettlementReference ∧ e.exceptionReason = none ∧
      e.bankBin = r.bankBin ∧ e.accountNumber = r.accountNumber ∧ e.amountMinor = r.amountMinor ∧
      e.transferContent = r.transferContent ∧ r.createdAt ≤ e.occurredAt ∧ e.occurredAt < r.expiresAt ∧
      e.occurredAt ≤ e.recordedAt ∧ e.recordedAt ≤ now ∧ s.settledAt = e.occurredAt ∧
      (attemptById db r.paymentAttemptId).any (fun a => a.provider = .bankTransfer ∧ a.orderId = r.orderId ∧
        a.status = .pending ∧ a.amountMinor = r.amountMinor ∧ a.currency = "VND") ∧
      (eventOfSettlement db s).any (fun v => v.provider = .bankTransfer ∧ v.paymentAttemptId = r.paymentAttemptId ∧
        v.providerSettlementReference = e.id ∧ v.amountMinor = e.amountMinor ∧ v.nextStatus = .paid ∧
        v.providerOccurredAt = e.occurredAt) ∧
      2 ≤ ((approversOf db e.id).filter (isActiveAdmin db)).dedup.length))

def matchedOrderKey (s : CommerceSettlement) : Option Uuid :=
  if s.disposition = .matched then some s.orderId else none

def internalOrderKey (s : CommerceSettlement) : Option Uuid :=
  if s.kind = .noPaymentRequired then some s.orderId else none

def settlementReferenceKey (s : CommerceSettlement) : Option (CollectionProvider × String) :=
  s.provider.bind (fun provider => s.providerSettlementReference.map (fun reference => (provider, reference)))

def insertSettlement (now : Instant) (s : CommerceSettlement) : CommerceTxn Unit := do
  let db ← get
  let o ← orThrow (orderById db s.orderId) (.foreignKey "commerce_settlements_order_id_fkey")
  require (s.amountMinor = o.payableAmountMinor ∧ s.currency = o.currency)
    (.raised "settlement must match authoritative order total")
  require (settlementProven db o s) (.raised "provider settlement does not match its event, attempt, and order")
  require (s.provider = some .bankTransfer → bankSettlementProven now db o s)
    (.raised "bank settlement requires matching dual approved statement evidence")
  require (settlementShape s) (.check "commerce_settlements_shape_check")
  require (free (fun s => some s.id) s db.settlements) (.unique "commerce_settlements_pkey")
  require (free (fun s => s.paymentEventId) s db.settlements) (.unique "commerce_settlements_payment_event_id_key")
  require (free settlementReferenceKey s db.settlements) (.unique "commerce_settlements_provider_reference_key")
  require (free internalOrderKey s db.settlements) (.unique "commerce_settlements_one_internal_per_order_idx")
  require (free matchedOrderKey s db.settlements) (.unique "commerce_settlements_one_matched_per_order_idx")
  modify (fun db => { db with settlements := db.settlements ++ [s] })

def caseMatchesSource (db : CommerceDb) (c : CommerceReconciliationCase) : Bool :=
  match c.settlementId with
  | some id =>
      (settlementById db id).any (fun s => s.orderId = c.orderId ∧
        (c.paymentAttemptId = none ∨ s.paymentAttemptId = c.paymentAttemptId) ∧
        (c.kind = .duplicateCollection → s.disposition = .duplicateCollection) ∧
        (c.kind = .latePayment → s.disposition = .lateCollection))
  | none => (c.paymentAttemptId.bind (attemptById db)).any (fun a => a.orderId = c.orderId)

def insertCase (c : CommerceReconciliationCase) : CommerceTxn Unit := do
  let db ← get
  require (c.status = .isOpen ∧ c.resolution = none ∧ c.resolvedById = none)
    (.raised "commerce_reconciliation_cases must be created in its initial state")
  require (caseMatchesSource db c) (.raised "reconciliation case does not match settlement disposition")
  require (free (fun c => some c.id) c db.cases) (.unique "commerce_reconciliation_cases_pkey")
  require (free (fun c => c.settlementId) c db.cases) (.unique "commerce_reconciliation_cases_settlement_id_key")
  require (free (fun c => some c.sourceKey) c db.cases) (.unique "commerce_reconciliation_cases_source_key_key")
  modify (fun db => { db with cases := db.cases ++ [c] })

inductive CasePatch where
  | recheck (now : Instant)
  | resolve (resolution : CommerceReconciliationResolution) (actorId : Uuid) (now : Instant)
deriving DecidableEq, Repr

def CasePatch.apply : CasePatch → CommerceReconciliationCase → CommerceReconciliationCase
  | .recheck now, c => { c with lastCheckedAt := some now, checkCount := c.checkCount + 1, updatedAt := now }
  | .resolve resolution actorId now, c =>
      { c with status := .resolved, resolution := some resolution, resolvedById := some actorId, updatedAt := now }

def observedNoEarlier : Option Instant → Option Instant → Bool
  | some before, some after => before ≤ after
  | _, _ => true

def updateCase (id : Uuid) (patch : CasePatch) : CommerceTxn Unit := do
  let db ← get
  let old ← orThrow (caseById db id) (.missingRow "commerce_reconciliation_cases")
  let new := patch.apply old
  require (observedNoEarlier old.lastCheckedAt new.lastCheckedAt)
    (.raised "reconciliation observation evidence is monotonic")
  require (old.status = .isOpen ∨ new.status = old.status) (.raised "invalid reconciliation status transition")
  require (old.status = .isOpen ∨ (new.resolution = old.resolution ∧ new.resolvedById = old.resolvedById))
    (.raised "resolved reconciliation evidence is immutable")
  modify (fun db => { db with cases := updateWhere (fun c => c.id = id) patch.apply db.cases })

def insertRefund (r : CommerceRefund) : CommerceTxn Unit := do
  let db ← get
  let s ← orThrow (settlementById db r.settlementId) (.foreignKey "commerce_refunds_settlement_id_fkey")
  require (r.status = .requested ∧ r.externalReference = none ∧ r.rejectionReasonCode = none)
    (.raised "commerce_refunds must be created in its initial state")
  require (s.orderId = r.orderId ∧ s.kind = .providerCollection ∧ s.provider = some r.provider ∧ r.amountMinor ≤ s.amountMinor)
    (.raised "refund must target a matching provider settlement")
  require (0 < r.amountMinor ∧ ∀ a ∈ r.allocations, 0 < a.amountMinor) (.check "commerce_refunds_amount_check")
  require (∀ a ∈ r.allocations, ∃ l ∈ db.lines, l.id = a.orderLineId ∧ l.orderId = r.orderId ∧ a.amountMinor ≤ l.finalAmountMinor)
    (.raised "refund allocation must target a line in the same order and currency")
  require ((r.allocations.map (fun a => a.orderLineId)).Nodup)
    (.unique "commerce_refund_allocations_refund_id_order_line_id_key")
  require (free (fun r => some r.id) r db.refunds) (.unique "commerce_refunds_pkey")
  modify (fun db => { db with refunds := db.refunds ++ [r] })

inductive RefundPatch where
  | record (externalReference : String) (now : Instant)
  | reject (reasonCode : String) (now : Instant)
deriving DecidableEq, Repr

def RefundPatch.apply : RefundPatch → CommerceRefund → CommerceRefund
  | .record externalReference now, r =>
      { r with status := .recorded, externalReference := some externalReference, updatedAt := now }
  | .reject reasonCode now, r =>
      { r with status := .rejected, rejectionReasonCode := some reasonCode, updatedAt := now }

def externalReferenceKey (r : CommerceRefund) : Option (CollectionProvider × String) :=
  r.externalReference.map (fun reference => (r.provider, reference))

def updateRefund (id : Uuid) (patch : RefundPatch) : CommerceTxn Unit := do
  let db ← get
  let old ← orThrow (refundById db id) (.missingRow "commerce_refunds")
  require (old.status = .requested) (.raised "invalid refund status transition")
  require (free externalReferenceKey (patch.apply old) (db.refunds.filter (fun r => r.id ≠ id)))
    (.unique "commerce_refunds_provider_reference_key")
  modify (fun db => { db with refunds := updateWhere (fun r => r.id = id) patch.apply db.refunds })

end EduAi.Commerce
