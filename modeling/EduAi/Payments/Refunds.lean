import EduAi.Commerce.CourseAccess
import EduAi.Payments.Fulfillment

set_option autoImplicit false

namespace EduAi.Payments

open EduAi.Store EduAi.Gds EduAi.Commerce

def refundOperation : String :=
  "payment.refund-request"

structure RefundInput where
  actorId : Uuid
  keyHash : String
  requestHash : String
  settlementId : Uuid
  reconciliationCaseId : Option Uuid
  amountMinor : Int
  allocations : List CommerceRefundAllocation
deriving DecidableEq, Repr

def replayRefund (input : RefundInput) (existing : CommerceIdempotencyRecord) : CommerceTxn CommerceRefund := do
  require (existing.requestHash = input.requestHash) (.conflict "IDEMPOTENCY_KEY_REUSED")
  let db ← get
  orThrow (refundById db existing.resourceId) (.conflict "Refund request is still processing.")

def refundableSettlement (db : CommerceDb) (settlementId : Uuid) : Option CommerceSettlement :=
  (settlementById db settlementId).filter (fun s => s.provider.isSome ∧ s.kind = .providerCollection)

def caseOpenFor (db : CommerceDb) (settlementId caseId : Uuid) : Bool :=
  (caseBySettlement db settlementId).any (fun c => c.id = caseId ∧ c.status = .isOpen)

def allocationFits (db : CommerceDb) (orderId : Uuid) (a : CommerceRefundAllocation) : Bool :=
  (linesOf db orderId).any (fun l => l.id = a.orderLineId ∧ 0 < a.amountMinor ∧ a.amountMinor ≤ l.finalAmountMinor)

def requestedRefund (now : Instant) (id : Uuid) (s : CommerceSettlement) (provider : CollectionProvider) (input : RefundInput) :
    CommerceRefund where
  id := id
  orderId := s.orderId
  settlementId := s.id
  reconciliationCaseId := input.reconciliationCaseId
  amountMinor := input.amountMinor
  provider := provider
  status := .requested
  externalReference := none
  rejectionReasonCode := none
  allocations := input.allocations
  updatedAt := now

def openRefund (now : Instant) (refundId : Uuid) (input : RefundInput) : CommerceTxn CommerceRefund := do
  let db ← get
  let s ← orThrow (refundableSettlement db input.settlementId) (.notFound "Refundable settlement was not found.")
  let provider ← orThrow s.provider (.notFound "Refundable settlement was not found.")
  require (provider ≠ .bankTransfer) (.conflict "BANK_REFUND_REQUIRES_SEPARATE_AUTHORIZED_WORKFLOW")
  require (input.reconciliationCaseId.all (caseOpenFor db s.id))
    (.conflict "Refund reconciliation case is not open for this settlement.")
  require ((input.allocations.map (fun a => a.orderLineId)).Nodup) (.badRequest "Refund allocation lines must be unique.")
  require (∀ a ∈ input.allocations, allocationFits db s.orderId a)
    (.badRequest "Refund allocation is outside the settled line amount.")
  require (total (fun a => a.amountMinor) input.allocations = input.amountMinor ∧ input.amountMinor ≤ s.amountMinor)
    (.badRequest "Refund allocations must equal a bounded refund amount.")
  insertRefund (requestedRefund now refundId s provider input)
  recordIdempotency {
    actorId := input.actorId
    operation := refundOperation
    keyHash := input.keyHash
    requestHash := input.requestHash
    resourceType := "commerce_refund"
    resourceId := refundId }
  pure (requestedRefund now refundId s provider input)

def createRefund (now : Instant) (refundId : Uuid) (input : RefundInput) : CommerceTxn CommerceRefund := do
  let db ← get
  match idempotencyRecord db input.actorId refundOperation input.keyHash with
  | some existing => replayRefund input existing
  | none => openRefund now refundId input

def isMembershipGrantOf (userId lineId : Uuid) (g : CourseAccessGrant) : Bool :=
  g.userId = userId ∧ (g.sourceType = .membership ∨ g.sourceType = .membershipGrace) ∧
    (g.sourceId = lineId ∨ (lineId ++ ":").toList.isPrefixOf g.sourceId.toList)

-- The update of the source names every such grant, and the trigger refuses it where one is revoked already.
def cancelMembershipOf (o : CommerceOrder) (lineId : Uuid) : CommerceTxn Unit := do
  cancelSubscriptions (fun s => s.sourceOrderLineId = some lineId)
  let db ← get
  (db.grants.filter (isMembershipGrantOf o.buyerId lineId)).forM (fun g => revokeGrantRow g.id "FULL_REFUND_RECORDED")
  revokeEntitlements (fun g => g.userId = o.buyerId ∧ g.sourceType = "membership" ∧ g.sourceId = lineId)

def withdrawLine (o : CommerceOrder) (l : CommerceOrderLine) : CommerceTxn Unit :=
  match l.productType with
  | .course => revokeGrant o.buyerId l.productReferenceId .coursePurchase l.id "FULL_REFUND_RECORDED"
  | .membership => cancelMembershipOf o l.id

def refundLine (o : CommerceOrder) (r : CommerceRefund) (a : CommerceRefundAllocation) : CommerceTxn Unit := do
  let db ← get
  let l ← orThrow (lineById db a.orderLineId) (.missingRow "commerce_order_lines")
  if o.confirmedSettlementId ≠ some r.settlementId ∨ o.fulfillmentStatus ≠ .fulfilled ∨
      lineRefunded db l.id < l.finalAmountMinor then pure ()
  else withdrawLine o l

def closeLateOrder (o : CommerceOrder) : CommerceTxn Unit :=
  if o.status = .latePaymentReview then updateOrder o.id .lateRefunded else pure ()

def resolveRefundCase (now : Instant) (actorId : Uuid) (o : CommerceOrder) (r : CommerceRefund) : CommerceTxn Unit :=
  match r.reconciliationCaseId with
  | none => pure ()
  | some caseId => do
      updateCase caseId (.resolve .refund actorId now)
      closeLateOrder o

def recordRefund (now : Instant) (actorId : Uuid) (o : CommerceOrder) (r : CommerceRefund) (externalReference : String) :
    CommerceTxn Unit := do
  updateRefund r.id (.record externalReference now)
  r.allocations.forM (refundLine o r)
  resolveRefundCase now actorId o r

structure RefundDecision where
  actorId : Uuid
  refundId : Uuid
  text : String
  expectedUpdatedAt : Instant
deriving DecidableEq, Repr

def record (now : Instant) (decision : RefundDecision) : CommerceTxn Unit := do
  let db ← get
  let r ← orThrow (refundById db decision.refundId) (.notFound "Refund request was not found.")
  let s ← orThrow (settlementById db r.settlementId) (.missingRow "commerce_settlements")
  let o ← orThrow (orderById db r.orderId) (.missingRow "commerce_orders")
  require (s.provider ≠ some .bankTransfer) (.conflict "BANK_REFUND_REQUIRES_SEPARATE_AUTHORIZED_WORKFLOW")
  if r.status = .recorded then
    require (r.externalReference = some decision.text) (.conflict "REFUND_ALREADY_RECORDED")
  else do
    require (r.status = .requested) (.conflict "Refund request is already rejected.")
    require (r.updatedAt = decision.expectedUpdatedAt) (.conflict "REFUND_VERSION_CONFLICT")
    recordRefund now decision.actorId o r decision.text

def reject (now : Instant) (decision : RefundDecision) : CommerceTxn Unit := do
  let db ← get
  let r ← orThrow (refundById db decision.refundId) (.notFound "Refund request was not found.")
  if r.status = .rejected then
    require (r.rejectionReasonCode = some decision.text) (.conflict "REFUND_ALREADY_REJECTED")
  else do
    require (r.status = .requested) (.conflict "Recorded refunds cannot be rejected.")
    require (r.updatedAt = decision.expectedUpdatedAt) (.conflict "REFUND_VERSION_CONFLICT")
    updateRefund r.id (.reject decision.text now)

end EduAi.Payments
