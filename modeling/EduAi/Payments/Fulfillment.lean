import EduAi.Commerce.CourseAccess
import EduAi.Commerce.Deferred
import EduAi.Payments.BankPolicy
import EduAi.Payments.Webhook

set_option autoImplicit false

namespace EduAi.Payments

open EduAi.Store EduAi.Gds EduAi.Commerce

def paidOrderFulfillmentRetryRequired : String :=
  "PAID_ORDER_FULFILLMENT_RETRY_REQUIRED"

def settlementConflict : Fault :=
  .recovery "identity" "PAYMENT_SETTLEMENT_CONFLICT"

def namedText (text : Option String) : Bool :=
  text.any (fun t => t ≠ "")

def gatewayPaymentProven (o : CommerceOrder) (s : CommerceSettlement) (a : CommercePaymentAttempt) (e : CommercePaymentEvent) :
    Bool :=
  o.status = .confirmed ∧ o.confirmedSettlementId = some s.id ∧ s.orderId = o.id ∧ s.kind = .providerCollection ∧
    s.disposition = .matched ∧ s.provider.any isPaymentProviderName ∧ namedText s.providerSettlementReference ∧
    s.paymentEventId = some e.id ∧ e.paymentAttemptId = a.id ∧ some e.provider = s.provider ∧
    some e.providerPaymentIdentity = a.providerPaymentIdentity ∧
    some e.providerSettlementReference = s.providerSettlementReference ∧ e.amountMinor = s.amountMinor ∧
    e.currency = s.currency ∧ e.nextStatus = .paid ∧ e.providerOccurredAt = s.settledAt ∧ s.paymentAttemptId = some a.id ∧
    a.orderId = o.id ∧ some a.provider = s.provider ∧ namedText a.providerPaymentIdentity ∧ a.providerOrderCode.isSome ∧
    a.status = .paid ∧ a.amountMinor = s.amountMinor ∧ a.currency = s.currency ∧ s.amountMinor = o.payableAmountMinor ∧
    s.currency = o.currency

structure CanonicalPayment where
  order : CommerceOrder
  settlement : CommerceSettlement
  attempt : CommercePaymentAttempt
deriving DecidableEq, Repr

-- The confirming settlement of the order with its attempt and its event, where the settlement asked for is that one.
def canonicalPayment (db : CommerceDb) (orderId settlementId : Uuid) : Option CanonicalPayment := do
  let order ← orderById db orderId
  let settlement ← confirmingSettlement db order
  let attempt ← attemptOfSettlement db settlement
  let event ← eventOfSettlement db settlement
  if settlement.id = settlementId ∧ gatewayPaymentProven order settlement attempt event then
    some { order, settlement, attempt }
  else none

def paidByBank (db : CommerceDb) (orderId : Uuid) : Bool :=
  ((orderById db orderId).bind (confirmingSettlement db)).any (fun s => s.provider = some .bankTransfer)

def requireCanonicalPayment (deployment : Deployment) (now : Instant) (orderId settlementId : Uuid) :
    CommerceTxn CanonicalPayment := do
  let db ← get
  if paidByBank db orderId then
    requireBankTransferProof deployment now orderId settlementId
    let order ← orThrow (orderById db orderId) (.conflict "BANK_STATEMENT_PROOF_REQUIRED")
    let settlement ← orThrow (confirmingSettlement db order) (.conflict "BANK_STATEMENT_PROOF_REQUIRED")
    let attempt ← orThrow (attemptOfSettlement db settlement) (.conflict "BANK_STATEMENT_PROOF_REQUIRED")
    pure { order, settlement, attempt }
  else orThrow (canonicalPayment db orderId settlementId) settlementConflict

def effect (orderId orderLineId : Uuid) (effectType sourceId resourceType : String) (resourceId : Uuid) : CommerceTxn Unit :=
  createEffect { orderId, orderLineId, effectType, sourceId, resourceType, resourceId }

def grantEffect (draw : AccessDraw) (orderId orderLineId : Uuid) (input : EnsureCourseAccessGrantInput) (effectType : String)
    (missing : String) : CommerceTxn Unit := do
  let granted ← ensureGrant draw input
  let g ← orThrow granted (.conflict missing)
  effect orderId orderLineId effectType input.courseId "course_access_grant" g.id

def purchaseInput (now : Instant) (o : CommerceOrder) (l : CommerceOrderLine) : EnsureCourseAccessGrantInput where
  userId := o.buyerId
  courseId := l.productReferenceId
  sourceType := .coursePurchase
  sourceId := l.id
  startsAt := o.confirmedAt.getD now
  endsAt := none
  graceEndsAt := none

def fulfillCourse (now : Instant) (draw : AccessDraw) (o : CommerceOrder) (l : CommerceOrderLine) : CommerceTxn Unit :=
  grantEffect draw o.id l.id (purchaseInput now o l) "COURSE_ACCESS" "Course purchase grant was not created."

def overlappingTerm (userId : Uuid) (i : MembershipCheckoutIntent) (s : MembershipSubscription) : Bool :=
  s.userId = userId ∧ s.active ∧ s.startsAt < i.endsAt ∧ i.startsAt < s.expiresAt

def membershipTerm (draw : AccessDraw) (o : CommerceOrder) (l : CommerceOrderLine) (i : MembershipCheckoutIntent) :
    MembershipSubscription where
  id := draw.subscriptionId l.id
  userId := o.buyerId
  versionId := i.versionId
  sourceOrderLineId := some l.id
  active := true
  startsAt := i.startsAt
  expiresAt := i.endsAt

def ensureTerm (draw : AccessDraw) (o : CommerceOrder) (l : CommerceOrderLine) (i : MembershipCheckoutIntent) :
    CommerceTxn MembershipSubscription := do
  let db ← get
  match db.subscriptions.find? (fun s => s.sourceOrderLineId = some l.id) with
  | some s => pure s
  | none =>
      require (∀ s ∈ db.subscriptions, ¬ overlappingTerm o.buyerId i s) (.conflict "Membership term overlaps an existing term.")
      insertSubscription (membershipTerm draw o l i)
      pure (membershipTerm draw o l i)

def membershipInput (o : CommerceOrder) (l : CommerceOrderLine) (i : MembershipCheckoutIntent) (courseId : Uuid) :
    EnsureCourseAccessGrantInput where
  userId := o.buyerId
  courseId := courseId
  sourceType := .membership
  sourceId := l.id
  startsAt := i.startsAt
  endsAt := some i.endsAt
  graceEndsAt := none

def graceInput (o : CommerceOrder) (l : CommerceOrderLine) (courseId : Uuid) (startsAt endsAt : Instant) :
    EnsureCourseAccessGrantInput where
  userId := o.buyerId
  courseId := courseId
  sourceType := .membershipGrace
  sourceId := l.id ++ ":" ++ courseId
  startsAt := startsAt
  endsAt := some endsAt
  graceEndsAt := none

def fulfillGrace (draw : AccessDraw) (o : CommerceOrder) (l : CommerceOrderLine) (removed : RemovedCourseSnapshot) :
    CommerceTxn Unit :=
  match removed.graceStartsAt, removed.graceEndsAt with
  | some startsAt, some endsAt =>
      grantEffect draw o.id l.id (graceInput o l removed.courseId startsAt endsAt) "MEMBERSHIP_GRACE_ACCESS"
        "Membership grace grant was not created."
  | _, _ => pure ()

def serviceGrant (draw : AccessDraw) (o : CommerceOrder) (l : CommerceOrderLine) (i : MembershipCheckoutIntent)
    (policy : EntitlementPolicy) (quotaPoolId : Option Uuid) : ServiceEntitlementGrant where
  id := draw.entitlementId l.id policy.definitionId
  userId := o.buyerId
  sourceType := "membership"
  sourceId := l.id
  policy := policy
  quotaPoolId := quotaPoolId
  active := true
  startsAt := i.startsAt
  endsAt := i.endsAt

def fulfillService (draw : AccessDraw) (o : CommerceOrder) (l : CommerceOrderLine) (i : MembershipCheckoutIntent)
    (policy : EntitlementPolicy) : CommerceTxn Unit := do
  let db ← get
  let pool := db.quotaPools.find? (fun p => p.orderLineId = l.id ∧ p.definitionId = policy.definitionId)
  createEntitlement (serviceGrant draw o l i policy (pool.map (fun p => p.id)))
  let db ← get
  let g ← orThrow (db.entitlements.find? (fun g => entitlementKey g = (o.buyerId, policy.definitionId, "membership", l.id)))
    (.conflict "Membership service entitlement was not created.")
  effect o.id l.id "MEMBERSHIP_SERVICE_ACCESS" policy.definitionId "service_entitlement_grant" g.id

def fulfillMembership (draw : AccessDraw) (o : CommerceOrder) (l : CommerceOrderLine) : CommerceTxn Unit := do
  let db ← get
  let i ← orThrow (intentOf db o.id) (.conflict "Membership order snapshot is incomplete.")
  require (i.versionId = l.productReferenceId) (.conflict "Membership order snapshot is incomplete.")
  let version ← orThrow (versionById db i.versionId) (.missingRow "membership_plan_versions")
  let term ← ensureTerm draw o l i
  effect o.id l.id "MEMBERSHIP_TERM" i.versionId "membership_subscription" term.id
  version.includedCourses.forM (fun courseId => grantEffect draw o.id l.id (membershipInput o l i courseId)
    "MEMBERSHIP_COURSE_ACCESS" "Membership course grant was not created.")
  i.removedCourses.forM (fulfillGrace draw o l)
  version.serviceEntitlements.forM (fulfillService draw o l i)

def fulfillLine (now : Instant) (draw : AccessDraw) (o : CommerceOrder) (l : CommerceOrderLine) : CommerceTxn Unit :=
  match l.productType with
  | .course => fulfillCourse now draw o l
  | .membership => fulfillMembership draw o l

def startFulfillment (o : CommerceOrder) : CommerceTxn Unit :=
  if o.fulfillmentStatus = .notStarted ∨ o.fulfillmentStatus = .failed then updateOrder o.id (.fulfill .processing)
  else pure ()

def fulfilledNotice (o : CommerceOrder) : CommerceNotificationOutbox where
  eventKey := "commerce-order-fulfilled:" ++ o.id
  orderId := o.id
  userId := o.buyerId

-- Everything past the guards of fulfillConfirmedOrder; the source walks the lines by id, the model in their table's order.
def deliverOrder (now : Instant) (draw : AccessDraw) (o : CommerceOrder) : CommerceTxn Unit := do
  startFulfillment o
  let db ← get
  (linesOf db o.id).forM (fulfillLine now draw o)
  createOutbox (fulfilledNotice o)
  updateOrder o.id (.fulfill .fulfilled)

def requireBankProofOfOrder (deployment : Deployment) (now : Instant) (o : CommerceOrder) : CommerceTxn Unit := do
  let db ← get
  match confirmingSettlement db o with
  | none => pure ()
  | some s => if s.provider = some .bankTransfer then requireBankTransferProof deployment now o.id s.id else pure ()

def convertReceiptOfOrder (o : CommerceOrder) : CommerceTxn Unit :=
  match o.confirmedSettlementId with
  | none => pure ()
  | some settlementId => do
      let _ ← convertForPaidOrder o.id settlementId
      pure ()

def fulfillConfirmedOrder (deployment : Deployment) (now : Instant) (draw : AccessDraw) (orderId : Uuid) :
    CommerceTxn Unit := do
  let db ← get
  let o ← orThrow (orderById db orderId) (.conflict "Confirmed Commerce order was not found.")
  if o.fulfillmentStatus = .fulfilled then pure ()
  else do
    require (o.status = .confirmed) (.conflict "Only a confirmed Commerce order can be fulfilled.")
    requireBankProofOfOrder deployment now o
    convertReceiptOfOrder o
    deliverOrder now draw o

def fulfillmentTxn (deployment : Deployment) (now : Instant) (draw : AccessDraw) (orderId settlementId : Uuid) :
    CommerceTxn Unit := do
  let _ ← requireCanonicalPayment deployment now orderId settlementId
  fulfillConfirmedOrder deployment now draw orderId

def failureCase (now : Instant) (caseId : Uuid) (orderId settlementId : Uuid) (attemptId : Uuid) : CommerceReconciliationCase where
  id := caseId
  orderId := orderId
  settlementId := some settlementId
  paymentAttemptId := some attemptId
  kind := .paidNotFulfilled
  reasonCode := paidOrderFulfillmentRetryRequired
  sourceKey := [attemptId, "paid_not_fulfilled", settlementId]
  status := .isOpen
  resolution := none
  resolvedById := none
  lastCheckedAt := some now
  checkCount := 1
  updatedAt := now

def failureCaseFits (c : CommerceReconciliationCase) (orderId settlementId attemptId : Uuid) : Bool :=
  c.kind = .paidNotFulfilled ∧ c.orderId = orderId ∧ c.settlementId = some settlementId ∧ c.paymentAttemptId = some attemptId

def recordFailure (deployment : Deployment) (now : Instant) (caseId : Uuid) (orderId settlementId : Uuid) :
    CommerceTxn Bool := do
  let payment ← requireCanonicalPayment deployment now orderId settlementId
  if payment.order.fulfillmentStatus = .fulfilled then pure false
  else
    startFulfillment payment.order
    updateOrder payment.order.id (.fulfill .failed)
    let db ← get
    match caseBySettlement db settlementId with
    | some c =>
        require (failureCaseFits c orderId settlementId payment.attempt.id) settlementConflict
        if c.status = .isOpen then recheckCase c paidOrderFulfillmentRetryRequired now else pure ()
    | none => insertCase (failureCase now caseId orderId settlementId payment.attempt.id)
    pure true

def Fault.identityPhase : Fault → Bool
  | .recovery phase _ => phase = "identity"
  | _ => false

def fulfillmentFailureReasonCode : Fault → String
  | .recovery "fulfillment" code => code
  | _ => "PAYMENT_FULFILLMENT_FAILED"

def fulfillmentAnswer (failed : Fault) (recorded : Except Fault Bool) : Except Fault Unit :=
  match recorded with
  | .ok true => .error (.recovery "fulfillment" (fulfillmentFailureReasonCode failed))
  | .ok false => .ok ()
  | .error fault => if Fault.identityPhase fault then .error fault else .error (.recovery "fulfillment" "PAYMENT_RECOVERY_INTERNAL_ERROR")

end EduAi.Payments
