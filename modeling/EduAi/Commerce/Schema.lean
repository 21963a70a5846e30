import EduAi.Payments.Provider

set_option autoImplicit false

namespace EduAi.Commerce

open EduAi.Store EduAi.Gds EduAi.Payments

structure User where
  id : Uuid
  active : Bool
  deleted : Bool
  platformAdmin : Bool
deriving DecidableEq, Repr

inductive CourseStatus where
  | draft | published | archived
deriving DecidableEq, Repr

structure Course where
  id : Uuid
  categorySlug : Option String
  status : CourseStatus
  isPublic : Bool
  moderationClear : Bool
  deleted : Bool
  priceAmountMinor : Option Int
  priceCurrency : Option String
deriving DecidableEq, Repr

structure Lesson where
  id : Uuid
  courseId : Uuid
  deleted : Bool
deriving DecidableEq, Repr

structure CommerceProduct where
  id : Uuid
  courseId : Option Uuid
  sellerId : Uuid
  active : Bool
deriving DecidableEq, Repr

structure CommerceCartLine where
  id : Uuid
  productId : Uuid
deriving DecidableEq, Repr

inductive CommerceCartStatus where
  | active | converted
deriving DecidableEq, Repr

structure CommerceCart where
  id : Uuid
  buyerId : Uuid
  status : CommerceCartStatus
  currency : String
  lines : List CommerceCartLine
deriving DecidableEq, Repr

structure CommerceIdempotencyRecord where
  actorId : Uuid
  operation : String
  keyHash : String
  requestHash : String
  resourceType : String
  resourceId : Uuid
deriving DecidableEq, Repr

inductive VoucherStatus where
  | draft | active | disabled
deriving DecidableEq, Repr

inductive VoucherKind where
  | percentage | fixed
deriving DecidableEq, Repr

structure Voucher where
  id : Uuid
  code : String
  status : VoucherStatus
  kind : VoucherKind
  value : Int
  currency : String
  startsAt : Instant
  endsAt : Instant
  minimumCoursePriceMinor : Option Int
  maximumDiscountMinor : Option Int
  usageLimit : Option Int
  perUserLimit : Option Int
  redeemedCount : Int
  courseIds : List Uuid
  categorySlugs : List String
  eligibleUserIds : List Uuid
deriving DecidableEq, Repr

structure VoucherRedemption where
  voucherId : Uuid
  userId : Uuid
  courseId : Uuid
  redemptionKey : String
  originalAmountMinor : Int
  discountAmountMinor : Int
  finalAmountMinor : Int
  currency : String
deriving DecidableEq, Repr

inductive CommerceOrderStatus where
  | pendingPayment | confirmed | cancelled | expired | latePaymentReview | latePaymentRefunded
deriving DecidableEq, Repr

inductive CommerceFulfillmentStatus where
  | notStarted | processing | fulfilled | failed
deriving DecidableEq, Repr

structure CommerceOrder where
  id : Uuid
  cartId : Option Uuid
  buyerId : Uuid
  status : CommerceOrderStatus
  fulfillmentStatus : CommerceFulfillmentStatus
  subtotalAmountMinor : Int
  discountAmountMinor : Int
  payableAmountMinor : Int
  currency : String
  confirmedSettlementId : Option Uuid
  confirmedAt : Option Instant
deriving DecidableEq, Repr

inductive CommerceProductType where
  | course | membership
deriving DecidableEq, Repr

structure CommerceOrderLine where
  id : Uuid
  orderId : Uuid
  productType : CommerceProductType
  productReferenceId : Uuid
  sellerId : Uuid
  unitListPriceAmountMinor : Int
  discountAmountMinor : Int
  finalAmountMinor : Int
  currency : String
deriving DecidableEq, Repr

inductive CommerceBenefitType where
  | voucher | scholarship
deriving DecidableEq, Repr

structure CommerceOrderLineBenefit where
  orderLineId : Uuid
  benefitType : CommerceBenefitType
  sourceId : Uuid
  allocatedDiscountAmountMinor : Int
  reservationId : Uuid
deriving DecidableEq, Repr

inductive CommerceReservationStatus where
  | reserved | consumed | released | expired
deriving DecidableEq, Repr

structure CommercePromotionReservation where
  id : Uuid
  buyerId : Uuid
  orderId : Uuid
  orderLineId : Uuid
  benefitType : CommerceBenefitType
  voucherId : Option Uuid
  scholarshipAwardId : Option Uuid
  status : CommerceReservationStatus
  statusOperationId : Option Uuid
  reservedAt : Instant
  expiresAt : Instant
deriving DecidableEq, Repr

structure EntitlementPolicy where
  definitionId : Uuid
  valueType : String
  resetPeriod : String
  booleanValue : Option Bool
  quota : Option Int
deriving DecidableEq, Repr

structure MembershipPlanVersion where
  id : Uuid
  includedCourses : List Uuid
  serviceEntitlements : List EntitlementPolicy
deriving DecidableEq, Repr

structure RemovedCourseSnapshot where
  courseId : Uuid
  graceStartsAt : Option Instant
  graceEndsAt : Option Instant
deriving DecidableEq, Repr

structure MembershipCheckoutIntent where
  orderId : Uuid
  userId : Uuid
  versionId : Uuid
  startsAt : Instant
  endsAt : Instant
  removedCourses : List RemovedCourseSnapshot
deriving DecidableEq, Repr

inductive CollectionProvider where
  | payos | vnpay | bankTransfer | gds
deriving DecidableEq, Repr

def CollectionProvider.ofName : PaymentProviderName → CollectionProvider
  | .payos => .payos
  | .vnpay => .vnpay

def isPaymentProviderName (provider : CollectionProvider) : Bool :=
  provider = .payos || provider = .vnpay

inductive CommercePaymentStatus where
  | created | pending | paid | failed | cancelled | expired | latePaid
deriving DecidableEq, Repr

structure CommercePaymentAttempt where
  id : Uuid
  orderId : Uuid
  provider : CollectionProvider
  localRequestIdentity : Uuid
  providerPaymentIdentity : Option String
  providerReceivingAccountHash : Option String
  providerOrderCode : Option Int
  providerExpiresAt : Option Instant
  providerRequestStartedAt : Option Instant
  providerStatusCheckedAt : Option Instant
  providerCancellationRequestedAt : Option Instant
  amountMinor : Int
  currency : String
  status : CommercePaymentStatus
  createdAt : Instant
deriving DecidableEq, Repr

structure CommercePaymentEvent where
  id : Uuid
  paymentAttemptId : Uuid
  provider : CollectionProvider
  providerEventIdentity : String
  providerPaymentIdentity : String
  providerSettlementReference : String
  amountMinor : Int
  currency : String
  nextStatus : CommercePaymentStatus
  providerOccurredAt : Instant
deriving DecidableEq, Repr

inductive CommerceSettlementKind where
  | providerCollection | noPaymentRequired | walletCapture
deriving DecidableEq, Repr

inductive CommerceSettlementDisposition where
  | matched | internal | duplicateCollection | lateCollection
deriving DecidableEq, Repr

structure CommerceSettlement where
  id : Uuid
  orderId : Uuid
  paymentAttemptId : Option Uuid
  paymentEventId : Option Uuid
  kind : CommerceSettlementKind
  disposition : CommerceSettlementDisposition
  provider : Option CollectionProvider
  providerSettlementReference : Option String
  amountMinor : Int
  currency : String
  settledAt : Instant
deriving DecidableEq, Repr

inductive CommerceReconciliationKind where
  | duplicateCollection | latePayment | providerOutage | providerFactMismatch | unknownProviderStatus | paidNotFulfilled
deriving DecidableEq, Repr

inductive CommerceReconciliationStatus where
  | isOpen | resolved
deriving DecidableEq, Repr

inductive CommerceReconciliationResolution where
  | accept | refund | retrySucceeded | acknowledged
deriving DecidableEq, Repr

structure CommerceReconciliationCase where
  id : Uuid
  orderId : Uuid
  settlementId : Option Uuid
  paymentAttemptId : Option Uuid
  kind : CommerceReconciliationKind
  reasonCode : String
  sourceKey : List String
  status : CommerceReconciliationStatus
  resolution : Option CommerceReconciliationResolution
  resolvedById : Option Uuid
  lastCheckedAt : Option Instant
  checkCount : Nat
  updatedAt : Instant
deriving DecidableEq, Repr

inductive CommerceRefundStatus where
  | requested | recorded | rejected
deriving DecidableEq, Repr

structure CommerceRefundAllocation where
  orderLineId : Uuid
  amountMinor : Int
deriving DecidableEq, Repr

structure CommerceRefund where
  id : Uuid
  orderId : Uuid
  settlementId : Uuid
  reconciliationCaseId : Option Uuid
  amountMinor : Int
  provider : CollectionProvider
  status : CommerceRefundStatus
  externalReference : Option String
  rejectionReasonCode : Option String
  allocations : List CommerceRefundAllocation
  updatedAt : Instant
deriving DecidableEq, Repr

inductive BankRequestStatus where
  | pending | underReview | needsSupport | paid | cancelled | expired
deriving DecidableEq, Repr

structure CommerceBankTransferRequest where
  id : Uuid
  orderId : Uuid
  paymentAttemptId : Uuid
  bankBin : String
  accountNumber : String
  transferContent : String
  amountMinor : Int
  status : BankRequestStatus
  createdAt : Instant
  expiresAt : Instant
deriving DecidableEq, Repr

structure CommerceBankStatementEvidence where
  id : Uuid
  requestId : Uuid
  bankBin : String
  accountNumber : String
  transactionId : String
  amountMinor : Int
  transferContent : String
  occurredAt : Instant
  statementSha256 : String
  recordedAt : Instant
  exceptionReason : Option String
deriving DecidableEq, Repr

structure CommerceBankApproval where
  evidenceId : Uuid
  actorId : Uuid
deriving DecidableEq, Repr

structure CommerceFulfillmentEffect where
  orderId : Uuid
  orderLineId : Uuid
  effectType : String
  sourceId : String
  resourceType : String
  resourceId : Uuid
deriving DecidableEq, Repr

structure MembershipSubscription where
  id : Uuid
  userId : Uuid
  versionId : Uuid
  sourceOrderLineId : Option Uuid
  active : Bool
  startsAt : Instant
  expiresAt : Instant
deriving DecidableEq, Repr

inductive CourseAccessSourceType where
  | coursePurchase | membership | membershipGrace | unverifiedReceiptAccess
  | scholarship | tmiReward | admin | freeEnrollment | legacyEnrollment
deriving DecidableEq, Repr

structure CourseAccessGrant where
  id : Uuid
  userId : Uuid
  courseId : Uuid
  sourceType : CourseAccessSourceType
  sourceId : String
  active : Bool
  startsAt : Instant
  endsAt : Option Instant
  graceEndsAt : Option Instant
  revocationReason : Option String
deriving DecidableEq, Repr

structure ServiceEntitlementGrant where
  id : Uuid
  userId : Uuid
  sourceType : String
  sourceId : String
  policy : EntitlementPolicy
  quotaPoolId : Option Uuid
  active : Bool
  startsAt : Instant
  endsAt : Instant
deriving DecidableEq, Repr

structure ServiceEntitlementQuotaPool where
  id : Uuid
  orderLineId : Uuid
  definitionId : Uuid
deriving DecidableEq, Repr

structure Enrollment where
  userId : Uuid
  courseId : Uuid
deriving DecidableEq, Repr

structure LearningProgress where
  userId : Uuid
  courseId : Uuid
  lessonId : Uuid
deriving DecidableEq, Repr

structure CommerceNotificationOutbox where
  eventKey : String
  orderId : Uuid
  userId : Uuid
deriving DecidableEq, Repr

inductive ReceiptAccessStatus where
  | accessUnverified | revoked | verifiedPaid
deriving DecidableEq, Repr

structure ReceiptAccessGeneration where
  id : Uuid
  orderId : Uuid
  buyerId : Uuid
  generation : Nat
  status : ReceiptAccessStatus
  settlementId : Option Uuid
deriving DecidableEq, Repr

structure ReceiptAccessEffect where
  generationId : Uuid
  orderLineId : Uuid
  effectKind : String
  resourceType : String
  resourceId : Uuid
deriving DecidableEq, Repr

structure CommerceDb where
  users : List User
  courses : List Course
  lessons : List Lesson
  products : List CommerceProduct
  versions : List MembershipPlanVersion
  carts : List CommerceCart
  idempotency : List CommerceIdempotencyRecord
  vouchers : List Voucher
  redemptions : List VoucherRedemption
  orders : List CommerceOrder
  lines : List CommerceOrderLine
  benefits : List CommerceOrderLineBenefit
  reservations : List CommercePromotionReservation
  intents : List MembershipCheckoutIntent
  attempts : List CommercePaymentAttempt
  events : List CommercePaymentEvent
  settlements : List CommerceSettlement
  cases : List CommerceReconciliationCase
  refunds : List CommerceRefund
  bankRequests : List CommerceBankTransferRequest
  bankEvidence : List CommerceBankStatementEvidence
  bankApprovals : List CommerceBankApproval
  effects : List CommerceFulfillmentEffect
  subscriptions : List MembershipSubscription
  grants : List CourseAccessGrant
  entitlements : List ServiceEntitlementGrant
  quotaPools : List ServiceEntitlementQuotaPool
  enrollments : List Enrollment
  progress : List LearningProgress
  outbox : List CommerceNotificationOutbox
  generations : List ReceiptAccessGeneration
  receiptEffects : List ReceiptAccessEffect
  gds : GdsDb
deriving DecidableEq, Repr

def emptyCommerceDb (createdAt : Instant) : CommerceDb where
  users := []
  courses := []
  lessons := []
  products := []
  versions := []
  carts := []
  idempotency := []
  vouchers := []
  redemptions := []
  orders := []
  lines := []
  benefits := []
  reservations := []
  intents := []
  attempts := []
  events := []
  settlements := []
  cases := []
  refunds := []
  bankRequests := []
  bankEvidence := []
  bankApprovals := []
  effects := []
  subscriptions := []
  grants := []
  entitlements := []
  quotaPools := []
  enrollments := []
  progress := []
  outbox := []
  generations := []
  receiptEffects := []
  gds := emptyDb createdAt

abbrev CommerceTxn := Txn CommerceDb Fault

def userById (db : CommerceDb) (id : Uuid) : Option User :=
  db.users.find? (fun u => u.id = id)

def courseById (db : CommerceDb) (id : Uuid) : Option Course :=
  db.courses.find? (fun c => c.id = id)

def productById (db : CommerceDb) (id : Uuid) : Option CommerceProduct :=
  db.products.find? (fun p => p.id = id)

def versionById (db : CommerceDb) (id : Uuid) : Option MembershipPlanVersion :=
  db.versions.find? (fun v => v.id = id)

def voucherById (db : CommerceDb) (id : Uuid) : Option Voucher :=
  db.vouchers.find? (fun v => v.id = id)

def orderById (db : CommerceDb) (id : Uuid) : Option CommerceOrder :=
  db.orders.find? (fun o => o.id = id)

def lineById (db : CommerceDb) (id : Uuid) : Option CommerceOrderLine :=
  db.lines.find? (fun l => l.id = id)

def linesOf (db : CommerceDb) (orderId : Uuid) : List CommerceOrderLine :=
  db.lines.filter (fun l => l.orderId = orderId)

def intentOf (db : CommerceDb) (orderId : Uuid) : Option MembershipCheckoutIntent :=
  db.intents.find? (fun i => i.orderId = orderId)

def reservedOf (db : CommerceDb) (orderId : Uuid) : List CommercePromotionReservation :=
  db.reservations.filter (fun r => r.orderId = orderId ∧ r.status = .reserved)

def attemptById (db : CommerceDb) (id : Uuid) : Option CommercePaymentAttempt :=
  db.attempts.find? (fun a => a.id = id)

def attemptByOrderCode (db : CommerceDb) (provider : CollectionProvider) (code : Int) : Option CommercePaymentAttempt :=
  db.attempts.find? (fun a => a.provider = provider ∧ a.providerOrderCode = some code)

def attemptByPaymentIdentity (db : CommerceDb) (provider : CollectionProvider) (identity : String) :
    Option CommercePaymentAttempt :=
  db.attempts.find? (fun a => a.provider = provider ∧ a.providerPaymentIdentity = some identity)

def eventById (db : CommerceDb) (id : Uuid) : Option CommercePaymentEvent :=
  db.events.find? (fun e => e.id = id)

def eventByIdentity (db : CommerceDb) (provider : CollectionProvider) (identity : String) : Option CommercePaymentEvent :=
  db.events.find? (fun e => e.provider = provider ∧ e.providerEventIdentity = identity)

def settlementById (db : CommerceDb) (id : Uuid) : Option CommerceSettlement :=
  db.settlements.find? (fun s => s.id = id)

def settlementByReference (db : CommerceDb) (provider : CollectionProvider) (reference : String) :
    Option CommerceSettlement :=
  db.settlements.find? (fun s => s.provider = some provider ∧ s.providerSettlementReference = some reference)

def settlementByEvent (db : CommerceDb) (eventId : Uuid) : Option CommerceSettlement :=
  db.settlements.find? (fun s => s.paymentEventId = some eventId)

def caseById (db : CommerceDb) (id : Uuid) : Option CommerceReconciliationCase :=
  db.cases.find? (fun c => c.id = id)

def caseByKey (db : CommerceDb) (sourceKey : List String) : Option CommerceReconciliationCase :=
  db.cases.find? (fun c => c.sourceKey = sourceKey)

def caseBySettlement (db : CommerceDb) (settlementId : Uuid) : Option CommerceReconciliationCase :=
  db.cases.find? (fun c => c.settlementId = some settlementId)

def refundById (db : CommerceDb) (id : Uuid) : Option CommerceRefund :=
  db.refunds.find? (fun r => r.id = id)

def bankRequestByOrder (db : CommerceDb) (orderId : Uuid) : Option CommerceBankTransferRequest :=
  db.bankRequests.find? (fun r => r.orderId = orderId)

def bankRequestById (db : CommerceDb) (id : Uuid) : Option CommerceBankTransferRequest :=
  db.bankRequests.find? (fun r => r.id = id)

def evidenceById (db : CommerceDb) (id : Uuid) : Option CommerceBankStatementEvidence :=
  db.bankEvidence.find? (fun e => e.id = id)

def holdByOrder (db : CommerceDb) (orderId : Uuid) : Option Hold :=
  db.gds.holds.find? (fun h => h.orderRef = orderId)

end EduAi.Commerce
