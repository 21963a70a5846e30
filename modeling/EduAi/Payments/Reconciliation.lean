import EduAi.Payments.Fulfillment
import EduAi.Payments.VerifiedEvents

set_option autoImplicit false

namespace EduAi.Payments

open EduAi.Store EduAi.Gds EduAi.Commerce

def CommerceReconciliationKind.text : CommerceReconciliationKind → String
  | .duplicateCollection => "duplicate_collection"
  | .latePayment => "late_payment"
  | .providerOutage => "provider_outage"
  | .providerFactMismatch => "provider_fact_mismatch"
  | .unknownProviderStatus => "unknown_provider_status"
  | .paidNotFulfilled => "paid_not_fulfilled"

structure Review where
  kind : CommerceReconciliationKind
  reasonCode : String
  settlementId : Option Uuid
deriving DecidableEq, Repr

def Review.linkedSettlementId (r : Review) : Option Uuid :=
  if r.kind = .paidNotFulfilled then r.settlementId else none

def Review.safeReasonCode (r : Review) : String :=
  if r.kind = .paidNotFulfilled then paidOrderFulfillmentRetryRequired else r.reasonCode

def Review.sourceKeyBase (r : Review) (attemptId : Uuid) : List String :=
  [attemptId, CommerceReconciliationKind.text r.kind] ++ r.linkedSettlementId.toList

-- The reason is read by a statement of its own before the upsert, so it is an input here.
def Review.sourceKey (deployment : Deployment) (r : Review) (attemptId : Uuid) (seen : Option String) : List String :=
  match seen with
  | some reasonCode =>
      if reasonCode ≠ r.safeReasonCode then r.sourceKeyBase attemptId ++ [deployment.hashReason r.safeReasonCode]
      else r.sourceKeyBase attemptId
  | none => r.sourceKeyBase attemptId

def flaggedCase (deployment : Deployment) (now : Instant) (caseId : Uuid) (a : CommercePaymentAttempt) (r : Review)
    (seen : Option String) : CommerceReconciliationCase :=
  openedCase caseId a r.linkedSettlementId r.kind r.safeReasonCode (r.sourceKey deployment a.id seen) (some now) now

def flagAttempt (deployment : Deployment) (now : Instant) (caseId : Uuid) (a : CommercePaymentAttempt) (r : Review)
    (seen : Option String) : CommerceTxn Unit := do
  let db ← get
  match caseByKey db (r.sourceKey deployment a.id seen) with
  | some c => updateCase c.id (.recheck now)
  | none => insertCase (flaggedCase deployment now caseId a r seen)

def reviewOf (kind : CommerceReconciliationKind) (reasonCode : String) : Review where
  kind := kind
  reasonCode := reasonCode
  settlementId := none

def factMismatch (a : CommercePaymentAttempt) (status : PaymentRequestStatus) : Option String :=
  if namedText a.providerPaymentIdentity ∧ a.providerPaymentIdentity ≠ some status.providerPaymentIdentity then
    some "PROVIDER_PAYMENT_IDENTITY_MISMATCH"
  else if a.providerOrderCode ≠ some status.localOrderReference then some "PROVIDER_ORDER_REFERENCE_MISMATCH"
  else if a.amountMinor ≠ status.amountMinor ∨ a.currency ≠ "VND" then some "PROVIDER_AMOUNT_MISMATCH"
  else none

def verifiedFailureReason (a : CommercePaymentAttempt) (status : PaymentRequestStatus) : String :=
  if status.amountPaidMinor ≠ a.amountMinor ∨ status.amountRemainingMinor ≠ 0 then "PROVIDER_PAID_AMOUNT_FACTS_INCOMPLETE"
  else if status.transactions.all (fun t => t.amountMinor ≠ a.amountMinor) then "PROVIDER_PAID_TRANSACTION_AMOUNT_MISSING"
  else if a.providerOrderCode = none then "PROVIDER_PAID_ORDER_REFERENCE_MISSING"
  else "PROVIDER_PAID_FACTS_INCOMPLETE"

def isClosingStatus (status : PaymentProviderStatus) : Bool :=
  status = .cancelled || status = .expired || status = .failed

inductive WordAction where
  | flag (review : Review)
  | ingest (v : VerifiedPaymentWebhook)
  | close (status : PaymentProviderStatus)
  | none
deriving DecidableEq, Repr

def paidAction (a : CommercePaymentAttempt) (status : PaymentRequestStatus) : WordAction :=
  match toVerifiedPaymentWebhook a status with
  | some v => .ingest v
  | none => .flag (reviewOf .providerFactMismatch (verifiedFailureReason a status))

def underpaidReason : PaymentProviderStatus → Option String
  | .underpaid => some "PROVIDER_AMOUNT_UNDERPAID"
  | .failed => some "PROVIDER_PAYMENT_FAILED"
  | .cancelled => some "PROVIDER_PAYMENT_CANCELLED"
  | .expired => some "PROVIDER_PAYMENT_EXPIRED"
  | _ => none

-- What a reconciliation run does with the PayOS status of an attempt it has compared.
def reconciledAction (a : CommercePaymentAttempt) (status : PaymentRequestStatus) : WordAction :=
  match factMismatch a status with
  | some reason => .flag (reviewOf .providerFactMismatch reason)
  | none =>
      if status.status = .paid then paidAction a status
      else
        match underpaidReason status.status with
        | some reason => .flag (reviewOf .providerFactMismatch reason)
        | none => .none

def checkedPatch (deployment : Deployment) (now : Instant) (current : CommercePaymentAttempt) (status : PaymentRequestStatus) :
    AttemptPatch :=
  let attach := ¬ namedText current.providerPaymentIdentity
  .checked now (if attach then some status.providerPaymentIdentity else none)
    (if attach ∧ namedText status.receivingAccount then status.receivingAccount.map deployment.hashAccount else none)
    (current.status = .created ∧ ¬ isClosingStatus status.status)

def persistCheckedFacts (deployment : Deployment) (now : Instant) (attemptId : Uuid) (status : PaymentRequestStatus) :
    CommerceTxn Unit := do
  let db ← get
  let current ← orThrow (attemptById db attemptId) (.missingRow "commerce_payment_attempts")
  updateAttempt attemptId (checkedPatch deployment now current status)

def vnpayFactMismatch (a : CommercePaymentAttempt) (v : VnPayQueryDrObservation) : Option String :=
  if ¬ isOrderReference v.providerOrderReference ∨ a.providerOrderCode ≠ some (decimalValue v.providerOrderReference) then
    some "PROVIDER_ORDER_REFERENCE_MISMATCH"
  else if namedText a.providerPaymentIdentity ∧ a.providerPaymentIdentity ≠ some v.providerOrderReference then
    some "PROVIDER_PAYMENT_IDENTITY_MISMATCH"
  else if v.queryRequestStatus = .success ∧ (a.currency ≠ "VND" ∨ v.amountMinor ≠ some a.amountMinor) then
    some "PROVIDER_AMOUNT_MISMATCH"
  else none

def recoverableCreate (current : CommercePaymentAttempt) (v : VnPayQueryDrObservation) : Bool :=
  current.status = .created ∧ v.queryRequestStatus = .success ∧ (v.transactionStatus = .pending ∨ v.transactionStatus = .paid)

def persistVnPayCheckedFacts (now : Instant) (attemptId : Uuid) (v : VnPayQueryDrObservation) : CommerceTxn Unit := do
  let db ← get
  let current ← orThrow (attemptById db attemptId) (.missingRow "commerce_payment_attempts")
  require (current.provider = .vnpay ∧ (current.providerPaymentIdentity = none ∨
    current.providerPaymentIdentity = some v.providerOrderReference)) (.provider "invalid_request" false)
  updateAttempt attemptId (.checked now
    (if namedText current.providerPaymentIdentity then none else some v.providerOrderReference) none (recoverableCreate current v))

def classifyVnPayQueryStatus : VnPayQueryDrRequestStatus → Review
  | .notFound => reviewOf .unknownProviderStatus "PROVIDER_TRANSACTION_NOT_FOUND"
  | .duplicateRequest => reviewOf .providerOutage "PROVIDER_STATUS_DUPLICATE_REQUEST"
  | _ => reviewOf .providerOutage "PROVIDER_STATUS_PROVIDER_ERROR"

def classifyVnPayTransactionStatus : VnPayQueryDrTransactionStatus → Review
  | .failed => reviewOf .providerFactMismatch "PROVIDER_PAYMENT_FAILED"
  | .expired => reviewOf .providerFactMismatch "PROVIDER_PAYMENT_EXPIRED"
  | .reversed => reviewOf .unknownProviderStatus "PROVIDER_PAYMENT_REVERSED"
  | .fraudSuspected => reviewOf .unknownProviderStatus "PROVIDER_FRAUD_SUSPECTED"
  | .refundProcessing => reviewOf .unknownProviderStatus "PROVIDER_REFUND_PROCESSING"
  | .refundSent => reviewOf .unknownProviderStatus "PROVIDER_REFUND_SENT"
  | .refundRejected => reviewOf .unknownProviderStatus "PROVIDER_REFUND_REJECTED"
  | _ => reviewOf .unknownProviderStatus "UNKNOWN_PROVIDER_STATUS"

-- What processVnPayObservation does once the checked facts are on record, or instead of recording them.
def observedAction (deployment : Deployment) (a : CommercePaymentAttempt) (v : VnPayQueryDrObservation) : WordAction :=
  match vnpayFactMismatch a v with
  | some reason => .flag (reviewOf .providerFactMismatch reason)
  | none =>
      if v.queryRequestStatus ≠ .success then .flag (classifyVnPayQueryStatus v.queryRequestStatus)
      else if v.transactionStatus = .pending then .none
      else if v.transactionStatus ≠ .paid then .flag (classifyVnPayTransactionStatus v.transactionStatus)
      else
        match toVerifiedVnPayQueryDrWebhook deployment.hashEvent
            { a with providerPaymentIdentity := some v.providerOrderReference } v with
        | some verified => .ingest verified
        | none => .flag (reviewOf .providerFactMismatch "PROVIDER_PAID_FACTS_INCOMPLETE")

inductive VnPayLifecycleOutcome where
  | paid | pending | notFound | failed | expired | special | unknownStatus | providerError | invalidProviderResponse
deriving DecidableEq, Repr

def lifecycleOutcome (v : VnPayQueryDrObservation) : VnPayLifecycleOutcome :=
  match v.queryRequestStatus with
  | .notFound => .notFound
  | .success =>
      match v.transactionStatus with
      | .paid => .paid
      | .pending => .pending
      | .failed => .failed
      | .expired => .expired
      | .unknown => .unknownStatus
      | _ => .special
  | _ => .providerError

-- The rows assertRetryInvariant reads behind a case.
def retryInvariant (db : CommerceDb) (c : CommerceReconciliationCase) (requireFulfilled : Bool) : Bool :=
  c.kind = .paidNotFulfilled ∧ (c.settlementId.bind (settlementById db)).any (fun s =>
    s.orderId = c.orderId ∧ (attemptOfSettlement db s).any (fun a => c.paymentAttemptId = some a.id ∧
      (eventOfSettlement db s).any (fun e => e.providerEventIdentity ≠ "" ∧
        (orderById db c.orderId).any (fun o => gatewayPaymentProven o s a e ∧
          (requireFulfilled → o.fulfillmentStatus = .fulfilled)))))

def loadOpenCase (caseId : Uuid) (expectedUpdatedAt : Instant) : CommerceTxn CommerceReconciliationCase := do
  let db ← get
  let c ← orThrow (caseById db caseId) (.notFound "Payment review case not found.")
  require (c.status = .isOpen) (.conflict "Payment review case is already resolved.")
  require (c.updatedAt = expectedUpdatedAt) (.conflict "RECONCILIATION_VERSION_CONFLICT")
  pure c

-- The check before the retried fulfilment; it answers with the order and the settlement to fulfil.
def prepareRetry (caseId : Uuid) (expectedUpdatedAt : Instant) : CommerceTxn (Uuid × Uuid) := do
  let c ← loadOpenCase caseId expectedUpdatedAt
  let db ← get
  require (c.kind = .paidNotFulfilled) (.conflict "Only failed fulfillment review can be retried.")
  require ((orderById db c.orderId).all (fun o => o.fulfillmentStatus ≠ .fulfilled)) (.conflict "FULFILLMENT_ALREADY_RECORDED")
  require (retryInvariant db c false) (.conflict "PAYMENT_SETTLEMENT_CONFLICT")
  let settlementId ← orThrow c.settlementId (.conflict "PAYMENT_SETTLEMENT_CONFLICT")
  pure (c.orderId, settlementId)

def finalizeRetry (now : Instant) (actorId : Uuid) (caseId : Uuid) (expectedUpdatedAt : Instant) : CommerceTxn Unit := do
  let c ← loadOpenCase caseId expectedUpdatedAt
  let db ← get
  require (c.kind = .paidNotFulfilled) (.conflict "Only failed fulfillment review can be retried.")
  require (retryInvariant db c true) (.conflict "PAYMENT_SETTLEMENT_CONFLICT")
  updateCase c.id (.resolve .retrySucceeded actorId now)

end EduAi.Payments
