import EduAi.Payments.Reconciliation

set_option autoImplicit false

namespace EduAi.Payments

open EduAi.Store EduAi.Gds EduAi.Commerce

def cancelOperation : String :=
  "payment.cancel-request"

-- Among attempts created at the same instant the last row stands for the one the source happens to read.
def latestAttempt (db : CommerceDb) (orderId : Uuid) : Option CommercePaymentAttempt :=
  (db.attempts.filter (fun a => a.orderId = orderId)).foldl (fun latest a =>
    match latest with
    | none => some a
    | some best => if best.createdAt ≤ a.createdAt then some a else some best) none

def orderOfBuyer (db : CommerceDb) (orderId buyerId : Uuid) : Option CommerceOrder :=
  (orderById db orderId).filter (fun o => o.buyerId = buyerId)

def isClosedOrder (o : CommerceOrder) : Bool :=
  o.status = .cancelled || o.status = .expired

def returnedPatch (expired : Bool) (operationId : Uuid) : ReservationPatch :=
  if expired then .expire operationId else .release operationId

def closeOrder (operationId : Uuid → Uuid) (o : CommerceOrder) (expired : Bool) : CommerceTxn CommerceOrder := do
  let db ← get
  (reservedOf db o.id).forM (fun r => updateReservation r.id (returnedPatch expired (operationId r.id)))
  updateOrder o.id (.close expired)
  let db ← get
  orThrow (orderById db o.id) (.missingRow "commerce_orders")

structure PreparedCancellation where
  order : CommerceOrder
  attempt : Option CommercePaymentAttempt
  shouldCallProvider : Bool
deriving DecidableEq, Repr

structure CancelRequest where
  learnerId : Uuid
  orderId : Uuid
  keyHash : String
  requestHash : String
deriving DecidableEq, Repr

def closeOrRefuse (operationId : Uuid → Uuid) (o : CommerceOrder) (attempt : Option CommercePaymentAttempt) :
    CommerceTxn CommerceOrder :=
  match attempt with
  | none => closeOrder operationId o false
  | some a => do
      require (a.status = .pending ∧ namedText a.providerPaymentIdentity) (.conflict "PAYMENT_RECONCILIATION_REQUIRED")
      pure o

def cancelRecord (request : CancelRequest) (o : CommerceOrder) (attempt : Option CommercePaymentAttempt) :
    CommerceIdempotencyRecord where
  actorId := request.learnerId
  operation := cancelOperation
  keyHash := request.keyHash
  requestHash := request.requestHash
  resourceType := if attempt.isSome then "payment_attempt" else "commerce_order"
  resourceId := (attempt.map (fun a => a.id)).getD o.id

def recordCancellation (request : CancelRequest) (o : CommerceOrder) (attempt : Option CommercePaymentAttempt) :
    CommerceTxn Unit := do
  let db ← get
  if (idempotencyRecord db request.learnerId cancelOperation request.keyHash).isNone then
    recordIdempotency (cancelRecord request o attempt)
  else pure ()

def prepare (operationId : Uuid → Uuid) (request : CancelRequest) : CommerceTxn PreparedCancellation := do
  let db ← get
  let existing := idempotencyRecord db request.learnerId cancelOperation request.keyHash
  require (existing.all (fun r => r.requestHash = request.requestHash)) (.conflict "IDEMPOTENCY_KEY_REUSED")
  let o ← orThrow (orderOfBuyer db request.orderId request.learnerId) (.notFound "Payment request was not found.")
  let attempt := latestAttempt db o.id
  if isClosedOrder o then pure { order := o, attempt, shouldCallProvider := false }
  else do
    require (o.status = .pendingPayment) (.conflict "ORDER_NOT_CANCELLABLE")
    let order ← closeOrRefuse operationId o attempt
    recordCancellation request o attempt
    pure { order, attempt, shouldCallProvider := attempt.isSome }

def closedPayment : PaymentProviderStatus → CommercePaymentStatus
  | .failed => .failed
  | .expired => .expired
  | _ => .cancelled

def closeAttempt (now : Instant) (a : CommercePaymentAttempt) (status : PaymentProviderStatus) (requested : Bool) :
    CommerceTxn Unit :=
  updateAttempt a.id (.close (closedPayment status) now requested)

def finish (now : Instant) (operationId : Uuid → Uuid) (learnerId attemptId : Uuid) (status : PaymentProviderStatus)
    (requested : Bool) : CommerceTxn CommerceOrder := do
  let db ← get
  let a ← orThrow (attemptById db attemptId) (.missingRow "commerce_payment_attempts")
  let o ← orThrow (orderOfBuyer db a.orderId learnerId) (.notFound "Payment request was not found.")
  if isClosedOrder o then pure o
  else do
    require (a.status = .pending ∧ o.status = .pendingPayment) (.conflict "PAYMENT_RECONCILIATION_REQUIRED")
    closeAttempt now a status requested
    closeOrder operationId o (status = .expired)

def finishExpiry (now : Instant) (operationId : Uuid → Uuid) (attemptId : Uuid) (status : PaymentProviderStatus)
    (requested : Bool) : CommerceTxn CommerceOrder := do
  let db ← get
  let a ← orThrow (attemptById db attemptId) (.missingRow "commerce_payment_attempts")
  let o ← orThrow (orderById db a.orderId) (.missingRow "commerce_orders")
  if o.status = .expired then pure o
  else do
    require (a.providerExpiresAt.all (fun expiry => expiry ≤ now)) (.conflict "PAYMENT_STATE_CHANGED_DURING_EXPIRY")
    require (a.status = .pending ∧ o.status = .pendingPayment) (.conflict "PAYMENT_RECONCILIATION_REQUIRED")
    closeAttempt now a status requested
    closeOrder operationId o true

def factConcern (a : CommercePaymentAttempt) (status : PaymentRequestStatus) : Option String :=
  if a.providerPaymentIdentity ≠ some status.providerPaymentIdentity then some "PROVIDER_PAYMENT_IDENTITY_MISMATCH"
  else if a.providerOrderCode ≠ some status.localOrderReference then some "PROVIDER_ORDER_REFERENCE_MISMATCH"
  else if a.amountMinor ≠ status.amountMinor ∨ a.currency ≠ "VND" then some "PROVIDER_AMOUNT_MISMATCH"
  else none

-- What cancel and runExpiry do with the status PayOS answered: the checks are the same in both.
def lifecycleAction (a : CommercePaymentAttempt) (status : PaymentRequestStatus) : WordAction :=
  match factConcern a status with
  | some concern => .flag (reviewOf .providerFactMismatch concern)
  | none =>
      if status.status = .paid then paidAction a status
      else if isClosingStatus status.status then .close status.status
      else .flag (reviewOf .unknownProviderStatus "PAYMENT_NOT_CLOSED_BY_PROVIDER")

def cancelledAs : VnPayLifecycleOutcome → Option PaymentProviderStatus
  | .failed => some .failed
  | .expired => some .expired
  | .pending => some .cancelled
  | .notFound => some .cancelled
  | _ => none

def expiredAs : VnPayLifecycleOutcome → Option PaymentProviderStatus
  | .failed => some .failed
  | .expired => some .expired
  | .pending => some .expired
  | .notFound => some .expired
  | _ => none

def isDue (now : Instant) (db : CommerceDb) (a : CommercePaymentAttempt) : Bool :=
  a.status = .pending ∧ a.providerExpiresAt.any (fun expiry => expiry ≤ now) ∧ a.provider ≠ .bankTransfer ∧
    ((a.provider = .vnpay ∧ a.providerOrderCode.isSome) ∨ (a.provider ≠ .vnpay ∧ a.providerPaymentIdentity.isSome)) ∧
    (orderById db a.orderId).any (fun o => o.status = .pendingPayment)

def stateChangedReview : Review :=
  reviewOf .unknownProviderStatus "PAYMENT_STATE_CHANGED_DURING_EXPIRY"

def outageReview : Review :=
  reviewOf .providerOutage "PROVIDER_STATUS_UNAVAILABLE"

def Fault.isConflict : Fault → Bool
  | .conflict _ => true
  | _ => false

-- What runExpiry flags an attempt for when its turn threw.
def expiryFailure (fault : Fault) : Review :=
  if Fault.isConflict fault then stateChangedReview else outageReview

end EduAi.Payments
