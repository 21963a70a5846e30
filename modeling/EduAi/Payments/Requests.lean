import EduAi.Payments.Fulfillment

set_option autoImplicit false

namespace EduAi.Payments

open EduAi.Store EduAi.Gds EduAi.Commerce

def paymentRequestOperation : String :=
  "payment.create-request"

def requestLifetime : Int := 900000

def hexValue (c : Char) : Int :=
  if '0' ≤ c ∧ c ≤ '9' then c.toNat - '0'.toNat
  else if 'a' ≤ c ∧ c ≤ 'f' then c.toNat - 'a'.toNat + 10
  else c.toNat - 'A'.toNat + 10

def orderCode (localRequestIdentity : Uuid) : Int :=
  let digits := (localRequestIdentity.toList.filter (fun c => c ≠ '-')).take 13
  let value := digits.foldl (fun n c => 16 * n + hexValue c) 0
  if value = 0 then 1 else value

structure PaymentRequestDraw where
  attemptId : Uuid
  settlementId : Uuid
  localRequestIdentity : Uuid
  access : AccessDraw

structure PaymentRequest where
  learnerId : Uuid
  orderId : Uuid
  keyHash : String
  requestHash : String
  defaultProvider : PaymentProviderName
  requestedProvider : Option PaymentProviderName
deriving DecidableEq, Repr

structure PreparedRequest where
  order : CommerceOrder
  attempt : Option CommercePaymentAttempt
  shouldCallProvider : Bool
deriving DecidableEq, Repr

def requireOwnedOrder (learnerId orderId : Uuid) : CommerceTxn CommerceOrder := do
  let db ← get
  orThrow ((orderById db orderId).filter (fun o => o.buyerId = learnerId)) (.notFound "Payment request was not found.")

def completeIdempotency (request : PaymentRequest) (resourceType : String) (resourceId : Uuid) : CommerceTxn Unit :=
  recordIdempotency {
    actorId := request.learnerId
    operation := paymentRequestOperation
    keyHash := request.keyHash
    requestHash := request.requestHash
    resourceType
    resourceId }

def replayRequest (request : PaymentRequest) (existing : CommerceIdempotencyRecord) : CommerceTxn PreparedRequest := do
  require (existing.requestHash = request.requestHash) (.conflict "IDEMPOTENCY_KEY_REUSED")
  let order ← requireOwnedOrder request.learnerId request.orderId
  let db ← get
  let attempt := if existing.resourceType = "payment_attempt" then attemptById db existing.resourceId else none
  pure { order, attempt, shouldCallProvider := false }

def waivedSettlement (id : Uuid) (orderId : Uuid) (now : Instant) : CommerceSettlement where
  id := id
  orderId := orderId
  paymentAttemptId := none
  paymentEventId := none
  kind := .noPaymentRequired
  disposition := .internal
  provider := none
  providerSettlementReference := none
  amountMinor := 0
  currency := "VND"
  settledAt := now

def confirmNoPaymentRequired (deployment : Deployment) (now : Instant) (draw : PaymentRequestDraw) (learnerId : Uuid)
    (o : CommerceOrder) : CommerceTxn CommerceOrder :=
  if o.status = .confirmed then pure o
  else do
    let db ← get
    require (o.status = .pendingPayment ∧ (intentOf db o.id).isSome ∧ reservedOf db o.id = []) (.conflict "ORDER_NOT_PAYABLE")
    insertSettlement now (waivedSettlement draw.settlementId o.id now)
    updateOrder o.id (.confirm draw.settlementId now)
    fulfillConfirmedOrder deployment now draw.access o.id
    requireOwnedOrder learnerId o.id

def waivePayment (deployment : Deployment) (now : Instant) (draw : PaymentRequestDraw) (request : PaymentRequest)
    (o : CommerceOrder) : CommerceTxn PreparedRequest := do
  let order ← confirmNoPaymentRequired deployment now draw request.learnerId o
  completeIdempotency request "commerce_order" o.id
  pure { order, attempt := none, shouldCallProvider := false }

def reuseAttempt (request : PaymentRequest) (o : CommerceOrder) (a : CommercePaymentAttempt) : CommerceTxn PreparedRequest := do
  require (a.provider ≠ .bankTransfer) (.conflict "PAYMENT_METHOD_ALREADY_SELECTED")
  require (request.requestedProvider.all (fun provider => a.provider = .ofName provider))
    (.conflict "PAYMENT_METHOD_ALREADY_SELECTED")
  completeIdempotency request "payment_attempt" a.id
  pure { order := o, attempt := some a, shouldCallProvider := false }

def paymentExpiry (db : CommerceDb) (now : Instant) (o : CommerceOrder) : Instant :=
  (reservedOf db o.id).foldl (fun earliest r => if r.expiresAt < earliest then r.expiresAt else earliest) (now + requestLifetime)

def requestedAttempt (now : Instant) (draw : PaymentRequestDraw) (provider : PaymentProviderName) (o : CommerceOrder)
    (expiry : Instant) : CommercePaymentAttempt where
  id := draw.attemptId
  orderId := o.id
  provider := .ofName provider
  localRequestIdentity := draw.localRequestIdentity
  providerPaymentIdentity := none
  providerReceivingAccountHash := none
  providerOrderCode := some (orderCode draw.localRequestIdentity)
  providerExpiresAt := some expiry
  providerRequestStartedAt := some now
  providerStatusCheckedAt := none
  providerCancellationRequestedAt := none
  amountMinor := o.payableAmountMinor
  currency := "VND"
  status := .created
  createdAt := now

def openRequest (deployment : Deployment) (now : Instant) (draw : PaymentRequestDraw) (request : PaymentRequest)
    (o : CommerceOrder) : CommerceTxn PreparedRequest := do
  require (request.defaultProvider ∈ deployment.enabledProviders) (.unavailable "PAYMENT_PROVIDER_DISABLED")
  let db ← get
  require (request.defaultProvider = .payos ∧ deployment.gdsSandbox →
      ∀ t ∈ db.gds.topups, t.payosOrderCode ≠ orderCode draw.localRequestIdentity) (.conflict "PAYOS_ORDER_IDENTITY_COLLISION")
  require (now + 30000 < paymentExpiry db now o) (.conflict "ORDER_PAYMENT_WINDOW_EXPIRED")
  let attempt := requestedAttempt now draw request.defaultProvider o (paymentExpiry db now o)
  insertAttempt attempt
  completeIdempotency request "payment_attempt" attempt.id
  pure { order := o, attempt := some attempt, shouldCallProvider := true }

def preparePayment (deployment : Deployment) (now : Instant) (draw : PaymentRequestDraw) (request : PaymentRequest)
    (o : CommerceOrder) : CommerceTxn PreparedRequest := do
  require (o.status = .pendingPayment ∧ o.currency = "VND" ∧ 0 ≤ o.payableAmountMinor) (.conflict "ORDER_NOT_PAYABLE")
  let db ← get
  require (deployment.gdsSandbox → (holdByOrder db o.id).isNone) (.conflict "PAYMENT_METHOD_ALREADY_SELECTED")
  match db.attempts.find? (fun a => a.orderId = o.id ∧ isOpenAttempt a) with
  | some a => reuseAttempt request o a
  | none => openRequest deployment now draw request o

def prepareRequest (deployment : Deployment) (now : Instant) (draw : PaymentRequestDraw) (request : PaymentRequest) :
    CommerceTxn PreparedRequest := do
  let db ← get
  match idempotencyRecord db request.learnerId paymentRequestOperation request.keyHash with
  | some existing => replayRequest request existing
  | none => do
      let o ← requireOwnedOrder request.learnerId request.orderId
      if o.payableAmountMinor = 0 then waivePayment deployment now draw request o
      else preparePayment deployment now draw request o

-- The request the provider created; the attempt is moved whatever became of it meanwhile, and its guards decide.
def completeProviderRequest (deployment : Deployment) (a : CommercePaymentAttempt) (created : CreatedPaymentRequest) :
    CommerceTxn Unit :=
  updateAttempt a.id (.attach created.providerPaymentIdentity
    ((created.receivingAccount.filter (fun account => account ≠ "")).map deployment.hashAccount))

def recordProviderFailure (attemptId : Uuid) : CommerceTxn Unit := do
  let db ← get
  match attemptById db attemptId with
  | none => pure ()
  | some a => if a.status = .created then updateAttempt attemptId .reject else pure ()

end EduAi.Payments
