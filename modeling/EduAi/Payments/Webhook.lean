import EduAi.Commerce.Deferred

set_option autoImplicit false

namespace EduAi.Payments

open EduAi.Store EduAi.Gds EduAi.Commerce

def isOrderReference (text : String) : Bool :=
  match text.toList with
  | [] => false
  | first :: rest => '1' ≤ first && first ≤ '9' && rest.length ≤ 15 && rest.all (fun c => '0' ≤ c && c ≤ '9')

def decimalValue (text : String) : Int :=
  text.toList.foldl (fun value c => 10 * value + (c.toNat - '0'.toNat : Int)) 0

def providerOrderCode (v : VerifiedPaymentWebhook) : Option Int :=
  if isOrderReference v.providerOrderReference then some (decimalValue v.providerOrderReference) else none

def internalError : Fault :=
  .recovery "identity" "PAYMENT_RECOVERY_INTERNAL_ERROR"

inductive IdentityMismatchCode where
  | eventIdentity | reference | fact | state
deriving DecidableEq, Repr

def IdentityMismatchCode.text : IdentityMismatchCode → String
  | .eventIdentity => "PAYMENT_EVENT_IDENTITY_MISMATCH"
  | .reference => "PAYMENT_REFERENCE_MISMATCH"
  | .fact => "PAYMENT_FACT_MISMATCH"
  | .state => "PAYMENT_STATE_MISMATCH"

inductive PaymentWebhookProcessingResult where
  | confirmed (orderId settlementId : Uuid) (replayed : Bool)
  | latePaymentReview
  | duplicate (replayed : Bool)
  | unknownPaymentAcknowledged
  | rejected (error : IdentityMismatchCode)
deriving DecidableEq, Repr

inductive VerificationClassification where
  | known | unknown | alreadyConfirmed | invalidAmount | invalidIdentity
deriving DecidableEq, Repr

-- The uuids drawn while one event is applied; a reservation draws its own operation.
structure WebhookDraw where
  eventId : Uuid
  settlementId : Uuid
  caseId : Uuid
  operationId : Uuid → Uuid

def ownedReservation (db : CommerceDb) (a : CommercePaymentAttempt) (o : CommerceOrder) (r : CommercePromotionReservation) :
    Bool :=
  r.orderId = a.orderId ∧ r.buyerId = o.buyerId ∧ (lineById db r.orderLineId).any (fun l => l.orderId = a.orderId)

-- The buyer is a NOT NULL uuid, so the source's truthiness check on it always passes.
def paymentFactsMatch (db : CommerceDb) (a : CommercePaymentAttempt) (o : CommerceOrder) (v : VerifiedPaymentWebhook) : Bool :=
  a.provider = .ofName v.provider ∧ a.providerPaymentIdentity = some v.providerPaymentIdentity ∧
    (providerOrderCode v).isSome ∧ a.providerOrderCode = providerOrderCode v ∧ a.amountMinor = v.amountMinor ∧
    a.currency = v.currency ∧ o.id = a.orderId ∧ o.payableAmountMinor = v.amountMinor ∧ o.currency = v.currency ∧
    ∀ r ∈ reservedOf db o.id, ownedReservation db a o r

def matchedSettlementIsCanonical (a : CommercePaymentAttempt) (o : CommerceOrder) (settlementId : Uuid) : Bool :=
  a.status = .paid ∧ o.status = .confirmed ∧ o.confirmedSettlementId = some settlementId

def fromReceipt (v : VerifiedPaymentWebhook) : Bool :=
  v.occurredAtSource = some .receipt

def priorEventMatches (db : CommerceDb) (e : CommercePaymentEvent) (a : CommercePaymentAttempt) (o : CommerceOrder)
    (s : CommerceSettlement) (v : VerifiedPaymentWebhook) : Bool :=
  e.provider = .ofName v.provider ∧ e.providerEventIdentity = v.providerEventIdentity ∧
    e.providerPaymentIdentity = v.providerPaymentIdentity ∧ e.providerSettlementReference = v.providerSettlementReference ∧
    e.amountMinor = v.amountMinor ∧ e.currency = v.currency ∧ e.paymentAttemptId = a.id ∧
    (fromReceipt v ∨ e.providerOccurredAt = v.occurredAt) ∧ paymentFactsMatch db a o v ∧ s.orderId = a.orderId ∧
    s.paymentAttemptId = some a.id ∧ s.paymentEventId = some e.id ∧ s.kind = .providerCollection ∧
    s.provider = some (.ofName v.provider) ∧ s.providerSettlementReference = some v.providerSettlementReference ∧
    s.amountMinor = v.amountMinor ∧ s.currency = v.currency ∧ (fromReceipt v ∨ s.settledAt = v.occurredAt) ∧
    (s.disposition ≠ .matched ∨ matchedSettlementIsCanonical a o s.id)

-- Two signed VNPay observations of one settlement may differ in event identity and time; PayOS replays may not.
def existingSettlementMatches (db : CommerceDb) (s : CommerceSettlement) (a : CommercePaymentAttempt) (o : CommerceOrder)
    (v : VerifiedPaymentWebhook) : Bool :=
  (eventOfSettlement db s).any (fun e => s.orderId = a.orderId ∧ s.paymentAttemptId = some a.id ∧
    s.paymentEventId = some e.id ∧ s.kind = .providerCollection ∧ s.provider = some (.ofName v.provider) ∧
    s.providerSettlementReference = some v.providerSettlementReference ∧ s.amountMinor = v.amountMinor ∧
    s.currency = v.currency ∧ (v.provider = .vnpay ∨ fromReceipt v ∨ s.settledAt = v.occurredAt) ∧
    e.paymentAttemptId = a.id ∧ e.provider = .ofName v.provider ∧
    (v.provider = .vnpay ∨ e.providerEventIdentity = v.providerEventIdentity) ∧
    e.providerPaymentIdentity = v.providerPaymentIdentity ∧
    e.providerSettlementReference = v.providerSettlementReference ∧ e.amountMinor = v.amountMinor ∧
    e.currency = v.currency ∧ (v.provider = .vnpay ∨ fromReceipt v ∨ e.providerOccurredAt = v.occurredAt) ∧
    (s.disposition ≠ .matched ∨ matchedSettlementIsCanonical a o s.id))

def resultFor (s : CommerceSettlement) (replayed : Bool) : PaymentWebhookProcessingResult :=
  match s.disposition with
  | .matched => .confirmed s.orderId s.id replayed
  | .lateCollection => .latePaymentReview
  | _ => .duplicate replayed

-- An update that writes the reason code again: the trigger refuses a different one.
def recheckCase (c : CommerceReconciliationCase) (reasonCode : String) (now : Instant) : CommerceTxn Unit := do
  require (c.reasonCode = reasonCode) (.raised "reconciliation source facts are immutable")
  updateCase c.id (.recheck now)

def mismatchKey (attemptId : Uuid) (code : IdentityMismatchCode) : List String :=
  [attemptId, code.text]

def openedCase (id : Uuid) (a : CommercePaymentAttempt) (settlementId : Option Uuid) (kind : CommerceReconciliationKind)
    (reasonCode : String) (sourceKey : List String) (lastCheckedAt : Option Instant) (now : Instant) :
    CommerceReconciliationCase where
  id := id
  orderId := a.orderId
  settlementId := settlementId
  paymentAttemptId := some a.id
  kind := kind
  reasonCode := reasonCode
  sourceKey := sourceKey
  status := .isOpen
  resolution := none
  resolvedById := none
  lastCheckedAt := lastCheckedAt
  checkCount := 1
  updatedAt := now

def recordIdentityMismatch (now : Instant) (caseId : Uuid) (a : CommercePaymentAttempt) (code : IdentityMismatchCode) :
    CommerceTxn PaymentWebhookProcessingResult := do
  let db ← get
  match caseByKey db (mismatchKey a.id code) with
  | some c => recheckCase c code.text now
  | none => insertCase (openedCase caseId a none .providerFactMismatch code.text (mismatchKey a.id code) (some now) now)
  pure (.rejected code)

def collectionEvent (id : Uuid) (a : CommercePaymentAttempt) (v : VerifiedPaymentWebhook)
    (nextStatus : CommercePaymentStatus) : CommercePaymentEvent where
  id := id
  paymentAttemptId := a.id
  provider := .ofName v.provider
  providerEventIdentity := v.providerEventIdentity
  providerPaymentIdentity := v.providerPaymentIdentity
  providerSettlementReference := v.providerSettlementReference
  amountMinor := v.amountMinor
  currency := v.currency
  nextStatus := nextStatus
  providerOccurredAt := v.occurredAt

def createEvent (id : Uuid) (a : CommercePaymentAttempt) (v : VerifiedPaymentWebhook) (nextStatus : CommercePaymentStatus) :
    CommerceTxn Unit :=
  insertEvent (collectionEvent id a v nextStatus)

def collectionSettlement (id eventId : Uuid) (a : CommercePaymentAttempt) (v : VerifiedPaymentWebhook)
    (disposition : CommerceSettlementDisposition) : CommerceSettlement where
  id := id
  orderId := a.orderId
  paymentAttemptId := some a.id
  paymentEventId := some eventId
  kind := .providerCollection
  disposition := disposition
  provider := some (.ofName v.provider)
  providerSettlementReference := some v.providerSettlementReference
  amountMinor := v.amountMinor
  currency := v.currency
  settledAt := v.occurredAt

def createSettlement (now : Instant) (id eventId : Uuid) (a : CommercePaymentAttempt) (v : VerifiedPaymentWebhook)
    (disposition : CommerceSettlementDisposition) : CommerceTxn Unit :=
  insertSettlement now (collectionSettlement id eventId a v disposition)

def allocatedDiscount (db : CommerceDb) (reservationId : Uuid) : Int :=
  ((db.benefits.find? (fun b => b.reservationId = reservationId)).map (fun b => b.allocatedDiscountAmountMinor)).getD 0

def redemptionOf (db : CommerceDb) (r : CommercePromotionReservation) (voucherId : Uuid) (l : CommerceOrderLine)
    (operationId : Uuid) (currency : String) : VoucherRedemption where
  voucherId := voucherId
  userId := r.buyerId
  courseId := l.productReferenceId
  redemptionKey := operationId
  originalAmountMinor := l.unitListPriceAmountMinor
  discountAmountMinor := allocatedDiscount db r.id
  finalAmountMinor := l.finalAmountMinor
  currency := currency

def consumeReservation (operationId : Uuid → Uuid) (currency : String) (r : CommercePromotionReservation) :
    CommerceTxn Unit := do
  let db ← get
  updateReservation r.id (.consume (operationId r.id))
  match r.voucherId with
  | none => pure ()
  | some voucherId =>
      let l ← orThrow (lineById db r.orderLineId) (.missingRow "commerce_order_lines")
      insertRedemption (redemptionOf db r voucherId l (operationId r.id) currency)
      incrementRedeemed voucherId

def consumeReservations (operationId : Uuid → Uuid) (currency : String) (reservations : List CommercePromotionReservation) :
    CommerceTxn Unit :=
  reservations.forM (consumeReservation operationId currency)

def confirm (now : Instant) (draw : WebhookDraw) (a : CommercePaymentAttempt)
    (reservations : List CommercePromotionReservation) (v : VerifiedPaymentWebhook) :
    CommerceTxn PaymentWebhookProcessingResult := do
  createEvent draw.eventId a v .paid
  createSettlement now draw.settlementId draw.eventId a v .matched
  updateAttempt a.id (.settle .paid)
  updateOrder a.orderId (.confirm draw.settlementId now)
  consumeReservations draw.operationId a.currency reservations
  pure (.confirmed a.orderId draw.settlementId false)

def recordDuplicate (now : Instant) (draw : WebhookDraw) (a : CommercePaymentAttempt) (v : VerifiedPaymentWebhook) :
    CommerceTxn PaymentWebhookProcessingResult := do
  createEvent draw.eventId a v .paid
  createSettlement now draw.settlementId draw.eventId a v .duplicateCollection
  insertCase (openedCase draw.caseId a (some draw.settlementId) .duplicateCollection "DUPLICATE_COLLECTION"
    [a.id, "duplicate_collection", draw.settlementId] none now)
  pure (.duplicate false)

def recordLate (now : Instant) (draw : WebhookDraw) (a : CommercePaymentAttempt) (v : VerifiedPaymentWebhook) :
    CommerceTxn PaymentWebhookProcessingResult := do
  createEvent draw.eventId a v .latePaid
  createSettlement now draw.settlementId draw.eventId a v .lateCollection
  updateAttempt a.id (.settle .latePaid)
  updateOrder a.orderId .lateReview
  insertCase (openedCase draw.caseId a (some draw.settlementId) .latePayment "LATE_PAYMENT"
    [a.id, "late_payment", draw.settlementId] none now)
  pure .latePaymentReview

def replayPriorEvent (now : Instant) (draw : WebhookDraw) (e : CommercePaymentEvent) (v : VerifiedPaymentWebhook) :
    CommerceTxn PaymentWebhookProcessingResult := do
  let db ← get
  let a ← orThrow (attemptById db e.paymentAttemptId) (.missingRow "commerce_payment_attempts")
  let o ← orThrow (orderById db a.orderId) (.missingRow "commerce_orders")
  match settlementByEvent db e.id with
  | none => recordIdentityMismatch now draw.caseId a .eventIdentity
  | some s =>
      if priorEventMatches db e a o s v then pure (resultFor s true)
      else recordIdentityMismatch now draw.caseId a .eventIdentity

def settleUnrecorded (now : Instant) (draw : WebhookDraw) (a : CommercePaymentAttempt) (o : CommerceOrder)
    (v : VerifiedPaymentWebhook) : CommerceTxn PaymentWebhookProcessingResult := do
  let db ← get
  if a.status = .pending ∧ o.status = .pendingPayment then confirm now draw a (reservedOf db o.id) v
  else if a.status = .paid ∨ o.status = .confirmed then recordDuplicate now draw a v
  else if (a.status = .cancelled ∨ a.status = .expired) ∧ (o.status = .cancelled ∨ o.status = .expired) then
    recordLate now draw a v
  else recordIdentityMismatch now draw.caseId a .state

def settleAttempt (now : Instant) (draw : WebhookDraw) (a : CommercePaymentAttempt) (v : VerifiedPaymentWebhook) :
    CommerceTxn PaymentWebhookProcessingResult := do
  let db ← get
  let o ← orThrow (orderById db a.orderId) (.missingRow "commerce_orders")
  if paymentFactsMatch db a o v then
    match settlementByReference db (.ofName v.provider) v.providerSettlementReference with
    | some s =>
        if existingSettlementMatches db s a o v then pure (resultFor s true)
        else recordIdentityMismatch now draw.caseId a .reference
    | none => settleUnrecorded now draw a o v
  else recordIdentityMismatch now draw.caseId a .fact

def applyVerified (now : Instant) (draw : WebhookDraw) (v : VerifiedPaymentWebhook) :
    CommerceTxn PaymentWebhookProcessingResult := do
  let db ← get
  let code ← orThrow (providerOrderCode v) internalError
  match eventByIdentity db (.ofName v.provider) v.providerEventIdentity with
  | some e => replayPriorEvent now draw e v
  | none =>
      match attemptByOrderCode db (.ofName v.provider) code with
      | some a => settleAttempt now draw a v
      | none =>
          match attemptByPaymentIdentity db (.ofName v.provider) v.providerPaymentIdentity with
          | some a => recordIdentityMismatch now draw.caseId a .reference
          | none => pure .unknownPaymentAcknowledged

-- What processVerified demands before it opens its transaction.
def settledNotification (v : VerifiedPaymentWebhook) : Bool :=
  v.providerCode = "00" ∧ (v.provider = .vnpay → v.transactionStatus = some "00")

-- What every adapter guarantees of a verified event: its identities and its reference are not empty.
def deliverable (v : VerifiedPaymentWebhook) : Bool :=
  v.providerEventIdentity ≠ "" ∧ v.providerPaymentIdentity ≠ "" ∧ v.providerSettlementReference ≠ ""

def classifyVerified (db : CommerceDb) (v : VerifiedPaymentWebhook) : Except Fault VerificationClassification :=
  match providerOrderCode v with
  | none => .error internalError
  | some code =>
      match attemptByOrderCode db (.ofName v.provider) code with
      | none => .ok .unknown
      | some a =>
          match orderById db a.orderId with
          | none => .error (.missingRow "commerce_orders")
          | some o =>
              if ¬ (a.amountMinor = v.amountMinor ∧ a.currency = v.currency ∧ o.payableAmountMinor = v.amountMinor ∧
                  o.currency = v.currency) then .ok .invalidAmount
              else if ¬ paymentFactsMatch db a o v then .ok .invalidIdentity
              else if a.status = .paid ∨ o.status = .confirmed then .ok .alreadyConfirmed
              else .ok .known

end EduAi.Payments
