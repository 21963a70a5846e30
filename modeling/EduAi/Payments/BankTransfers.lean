import EduAi.Payments.Requests

set_option autoImplicit false

namespace EduAi.Payments

open EduAi.Store EduAi.Gds EduAi.Commerce

def bankSandboxBin : String := "970422"

def bankSandboxAccount : String := "0000000000"

structure BankDraw where
  requestId : Uuid
  attemptId : Uuid
  evidenceId : Uuid
  eventId : Uuid
  settlementId : Uuid
  idempotencyId : Uuid
  operationId : Uuid → Uuid

structure OperationKey where
  actorId : Uuid
  operation : String
  keyHash : String
  requestHash : String
deriving DecidableEq, Repr

def keyUsed (db : CommerceDb) (key : OperationKey) : Bool :=
  (idempotencyRecord db key.actorId key.operation key.keyHash).isSome

def bankIdempotency (draw : BankDraw) (key : OperationKey) : CommerceTxn Unit := do
  let db ← get
  match idempotencyRecord db key.actorId key.operation key.keyHash with
  | some existing => require (existing.requestHash = key.requestHash) (.conflict "IDEMPOTENCY_KEY_REUSED")
  | none => recordIdempotency {
      actorId := key.actorId
      operation := key.operation
      keyHash := key.keyHash
      requestHash := key.requestHash
      resourceType := "bank_operation"
      resourceId := draw.idempotencyId }

def requireOperator (deployment : Deployment) (actorId : Uuid) : CommerceTxn Unit := do
  require deployment.bankTransferEnabled (.unavailable "BANK_TRANSFER_DISABLED")
  let db ← get
  require (actorId ∈ deployment.bankOperatorIds ∧ isActiveAdmin db actorId)
    (.forbidden "Bank reconciliation operator authorization required.")

def bankTransferContent (requestId : Uuid) : String :=
  "EDUAI" ++ (String.ofList ((requestId.toList.filter (fun c => c ≠ '-')).take 20)).toUpper

def bankAttempt (now : Instant) (draw : BankDraw) (o : CommerceOrder) (expiry : Instant) : CommercePaymentAttempt where
  id := draw.attemptId
  orderId := o.id
  provider := .bankTransfer
  localRequestIdentity := draw.requestId
  providerPaymentIdentity := some draw.requestId
  providerReceivingAccountHash := none
  providerOrderCode := none
  providerExpiresAt := some expiry
  providerRequestStartedAt := none
  providerStatusCheckedAt := none
  providerCancellationRequestedAt := none
  amountMinor := o.payableAmountMinor
  currency := "VND"
  status := .created
  createdAt := now

def bankRequest (now : Instant) (draw : BankDraw) (o : CommerceOrder) (expiry : Instant) : CommerceBankTransferRequest where
  id := draw.requestId
  orderId := o.id
  paymentAttemptId := draw.attemptId
  bankBin := bankSandboxBin
  accountNumber := bankSandboxAccount
  transferContent := bankTransferContent draw.requestId
  amountMinor := o.payableAmountMinor
  status := .pending
  createdAt := now
  expiresAt := expiry

def openBankRequest (deployment : Deployment) (now : Instant) (draw : BankDraw) (o : CommerceOrder) : CommerceTxn Unit := do
  require (o.status = .pendingPayment ∧ o.currency = "VND" ∧ 0 < o.payableAmountMinor ∧ o.payableAmountMinor ≤ maxSafeInteger)
    (.conflict "ORDER_NOT_PAYABLE")
  let db ← get
  require (deployment.gdsSandbox → (holdByOrder db o.id).isNone) (.conflict "PAYMENT_METHOD_ALREADY_SELECTED")
  require (∀ a ∈ db.attempts, ¬ (a.orderId = o.id ∧ isOpenAttempt a)) (.conflict "PAYMENT_METHOD_ALREADY_SELECTED")
  require (now < paymentExpiry db now o) (.conflict "ORDER_EXPIRED")
  insertAttempt (bankAttempt now draw o (paymentExpiry db now o))
  updateAttempt draw.attemptId .start
  insertBankRequest (bankRequest now draw o (paymentExpiry db now o))

def createBankTransfer (deployment : Deployment) (now : Instant) (draw : BankDraw) (key : OperationKey) (orderId : Uuid) :
    CommerceTxn Unit := do
  require deployment.bankTransferEnabled (.unavailable "BANK_TRANSFER_DISABLED")
  let o ← requireOwnedOrder key.actorId orderId
  bankIdempotency draw key
  let db ← get
  if (bankRequestByOrder db orderId).isSome then pure () else openBankRequest deployment now draw o

def supportBankTransfer (deployment : Deployment) (draw : BankDraw) (key : OperationKey) (orderId : Uuid) : CommerceTxn Unit := do
  require deployment.bankTransferEnabled (.unavailable "BANK_TRANSFER_DISABLED")
  let _ ← requireOwnedOrder key.actorId orderId
  let db ← get
  bankIdempotency draw key
  let r ← orThrow (bankRequestByOrder db orderId) (.missingRow "commerce_bank_transfer_requests")
  if ¬ keyUsed db key ∧ (r.status = .pending ∨ r.status = .underReview) then updateBankRequest r.id .needsSupport else pure ()

def cancelKey (draw : BankDraw) (expired : Bool) (key : OperationKey) : CommerceTxn Unit :=
  if expired then pure () else bankIdempotency draw key

def returnBenefit (draw : BankDraw) (expired : Bool) (r : CommercePromotionReservation) : CommerceTxn Unit :=
  updateReservation r.id (if expired then .expire (draw.operationId r.id) else .release (draw.operationId r.id))

def closeBankWindow (now : Instant) (draw : BankDraw) (expired : Bool) (o : CommerceOrder) (r : CommerceBankTransferRequest) :
    CommerceTxn Unit := do
  require (o.status = .pendingPayment) (.conflict "ORDER_STATE_CHANGED")
  updateAttempt r.paymentAttemptId (.close (if expired then .expired else .cancelled) now false)
  updateBankRequest r.id (if expired then .expired else .cancelled)
  updateOrder o.id (.close expired)
  let db ← get
  (reservedOf db o.id).forM (returnBenefit draw expired)

-- No provider is asked: the window of the request is over, or its learner gives it up.
def closeBankTransfer (now : Instant) (draw : BankDraw) (expired : Bool) (key : OperationKey) (orderId : Uuid) :
    CommerceTxn Unit := do
  let o ← requireOwnedOrder key.actorId orderId
  cancelKey draw expired key
  let db ← get
  let r ← orThrow (bankRequestByOrder db orderId) (.missingRow "commerce_bank_transfer_requests")
  if ¬ bankWindowOpen r.status then pure () else closeBankWindow now draw expired o r

structure BankStatement where
  checked : Bool
  bankBin : String
  accountNumber : String
  transactionId : String
  amountMinor : Int
  transferContent : String
  occurredAt : Instant
  statementSha256 : String
  suspicious : Bool
deriving DecidableEq, Repr

def recordedStatement (now : Instant) (draw : BankDraw) (requestId : Uuid) (input : BankStatement)
    (exceptionReason : Option String) : CommerceBankStatementEvidence where
  id := draw.evidenceId
  requestId := requestId
  bankBin := input.bankBin
  accountNumber := input.accountNumber
  transactionId := input.transactionId
  amountMinor := input.amountMinor
  transferContent := input.transferContent
  occurredAt := input.occurredAt
  statementSha256 := input.statementSha256
  recordedAt := now
  exceptionReason := exceptionReason

def sameStatement (requestId : Uuid) (input : BankStatement) (e : CommerceBankStatementEvidence) : Bool :=
  e.requestId = requestId ∧ e.statementSha256 = input.statementSha256 ∧ e.amountMinor = input.amountMinor ∧
    e.transferContent = input.transferContent ∧ e.occurredAt = input.occurredAt

def statementException (now : Instant) (draw : BankDraw) (r : CommerceBankTransferRequest) (input : BankStatement) :
    Option String :=
  if input.suspicious then some "SUSPECTED_TRANSFER"
  else
    match classifyBankEvidence now r (recordedStatement now draw r.id input none) with
    | some mismatch => some mismatch.text
    | none => if bankWindowOpen r.status then none else some "CLOSED_REQUEST"

def addStatement (now : Instant) (draw : BankDraw) (r : CommerceBankTransferRequest) (input : BankStatement) :
    CommerceTxn CommerceBankStatementEvidence := do
  let evidence := recordedStatement now draw r.id input (statementException now draw r input)
  insertEvidence evidence
  if bankWindowOpen r.status then
    updateBankRequest r.id (if evidence.exceptionReason.isSome then .needsSupport else .underReview)
    pure evidence
  else pure evidence

def recordStatement (deployment : Deployment) (now : Instant) (draw : BankDraw) (key : OperationKey) (requestId : Uuid)
    (input : BankStatement) : CommerceTxn CommerceBankStatementEvidence := do
  require input.checked (.conflict "BANK_STATEMENT_SOURCE_REQUIRED")
  requireOperator deployment key.actorId
  let db ← get
  let r ← orThrow (bankRequestById db requestId) (.missingRow "commerce_bank_transfer_requests")
  bankIdempotency draw key
  match db.bankEvidence.find? (fun e => e.bankBin = input.bankBin ∧ e.accountNumber = input.accountNumber ∧
      e.transactionId = input.transactionId) with
  | some previous =>
      require (sameStatement requestId input previous) (.conflict "BANK_TRANSACTION_ALREADY_RECORDED")
      pure previous
  | none => addStatement now draw r input

structure BankApproval where
  checked : Bool
  statementSha256 : String
  transactionId : String
  amountMinor : Int
  transferContent : String
  accountNumber : String
deriving DecidableEq, Repr

def reviewAgrees (e : CommerceBankStatementEvidence) (input : BankApproval) : Bool :=
  input.checked ∧ input.statementSha256 = e.statementSha256 ∧ input.transactionId = e.transactionId ∧
    input.amountMinor = e.amountMinor ∧ input.transferContent = e.transferContent ∧ input.accountNumber = e.accountNumber

structure ApprovalResult where
  orderId : Uuid
  settlementId : Option Uuid
  status : BankRequestStatus
deriving DecidableEq, Repr

def bankEvent (draw : BankDraw) (r : CommerceBankTransferRequest) (e : CommerceBankStatementEvidence) : CommercePaymentEvent where
  id := draw.eventId
  paymentAttemptId := r.paymentAttemptId
  provider := .bankTransfer
  providerEventIdentity := e.id
  providerPaymentIdentity := r.id
  providerSettlementReference := e.id
  amountMinor := r.amountMinor
  currency := "VND"
  nextStatus := .paid
  providerOccurredAt := e.occurredAt

def bankSettlement (draw : BankDraw) (r : CommerceBankTransferRequest) (e : CommerceBankStatementEvidence) (o : CommerceOrder) :
    CommerceSettlement where
  id := draw.settlementId
  orderId := o.id
  paymentAttemptId := some r.paymentAttemptId
  paymentEventId := some draw.eventId
  kind := .providerCollection
  disposition := .matched
  provider := some .bankTransfer
  providerSettlementReference := some e.id
  amountMinor := r.amountMinor
  currency := "VND"
  settledAt := e.occurredAt

def consumeBenefit (draw : BankDraw) (r : CommercePromotionReservation) : CommerceTxn Unit :=
  updateReservation r.id (.consume (draw.operationId r.id))

def settleBank (now : Instant) (draw : BankDraw) (r : CommerceBankTransferRequest) (e : CommerceBankStatementEvidence) :
    CommerceTxn ApprovalResult := do
  let db ← get
  let o ← orThrow (orderById db r.orderId) (.missingRow "commerce_orders")
  require (o.status = .pendingPayment ∧ o.payableAmountMinor = r.amountMinor ∧ o.confirmedSettlementId = none)
    (.conflict "ORDER_NOT_PAYABLE")
  let reservations := reservedOf db o.id
  require (∀ x ∈ reservations, now < x.expiresAt) (.conflict "ORDER_BENEFITS_EXPIRED")
  insertEvent (bankEvent draw r e)
  insertSettlement now (bankSettlement draw r e o)
  updateAttempt r.paymentAttemptId (.settle .paid)
  updateBankRequest r.id .paid
  updateOrder o.id (.confirm draw.settlementId now)
  reservations.forM (consumeBenefit draw)
  pure { orderId := o.id, settlementId := some draw.settlementId, status := .paid }

def addApproval (evidenceId actorId : Uuid) : CommerceTxn Unit := do
  let db ← get
  if { evidenceId, actorId : CommerceBankApproval } ∈ db.bankApprovals then pure () else insertApproval { evidenceId, actorId }

def replayApproval (r : CommerceBankTransferRequest) (e : CommerceBankStatementEvidence) : CommerceTxn ApprovalResult := do
  let db ← get
  let s ← orThrow (settlementByReference db .bankTransfer e.id) (.conflict "BANK_TRANSACTION_NOT_CANONICAL")
  pure { orderId := r.orderId, settlementId := some s.id, status := .paid }

def approveEvidence (deployment : Deployment) (now : Instant) (draw : BankDraw) (actorId : Uuid)
    (r : CommerceBankTransferRequest) (e : CommerceBankStatementEvidence) : CommerceTxn ApprovalResult := do
  require (e.exceptionReason = none ∧ classifyBankEvidence now r e = none ∧ now < r.expiresAt ∧ r.status = .underReview)
    (.conflict "BANK_EVIDENCE_REQUIRES_SUPPORT")
  addApproval e.id actorId
  let db ← get
  (approversOf db e.id).forM (requireOperator deployment)
  if (approversOf db e.id).length < 2 then pure { orderId := r.orderId, settlementId := none, status := .underReview }
  else settleBank now draw r e

def approve (deployment : Deployment) (now : Instant) (draw : BankDraw) (key : OperationKey) (evidenceId : Uuid)
    (input : BankApproval) : CommerceTxn ApprovalResult := do
  requireOperator deployment key.actorId
  let db ← get
  let e ← orThrow (evidenceById db evidenceId) (.missingRow "commerce_bank_statement_evidence")
  require (reviewAgrees e input) (.conflict "BANK_INDEPENDENT_REVIEW_MISMATCH")
  bankIdempotency draw key
  let db ← get
  let r ← orThrow (bankRequestById db e.requestId) (.missingRow "commerce_bank_transfer_requests")
  if r.status = .paid then replayApproval r e else approveEvidence deployment now draw key.actorId r e

end EduAi.Payments
