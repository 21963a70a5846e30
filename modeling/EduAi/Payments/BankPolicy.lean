import EduAi.Commerce.Access

set_option autoImplicit false

namespace EduAi.Payments

open EduAi.Store EduAi.Gds EduAi.Commerce

structure Deployment where
  bankTransferEnabled : Bool
  bankOperatorIds : List Uuid
  enabledProviders : List PaymentProviderName
  gdsProduction : Bool
  gdsReadEnabled : Bool
  gdsCheckoutEnabled : Bool
  gdsProcessingEnabled : Bool
  gdsSandbox : Bool
  hashAccount : String → String
  hashReason : String → String
  hashEvent : String → String

inductive BankEvidenceClass where
  | accountMismatch | underpaid | overpaid | contentMismatch | timeMismatch | lateTransfer
deriving DecidableEq, Repr

def BankEvidenceClass.text : BankEvidenceClass → String
  | .accountMismatch => "ACCOUNT_MISMATCH"
  | .underpaid => "UNDERPAID"
  | .overpaid => "OVERPAID"
  | .contentMismatch => "CONTENT_MISMATCH"
  | .timeMismatch => "TIME_MISMATCH"
  | .lateTransfer => "LATE_TRANSFER"

def classifyBankEvidence (now : Instant) (r : CommerceBankTransferRequest) (e : CommerceBankStatementEvidence) :
    Option BankEvidenceClass :=
  if e.bankBin ≠ r.bankBin ∨ e.accountNumber ≠ r.accountNumber then some .accountMismatch
  else if e.amountMinor < r.amountMinor then some .underpaid
  else if r.amountMinor < e.amountMinor then some .overpaid
  else if e.transferContent ≠ r.transferContent then some .contentMismatch
  else if e.occurredAt < r.createdAt ∨ now < e.occurredAt then some .timeMismatch
  else if r.expiresAt ≤ e.occurredAt then some .lateTransfer
  else none

-- What a statement row must agree with before it counts as the request's payment.
structure BankEvidenceAgrees (now : Instant) (r : CommerceBankTransferRequest) (e : CommerceBankStatementEvidence) : Prop where
  bankBin : e.bankBin = r.bankBin
  accountNumber : e.accountNumber = r.accountNumber
  amount : e.amountMinor = r.amountMinor
  transferContent : e.transferContent = r.transferContent
  created : r.createdAt ≤ e.occurredAt
  observed : e.occurredAt ≤ now
  window : e.occurredAt < r.expiresAt

theorem classifyBankEvidence_none (now : Instant) (r : CommerceBankTransferRequest) (e : CommerceBankStatementEvidence) :
    classifyBankEvidence now r e = none ↔ BankEvidenceAgrees now r e := by
  unfold classifyBankEvidence
  constructor
  · intro none
    split at none
    case isTrue => cases none
    case isFalse account =>
      split at none
      case isTrue => cases none
      case isFalse under =>
        split at none
        case isTrue => cases none
        case isFalse above =>
          split at none
          case isTrue => cases none
          case isFalse content =>
            split at none
            case isTrue => cases none
            case isFalse time =>
              split at none
              case isTrue => cases none
              case isFalse late =>
                push Not at account content time late
                exact ⟨account.1, account.2, by omega, content, time.1, time.2, late⟩
  · intro agrees
    have under : ¬ e.amountMinor < r.amountMinor := by simp [agrees.amount]
    have above : ¬ r.amountMinor < e.amountMinor := by simp [agrees.amount]
    have time : ¬ (e.occurredAt < r.createdAt ∨ now < e.occurredAt) := by
      simp only [not_or, not_lt]
      exact ⟨agrees.created, agrees.observed⟩
    rw [if_neg (by simp [agrees.bankBin, agrees.accountNumber]), if_neg under, if_neg above,
      if_neg (by simp [agrees.transferContent]), if_neg time, if_neg (not_le.mpr agrees.window)]

structure BankPayment where
  order : CommerceOrder
  settlement : CommerceSettlement
  request : CommerceBankTransferRequest
  evidence : CommerceBankStatementEvidence
  attempt : CommercePaymentAttempt
  event : CommercePaymentEvent
deriving DecidableEq, Repr

def bankPayment (db : CommerceDb) (orderId settlementId : Uuid) : Option BankPayment := do
  let order ← orderById db orderId
  let settlement ← settlementById db settlementId
  let request ← bankRequestByOrder db orderId
  let evidence ← settlement.providerSettlementReference.bind (evidenceById db)
  let attempt ← attemptById db request.paymentAttemptId
  let event ← eventOfSettlement db settlement
  pure { order, settlement, request, evidence, attempt, event }

def bankPaymentProven (now : Instant) (db : CommerceDb) (p : BankPayment) : Bool :=
  p.order.status = .confirmed ∧ p.order.confirmedSettlementId = some p.settlement.id ∧ p.request.status = .paid ∧
    p.order.payableAmountMinor = p.request.amountMinor ∧ p.order.currency = "VND" ∧ p.evidence.requestId = p.request.id ∧
    p.evidence.exceptionReason = none ∧ classifyBankEvidence now p.request p.evidence = none ∧
    2 ≤ (approversOf db p.evidence.id).dedup.length ∧ p.settlement.orderId = p.order.id ∧
    p.settlement.provider = some .bankTransfer ∧ p.settlement.kind = .providerCollection ∧
    p.settlement.disposition = .matched ∧ p.settlement.paymentAttemptId = some p.attempt.id ∧
    p.attempt.provider = .bankTransfer ∧ p.attempt.status = .paid ∧ p.event.provider = .bankTransfer ∧
    p.event.paymentAttemptId = p.attempt.id ∧ p.event.nextStatus = .paid ∧
    p.event.providerSettlementReference = p.evidence.id ∧ p.event.amountMinor = p.evidence.amountMinor ∧
    p.event.providerOccurredAt = p.evidence.occurredAt ∧ p.settlement.settledAt = p.evidence.occurredAt ∧
    p.settlement.amountMinor = p.request.amountMinor ∧ p.attempt.amountMinor = p.request.amountMinor ∧
    p.settlement.currency = "VND" ∧ p.attempt.currency = "VND" ∧ p.event.currency = "VND"

def bankTransferProven (now : Instant) (db : CommerceDb) (orderId settlementId : Uuid) : Bool :=
  (bankPayment db orderId settlementId).any (bankPaymentProven now db)

def requireBankTransferProof (deployment : Deployment) (now : Instant) (orderId settlementId : Uuid) : CommerceTxn Unit := do
  let db ← get
  require deployment.bankTransferEnabled (.conflict "BANK_TRANSFER_DISABLED")
  require (bankTransferProven now db orderId settlementId) (.conflict "BANK_STATEMENT_PROOF_REQUIRED")

end EduAi.Payments
