import EduAi.Gds.Topups
import EduAi.Payments.Provider
import EduAi.Store.Checks

set_option autoImplicit false

namespace EduAi.Gds

open EduAi.Store EduAi.Payments

inductive GdsPayosTopupStatus where
  | created | pendingPayos | payosVerified | pendingPartner | credited | cancelled | review
deriving DecidableEq, Repr

def TopupStatus.intent : TopupStatus → GdsPayosTopupStatus
  | .created => .created
  | .pendingPayos => .pendingPayos
  | .payosVerified => .payosVerified
  | .credited => .credited
  | .cancelled => .cancelled
  | .review => .review

structure GdsPayosTopupIntent where
  id : Uuid
  buyerId : Uuid
  amountMinor : Int
  currency : String
  payosOrderCode : Int
  receivingAccountHash : String
  settlementReceivingAccountHash : Option String
  createdAt : Option Instant
  expiresAt : Instant
  status : GdsPayosTopupStatus
  paymentLinkId : Option String
  collectionReference : Option String
  partnerCreditEventId : Option String
deriving DecidableEq, Repr

def topupIntent (t : Topup) : GdsPayosTopupIntent where
  id := t.id
  buyerId := t.buyerId
  amountMinor := t.amountMinor
  currency := t.currency
  payosOrderCode := t.payosOrderCode
  receivingAccountHash := t.receivingAccountHash
  settlementReceivingAccountHash := t.settlementReceivingAccountHash
  createdAt := some t.createdAt
  expiresAt := t.expiresAt
  status := t.status.intent
  paymentLinkId := t.paymentLinkId
  collectionReference := t.collectionReference
  partnerCreditEventId := none

-- A missing string and an empty one are both falsy in the checks of the source.
def present (value : Option String) : Bool :=
  match value with
  | some text => text != ""
  | none => false

def validTopup (v : GdsPayosTopupIntent) : Bool :=
  v.id != "" && v.buyerId != "" && decide (0 < v.amountMinor) && decide (v.amountMinor ≤ maxSafeInteger) &&
  v.currency == "VND" && isSafeOrderReference v.payosOrderCode && isSha256Hex v.receivingAccountHash

structure RedirectUrls where
  returnUrl : String
  cancelUrl : String
deriving DecidableEq, Repr

structure GdsPayosTopupRequest where
  orderCode : Int
  amount : Int
  description : String
  returnUrl : String
  cancelUrl : String
  expiredAt : Int
deriving DecidableEq, Repr

namespace PayosTopup

def base36Digit (n : Nat) : Char :=
  if n < 10 then Char.ofNat ('0'.toNat + n) else Char.ofNat ('A'.toNat + (n - 10))

-- Eleven digits write every safe integer.
def base36 : Nat → Nat → List Char
  | 0, _ => []
  | fuel + 1, n => if n < 36 then [base36Digit n] else base36 fuel (n / 36) ++ [base36Digit (n % 36)]

def orderSuffix (payosOrderCode : Int) : List Char :=
  base36 11 payosOrderCode.toNat

def padStart (width : Nat) (text : List Char) : List Char :=
  List.replicate (width - text.length) '0' ++ text

section Request

variable (parseUrl : String → Option Url)

def trustedRedirects (urls : RedirectUrls) : Bool :=
  match parseUrl urls.returnUrl, parseUrl urls.cancelUrl with
  | some success, some cancel =>
      success.protocol == "https:" && cancel.protocol == "https:" && success.origin == cancel.origin && success.username == "" &&
        success.password == "" && cancel.username == "" && cancel.password == "" && success.hash == "" && cancel.hash == ""
  | _, _ => false

def buildGdsPayosTopupRequest (intent : GdsPayosTopupIntent) (urls : RedirectUrls) : Except Fault GdsPayosTopupRequest := do
  ensure (validTopup intent) (.invariant "WALLET_TOPUP_INVALID_INTENT")
  ensure (intent.status = .created) (.invariant "WALLET_TOPUP_INVALID_TRANSITION")
  let suffix := orderSuffix intent.payosOrderCode
  ensure (suffix.length ≤ 8) (.invariant "WALLET_TOPUP_ORDER_CODE_TOO_LONG")
  let expiredAt := intent.expiresAt / 1000
  ensure (0 < expiredAt ∧ expiredAt ≤ 2147483647) (.invariant "WALLET_TOPUP_INVALID_EXPIRY")
  ensure (trustedRedirects parseUrl urls) (.invariant "WALLET_TOPUP_UNTRUSTED_REDIRECT")
  return {
    orderCode := intent.payosOrderCode
    amount := intent.amountMinor
    description := String.ofList ('G' :: padStart 8 suffix)
    returnUrl := urls.returnUrl
    cancelUrl := urls.cancelUrl
    expiredAt := expiredAt }

end Request

end PayosTopup

structure GdsPayosCreatedLink where
  orderCode : Int
  amountMinor : Int
  currency : String
  paymentLinkId : String
  checkoutUrl : String
  receivingAccountHash : String
deriving DecidableEq, Repr

def requirePayosCheckoutUrl (parseUrl : String → Option Url) (checkoutUrl : String) : Bool :=
  (parseUrl checkoutUrl).any (fun url =>
    url.protocol == "https:" && payosHosts.contains url.hostname && url.username == "" && url.password == "")

def attachGdsPayosLink (parseUrl : String → Option Url) (intent : GdsPayosTopupIntent) (link : GdsPayosCreatedLink) :
    Except Fault GdsPayosTopupIntent :=
  if !validTopup intent then .error (.invariant "WALLET_TOPUP_INVALID_INTENT")
  else if !requirePayosCheckoutUrl parseUrl link.checkoutUrl then .error (.invariant "WALLET_TOPUP_UNTRUSTED_CHECKOUT")
  else if link.paymentLinkId = "" ∨ link.orderCode ≠ intent.payosOrderCode ∨ link.amountMinor ≠ intent.amountMinor ∨
      link.currency ≠ "VND" ∨ link.receivingAccountHash ≠ intent.receivingAccountHash then
    .error (.invariant "WALLET_TOPUP_PAYOS_MISMATCH")
  else if intent.status = .pendingPayos ∧ intent.paymentLinkId = some link.paymentLinkId then .ok intent
  else if intent.status ≠ .created then .error (.invariant "WALLET_TOPUP_TERMINAL_CONFLICT")
  else .ok { intent with status := .pendingPayos, paymentLinkId := some link.paymentLinkId }

structure GdsPayosVerifiedCollection where
  orderCode : Int
  amountMinor : Int
  currency : String
  paymentLinkId : String
  collectionReference : String
  receivingAccountHash : String
  occurredAt : Instant
  providerCode : String
deriving DecidableEq, Repr

def acceptGdsPayosCollection (intent : GdsPayosTopupIntent) (fact : GdsPayosVerifiedCollection) :
    Except Fault GdsPayosTopupIntent :=
  if !validTopup intent then .error (.invariant "WALLET_TOPUP_INVALID_INTENT")
  else if fact.orderCode ≠ intent.payosOrderCode ∨ fact.amountMinor ≠ intent.amountMinor ∨ fact.currency ≠ "VND" ∨
      fact.providerCode ≠ "00" ∨ fact.collectionReference = "" ∨ fact.paymentLinkId = "" ∨
      some fact.paymentLinkId ≠ intent.paymentLinkId ∨ fact.receivingAccountHash ≠ intent.receivingAccountHash then
    .error (.invariant "WALLET_TOPUP_PAYOS_MISMATCH")
  else if present intent.collectionReference then
    if intent.collectionReference = some fact.collectionReference then .ok intent
    else .error (.invariant "WALLET_TOPUP_DUPLICATE_COLLECTION")
  else if intent.status = .cancelled ∨ intent.expiresAt < fact.occurredAt then
    .ok { intent with status := .review, collectionReference := some fact.collectionReference }
  else if intent.status ≠ .pendingPayos then .error (.invariant "WALLET_TOPUP_INVALID_TRANSITION")
  else .ok { intent with status := .payosVerified, collectionReference := some fact.collectionReference }

structure GdsInternalPayosSettlement where
  orderCode : Int
  paymentLinkId : String
  amountMinor : Int
  amountRemainingMinor : Int
  currency : String
  receivingAccountHash : String
  settlementReceivingAccountHash : Option String
  collectionReference : String
  signatureVerifiedAt : Instant
  providerReconciledAt : Instant
deriving DecidableEq, Repr

structure GdsInternalTopupCredit where
  eventId : String
  buyerId : Uuid
  collectionReference : String
  amountMinor : Int
  currency : String
deriving DecidableEq, Repr

def topupEventKey (payosOrderCode : Int) : String :=
  "payos-gds-topup:" ++ toString payosOrderCode

def prepareGdsInternalTopupCredit (intent : GdsPayosTopupIntent) (settlement : GdsInternalPayosSettlement) :
    Except Fault GdsInternalTopupCredit :=
  if intent.status ≠ .payosVerified ∨ !present intent.collectionReference ∨ intent.buyerId = "" ∨ intent.amountMinor ≤ 0 then
    .error (.invariant "GDS_INTERNAL_TOPUP_NOT_ELIGIBLE")
  else if settlement.amountRemainingMinor ≠ 0 ∨ settlement.currency ≠ "VND" ∨ settlement.amountMinor ≠ intent.amountMinor ∨
      settlement.orderCode ≠ intent.payosOrderCode ∨ !present intent.paymentLinkId ∨
      some settlement.paymentLinkId ≠ intent.paymentLinkId ∨ settlement.receivingAccountHash ≠ intent.receivingAccountHash ∨
      some settlement.collectionReference ≠ intent.collectionReference ∨
      (intent.settlementReceivingAccountHash.isSome ∧
        settlement.settlementReceivingAccountHash ≠ intent.settlementReceivingAccountHash) then
    .error (.invariant "GDS_INTERNAL_TOPUP_PAYMENT_MISMATCH")
  else if settlement.providerReconciledAt < settlement.signatureVerifiedAt then
    .error (.invariant "GDS_INTERNAL_TOPUP_NOT_RECONCILED")
  else
    .ok { eventId := topupEventKey intent.payosOrderCode, buyerId := intent.buyerId,
          collectionReference := settlement.collectionReference, amountMinor := intent.amountMinor, currency := "VND" }

structure ReconciliationPort where
  sandboxEnabled : Bool
  processingEnabled : Bool
  nodeEnv : String
  deploymentClass : String
deriving DecidableEq, Repr

def ReconciliationPort.eligible (port : ReconciliationPort) : Bool :=
  (port.sandboxEnabled && (port.nodeEnv == "test" || port.nodeEnv == "development") && port.deploymentClass == "uat") ||
  (port.processingEnabled && port.nodeEnv == "production" && port.deploymentClass == "production")

def eligibleIntent (intent : GdsPayosTopupIntent) : Bool :=
  validTopup intent && present intent.paymentLinkId &&
  decide (intent.status ∈ [.pendingPayos, .payosVerified, .credited])

section Reconciliation

-- The SHA-256 digest of the runtime's crypto library.
variable (hashAccount : String → String)

def accountHash (account : Option String) : Except Fault String :=
  match account with
  | some value => if isPayosAccount value then .ok (hashAccount value) else .error (.invariant "GDS_PAYOS_RECEIVING_ACCOUNT_MISMATCH")
  | none => .error (.invariant "GDS_PAYOS_RECEIVING_ACCOUNT_MISMATCH")

def checkVirtualAccount (intent : GdsPayosTopupIntent) (account verifiedHash : Option String) : Except Fault Unit := do
  if account.isSome then
    let hash ← accountHash hashAccount account
    if hash ≠ intent.receivingAccountHash then throw (.invariant "GDS_PAYOS_RECEIVING_ACCOUNT_MISMATCH")
  if verifiedHash.isSome ∧ verifiedHash ≠ some intent.receivingAccountHash then
    throw (.invariant "GDS_PAYOS_RECEIVING_ACCOUNT_MISMATCH")

def checkVerifiedWebhook (intent : GdsPayosTopupIntent) (fact : VerifiedPaymentWebhook) : Except Fault Unit := do
  if fact.provider ≠ .payos ∨ fact.providerCode ≠ "00" ∨ fact.providerOrderReference ≠ toString intent.payosOrderCode ∨
      fact.localOrderReference ≠ intent.payosOrderCode ∨ some fact.providerPaymentIdentity ≠ intent.paymentLinkId ∨
      fact.providerSettlementReference = "" ∨ fact.providerEventIdentity ≠ fact.providerSettlementReference ∨
      fact.amountMinor ≠ intent.amountMinor ∨ fact.currency ≠ "VND" then
    throw (.invariant "GDS_PAYOS_WEBHOOK_MISMATCH")
  let physicalHash ← accountHash hashAccount fact.receivingAccount
  if intent.settlementReceivingAccountHash.isSome ∧ intent.settlementReceivingAccountHash ≠ some physicalHash then
    throw (.invariant "GDS_PAYOS_RECEIVING_ACCOUNT_MISMATCH")
  checkVirtualAccount hashAccount intent fact.virtualReceivingAccount fact.verifiedVirtualAccountHash

def checkProviderStatus (intent : GdsPayosTopupIntent) (fact : VerifiedPaymentWebhook) (status : PaymentRequestStatus) :
    Except Fault Unit := do
  if status.status ≠ .paid ∨ some status.providerPaymentIdentity ≠ intent.paymentLinkId ∨
      status.localOrderReference ≠ intent.payosOrderCode ∨ status.amountMinor ≠ intent.amountMinor ∨
      status.amountPaidMinor ≠ intent.amountMinor ∨ status.amountRemainingMinor ≠ 0 then
    throw (.invariant "GDS_PAYOS_RECONCILIATION_MISMATCH")
  match status.transactions with
  | [transfer] => do
      let physicalHash ← accountHash hashAccount fact.receivingAccount
      if status.receivingAccount.isSome then
        let reported ← accountHash hashAccount status.receivingAccount
        if reported ≠ physicalHash then throw (.invariant "GDS_PAYOS_RECONCILIATION_MISMATCH")
      let transferHash ← accountHash hashAccount (some transfer.receivingAccount)
      if transfer.reference ≠ fact.providerSettlementReference ∨ transfer.amountMinor ≠ intent.amountMinor ∨
          transferHash ≠ physicalHash ∨ transfer.occurredAt < status.createdAt ∨
          intent.createdAt.any (fun createdAt => transfer.occurredAt < createdAt) ∨
          transfer.occurredAt ≠ fact.occurredAt then
        throw (.invariant "GDS_PAYOS_RECONCILIATION_MISMATCH")
      checkVirtualAccount hashAccount intent transfer.virtualReceivingAccount none
  | _ => throw (.invariant "GDS_PAYOS_RECONCILIATION_MISMATCH")

-- The provider is asked again at each attempt; queried is its answer, or the error its client threw.
def reconcileSignedGdsPayosTopup (port : ReconciliationPort) (intent : GdsPayosTopupIntent) (verified : VerifiedPaymentWebhook)
    (signatureVerifiedAt now : Instant) (queried : Except Fault PaymentRequestStatus) (reconciledAt : Instant) :
    Except Fault GdsInternalPayosSettlement := do
  if !port.eligible then throw (.invariant "GDS_PAYOS_RECONCILIATION_DISABLED")
  if !eligibleIntent intent then throw (.invariant "GDS_PAYOS_RECONCILIATION_INVALID_INTENT")
  let paymentLinkId := intent.paymentLinkId.getD ""
  checkVerifiedWebhook hashAccount intent verified
  if intent.expiresAt < verified.occurredAt ∨ now + 300000 < verified.occurredAt then
    throw (.invariant "GDS_PAYOS_RECONCILIATION_REVIEW")
  let status ← queried
  checkProviderStatus hashAccount intent verified status
  if reconciledAt < signatureVerifiedAt then throw (.invariant "GDS_PAYOS_RECONCILIATION_CLOCK")
  let physicalHash ← accountHash hashAccount verified.receivingAccount
  let nextIntent ← acceptGdsPayosCollection intent
    { orderCode := intent.payosOrderCode, amountMinor := intent.amountMinor, currency := "VND",
      paymentLinkId, collectionReference := verified.providerSettlementReference,
      receivingAccountHash := intent.receivingAccountHash, occurredAt := verified.occurredAt, providerCode := "00" }
  if nextIntent.status ≠ .payosVerified ∧ nextIntent.status ≠ .credited then
    throw (.invariant "GDS_PAYOS_RECONCILIATION_REVIEW")
  return { orderCode := intent.payosOrderCode, paymentLinkId,
           amountMinor := intent.amountMinor, amountRemainingMinor := 0, currency := "VND",
           receivingAccountHash := intent.receivingAccountHash, settlementReceivingAccountHash := some physicalHash,
           collectionReference := verified.providerSettlementReference, signatureVerifiedAt, providerReconciledAt := reconciledAt }

end Reconciliation

end EduAi.Gds
