import EduAi.Gds.PayosInbox

set_option autoImplicit false

namespace EduAi.Gds

open EduAi.Store EduAi.Payments

structure PrepareGdsTopup where
  buyerId : Uuid
  amountMinor : Int
  requestKeyHash : String
  expiresAt : Instant
  urls : RedirectUrls
deriving DecidableEq, Repr

structure PreparedGdsTopup where
  intent : GdsPayosTopupIntent
  reused : Bool
  payosRequest : Option GdsPayosTopupRequest
deriving DecidableEq, Repr

def upsertWallet (walletId buyerId : Uuid) : GdsTxn Wallet := do
  let db ← get
  match walletByBuyer db buyerId with
  | some w => pure w
  | none => do
      createWallet walletId buyerId
      let db ← get
      orThrow (walletByBuyer db buyerId) (.missingRow "gds_internal_wallets")

def unclaimedOrderCode (db : GdsDb) (claims : CrossLedger) (code : Int) : Bool :=
  !claims.attemptClaims code none && !claims.legacyClaims code none none && !db.topups.any (fun t => t.payosOrderCode = code)

section Preparation

-- The URL parser of the runtime.
variable (parseUrl : String → Option Url)

def newIntent (topupId : Uuid) (code : Int) (input : PrepareGdsTopup) : GdsPayosTopupIntent where
  id := topupId
  buyerId := input.buyerId
  amountMinor := input.amountMinor
  currency := "VND"
  payosOrderCode := code
  receivingAccountHash := unboundReceivingAccountHash
  settlementReceivingAccountHash := none
  createdAt := none
  expiresAt := input.expiresAt
  status := .created
  paymentLinkId := none
  collectionReference := none
  partnerCreditEventId := none

def createPreparedTopup (now : Instant) (claims : CrossLedger) (topupId walletId : Uuid) (codes : List Int)
    (input : PrepareGdsTopup) : GdsTxn PreparedGdsTopup := do
  let w ← upsertWallet walletId input.buyerId
  require (w.status = .active) (.invariant "GDS_TOPUP_WALLET_SUSPENDED")
  let db ← get
  let code ← orThrow ((codes.take 5).find? (unclaimedOrderCode db claims)) (.invariant "GDS_TOPUP_ORDER_CODE_EXHAUSTED")
  let intent := newIntent topupId code input
  let payosRequest ← raise (PayosTopup.buildGdsPayosTopupRequest parseUrl intent input.urls)
  createTopup now
    { id := topupId, buyerId := input.buyerId, walletId := w.id, requestKeyHash := input.requestKeyHash,
      amountMinor := input.amountMinor, payosOrderCode := code, transferMemo := payosRequest.description,
      receivingAccountHash := unboundReceivingAccountHash, expiresAt := input.expiresAt }
  pure { intent, reused := false, payosRequest := some payosRequest }

def reusedRequest (intent : GdsPayosTopupIntent) (urls : RedirectUrls) : Except Fault (Option GdsPayosTopupRequest) :=
  if intent.status = .created then (PayosTopup.buildGdsPayosTopupRequest parseUrl intent urls).map some
  else .ok none

def prepareTopup (now : Instant) (claims : CrossLedger) (topupId walletId : Uuid) (codes : List Int) (input : PrepareGdsTopup) :
    GdsTxn PreparedGdsTopup := do
  let db ← get
  match db.topups.find? (fun t => t.buyerId = input.buyerId ∧ t.requestKeyHash = input.requestKeyHash) with
  | some previous => do
      require (previous.amountMinor = input.amountMinor ∧ previous.currency = "VND") (.invariant "GDS_TOPUP_IDEMPOTENCY_CONFLICT")
      require (previous.status = .created → now < previous.expiresAt) (.invariant "GDS_TOPUP_PREPARATION_EXPIRED")
      let intent := topupIntent previous
      let payosRequest ← raise (reusedRequest parseUrl intent input.urls)
      pure { intent, reused := true, payosRequest }
  | none => createPreparedTopup parseUrl now claims topupId walletId codes input

def firstBinding (t : Topup) : Bool :=
  t.status == .created && t.receivingAccountHash == unboundReceivingAccountHash

def attachCreatedLink (hashAccount : String → String) (claims : CrossLedger) (topupId : Uuid) (created : CreatedPaymentRequest) :
    GdsTxn Unit := do
  require (payosLinkIssues parseUrl created = []) (.invariant "GDS_TOPUP_INVALID_PAYOS_LINK")
  let accountHash := hashAccount (created.receivingAccount.getD "")
  let db ← get
  let t ← orThrow (topupById db topupId) (.invariant "GDS_TOPUP_INTENT_NOT_FOUND")
  require (t.currency = "VND" ∧ created.providerOrderReference = toString t.payosOrderCode ∧
      created.localOrderReference = some t.payosOrderCode ∧ created.amountMinor = t.amountMinor ∧ created.currency = "VND")
    (.invariant "GDS_TOPUP_PAYOS_LINK_MISMATCH")
  let intent := { topupIntent t with settlementReceivingAccountHash := none, createdAt := none }
  let bound := if firstBinding t then { intent with receivingAccountHash := accountHash } else intent
  let next ← raise (attachGdsPayosLink parseUrl bound
    { orderCode := t.payosOrderCode, amountMinor := t.amountMinor, currency := "VND",
      paymentLinkId := created.providerPaymentIdentity, checkoutUrl := created.checkoutUrl, receivingAccountHash := accountHash })
  require (!claims.attemptClaims t.payosOrderCode (some created.providerPaymentIdentity) ∧
      !claims.legacyClaims t.payosOrderCode (some created.providerPaymentIdentity) none)
    (.invariant "GDS_TOPUP_CROSS_LEDGER_LINK_COLLISION")
  if next.status = .pendingPayos ∧ t.status = .created then
    updateTopup 1 { t with
      status := .pendingPayos
      paymentLinkId := next.paymentLinkId
      receivingAccountHash := if firstBinding t then accountHash else t.receivingAccountHash }
  else pure ()

end Preparation

def untouchedByMoney (db : GdsDb) (t : Topup) : Bool :=
  t.collectionReference.isNone && t.signatureVerifiedAt.isNone && t.providerReconciledAt.isNone && t.creditedAt.isNone &&
  t.settlementReceivingAccountHash.isNone && !db.journal.any (fun j => j.topupId = some t.id) &&
  !db.reconciliations.any (fun p => p.topupId = t.id) && !db.payosInbox.any (fun i => i.topupId = t.id)

inductive CancelRead where
  | alreadyCancelled
  | proceed (topup : Topup)
deriving DecidableEq, Repr

def cancelRead (buyerId topupId : Uuid) : GdsTxn CancelRead := do
  let db ← get
  let t ← orThrow (db.topups.find? (fun t => t.id = topupId ∧ t.buyerId = buyerId)) (.notFound "GDS topup not found")
  require (untouchedByMoney db t) (.conflict "GDS_TOPUP_CANCELLATION_CONFLICT")
  if t.status = .cancelled then pure .alreadyCancelled
  else do
    require (t.status = .pendingPayos ∧ t.currency = "VND" ∧ t.paymentLinkId.any isPayosLinkIdentity ∧ 0 < t.amountMinor ∧
        isSafeOrderReference t.payosOrderCode)
      (.conflict "GDS_TOPUP_CANCELLATION_CONFLICT")
    pure (.proceed t)

def requireUnpaid (fact : PaymentRequestStatus) (t : Topup) (statuses : List PaymentProviderStatus) : Prop :=
  fact.status ∈ statuses ∧ some fact.providerPaymentIdentity = t.paymentLinkId ∧ fact.localOrderReference = t.payosOrderCode ∧
  fact.amountMinor = t.amountMinor ∧ fact.amountPaidMinor = 0 ∧ fact.amountRemainingMinor = t.amountMinor ∧
  fact.transactions = []

instance (fact : PaymentRequestStatus) (t : Topup) (statuses : List PaymentProviderStatus) :
    Decidable (requireUnpaid fact t statuses) := by
  unfold requireUnpaid
  infer_instance

def cancelMatches (db : GdsDb) (snapshot t : Topup) : Bool :=
  decide (t.id = snapshot.id ∧ t.buyerId = snapshot.buyerId ∧ t.status = .pendingPayos ∧
    t.paymentLinkId = snapshot.paymentLinkId ∧ t.payosOrderCode = snapshot.payosOrderCode ∧
    t.amountMinor = snapshot.amountMinor ∧ t.currency = "VND") && untouchedByMoney db t

def cancelWrite (snapshot : Topup) (before after : PaymentRequestStatus) : GdsTxn Unit := do
  require (requireUnpaid before snapshot [.pending, .cancelled]) (.conflict "GDS_TOPUP_CANCELLATION_CONFLICT")
  require (before.status = .cancelled → after = before) (.conflict "GDS_TOPUP_CANCELLATION_CONFLICT")
  require (requireUnpaid after snapshot [.cancelled]) (.conflict "GDS_TOPUP_CANCELLATION_CONFLICT")
  let db ← get
  let t ← orThrow (db.topups.find? (cancelMatches db snapshot)) (.conflict "GDS_TOPUP_CANCELLATION_CONFLICT")
  updateTopup 1 { t with status := .cancelled }

inductive TopupDisplay where
  | credited | cancelled | review | reconciling | expired | awaitingTransfer
deriving DecidableEq, Repr

def hasCreditEvidence (db : GdsDb) (t : Topup) : Bool :=
  t.creditedAt.isSome && reconciledAfterSignature t && present t.collectionReference &&
  db.journal.any (fun j => j.topupId = some t.id ∧ j.kind = .topupCredit ∧ j.amountMinor = t.amountMinor ∧
    j.collectionReference = t.collectionReference)

def topupStatus (now : Instant) (db : GdsDb) (t : Topup) : TopupDisplay :=
  if t.status = .credited then (if hasCreditEvidence db t then .credited else .review)
  else if t.status = .cancelled then .cancelled
  else if t.status = .review ∨ db.payosInbox.any (fun i => i.topupId = t.id ∧ i.status = .review) then .review
  else if t.status = .payosVerified ∨ db.payosInbox.any (fun i => i.topupId = t.id ∧ i.status = .received) then .reconciling
  else if t.expiresAt ≤ now then .expired
  else .awaitingTransfer

end EduAi.Gds
