import EduAi.Gds.PayosTopup
import EduAi.Gds.Statements

set_option autoImplicit false

namespace EduAi.Gds

open EduAi.Store EduAi.Payments

-- What the Commerce and legacy wallet tables hold when a transaction looks for a claim on the same PayOS identity.
structure CrossLedger where
  commerceAttempts : List (Int × Option String)
  commerceReferences : List String
  legacyTopups : List (Int × Option String × Option String)
deriving DecidableEq, Repr

def CrossLedger.attemptClaims (c : CrossLedger) (orderCode : Int) (link : Option String) : Bool :=
  c.commerceAttempts.any (fun a => a.1 = orderCode ∨ (link.isSome ∧ a.2 = link))

def CrossLedger.legacyClaims (c : CrossLedger) (orderCode : Int) (link reference : Option String) : Bool :=
  c.legacyTopups.any (fun t => t.1 = orderCode ∨ (link.isSome ∧ t.2.1 = link) ∨ (reference.isSome ∧ t.2.2 = reference))

def raise {α : Type} (e : Except Fault α) : GdsTxn α :=
  match e with
  | .ok a => pure a
  | .error fault => throw fault

def topupFactsMatch (t : Topup) (intent : GdsPayosTopupIntent) (settlement : GdsInternalPayosSettlement)
    (credit : GdsInternalTopupCredit) : Prop :=
  t.buyerId = credit.buyerId ∧ t.walletId ≠ "" ∧ t.amountMinor = credit.amountMinor ∧ t.currency = credit.currency ∧
  t.payosOrderCode = intent.payosOrderCode ∧ t.receivingAccountHash = intent.receivingAccountHash ∧
  (intent.settlementReceivingAccountHash.isSome → t.settlementReceivingAccountHash = intent.settlementReceivingAccountHash) ∧
  t.paymentLinkId = intent.paymentLinkId ∧ t.collectionReference = some credit.collectionReference ∧
  t.signatureVerifiedAt = some settlement.signatureVerifiedAt ∧
  t.providerReconciledAt = some settlement.providerReconciledAt ∧ reconciledAfterSignature t ∧
  (t.status = .payosVerified ∨ t.status = .credited)

instance (t : Topup) (intent : GdsPayosTopupIntent) (settlement : GdsInternalPayosSettlement) (credit : GdsInternalTopupCredit) :
    Decidable (topupFactsMatch t intent settlement credit) := by
  unfold topupFactsMatch
  infer_instance

def creditPosting (t : Topup) (w : Wallet) (credit : GdsInternalTopupCredit) : JournalEntry where
  walletId := w.id
  eventKey := credit.eventId
  kind := .topupCredit
  amountMinor := credit.amountMinor
  availableDeltaMinor := credit.amountMinor
  heldDeltaMinor := 0
  clearingDeltaMinor := -credit.amountMinor
  topupId := some t.id
  collectionReference := some credit.collectionReference

def creditReplayed (existing : JournalEntry) (t : Topup) (w : Wallet) (credit : GdsInternalTopupCredit) : Prop :=
  existing.kind = .topupCredit ∧ existing.walletId = w.id ∧ existing.topupId = some t.id ∧
  existing.amountMinor = credit.amountMinor ∧ existing.collectionReference = some credit.collectionReference ∧
  t.status = .credited

instance (existing : JournalEntry) (t : Topup) (w : Wallet) (credit : GdsInternalTopupCredit) :
    Decidable (creditReplayed existing t w credit) := by
  unfold creditReplayed
  infer_instance

def postCredit (now : Instant) (t : Topup) (w : Wallet) (credit : GdsInternalTopupCredit) : GdsTxn Unit := do
  let db ← get
  match db.journal.find? (fun j => j.eventKey = credit.eventId) with
  | some existing => require (creditReplayed existing t w credit) (.invariant "GDS_INTERNAL_TOPUP_EVENT_COLLISION")
  | none => do
      require (t.status = .payosVerified) (.invariant "GDS_INTERNAL_TOPUP_DB_MISMATCH")
      insertJournal now (creditPosting t w credit)

def creditVerifiedTopupInTransaction (now : Instant) (claims : CrossLedger) (intent : GdsPayosTopupIntent)
    (settlement : GdsInternalPayosSettlement) : GdsTxn Unit := do
  let credit ← raise (prepareGdsInternalTopupCredit intent settlement)
  let db ← get
  let t ← orThrow (topupById db intent.id) (.invariant "GDS_INTERNAL_TOPUP_DB_MISMATCH")
  require (topupFactsMatch t intent settlement credit) (.invariant "GDS_INTERNAL_TOPUP_DB_MISMATCH")
  require (!claims.attemptClaims t.payosOrderCode t.paymentLinkId ∧ credit.collectionReference ∉ claims.commerceReferences ∧
      !claims.legacyClaims t.payosOrderCode t.paymentLinkId (some credit.collectionReference))
    (.invariant "GDS_INTERNAL_TOPUP_CROSS_LEDGER_COLLISION")
  let w ← orThrow (walletById db t.walletId) (.invariant "GDS_INTERNAL_TOPUP_DB_MISMATCH")
  require (w.buyerId = credit.buyerId ∧ w.status = .active) (.invariant "GDS_INTERNAL_TOPUP_DB_MISMATCH")
  postCredit now t w credit

inductive InboxOutcome where
  | received | duplicate | review
deriving DecidableEq, Repr

-- The lookup of ingestSignedIfWallet, outside its transaction: the snapshot may be stale when the transaction runs.
def selectsTopup (fact : VerifiedPaymentWebhook) (t : Topup) : Bool :=
  t.payosOrderCode == fact.localOrderReference || t.paymentLinkId == some fact.providerPaymentIdentity

def walletFact (fact : VerifiedPaymentWebhook) : Bool :=
  fact.provider == .payos && fact.providerCode == "00" && isSafeOrderReference fact.localOrderReference

def wellFormedFact (fact : VerifiedPaymentWebhook) : Bool :=
  fact.providerEventIdentity != "" && fact.providerEventIdentity == fact.providerSettlementReference &&
  fact.providerPaymentIdentity != "" && decide (0 < fact.amountMinor) && fact.currency == "VND" &&
  match fact.receivingAccount with
  | some account => isPayosAccount account
  | none => false

structure IngestTask where
  fact : VerifiedPaymentWebhook
  topup : Topup
  receivingAccount : String
  accountHash : String
  virtualHash : Option String
  wrongIdentity : Bool
deriving DecidableEq, Repr

def wrongIdentity (now : Instant) (t : Topup) (fact : VerifiedPaymentWebhook) (accountHash : String)
    (virtualHash : Option String) : Bool :=
  t.payosOrderCode != fact.localOrderReference || fact.providerOrderReference != toString t.payosOrderCode ||
  t.paymentLinkId != some fact.providerPaymentIdentity || t.amountMinor != fact.amountMinor || t.currency != "VND" ||
  (t.settlementReceivingAccountHash.isSome && t.settlementReceivingAccountHash != some accountHash) ||
  (virtualHash.isSome && virtualHash != some t.receivingAccountHash) || decide (t.expiresAt < fact.occurredAt) ||
  decide (now + 300000 < fact.occurredAt) || decide (t.status ∈ [.created, .cancelled, .review])

-- The selected row is any one that matches: the source asks for the first without an order.
def ingestRead (hashAccount : String → String) (now : Instant) (db : GdsDb) (fact : VerifiedPaymentWebhook) (topupId : Uuid) :
    Option IngestTask :=
  match db.topups.find? (fun t => t.id = topupId ∧ selectsTopup fact t) with
  | none => none
  | some t =>
      if walletFact fact ∧ wellFormedFact fact then
        let receivingAccount := fact.receivingAccount.getD ""
        let accountHash := hashAccount receivingAccount
        let virtualHash := fact.virtualReceivingAccount.map hashAccount
        some { fact, topup := t, receivingAccount, accountHash, virtualHash,
               wrongIdentity := wrongIdentity now t fact accountHash virtualHash }
      else none

def sameSignedEvent (previous : PayosInbox) (task : IngestTask) : Prop :=
  previous.topupId = task.topup.id ∧ previous.payosOrderCode = task.topup.payosOrderCode ∧
  previous.paymentLinkId = task.fact.providerPaymentIdentity ∧ previous.amountMinor = task.fact.amountMinor ∧
  previous.currency = task.fact.currency ∧ previous.receivingAccount = task.receivingAccount ∧
  previous.receivingAccountHash = task.accountHash ∧ previous.virtualReceivingAccountHash = task.virtualHash ∧
  previous.occurredAt = task.fact.occurredAt

instance (previous : PayosInbox) (task : IngestTask) : Decidable (sameSignedEvent previous task) := by
  unfold sameSignedEvent
  infer_instance

def inboxRow (now : Instant) (id : Uuid) (task : IngestTask) (review : Bool) : PayosInbox where
  id := id
  topupId := task.topup.id
  providerEventIdentity := task.fact.providerEventIdentity
  payosOrderCode := task.fact.localOrderReference
  paymentLinkId := task.fact.providerPaymentIdentity
  amountMinor := task.fact.amountMinor
  currency := task.fact.currency
  receivingAccount := task.receivingAccount
  receivingAccountHash := task.accountHash
  virtualReceivingAccountHash := task.virtualHash
  occurredAt := task.fact.occurredAt
  signatureVerifiedAt := now
  status := if review then .review else .received
  attemptCount := 0
  nextAttemptAt := now
  reviewReason := if review then some "SIGNED_IDENTITY_OR_TERMINAL_CONFLICT" else none
  processedAt := none

def ingestCommit (now : Instant) (id : Uuid) (claims : CrossLedger) (task : IngestTask) : GdsTxn InboxOutcome := do
  let db ← get
  match db.payosInbox.find? (fun i => i.providerEventIdentity = task.fact.providerEventIdentity) with
  | some previous => do
      require (sameSignedEvent previous task) (.conflict "Conflicting PayOS signed event identity")
      pure (if previous.status = .review then .review else .duplicate)
  | none => do
      let link := some task.fact.providerPaymentIdentity
      let review := task.wrongIdentity || claims.attemptClaims task.topup.payosOrderCode link ||
        claims.legacyClaims task.topup.payosOrderCode link (some task.fact.providerEventIdentity)
      createInbox (inboxRow now id task review)
      pure (if review then .review else .received)

def eligibleInbox (inbox : PayosInbox) (recovery : Bool) : Bool :=
  inbox.status == .received ||
  (recovery && inbox.status == .review && inbox.reviewReason == some "SIGNED_IDENTITY_OR_TERMINAL_CONFLICT")

def signedFact (inbox : PayosInbox) : VerifiedPaymentWebhook where
  provider := .payos
  providerOrderReference := toString inbox.payosOrderCode
  providerEventIdentity := inbox.providerEventIdentity
  providerPaymentIdentity := inbox.paymentLinkId
  providerSettlementReference := inbox.providerEventIdentity
  localOrderReference := inbox.payosOrderCode
  amountMinor := inbox.amountMinor
  currency := inbox.currency
  occurredAt := inbox.occurredAt
  occurredAtSource := none
  providerCode := "00"
  responseCode := some "00"
  transactionStatus := none
  receivingAccount := some inbox.receivingAccount
  virtualReceivingAccount := none
  verifiedVirtualAccountHash := inbox.virtualReceivingAccountHash

inductive ProcessOutcome where
  | processed | review | deferred
deriving DecidableEq, Repr

def creditedEventMatches (j : JournalEntry) (t : Topup) (inbox : PayosInbox) : Prop :=
  j.kind = .topupCredit ∧ j.collectionReference = some inbox.providerEventIdentity ∧ j.amountMinor = inbox.amountMinor ∧
  j.walletId = t.walletId ∧ t.collectionReference = some inbox.providerEventIdentity ∧
  t.signatureVerifiedAt.isSome ∧ t.providerReconciledAt.isSome

instance (j : JournalEntry) (t : Topup) (inbox : PayosInbox) : Decidable (creditedEventMatches j t inbox) := by
  unfold creditedEventMatches
  infer_instance

def priorProofMatches (prior : PayosReconciliation) (t : Topup) (inbox : PayosInbox) (physicalHash : String) : Prop :=
  prior.topupId = t.id ∧ prior.providerEventIdentity = inbox.providerEventIdentity ∧
  prior.payosOrderCode = inbox.payosOrderCode ∧ prior.paymentLinkId = inbox.paymentLinkId ∧
  prior.amountMinor = inbox.amountMinor ∧ prior.currency = inbox.currency ∧ prior.occurredAt = inbox.occurredAt ∧
  prior.signatureVerifiedAt = inbox.signatureVerifiedAt ∧ prior.qrReceivingAccountHash = t.receivingAccountHash ∧
  prior.settlementReceivingAccountHash = physicalHash

instance (prior : PayosReconciliation) (t : Topup) (inbox : PayosInbox) (physicalHash : String) :
    Decidable (priorProofMatches prior t inbox physicalHash) := by
  unfold priorProofMatches
  infer_instance

def reconciliationRow (t : Topup) (inbox : PayosInbox) (physicalHash : String) (reconciledAt : Instant) : PayosReconciliation where
  topupId := t.id
  inboxId := inbox.id
  providerEventIdentity := inbox.providerEventIdentity
  payosOrderCode := inbox.payosOrderCode
  paymentLinkId := inbox.paymentLinkId
  amountMinor := inbox.amountMinor
  currency := inbox.currency
  qrReceivingAccountHash := t.receivingAccountHash
  settlementReceivingAccountHash := physicalHash
  occurredAt := inbox.occurredAt
  signatureVerifiedAt := inbox.signatureVerifiedAt
  providerReconciledAt := reconciledAt

def proveReconciliation (t : Topup) (inbox : PayosInbox) (physicalHash : String) (reconciledAt : Instant) : GdsTxn Instant := do
  let db ← get
  match db.reconciliations.find? (fun p => p.inboxId = inbox.id) with
  | some prior => do
      require (priorProofMatches prior t inbox physicalHash) (.invariant "GDS_PAYOS_RECONCILIATION_PROOF_CONFLICT")
      pure prior.providerReconciledAt
  | none => do
      createReconciliation (reconciliationRow t inbox physicalHash reconciledAt)
      pure reconciledAt

def verifyPendingTopup (t : Topup) (inbox : PayosInbox) (physicalHash : String) (reconciledAt : Instant) : GdsTxn Unit :=
  if t.status = .pendingPayos then
    updateTopup 1 { t with
      status := .payosVerified
      collectionReference := some inbox.providerEventIdentity
      settlementReceivingAccountHash := some physicalHash
      signatureVerifiedAt := some inbox.signatureVerifiedAt
      providerReconciledAt := some reconciledAt }
  else pure ()

def creditFromInbox (now : Instant) (claims : CrossLedger) (t : Topup) (inbox : PayosInbox)
    (settlement : GdsInternalPayosSettlement) : GdsTxn Unit := do
  require (t.status = .pendingPayos ∨ t.status = .payosVerified) (.invariant "GDS_PAYOS_TOPUP_TERMINAL_CONFLICT")
  require (t.status = .payosVerified → t.collectionReference = some inbox.providerEventIdentity ∧
      t.signatureVerifiedAt.isSome ∧ t.providerReconciledAt.isSome)
    (.invariant "GDS_PAYOS_TOPUP_VERIFICATION_CONFLICT")
  let physicalHash ← orThrow settlement.settlementReceivingAccountHash (.invariant "GDS_PAYOS_RECEIVING_ACCOUNT_MISMATCH")
  require (physicalHash ≠ "" ∧ physicalHash = inbox.receivingAccountHash ∧
      (t.settlementReceivingAccountHash.isSome → t.settlementReceivingAccountHash = some physicalHash))
    (.invariant "GDS_PAYOS_RECEIVING_ACCOUNT_MISMATCH")
  let reconciledAt ← proveReconciliation t inbox physicalHash settlement.providerReconciledAt
  verifyPendingTopup t inbox physicalHash reconciledAt
  creditVerifiedTopupInTransaction now claims
    { topupIntent t with
      settlementReceivingAccountHash := some physicalHash
      status := .payosVerified
      collectionReference := some inbox.providerEventIdentity }
    { settlement with
      signatureVerifiedAt := t.signatureVerifiedAt.getD inbox.signatureVerifiedAt
      providerReconciledAt := t.providerReconciledAt.getD reconciledAt }

def acknowledgeInbox (now : Instant) (inbox : PayosInbox) : GdsTxn Unit :=
  if inbox.status = .received then
    updateInbox { inbox with status := .processed, processedAt := some now, attemptCount := inbox.attemptCount + 1 }
  else pure ()

def settleInbox (now : Instant) (claims : CrossLedger) (t : Topup) (inbox : PayosInbox)
    (settlement : GdsInternalPayosSettlement) : GdsTxn Unit := do
  let db ← get
  if t.status = .credited then
    let j ← orThrow (db.journal.find? (fun j => j.topupId = some t.id)) (.invariant "GDS_PAYOS_CREDITED_EVENT_CONFLICT")
    require (creditedEventMatches j t inbox) (.invariant "GDS_PAYOS_CREDITED_EVENT_CONFLICT")
  else creditFromInbox now claims t inbox settlement

-- The serializable transaction of processRecord: it reads the rows again and never trusts the snapshot.
def applyRecord (now : Instant) (claims : CrossLedger) (id : Uuid) (recovery : Bool) (settlement : GdsInternalPayosSettlement) :
    GdsTxn ProcessOutcome := do
  let db ← get
  let inbox ← orThrow (inboxById db id) (.missingRow "gds_internal_payos_inbox")
  if eligibleInbox inbox recovery then
    let t ← orThrow (topupById db inbox.topupId) (.missingRow "gds_internal_topups")
    settleInbox now claims t inbox settlement
    acknowledgeInbox now inbox
    pure .processed
  else pure .deferred

def retryable : Fault → Bool
  | .serialization | .unique _ => true
  | _ => false

def deferrable : Fault → Bool
  | .provider _ mayRetry => mayRetry
  | .invariant code => code == "GDS_PAYOS_RECONCILIATION_MISMATCH"
  | fault => retryable fault

def reviewReasonOf : Fault → String
  | .invariant code => code
  | .provider code _ => "PAYOS_" ++ code
  | _ => "GDS_PAYOS_PROCESSING_CONFLICT"

def sliced (reason : String) : String :=
  String.ofList (reason.toList.take 128)

def moveToReview (id : Uuid) (reason : String) : GdsTxn Unit := do
  let db ← get
  match db.payosInbox.find? (fun i => i.id = id ∧ i.status = .received) with
  | some inbox => updateInbox { inbox with status := .review, reviewReason := some (sliced reason), attemptCount := inbox.attemptCount + 1 }
  | none => pure ()

def maxAttempts : Nat := 12

-- The second statement of defer: it only writes when the row is as the first statement read it.
def deferWrite (now : Instant) (id : Uuid) (attemptCount : Nat) : GdsTxn Unit := do
  let db ← get
  let attempts := attemptCount + 1
  match db.payosInbox.find? (fun i => i.id = id ∧ i.status = .received ∧ i.attemptCount = attemptCount) with
  | none => pure ()
  | some inbox =>
      if maxAttempts ≤ attempts then
        updateInbox { inbox with
          status := .review, reviewReason := some "GDS_PAYOS_RECONCILIATION_RETRY_EXHAUSTED", attemptCount := attempts }
      else
        updateInbox { inbox with
          attemptCount := attempts, nextAttemptAt := now + min 3600000 (15000 * 2 ^ (min attempts 8)) }

end EduAi.Gds
