import EduAi.Gds.Schema

set_option autoImplicit false

namespace EduAi.Gds

open EduAi.Store

def unboundReceivingAccountHash : String :=
  "0000000000000000000000000000000000000000000000000000000000000000"

def isSha256Hex (hash : String) : Bool :=
  hash.toList.length == 64 && hash.toList.all (fun c => ('0' ≤ c && c ≤ '9') || ('a' ≤ c && c ≤ 'f'))

def reconciledAfterSignature (t : Topup) : Bool :=
  match t.signatureVerifiedAt, t.providerReconciledAt with
  | some signed, some reconciled => decide (signed ≤ reconciled)
  | _, _ => false

-- The CHECK constraints of gds_internal_topups over money, status and verification facts.
def topupChecks (t : Topup) : Prop :=
  (0 < t.amountMinor ∧ t.amountMinor ≤ maxSafeInteger) ∧ t.currency = "VND" ∧
  (0 < t.payosOrderCode ∧ t.payosOrderCode ≤ maxSafeInteger) ∧
  (t.status ∈ [.pendingPayos, .payosVerified, .credited] →
    t.paymentLinkId.isSome ∧ t.receivingAccountHash ≠ unboundReceivingAccountHash) ∧
  (t.status ∈ [.payosVerified, .credited] → t.collectionReference.isSome ∧ reconciledAfterSignature t) ∧
  (t.status = .credited ↔ t.creditedAt.isSome)

instance (t : Topup) : Decidable (topupChecks t) := by
  unfold topupChecks
  infer_instance

def bindsReceivingAccount (old new : Topup) : Prop :=
  old.status = .created ∧ new.status = .pendingPayos ∧ old.receivingAccountHash = unboundReceivingAccountHash ∧
  isSha256Hex new.receivingAccountHash ∧ new.receivingAccountHash ≠ unboundReceivingAccountHash ∧
  old.paymentLinkId = none ∧ new.paymentLinkId.isSome

instance (old new : Topup) : Decidable (bindsReceivingAccount old new) := by
  unfold bindsReceivingAccount
  infer_instance

def topupIdentityKept (old new : Topup) : Prop :=
  new.buyerId = old.buyerId ∧ new.walletId = old.walletId ∧ new.requestKeyHash = old.requestKeyHash ∧
  new.amountMinor = old.amountMinor ∧ new.currency = old.currency ∧ new.payosOrderCode = old.payosOrderCode ∧
  new.transferMemo = old.transferMemo ∧ new.expiresAt = old.expiresAt ∧
  (new.receivingAccountHash = old.receivingAccountHash ∨ bindsReceivingAccount old new) ∧
  (old.paymentLinkId.isSome → new.paymentLinkId = old.paymentLinkId) ∧
  (old.collectionReference.isSome → new.collectionReference = old.collectionReference) ∧
  (old.signatureVerifiedAt.isSome → new.signatureVerifiedAt = old.signatureVerifiedAt) ∧
  (old.providerReconciledAt.isSome → new.providerReconciledAt = old.providerReconciledAt) ∧
  (old.creditedAt.isSome → new.creditedAt = old.creditedAt)

instance (old new : Topup) : Decidable (topupIdentityKept old new) := by
  unfold topupIdentityKept
  infer_instance

def topupMayMove : TopupStatus → TopupStatus → Bool
  | .created, .pendingPayos | .created, .cancelled => true
  | .pendingPayos, .payosVerified | .pendingPayos, .cancelled | .pendingPayos, .review => true
  | .payosVerified, .credited | .payosVerified, .review => true
  | .cancelled, .review => true
  | _, _ => false

-- The trigger depth is one for a statement of the application and two inside the journal trigger.
def gdsInternalTopupGuard (depth : Nat) (old new : Topup) : GdsTxn Unit := do
  require (topupIdentityKept old new) (.raised "GDS topup immutable identity cannot change")
  require (new.status = old.status ∨ topupMayMove old.status new.status) (.raised "GDS topup status cannot move backwards")
  require (new.status = .credited → 2 ≤ depth) (.raised "GDS credit must originate in verified journal trigger")

def reconciliationProves (t : Topup) (p : PayosReconciliation) : Bool :=
  p.topupId == t.id && p.payosOrderCode == t.payosOrderCode && some p.paymentLinkId == t.paymentLinkId &&
  p.amountMinor == t.amountMinor && p.currency == t.currency && p.qrReceivingAccountHash == t.receivingAccountHash &&
  some p.settlementReceivingAccountHash == t.settlementReceivingAccountHash &&
  some p.providerEventIdentity == t.collectionReference && some p.signatureVerifiedAt == t.signatureVerifiedAt &&
  some p.providerReconciledAt == t.providerReconciledAt

def gdsInternalTopupSettlementGuard (old new : Topup) : GdsTxn Unit := do
  let db ← get
  require (new.createdAt = old.createdAt) (.raised "GDS topup creation time is immutable")
  require (old.settlementReceivingAccountHash.isSome →
      new.settlementReceivingAccountHash = old.settlementReceivingAccountHash)
    (.raised "GDS settlement account is immutable")
  require (old.settlementReceivingAccountHash = none → new.settlementReceivingAccountHash.isSome →
      old.status = .pendingPayos ∧ new.status = .payosVerified)
    (.raised "GDS settlement binding requires reconciliation proof transition")
  require (new.settlementReceivingAccountHash.isSome ∨
      (new.status ∈ [.payosVerified, .credited] ∧ db.payosInbox.any (fun i => i.topupId = new.id)) →
      db.reconciliations.any (reconciliationProves new))
    (.raised "GDS settlement requires matching reconciliation proof")

def replaceTopup (new : Topup) (db : GdsDb) : GdsDb :=
  { db with topups := updateWhere (fun t => t.id = new.id) (fun _ => new) db.topups }

def othersFree {κ : Type} [DecidableEq κ] (key : Topup → Option κ) (new : Topup) (db : GdsDb) : Bool :=
  free key new (db.topups.filter (fun t => t.id ≠ new.id))

def updateTopup (depth : Nat) (new : Topup) : GdsTxn Unit := do
  let db ← get
  let old ← orThrow (topupById db new.id) (.missingRow "gds_internal_topups")
  gdsInternalTopupSettlementGuard old new
  gdsInternalTopupGuard depth old new
  require (topupChecks new) (.check "gds_internal_topups")
  require (othersFree (fun t => t.paymentLinkId) new db) (.unique "gds_internal_topups_payment_link_id_key")
  require (othersFree (fun t => t.collectionReference) new db) (.unique "gds_internal_topups_collection_reference_key")
  modify (replaceTopup new)

structure TopupRequest where
  id : Uuid
  buyerId : Uuid
  walletId : Uuid
  requestKeyHash : String
  amountMinor : Int
  payosOrderCode : Int
  transferMemo : String
  receivingAccountHash : String
  expiresAt : Instant
deriving DecidableEq, Repr

-- Every column the preparation service leaves out takes its default, so a top-up is born CREATED and unverified.
def TopupRequest.row (r : TopupRequest) (now : Instant) : Topup where
  id := r.id
  buyerId := r.buyerId
  walletId := r.walletId
  requestKeyHash := r.requestKeyHash
  amountMinor := r.amountMinor
  currency := "VND"
  payosOrderCode := r.payosOrderCode
  transferMemo := r.transferMemo
  receivingAccountHash := r.receivingAccountHash
  settlementReceivingAccountHash := none
  paymentLinkId := none
  collectionReference := none
  status := .created
  expiresAt := r.expiresAt
  signatureVerifiedAt := none
  providerReconciledAt := none
  creditedAt := none
  createdAt := now

def createTopup (now : Instant) (r : TopupRequest) : GdsTxn Unit := do
  let db ← get
  let row := r.row now
  require (db.wallets.any (fun w => w.id = r.walletId ∧ w.buyerId = r.buyerId)) (.raised "GDS topup buyer/wallet mismatch")
  require (topupChecks row) (.check "gds_internal_topups")
  require (free (fun t => some t.id) row db.topups) (.unique "gds_internal_topups_pkey")
  require (free (fun t => some t.payosOrderCode) row db.topups) (.unique "gds_internal_topups_payos_order_code_key")
  require (free (fun t => some (t.buyerId, t.requestKeyHash)) row db.topups)
    (.unique "gds_internal_topups_buyer_id_request_key_hash_key")
  modify (fun db => { db with topups := db.topups ++ [row] })

def createInbox (row : PayosInbox) : GdsTxn Unit := do
  let db ← get
  require (db.topups.any (fun t => t.id = row.topupId)) (.foreignKey "gds_internal_payos_inbox_topup_fkey")
  require (0 < row.amountMinor ∧ row.currency = "VND") (.check "gds_internal_payos_inbox")
  require (free (fun i => some i.id) row db.payosInbox) (.unique "gds_internal_payos_inbox_pkey")
  require (free (fun i => some i.providerEventIdentity) row db.payosInbox)
    (.unique "gds_internal_payos_inbox_provider_event_identity_key")
  modify (fun db => { db with payosInbox := db.payosInbox ++ [row] })

def inboxFactsKept (old new : PayosInbox) : Prop :=
  new.topupId = old.topupId ∧ new.providerEventIdentity = old.providerEventIdentity ∧
  new.payosOrderCode = old.payosOrderCode ∧ new.paymentLinkId = old.paymentLinkId ∧
  new.amountMinor = old.amountMinor ∧ new.currency = old.currency ∧ new.receivingAccount = old.receivingAccount ∧
  new.receivingAccountHash = old.receivingAccountHash ∧
  new.virtualReceivingAccountHash = old.virtualReceivingAccountHash ∧ new.occurredAt = old.occurredAt ∧
  new.signatureVerifiedAt = old.signatureVerifiedAt ∧ old.status = .received ∧ old.attemptCount ≤ new.attemptCount

instance (old new : PayosInbox) : Decidable (inboxFactsKept old new) := by
  unfold inboxFactsKept
  infer_instance

def inboxTerminalCheck (i : PayosInbox) : Prop :=
  (i.status = .processed ∧ i.processedAt.isSome ∧ i.reviewReason = none) ∨
  (i.status = .review ∧ i.reviewReason.isSome ∧ i.processedAt = none) ∨
  (i.status = .received ∧ i.processedAt = none ∧ i.reviewReason = none)

instance (i : PayosInbox) : Decidable (inboxTerminalCheck i) := by
  unfold inboxTerminalCheck
  infer_instance

def updateInbox (new : PayosInbox) : GdsTxn Unit := do
  let db ← get
  let old ← orThrow (inboxById db new.id) (.missingRow "gds_internal_payos_inbox")
  require (inboxFactsKept old new) (.raised "GDS PayOS inbox signed facts/terminal status are immutable")
  require (inboxTerminalCheck new) (.check "gds_internal_payos_inbox_terminal_check")
  modify (fun db => { db with payosInbox := updateWhere (fun i => i.id = new.id) (fun _ => new) db.payosInbox })

def reconciliationMatches (t : Topup) (i : PayosInbox) (p : PayosReconciliation) : Prop :=
  t.status ∈ [.pendingPayos, .payosVerified] ∧
  (i.status = .received ∨ (i.status = .review ∧ i.reviewReason = some "SIGNED_IDENTITY_OR_TERMINAL_CONFLICT")) ∧
  i.topupId = p.topupId ∧ i.providerEventIdentity = p.providerEventIdentity ∧
  i.payosOrderCode = p.payosOrderCode ∧ t.payosOrderCode = p.payosOrderCode ∧
  i.paymentLinkId = p.paymentLinkId ∧ t.paymentLinkId = some p.paymentLinkId ∧
  i.amountMinor = p.amountMinor ∧ t.amountMinor = p.amountMinor ∧ i.currency = p.currency ∧ t.currency = p.currency ∧
  t.receivingAccountHash = p.qrReceivingAccountHash ∧ i.receivingAccountHash = p.settlementReceivingAccountHash ∧
  (i.virtualReceivingAccountHash.isSome → i.virtualReceivingAccountHash = some p.qrReceivingAccountHash) ∧
  i.occurredAt = p.occurredAt ∧ i.signatureVerifiedAt = p.signatureVerifiedAt ∧
  t.createdAt ≤ p.occurredAt ∧ p.occurredAt ≤ t.expiresAt ∧
  (t.collectionReference.isSome → t.collectionReference = some p.providerEventIdentity)

instance (t : Topup) (i : PayosInbox) (p : PayosReconciliation) : Decidable (reconciliationMatches t i p) := by
  unfold reconciliationMatches
  infer_instance

def createReconciliation (p : PayosReconciliation) : GdsTxn Unit := do
  let db ← get
  let t ← orThrow (topupById db p.topupId) (.raised "GDS PayOS reconciliation topup missing")
  let i ← orThrow (inboxById db p.inboxId) (.raised "GDS PayOS reconciliation inbox missing")
  require (reconciliationMatches t i p) (.raised "GDS PayOS reconciliation signed identity mismatch")
  require (p.qrReceivingAccountHash ≠ unboundReceivingAccountHash ∧ p.signatureVerifiedAt ≤ p.providerReconciledAt)
    (.check "gds_internal_payos_reconciliations")
  require (free (fun r => some r.topupId) p db.reconciliations) (.unique "gds_internal_payos_reconciliations_topup_id_key")
  require (free (fun r => some r.inboxId) p db.reconciliations) (.unique "gds_internal_payos_reconciliations_inbox_id_key")
  require (free (fun r => some r.providerEventIdentity) p db.reconciliations)
    (.unique "gds_internal_payos_reconciliations_provider_event_identity_key")
  modify (fun db => { db with reconciliations := db.reconciliations ++ [p] })

end EduAi.Gds
