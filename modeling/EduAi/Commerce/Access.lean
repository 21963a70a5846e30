import EduAi.Commerce.Collections

set_option autoImplicit false

namespace EduAi.Commerce

open EduAi.Store EduAi.Gds EduAi.Payments

def bankWindowOpen (status : BankRequestStatus) : Bool :=
  status = .pending || status = .underReview || status = .needsSupport

def insertBankRequest (r : CommerceBankTransferRequest) : CommerceTxn Unit := do
  let db ← get
  require (r.status = .pending ∧ (attemptById db r.paymentAttemptId).any (fun a => a.orderId = r.orderId ∧
      a.provider = .bankTransfer ∧ a.status = .pending ∧ a.amountMinor = r.amountMinor ∧ a.currency = "VND" ∧
      a.providerPaymentIdentity = some r.id) ∧
      (orderById db r.orderId).any (fun o => o.status = .pendingPayment ∧ o.payableAmountMinor = r.amountMinor))
    (.raised "bank request must bind pending matching attempt and order")
  require (r.createdAt < r.expiresAt ∧ 0 < r.amountMinor) (.check "commerce_bank_transfer_requests_check")
  require (r.accountNumber = "0000000000" ∧ r.bankBin = "970422") (.check "commerce_bank_transfer_requests_check1")
  require (free (fun r => some r.id) r db.bankRequests) (.unique "commerce_bank_transfer_requests_pkey")
  require (free (fun r => some r.orderId) r db.bankRequests) (.unique "commerce_bank_transfer_requests_order_id_key")
  require (free (fun r => some r.paymentAttemptId) r db.bankRequests) (.unique "commerce_bank_transfer_requests_payment_attempt_id_key")
  require (free (fun r => some r.transferContent) r db.bankRequests) (.unique "commerce_bank_transfer_requests_transfer_content_key")
  modify (fun db => { db with bankRequests := db.bankRequests ++ [r] })

def updateBankRequest (id : Uuid) (status : BankRequestStatus) : CommerceTxn Unit := do
  let db ← get
  let old ← orThrow (bankRequestById db id) (.missingRow "commerce_bank_transfer_requests")
  require (old.status = status ∨ (bankWindowOpen old.status ∧ status ≠ .pending)) (.raised "invalid bank request transition")
  require (status = .paid → ∃ s ∈ db.settlements, s.paymentAttemptId = some old.paymentAttemptId ∧
      s.provider = some .bankTransfer ∧ s.disposition = .matched) (.raised "paid bank request requires canonical settlement")
  modify (fun db => { db with
    bankRequests := updateWhere (fun r => r.id = id) (fun r => { r with status }) db.bankRequests })

def insertEvidence (e : CommerceBankStatementEvidence) : CommerceTxn Unit := do
  let db ← get
  let _ ← orThrow (bankRequestById db e.requestId) (.foreignKey "commerce_bank_statement_evidence_request_id_fkey")
  require (0 < e.amountMinor) (.check "commerce_bank_statement_evidence_amount_minor_check")
  require (free (fun e => some e.id) e db.bankEvidence) (.unique "commerce_bank_statement_evidence_pkey")
  require (free (fun e => some (e.bankBin, e.accountNumber, e.transactionId)) e db.bankEvidence)
    (.unique "commerce_bank_statement_evidence_transaction_key")
  modify (fun db => { db with bankEvidence := db.bankEvidence ++ [e] })

def insertApproval (p : CommerceBankApproval) : CommerceTxn Unit := do
  let db ← get
  let _ ← orThrow (evidenceById db p.evidenceId) (.foreignKey "commerce_bank_approvals_evidence_id_fkey")
  require (isActiveAdmin db p.actorId) (.raised "bank approval requires active platform admin")
  require (free some p db.bankApprovals) (.unique "commerce_bank_approvals_pkey")
  modify (fun db => { db with bankApprovals := db.bankApprovals ++ [p] })

def effectKey (e : CommerceFulfillmentEffect) : Uuid × String × String :=
  (e.orderLineId, e.effectType, e.sourceId)

-- createMany with skipDuplicates: a row the unique index already holds is passed over.
def createEffect (e : CommerceFulfillmentEffect) : CommerceTxn Unit := do
  let db ← get
  if free (fun e => some (effectKey e)) e db.effects then
    require (∃ l ∈ db.lines, l.id = e.orderLineId ∧ l.orderId = e.orderId)
      (.raised "fulfillment effect order line must belong to its order")
    modify (fun db => { db with effects := db.effects ++ [e] })
  else pure ()

def insertSubscription (s : MembershipSubscription) : CommerceTxn Unit := do
  let db ← get
  require (s.startsAt < s.expiresAt) (.check "membership_subscriptions_window_check")
  require (∀ lineId, s.sourceOrderLineId = some lineId →
      ∃ l ∈ db.lines, l.id = lineId ∧ l.productType = .membership ∧ l.productReferenceId = s.versionId ∧
        (∃ o ∈ db.orders, o.id = l.orderId ∧ o.buyerId = s.userId) ∧
        (∃ i ∈ db.intents, i.orderId = l.orderId ∧ i.versionId = s.versionId ∧ i.startsAt = s.startsAt ∧ i.endsAt = s.expiresAt))
    (.raised "membership term must match its immutable purchased snapshot")
  require (free (fun s => some s.id) s db.subscriptions) (.unique "membership_subscriptions_pkey")
  require (free (fun s => s.sourceOrderLineId) s db.subscriptions) (.unique "membership_subscriptions_source_order_line_id_key")
  modify (fun db => { db with subscriptions := db.subscriptions ++ [s] })

def cancelSubscriptions (p : MembershipSubscription → Bool) : CommerceTxn Unit :=
  modify (fun db => { db with
    subscriptions := updateWhere (fun s => p s && s.active) (fun s => { s with active := false }) db.subscriptions })

def grantKey (g : CourseAccessGrant) : Uuid × Uuid × CourseAccessSourceType × String :=
  (g.userId, g.courseId, g.sourceType, g.sourceId)

def grantBySource (db : CommerceDb) (userId courseId : Uuid) (sourceType : CourseAccessSourceType) (sourceId : String) :
    Option CourseAccessGrant :=
  db.grants.find? (fun g => g.userId = userId ∧ g.courseId = courseId ∧ g.sourceType = sourceType ∧ g.sourceId = sourceId)

def createGrant (g : CourseAccessGrant) : CommerceTxn Unit := do
  let db ← get
  if free (fun g => some (grantKey g)) g db.grants then
    require (∀ endsAt, g.endsAt = some endsAt → g.startsAt < endsAt) (.check "course_access_grants_window_check")
    require (free (fun g => some g.id) g db.grants) (.unique "course_access_grants_pkey")
    modify (fun db => { db with grants := db.grants ++ [g] })
  else pure ()

def revokeGrantRow (id : Uuid) (reason : String) : CommerceTxn Unit := do
  let db ← get
  let old ← orThrow (db.grants.find? (fun g => g.id = id)) (.missingRow "course_access_grants")
  require old.active (.raised "invalid course access grant transition")
  modify (fun db => { db with
    grants := updateWhere (fun g => g.id = id) (fun g => { g with active := false, revocationReason := some reason }) db.grants })

def entitlementKey (g : ServiceEntitlementGrant) : Uuid × Uuid × String × String :=
  (g.userId, g.policy.definitionId, g.sourceType, g.sourceId)

def createEntitlement (g : ServiceEntitlementGrant) : CommerceTxn Unit := do
  let db ← get
  if free (fun g => some (entitlementKey g)) g db.entitlements then
    modify (fun db => { db with entitlements := db.entitlements ++ [g] })
  else pure ()

def revokeEntitlements (p : ServiceEntitlementGrant → Bool) : CommerceTxn Unit :=
  modify (fun db => { db with
    entitlements := updateWhere (fun g => p g && g.active) (fun g => { g with active := false }) db.entitlements })

def upsertEnrollment (e : Enrollment) : CommerceTxn Unit := do
  let db ← get
  if free some e db.enrollments then modify (fun db => { db with enrollments := db.enrollments ++ [e] }) else pure ()

def createProgress (row : LearningProgress) : CommerceTxn Unit := do
  let db ← get
  if free (fun p => some (p.userId, p.lessonId)) row db.progress then
    modify (fun db => { db with progress := db.progress ++ [row] })
  else pure ()

def createOutbox (row : CommerceNotificationOutbox) : CommerceTxn Unit := do
  let db ← get
  if free (fun r => some r.eventKey) row db.outbox then modify (fun db => { db with outbox := db.outbox ++ [row] }) else pure ()

def verifyGeneration (id settlementId : Uuid) : CommerceTxn Unit :=
  modify (fun db => { db with
    generations := updateWhere (fun g => g.id = id)
      (fun g => { g with status := .verifiedPaid, settlementId := some settlementId }) db.generations })

def onWallet {α : Type} (m : GdsTxn α) : CommerceTxn α :=
  zoom CommerceDb.gds (fun gds db => { db with gds }) m

end EduAi.Commerce
