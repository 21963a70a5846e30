import EduAi.Commerce.Access
import EduAi.Store.CodeUnits
import EduAi.Store.Trim

set_option autoImplicit false

namespace EduAi.Commerce

open EduAi.Store EduAi.Gds

structure EnsureCourseAccessGrantInput where
  userId : Uuid
  courseId : Uuid
  sourceType : CourseAccessSourceType
  sourceId : String
  startsAt : Instant
  endsAt : Option Instant
  graceEndsAt : Option Instant
deriving DecidableEq, Repr

structure AccessDraw where
  subscriptionId : Uuid → Uuid
  grantId : Uuid × Uuid × CourseAccessSourceType × String → Uuid
  entitlementId : Uuid → Uuid → Uuid

def EnsureCourseAccessGrantInput.key (input : EnsureCourseAccessGrantInput) :
    Uuid × Uuid × CourseAccessSourceType × String :=
  (input.userId, input.courseId, input.sourceType, input.sourceId)

def EnsureCourseAccessGrantInput.row (input : EnsureCourseAccessGrantInput) (id : Uuid) : CourseAccessGrant where
  id := id
  userId := input.userId
  courseId := input.courseId
  sourceType := input.sourceType
  sourceId := input.sourceId
  active := true
  startsAt := input.startsAt
  endsAt := input.endsAt
  graceEndsAt := input.graceEndsAt
  revocationReason := none

-- Source identities are uuids and pairs of them, so their length counts the same in every encoding.
def validGrantInput (input : EnsureCourseAccessGrantInput) : Bool :=
  input.sourceId ≠ "" ∧ input.sourceId.length ≤ 128 ∧ (∀ endsAt, input.endsAt = some endsAt → input.startsAt < endsAt) ∧
    (∀ grace, input.graceEndsAt = some grace → ∃ endsAt, input.endsAt = some endsAt ∧ endsAt ≤ grace)

def grantProgress (userId courseId : Uuid) (l : Lesson) : LearningProgress where
  userId := userId
  courseId := courseId
  lessonId := l.id

def ensureGrant (draw : AccessDraw) (input : EnsureCourseAccessGrantInput) : CommerceTxn (Option CourseAccessGrant) := do
  require (validGrantInput input) (.badRequest "Invalid course access grant source or window.")
  createGrant (input.row (draw.grantId input.key))
  upsertEnrollment { userId := input.userId, courseId := input.courseId }
  let db ← get
  let lessons := db.lessons.filter (fun l => l.courseId = input.courseId ∧ l.deleted = false)
  lessons.forM (fun l => createProgress (grantProgress input.userId input.courseId l))
  let db ← get
  pure (grantBySource db input.userId input.courseId input.sourceType input.sourceId)

def validRevocationReason (reason : String) : Bool :=
  jsTrim reason ≠ "" ∧ (unitsOf reason).length ≤ 120

def revokeGrant (userId courseId : Uuid) (sourceType : CourseAccessSourceType) (sourceId reason : String) :
    CommerceTxn Unit := do
  require (validRevocationReason reason) (.badRequest "Invalid course access revocation reason.")
  let db ← get
  match grantBySource db userId courseId sourceType sourceId with
  | none => pure ()
  | some g => if g.active then revokeGrantRow g.id reason else pure ()

def latestGeneration (db : CommerceDb) (orderId : Uuid) : Option ReceiptAccessGeneration :=
  (db.generations.filter (fun g => g.orderId = orderId)).foldl (fun latest g =>
    match latest with
    | none => some g
    | some best => if best.generation < g.generation then some g else some best) none

def receiptSource (g : ReceiptAccessGeneration) (orderLineId : Uuid) : String :=
  g.id ++ ":" ++ orderLineId

def retireEffect (g : ReceiptAccessGeneration) (reason : String) (e : ReceiptAccessEffect) : CommerceTxn Unit := do
  let db ← get
  if e.resourceType = "course_access_grant" then
    let grant ← orThrow (db.grants.find? (fun x => x.id = e.resourceId)) (.conflict "RECEIPT_ACCESS_PROVENANCE_MISMATCH")
    require (grant.userId = g.buyerId ∧ grant.sourceType = .unverifiedReceiptAccess ∧
      (g.id ++ ":").toList <+: grant.sourceId.toList) (.conflict "RECEIPT_ACCESS_PROVENANCE_MISMATCH")
    revokeGrant grant.userId grant.courseId grant.sourceType grant.sourceId reason
  else if e.resourceType = "membership_subscription" then
    cancelSubscriptions (fun s => s.id = e.resourceId ∧ s.userId = g.buyerId ∧ s.sourceOrderLineId = none)
  else if e.resourceType = "service_entitlement_grant" then
    revokeEntitlements (fun x => x.id = e.resourceId ∧ x.userId = g.buyerId ∧
      x.sourceType = "UNVERIFIED_RECEIPT_ACCESS" ∧ x.sourceId = receiptSource g e.orderLineId)
  else pure ()

def retireEffects (g : ReceiptAccessGeneration) (reason : String) : CommerceTxn Unit := do
  let db ← get
  (db.receiptEffects.filter (fun e => e.generationId = g.id)).forM (retireEffect g reason)

-- The provider collection that turns an unverified receipt into a verified payment.
def convertsReceipt (o : CommerceOrder) (settlementId : Uuid) (s : CommerceSettlement) : Bool :=
  s.id = settlementId ∧ s.orderId = o.id ∧ s.kind = .providerCollection ∧ s.disposition = .matched ∧
    s.amountMinor = o.payableAmountMinor ∧ s.currency = o.currency

def convertForPaidOrder (orderId settlementId : Uuid) : CommerceTxn Bool := do
  let db ← get
  let o ← orThrow (orderById db orderId) (.conflict "RECEIPT_CANONICAL_PAYMENT_REQUIRED")
  require (o.status = .confirmed ∧ o.confirmedSettlementId = some settlementId) (.conflict "RECEIPT_CANONICAL_PAYMENT_REQUIRED")
  match latestGeneration db orderId with
  | none => pure false
  | some g =>
      if g.status = .verifiedPaid then
        require (g.settlementId = some settlementId) (.conflict "RECEIPT_CANONICAL_PAYMENT_REQUIRED")
        pure true
      else
        require (∃ s ∈ db.settlements, convertsReceipt o settlementId s) (.conflict "RECEIPT_CANONICAL_PAYMENT_REQUIRED")
        retireEffects g "RECEIPT_CONVERTED_TO_VERIFIED_PAID"
        verifyGeneration g.id settlementId
        pure true

end EduAi.Commerce
