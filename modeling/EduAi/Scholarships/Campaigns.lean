import EduAi.Commerce.FreeEnrolment

set_option autoImplicit false

namespace EduAi.Scholarships

open EduAi.Store EduAi.Gds EduAi.Commerce

inductive ScholarshipStatus where
  | draft | active | paused | closed
deriving DecidableEq, Repr

inductive ScholarshipApplicationMode where
  | application | automatic
deriving DecidableEq, Repr

inductive ScholarshipBenefitKind where
  | courseAccess | percentageDiscount | fixedCredit
deriving DecidableEq, Repr

structure ScholarshipCampaign where
  id : Uuid
  title : String
  status : ScholarshipStatus
  applicationMode : ScholarshipApplicationMode
  benefitKind : ScholarshipBenefitKind
  benefitValue : Int
  currency : Option String
  startsAt : Instant
  endsAt : Instant
  quota : Option Int
  awardedCount : Int
  courseIds : List Uuid
  categorySlugs : List String
  eligibleUserIds : List Uuid
deriving DecidableEq, Repr

structure ScholarshipApplication where
  id : Uuid
  scholarshipId : Uuid
  userId : Uuid
  courseId : Uuid
deriving DecidableEq, Repr

structure ScholarshipAward where
  id : Uuid
  applicationId : Uuid
  scholarshipId : Uuid
  userId : Uuid
  courseId : Uuid
  benefitKind : ScholarshipBenefitKind
  benefitValue : Int
  currency : Option String
  awardedAt : Instant
deriving DecidableEq, Repr

structure ScholarshipDb where
  campaigns : List ScholarshipCampaign
  applications : List ScholarshipApplication
  awards : List ScholarshipAward
  commerce : CommerceDb
deriving DecidableEq, Repr

abbrev ScholarshipTxn := Txn ScholarshipDb Fault

inductive ScholarshipEligibilityReason where
  | eligible | campaignNotActive | campaignExpired | quotaReached | userNotEligible | courseScopeNotEligible | alreadyApplied
  | invalidBenefit
deriving DecidableEq, Repr

def ScholarshipEligibilityReason.text : ScholarshipEligibilityReason → String
  | .eligible => "eligible"
  | .campaignNotActive => "campaign_not_active"
  | .campaignExpired => "campaign_expired"
  | .quotaReached => "quota_reached"
  | .userNotEligible => "user_not_eligible"
  | .courseScopeNotEligible => "course_scope_not_eligible"
  | .alreadyApplied => "already_applied"
  | .invalidBenefit => "invalid_benefit"

structure ScholarshipEligibilityContext where
  now : Instant
  userId : Uuid
  courseId : Uuid
  categorySlug : Option String
  alreadyApplied : Bool
deriving DecidableEq, Repr

structure ScholarshipEligibilityResult where
  eligible : Bool
  reason : ScholarshipEligibilityReason
deriving DecidableEq, Repr

def inCategories (categorySlug : Option String) (slugs : List String) : Prop :=
  ∃ slug ∈ categorySlug, slug ≠ "" ∧ slug ∈ slugs

instance (categorySlug : Option String) (slugs : List String) : Decidable (inCategories categorySlug slugs) := by
  unfold inCategories
  infer_instance

def refused (reason : ScholarshipEligibilityReason) : ScholarshipEligibilityResult where
  eligible := false
  reason := reason

def evaluateScholarshipEligibility (scholarship : ScholarshipCampaign) (context : ScholarshipEligibilityContext) :
    ScholarshipEligibilityResult :=
  if scholarship.status ≠ .active then refused .campaignNotActive
  else if context.now < scholarship.startsAt then refused .campaignNotActive
  else if scholarship.endsAt ≤ context.now then refused .campaignExpired
  else if ∃ quota ∈ scholarship.quota, quota ≤ scholarship.awardedCount then refused .quotaReached
  else if context.alreadyApplied then refused .alreadyApplied
  else if scholarship.eligibleUserIds ≠ [] ∧ context.userId ∉ scholarship.eligibleUserIds then refused .userNotEligible
  else if scholarship.courseIds ≠ [] ∧ context.courseId ∉ scholarship.courseIds ∧
      ¬ inCategories context.categorySlug scholarship.categorySlugs then refused .courseScopeNotEligible
  else if scholarship.benefitKind = .percentageDiscount ∧ (scholarship.benefitValue ≤ 0 ∨ 100 < scholarship.benefitValue) then
    refused .invalidBenefit
  else if scholarship.benefitKind = .fixedCredit ∧ scholarship.benefitValue ≤ 0 then refused .invalidBenefit
  else { eligible := true, reason := .eligible }

-- The fields of a campaign as the DTO leaves them: trimmed texts, an upper-case currency, lower-case slugs.
structure ScholarshipInput where
  title : String
  applicationMode : ScholarshipApplicationMode
  benefitKind : ScholarshipBenefitKind
  benefitValue : Int
  currency : Option String
  startsAt : Instant
  endsAt : Instant
  quota : Option Int
  courseIds : List Uuid
  categorySlugs : List String
  eligibleUserIds : List Uuid
deriving DecidableEq, Repr

structure UpdateScholarshipDto where
  title : Option String := none
  applicationMode : Option ScholarshipApplicationMode := none
  benefitKind : Option ScholarshipBenefitKind := none
  benefitValue : Option Int := none
  currency : Option (Option String) := none
  startsAt : Option Instant := none
  endsAt : Option Instant := none
  quota : Option (Option Int) := none
  courseIds : Option (List Uuid) := none
  categorySlugs : Option (List String) := none
  eligibleUserIds : Option (List Uuid) := none
  status : Option ScholarshipStatus := none
deriving DecidableEq, Repr

-- x || null on a text.
def orNull (text : Option String) : Option String :=
  if text = some "" then none else text

def isCurrencyCode (text : String) : Bool :=
  text.toList.length = 3 ∧ text.toList.all (fun c => 65 ≤ c.toNat ∧ c.toNat ≤ 90)

def normalizeCreateInput (input : ScholarshipInput) : ScholarshipInput :=
  { input with
    currency := orNull input.currency
    courseIds := input.courseIds.eraseDups
    categorySlugs := input.categorySlugs.eraseDups
    eligibleUserIds := input.eligibleUserIds.eraseDups }

def normalizeUpdateInput (current : ScholarshipCampaign) (input : UpdateScholarshipDto) : ScholarshipInput where
  title := input.title.getD current.title
  applicationMode := input.applicationMode.getD current.applicationMode
  benefitKind := input.benefitKind.getD current.benefitKind
  benefitValue := input.benefitValue.getD current.benefitValue
  currency := (input.currency.map orNull).getD current.currency
  startsAt := input.startsAt.getD current.startsAt
  endsAt := input.endsAt.getD current.endsAt
  quota := input.quota.getD current.quota
  courseIds := input.courseIds.getD current.courseIds
  categorySlugs := input.categorySlugs.getD current.categorySlugs
  eligibleUserIds := input.eligibleUserIds.getD current.eligibleUserIds

def assertPolicy (input : ScholarshipInput) : ScholarshipTxn Unit := do
  require (input.title ≠ "") (.badRequest "Scholarship title is required")
  require (input.startsAt < input.endsAt) (.badRequest "Scholarship dates must be valid and ordered")
  require (∀ quota ∈ input.quota, 1 ≤ quota) (.badRequest "Scholarship quota must be positive")
  require (input.benefitKind = .percentageDiscount → 1 ≤ input.benefitValue ∧ input.benefitValue ≤ 100)
    (.badRequest "Scholarship percentage benefit must be between 1 and 100")
  require (input.benefitKind = .fixedCredit → 1 ≤ input.benefitValue) (.badRequest "Scholarship fixed benefit must be positive")
  require (input.benefitKind ≠ .courseAccess → input.currency.isSome)
    (.badRequest "Scholarship monetary benefits require a currency")
  require (∀ currency ∈ input.currency, isCurrencyCode currency) (.badRequest "Scholarship currency must be ISO 4217")

def assertScopeTargets (courseIds eligibleUserIds : List Uuid) : ScholarshipTxn Unit := do
  let db ← get
  require ((db.commerce.courses.filter (fun c => c.id ∈ courseIds)).length = courseIds.length)
    (.badRequest "Scholarship course scope contains an unknown course")
  require ((db.commerce.users.filter (fun u => u.id ∈ eligibleUserIds ∧ u.deleted = false)).length = eligibleUserIds.length)
    (.badRequest "Scholarship user eligibility contains an unknown user")

def ScholarshipInput.campaign (input : ScholarshipInput) (id : Uuid) (status : ScholarshipStatus) (awardedCount : Int) :
    ScholarshipCampaign where
  id := id
  title := input.title
  status := status
  applicationMode := input.applicationMode
  benefitKind := input.benefitKind
  benefitValue := input.benefitValue
  currency := input.currency
  startsAt := input.startsAt
  endsAt := input.endsAt
  quota := input.quota
  awardedCount := awardedCount
  courseIds := input.courseIds
  categorySlugs := input.categorySlugs
  eligibleUserIds := input.eligibleUserIds

def campaignById (db : ScholarshipDb) (id : Uuid) : Option ScholarshipCampaign :=
  db.campaigns.find? (fun c => c.id = id)

def createScholarship (id : Uuid) (input : ScholarshipInput) : ScholarshipTxn Unit := do
  let normalized := normalizeCreateInput input
  assertPolicy normalized
  assertScopeTargets normalized.courseIds normalized.eligibleUserIds
  let db ← get
  let row := normalized.campaign id .draft 0
  require (free (fun c => some c.id) row db.campaigns) (.unique "scholarship_campaigns_pkey")
  modify (fun db => { db with campaigns := db.campaigns ++ [row] })

def changesEconomicPolicy (input : UpdateScholarshipDto) : Bool :=
  input.applicationMode.isSome || input.benefitKind.isSome || input.benefitValue.isSome || input.currency.isSome ||
    input.startsAt.isSome || input.endsAt.isSome || input.quota.isSome || input.courseIds.isSome ||
    input.categorySlugs.isSome || input.eligibleUserIds.isSome

def ScholarshipInput.onto (input : ScholarshipInput) (status : ScholarshipStatus) (c : ScholarshipCampaign) : ScholarshipCampaign :=
  input.campaign c.id status c.awardedCount

def updateScholarship (id : Uuid) (input : UpdateScholarshipDto) : ScholarshipTxn Unit := do
  let db ← get
  let current ← orThrow (campaignById db id) (.notFound "Scholarship campaign not found")
  let normalized := normalizeUpdateInput current input
  assertPolicy normalized
  require (¬ (0 < current.awardedCount ∧ changesEconomicPolicy input))
    (.conflict "Economic scholarship policy cannot change after awards; pause or close it instead")
  assertScopeTargets normalized.courseIds normalized.eligibleUserIds
  modify (fun db => { db with
    campaigns := updateWhere (fun c => c.id = id) (normalized.onto (input.status.getD current.status)) db.campaigns })

def applicationKey (a : ScholarshipApplication) : Uuid × Uuid × Uuid :=
  (a.scholarshipId, a.userId, a.courseId)

def applicationOf (db : ScholarshipDb) (scholarshipId userId courseId : Uuid) : Option ScholarshipApplication :=
  db.applications.find? (fun a => a.scholarshipId = scholarshipId ∧ a.userId = userId ∧ a.courseId = courseId)

def awardOf (db : ScholarshipDb) (applicationId : Uuid) : Option ScholarshipAward :=
  db.awards.find? (fun a => a.applicationId = applicationId)

def grantOfAward (application : ScholarshipApplication) (award : ScholarshipAward) : EnsureCourseAccessGrantInput where
  userId := application.userId
  courseId := application.courseId
  sourceType := .scholarship
  sourceId := award.id
  startsAt := award.awardedAt
  endsAt := none
  graceEndsAt := none

def onCommerce {α : Type} (m : CommerceTxn α) : ScholarshipTxn α :=
  zoom ScholarshipDb.commerce (fun commerce db => { db with commerce }) m

def ensureCourseAccessAward (draw : AccessDraw) (application : ScholarshipApplication) (award : Option ScholarshipAward) :
    ScholarshipTxn Unit :=
  match award with
  | some award =>
      if award.benefitKind = .courseAccess then do
        let _ ← onCommerce (ensureGrant draw (grantOfAward application award))
      else pure ()
  | none => pure ()

def findEligibleCourse (courseId : Uuid) : ScholarshipTxn Course := do
  let db ← get
  orThrow (db.commerce.courses.find? (fun c => c.id = courseId ∧ c.status = .published ∧ c.isPublic ∧ c.deleted = false))
    (.notFound "Published course not found")

structure ApplicationDraw where
  access : AccessDraw
  applicationId : Uuid
  awardId : Uuid

structure ScholarshipApplicationResponse where
  application : ScholarshipApplication
  award : Option ScholarshipAward
  idempotent : Bool
deriving DecidableEq, Repr

def awardRow (draw : ApplicationDraw) (now : Instant) (scholarship : ScholarshipCampaign) (userId courseId : Uuid) : ScholarshipAward where
  id := draw.awardId
  applicationId := draw.applicationId
  scholarshipId := scholarship.id
  userId := userId
  courseId := courseId
  benefitKind := scholarship.benefitKind
  benefitValue := scholarship.benefitValue
  currency := scholarship.currency
  awardedAt := now

def applicationRow (draw : ApplicationDraw) (scholarshipId userId courseId : Uuid) : ScholarshipApplication where
  id := draw.applicationId
  scholarshipId := scholarshipId
  userId := userId
  courseId := courseId

def createApplication (application : ScholarshipApplication) (award : ScholarshipAward) : ScholarshipTxn Unit := do
  let db ← get
  require (free (fun a => some a.id) application db.applications) (.unique "scholarship_applications_pkey")
  require (free (fun a => some (applicationKey a)) application db.applications)
    (.unique "scholarship_applications_scholarship_id_user_id_course_id_key")
  require (free (fun a => some a.id) award db.awards) (.unique "scholarship_awards_pkey")
  require (free (fun a => some a.applicationId) award db.awards) (.unique "scholarship_awards_application_id_key")
  modify (fun db => { db with applications := db.applications ++ [application], awards := db.awards ++ [award] })

def incrementAwarded (id : Uuid) (db : ScholarshipDb) : ScholarshipDb :=
  { db with campaigns := updateWhere (fun c => c.id = id) (fun c => { c with awardedCount := c.awardedCount + 1 }) db.campaigns }

def apply (draw : ApplicationDraw) (now : Instant) (userId scholarshipId courseId : Uuid) :
    ScholarshipTxn ScholarshipApplicationResponse := do
  let db ← get
  let scholarship ← orThrow (campaignById db scholarshipId) (.notFound "Scholarship campaign not found")
  match applicationOf db scholarshipId userId courseId with
  | some existing =>
      ensureCourseAccessAward draw.access existing (awardOf db existing.id)
      return { application := existing, award := awardOf db existing.id, idempotent := true }
  | none =>
      let course ← findEligibleCourse courseId
      let decision := evaluateScholarshipEligibility scholarship
        { now, userId, courseId := course.id, categorySlug := course.categorySlug, alreadyApplied := false }
      require decision.eligible (.badRequest decision.reason.text)
      let application := applicationRow draw scholarshipId userId course.id
      let award := awardRow draw now scholarship userId course.id
      createApplication application award
      ensureCourseAccessAward draw.access application (some award)
      modify (incrementAwarded scholarshipId)
      return { application, award := some award, idempotent := false }

inductive ScholarshipCall where
  | create (id : Uuid) (input : ScholarshipInput)
  | update (id : Uuid) (input : UpdateScholarshipDto)
  | apply (draw : ApplicationDraw) (userId scholarshipId courseId : Uuid)

structure ScholarshipRequest where
  now : Instant
  call : ScholarshipCall

def scholarshipStep (db : ScholarshipDb) (r : ScholarshipRequest) : ScholarshipDb :=
  match r.call with
  | .create id input => commit (createScholarship id input) db
  | .update id input => commit (updateScholarship id input) db
  | .apply draw userId scholarshipId courseId => commit (apply draw r.now userId scholarshipId courseId) db

end EduAi.Scholarships
