import EduAi.Commerce.CourseAccess
import EduAi.Commerce.Writes
import EduAi.Store.Total

set_option autoImplicit false

namespace EduAi.Commerce

open EduAi.Store EduAi.Gds

inductive CourseAccessOperation where
  | manage | publicPreview | fullLearning
deriving DecidableEq, Repr

structure CourseAccessFacts where
  userDeleted : Bool
  courseDeleted : Bool
  isPlatformAdmin : Bool
  isOwner : Bool
  moderationClear : Bool
  published : Bool
  archived : Bool
  isPublic : Bool
  isPreviewResource : Bool
  hasActiveGrant : Bool
  hasGraceGrant : Bool
  hasQualifyingLegacyEnrollment : Bool
deriving DecidableEq, Repr

inductive CourseAccessMode where
  | manager | preview | learner | none
deriving DecidableEq, Repr

structure CourseAccessDecision where
  allowed : Bool
  mode : CourseAccessMode
  reason : String
deriving DecidableEq, Repr

def resolveCourseAccessFacts (operation : CourseAccessOperation) (facts : CourseAccessFacts) : CourseAccessDecision :=
  if facts.userDeleted ∨ facts.courseDeleted then { allowed := false, mode := .none, reason := "SUBJECT_NOT_FOUND" }
  else if operation = .manage then
    if facts.isPlatformAdmin ∨ facts.isOwner then { allowed := true, mode := .manager, reason := "MANAGEMENT_AUTHORITY" }
    else { allowed := false, mode := .none, reason := "COURSE_NOT_FOUND" }
  else if ¬ facts.moderationClear then { allowed := false, mode := .none, reason := "COURSE_NOT_FOUND" }
  else if operation = .publicPreview then
    if facts.published ∧ facts.isPublic ∧ facts.isPreviewResource then
      { allowed := true, mode := .preview, reason := "PUBLIC_PREVIEW" }
    else { allowed := false, mode := .none, reason := "COURSE_NOT_FOUND" }
  else if (facts.published ∨ facts.archived) ∧
      (facts.hasActiveGrant ∨ facts.hasGraceGrant ∨ facts.hasQualifyingLegacyEnrollment) then
    { allowed := true, mode := .learner, reason := "COURSE_ENTITLED" }
  else { allowed := false, mode := .none, reason := "COURSE_ACCESS_REQUIRED" }

structure AuthenticatedUser where
  id : Uuid
  isStudent : Bool
  isPlatformAdmin : Bool
deriving DecidableEq, Repr

-- earlyAccess tells whether the deployment honours unverified receipts of this buyer, isOwner whether the user teaches the course.
structure CourseAccessRequest where
  user : Option AuthenticatedUser
  courseId : Uuid
  operation : CourseAccessOperation
  isPreviewResource : Bool
  isOwner : Bool
  earlyAccess : Bool
  now : Instant
deriving DecidableEq, Repr

def grantInForce (g : CourseAccessGrant) (userId courseId : Uuid) (now : Instant) : Bool :=
  g.userId = userId ∧ g.courseId = courseId ∧ g.active ∧ g.startsAt ≤ now ∧
    (g.endsAt = none ∨ (∃ endsAt ∈ g.endsAt, now < endsAt) ∨ ∃ grace ∈ g.graceEndsAt, now < grace)

-- ORDER BY a DESC, in which NULL comes first.
def descending (a b : Option Instant) : Ordering :=
  match a, b with
  | none, none => .eq
  | none, some _ => .lt
  | some _, none => .gt
  | some x, some y => compare y x

def grantFirst (a b : CourseAccessGrant) : Bool :=
  ((descending a.endsAt b.endsAt).then ((descending a.graceEndsAt b.graceEndsAt).then (compare a.id b.id))) ≠ .gt

def betterGrant (best : Option CourseAccessGrant) (g : CourseAccessGrant) : Option CourseAccessGrant :=
  match best with
  | none => some g
  | some b => if grantFirst b g then some b else some g

def firstGrant (grants : List CourseAccessGrant) : Option CourseAccessGrant :=
  grants.foldl betterGrant none

def receiptEffectsOf (db : CommerceDb) (buyerId : Uuid) : List ReceiptAccessEffect :=
  db.receiptEffects.filter (fun e => e.resourceType = "course_access_grant" ∧
    ∃ g ∈ db.generations, g.id = e.generationId ∧ g.status = .accessUnverified ∧ g.buyerId = buyerId)

def receiptGrantSource (e : ReceiptAccessEffect) : String :=
  e.generationId ++ ":" ++ e.orderLineId ++ (if e.effectKind = "MEMBERSHIP_GRACE" then ":grace" else "")

structure GrantFacts where
  hasActiveGrant : Bool
  hasGraceGrant : Bool
deriving DecidableEq, Repr

def factsOfGrant (grant : Option CourseAccessGrant) (receiptGrace : Bool) (now : Instant) : GrantFacts :=
  match grant with
  | none => { hasActiveGrant := false, hasGraceGrant := false }
  | some g =>
      let explicitGrace := receiptGrace || decide (g.sourceType = .membershipGrace)
      let hasActiveGrant := !explicitGrace && decide (g.endsAt = none ∨ ∃ endsAt ∈ g.endsAt, now < endsAt)
      { hasActiveGrant
        hasGraceGrant := explicitGrace || (!hasActiveGrant && decide (∃ grace ∈ g.graceEndsAt, now < grace)) }

def learnerGrant (db : CommerceDb) (userId courseId : Uuid) (earlyAccess : Bool) (now : Instant) : GrantFacts :=
  let regular := firstGrant (db.grants.filter (fun g =>
    grantInForce g userId courseId now ∧ g.sourceType ≠ .unverifiedReceiptAccess))
  if regular = none ∧ earlyAccess then
    let effects := receiptEffectsOf db userId
    let receipt := firstGrant (db.grants.filter (fun g => grantInForce g userId courseId now ∧
      g.sourceType = .unverifiedReceiptAccess ∧ ∃ e ∈ effects, e.resourceId = g.id ∧ g.sourceId = receiptGrantSource e))
    let receiptGrace := decide (∃ g ∈ receipt, ∃ e ∈ effects, e.resourceId = g.id ∧ e.effectKind = "MEMBERSHIP_GRACE")
    factsOfGrant receipt receiptGrace now
  else factsOfGrant regular false now

def decideAccess (db : CommerceDb) (input : CourseAccessRequest) : CourseAccessDecision :=
  match courseById db input.courseId with
  | none =>
      resolveCourseAccessFacts input.operation
        { userDeleted := false, courseDeleted := true, isPlatformAdmin := false, isOwner := false, moderationClear := false,
          published := false, archived := false, isPublic := false, isPreviewResource := false, hasActiveGrant := false,
          hasGraceGrant := false, hasQualifyingLegacyEnrollment := false }
  | some course =>
      let grant : GrantFacts :=
        match input.user with
        | some user =>
            if input.operation = .fullLearning ∧ user.isStudent then
              learnerGrant db user.id input.courseId input.earlyAccess input.now
            else { hasActiveGrant := false, hasGraceGrant := false }
        | none => { hasActiveGrant := false, hasGraceGrant := false }
      resolveCourseAccessFacts input.operation
        { userDeleted := input.user.any (fun user => (userById db user.id).all (·.deleted))
          courseDeleted := course.deleted
          isPlatformAdmin := input.user.any (·.isPlatformAdmin)
          isOwner := input.isOwner
          moderationClear := course.moderationClear
          published := course.status = .published
          archived := course.status = .archived
          isPublic := course.isPublic
          isPreviewResource := input.isPreviewResource
          hasActiveGrant := grant.hasActiveGrant
          hasGraceGrant := grant.hasGraceGrant
          hasQualifyingLegacyEnrollment := false }

def enrollCourse (draw : AccessDraw) (now : Instant) (enrollmentId userId courseId : Uuid) : CommerceTxn Unit := do
  let db ← get
  let course ← orThrow (db.courses.find? (fun c =>
    c.id = courseId ∧ c.deleted = false ∧ c.status = .published ∧ c.moderationClear)) (.notFound "Published course not found")
  require (course.priceAmountMinor.getD 0 ≤ 0) (.conflict "PAYMENT_REQUIRED")
  require (free some { userId, courseId : Enrollment } db.enrollments) (.conflict "Course already enrolled")
  modify (fun db => { db with enrollments := db.enrollments ++ [{ userId, courseId }] })
  let _ ← ensureGrant draw
    { userId, courseId, sourceType := .freeEnrollment, sourceId := enrollmentId, startsAt := now, endsAt := none, graceEndsAt := none }

section Decisions

theorem firstGrant_some (grants : List CourseAccessGrant) (some_ : grants ≠ []) : ∃ g ∈ grants, firstGrant grants = some g := by
  have carried (rest : List CourseAccessGrant) (b : CourseAccessGrant) :
      ∃ g ∈ b :: rest, rest.foldl betterGrant (some b) = some g := by
    induction rest generalizing b with
    | nil => exact ⟨b, by simp, rfl⟩
    | cons x rest ih =>
        rw [List.foldl_cons]
        by_cases first : grantFirst b x = true
        · rw [betterGrant, if_pos first]
          obtain ⟨g, member, found⟩ := ih b
          refine ⟨g, ?_, found⟩
          rcases List.mem_cons.mp member with rfl | later
          · exact List.mem_cons_self
          · exact List.mem_cons_of_mem _ (List.mem_cons_of_mem _ later)
        · rw [betterGrant, if_neg first]
          obtain ⟨g, member, found⟩ := ih x
          exact ⟨g, List.mem_cons_of_mem _ member, found⟩
  cases grants with
  | nil => exact absurd rfl some_
  | cons b rest => exact carried rest b

theorem factsOfGrant_usable (g : CourseAccessGrant) (receiptGrace : Bool) (userId courseId : Uuid) (now : Instant)
    (inForce : grantInForce g userId courseId now = true) :
    (factsOfGrant (some g) receiptGrace now).hasActiveGrant = true ∨ (factsOfGrant (some g) receiptGrace now).hasGraceGrant = true := by
  obtain ⟨_, _, _, _, window⟩ := of_decide_eq_true inForce
  simp only [factsOfGrant]
  cases explicit : receiptGrace || decide (g.sourceType = .membershipGrace) with
  | true => simp
  | false =>
      by_cases open_ : g.endsAt = none ∨ ∃ endsAt ∈ g.endsAt, now < endsAt
      · rw [decide_eq_true open_]
        exact .inl rfl
      · have grace : ∃ grace ∈ g.graceEndsAt, now < grace := by
          rcases window with unbounded | running | grace
          · exact absurd (.inl unbounded) open_
          · exact absurd (.inr running) open_
          · exact grace
        rw [decide_eq_false open_, decide_eq_true grace]
        exact .inr rfl

theorem learnerGrant_usable (db : CommerceDb) (userId courseId : Uuid) (earlyAccess : Bool) (now : Instant)
    (g : CourseAccessGrant) (member : g ∈ db.grants) (inForce : grantInForce g userId courseId now = true)
    (regular : g.sourceType ≠ .unverifiedReceiptAccess) :
    (learnerGrant db userId courseId earlyAccess now).hasActiveGrant = true ∨
      (learnerGrant db userId courseId earlyAccess now).hasGraceGrant = true := by
  obtain ⟨best, chosen, first⟩ := firstGrant_some (db.grants.filter (fun g =>
    grantInForce g userId courseId now ∧ g.sourceType ≠ .unverifiedReceiptAccess))
    (List.ne_nil_of_mem (List.mem_filter.mpr ⟨member, by simp [inForce, regular]⟩))
  have valid : grantInForce best userId courseId now = true := by
    have selected := (List.mem_filter.mp chosen).2
    simp only [decide_eq_true_eq] at selected
    exact selected.1
  unfold learnerGrant
  simp only [first]
  rw [if_neg (by simp)]
  exact factsOfGrant_usable best false userId courseId now valid

def learnerRequest (user : AuthenticatedUser) (courseId : Uuid) (isOwner earlyAccess : Bool) (now : Instant) : CourseAccessRequest where
  user := some user
  courseId := courseId
  operation := .fullLearning
  isPreviewResource := false
  isOwner := isOwner
  earlyAccess := earlyAccess
  now := now

structure FreeToTake (db : CommerceDb) (user : AuthenticatedUser) (courseId : Uuid) : Prop where
  student : user.isStudent = true
  account : ∃ u, userById db user.id = some u ∧ u.deleted = false
  course : ∃ c, courseById db courseId = some c ∧ c.deleted = false ∧ c.status = .published ∧ c.moderationClear = true ∧
    c.priceAmountMinor.getD 0 ≤ 0

theorem decideAccess_granted (db : CommerceDb) (user : AuthenticatedUser) (courseId : Uuid) (isOwner earlyAccess : Bool)
    (now : Instant) (free_ : FreeToTake db user courseId) (g : CourseAccessGrant) (member : g ∈ db.grants)
    (inForce : grantInForce g user.id courseId now = true) (regular : g.sourceType ≠ .unverifiedReceiptAccess) :
    (decideAccess db (learnerRequest user courseId isOwner earlyAccess now)).allowed = true := by
  obtain ⟨u, account, live⟩ := free_.account
  obtain ⟨c, found, kept, published, clear, _⟩ := free_.course
  have usable := learnerGrant_usable db user.id courseId earlyAccess now g member inForce regular
  simp only [decideAccess, learnerRequest, found, free_.student, and_self, if_true]
  simp [resolveCourseAccessFacts, account, live, kept, published, clear, usable]

end Decisions

section Enrolment

variable (draw : AccessDraw) (now : Instant) (enrollmentId : Uuid) (db : CommerceDb)

def freeGrantInput (userId courseId : Uuid) : EnsureCourseAccessGrantInput where
  userId := userId
  courseId := courseId
  sourceType := .freeEnrollment
  sourceId := enrollmentId
  startsAt := now
  endsAt := none
  graceEndsAt := none

-- The ids that the database draws for a new enrollment and its grant are uuids that no row has.
structure FreshIds (userId courseId : Uuid) : Prop where
  text : enrollmentId ≠ "" ∧ enrollmentId.length ≤ 128
  source : free (fun g => some (grantKey g)) ((freeGrantInput now enrollmentId userId courseId).row
    (draw.grantId (freeGrantInput now enrollmentId userId courseId).key)) db.grants = true
  id : free (fun g => some g.id) ((freeGrantInput now enrollmentId userId courseId).row
    (draw.grantId (freeGrantInput now enrollmentId userId courseId).key)) db.grants = true

theorem ensureGrant_grants (input : EnsureCourseAccessGrantInput) (valid : validGrantInput input = true)
    (source : free (fun g => some (grantKey g)) (input.row (draw.grantId input.key)) db.grants = true)
    (id : free (fun g => some g.id) (input.row (draw.grantId input.key)) db.grants = true) :
    Wp (ensureGrant draw input) (fun _ t => t.grants = db.grants ++ [input.row (draw.grantId input.key)] ∧
      t.courses = db.courses ∧ t.users = db.users) db := by
  have window : ∀ endsAt, (input.row (draw.grantId input.key)).endsAt = some endsAt →
      (input.row (draw.grantId input.key)).startsAt < endsAt := (of_decide_eq_true valid).2.2.1
  simp only [ensureGrant, wp_bind, wp_require, createGrant, wp_get, wp_ite]
  refine ⟨valid, fun _ => ?_, fun taken => absurd source taken⟩
  simp only [wp_modify]
  refine ⟨window, id, ?_⟩
  have listed (t : CommerceDb) (same : t.grants = db.grants ++ [input.row (draw.grantId input.key)] ∧ t.courses = db.courses ∧
      t.users = db.users) (lessons : List Lesson) : Wp (lessons.forM (fun l => createProgress (grantProgress input.userId input.courseId l)))
      (fun _ u => u.grants = db.grants ++ [input.row (draw.grantId input.key)] ∧ u.courses = db.courses ∧ u.users = db.users) t := by
    refine wp_forM _ (fun _ u => u.grants = db.grants ++ [input.row (draw.grantId input.key)] ∧ u.courses = db.courses ∧
      u.users = db.users) lessons t ?_ same
    intro l rest u kept
    simp only [createProgress, wp_bind, wp_get, wp_ite, wp_modify, wp_pure]
    exact ⟨fun _ => kept, fun _ => kept⟩
  simp only [upsertEnrollment, wp_bind, wp_get, wp_ite, wp_modify, wp_pure]
  refine ⟨fun _ => ?_, fun _ => ?_⟩
  · refine wp_mono _ _ (listed _ ?_ _) (fun _ _ kept => kept)
    exact ⟨rfl, rfl, rfl⟩
  · refine wp_mono _ _ (listed _ ?_ _) (fun _ _ kept => kept)
    exact ⟨rfl, rfl, rfl⟩

theorem publishedCourse_found (courseId : Uuid) (c : Course) (found : courseById db courseId = some c) (kept : c.deleted = false)
    (published : c.status = .published) (clear : c.moderationClear = true) :
    db.courses.find? (fun c => c.id = courseId ∧ c.deleted = false ∧ c.status = .published ∧ c.moderationClear) = some c := by
  unfold courseById at found
  revert found
  induction db.courses with
  | nil => exact fun none => by cases none
  | cons x rest ih =>
      intro found
      by_cases own : x.id = courseId
      · rw [List.find?_cons_of_pos (by simpa using own)] at found
        obtain rfl := Option.some.inj found
        exact List.find?_cons_of_pos (by simp [own, kept, published, clear])
      · rw [List.find?_cons_of_neg (by simpa using own)] at found
        rw [List.find?_cons_of_neg (by simp [own])]
        exact ih found

/-- A student without access gets it from the free enrolment exactly when no enrollment is left from an earlier grant. -/
theorem free_enrolment_opens (user : AuthenticatedUser) (courseId : Uuid) (isOwner earlyAccess : Bool)
    (free_ : FreeToTake db user courseId) (fresh : FreshIds draw now enrollmentId db user.id courseId)
    (shut : (decideAccess db (learnerRequest user courseId isOwner earlyAccess now)).allowed = false) :
    (decideAccess (commit (enrollCourse draw now enrollmentId user.id courseId) db)
      (learnerRequest user courseId isOwner earlyAccess now)).allowed = true ↔
    ∀ e ∈ db.enrollments, ¬ (e.userId = user.id ∧ e.courseId = courseId) := by
  obtain ⟨c, found, kept, published, clear, priced⟩ := free_.course
  have course := publishedCourse_found db courseId c found kept published clear
  constructor
  · intro opened e member own
    have taken : free some { userId := user.id, courseId : Enrollment } db.enrollments = false := by
      by_contra unused
      have none := (free_iff _ _ _).mp (by simpa using unused) e member _ rfl
      exact none (by rw [← own.1, ← own.2])
    have refused : enrollCourse draw now enrollmentId user.id courseId db = .error (.conflict "Course already enrolled") := by
      unfold enrollCourse
      rw [get_bind_run, orThrow_bind_run _ _ _ _ c course, require_bind_run _ _ _ _ priced]
      unfold require
      rw [if_neg (by simp [taken])]
      rfl
    rw [commit_error _ db _ refused, shut] at opened
    cases opened
  · intro none
    have unused : free some { userId := user.id, courseId : Enrollment } db.enrollments = true := by
      refine (free_iff _ _ _).mpr (fun e member k key same => ?_)
      rw [← key] at same
      obtain rfl := Option.some.inj same
      exact none _ member ⟨rfl, rfl⟩
    have granted : Wp (enrollCourse draw now enrollmentId user.id courseId) (fun _ t =>
        (∃ g ∈ t.grants, grantInForce g user.id courseId now = true ∧ g.sourceType ≠ .unverifiedReceiptAccess) ∧
        t.courses = db.courses ∧ t.users = db.users) db := by
      simp only [enrollCourse, wp_bind, wp_get, wp_orThrow, wp_require, wp_modify]
      refine ⟨c, course, priced, unused, ?_⟩
      have valid : validGrantInput (freeGrantInput now enrollmentId user.id courseId) = true := by
        simp [validGrantInput, freeGrantInput, fresh.text.1, fresh.text.2]
      refine wp_mono _ _ (ensureGrant_grants draw _ (freeGrantInput now enrollmentId user.id courseId) valid fresh.source fresh.id) ?_
      rintro _ t ⟨grants, courses, users⟩
      rw [wp_pure]
      refine ⟨⟨(freeGrantInput now enrollmentId user.id courseId).row
        (draw.grantId (freeGrantInput now enrollmentId user.id courseId).key), ?_, ?_, ?_⟩, courses, users⟩
      · rw [grants]
        simp
      · simp [grantInForce, EnsureCourseAccessGrantInput.row, freeGrantInput]
      · simp [EnsureCourseAccessGrantInput.row, freeGrantInput]
    obtain ⟨_, t, ok, ⟨g, member, inForce, regular⟩, courses, users⟩ := granted
    rw [commit_ok _ db t _ ok]
    refine decideAccess_granted t user courseId isOwner earlyAccess now ⟨free_.student, ?_, ?_⟩ g member inForce regular
    · unfold userById
      rw [users]
      exact free_.account
    · unfold courseById
      rw [courses]
      exact free_.course

end Enrolment

-- What comes to pass between a learner and a course: purchases, memberships and awards grant, refunds revoke, instructors price.
inductive AccessCall where
  | enrol (enrollmentId userId courseId : Uuid)
  | grant (input : EnsureCourseAccessGrantInput)
  | revoke (userId courseId : Uuid) (sourceType : CourseAccessSourceType) (sourceId reason : String)
  | price (courseId : Uuid) (amountMinor : Option Int)
deriving DecidableEq, Repr

def accessStep (draw : AccessDraw) (db : CommerceDb) (timed : Instant × AccessCall) : CommerceDb :=
  match timed.2 with
  | .enrol enrollmentId userId courseId => commit (enrollCourse draw timed.1 enrollmentId userId courseId) db
  | .grant input => commit (ensureGrant draw input) db
  | .revoke userId courseId sourceType sourceId reason => commit (revokeGrant userId courseId sourceType sourceId reason) db
  | .price courseId amountMinor =>
      { db with courses := updateWhere (fun c => c.id = courseId) (fun c => { c with priceAmountMinor := amountMinor }) db.courses }

def sampleCourse : Course where
  id := "course-1"
  categorySlug := none
  status := .published
  isPublic := true
  moderationClear := true
  deleted := false
  priceAmountMinor := some 100
  priceCurrency := some "VND"

def sampleAccess : CommerceDb :=
  { emptyCommerceDb 0 with
    users := [{ id := "student-1", active := true, deleted := false, platformAdmin := false }]
    courses := [sampleCourse] }

def sampleDraw : AccessDraw where
  subscriptionId := id
  grantId := fun key => key.2.2.2
  entitlementId := fun a b => a ++ b

def sampleMembership : EnsureCourseAccessGrantInput where
  userId := "student-1"
  courseId := "course-1"
  sourceType := .membership
  sourceId := "line-1"
  startsAt := 0
  endsAt := some 10
  graceEndsAt := none

def sampleStudent : AuthenticatedUser where
  id := "student-1"
  isStudent := true
  isPlatformAdmin := false

def pricedDown : CommerceDb :=
  run (accessStep sampleDraw) sampleAccess [(20, .price "course-1" none)]

theorem freeToTake_pricedDown : FreeToTake pricedDown sampleStudent "course-1" where
  student := rfl
  account := ⟨_, rfl, rfl⟩
  course := ⟨_, rfl, rfl, rfl, rfl, by decide⟩

theorem free_enrolment_opens_first :
    (decideAccess (commit (enrollCourse sampleDraw 20 "enrollment-1" "student-1" "course-1") pricedDown)
      (learnerRequest sampleStudent "course-1" false false 20)).allowed = true :=
  (free_enrolment_opens sampleDraw 20 "enrollment-1" pricedDown sampleStudent "course-1" false false freeToTake_pricedDown
    ⟨by decide, by decide, by decide⟩ (by decide +kernel)).mpr (by intro e member; cases member)

-- A membership that has run out leaves its enrollment behind, and the free enrolment of a course that has become free is refused.
def lapsedMember : CommerceDb :=
  run (accessStep sampleDraw) sampleAccess [(0, .grant sampleMembership), (20, .price "course-1" none)]

theorem lapsed_member_locked_out :
    FreeToTake lapsedMember sampleStudent "course-1" ∧
    FreshIds sampleDraw 20 "enrollment-1" lapsedMember "student-1" "course-1" ∧
    (∀ g ∈ lapsedMember.grants, g.sourceType ≠ .freeEnrollment) ∧
    (decideAccess lapsedMember (learnerRequest sampleStudent "course-1" false false 20)).allowed = false ∧
    (decideAccess (commit (enrollCourse sampleDraw 20 "enrollment-1" "student-1" "course-1") lapsedMember)
      (learnerRequest sampleStudent "course-1" false false 20)).allowed = false := by
  refine ⟨⟨rfl, ⟨_, rfl, rfl⟩, ⟨_, rfl, rfl, rfl, rfl, by decide⟩⟩, ⟨by decide, by decide +kernel, by decide +kernel⟩, ?_, ?_, ?_⟩
  · decide +kernel
  · decide +kernel
  · decide +kernel

end EduAi.Commerce
