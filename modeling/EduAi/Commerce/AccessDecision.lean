import EduAi.Commerce.FreeEnrolment
import EduAi.Commerce.Vouchers
import Mathlib.Data.List.Perm.Basic

set_option autoImplicit false

namespace EduAi.Commerce

open EduAi.Store EduAi.Gds

-- The environment of a deployment, as far as early access on unverified receipts reads it.
structure ReceiptEnvironment where
  nodeEnv : String
  syntheticBuyerIds : Option String
  bankTransferSandboxEnabled : Option String
  bankReceiptSandboxEnabled : Option String
  bankReceiptEarlyAccessEnabled : Option String
deriving DecidableEq, Repr

def syntheticBuyers (env : ReceiptEnvironment) : List String :=
  (((env.syntheticBuyerIds.getD "").toList.splitOn ',').map (fun id => jsTrim (String.ofList id))).filter (· ≠ "")

def receiptSandboxEnabled (env : ReceiptEnvironment) (buyerId : Uuid) : Bool :=
  (env.nodeEnv = "development" ∨ env.nodeEnv = "test") ∧ env.bankTransferSandboxEnabled = some "true" ∧
    env.bankReceiptSandboxEnabled = some "true" ∧ buyerId ∈ syntheticBuyers env

def receiptEarlyAccessEnabled (env : ReceiptEnvironment) (buyerId : Uuid) : Bool :=
  receiptSandboxEnabled env buyerId ∧ env.bankReceiptEarlyAccessEnabled = some "true"

structure Picks (pick : List CourseAccessGrant → Option CourseAccessGrant) : Prop where
  mem : ∀ grants g, pick grants = some g → g ∈ grants
  some : ∀ grants, grants ≠ [] → ∃ g, pick grants = some g

theorem firstGrant_picks : Picks firstGrant where
  mem grants g found := by
    have nonempty : grants ≠ [] := fun empty => by
      subst empty
      cases found
    obtain ⟨best, member, first⟩ := firstGrant_some grants nonempty
    obtain rfl : best = g := Option.some.inj (first.symm.trans found)
    exact member
  some grants nonempty := by
    obtain ⟨best, _, first⟩ := firstGrant_some grants nonempty
    exact ⟨best, first⟩

section Decision

variable (pick : List CourseAccessGrant → Option CourseAccessGrant)

def regularGrants (db : CommerceDb) (userId courseId : Uuid) (now : Instant) : List CourseAccessGrant :=
  db.grants.filter (fun g => grantInForce g userId courseId now ∧ g.sourceType ≠ .unverifiedReceiptAccess)

def receiptGrants (db : CommerceDb) (userId courseId : Uuid) (now : Instant) : List CourseAccessGrant :=
  db.grants.filter (fun g => grantInForce g userId courseId now ∧ g.sourceType = .unverifiedReceiptAccess ∧
    ∃ e ∈ receiptEffectsOf db userId, e.resourceId = g.id ∧ g.sourceId = receiptGrantSource e)

def receiptGrace (db : CommerceDb) (userId : Uuid) (grant : Option CourseAccessGrant) : Bool :=
  ∃ g ∈ grant, ∃ e ∈ receiptEffectsOf db userId, e.resourceId = g.id ∧ e.effectKind = "MEMBERSHIP_GRACE"

def learnerGrantBy (db : CommerceDb) (userId courseId : Uuid) (earlyAccess : Bool) (now : Instant) : GrantFacts :=
  let regular := pick (regularGrants db userId courseId now)
  if regular = none ∧ earlyAccess then
    let receipt := pick (receiptGrants db userId courseId now)
    factsOfGrant receipt (receiptGrace db userId receipt) now
  else factsOfGrant regular false now

theorem learnerGrant_first (db : CommerceDb) (userId courseId : Uuid) (earlyAccess : Bool) (now : Instant) :
    learnerGrant db userId courseId earlyAccess now = learnerGrantBy firstGrant db userId courseId earlyAccess now := rfl

def courseFacts (db : CommerceDb) (user : AuthenticatedUser) (isOwner : Bool) (course : Course) (grant : GrantFacts) :
    CourseAccessFacts where
  userDeleted := (userById db user.id).all (·.deleted)
  courseDeleted := course.deleted
  isPlatformAdmin := user.isPlatformAdmin
  isOwner := isOwner
  moderationClear := course.moderationClear
  published := course.status = .published
  archived := course.status = .archived
  isPublic := course.isPublic
  isPreviewResource := false
  hasActiveGrant := grant.hasActiveGrant
  hasGraceGrant := grant.hasGraceGrant
  hasQualifyingLegacyEnrollment := false

def missingCourse : CourseAccessFacts where
  userDeleted := false
  courseDeleted := true
  isPlatformAdmin := false
  isOwner := false
  moderationClear := false
  published := false
  archived := false
  isPublic := false
  isPreviewResource := false
  hasActiveGrant := false
  hasGraceGrant := false
  hasQualifyingLegacyEnrollment := false

def decideLearning (db : CommerceDb) (user : AuthenticatedUser) (courseId : Uuid) (isOwner earlyAccess : Bool) (now : Instant) :
    CourseAccessDecision :=
  match courseById db courseId with
  | none => resolveCourseAccessFacts .fullLearning missingCourse
  | some course =>
      let grant := if user.isStudent then learnerGrantBy pick db user.id courseId earlyAccess now
        else { hasActiveGrant := false, hasGraceGrant := false }
      resolveCourseAccessFacts .fullLearning (courseFacts db user isOwner course grant)

theorem decideAccess_learning (db : CommerceDb) (user : AuthenticatedUser) (courseId : Uuid) (isOwner earlyAccess : Bool)
    (now : Instant) :
    decideAccess db (learnerRequest user courseId isOwner earlyAccess now) =
      decideLearning firstGrant db user courseId isOwner earlyAccess now := by
  unfold decideAccess decideLearning learnerRequest
  cases courseById db courseId with
  | none => rfl
  | some course =>
      cases student : user.isStudent with
      | true => simp [student, courseFacts, learnerGrant_first]
      | false => simp [student, courseFacts]

end Decision

-- A grant of the user for the course that opens it at that instant. One from an unverified receipt has to be an effect of an
-- unverified generation of a buyer the deployment lets in early.
structure Usable (db : CommerceDb) (earlyAccess : Bool) (userId courseId : Uuid) (now : Instant) (g : CourseAccessGrant) : Prop where
  member : g ∈ db.grants
  user : g.userId = userId
  course : g.courseId = courseId
  active : g.active = true
  started : g.startsAt ≤ now
  running : g.endsAt = none ∨ (∃ endsAt ∈ g.endsAt, now < endsAt) ∨ ∃ grace ∈ g.graceEndsAt, now < grace
  receipt : g.sourceType = .unverifiedReceiptAccess → earlyAccess = true ∧
    ∃ e ∈ db.receiptEffects, e.resourceType = "course_access_grant" ∧ e.resourceId = g.id ∧ g.sourceId = receiptGrantSource e ∧
      ∃ generation ∈ db.generations, generation.id = e.generationId ∧ generation.status = .accessUnverified ∧
        generation.buyerId = userId

section Usable

variable (db : CommerceDb) (earlyAccess : Bool) (userId courseId : Uuid) (now : Instant) (g : CourseAccessGrant)

theorem mem_receiptEffectsOf (e : ReceiptAccessEffect) :
    e ∈ receiptEffectsOf db userId ↔ e ∈ db.receiptEffects ∧ e.resourceType = "course_access_grant" ∧
      ∃ generation ∈ db.generations, generation.id = e.generationId ∧ generation.status = .accessUnverified ∧
        generation.buyerId = userId := by
  simp [receiptEffectsOf]

theorem grantInForce_iff : grantInForce g userId courseId now = true ↔
    g.userId = userId ∧ g.courseId = courseId ∧ g.active = true ∧ g.startsAt ≤ now ∧
      (g.endsAt = none ∨ (∃ endsAt ∈ g.endsAt, now < endsAt) ∨ ∃ grace ∈ g.graceEndsAt, now < grace) := by
  simp [grantInForce]

theorem regular_usable (member : g ∈ regularGrants db userId courseId now) : Usable db earlyAccess userId courseId now g := by
  obtain ⟨stored, selected⟩ := List.mem_filter.mp member
  obtain ⟨inForce, regular⟩ := of_decide_eq_true selected
  obtain ⟨user, course, active, started, running⟩ := (grantInForce_iff userId courseId now g).mp inForce
  exact { member := stored, user, course, active, started, running, receipt := fun unverified => absurd unverified regular }

theorem receipt_usable (member : g ∈ receiptGrants db userId courseId now) : Usable db true userId courseId now g := by
  obtain ⟨stored, selected⟩ := List.mem_filter.mp member
  obtain ⟨inForce, _, e, effect, resource, source⟩ := of_decide_eq_true selected
  obtain ⟨user, course, active, started, running⟩ := (grantInForce_iff userId courseId now g).mp inForce
  obtain ⟨effected, type, generation⟩ := (mem_receiptEffectsOf db userId e).mp effect
  exact { member := stored, user, course, active, started, running,
          receipt := fun _ => ⟨rfl, e, effected, type, resource, source, generation⟩ }

theorem usable_listed (usable : Usable db earlyAccess userId courseId now g) :
    g ∈ regularGrants db userId courseId now ∨ (earlyAccess = true ∧ g ∈ receiptGrants db userId courseId now) := by
  have inForce : grantInForce g userId courseId now = true := (grantInForce_iff userId courseId now g).mpr
    ⟨usable.user, usable.course, usable.active, usable.started, usable.running⟩
  by_cases unverified : g.sourceType = .unverifiedReceiptAccess
  · obtain ⟨early, e, effected, type, resource, source, generation⟩ := usable.receipt unverified
    have effect := (mem_receiptEffectsOf db userId e).mpr ⟨effected, type, generation⟩
    exact .inr ⟨early, List.mem_filter.mpr ⟨usable.member, decide_eq_true ⟨inForce, unverified, e, effect, resource, source⟩⟩⟩
  · exact .inl (List.mem_filter.mpr ⟨usable.member, decide_eq_true ⟨inForce, unverified⟩⟩)

variable {pick : List CourseAccessGrant → Option CourseAccessGrant}

def GrantFacts.opens (facts : GrantFacts) : Prop :=
  facts.hasActiveGrant = true ∨ facts.hasGraceGrant = true

theorem opened_some (grant : Option CourseAccessGrant) (grace : Bool) (opens : (factsOfGrant grant grace now).opens) :
    ∃ g, grant = some g := by
  cases grant with
  | none => rcases opens with active | grace <;> cases ‹_›
  | some g => exact ⟨g, rfl⟩

theorem learnerGrantBy_opens (picks : Picks pick) :
    (learnerGrantBy pick db userId courseId earlyAccess now).opens ↔ ∃ g, Usable db earlyAccess userId courseId now g := by
  unfold learnerGrantBy
  by_cases early : pick (regularGrants db userId courseId now) = none ∧ earlyAccess = true
  · rw [if_pos early]
    constructor
    · intro opens
      obtain ⟨g, found⟩ := opened_some now _ _ opens
      refine ⟨g, ?_⟩
      rw [early.2]
      exact receipt_usable db userId courseId now g (picks.mem _ g found)
    · rintro ⟨g, usable⟩
      rcases usable_listed db earlyAccess userId courseId now g usable with regular | ⟨_, receipt⟩
      · obtain ⟨best, found⟩ := picks.some _ (List.ne_nil_of_mem regular)
        rw [early.1] at found
        cases found
      · obtain ⟨best, found⟩ := picks.some _ (List.ne_nil_of_mem receipt)
        have chosen := picks.mem _ best found
        rw [found]
        exact factsOfGrant_usable best _ userId courseId now (of_decide_eq_true (List.mem_filter.mp chosen).2).1
  · rw [if_neg early]
    constructor
    · intro opens
      obtain ⟨g, found⟩ := opened_some now _ _ opens
      exact ⟨g, regular_usable db earlyAccess userId courseId now g (picks.mem _ g found)⟩
    · rintro ⟨g, usable⟩
      have nonempty : regularGrants db userId courseId now ≠ [] ∨ earlyAccess = true := by
        rcases usable_listed db earlyAccess userId courseId now g usable with regular | ⟨enabled, _⟩
        · exact .inl (List.ne_nil_of_mem regular)
        · exact .inr enabled
      have found : ∃ best, pick (regularGrants db userId courseId now) = some best := by
        rcases nonempty with nonempty | enabled
        · exact picks.some _ nonempty
        · exact Option.ne_none_iff_exists'.mp (fun none => early ⟨none, enabled⟩)
      obtain ⟨best, found⟩ := found
      have chosen := picks.mem _ best found
      rw [found]
      exact factsOfGrant_usable best _ userId courseId now (of_decide_eq_true (List.mem_filter.mp chosen).2).1

end Usable

section Allowed

variable (db : CommerceDb) (user : AuthenticatedUser) (courseId : Uuid) (isOwner earlyAccess : Bool) (now : Instant)

structure Teachable : Prop where
  account : ∃ u, userById db user.id = some u ∧ u.deleted = false
  course : ∃ c, courseById db courseId = some c ∧ c.deleted = false ∧ c.moderationClear = true ∧
    (c.status = .published ∨ c.status = .archived)

theorem learning_resolved (course : Course) (grant : GrantFacts) :
    (resolveCourseAccessFacts .fullLearning (courseFacts db user isOwner course grant)).allowed = true ↔
      (∃ u, userById db user.id = some u ∧ u.deleted = false) ∧ course.deleted = false ∧ course.moderationClear = true ∧
        (course.status = .published ∨ course.status = .archived) ∧ grant.opens := by
  unfold resolveCourseAccessFacts courseFacts GrantFacts.opens
  cases account : userById db user.id with
  | none => simp
  | some u =>
      cases deleted : u.deleted with
      | true => simp [deleted]
      | false =>
          cases gone : course.deleted with
          | true => simp [deleted]
          | false =>
              cases clear : course.moderationClear with
              | false => simp [deleted]
              | true =>
                  by_cases entitled : (course.status = .published ∨ course.status = .archived) ∧
                      (grant.hasActiveGrant = true ∨ grant.hasGraceGrant = true)
                  · simp [deleted, entitled]
                  · simp [deleted, entitled]

theorem learning_same (course : Course) (first second : GrantFacts) (same : first.opens ↔ second.opens) :
    resolveCourseAccessFacts .fullLearning (courseFacts db user isOwner course first) =
      resolveCourseAccessFacts .fullLearning (courseFacts db user isOwner course second) := by
  unfold GrantFacts.opens at same
  simp only [resolveCourseAccessFacts, courseFacts, reduceCtorEq, if_false, Bool.false_eq_true, or_false, same]

variable {pick pick' : List CourseAccessGrant → Option CourseAccessGrant}

theorem usable_reordered (grants : List CourseAccessGrant) (reordered : grants.Perm db.grants) (g : CourseAccessGrant) :
    Usable { db with grants := grants } earlyAccess user.id courseId now g ↔ Usable db earlyAccess user.id courseId now g := by
  constructor
  · intro usable
    exact { usable with member := reordered.mem_iff.mp usable.member }
  · intro usable
    exact { usable with member := reordered.mem_iff.mpr usable.member }

/-- A student may learn exactly when the course may be taught and one of their grants opens it, whatever the order of the grants
and whichever of them the database answers with. -/
theorem learning_allowed_iff (env : ReceiptEnvironment) (student : user.isStudent = true) (picks : Picks pick) :
    ((decideLearning pick db user courseId isOwner (receiptEarlyAccessEnabled env user.id) now).allowed = true ↔
      Teachable db user courseId ∧ ∃ g, Usable db (receiptEarlyAccessEnabled env user.id) user.id courseId now g) ∧
    ∀ (pick' : List CourseAccessGrant → Option CourseAccessGrant) (grants : List CourseAccessGrant), Picks pick' →
      grants.Perm db.grants →
      decideLearning pick' { db with grants := grants } user courseId isOwner (receiptEarlyAccessEnabled env user.id) now =
        decideLearning pick db user courseId isOwner (receiptEarlyAccessEnabled env user.id) now := by
  have opens := learnerGrantBy_opens db (receiptEarlyAccessEnabled env user.id) user.id courseId now picks
  constructor
  · unfold decideLearning
    cases found : courseById db courseId with
    | none =>
        constructor
        · intro allowed
          cases allowed
        · rintro ⟨teachable, _⟩
          obtain ⟨c, found', _⟩ := teachable.course
          rw [found] at found'
          cases found'
    | some course =>
        simp only [student, if_true]
        rw [learning_resolved, opens]
        constructor
        · rintro ⟨account, kept, clear, status, usable⟩
          exact ⟨{ account := account, course := ⟨course, found, kept, clear, status⟩ }, usable⟩
        · rintro ⟨teachable, usable⟩
          obtain ⟨c, found', kept, clear, status⟩ := teachable.course
          obtain rfl := Option.some.inj (found.symm.trans found')
          exact ⟨teachable.account, kept, clear, status, usable⟩
  · intro pick' grants picks' reordered
    have opens' := learnerGrantBy_opens { db with grants := grants } (receiptEarlyAccessEnabled env user.id) user.id courseId now picks'
    have same : (learnerGrantBy pick' { db with grants := grants } user.id courseId (receiptEarlyAccessEnabled env user.id) now).opens ↔
        (learnerGrantBy pick db user.id courseId (receiptEarlyAccessEnabled env user.id) now).opens := by
      rw [opens, opens']
      exact exists_congr (fun g => usable_reordered db user courseId _ now grants reordered g)
    unfold decideLearning
    show (match courseById db courseId with
      | none => resolveCourseAccessFacts .fullLearning missingCourse
      | some course => _) = _
    cases courseById db courseId with
    | none => rfl
    | some course =>
        simp only [student, if_true]
        exact learning_same db user isOwner course _ _ same

end Allowed

def sampleEnvironment : ReceiptEnvironment where
  nodeEnv := "test"
  syntheticBuyerIds := some " student-2, student-1 "
  bankTransferSandboxEnabled := some "true"
  bankReceiptSandboxEnabled := some "true"
  bankReceiptEarlyAccessEnabled := some "true"

def sampleGrants : List CourseAccessGrant :=
  [sampleMembership.row "grant-1",
    { sampleMembership with sourceId := "line-2", graceEndsAt := some 30 }.row "grant-2",
    { sampleMembership with sourceType := .unverifiedReceiptAccess, sourceId := "generation-1:line-3" }.row "grant-3"]

theorem learning_allowed_sample :
    (decideLearning firstGrant { sampleAccess with grants := sampleGrants } sampleStudent "course-1" false
      (receiptEarlyAccessEnabled sampleEnvironment "student-1") 20).allowed = true := by
  have allowed := (learning_allowed_iff { sampleAccess with grants := sampleGrants } sampleStudent "course-1" false 20 sampleEnvironment
    rfl firstGrant_picks).1
  refine allowed.mpr ⟨{ account := ⟨_, rfl, rfl⟩, course := ⟨_, rfl, rfl, rfl, .inl rfl⟩ }, _, {
    member := List.mem_cons_of_mem _ List.mem_cons_self
    user := rfl
    course := rfl
    active := rfl
    started := by decide
    running := .inr (.inr ⟨30, rfl, by decide⟩)
    receipt := fun unverified => by cases unverified }⟩

end EduAi.Commerce
