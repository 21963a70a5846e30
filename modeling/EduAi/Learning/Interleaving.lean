import EduAi.Learning.Gate
import EduAi.Store.Interleaving

set_option autoImplicit false

namespace EduAi.Learning

open EduAi.Store
open EduAi.Store.Statements (query lockRow execute insert refuseUnless orRefuse)

inductive RowKey where
  | progress (userId lessonId : Uuid)
  | quiz (id : Uuid)
  | assignment (id : Uuid)
  | enrollment (userId courseId : Uuid)
  | activeCertificate (userId courseId : Uuid)
deriving DecidableEq, Repr

abbrev LearningStatements := Statements LearningDb RowKey Fault

section Statements

variable (course : Course) (now : Instant) (certificateId userId : Uuid)

def certificateConflict (row : Certificate) (db : LearningDb) : Option Fault :=
  if free (fun c => some c.id) row db.certificates = true then
    if free activeKey row db.certificates = true then none
    else some (.unique "certificates_user_id_course_id_active_key")
  else some (.unique "certificates_pkey")

def certificateStatements (templateId : Uuid) : LearningStatements Certificate := do
  let row := issuedCertificate course certificateId userId templateId
  insert [.activeCertificate userId course.id] (addCertificate row) (certificateConflict row)
  return row

def issuanceStatements : LearningStatements CertificateCompletionIssuance := do
  let active ← query (fun db => findActive db userId course.id)
  match active with
  | some existing => return { certificate := existing, issued := false }
  | none =>
      let first ← query (fun db => db.templates.head?)
      let template ← orRefuse first (.notFound "Certificate template not found")
      let certificate ← certificateStatements course certificateId userId template
      return { certificate, issued := true }

def syncStatements (enrollment : Enrollment) (counts : CompletionCounts) : LearningStatements CourseCompletionEvaluation := do
  if enrollment.status = .completed then
    let issuance ← issuanceStatements course certificateId userId
    return { completed := true, completedRequiredItems := counts.completedRequiredItems,
             totalRequiredItems := counts.totalRequiredItems, enrollmentUpdated := false,
             certificateIssued := issuance.notification }
  else if counts.policyComplete = false ∨ enrollment.status ≠ .active then
    return { completed := false, completedRequiredItems := counts.completedRequiredItems,
             totalRequiredItems := counts.totalRequiredItems, enrollmentUpdated := false, certificateIssued := none }
  else
    execute [.enrollment userId course.id] (completeEnrollment now userId course.id)
    let issuance ← issuanceStatements course certificateId userId
    return { completed := true, completedRequiredItems := counts.completedRequiredItems,
             totalRequiredItems := counts.totalRequiredItems, enrollmentUpdated := true,
             certificateIssued := issuance.notification }

def evaluationStatements : LearningStatements CourseCompletionEvaluation := do
  lockRow (.enrollment userId course.id)
  let found ← query (fun db => enrollmentOf db userId course.id)
  let enrollment ← orRefuse found (.notFound "Enrollment not found")
  let lessons ← query (fun _ => (requiredLessons course).length)
  let completedLessons ← query (fun db => ((requiredLessons course).filter (lessonCompleted db userId)).length)
  let quizzes ← query (fun _ => (requiredQuizzes course).length)
  let completedQuizzes ← query (fun db => ((requiredQuizzes course).filter (quizCompleted db userId)).length)
  let assignments ← query (fun _ => (requiredAssignments course).length)
  let completedAssignments ← query (fun db => ((requiredAssignments course).filter (assignmentCompleted db userId)).length)
  syncStatements course now certificateId userId enrollment
    { completedRequiredItems := completedLessons + completedQuizzes + completedAssignments
      totalRequiredItems := lessons + quizzes + assignments }

structure ActivityResult where
  path : Option LearningPathResponse
  completion : CourseCompletionEvaluation
deriving DecidableEq, Repr

def lessonProgressStatements (granted : Bool) (lessonId : Uuid) (input : UpdateLessonProgressDto) :
    LearningStatements ActivityResult := do
  let found ← query (fun _ => (liveLessons course).find? (fun l => l.id = lessonId))
  let lesson ← orRefuse found (.notFound "Lesson not found")
  refuseUnless (granted = true) (.notFound "Course not found")
  let current ← query (fun db => progressOf db userId lessonId)
  let next := calculateProgressValues lesson current input
  refuseUnless (storable next) (.outOfRange "learning_progress")
  execute [.progress userId lessonId] (upsertProgress (next.row now userId lessonId))
  let path ← query (fun db => learningPath course db userId)
  let completion ← evaluationStatements course now certificateId userId
  return { path := some path, completion }

def attemptStatements (quiz : Quiz) (passed : Bool) : LearningStatements ActivityResult := do
  let allowed ← query (fun db => decide (attemptAllowed db quiz userId))
  refuseUnless (allowed = true) (.badRequest "Quiz attempt limit reached")
  execute [] (createAttempt { userId, quizId := quiz.id, passed, submittedAt := some now })
  let completion ← evaluationStatements course now certificateId userId
  return { path := none, completion }

-- The transaction of an attempt whose answers are scored; a limit is checked under the lock of the quiz.
def quizAttemptStatements (quiz : Quiz) (passed : Bool) : LearningStatements ActivityResult :=
  if quiz.maxAttempts.isSome then do
    lockRow (.quiz quiz.id)
    attemptStatements course now certificateId userId quiz passed
  else attemptStatements course now certificateId userId quiz passed

def submissionStatements (assignmentId : Uuid) : LearningStatements ActivityResult := do
  lockRow (.assignment assignmentId)
  let version ← query (fun db => nextVersion db userId assignmentId)
  execute [] (createSubmission { userId, assignmentId, version })
  let completion ← evaluationStatements course now certificateId userId
  return { path := none, completion }

end Statements

inductive LearningWork where
  | lessonProgress (granted : Bool) (lessonId : Uuid) (input : UpdateLessonProgressDto)
  | quizAttempt (quiz : Quiz) (passed : Bool)
  | submission (assignmentId : Uuid)
deriving DecidableEq, Repr

structure Activity where
  now : Instant
  certificateId : Uuid
  work : LearningWork
deriving DecidableEq, Repr

def Activity.statements (course : Course) (userId : Uuid) (a : Activity) : LearningStatements ActivityResult :=
  match a.work with
  | .lessonProgress granted lessonId input =>
      lessonProgressStatements course a.now a.certificateId userId granted lessonId input
  | .quizAttempt quiz passed => quizAttemptStatements course a.now a.certificateId userId quiz passed
  | .submission assignmentId => submissionStatements course a.now a.certificateId userId assignmentId

theorem certificate_alone (course : Course) (certificateId userId templateId : Uuid) :
    (certificateStatements course certificateId userId templateId).alone = createCertificate course certificateId userId templateId := by
  funext db
  simp only [certificateStatements, Statements.alone_bind, Statements.alone_insert, Statements.alone_pure, createCertificate,
    bind_assoc, get_bind_run]
  show _ = (require (free (fun c => some c.id) (issuedCertificate course certificateId userId templateId) db.certificates = true)
      (.unique "certificates_pkey") >>= fun _ =>
    require (free activeKey (issuedCertificate course certificateId userId templateId) db.certificates = true)
      (.unique "certificates_user_id_course_id_active_key") >>= fun _ =>
    modify (addCertificate (issuedCertificate course certificateId userId templateId)) >>= fun _ =>
    pure (issuedCertificate course certificateId userId templateId) : LearningTxn Certificate) db
  unfold certificateConflict require
  by_cases fresh : free (fun c => some c.id) (issuedCertificate course certificateId userId templateId) db.certificates = true
  · by_cases single : free activeKey (issuedCertificate course certificateId userId templateId) db.certificates = true
    · simp only [if_pos fresh, if_pos single]
      rfl
    · simp only [if_pos fresh, if_neg single]
      rfl
  · simp only [if_neg fresh]
    rfl

theorem issuance_alone (course : Course) (certificateId userId : Uuid) :
    (issuanceStatements course certificateId userId).alone = issueForCompletion course certificateId userId := by
  funext db
  simp only [issuanceStatements, Statements.alone_bind, Statements.alone_query, issueForCompletion, map_eq_pure_bind, bind_assoc,
    pure_bind, get_bind_run]
  cases findActive db userId course.id with
  | some existing => rfl
  | none =>
      simp only [Statements.alone_bind, Statements.alone_query, Statements.alone_orRefuse, certificate_alone, Statements.alone_pure,
        map_eq_pure_bind, bind_assoc, pure_bind, get_bind_run]

theorem sync_alone (course : Course) (now : Instant) (certificateId userId : Uuid) (enrollment : Enrollment)
    (counts : CompletionCounts) : (syncStatements course now certificateId userId enrollment counts).alone =
      syncCompletion course now certificateId userId enrollment counts := by
  unfold syncStatements syncCompletion
  by_cases completed : enrollment.status = .completed
  · rw [if_pos completed, if_pos completed, Statements.alone_bind, issuance_alone]
    rfl
  · rw [if_neg completed, if_neg completed]
    by_cases policy : counts.policyComplete = false ∨ enrollment.status ≠ .active
    · rw [if_pos policy, if_pos policy]
      rfl
    · rw [if_neg policy, if_neg policy]
      simp only [Statements.alone_bind, Statements.alone_execute, issuance_alone, Statements.alone_pure]

theorem evaluation_alone (course : Course) (now : Instant) (certificateId userId : Uuid) :
    (evaluationStatements course now certificateId userId).alone = evaluateAndSync course now certificateId userId := by
  funext db
  simp only [evaluationStatements, Statements.alone_bind, Statements.alone_lockRow, Statements.alone_query,
    Statements.alone_orRefuse, sync_alone, evaluateAndSync, map_eq_pure_bind, bind_assoc, pure_bind, get_bind_run]
  cases enrollmentOf db userId course.id with
  | none => rfl
  | some enrollment => rfl

end EduAi.Learning
