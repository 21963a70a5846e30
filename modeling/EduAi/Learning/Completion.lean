import EduAi.Learning.Path

set_option autoImplicit false

namespace EduAi.Learning

open EduAi.Store

def findActive (db : LearningDb) (userId courseId : Uuid) : Option Certificate :=
  db.certificates.find? (fun c => c.userId = userId ∧ c.courseId = courseId ∧ c.status = .active)

def activeKey (c : Certificate) : Option (Uuid × Uuid) :=
  if c.status = .active then some (c.userId, c.courseId) else none

def createCertificate (course : Course) (certificateId userId templateId : Uuid) : LearningTxn Certificate := do
  let db ← get
  let row : Certificate :=
    { id := certificateId, userId, courseId := course.id, certificateTemplateId := templateId, title := course.title,
      status := .active, revokedAt := none, revocationReason := none }
  require (free (fun c => some c.id) row db.certificates) (.unique "certificates_pkey")
  require (free activeKey row db.certificates) (.unique "certificates_user_id_course_id_active_key")
  modify (fun db => { db with certificates := db.certificates ++ [row] })
  return row

structure CertificateCompletionIssuance where
  certificate : Certificate
  issued : Bool
deriving DecidableEq, Repr

def issueForCompletion (course : Course) (certificateId userId : Uuid) : LearningTxn CertificateCompletionIssuance := do
  let db ← get
  match findActive db userId course.id with
  | some existing => return { certificate := existing, issued := false }
  | none =>
      let template ← orThrow db.templates.head? (.notFound "Certificate template not found")
      let certificate ← createCertificate course certificateId userId template
      return { certificate, issued := true }

structure CompletionCounts where
  completedRequiredItems : Nat
  totalRequiredItems : Nat
deriving DecidableEq, Repr

section Counts

variable (course : Course) (db : LearningDb) (userId : Uuid)

def requiredLessons : List Lesson :=
  course.lessons.filter (fun l => !l.deleted && l.isRequired)

def requiredQuizzes : List Quiz :=
  course.quizzes.filter (fun q => !q.deleted && q.isRequired && q.published)

def requiredAssignments : List Assignment :=
  course.assignments.filter (fun a => !a.deleted && a.isRequired && a.published)

def lessonCompleted (l : Lesson) : Bool :=
  db.progress.any (fun p => p.lessonId = l.id ∧ p.userId = userId ∧ p.status = .completed)

def quizCompleted (q : Quiz) : Bool :=
  db.attempts.any (fun a => a.quizId = q.id ∧ a.userId = userId ∧ a.submittedAt.isSome ∧ a.passed)

def assignmentCompleted (a : Assignment) : Bool :=
  db.submissions.any (fun s => s.assignmentId = a.id ∧ s.userId = userId)

def completionCounts : CompletionCounts where
  completedRequiredItems :=
    ((requiredLessons course).filter (lessonCompleted db userId)).length +
      ((requiredQuizzes course).filter (quizCompleted db userId)).length +
      ((requiredAssignments course).filter (assignmentCompleted db userId)).length
  totalRequiredItems :=
    (requiredLessons course).length + (requiredQuizzes course).length + (requiredAssignments course).length

def CompletionCounts.policyComplete (counts : CompletionCounts) : Bool :=
  0 < counts.totalRequiredItems ∧ counts.completedRequiredItems = counts.totalRequiredItems

end Counts

structure CourseCompletionEvaluation where
  completed : Bool
  completedRequiredItems : Nat
  totalRequiredItems : Nat
  enrollmentUpdated : Bool
  certificateIssued : Option Certificate
deriving DecidableEq, Repr

def CertificateCompletionIssuance.notification (issuance : CertificateCompletionIssuance) : Option Certificate :=
  if issuance.issued then some issuance.certificate else none

-- updateMany where status is active.
def completeEnrollment (now : Instant) (userId courseId : Uuid) (db : LearningDb) : LearningDb :=
  { db with
    enrollments := updateWhere (fun e => e.userId = userId ∧ e.courseId = courseId ∧ e.status = .active)
      (fun e => { e with status := .completed, completedAt := some now }) db.enrollments }

-- What follows once the enrollment is read under its lock and the items are counted.
def syncCompletion (course : Course) (now : Instant) (certificateId userId : Uuid) (enrollment : Enrollment)
    (counts : CompletionCounts) : LearningTxn CourseCompletionEvaluation := do
  if enrollment.status = .completed then
    let issuance ← issueForCompletion course certificateId userId
    return { completed := true, completedRequiredItems := counts.completedRequiredItems,
             totalRequiredItems := counts.totalRequiredItems, enrollmentUpdated := false,
             certificateIssued := issuance.notification }
  else if counts.policyComplete = false ∨ enrollment.status ≠ .active then
    return { completed := false, completedRequiredItems := counts.completedRequiredItems,
             totalRequiredItems := counts.totalRequiredItems, enrollmentUpdated := false, certificateIssued := none }
  else
    modify (completeEnrollment now userId course.id)
    let issuance ← issueForCompletion course certificateId userId
    return { completed := true, completedRequiredItems := counts.completedRequiredItems,
             totalRequiredItems := counts.totalRequiredItems, enrollmentUpdated := true,
             certificateIssued := issuance.notification }

def evaluateAndSync (course : Course) (now : Instant) (certificateId userId : Uuid) : LearningTxn CourseCompletionEvaluation := do
  let db ← get
  let enrollment ← orThrow (enrollmentOf db userId course.id) (.notFound "Enrollment not found")
  syncCompletion course now certificateId userId enrollment (completionCounts course db userId)

end EduAi.Learning
