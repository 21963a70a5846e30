import EduAi.Learning.Progress
import EduAi.Learning.Completion

set_option autoImplicit false

namespace EduAi.Learning

open EduAi.Store

-- The authenticated user of a call, and the answer of the course access service to FULL_LEARNING.
structure Caller where
  id : Uuid
  isStudent : Bool
  granted : Bool
deriving DecidableEq, Repr

def sameProgress (row : LearningProgress) (p : LearningProgress) : Bool :=
  p.userId = row.userId ∧ p.lessonId = row.lessonId

def upsertProgress (row : LearningProgress) (db : LearningDb) : LearningDb :=
  if db.progress.any (sameProgress row) then
    { db with progress := updateWhere (sameProgress row) (fun _ => row) db.progress }
  else
    { db with progress := db.progress ++ [row] }

section Rows

variable (db : LearningDb) (row : LearningProgress) (userId lessonId : Uuid)

theorem find_written (rows : List LearningProgress) (held : rows.any (sameProgress row) = true)
    (own : row.userId = userId ∧ row.lessonId = lessonId) :
    (updateWhere (sameProgress row) (fun _ => row) rows).find? (fun p => p.userId = userId ∧ p.lessonId = lessonId) = some row := by
  induction rows with
  | nil => cases held
  | cons x rest ih =>
      rw [updateWhere_cons]
      by_cases hx : sameProgress row x = true
      · rw [if_pos hx, List.find?_cons_of_pos (by simpa using own)]
      · have apart : ¬ (x.userId = userId ∧ x.lessonId = lessonId) := by
          intro same
          exact hx (decide_eq_true ⟨same.1.trans own.1.symm, same.2.trans own.2.symm⟩)
        have later : rest.any (sameProgress row) = true := by
          simpa [hx] using held
        rw [if_neg hx, List.find?_cons_of_neg (by simpa using apart)]
        exact ih later

theorem find_unwritten (rows : List LearningProgress) (other : ¬ (row.userId = userId ∧ row.lessonId = lessonId)) :
    (updateWhere (sameProgress row) (fun _ => row) rows).find? (fun p => p.userId = userId ∧ p.lessonId = lessonId) =
      rows.find? (fun p => p.userId = userId ∧ p.lessonId = lessonId) := by
  induction rows with
  | nil => rfl
  | cons x rest ih =>
      rw [updateWhere_cons]
      by_cases hx : sameProgress row x = true
      · have apart : ¬ (x.userId = userId ∧ x.lessonId = lessonId) := by
          obtain ⟨sameUser, sameLesson⟩ : x.userId = row.userId ∧ x.lessonId = row.lessonId := of_decide_eq_true hx
          rw [sameUser, sameLesson]
          exact other
        rw [if_pos hx, List.find?_cons_of_neg (by simpa using other), List.find?_cons_of_neg (by simpa using apart)]
        exact ih
      · rw [if_neg hx]
        by_cases found : x.userId = userId ∧ x.lessonId = lessonId
        · rw [List.find?_cons_of_pos (by simpa using found), List.find?_cons_of_pos (by simpa using found)]
        · rw [List.find?_cons_of_neg (by simpa using found), List.find?_cons_of_neg (by simpa using found)]
          exact ih

theorem progressOf_upsert : progressOf (upsertProgress row db) userId lessonId =
    if row.userId = userId ∧ row.lessonId = lessonId then some row else progressOf db userId lessonId := by
  unfold progressOf upsertProgress
  by_cases held : db.progress.any (sameProgress row) = true
  · rw [if_pos held]
    by_cases own : row.userId = userId ∧ row.lessonId = lessonId
    · rw [if_pos own]
      exact find_written row userId lessonId db.progress held own
    · rw [if_neg own]
      exact find_unwritten row userId lessonId db.progress own
  · rw [if_neg held, List.find?_append]
    by_cases own : row.userId = userId ∧ row.lessonId = lessonId
    · have absent : db.progress.find? (fun p => p.userId = userId ∧ p.lessonId = lessonId) = none := by
        refine List.find?_eq_none.mpr (fun p member found => held (List.any_eq_true.mpr ⟨p, member, ?_⟩))
        have same : p.userId = userId ∧ p.lessonId = lessonId := of_decide_eq_true found
        exact decide_eq_true ⟨same.1.trans own.1.symm, same.2.trans own.2.symm⟩
      rw [if_pos own, absent]
      simp [own.1, own.2]
    · rw [if_neg own]
      simp [own]

end Rows

def createAttempt (row : QuizAttempt) (db : LearningDb) : LearningDb :=
  { db with attempts := db.attempts ++ [row] }

def createSubmission (row : Submission) (db : LearningDb) : LearningDb :=
  { db with submissions := db.submissions ++ [row] }

section Activity

variable (course : Course) (now : Instant) (certificateId : Uuid) (caller : Caller)

def updateLessonProgress (lessonId : Uuid) (input : UpdateLessonProgressDto) : LearningTxn LearningPathResponse := do
  require caller.isStudent (.forbidden "Student role required")
  let lesson ← orThrow ((liveLessons course).find? (fun l => l.id = lessonId)) (.notFound "Lesson not found")
  require caller.granted (.notFound "Course not found")
  let db ← get
  let next := calculateProgressValues lesson (progressOf db caller.id lessonId) input
  require (storable next) (.outOfRange "learning_progress")
  modify (upsertProgress (next.row now caller.id lessonId))
  let path ← getLearningPathForUser course caller.granted caller.id
  let _ ← evaluateAndSync course now certificateId caller.id
  return path

def attemptCount (db : LearningDb) (userId quizId : Uuid) : Nat :=
  (db.attempts.filter (fun a => a.quizId = quizId ∧ a.userId = userId ∧ a.submittedAt.isSome)).length

def attemptAllowed (db : LearningDb) (quiz : Quiz) (userId : Uuid) : Prop :=
  ∀ limit ∈ quiz.maxAttempts, attemptCount db userId quiz.id < limit

instance (db : LearningDb) (quiz : Quiz) (userId : Uuid) : Decidable (attemptAllowed db quiz userId) := by
  unfold attemptAllowed
  infer_instance

-- graded is the outcome of checking the answer set and scoring it: passed or not, or the error of a malformed set.
def submitAttempt (quizId : Uuid) (graded : Option Bool) : LearningTxn CourseCompletionEvaluation := do
  let quiz ← orThrow ((liveQuizzes course).find? (fun q => q.id = quizId)) (.notFound "Quiz not found")
  require caller.granted (.notFound "Course not found")
  assertStudentStepAccessible course caller.granted caller.id quizId .quiz
  let passed ← orThrow graded (.badRequest "Quiz answers are invalid")
  let db ← get
  require (attemptAllowed db quiz caller.id) (.badRequest "Quiz attempt limit reached")
  modify (createAttempt { userId := caller.id, quizId, passed, submittedAt := some now })
  evaluateAndSync course now certificateId caller.id

def nextVersion (db : LearningDb) (userId assignmentId : Uuid) : Nat :=
  (db.submissions.filter (fun s => s.assignmentId = assignmentId ∧ s.userId = userId)).foldl (fun top s => max top s.version) 0 + 1

def submitAssignment (assignmentId : Uuid) (work : Bool) : LearningTxn CourseCompletionEvaluation := do
  require work (.badRequest "Submission requires text or file")
  let _ ← orThrow ((liveAssignments course).find? (fun a => a.id = assignmentId)) (.notFound "Assignment not found")
  require caller.granted (.notFound "Course not found")
  assertStudentStepAccessible course caller.granted caller.id assignmentId .assignment
  let db ← get
  modify (createSubmission { userId := caller.id, assignmentId, version := nextVersion db caller.id assignmentId })
  evaluateAndSync course now certificateId caller.id

def issueCertificate (templateId : Uuid) : LearningTxn Certificate := do
  require caller.granted (.notFound "Course not found")
  let db ← get
  let enrollment ← orThrow (enrollmentOf db caller.id course.id) (.notFound "Enrollment not found")
  require (enrollment.status = .completed ∧ enrollment.completedAt.isSome)
    (.badRequest "Course must be completed before issuance")
  require (templateId ∈ db.templates) (.notFound "Certificate template not found")
  match findActive db caller.id course.id with
  | some existing => return existing
  | none => createCertificate course certificateId caller.id templateId

end Activity

def Certificate.revoked (c : Certificate) (now : Instant) (reason : String) : Certificate :=
  { c with status := .revoked, revokedAt := some now, revocationReason := some reason }

def revokeCertificate (now : Instant) (certificateId : Uuid) (reason : String) : LearningTxn Certificate := do
  let db ← get
  let certificate ← orThrow (db.certificates.find? (fun c => c.id = certificateId)) (.notFound "Certificate not found")
  if certificate.status = .revoked then
    return certificate
  else
    modify (fun db => { db with
      certificates := updateWhere (fun c => c.id = certificateId) (fun c => c.revoked now reason) db.certificates })
    return certificate.revoked now reason

inductive LearningCall where
  | updateLessonProgress (caller : Caller) (lessonId : Uuid) (input : UpdateLessonProgressDto)
  | submitAttempt (caller : Caller) (quizId : Uuid) (graded : Option Bool)
  | submitAssignment (caller : Caller) (assignmentId : Uuid) (work : Bool)
  | issueCertificate (caller : Caller) (templateId : Uuid)
  | revokeCertificate (certificateId : Uuid) (reason : String)
deriving DecidableEq, Repr

structure Request where
  now : Instant
  certificateId : Uuid
  call : LearningCall
deriving DecidableEq, Repr

def Request.effect (course : Course) (r : Request) (db : LearningDb) : LearningDb :=
  match r.call with
  | .updateLessonProgress caller lessonId input =>
      commit (updateLessonProgress course r.now r.certificateId caller lessonId input) db
  | .submitAttempt caller quizId graded => commit (submitAttempt course r.now r.certificateId caller quizId graded) db
  | .submitAssignment caller assignmentId work =>
      commit (submitAssignment course r.now r.certificateId caller assignmentId work) db
  | .issueCertificate caller templateId => commit (issueCertificate course r.certificateId caller templateId) db
  | .revokeCertificate certificateId reason => commit (revokeCertificate r.now certificateId reason) db

def learningStep (course : Course) (db : LearningDb) (r : Request) : LearningDb :=
  r.effect course db

end EduAi.Learning
