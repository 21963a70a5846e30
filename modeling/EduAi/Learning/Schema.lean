import EduAi.Store.Txn
import EduAi.Store.Table

set_option autoImplicit false

namespace EduAi.Learning

open EduAi.Store

abbrev Uuid := String

-- Milliseconds since the epoch.
abbrev Instant := Int

inductive Fault where
  | notFound (message : String)
  | badRequest (message : String)
  | forbidden (message : String)
  | outOfRange (column : String)
  | unique (index : String)
deriving DecidableEq, Repr

inductive LessonType where
  | video | pdf | article
deriving DecidableEq, Repr

structure Lesson where
  id : Uuid
  title : String
  type : LessonType
  orderIndex : Int
  isRequired : Bool
  durationMinutes : Option Nat
  deleted : Bool
deriving DecidableEq, Repr

structure Assignment where
  id : Uuid
  title : String
  lessonId : Option Uuid
  isRequired : Bool
  published : Bool
  deleted : Bool
deriving DecidableEq, Repr

structure Quiz where
  id : Uuid
  title : String
  lessonId : Option Uuid
  isRequired : Bool
  published : Bool
  deleted : Bool
  maxAttempts : Option Nat
deriving DecidableEq, Repr

structure Course where
  id : Uuid
  title : String
  lessons : List Lesson
  assignments : List Assignment
  quizzes : List Quiz
deriving DecidableEq, Repr

inductive ProgressStatus where
  | notStarted | inProgress | completed
deriving DecidableEq, Repr

structure LearningProgress where
  userId : Uuid
  lessonId : Uuid
  status : ProgressStatus
  progressPercent : Nat
  watchedSeconds : Nat
  durationSeconds : Option Nat
  lastPositionSeconds : Nat
  maxWatchedSeconds : Nat
  documentProgressPercent : Nat
  completedAt : Option Instant
deriving DecidableEq, Repr

structure Submission where
  userId : Uuid
  assignmentId : Uuid
  version : Nat
deriving DecidableEq, Repr

structure QuizAttempt where
  userId : Uuid
  quizId : Uuid
  passed : Bool
  submittedAt : Option Instant
deriving DecidableEq, Repr

-- The column is free text; whatever is neither active nor completed comes from before the access grants.
inductive EnrollmentStatus where
  | active | completed | legacy
deriving DecidableEq, Repr

structure Enrollment where
  userId : Uuid
  courseId : Uuid
  status : EnrollmentStatus
  completedAt : Option Instant
deriving DecidableEq, Repr

inductive CertificateStatus where
  | active | revoked
deriving DecidableEq, Repr

structure Certificate where
  id : Uuid
  userId : Uuid
  courseId : Uuid
  certificateTemplateId : Uuid
  title : String
  status : CertificateStatus
  revokedAt : Option Instant
  revocationReason : Option String
deriving DecidableEq, Repr

structure LearningDb where
  progress : List LearningProgress
  submissions : List Submission
  attempts : List QuizAttempt
  enrollments : List Enrollment
  certificates : List Certificate
  templates : List Uuid
deriving DecidableEq, Repr

abbrev LearningTxn := Txn LearningDb Fault

def progressOf (db : LearningDb) (userId lessonId : Uuid) : Option LearningProgress :=
  db.progress.find? (fun p => p.userId = userId ∧ p.lessonId = lessonId)

def enrollmentOf (db : LearningDb) (userId courseId : Uuid) : Option Enrollment :=
  db.enrollments.find? (fun e => e.userId = userId ∧ e.courseId = courseId)

end EduAi.Learning
