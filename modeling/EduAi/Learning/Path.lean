import EduAi.Learning.Progress
import Mathlib.Data.List.Sort
import Mathlib.Data.String.Basic

set_option autoImplicit false

namespace EduAi.Learning

open EduAi.Store

inductive LearningStepType where
  | lesson | assignment | quiz
deriving DecidableEq, Repr

inductive LearningStepStatus where
  | locked | available | inProgress | completed
deriving DecidableEq, Repr

structure LearningStepCandidate where
  id : Uuid
  type : LearningStepType
  title : String
  position : Int
  isRequired : Bool
  completed : Bool
  inProgress : Bool
  lessonId : Option Uuid
deriving DecidableEq, Repr

structure LearningStep where
  candidate : LearningStepCandidate
  status : LearningStepStatus
  lockedReason : Option String
deriving DecidableEq, Repr

def typeOrder : LearningStepType → Nat
  | .lesson => 0
  | .assignment => 1
  | .quiz => 2

-- The comparator of the sort: position, then type, then id. The ids are lower-case UUIDs of one shape, so their
-- locale order is their character order.
def before (a b : LearningStepCandidate) : Prop :=
  if a.position = b.position then
    if typeOrder a.type = typeOrder b.type then a.id ≤ b.id else typeOrder a.type < typeOrder b.type
  else a.position < b.position

instance : DecidableRel before := fun a b => by
  unfold before
  infer_instance

def sortedCandidates (candidates : List LearningStepCandidate) : List LearningStepCandidate :=
  candidates.insertionSort before

def stepOf (previousStep : Option LearningStepCandidate) (candidate : LearningStepCandidate) : LearningStep :=
  if candidate.completed then { candidate, status := .completed, lockedReason := none }
  else
    match previousStep with
    | some previous =>
        { candidate, status := .locked, lockedReason := some ("Bạn cần hoàn thành \"" ++ previous.title ++ "\" trước.") }
    | none => { candidate, status := if candidate.inProgress then .inProgress else .available, lockedReason := none }

def stepsAfter : Option LearningStepCandidate → List LearningStepCandidate → List LearningStep
  | _, [] => []
  | previousStep, candidate :: rest =>
      let next := if previousStep.isNone ∧ candidate.isRequired ∧ ¬ candidate.completed then some candidate else previousStep
      stepOf previousStep candidate :: stepsAfter next rest

def buildLearningPathSteps (candidates : List LearningStepCandidate) : List LearningStep :=
  stepsAfter none (sortedCandidates candidates)

structure LearningPathProgress where
  completedSteps : Nat
  totalSteps : Nat
  progressPercent : Nat
  completed : Bool
deriving DecidableEq, Repr

def calculateLearningPathProgress (steps : List LearningStep) : LearningPathProgress :=
  let requiredSteps := steps.filter (fun s => s.candidate.isRequired)
  let completedSteps := (requiredSteps.filter (fun s => s.status = .completed)).length
  { completedSteps
    totalSteps := requiredSteps.length
    progressPercent := if requiredSteps.length = 0 then 0 else roundedPercent completedSteps requiredSteps.length
    completed := decide (0 < requiredSteps.length ∧ completedSteps = requiredSteps.length) }

structure LearningPathResponse where
  courseId : Uuid
  steps : List LearningStep
  currentStep : Option LearningStep
  nextStep : Option LearningStep
  completedLessonIds : List Uuid
  progress : LearningPathProgress
deriving DecidableEq, Repr

section Candidates

variable (course : Course) (db : LearningDb) (userId : Uuid)

def lessonCandidate (lesson : Lesson) : LearningStepCandidate :=
  let progress := progressOf db userId lesson.id
  { id := lesson.id
    type := .lesson
    title := lesson.title
    position := lesson.orderIndex
    isRequired := lesson.isRequired
    completed := (progress.map (fun p => decide (p.status = .completed))).getD false
    inProgress := (progress.map (fun p => decide (p.status = .inProgress ∨ 0 < p.progressPercent))).getD false
    lessonId := some lesson.id }

def liveLessons : List Lesson :=
  course.lessons.filter (fun l => !l.deleted)

def maxPosition : Int :=
  (liveLessons course).foldl (fun top l => max top l.orderIndex) 0

def positionOf (lessonId : Option Uuid) : Int :=
  match lessonId with
  | some id => (((liveLessons course).find? (fun l => l.id = id)).map (·.orderIndex)).getD (maxPosition course + 1)
  | none => maxPosition course + 1

def submitted (assignmentId : Uuid) : Bool :=
  db.submissions.any (fun s => s.userId = userId ∧ s.assignmentId = assignmentId)

def attempted (quizId : Uuid) : Bool :=
  db.attempts.any (fun a => a.userId = userId ∧ a.quizId = quizId ∧ a.submittedAt.isSome)

def passedQuiz (quizId : Uuid) : Bool :=
  db.attempts.any (fun a => a.userId = userId ∧ a.quizId = quizId ∧ a.submittedAt.isSome ∧ a.passed)

def assignmentCandidate (a : Assignment) : LearningStepCandidate where
  id := a.id
  type := .assignment
  title := a.title
  position := positionOf course a.lessonId
  isRequired := a.isRequired
  completed := submitted db userId a.id
  inProgress := submitted db userId a.id
  lessonId := a.lessonId

def quizCandidate (q : Quiz) : LearningStepCandidate where
  id := q.id
  type := .quiz
  title := q.title
  position := positionOf course q.lessonId
  isRequired := q.isRequired
  completed := passedQuiz db userId q.id
  inProgress := attempted db userId q.id
  lessonId := q.lessonId

def liveAssignments : List Assignment :=
  course.assignments.filter (fun a => !a.deleted && a.published)

def liveQuizzes : List Quiz :=
  course.quizzes.filter (fun q => !q.deleted && q.published)

def candidatesOf : List LearningStepCandidate :=
  (liveLessons course).map (lessonCandidate db userId) ++
    (liveAssignments course).map (assignmentCandidate course db userId) ++
    (liveQuizzes course).map (quizCandidate course db userId)

def learningPath : LearningPathResponse :=
  let steps := buildLearningPathSteps (candidatesOf course db userId)
  let currentStep := (steps.find? (fun s => s.status = .inProgress)).or (steps.find? (fun s => s.status = .available))
  { courseId := course.id
    steps
    currentStep
    nextStep := currentStep.bind (fun current => steps[steps.idxOf current + 1]?)
    completedLessonIds :=
      (steps.filter (fun s => s.candidate.type = .lesson ∧ s.status = .completed)).map (·.candidate.id)
    progress := calculateLearningPathProgress steps }

end Candidates

-- granted is the answer of CourseAccessService.require for FULL_LEARNING.
def getLearningPathForUser (course : Course) (granted : Bool) (userId : Uuid) : LearningTxn LearningPathResponse := do
  require granted (.notFound "Course not found")
  let db ← get
  return learningPath course db userId

def accessible (course : Course) (db : LearningDb) (userId stepId : Uuid) (type : LearningStepType) : Bool :=
  match (learningPath course db userId).steps.find? (fun s => s.candidate.id = stepId ∧ s.candidate.type = type) with
  | some step => step.status ≠ .locked
  | none => false

def assertLessonAccessible (course : Course) (granted : Bool) (userId lessonId : Uuid) : LearningTxn Unit := do
  let _ ← orThrow ((liveLessons course).find? (fun l => l.id = lessonId)) (.notFound "Lesson not found")
  let _ ← getLearningPathForUser course granted userId
  let db ← get
  require (accessible course db userId lessonId .lesson) (.notFound "Lesson not found")

def assertStudentStepAccessible (course : Course) (granted : Bool) (userId stepId : Uuid) (type : LearningStepType) :
    LearningTxn Unit := do
  let _ ← getLearningPathForUser course granted userId
  let db ← get
  require (accessible course db userId stepId type) (.notFound "Learning step not found")

end EduAi.Learning
