import EduAi.Quizzes.AnswerEquality
import EduAi.Store.Checks
import EduAi.Store.Decimal
import EduAi.Store.Shuffle

set_option autoImplicit false

namespace EduAi.Quizzes

open EduAi.Store

inductive QuestionType where
  | multipleChoice
  | trueFalse
  | shortAnswer
deriving DecidableEq

structure Question (P : Type) where
  id : Units
  quizId : Units
  type : QuestionType
  questionText : Units
  optionsJson : Option Json
  correctAnswerJson : Json
  points : P
  orderIndex : Int
  values : correctAnswerJson.Distinct ∧ ∀ options ∈ optionsJson, options.Distinct

structure Quiz (P : Type) where
  id : Units
  passingScore : P
  maxAttempts : Option Int
  randomizeQuestions : Bool
  randomizeOptions : Bool
  showCorrectAnswers : Bool
  questions : List (Question P)

structure StudentQuestion (P : Type) where
  id : Units
  quizId : Units
  type : QuestionType
  questionText : Units
  optionsJson : Option Json
  points : P
  orderIndex : Int

structure StudentQuiz (P : Type) where
  id : Units
  passingScore : P
  maxAttempts : Option Int
  randomizeQuestions : Bool
  randomizeOptions : Bool
  showCorrectAnswers : Bool
  questions : List (StudentQuestion P)

inductive QuizError (E : Type) where
  | notFound (message : String)
  | badRequest (message : String)
  | refused (error : E)

def characters : Units → Units
  | [] => []
  | [c] => [c]
  | c :: d :: rest => if isHighSurrogate c ∧ isLowSurrogate d then c :: characters rest else c :: characters (d :: rest)

def seedState (seed : Units) : UInt32 :=
  (characters seed).foldl (fun state c => (state ^^^ c.toUInt32) * 16777619) 2166136261

def xorshift (state : UInt32) : UInt32 :=
  let left := state ^^^ (state <<< 13)
  let right := left ^^^ (left >>> 17)
  right ^^^ (right <<< 5)

def shuffleDeterministically {T : Type} (items : List T) (seed : Units) : List T :=
  (shuffleDown xorshift UInt32.toNat (items.length - 1) (seedState seed) items.toArray).toList

def seedOf (parts : List Units) : Units :=
  [colon].intercalate parts

section Presentation

variable {P E : Type}

def shownOptions (quiz : Quiz P) (userId : Units) (submittedAttemptCount : Nat) (question : Question P) : Option Json :=
  match question.optionsJson with
  | some (.array options) =>
      if quiz.randomizeOptions then
        some (.array (shuffleDeterministically options
          (seedOf [quiz.id, userId, decimal submittedAttemptCount, question.id, ascii "options"])))
      else some (.array options)
  | other => other

def shownQuestion (quiz : Quiz P) (userId : Units) (submittedAttemptCount : Nat) (question : Question P) (index : Nat) :
    StudentQuestion P where
  id := question.id
  quizId := question.quizId
  type := question.type
  questionText := question.questionText
  optionsJson := shownOptions quiz userId submittedAttemptCount question
  points := question.points
  orderIndex := if quiz.randomizeQuestions then index + 1 else question.orderIndex

def getStudentQuiz (found : Option (Quiz P)) (access step : Except E Unit) (submittedAttemptCount : Nat) (userId : Units) :
    Except (QuizError E) (StudentQuiz P) := do
  let quiz ← found.elim (.error (.notFound "Quiz not found")) .ok
  access.mapError .refused
  step.mapError .refused
  let shuffledQuestions :=
    if quiz.randomizeQuestions then
      shuffleDeterministically quiz.questions (seedOf [quiz.id, userId, decimal submittedAttemptCount, ascii "questions"])
    else quiz.questions
  return {
    id := quiz.id
    passingScore := quiz.passingScore
    maxAttempts := quiz.maxAttempts
    randomizeQuestions := quiz.randomizeQuestions
    randomizeOptions := quiz.randomizeOptions
    showCorrectAnswers := quiz.showCorrectAnswers
    questions := shuffledQuestions.mapIdx (fun index question =>
      shownQuestion quiz userId submittedAttemptCount question index) }

end Presentation

structure Answer where
  questionId : Units
  answer : Json

def answerIds (answers : List Answer) : List Units :=
  answers.map (·.questionId)

def isCompatibleAnswer (type : QuestionType) (answer : Option Json) : Bool :=
  match type with
  | .trueFalse => answer.any (·.type = .bool)
  | .shortAnswer => answer.any (·.type = .string)
  | .multipleChoice => answer.any (fun a => a.type = .string ∨ a.type = .number ∨ a.type = .array)

def answerOf (answers : List Answer) (questionId : Units) : Option Json :=
  (answers.reverse.find? (fun a => a.questionId = questionId)).map (·.answer)

section Grading

variable {P E : Type}

def answeredOnce (questions : List (Question P)) (answers : List Answer) : Bool :=
  answers.length = questions.length ∧ (answerIds answers).dedup.length = answers.length ∧
    ∀ id ∈ answerIds answers, id ∈ questions.map (·.id)

def validateAnswerSet (questions : List (Question P)) (answers : List Answer) : Except (QuizError E) Unit := do
  ensure (answeredOnce questions answers = true) (.badRequest "Each quiz question must be answered once")
  questions.forM (fun question =>
    ensure (isCompatibleAnswer question.type ((answers.find? (fun a => a.questionId = question.id)).map (·.answer)) = true)
      (.badRequest "Answer type does not match question type"))

structure ScoreArithmetic (P : Type) where
  zero : P
  add : P → P → P
  isZero : P → Bool
  percent : P → P → P
  atLeast : P → P → Bool
  roundScore : P → P

structure AnswerResult where
  questionId : Units
  answer : Option Json
  isCorrect : Bool

structure AttemptResponse (P : Type) where
  quizId : Units
  score : P
  maxScore : P
  passed : Bool
  scorePercent : P
  answers : Option (List AnswerResult)

structure SubmittedAttempt (P : Type) where
  answersJson : List Answer
  response : AttemptResponse P

variable (toLowerCase : Units → Units) (scores : ScoreArithmetic P)

def isCorrect (answers : List Answer) (question : Question P) : Bool :=
  answersMatch toLowerCase (answerOf answers question.id) question.correctAnswerJson

def gradeAttempt (quiz : Quiz P) (answers : List Answer) : AttemptResponse P :=
  let maxScore := quiz.questions.foldl (fun total question => scores.add total question.points) scores.zero
  let score := quiz.questions.foldl (fun total question =>
    if isCorrect toLowerCase answers question then scores.add total question.points else total) scores.zero
  let scorePercent := if scores.isZero maxScore then scores.zero else scores.percent score maxScore
  let answerResults := quiz.questions.map (fun question =>
    { questionId := question.id
      answer := answerOf answers question.id
      isCorrect := isCorrect toLowerCase answers question })
  { quizId := quiz.id
    score := score
    maxScore := maxScore
    passed := scores.atLeast scorePercent quiz.passingScore
    scorePercent := scores.roundScore scorePercent
    answers := if quiz.showCorrectAnswers then some answerResults else none }

def gradedAttempt (quiz : Quiz P) (attemptCount : Nat) (answers : List Answer) :
    Except (QuizError E) (SubmittedAttempt P) := do
  validateAnswerSet quiz.questions answers
  ensure (quiz.maxAttempts.all (fun maxAttempts => (attemptCount : Int) < maxAttempts) = true)
    (.badRequest "Quiz attempt limit reached")
  return { answersJson := answers, response := gradeAttempt toLowerCase scores quiz answers }

def submitAttempt (found : Option (Quiz P)) (access step : Except E Unit) (attemptCount : Nat) (answers : List Answer) :
    Except (QuizError E) (SubmittedAttempt P) := do
  let quiz ← found.elim (.error (.notFound "Quiz not found")) .ok
  access.mapError .refused
  step.mapError .refused
  gradedAttempt toLowerCase scores quiz attemptCount answers

end Grading

end EduAi.Quizzes
