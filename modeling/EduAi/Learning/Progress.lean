import EduAi.Learning.Schema
import EduAi.Store.Runs

set_option autoImplicit false

namespace EduAi.Learning

open EduAi.Store

structure UpdateLessonProgressDto where
  watchedSeconds : Option Nat := none
  durationSeconds : Option Nat := none
  lastPositionSeconds : Option Nat := none
  documentProgressPercent : Option Nat := none
deriving DecidableEq, Repr

def videoCompletionThreshold : Nat := 90

def maxSafeInteger : Nat := 9007199254740991

-- Math.round of a number of hundredths: the nearest integer, halves up.
def mathRound (hundredths : Nat) : Nat :=
  (hundredths + 50) / 100

-- The halves that double arithmetic loses: (x / 100) * 100 falls below x at x = 14.5, 28.5, 56.5 and 57.5.
def lostHalves : List Nat := [14, 28, 56, 57]

-- Math.round((watched / duration) * 100), computed in doubles.
def roundedPercent (watched duration : Nat) : Nat :=
  let rounded := (200 * watched + duration) / (2 * duration)
  if (200 * watched + duration) % (2 * duration) = 0 ∧ rounded - 1 ∈ lostHalves then rounded - 1 else rounded

structure ProgressValues where
  status : ProgressStatus
  progressPercent : Nat
  watchedSeconds : Nat
  durationSeconds : Option Nat
  lastPositionSeconds : Nat
  maxWatchedSeconds : Nat
  documentProgressPercent : Nat
  completed : Bool
deriving DecidableEq, Repr

structure PreviousValues where
  progressPercent : Nat := 0
  watchedSeconds : Nat := 0
  durationSeconds : Option Nat := none
  lastPositionSeconds : Nat := 0
  maxWatchedSeconds : Nat := 0
  documentProgressPercent : Nat := 0
deriving DecidableEq, Repr

def LearningProgress.previous (p : LearningProgress) : PreviousValues where
  progressPercent := p.progressPercent
  watchedSeconds := p.watchedSeconds
  durationSeconds := p.durationSeconds
  lastPositionSeconds := p.lastPositionSeconds
  maxWatchedSeconds := p.maxWatchedSeconds
  documentProgressPercent := p.documentProgressPercent

def previousOf (current : Option LearningProgress) : PreviousValues :=
  match current with
  | some p => p.previous
  | none => {}

def statusOf (completed : Bool) (percent : Nat) : ProgressStatus :=
  if completed then .completed else if 0 < percent then .inProgress else .notStarted

-- input.durationSeconds ?? previous.durationSeconds ?? (lesson.durationMinutes ?? 0) * 60
def durationInForce (lesson : Lesson) (previous : PreviousValues) (input : UpdateLessonProgressDto) : Nat :=
  match input.durationSeconds with
  | some reported => mathRound reported
  | none => previous.durationSeconds.getD (lesson.durationMinutes.getD 0 * 60)

-- durationSeconds || Number.MAX_SAFE_INTEGER
def lengthLimit (duration : Nat) : Nat :=
  if duration = 0 then maxSafeInteger else duration

def requestedPosition (duration : Nat) (previous : PreviousValues) (input : UpdateLessonProgressDto) : Nat :=
  min (lengthLimit duration) ((input.lastPositionSeconds.map mathRound).getD previous.lastPositionSeconds)

def canAdvance (duration : Nat) (previous : PreviousValues) (input : UpdateLessonProgressDto) : Bool :=
  requestedPosition duration previous input ≤ previous.maxWatchedSeconds + 5

def videoValues (lesson : Lesson) (previous : PreviousValues) (input : UpdateLessonProgressDto) : ProgressValues :=
  let duration := durationInForce lesson previous input
  let requested := requestedPosition duration previous input
  let advances := canAdvance duration previous input
  let position := if advances then requested else previous.lastPositionSeconds
  let watched :=
    if advances then
      min (lengthLimit duration)
        (max (max previous.watchedSeconds ((input.watchedSeconds.map mathRound).getD requested)) requested)
    else previous.watchedSeconds
  let percent := if duration = 0 then previous.progressPercent else min 100 (roundedPercent watched duration)
  let completed := decide (0 < duration ∧ videoCompletionThreshold ≤ percent)
  { status := statusOf completed percent
    progressPercent := percent
    watchedSeconds := watched
    durationSeconds := some duration
    lastPositionSeconds := position
    maxWatchedSeconds := max previous.maxWatchedSeconds position
    documentProgressPercent := previous.documentProgressPercent
    completed }

def documentValues (previous : PreviousValues) (input : UpdateLessonProgressDto) : ProgressValues :=
  let percent := min 100
    (max previous.documentProgressPercent (input.documentProgressPercent.getD previous.documentProgressPercent))
  let completed := decide (videoCompletionThreshold ≤ percent)
  { status := statusOf completed percent
    progressPercent := percent
    watchedSeconds := previous.watchedSeconds
    durationSeconds := previous.durationSeconds
    lastPositionSeconds := previous.lastPositionSeconds
    maxWatchedSeconds := previous.maxWatchedSeconds
    documentProgressPercent := percent
    completed }

def calculateProgressValues (lesson : Lesson) (current : Option LearningProgress) (input : UpdateLessonProgressDto) :
    ProgressValues :=
  if lesson.type = .video then videoValues lesson (previousOf current) input else documentValues (previousOf current) input

def integerMax : Nat := 2147483647

-- The INTEGER columns of learning_progress hold what was computed, or the upsert fails.
def storable (v : ProgressValues) : Prop :=
  v.watchedSeconds ≤ integerMax ∧ v.durationSeconds.getD 0 ≤ integerMax ∧ v.lastPositionSeconds ≤ integerMax ∧
    v.maxWatchedSeconds ≤ integerMax

instance (v : ProgressValues) : Decidable (storable v) := by
  unfold storable
  infer_instance

def ProgressValues.row (v : ProgressValues) (now : Instant) (userId lessonId : Uuid) : LearningProgress where
  userId := userId
  lessonId := lessonId
  status := v.status
  progressPercent := v.progressPercent
  watchedSeconds := v.watchedSeconds
  durationSeconds := v.durationSeconds
  lastPositionSeconds := v.lastPositionSeconds
  maxWatchedSeconds := v.maxWatchedSeconds
  documentProgressPercent := v.documentProgressPercent
  completedAt := if v.completed then some now else none

end EduAi.Learning
