import EduAi.Learning.Moves
import Mathlib.Tactic.Linarith

set_option autoImplicit false

namespace EduAi.Learning

open EduAi.Store

theorem threshold_reached (watched duration : Nat) (positive : 0 < duration) :
    videoCompletionThreshold ≤ roundedPercent watched duration ↔ 179 * duration ≤ 200 * watched := by
  have nearest : 90 ≤ (200 * watched + duration) / (2 * duration) ↔ 179 * duration ≤ 200 * watched := by
    rw [Nat.le_div_iff_mul_le (by omega)]
    omega
  unfold roundedPercent videoCompletionThreshold
  by_cases lost : (200 * watched + duration) % (2 * duration) = 0 ∧
      (200 * watched + duration) / (2 * duration) - 1 ∈ lostHalves
  · have low : (200 * watched + duration) / (2 * duration) ≤ 58 := by
      have member := lost.2
      simp only [lostHalves, List.mem_cons, List.not_mem_nil, or_false] at member
      omega
    simp only [if_pos lost]
    omega
  · simp only [if_neg lost]
    exact nearest

theorem threshold_needs_length (watched duration : Nat) (reached : videoCompletionThreshold ≤ roundedPercent watched duration) :
    0 < duration := by
  by_contra empty
  have zero : duration = 0 := by omega
  subst zero
  simp [roundedPercent, videoCompletionThreshold, lostHalves] at reached

theorem threshold_mono (less more duration : Nat) (below : less ≤ more)
    (reached : videoCompletionThreshold ≤ roundedPercent less duration) :
    videoCompletionThreshold ≤ roundedPercent more duration := by
  have positive := threshold_needs_length less duration reached
  rw [threshold_reached _ _ positive] at reached ⊢
  omega

theorem threshold_capped (watched duration : Nat) (positive : 0 < duration) :
    videoCompletionThreshold ≤ min 100 (roundedPercent (min (lengthLimit duration) watched) duration) ↔
      videoCompletionThreshold ≤ roundedPercent watched duration := by
  have limit : lengthLimit duration = duration := if_neg (by omega)
  have capped : videoCompletionThreshold ≤ min 100 (roundedPercent (min duration watched) duration) ↔
      videoCompletionThreshold ≤ roundedPercent (min duration watched) duration := by
    unfold videoCompletionThreshold
    omega
  rw [limit, capped, threshold_reached _ _ positive, threshold_reached _ _ positive]
  omega

def watchMark (duration : Nat) (previous : PreviousValues) (input : UpdateLessonProgressDto) : Nat :=
  if canAdvance duration previous input then
    let requested := requestedPosition duration previous input
    max (max previous.watchedSeconds ((input.watchedSeconds.map mathRound).getD requested)) requested
  else previous.watchedSeconds

structure VideoRow (previous : PreviousValues) : Prop where
  position_reached : previous.lastPositionSeconds ≤ previous.maxWatchedSeconds
  watched_reached : previous.watchedSeconds ≤ previous.maxWatchedSeconds

structure VideoKept (before after : Option LearningProgress) : Prop where
  monotone : (previousOf before).maxWatchedSeconds ≤ (previousOf after).maxWatchedSeconds
  stepwise : (previousOf after).maxWatchedSeconds ≤ (previousOf before).maxWatchedSeconds + 5
  earned : ∀ p ∈ after, p.status = .completed →
    videoCompletionThreshold ≤ roundedPercent p.maxWatchedSeconds (p.durationSeconds.getD 0)
  kept : ∀ p ∈ before, p.status = .completed → ∃ q ∈ after, q.status = .completed ∧
    videoCompletionThreshold ≤ q.progressPercent ∧ q.completedAt = p.completedAt

def HonestReport (lesson : Lesson) (previous : PreviousValues) (input : UpdateLessonProgressDto) : Prop :=
  let duration := durationInForce lesson previous input
  canAdvance duration previous input = true → ∀ reported ∈ input.watchedSeconds,
    min (lengthLimit duration) (mathRound reported) ≤
      max previous.maxWatchedSeconds (requestedPosition duration previous input)

-- A completed lesson is reported on only at the instant of its completion, at a length that what was watched still covers.
def KeepsCompletion (now : Instant) (lesson : Lesson) (current : Option LearningProgress) (input : UpdateLessonProgressDto) : Prop :=
  ∀ p ∈ current, p.status = .completed → p.completedAt = some now ∧
    let duration := durationInForce lesson p.previous input
    videoCompletionThreshold ≤ roundedPercent (watchMark duration p.previous input) duration

instance (lesson : Lesson) (previous : PreviousValues) (input : UpdateLessonProgressDto) :
    Decidable (HonestReport lesson previous input) := by
  unfold HonestReport
  infer_instance

instance (now : Instant) (lesson : Lesson) (current : Option LearningProgress) (input : UpdateLessonProgressDto) :
    Decidable (KeepsCompletion now lesson current input) := by
  unfold KeepsCompletion
  infer_instance

section Values

variable (lesson : Lesson) (previous : PreviousValues) (input : UpdateLessonProgressDto)

theorem video_max_le : (videoValues lesson previous input).maxWatchedSeconds ≤
    max (previous.maxWatchedSeconds + 5) previous.lastPositionSeconds := by
  simp only [videoValues]
  by_cases advances : canAdvance (durationInForce lesson previous input) previous input = true
  · rw [if_pos advances]
    have near : requestedPosition (durationInForce lesson previous input) previous input ≤ previous.maxWatchedSeconds + 5 :=
      of_decide_eq_true advances
    omega
  · rw [if_neg advances]
    omega

theorem video_max_ge : previous.maxWatchedSeconds ≤ (videoValues lesson previous input).maxWatchedSeconds :=
  le_max_left _ _

theorem video_position_reached : (videoValues lesson previous input).lastPositionSeconds ≤
    (videoValues lesson previous input).maxWatchedSeconds :=
  le_max_right _ _

theorem video_watched_reached (row : VideoRow previous) (honest : HonestReport lesson previous input) :
    (videoValues lesson previous input).watchedSeconds ≤ (videoValues lesson previous input).maxWatchedSeconds := by
  simp only [videoValues]
  by_cases advances : canAdvance (durationInForce lesson previous input) previous input = true
  · simp only [if_pos advances]
    have stored := row.watched_reached
    cases given : input.watchedSeconds with
    | none =>
        simp only [Option.map_none, Option.getD_none]
        omega
    | some reported =>
        have claimed := honest advances reported given
        simp only [Option.map_some, Option.getD_some]
        omega
  · simp only [if_neg advances]
    exact le_trans row.watched_reached (le_max_left _ _)

theorem video_completed : (videoValues lesson previous input).completed = true ↔
    videoCompletionThreshold ≤ roundedPercent (watchMark (durationInForce lesson previous input) previous input)
      (durationInForce lesson previous input) := by
  simp only [videoValues, decide_eq_true_eq, watchMark]
  constructor
  · rintro ⟨positive, percent⟩
    rw [if_neg (by omega)] at percent
    by_cases advances : canAdvance (durationInForce lesson previous input) previous input = true
    · simp only [if_pos advances] at percent ⊢
      exact (threshold_capped _ _ positive).mp percent
    · simp only [if_neg advances] at percent ⊢
      exact le_trans percent (min_le_right _ _)
  · intro reached
    have positive := threshold_needs_length _ _ reached
    refine ⟨positive, ?_⟩
    rw [if_neg (by omega)]
    by_cases advances : canAdvance (durationInForce lesson previous input) previous input = true
    · simp only [if_pos advances] at reached ⊢
      exact (threshold_capped _ _ positive).mpr reached
    · simp only [if_neg advances] at reached ⊢
      exact le_min (by decide) reached

theorem video_completed_percent (completed : (videoValues lesson previous input).completed = true) :
    videoCompletionThreshold ≤ (videoValues lesson previous input).progressPercent ∧
      0 < durationInForce lesson previous input ∧
      videoCompletionThreshold ≤
        roundedPercent (videoValues lesson previous input).watchedSeconds (durationInForce lesson previous input) := by
  simp only [videoValues, decide_eq_true_eq] at completed ⊢
  obtain ⟨positive, percent⟩ := completed
  refine ⟨percent, positive, ?_⟩
  rw [if_neg (by omega)] at percent
  exact le_trans percent (min_le_right _ _)

theorem statusOf_completed (completed : Bool) (percent : Nat) : statusOf completed percent = .completed ↔ completed = true := by
  unfold statusOf
  cases completed with
  | true => simp
  | false =>
      by_cases begun : 0 < percent
      · simp [begun]
      · simp [begun]

theorem video_status : (videoValues lesson previous input).status = .completed ↔
    (videoValues lesson previous input).completed = true :=
  statusOf_completed _ _

end Values

section Lesson

variable (lesson : Lesson) (now : Instant) (userId : Uuid) (current : Option LearningProgress)
  (input : UpdateLessonProgressDto)

def writtenRow : LearningProgress :=
  (videoValues lesson (previousOf current) input).row now userId lesson.id

theorem written_row (row : VideoRow (previousOf current)) (honest : HonestReport lesson (previousOf current) input) :
    VideoRow (previousOf (some (writtenRow lesson now userId current input))) where
  position_reached := video_position_reached lesson (previousOf current) input
  watched_reached := video_watched_reached lesson (previousOf current) input row honest

theorem written_kept (row : VideoRow (previousOf current)) (honest : HonestReport lesson (previousOf current) input)
    (keeps : KeepsCompletion now lesson current input) :
    VideoKept current (some (writtenRow lesson now userId current input)) where
  monotone := video_max_ge lesson (previousOf current) input
  stepwise := by
    have near := video_max_le lesson (previousOf current) input
    have reached := row.position_reached
    show (videoValues lesson (previousOf current) input).maxWatchedSeconds ≤ _
    omega
  earned := by
    intro p written completed
    obtain rfl := Option.some.inj written
    have done := (video_status lesson (previousOf current) input).mp completed
    obtain ⟨_, _, watched⟩ := video_completed_percent lesson (previousOf current) input done
    exact threshold_mono _ _ _ (video_watched_reached lesson (previousOf current) input row honest) watched
  kept := by
    rintro p rfl completed
    obtain ⟨instant, covered⟩ := keeps p rfl completed
    have done := (video_completed lesson (previousOf (some p)) input).mpr covered
    refine ⟨_, rfl, (video_status lesson (previousOf (some p)) input).mpr done,
      (video_completed_percent lesson (previousOf (some p)) input done).1, ?_⟩
    rw [instant]
    exact if_pos done

end Lesson

structure VideoSound (current : Option LearningProgress) : Prop where
  row : VideoRow (previousOf current)
  earned : ∀ p ∈ current, p.status = .completed →
    videoCompletionThreshold ≤ roundedPercent p.maxWatchedSeconds (p.durationSeconds.getD 0)
  percent : ∀ p ∈ current, p.status = .completed → videoCompletionThreshold ≤ p.progressPercent

def UnstartedRow (current : Option LearningProgress) : Prop :=
  ∀ p ∈ current, p.status = .notStarted ∧ p.previous = {}

theorem videoSound_unstarted (current : Option LearningProgress) (unstarted : UnstartedRow current) : VideoSound current := by
  cases current with
  | none => exact ⟨⟨le_refl 0, le_refl 0⟩, by simp, by simp⟩
  | some p =>
      obtain ⟨status, empty⟩ := unstarted p rfl
      have open_ (q : LearningProgress) (same : q ∈ some p) : q.status ≠ .completed := by
        obtain rfl := Option.some.inj same
        rw [status]
        decide
      refine ⟨?_, fun q found done => absurd done (open_ q found), fun q found done => absurd done (open_ q found)⟩
      rw [previousOf, empty]
      exact ⟨le_refl 0, le_refl 0⟩

theorem videoKept_same (current : Option LearningProgress) (sound : VideoSound current) : VideoKept current current where
  monotone := le_refl _
  stepwise := Nat.le_add_right _ _
  earned := sound.earned
  kept := fun p found completed => ⟨p, found, completed, sound.percent p found completed, rfl⟩

section Steps

variable (course : Course) (lesson : Lesson) (userId : Uuid)

def HonestCall (db : LearningDb) (r : Request) : Prop :=
  ∀ caller input, r.call = .updateLessonProgress caller lesson.id input → caller.id = userId →
    HonestReport lesson (previousOf (progressOf db userId lesson.id)) input ∧
      KeepsCompletion r.now lesson (progressOf db userId lesson.id) input

def videoOf (db : LearningDb) : Option LearningProgress :=
  progressOf db userId lesson.id

variable (found : (liveLessons course).find? (fun l => l.id = lesson.id) = some lesson) (video : lesson.type = .video)

include found video

theorem videoOf_step (db : LearningDb) (r : Request) :
    videoOf lesson userId (learningStep course db r) = videoOf lesson userId db ∨
      ∃ caller input, r.call = .updateLessonProgress caller lesson.id input ∧ caller.id = userId ∧
        videoOf lesson userId (learningStep course db r) =
          some (writtenRow lesson r.now userId (videoOf lesson userId db) input) := by
  unfold videoOf
  rcases progressOf_move course db r _ (step_move course db r) userId lesson.id with
    same | ⟨caller, updated, input, call, live, own, named, written⟩
  · exact .inl same
  · have same : updated = lesson := by
      rw [named, found] at live
      exact (Option.some.inj live).symm
    subst same
    refine .inr ⟨caller, input, call, own, ?_⟩
    rw [written, calculateProgressValues, if_pos video]
    rfl

theorem video_mark_advances (db : LearningDb) (r : Request)
    (reached : (previousOf (videoOf lesson userId db)).lastPositionSeconds ≤
      (previousOf (videoOf lesson userId db)).maxWatchedSeconds) :
    (previousOf (videoOf lesson userId db)).maxWatchedSeconds ≤
        (previousOf (videoOf lesson userId (learningStep course db r))).maxWatchedSeconds ∧
      (previousOf (videoOf lesson userId (learningStep course db r))).maxWatchedSeconds ≤
        (previousOf (videoOf lesson userId db)).maxWatchedSeconds + 5 := by
  rcases videoOf_step course lesson userId found video db r with same | ⟨caller, input, call, own, written⟩
  · rw [same]
    exact ⟨le_refl _, Nat.le_add_right _ _⟩
  · rw [written]
    have near := video_max_le lesson (previousOf (videoOf lesson userId db)) input
    refine ⟨video_max_ge lesson (previousOf (videoOf lesson userId db)) input, ?_⟩
    show (videoValues lesson (previousOf (videoOf lesson userId db)) input).maxWatchedSeconds ≤ _
    omega

theorem videoSound_step (db : LearningDb) (r : Request) (sound : VideoSound (videoOf lesson userId db))
    (honest : HonestCall lesson userId db r) : VideoSound (videoOf lesson userId (learningStep course db r)) := by
  rcases videoOf_step course lesson userId found video db r with same | ⟨caller, input, call, own, written⟩
  · rw [same]
    exact sound
  · rw [written]
    obtain ⟨report, keeps⟩ := honest caller input call own
    refine ⟨written_row lesson r.now userId _ input sound.row report,
      (written_kept lesson r.now userId _ input sound.row report keeps).earned, ?_⟩
    intro p member completed
    obtain rfl := Option.some.inj member
    exact (video_completed_percent lesson _ input ((video_status lesson _ input).mp completed)).1

theorem videoKept_step (db : LearningDb) (r : Request) (sound : VideoSound (videoOf lesson userId db))
    (honest : HonestCall lesson userId db r) :
    VideoKept (videoOf lesson userId db) (videoOf lesson userId (learningStep course db r)) := by
  rcases videoOf_step course lesson userId found video db r with same | ⟨caller, input, call, own, written⟩
  · rw [same]
    exact videoKept_same _ sound
  · rw [written]
    obtain ⟨report, keeps⟩ := honest caller input call own
    exact written_kept lesson r.now userId _ input sound.row report keeps

end Steps

def CompletionStays (before after : Option LearningProgress) : Prop :=
  ∀ p ∈ before, p.status = .completed → ∃ q ∈ after, q.status = .completed ∧
    videoCompletionThreshold ≤ q.progressPercent ∧ q.completedAt = p.completedAt

theorem completionStays_trans (first second third : Option LearningProgress) (one : CompletionStays first second)
    (two : CompletionStays second third) : CompletionStays first third := by
  intro p found completed
  obtain ⟨q, foundQ, completedQ, _, dateQ⟩ := one p found completed
  obtain ⟨s, foundS, completedS, percentS, dateS⟩ := two q foundQ completedQ
  exact ⟨s, foundS, completedS, percentS, dateS.trans dateQ⟩

/-- Where no report claims more than the positions reached and no completed lesson is reported on anew, the progress of a
learner in a video lesson is monotone along every run. -/
theorem honest_video_progress (course : Course) (lesson : Lesson)
    (found : (liveLessons course).find? (fun l => l.id = lesson.id) = some lesson) (video : lesson.type = .video)
    (userId : Uuid) (db : LearningDb) (unstarted : UnstartedRow (progressOf db userId lesson.id)) (calls : List Request)
    (honest : AllMeet (learningStep course) (HonestCall lesson userId) db calls) :
    AllMeet (learningStep course) (fun s r => VideoKept (videoOf lesson userId s)
      (videoOf lesson userId (learningStep course s r))) db calls ∧
    ∀ first second, calls = first ++ second →
      CompletionStays (videoOf lesson userId (run (learningStep course) db first))
        (videoOf lesson userId (run (learningStep course) db calls)) := by
  have start : VideoSound (videoOf lesson userId db) := videoSound_unstarted _ unstarted
  refine ⟨allMeet_shows (learningStep course) (HonestCall lesson userId) _ (fun s => VideoSound (videoOf lesson userId s))
    (videoSound_step course lesson userId found video) (videoKept_step course lesson userId found video) db calls start honest, ?_⟩
  rintro first second rfl
  obtain ⟨early, late⟩ := (allMeet_append (learningStep course) _ db first second).mp honest
  have sound := run_invariant_meet (learningStep course) (HonestCall lesson userId)
    (fun s => VideoSound (videoOf lesson userId s)) (videoSound_step course lesson userId found video) db first start early
  rw [run_append]
  exact run_relation_meet (learningStep course) (HonestCall lesson userId)
    (fun s t => CompletionStays (videoOf lesson userId s) (videoOf lesson userId t))
    (fun s => VideoSound (videoOf lesson userId s)) (fun s sound => (videoKept_same _ sound).kept)
    (fun s t u => completionStays_trans _ _ _) (videoSound_step course lesson userId found video)
    (fun s r sound meets => (videoKept_step course lesson userId found video s r sound meets).kept) _ second sound late

def sampleVideo : Lesson where
  id := "lesson-1"
  title := "Intro"
  type := .video
  orderIndex := 1
  isRequired := true
  durationMinutes := none
  deleted := false

def sampleVideoCourse : Course where
  id := "course-1"
  title := "Course"
  lessons := [sampleVideo]
  assignments := []
  quizzes := []

def sampleEnrolled : LearningDb where
  progress := []
  submissions := []
  attempts := []
  enrollments := [{ userId := "student-1", courseId := "course-1", status := .active, completedAt := none }]
  certificates := []
  templates := ["template-1"]

def sampleReport (now : Instant) (input : UpdateLessonProgressDto) : Request where
  now := now
  certificateId := "certificate-1"
  call := .updateLessonProgress { id := "student-1", isStudent := true, granted := true } "lesson-1" input

def samplePlayback : List Request :=
  [sampleReport 1 { durationSeconds := some 1000, lastPositionSeconds := some 500 },
   sampleReport 2 { watchedSeconds := some 800, lastPositionSeconds := some 1000 }]

theorem honest_video_playback :
    AllMeet (learningStep sampleVideoCourse) (fun s r => VideoKept (videoOf sampleVideo "student-1" s)
      (videoOf sampleVideo "student-1" (learningStep sampleVideoCourse s r))) sampleEnrolled samplePlayback ∧
    ∀ first second, samplePlayback = first ++ second →
      CompletionStays (videoOf sampleVideo "student-1" (run (learningStep sampleVideoCourse) sampleEnrolled first))
        (videoOf sampleVideo "student-1" (run (learningStep sampleVideoCourse) sampleEnrolled samplePlayback)) := by
  refine honest_video_progress sampleVideoCourse sampleVideo (by decide +kernel) rfl "student-1" sampleEnrolled
    (by intro p found; cases found) samplePlayback ⟨?_, ?_, trivial⟩
  · intro caller input call own
    cases call
    exact ⟨by decide +kernel, by decide +kernel⟩
  · intro caller input call own
    cases call
    exact ⟨by decide +kernel, by decide +kernel⟩

-- One report claims the whole video from its first second, a longer duration takes a completion back, and a later report
-- moves the date of one.
theorem video_progress_skipped :
    ¬ AllMeet (learningStep sampleVideoCourse) (fun s r => VideoKept (videoOf sampleVideo "student-1" s)
        (videoOf sampleVideo "student-1" (learningStep sampleVideoCourse s r))) sampleEnrolled
      [sampleReport 1 { watchedSeconds := some 10000, durationSeconds := some 10000 }] ∧
    ¬ AllMeet (learningStep sampleVideoCourse) (fun s r => VideoKept (videoOf sampleVideo "student-1" s)
        (videoOf sampleVideo "student-1" (learningStep sampleVideoCourse s r))) sampleEnrolled
      (samplePlayback ++ [sampleReport 3 { durationSeconds := some 2000 }]) ∧
    ¬ AllMeet (learningStep sampleVideoCourse) (fun s r => VideoKept (videoOf sampleVideo "student-1" s)
        (videoOf sampleVideo "student-1" (learningStep sampleVideoCourse s r))) sampleEnrolled
      (samplePlayback ++ [sampleReport 3 {}]) := by
  refine ⟨?_, ?_, ?_⟩
  · rintro ⟨first, _⟩
    have unearned := first.earned _ rfl (by decide +kernel)
    revert unearned
    decide +kernel
  · rintro ⟨_, _, third, _⟩
    obtain ⟨q, found, completed, _⟩ := third.kept _ rfl (by decide +kernel)
    obtain rfl := Option.some.inj found
    revert completed
    decide +kernel
  · rintro ⟨_, _, third, _⟩
    obtain ⟨q, found, _, _, date⟩ := third.kept _ rfl (by decide +kernel)
    obtain rfl := Option.some.inj found
    revert date
    decide +kernel

end EduAi.Learning
