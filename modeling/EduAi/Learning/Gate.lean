import EduAi.Learning.VideoProgress

set_option autoImplicit false

namespace EduAi.Learning

open EduAi.Store

theorem before_total (a b : LearningStepCandidate) : before a b ∨ before b a := by
  unfold before
  by_cases position : a.position = b.position
  · by_cases type : typeOrder a.type = typeOrder b.type
    · simp only [position, type, if_true]
      exact le_total a.id b.id
    · simp only [position, if_true, if_neg type, if_neg (Ne.symm type)]
      omega
  · simp only [if_neg position, if_neg (Ne.symm position)]
    omega

theorem before_trans (a b c : LearningStepCandidate) (first : before a b) (second : before b c) : before a c := by
  unfold before at *
  by_cases ab : a.position = b.position
  · by_cases bc : b.position = c.position
    · rw [if_pos ab] at first
      rw [if_pos bc] at second
      rw [if_pos (ab.trans bc)]
      by_cases typeAb : typeOrder a.type = typeOrder b.type
      · by_cases typeBc : typeOrder b.type = typeOrder c.type
        · rw [if_pos typeAb] at first
          rw [if_pos typeBc] at second
          rw [if_pos (typeAb.trans typeBc)]
          exact le_trans first second
        · rw [if_neg typeBc] at second
          rw [typeAb, if_neg typeBc]
          exact second
      · rw [if_neg typeAb] at first
        by_cases typeBc : typeOrder b.type = typeOrder c.type
        · rw [← typeBc, if_neg typeAb]
          exact first
        · rw [if_neg typeBc] at second
          rw [if_neg (by omega)]
          omega
    · rw [if_neg bc] at second
      rw [if_neg (by omega), ab]
      exact second
  · rw [if_neg ab] at first
    by_cases bc : b.position = c.position
    · rw [if_neg (by omega), ← bc]
      exact first
    · rw [if_neg bc] at second
      rw [if_neg (by omega)]
      omega

theorem before_refl (a : LearningStepCandidate) : before a a :=
  (before_total a a).elim id id

instance : Std.Total before := ⟨before_total⟩

instance : IsTrans LearningStepCandidate before := ⟨before_trans⟩

def Earlier (a b : LearningStepCandidate) : Prop :=
  ¬ before b a

structure SamePlace (a b : LearningStepCandidate) : Prop where
  id : a.id = b.id
  type : a.type = b.type
  position : a.position = b.position
  isRequired : a.isRequired = b.isRequired

theorem earlier_same (a b c d : LearningStepCandidate) (left : SamePlace a c) (right : SamePlace b d) (earlier : Earlier a b) :
    Earlier c d := by
  unfold Earlier before at *
  rw [← left.id, ← left.type, ← left.position, ← right.id, ← right.type, ← right.position]
  exact earlier

theorem earlier_in_front (candidates : List LearningStepCandidate) (front back : List LearningStepCandidate)
    (a b : LearningStepCandidate) (split : sortedCandidates candidates = front ++ b :: back) (member : a ∈ candidates)
    (earlier : Earlier a b) : a ∈ front := by
  have sorted : (front ++ b :: back).Pairwise before := by
    rw [← split]
    exact List.pairwise_insertionSort before candidates
  have listed : a ∈ front ++ b :: back := by
    rw [← split]
    exact (List.mem_insertionSort before).mpr member
  rcases List.mem_append.mp listed with inFront | rest
  · exact inFront
  · rcases List.mem_cons.mp rest with rfl | inBack
    · exact absurd (before_refl a) earlier
    · have follows := (List.pairwise_append.mp sorted).2.1
      exact absurd (List.rel_of_pairwise_cons follows inBack) earlier

theorem stepsAfter_open (previousStep : Option LearningStepCandidate) (candidates : List LearningStepCandidate)
    (step : LearningStep) (member : step ∈ stepsAfter previousStep candidates) (open_ : step.status ≠ .locked)
    (incomplete : step.candidate.completed = false) :
    previousStep = none ∧ ∃ front back, candidates = front ++ step.candidate :: back ∧
      ∀ a ∈ front, a.isRequired = true → a.completed = true := by
  induction candidates generalizing previousStep with
  | nil => cases member
  | cons candidate rest ih =>
      unfold stepsAfter at member
      rcases List.mem_cons.mp member with rfl | later
      · cases previousStep with
        | none =>
            refine ⟨rfl, [], rest, ?_, by simp⟩
            unfold stepOf
            split <;> rfl
        | some previous =>
            unfold stepOf at open_ incomplete
            by_cases done : candidate.completed = true
            · rw [if_pos done] at incomplete
              rw [done] at incomplete
              cases incomplete
            · rw [if_neg done] at open_
              exact absurd rfl open_
      · obtain ⟨unset, front, back, split, complete⟩ := ih _ later
        by_cases first : previousStep.isNone = true ∧ candidate.isRequired = true ∧ ¬ candidate.completed = true
        · rw [if_pos first] at unset
          cases unset
        · rw [if_neg first] at unset
          refine ⟨unset, candidate :: front, back, by rw [split, List.cons_append], ?_⟩
          intro a inFront required
          rcases List.mem_cons.mp inFront with rfl | deeper
          · by_contra open_
            exact first ⟨by rw [unset]; rfl, required, open_⟩
          · exact complete a deeper required

theorem stepOf_candidate (previousStep : Option LearningStepCandidate) (candidate : LearningStepCandidate) :
    (stepOf previousStep candidate).candidate = candidate := by
  unfold stepOf
  split
  · rfl
  · split <;> rfl

theorem stepsAfter_candidate (previousStep : Option LearningStepCandidate) (candidates : List LearningStepCandidate)
    (step : LearningStep) (member : step ∈ stepsAfter previousStep candidates) : step.candidate ∈ candidates := by
  induction candidates generalizing previousStep with
  | nil => cases member
  | cons candidate rest ih =>
      unfold stepsAfter at member
      rcases List.mem_cons.mp member with rfl | later
      · rw [stepOf_candidate]
        exact List.mem_cons_self
      · exact List.mem_cons_of_mem _ (ih _ later)

section Done

variable (course : Course) (db : LearningDb) (userId : Uuid)

def stepDone (type : LearningStepType) (id : Uuid) : Bool :=
  match type with
  | .lesson => ((progressOf db userId id).map (fun p => decide (p.status = .completed))).getD false
  | .assignment => submitted db userId id
  | .quiz => passedQuiz db userId id

theorem mem_candidatesOf (c : LearningStepCandidate) : c ∈ candidatesOf course db userId ↔
    (∃ l ∈ liveLessons course, lessonCandidate db userId l = c) ∨
    (∃ a ∈ liveAssignments course, assignmentCandidate course db userId a = c) ∨
    ∃ q ∈ liveQuizzes course, quizCandidate course db userId q = c := by
  simp only [candidatesOf, List.mem_append, List.mem_map, or_assoc]

theorem candidate_done (c : LearningStepCandidate) (member : c ∈ candidatesOf course db userId) :
    c.completed = stepDone db userId c.type c.id := by
  rcases (mem_candidatesOf course db userId c).mp member with ⟨l, _, rfl⟩ | ⟨a, _, rfl⟩ | ⟨q, _, rfl⟩
  · rfl
  · rfl
  · rfl

theorem candidate_elsewhere (t : LearningDb) (c : LearningStepCandidate) (member : c ∈ candidatesOf course db userId) :
    ∃ c' ∈ candidatesOf course t userId, SamePlace c c' := by
  rcases (mem_candidatesOf course db userId c).mp member with ⟨l, live, rfl⟩ | ⟨a, live, rfl⟩ | ⟨q, live, rfl⟩
  · exact ⟨_, (mem_candidatesOf course t userId _).mpr (.inl ⟨l, live, rfl⟩), rfl, rfl, rfl, rfl⟩
  · exact ⟨_, (mem_candidatesOf course t userId _).mpr (.inr (.inl ⟨a, live, rfl⟩)), rfl, rfl, rfl, rfl⟩
  · exact ⟨_, (mem_candidatesOf course t userId _).mpr (.inr (.inr ⟨q, live, rfl⟩)), rfl, rfl, rfl, rfl⟩

structure CourseKeys : Prop where
  lessons : UniqueKey (fun l => some l.id) course.lessons
  assignments : UniqueKey (fun a => some a.id) course.assignments
  quizzes : UniqueKey (fun q => some q.id) course.quizzes

theorem candidate_unique (keys : CourseKeys course) (a b : LearningStepCandidate) (memberA : a ∈ candidatesOf course db userId)
    (memberB : b ∈ candidatesOf course db userId) (type : a.type = b.type) (id : a.id = b.id) : a = b := by
  rcases (mem_candidatesOf course db userId a).mp memberA with ⟨l, live, rfl⟩ | ⟨x, live, rfl⟩ | ⟨q, live, rfl⟩ <;>
    rcases (mem_candidatesOf course db userId b).mp memberB with ⟨l', live', rfl⟩ | ⟨x', live', rfl⟩ | ⟨q', live', rfl⟩ <;>
    try cases type
  · have same : l.id = l'.id := id
    rw [unique_eq _ _ keys.lessons l l' l.id (List.mem_of_mem_filter live) (List.mem_of_mem_filter live') rfl (by rw [same])]
  · have same : x.id = x'.id := id
    rw [unique_eq _ _ keys.assignments x x' x.id (List.mem_of_mem_filter live) (List.mem_of_mem_filter live') rfl (by rw [same])]
  · have same : q.id = q'.id := id
    rw [unique_eq _ _ keys.quizzes q q' q.id (List.mem_of_mem_filter live) (List.mem_of_mem_filter live') rfl (by rw [same])]

def Gated : Prop :=
  ∀ a ∈ candidatesOf course db userId, ∀ b ∈ candidatesOf course db userId, Earlier a b →
    b.completed = true → a.isRequired = true → a.completed = true

instance : DecidableRel Earlier := fun a b => by
  unfold Earlier
  infer_instance

instance : Decidable (Gated course db userId) := by
  unfold Gated
  infer_instance

theorem accessible_open (id : Uuid) (type : LearningStepType) (open_ : accessible course db userId id type = true)
    (incomplete : stepDone db userId type id = false) :
    ∃ b ∈ candidatesOf course db userId, b.id = id ∧ b.type = type ∧
      ∀ a ∈ candidatesOf course db userId, Earlier a b → a.isRequired = true → a.completed = true := by
  unfold accessible at open_
  cases found : (learningPath course db userId).steps.find? (fun s => s.candidate.id = id ∧ s.candidate.type = type) with
  | none =>
      rw [found] at open_
      cases open_
  | some step =>
      rw [found] at open_
      obtain ⟨member, named⟩ := find_some _ _ step found
      obtain ⟨sameId, sameType⟩ : step.candidate.id = id ∧ step.candidate.type = type := of_decide_eq_true named
      have listed : step.candidate ∈ candidatesOf course db userId :=
        (List.mem_insertionSort before).mp (stepsAfter_candidate none _ step member)
      have undone : step.candidate.completed = false := by
        rw [candidate_done course db userId _ listed, sameType, sameId]
        exact incomplete
      obtain ⟨_, front, back, split, complete⟩ := stepsAfter_open none _ step member (of_decide_eq_true open_) undone
      refine ⟨step.candidate, listed, sameId, sameType, ?_⟩
      intro a memberA earlier required
      exact complete a (earlier_in_front _ front back a step.candidate split memberA earlier) required

def Needed (type : LearningStepType) (id : Uuid) : Prop :=
  ∃ a ∈ candidatesOf course db userId, a.type = type ∧ a.id = id ∧ a.isRequired = true ∧
    ∃ b ∈ candidatesOf course db userId, Earlier a b ∧ b.completed = true

instance (type : LearningStepType) (id : Uuid) : Decidable (Needed course db userId type id) := by
  unfold Needed
  infer_instance

theorem gated_write (keys : CourseKeys course) (t : LearningDb) (type : LearningStepType) (id : Uuid)
    (gated : Gated course db userId)
    (others : ∀ type' id', ¬ (type' = type ∧ id' = id) → stepDone t userId type' id' = stepDone db userId type' id')
    (opened : stepDone t userId type id = true →
      stepDone db userId type id = true ∨ accessible course db userId id type = true)
    (kept : stepDone db userId type id = true → stepDone t userId type id = false → ¬ Needed course db userId type id) :
    Gated course t userId := by
  intro a memberA b memberB earlier doneB required
  obtain ⟨a', memberA', placeA⟩ := candidate_elsewhere course t userId db a memberA
  obtain ⟨b', memberB', placeB⟩ := candidate_elsewhere course t userId db b memberB
  have earlier' := earlier_same a b a' b' placeA placeB earlier
  have required' : a'.isRequired = true := by
    rw [← placeA.isRequired]
    exact required
  have before_ (doneB' : b'.completed = true) : stepDone db userId a.type a.id = true := by
    have doneA' := gated a' memberA' b' memberB' earlier' doneB' required'
    rw [candidate_done course db userId a' memberA', ← placeA.type, ← placeA.id] at doneA'
    exact doneA'
  rw [candidate_done course t userId b memberB] at doneB
  rw [candidate_done course t userId a memberA]
  by_cases writtenB : b.type = type ∧ b.id = id
  · have apart : ¬ (a.type = type ∧ a.id = id) := by
      rintro ⟨sameType, sameId⟩
      have same : a = b := candidate_unique course t userId keys a b memberA memberB
        (sameType.trans writtenB.1.symm) (sameId.trans writtenB.2.symm)
      rw [same] at earlier
      exact earlier (before_refl b)
    rw [others a.type a.id apart]
    cases already : stepDone db userId type id with
    | true =>
        apply before_
        rw [candidate_done course db userId b' memberB', ← placeB.type, ← placeB.id, writtenB.1, writtenB.2]
        exact already
    | false =>
        rw [writtenB.1, writtenB.2] at doneB
        rcases opened doneB with done | open_
        · rw [already] at done
          cases done
        · obtain ⟨b'', memberB'', sameId, sameType, complete⟩ := accessible_open course db userId id type open_ already
          have same : b'' = b' := candidate_unique course db userId keys b'' b' memberB'' memberB'
            (by rw [sameType, ← placeB.type, writtenB.1]) (by rw [sameId, ← placeB.id, writtenB.2])
          rw [same] at complete
          have doneA' := complete a' memberA' earlier' required'
          rw [candidate_done course db userId a' memberA', ← placeA.type, ← placeA.id] at doneA'
          exact doneA'
  · rw [others b.type b.id writtenB] at doneB
    have doneB' : b'.completed = true := by
      rw [candidate_done course db userId b' memberB', ← placeB.type, ← placeB.id]
      exact doneB
    have doneA := before_ doneB'
    by_cases writtenA : a.type = type ∧ a.id = id
    · rw [writtenA.1, writtenA.2] at doneA ⊢
      by_contra lost
      refine kept doneA (by simpa using lost) ⟨a', memberA', ?_, ?_, required', b', memberB', earlier', doneB'⟩
      · rw [← placeA.type, writtenA.1]
      · rw [← placeA.id, writtenA.2]
    · rw [others a.type a.id writtenA]
      exact doneA

end Done

def reachesThreshold (lesson : Lesson) (previous : PreviousValues) (input : UpdateLessonProgressDto) : Prop :=
  if lesson.type = .video then
    let duration := durationInForce lesson previous input
    videoCompletionThreshold ≤ roundedPercent (watchMark duration previous input) duration
  else
    videoCompletionThreshold ≤
      max previous.documentProgressPercent (input.documentProgressPercent.getD previous.documentProgressPercent)

instance (lesson : Lesson) (previous : PreviousValues) (input : UpdateLessonProgressDto) :
    Decidable (reachesThreshold lesson previous input) := by
  unfold reachesThreshold
  infer_instance

theorem calculated_completed (lesson : Lesson) (current : Option LearningProgress) (input : UpdateLessonProgressDto) :
    (calculateProgressValues lesson current input).status = .completed ↔
      reachesThreshold lesson (previousOf current) input := by
  unfold calculateProgressValues reachesThreshold
  by_cases video : lesson.type = .video
  · rw [if_pos video, if_pos video, video_status]
    exact video_completed lesson (previousOf current) input
  · rw [if_neg video, if_neg video]
    simp only [documentValues, statusOf_completed, decide_eq_true_eq]
    unfold videoCompletionThreshold
    omega

section Writes

variable (course : Course) (userId : Uuid)

-- An update that reaches the threshold is made where the lesson is accessible, one that falls short takes no completion
-- away that a later step rests on.
def SequentialCall (db : LearningDb) (r : Request) : Prop :=
  match r.call with
  | .updateLessonProgress caller lessonId input =>
      caller.id = userId → ∀ lesson ∈ liveLessons course, lesson.id = lessonId →
        (reachesThreshold lesson (previousOf (progressOf db userId lesson.id)) input →
          accessible course db userId lesson.id .lesson = true) ∧
        (¬ reachesThreshold lesson (previousOf (progressOf db userId lesson.id)) input →
          stepDone db userId .lesson lesson.id = true → ¬ Needed course db userId .lesson lesson.id)
  | _ => True

instance (db : LearningDb) (r : Request) : Decidable (SequentialCall course userId db r) := by
  unfold SequentialCall
  split <;> infer_instance

variable (db t : LearningDb)

theorem stepDone_synced (now : Instant) (certificateId caller : Uuid) (synced : Synced course now certificateId caller db t)
    (type : LearningStepType) (id : Uuid) : stepDone t userId type id = stepDone db userId type id := by
  obtain ⟨progress, submissions, attempts⟩ := synced_apart course now certificateId caller db t synced
  unfold stepDone progressOf submitted passedQuiz
  rw [progress, submissions, attempts]

theorem stepDone_upsert (row : LearningProgress) (type : LearningStepType) (id : Uuid)
    (apart : ¬ (row.userId = userId ∧ type = .lesson ∧ id = row.lessonId)) :
    stepDone (upsertProgress row db) userId type id = stepDone db userId type id := by
  have submissions : (upsertProgress row db).submissions = db.submissions := by
    unfold upsertProgress
    split <;> rfl
  have attempts : (upsertProgress row db).attempts = db.attempts := by
    unfold upsertProgress
    split <;> rfl
  cases type with
  | lesson =>
      have elsewhere : ¬ (row.userId = userId ∧ row.lessonId = id) := fun same => apart ⟨same.1, rfl, same.2.symm⟩
      unfold stepDone
      rw [progressOf_upsert, if_neg elsewhere]
  | assignment =>
      unfold stepDone submitted
      rw [submissions]
  | quiz =>
      unfold stepDone passedQuiz
      rw [attempts]

theorem stepDone_attempt (row : QuizAttempt) (type : LearningStepType) (id : Uuid)
    (apart : ¬ (row.userId = userId ∧ type = .quiz ∧ id = row.quizId)) :
    stepDone (createAttempt row db) userId type id = stepDone db userId type id := by
  cases type with
  | lesson => rfl
  | assignment => rfl
  | quiz =>
      have elsewhere : ¬ (row.userId = userId ∧ row.quizId = id) := fun same => apart ⟨same.1, rfl, same.2.symm⟩
      simp only [stepDone, passedQuiz, createAttempt, List.any_append, List.any_cons, List.any_nil, Bool.or_false]
      rw [Bool.or_eq_left_iff_imp]
      intro passed
      exact absurd ⟨(of_decide_eq_true passed).1, (of_decide_eq_true passed).2.1⟩ elsewhere

theorem stepDone_submission (row : Submission) (type : LearningStepType) (id : Uuid)
    (apart : ¬ (row.userId = userId ∧ type = .assignment ∧ id = row.assignmentId)) :
    stepDone (createSubmission row db) userId type id = stepDone db userId type id := by
  cases type with
  | lesson => rfl
  | quiz => rfl
  | assignment =>
      have elsewhere : ¬ (row.userId = userId ∧ row.assignmentId = id) := fun same => apart ⟨same.1, rfl, same.2.symm⟩
      simp only [stepDone, submitted, createSubmission, List.any_append, List.any_cons, List.any_nil, Bool.or_false]
      rw [Bool.or_eq_left_iff_imp]
      intro given
      exact absurd (of_decide_eq_true given) elsewhere

theorem stepDone_attempt_kept (row : QuizAttempt) (type : LearningStepType) (id : Uuid)
    (done : stepDone db userId type id = true) : stepDone (createAttempt row db) userId type id = true := by
  cases type with
  | lesson => exact done
  | assignment => exact done
  | quiz =>
      simp only [stepDone, passedQuiz, createAttempt, List.any_append, Bool.or_eq_true] at done ⊢
      exact .inl done

theorem stepDone_submission_kept (row : Submission) (type : LearningStepType) (id : Uuid)
    (done : stepDone db userId type id = true) : stepDone (createSubmission row db) userId type id = true := by
  cases type with
  | lesson => exact done
  | quiz => exact done
  | assignment =>
      simp only [stepDone, submitted, createSubmission, List.any_append, Bool.or_eq_true] at done ⊢
      exact .inl done

theorem stepDone_upserted (row : LearningProgress) (own : row.userId = userId) :
    stepDone (upsertProgress row db) userId .lesson row.lessonId = decide (row.status = .completed) := by
  unfold stepDone
  rw [progressOf_upsert, if_pos ⟨own, rfl⟩]
  rfl

theorem gated_congr (gated : Gated course db userId)
    (same : ∀ type id, stepDone t userId type id = stepDone db userId type id) : Gated course t userId := by
  intro a memberA b memberB earlier doneB required
  obtain ⟨a', memberA', placeA⟩ := candidate_elsewhere course t userId db a memberA
  obtain ⟨b', memberB', placeB⟩ := candidate_elsewhere course t userId db b memberB
  rw [candidate_done course t userId b memberB, same, placeB.type, placeB.id, ← candidate_done course db userId b' memberB'] at doneB
  rw [placeA.isRequired] at required
  rw [candidate_done course t userId a memberA, same, placeA.type, placeA.id, ← candidate_done course db userId a' memberA']
  exact gated a' memberA' b' memberB' (earlier_same a b a' b' placeA placeB earlier) doneB required

theorem gated_move (keys : CourseKeys course) (r : Request) (gated : Gated course db userId)
    (sequential : SequentialCall course userId db r) (move : LearningMove course r db t) : Gated course t userId := by
  cases move with
  | rejected => exact gated
  | issued caller templateId call enrollment enrolled completed absent fresh =>
      exact gated_congr course userId db _ gated (fun type id => rfl)
  | revoked certificateId reason call certificate found active =>
      exact gated_congr course userId db _ gated (fun type id => rfl)
  | lessonUpdated caller lesson input t call found synced =>
      refine gated_congr course userId _ t ?_ (stepDone_synced course userId _ t r.now r.certificateId caller.id synced)
      by_cases own : caller.id = userId
      · subst own
        have live := (find_some _ _ lesson found).1
        unfold SequentialCall at sequential
        rw [call] at sequential
        obtain ⟨reaches, falls⟩ := sequential rfl lesson live rfl
        have written := stepDone_upserted caller.id db
          ((calculateProgressValues lesson (progressOf db caller.id lesson.id) input).row r.now caller.id lesson.id) rfl
        have completed := calculated_completed lesson (progressOf db caller.id lesson.id) input
        refine gated_write course db caller.id keys _ .lesson lesson.id gated ?_ ?_ ?_
        · intro type id apart
          exact stepDone_upsert caller.id db _ type id (fun same => apart same.2)
        · intro done
          exact .inr (reaches (completed.mp (of_decide_eq_true (written.symm.trans done))))
        · intro done lost
          refine falls (fun reached => ?_) done
          exact absurd (completed.mpr reached) (of_decide_eq_false (written.symm.trans lost))
      · refine gated_congr course userId db _ gated (fun type id => ?_)
        exact stepDone_upsert userId db _ type id (fun same => own same.1)
  | attempted caller quiz passed t live call open_ synced =>
      refine gated_congr course userId _ t ?_ (stepDone_synced course userId _ t r.now r.certificateId caller.id synced)
      by_cases own : caller.id = userId
      · subst own
        refine gated_write course db caller.id keys _ .quiz quiz.id gated ?_ (fun _ => .inr open_) ?_
        · intro type id apart
          exact stepDone_attempt caller.id db _ type id (fun same => apart same.2)
        · intro done lost
          rw [stepDone_attempt_kept caller.id db _ .quiz quiz.id done] at lost
          cases lost
      · refine gated_congr course userId db _ gated (fun type id => ?_)
        exact stepDone_attempt userId db _ type id (fun same => own same.1)
  | submitted caller assignment version t live call open_ synced =>
      refine gated_congr course userId _ t ?_ (stepDone_synced course userId _ t r.now r.certificateId caller.id synced)
      by_cases own : caller.id = userId
      · subst own
        refine gated_write course db caller.id keys _ .assignment assignment.id gated ?_ (fun _ => .inr open_) ?_
        · intro type id apart
          exact stepDone_submission caller.id db _ type id (fun same => apart same.2)
        · intro done lost
          rw [stepDone_submission_kept caller.id db _ .assignment assignment.id done] at lost
          cases lost
      · refine gated_congr course userId db _ gated (fun type id => ?_)
        exact stepDone_submission userId db _ type id (fun same => own same.1)

end Writes

def Unstarted (course : Course) (db : LearningDb) (userId : Uuid) : Prop :=
  ∀ c ∈ candidatesOf course db userId, c.completed = false

instance (course : Course) (db : LearningDb) (userId : Uuid) : Decidable (Unstarted course db userId) := by
  unfold Unstarted
  infer_instance

theorem gated_unstarted (course : Course) (db : LearningDb) (userId : Uuid) (unstarted : Unstarted course db userId) :
    Gated course db userId := by
  intro a _ b memberB _ done _
  rw [unstarted b memberB] at done
  cases done

/-- Where the lesson updates keep to the order that the other two services enforce, every state a learner reaches does. -/
theorem sequential_gate (course : Course) (keys : CourseKeys course) (userId : Uuid) (db : LearningDb)
    (unstarted : Unstarted course db userId) (calls : List Request)
    (sequential : AllMeet (learningStep course) (SequentialCall course userId) db calls) :
    Gated course (run (learningStep course) db calls) userId :=
  run_invariant_meet (learningStep course) (SequentialCall course userId) (fun s => Gated course s userId)
    (fun s r gated meets => gated_move course userId s _ keys r gated meets (step_move course s r)) db calls
    (gated_unstarted course db userId unstarted) sequential

def sampleDocument (id : Uuid) (orderIndex : Int) : Lesson where
  id := id
  title := id
  type := .pdf
  orderIndex := orderIndex
  isRequired := true
  durationMinutes := none
  deleted := false

def sampleOrderedCourse : Course where
  id := "course-1"
  title := "Course"
  lessons := [sampleDocument "lesson-2" 2, sampleDocument "lesson-1" 1]
  assignments := []
  quizzes := [{ id := "quiz-1", title := "Quiz", lessonId := some "lesson-2", isRequired := true, published := true,
                deleted := false, maxAttempts := some 3 }]

def sampleRead (now : Instant) (lessonId : Uuid) : Request where
  now := now
  certificateId := "certificate-1"
  call := .updateLessonProgress { id := "student-1", isStudent := true, granted := true } lessonId
    { documentProgressPercent := some 100 }

def sampleQuizPassed : Request where
  now := 9
  certificateId := "certificate-1"
  call := .submitAttempt { id := "student-1", isStudent := true, granted := true } "quiz-1" (some true)

theorem sequential_gate_in_order : Gated sampleOrderedCourse
    (run (learningStep sampleOrderedCourse) sampleEnrolled
      [sampleRead 1 "lesson-1", sampleRead 2 "lesson-2", sampleQuizPassed]) "student-1" := by
  have keys : CourseKeys sampleOrderedCourse :=
    ⟨by unfold UniqueKey; decide, by unfold UniqueKey; decide, by unfold UniqueKey; decide⟩
  refine sequential_gate sampleOrderedCourse keys "student-1" sampleEnrolled (by decide +kernel) _ ⟨?_, ?_, ?_, trivial⟩
  · decide +kernel
  · decide +kernel
  · trivial

-- The second lesson is completed while the first one is untouched: the update of lesson progress asks for no access to the step.
theorem locked_lesson_completed : ¬ ∀ calls : List Request,
    Gated sampleOrderedCourse (run (learningStep sampleOrderedCourse) sampleEnrolled calls) "student-1" := by
  intro gated
  have skipped := gated [sampleRead 1 "lesson-2"]
  revert skipped
  decide +kernel

end EduAi.Learning
