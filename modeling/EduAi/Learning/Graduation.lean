import EduAi.Learning.Interleaving

set_option autoImplicit false

namespace EduAi.Learning

open EduAi.Store

structure RequirementsMet (course : Course) (db : LearningDb) (userId : Uuid) : Prop where
  required : 0 < (completionCounts course db userId).totalRequiredItems
  lessons : ∀ l ∈ requiredLessons course, lessonCompleted db userId l = true
  quizzes : ∀ q ∈ requiredQuizzes course, quizCompleted db userId q = true
  assignments : ∀ a ∈ requiredAssignments course, assignmentCompleted db userId a = true

theorem all_counted {α : Type} (p : α → Bool) (rows : List α) : (rows.filter p).length = rows.length ↔ ∀ r ∈ rows, p r = true := by
  rw [← List.filter_eq_self]
  constructor
  · intro counted
    exact List.Sublist.eq_of_length List.filter_sublist counted
  · intro same
    rw [same]

theorem policyComplete_iff (course : Course) (db : LearningDb) (userId : Uuid) :
    (completionCounts course db userId).policyComplete = true ↔ RequirementsMet course db userId := by
  have lessons := List.length_filter_le (lessonCompleted db userId) (requiredLessons course)
  have quizzes := List.length_filter_le (quizCompleted db userId) (requiredQuizzes course)
  have assignments := List.length_filter_le (assignmentCompleted db userId) (requiredAssignments course)
  simp only [CompletionCounts.policyComplete, decide_eq_true_eq]
  constructor
  · rintro ⟨required, counted⟩
    simp only [completionCounts] at counted
    exact ⟨required, (all_counted _ _).mp (by omega), (all_counted _ _).mp (by omega), (all_counted _ _).mp (by omega)⟩
  · intro met
    refine ⟨met.required, ?_⟩
    simp only [completionCounts]
    rw [(all_counted _ _).mpr met.lessons, (all_counted _ _).mpr met.quizzes, (all_counted _ _).mpr met.assignments]

def progressKey (p : LearningProgress) : Option (Uuid × Uuid) :=
  some (p.userId, p.lessonId)

structure LearningKeys (db : LearningDb) : Prop where
  progress : UniqueKey progressKey db.progress
  certificates : UniqueKey activeKey db.certificates

section Agreement

variable (course : Course) (db : LearningDb) (userId : Uuid)

theorem lessonCompleted_done (keys : LearningKeys db) (l : Lesson) :
    lessonCompleted db userId l = stepDone db userId .lesson l.id := by
  unfold lessonCompleted stepDone progressOf
  cases found : db.progress.find? (fun p => p.userId = userId ∧ p.lessonId = l.id) with
  | none =>
      rw [List.any_eq_false.mpr]
      · rfl
      · intro p member completed
        have absent := find_none _ _ found p member
        obtain ⟨lesson, user, _⟩ := of_decide_eq_true completed
        simp [lesson, user] at absent
  | some p =>
      obtain ⟨member, selected⟩ := find_some _ _ p found
      obtain ⟨user, lesson⟩ : p.userId = userId ∧ p.lessonId = l.id := of_decide_eq_true selected
      rw [Option.map_some, Option.getD_some, Bool.eq_iff_iff, List.any_eq_true]
      simp only [decide_eq_true_eq]
      constructor
      · rintro ⟨q, memberQ, lessonQ, userQ, completed⟩
        have same : q = p := unique_eq progressKey db.progress keys.progress q p (userId, l.id) memberQ member
          (by rw [progressKey, lessonQ, userQ]) (by rw [progressKey, user, lesson])
        rw [← same]
        exact completed
      · intro completed
        exact ⟨p, member, lesson, user, completed⟩

theorem quizCompleted_done (q : Quiz) : quizCompleted db userId q = stepDone db userId .quiz q.id := by
  simp only [quizCompleted, stepDone, passedQuiz]
  congr 1
  funext a
  simp only [decide_eq_decide]
  tauto

theorem assignmentCompleted_done (a : Assignment) : assignmentCompleted db userId a = stepDone db userId .assignment a.id := by
  simp only [assignmentCompleted, stepDone, submitted]
  congr 1
  funext s
  simp only [decide_eq_decide]
  tauto

theorem stepOf_completed (previousStep : Option LearningStepCandidate) (candidate : LearningStepCandidate) :
    (stepOf previousStep candidate).status = .completed ↔ candidate.completed = true := by
  unfold stepOf
  by_cases done : candidate.completed = true
  · simp [done]
  · rw [if_neg done]
    cases previousStep with
    | some previous => simp [done]
    | none =>
        by_cases begun : candidate.inProgress = true
        · simp [done, begun]
        · simp [done, begun]

theorem stepsAfter_map (previousStep : Option LearningStepCandidate) (candidates : List LearningStepCandidate) :
    (stepsAfter previousStep candidates).map (·.candidate) = candidates := by
  induction candidates generalizing previousStep with
  | nil => rfl
  | cons candidate rest ih =>
      rw [stepsAfter, List.map_cons, stepOf_candidate, ih]

theorem stepsAfter_completed (previousStep : Option LearningStepCandidate) (candidates : List LearningStepCandidate)
    (step : LearningStep) (member : step ∈ stepsAfter previousStep candidates) :
    step.status = .completed ↔ step.candidate.completed = true := by
  induction candidates generalizing previousStep with
  | nil => cases member
  | cons candidate rest ih =>
      rw [stepsAfter] at member
      rcases List.mem_cons.mp member with rfl | later
      · rw [stepOf_completed, stepOf_candidate]
      · exact ih _ later

theorem step_of_candidate (candidates : List LearningStepCandidate) (c : LearningStepCandidate) :
    (∃ step ∈ buildLearningPathSteps candidates, step.candidate = c) ↔ c ∈ candidates := by
  rw [← List.mem_insertionSort before, ← sortedCandidates, ← stepsAfter_map none (sortedCandidates candidates), List.mem_map,
    buildLearningPathSteps]

theorem path_completed_iff : (learningPath course db userId).progress.completed = true ↔
    (∃ c ∈ candidatesOf course db userId, c.isRequired = true) ∧
      ∀ c ∈ candidatesOf course db userId, c.isRequired = true → c.completed = true := by
  simp only [learningPath, calculateLearningPathProgress, decide_eq_true_eq, all_counted, List.length_pos_iff_exists_mem,
    List.mem_filter]
  constructor
  · rintro ⟨⟨step, member, required⟩, all⟩
    refine ⟨⟨step.candidate, (step_of_candidate _ _).mp ⟨step, member, rfl⟩, required⟩, ?_⟩
    intro c memberC requiredC
    obtain ⟨stepC, listed, rfl⟩ := (step_of_candidate _ c).mpr memberC
    exact (stepsAfter_completed none _ stepC listed).mp (all stepC ⟨listed, requiredC⟩)
  · rintro ⟨⟨c, memberC, requiredC⟩, all⟩
    obtain ⟨step, member, rfl⟩ := (step_of_candidate _ c).mpr memberC
    refine ⟨⟨step, member, requiredC⟩, ?_⟩
    rintro s ⟨listed, required⟩
    exact (stepsAfter_completed none _ s listed).mpr (all s.candidate ((step_of_candidate _ _).mp ⟨s, listed, rfl⟩) required)

theorem mem_requiredLessons (l : Lesson) : l ∈ requiredLessons course ↔ l ∈ liveLessons course ∧ l.isRequired = true := by
  simp only [requiredLessons, liveLessons, List.mem_filter, Bool.and_eq_true, and_assoc]

theorem mem_requiredQuizzes (q : Quiz) : q ∈ requiredQuizzes course ↔ q ∈ liveQuizzes course ∧ q.isRequired = true := by
  simp only [requiredQuizzes, liveQuizzes, List.mem_filter, Bool.and_eq_true]
  tauto

theorem mem_requiredAssignments (a : Assignment) :
    a ∈ requiredAssignments course ↔ a ∈ liveAssignments course ∧ a.isRequired = true := by
  simp only [requiredAssignments, liveAssignments, List.mem_filter, Bool.and_eq_true]
  tauto

theorem path_agrees (keys : LearningKeys db) :
    (learningPath course db userId).progress.completed = (completionCounts course db userId).policyComplete := by
  rw [Bool.eq_iff_iff, path_completed_iff, policyComplete_iff]
  constructor
  · rintro ⟨⟨c, member, required⟩, all⟩
    refine ⟨?_, ?_, ?_, ?_⟩
    · simp only [completionCounts]
      rcases (mem_candidatesOf course db userId c).mp member with ⟨l, live, rfl⟩ | ⟨a, live, rfl⟩ | ⟨q, live, rfl⟩
      · have := List.length_pos_of_mem ((mem_requiredLessons course l).mpr ⟨live, required⟩)
        omega
      · have := List.length_pos_of_mem ((mem_requiredAssignments course a).mpr ⟨live, required⟩)
        omega
      · have := List.length_pos_of_mem ((mem_requiredQuizzes course q).mpr ⟨live, required⟩)
        omega
    · intro l member
      obtain ⟨live, required⟩ := (mem_requiredLessons course l).mp member
      rw [lessonCompleted_done db userId keys l]
      exact all _ ((mem_candidatesOf course db userId _).mpr (.inl ⟨l, live, rfl⟩)) required
    · intro q member
      obtain ⟨live, required⟩ := (mem_requiredQuizzes course q).mp member
      rw [quizCompleted_done db userId q]
      exact all _ ((mem_candidatesOf course db userId _).mpr (.inr (.inr ⟨q, live, rfl⟩))) required
    · intro a member
      obtain ⟨live, required⟩ := (mem_requiredAssignments course a).mp member
      rw [assignmentCompleted_done db userId a]
      exact all _ ((mem_candidatesOf course db userId _).mpr (.inr (.inl ⟨a, live, rfl⟩))) required
  · intro met
    constructor
    · have some := met.required
      simp only [completionCounts] at some
      by_cases lessons : 0 < (requiredLessons course).length
      · obtain ⟨l, member⟩ := List.length_pos_iff_exists_mem.mp lessons
        obtain ⟨live, required⟩ := (mem_requiredLessons course l).mp member
        exact ⟨_, (mem_candidatesOf course db userId _).mpr (.inl ⟨l, live, rfl⟩), required⟩
      · by_cases quizzes : 0 < (requiredQuizzes course).length
        · obtain ⟨q, member⟩ := List.length_pos_iff_exists_mem.mp quizzes
          obtain ⟨live, required⟩ := (mem_requiredQuizzes course q).mp member
          exact ⟨_, (mem_candidatesOf course db userId _).mpr (.inr (.inr ⟨q, live, rfl⟩)), required⟩
        · obtain ⟨a, member⟩ := List.length_pos_iff_exists_mem.mp (show 0 < (requiredAssignments course).length by omega)
          obtain ⟨live, required⟩ := (mem_requiredAssignments course a).mp member
          exact ⟨_, (mem_candidatesOf course db userId _).mpr (.inr (.inl ⟨a, live, rfl⟩)), required⟩
    · intro c member required
      rcases (mem_candidatesOf course db userId c).mp member with ⟨l, live, rfl⟩ | ⟨a, live, rfl⟩ | ⟨q, live, rfl⟩
      · have done := met.lessons l ((mem_requiredLessons course l).mpr ⟨live, required⟩)
        rw [lessonCompleted_done db userId keys l] at done
        exact done
      · have done := met.assignments a ((mem_requiredAssignments course a).mpr ⟨live, required⟩)
        rw [assignmentCompleted_done db userId a] at done
        exact done
      · have done := met.quizzes q ((mem_requiredQuizzes course q).mpr ⟨live, required⟩)
        rw [quizCompleted_done db userId q] at done
        exact done

end Agreement

def activeFor (userId courseId : Uuid) (c : Certificate) : Bool :=
  c.userId = userId ∧ c.courseId = courseId ∧ c.status = .active

structure Graduated (course : Course) (userId : Uuid) (db : LearningDb) : Prop where
  completed : ∃ e, enrollmentOf db userId course.id = some e ∧ e.status = .completed ∧ e.completedAt.isSome
  certified : (db.certificates.filter (activeFor userId course.id)).length = 1

def EnrollmentMoves (course : Course) (userId : Uuid) (s t : LearningDb) : Prop :=
  ∀ e, enrollmentOf s userId course.id = some e → ∃ e', enrollmentOf t userId course.id = some e' ∧
    (e' = e ∨ e.status = .active ∧ e'.status = .completed ∧ e'.completedAt.isSome)

theorem enrollmentMoves_refl (course : Course) (userId : Uuid) (s : LearningDb) : EnrollmentMoves course userId s s :=
  fun e found => ⟨e, found, .inl rfl⟩

theorem enrollmentMoves_trans (course : Course) (userId : Uuid) (s t u : LearningDb) (first : EnrollmentMoves course userId s t)
    (second : EnrollmentMoves course userId t u) : EnrollmentMoves course userId s u := by
  intro e found
  obtain ⟨e', found', one⟩ := first e found
  obtain ⟨e'', found'', two⟩ := second e' found'
  refine ⟨e'', found'', ?_⟩
  rcases one with rfl | ⟨active, completed, dated⟩
  · exact two
  · rcases two with rfl | ⟨again, _⟩
    · exact .inr ⟨active, completed, dated⟩
    · rw [completed] at again
      cases again

structure LearningSound (course : Course) (userId : Uuid) (db : LearningDb) : Prop where
  keys : LearningKeys db
  dated : ∀ e, enrollmentOf db userId course.id = some e → e.status = .active ∨ e.status = .completed ∧ e.completedAt.isSome

structure ActivityCommits (course : Course) (userId : Uuid) (s t : LearningDb) : Prop where
  sound : LearningSound course userId t
  settled : RequirementsMet course t userId → Graduated course userId t
  moves : EnrollmentMoves course userId s t

theorem findActive_one (db : LearningDb) (unique : UniqueKey activeKey db.certificates) (userId courseId : Uuid) (c : Certificate)
    (found : findActive db userId courseId = some c) : (db.certificates.filter (activeFor userId courseId)).length = 1 := by
  obtain ⟨member, selected⟩ := find_some _ _ c found
  have atMost := unique_count_le_one activeKey db.certificates unique (userId, courseId)
  have same : db.certificates.countP (fun r => decide (activeKey r = some (userId, courseId))) =
      (db.certificates.filter (activeFor userId courseId)).length := by
    rw [List.countP_eq_length_filter]
    congr 1
    apply List.filter_congr
    intro r _
    unfold activeKey activeFor
    by_cases active : r.status = .active
    · simp [active]
    · simp [active]
  have atLeast : 0 < (db.certificates.filter (activeFor userId courseId)).length :=
    List.length_pos_of_mem (List.mem_filter.mpr ⟨member, selected⟩)
  omega

theorem findActive_added (db : LearningDb) (course : Course) (certificateId userId templateId : Uuid) :
    (findActive (addCertificate (issuedCertificate course certificateId userId templateId) db) userId course.id).isSome := by
  rw [findActive, List.find?_isSome]
  exact ⟨issuedCertificate course certificateId userId templateId, by simp [addCertificate], by simp [issuedCertificate]⟩

theorem enrollmentOf_complete (now : Instant) (userId courseId : Uuid) (db : LearningDb) (e : Enrollment)
    (found : enrollmentOf db userId courseId = some e) (active : e.status = .active) :
    enrollmentOf (completeEnrollment now userId courseId db) userId courseId =
      some { e with status := .completed, completedAt := some now } := by
  unfold enrollmentOf completeEnrollment at *
  revert found
  induction db.enrollments with
  | nil => exact fun none => by cases none
  | cons x rest ih =>
      intro found
      rw [updateWhere_cons]
      by_cases own : x.userId = userId ∧ x.courseId = courseId
      · rw [List.find?_cons_of_pos (by simpa using own)] at found
        obtain rfl := Option.some.inj found
        rw [if_pos (by simpa using ⟨own.1, own.2, active⟩), List.find?_cons_of_pos (by simpa using own)]
      · rw [List.find?_cons_of_neg (by simpa using own)] at found
        have untouched : ¬ decide (x.userId = userId ∧ x.courseId = courseId ∧ x.status = .active) = true := by
          intro all
          exact own ⟨(of_decide_eq_true all).1, (of_decide_eq_true all).2.1⟩
        rw [if_neg untouched, List.find?_cons_of_neg (by simpa using own)]
        exact ih found

structure OwnWrite (write : LearningDb → LearningDb) : Prop where
  enrollments : ∀ s, (write s).enrollments = s.enrollments
  certificates : ∀ s, (write s).certificates = s.certificates
  progress : ∀ s, UniqueKey progressKey s.progress → UniqueKey progressKey (write s).progress

theorem ownWrite_upsert (row : LearningProgress) : OwnWrite (upsertProgress row) where
  enrollments := by
    intro s
    unfold upsertProgress
    split <;> rfl
  certificates := by
    intro s
    unfold upsertProgress
    split <;> rfl
  progress := by
    intro s unique
    unfold upsertProgress
    by_cases held : s.progress.any (sameProgress row) = true
    · rw [if_pos held]
      refine unique_updateWhere progressKey _ _ _ unique ?_
      intro r _ same
      obtain ⟨user, lesson⟩ : r.userId = row.userId ∧ r.lessonId = row.lessonId := of_decide_eq_true same
      rw [progressKey, progressKey, user, lesson]
    · rw [if_neg held]
      refine unique_append progressKey row _ unique ((free_iff _ _ _).mpr ?_)
      intro r member k own same
      refine held (List.any_eq_true.mpr ⟨r, member, decide_eq_true ?_⟩)
      have pair : (r.userId, r.lessonId) = (row.userId, row.lessonId) := Option.some.inj (same.trans own.symm)
      exact ⟨congrArg Prod.fst pair, congrArg Prod.snd pair⟩

theorem ownWrite_attempt (row : QuizAttempt) : OwnWrite (createAttempt row) where
  enrollments := fun _ => rfl
  certificates := fun _ => rfl
  progress := fun _ unique => unique

theorem ownWrite_submission (row : Submission) : OwnWrite (createSubmission row) where
  enrollments := fun _ => rfl
  certificates := fun _ => rfl
  progress := fun _ unique => unique

theorem ownWrite_enrollment (write : LearningDb → LearningDb) (own : OwnWrite write) (s : LearningDb) (userId courseId : Uuid) :
    enrollmentOf (write s) userId courseId = enrollmentOf s userId courseId := by
  unfold enrollmentOf
  rw [own.enrollments]

theorem ownWrite_sound (write : LearningDb → LearningDb) (own : OwnWrite write) (course : Course) (userId : Uuid) (s : LearningDb)
    (sound : LearningSound course userId s) : LearningSound course userId (write s) where
  keys := ⟨own.progress s sound.keys.progress, by rw [own.certificates]; exact sound.keys.certificates⟩
  dated := by
    rw [ownWrite_enrollment write own]
    exact sound.dated

section Serving

variable (course : Course) (now : Instant) (certificateId userId : Uuid)

theorem issuance_serves (key : RowKey) (I : LearningDb → Prop)
    (Q : CertificateCompletionIssuance → Bool → (LearningDb → LearningDb) → LearningDb → Prop)
    (pending : LearningDb → LearningDb) (s : LearningDb)
    (held : ∀ issuance, (findActive (pending s) userId course.id).isSome → Q issuance true pending s)
    (written : ∀ issuance templateId, findActive (pending s) userId course.id = none →
      free activeKey (issuedCertificate course certificateId userId templateId) (pending s).certificates = true →
      Q issuance true (fun u => addCertificate (issuedCertificate course certificateId userId templateId) (pending u)) s) :
    Serves key I Q (issuanceStatements course certificateId userId) true pending s := by
  simp only [issuanceStatements, serves_bind, serves_query_held]
  cases active : findActive (pending s) userId course.id with
  | some existing =>
      refine held _ ?_
      rw [active]
      rfl
  | none =>
      simp only [serves_bind, serves_query_held, serves_orRefuse, certificateStatements, serves_insert_held, serves_pure]
      intro templateId _ clear
      refine written _ templateId active ?_
      by_contra taken
      unfold certificateConflict at clear
      rw [if_neg taken] at clear
      split at clear
      · cases clear
      · cases clear

theorem settled_held (t : LearningDb) (sound : LearningSound course userId t) (e : Enrollment)
    (enrolled : enrollmentOf t userId course.id = some e)
    (completed : e.status = .completed) (active : (findActive t userId course.id).isSome) : Graduated course userId t := by
  obtain ⟨c, found⟩ := Option.isSome_iff_exists.mp active
  have dated : e.completedAt.isSome := by
    rcases sound.dated e enrolled with active | closed
    · rw [active] at completed
      cases completed
    · exact closed.2
  exact ⟨⟨e, enrolled, completed, dated⟩,
    findActive_one t sound.keys.certificates userId course.id c found⟩

theorem addCertificate_sound (t : LearningDb) (sound : LearningSound course userId t) (row : Certificate)
    (fresh : free activeKey row t.certificates = true) : LearningSound course userId (addCertificate row t) where
  keys := ⟨sound.keys.progress, unique_append activeKey row t.certificates sound.keys.certificates fresh⟩
  dated := sound.dated

theorem evaluation_serves (Q : CourseCompletionEvaluation → Bool → (LearningDb → LearningDb) → LearningDb → Prop)
    (closes : ∀ a pending t, ActivityCommits course userId t (pending t) → Q a true pending t) (write : LearningDb → LearningDb)
    (own : OwnWrite write) (s : LearningDb) :
    Serves (.enrollment userId course.id) (LearningSound course userId) Q
        (evaluationStatements course now certificateId userId) false write s := by
  simp only [evaluationStatements, serves_bind, serves_lockRow, serves_query_held, serves_orRefuse]
  intro t sound e found
  have enrolled : enrollmentOf t userId course.id = some e := by
    rw [← ownWrite_enrollment write own t]
    exact found
  have soundW := ownWrite_sound write own course userId t sound
  have same : EnrollmentMoves course userId t (write t) := by
    intro e' found'
    rw [ownWrite_enrollment write own t]
    exact ⟨e', found', .inl rfl⟩
  unfold syncStatements
  by_cases completed : e.status = .completed
  · rw [if_pos completed, serves_bind]
    refine issuance_serves course certificateId userId _ _ _ write t ?_ ?_
    · intro issuance active
      exact closes _ write t ⟨soundW, fun _ => settled_held course userId _ soundW e found completed active, same⟩
    · intro issuance templateId absent fresh
      have added := addCertificate_sound course userId (write t) soundW _ fresh
      exact closes _ _ t ⟨added, fun _ => settled_held course userId _ added e found completed (findActive_added _ _ _ _ _), same⟩
  · have active : e.status = .active := (sound.dated e enrolled).resolve_right (fun closed => completed closed.1)
    rw [if_neg completed]
    by_cases policy : (completionCounts course (write t) userId).policyComplete = true
    · rw [if_neg (by simpa [completionCounts, active] using policy)]
      simp only [serves_bind, serves_execute_held]
      have closed := enrollmentOf_complete now userId course.id (write t) e found active
      have soundC : LearningSound course userId (completeEnrollment now userId course.id (write t)) := by
        refine ⟨⟨soundW.keys.progress, soundW.keys.certificates⟩, ?_⟩
        intro e' found'
        rw [closed] at found'
        obtain rfl := Option.some.inj found'
        exact .inr ⟨rfl, rfl⟩
      have moves : EnrollmentMoves course userId t (completeEnrollment now userId course.id (write t)) := by
        intro e' found'
        rw [enrolled] at found'
        obtain rfl := Option.some.inj found'
        exact ⟨_, closed, .inr ⟨active, rfl, rfl⟩⟩
      refine issuance_serves course certificateId userId _ _ _ _ t ?_ ?_
      · intro issuance certified
        exact closes _ _ t ⟨soundC, fun _ => settled_held course userId _ soundC _ closed rfl certified, moves⟩
      · intro issuance templateId absent fresh
        have added := addCertificate_sound course userId _ soundC _ fresh
        exact closes _ _ t ⟨added, fun _ => settled_held course userId _ added _ closed rfl (findActive_added _ _ _ _ _), moves⟩
    · rw [if_pos (.inl (by simpa [completionCounts] using policy))]
      refine closes _ write t ⟨soundW, fun met => ?_, same⟩
      exact absurd ((policyComplete_iff course (write t) userId).mpr met) policy

end Serving

section Runs

variable (course : Course) (userId : Uuid)

def Commits (_ : ActivityResult) (s t : LearningDb) : Prop :=
  ActivityCommits course userId s t

theorem activity_serves (a : Activity) (t : LearningDb) :
    Serves (.enrollment userId course.id) (LearningSound course userId) (Closing (Commits course userId)) (a.statements course userId)
      false id t := by
  have closes (path : Option LearningPathResponse) (completion : CourseCompletionEvaluation) (pending : LearningDb → LearningDb)
      (u : LearningDb) (commits : ActivityCommits course userId u (pending u)) :
      Serves (.enrollment userId course.id) (LearningSound course userId) (Closing (Commits course userId))
        (pure { path, completion } : LearningStatements ActivityResult) true pending u :=
    ⟨rfl, commits⟩
  unfold Activity.statements
  cases a.work with
  | lessonProgress granted lessonId input =>
      unfold lessonProgressStatements
      simp only [serves_bind, serves_query_open, serves_orRefuse, serves_refuseUnless]
      intro _ _ lesson _ _ current _ _
      rw [serves_execute_open _ _ _ _ (by simp)]
      intro _ _
      rw [serves_bind, serves_query_open]
      intro u _
      rw [serves_bind]
      exact evaluation_serves course a.now a.certificateId userId _ (closes _) _ (ownWrite_upsert _) u
  | quizAttempt quiz passed =>
      have rest (u : LearningDb) : Serves (.enrollment userId course.id) (LearningSound course userId)
          (Closing (Commits course userId)) (attemptStatements course a.now a.certificateId userId quiz passed) false id u := by
        unfold attemptStatements
        simp only [serves_bind, serves_query_open, serves_refuseUnless]
        intro _ _ _
        rw [serves_execute_open _ _ _ _ (by simp)]
        intro v _
        rw [serves_bind]
        exact evaluation_serves course a.now a.certificateId userId _ (closes _) _ (ownWrite_attempt _) v
      show Serves _ _ _ (quizAttemptStatements course a.now a.certificateId userId quiz passed) false id t
      unfold quizAttemptStatements
      by_cases limited : quiz.maxAttempts.isSome = true
      · rw [if_pos limited, serves_bind, serves_lockRow_other _ _ _ (by simp)]
        exact fun u _ => rest u
      · rw [if_neg limited]
        exact rest t
  | submission assignmentId =>
      unfold submissionStatements
      rw [serves_bind, serves_lockRow_other _ _ _ (by simp)]
      intro _ _
      rw [serves_bind, serves_query_open]
      intro _ _
      rw [serves_bind, serves_execute_open _ _ _ _ (by simp)]
      intro v _
      rw [serves_bind]
      exact evaluation_serves course a.now a.certificateId userId _ (closes _) _ (ownWrite_submission _) v

variable {ι : Type} [Fintype ι] [DecidableEq ι] (activities : ι → Activity) (db : LearningDb)

def activityWorld : World ι LearningDb RowKey Fault ActivityResult :=
  World.start db (fun i => (activities i).statements course userId)

omit [Fintype ι] [DecidableEq ι] in
theorem activityWorld_guarded (sound : LearningSound course userId db) :
    Guarded (.enrollment userId course.id) (LearningSound course userId) (Commits course userId) (activityWorld course userId activities db) :=
  guarded_start _ _ _ db _ sound (fun i t _ => activity_serves course userId (activities i) t)

/-- In whatever order the statements of a learner's transactions reach the store: after the first commit a learner whose
required items are complete has graduated, the enrollment is written once, and the learning path tells what the
completion policy tells. -/
theorem completion_not_lost (keys : LearningKeys db) (e : Enrollment) (enrolled : enrollmentOf db userId course.id = some e)
    (active : e.status = .active) (events : List (Event ι)) :
    (∀ i a, (run World.step (activityWorld course userId activities db) events).sessions i = .committed a →
      RequirementsMet course (run World.step (activityWorld course userId activities db) events).store userId →
      Graduated course userId (run World.step (activityWorld course userId activities db) events).store) ∧
    (∀ first second, events = first ++ second →
      EnrollmentMoves course userId (run World.step (activityWorld course userId activities db) first).store
        (run World.step (activityWorld course userId activities db) events).store) ∧
    (learningPath course (run World.step (activityWorld course userId activities db) events).store userId).progress.completed =
      (completionCounts course (run World.step (activityWorld course userId activities db) events).store userId).policyComplete := by
  have keeps : ∀ a s t, LearningSound course userId s → Commits course userId a s t → LearningSound course userId t :=
    fun _ _ _ _ commits => commits.sound
  have sound : LearningSound course userId db := by
    refine ⟨keys, ?_⟩
    intro e' found
    rw [enrolled] at found
    obtain rfl := Option.some.inj found
    exact .inl active
  have start := activityWorld_guarded course userId activities db sound
  refine ⟨?_, ?_, ?_⟩
  · intro i a ended
    exact guarded_settles _ _ _ keeps (fun t => RequirementsMet course t userId → Graduated course userId t)
      (fun _ _ _ _ commits => commits.settled) _ start (by intro _ _ same; cases same) events i a ended
  · rintro first second rfl
    rw [run_append]
    exact guarded_relation _ _ _ keeps (EnrollmentMoves course userId) (enrollmentMoves_refl course userId)
      (enrollmentMoves_trans course userId) (fun _ _ _ _ commits => commits.moves) _ second
      (guarded_run _ _ _ keeps _ first start)
  · exact path_agrees course _ userId (guarded_run _ _ _ keeps _ events start).store.keys

end Runs

-- Two transactions finish the last two items, and the later one waits for the enrollment that the earlier one holds.
def sampleActivities : Fin 2 → Activity
  | 0 => { now := 5, certificateId := "certificate-1", work := .lessonProgress true "lesson-1" { documentProgressPercent := some 100 } }
  | 1 => { now := 6, certificateId := "certificate-2", work := .lessonProgress true "lesson-2" { documentProgressPercent := some 95 } }

def sampleTwoLessons : Course where
  id := "course-1"
  title := "Course"
  lessons := [sampleDocument "lesson-2" 2, sampleDocument "lesson-1" 1]
  assignments := []
  quizzes := []

def sampleSchedule : List (Event (Fin 2)) :=
  let first : Fin 2 := ⟨0, by decide⟩
  let second : Fin 2 := ⟨1, by decide⟩
  List.replicate 5 (.advance first) ++ List.replicate 8 (.advance second) ++ List.replicate 12 (.advance first) ++
    List.replicate 20 (.advance second)

theorem completion_not_lost_sample :
    Graduated sampleTwoLessons "student-1"
      (run World.step (activityWorld sampleTwoLessons "student-1" sampleActivities sampleEnrolled) sampleSchedule).store := by
  have keys : LearningKeys sampleEnrolled := ⟨by unfold UniqueKey; decide, by unfold UniqueKey; decide⟩
  have result := completion_not_lost sampleTwoLessons "student-1" sampleActivities sampleEnrolled keys
    { userId := "student-1", courseId := "course-1", status := .active, completedAt := none } (by decide) rfl sampleSchedule
  obtain ⟨a, ended⟩ : ∃ a, (run World.step (activityWorld sampleTwoLessons "student-1" sampleActivities sampleEnrolled)
      sampleSchedule).sessions 1 = .committed a := ⟨_, rfl⟩
  refine result.1 1 a ended ?_
  exact (policyComplete_iff _ _ _).mp (by decide +kernel)

end EduAi.Learning
