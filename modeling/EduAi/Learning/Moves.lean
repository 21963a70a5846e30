import EduAi.Learning.Services

set_option autoImplicit false

namespace EduAi.Learning

open EduAi.Store

def issuedCertificate (course : Course) (certificateId userId templateId : Uuid) : Certificate where
  id := certificateId
  userId := userId
  courseId := course.id
  certificateTemplateId := templateId
  title := course.title
  status := .active
  revokedAt := none
  revocationReason := none

def addCertificate (row : Certificate) (db : LearningDb) : LearningDb :=
  { db with certificates := db.certificates ++ [row] }

inductive Synced (course : Course) (now : Instant) (certificateId userId : Uuid) (db : LearningDb) : LearningDb → Prop where
  | unchanged : Synced course now certificateId userId db db
  | issued (templateId : Uuid) (enrollment : Enrollment) (enrolled : enrollmentOf db userId course.id = some enrollment)
      (completed : enrollment.status = .completed) (absent : findActive db userId course.id = none)
      (fresh : free (fun c => some c.id) (issuedCertificate course certificateId userId templateId) db.certificates = true) :
      Synced course now certificateId userId db (addCertificate (issuedCertificate course certificateId userId templateId) db)
  | completed (enrollment : Enrollment) (enrolled : enrollmentOf db userId course.id = some enrollment)
      (active : enrollment.status = .active) (policy : (completionCounts course db userId).policyComplete = true) :
      Synced course now certificateId userId db (completeEnrollment now userId course.id db)
  | graduated (templateId : Uuid) (enrollment : Enrollment) (enrolled : enrollmentOf db userId course.id = some enrollment)
      (active : enrollment.status = .active) (policy : (completionCounts course db userId).policyComplete = true)
      (absent : findActive db userId course.id = none)
      (fresh : free (fun c => some c.id) (issuedCertificate course certificateId userId templateId) db.certificates = true) :
      Synced course now certificateId userId db
        (addCertificate (issuedCertificate course certificateId userId templateId) (completeEnrollment now userId course.id db))

section Sync

variable (course : Course) (now : Instant) (certificateId userId : Uuid) (db : LearningDb)

theorem createCertificate_effect (templateId : Uuid) :
    Wlp (createCertificate course certificateId userId templateId) (fun c t =>
      c = issuedCertificate course certificateId userId templateId ∧
      free (fun c => some c.id) (issuedCertificate course certificateId userId templateId) db.certificates = true ∧
      t = addCertificate (issuedCertificate course certificateId userId templateId) db) db := by
  simp only [createCertificate, wlp_bind, wlp_get, wlp_require, wlp_modify, wlp_pure]
  intro fresh _
  exact ⟨rfl, fresh, rfl⟩

theorem issueForCompletion_effect : Wlp (issueForCompletion course certificateId userId) (fun _ t =>
    t = db ∨ ∃ templateId, findActive db userId course.id = none ∧
      free (fun c => some c.id) (issuedCertificate course certificateId userId templateId) db.certificates = true ∧
      t = addCertificate (issuedCertificate course certificateId userId templateId) db) db := by
  simp only [issueForCompletion, wlp_bind, wlp_get]
  cases active : findActive db userId course.id with
  | some existing =>
      rw [wlp_pure]
      exact .inl rfl
  | none =>
      simp only [wlp_bind, wlp_orThrow]
      intro templateId _
      refine wlp_mono _ db (createCertificate_effect course certificateId userId db templateId) ?_
      intro certificate t created
      rw [wlp_pure]
      exact .inr ⟨templateId, trivial, created.2⟩

theorem evaluateAndSync_effect :
    Wlp (evaluateAndSync course now certificateId userId) (fun _ t => Synced course now certificateId userId db t) db := by
  simp only [evaluateAndSync, wlp_bind, wlp_get, wlp_orThrow]
  intro enrollment enrolled
  unfold syncCompletion
  rw [wlp_ite]
  constructor
  · intro completed
    rw [wlp_bind]
    refine wlp_mono _ db (issueForCompletion_effect course certificateId userId db) ?_
    rintro issuance t (same | ⟨templateId, absent, fresh, same⟩)
    · rw [wlp_pure, same]
      exact .unchanged
    · rw [wlp_pure, same]
      exact .issued templateId enrollment enrolled completed absent fresh
  · intro _
    rw [wlp_ite]
    constructor
    · intro _
      rw [wlp_pure]
      exact .unchanged
    · intro ready
      obtain ⟨complete, open_⟩ := not_or.mp ready
      have policy : (completionCounts course db userId).policyComplete = true := by
        simpa using complete
      have active : enrollment.status = .active := by
        simpa using open_
      simp only [wlp_bind, wlp_modify]
      refine wlp_mono _ _ (issueForCompletion_effect course certificateId userId _) ?_
      rintro issuance t (same | ⟨templateId, absent, fresh, same⟩)
      · rw [wlp_pure, same]
        exact .completed enrollment enrolled active policy
      · rw [wlp_pure, same]
        exact .graduated templateId enrollment enrolled active policy absent fresh

theorem synced_apart (t : LearningDb) (synced : Synced course now certificateId userId db t) :
    t.progress = db.progress ∧ t.submissions = db.submissions ∧ t.attempts = db.attempts := by
  cases synced with
  | _ => exact ⟨rfl, rfl, rfl⟩

end Sync

inductive LearningMove (course : Course) (r : Request) (db : LearningDb) : LearningDb → Prop where
  | rejected : LearningMove course r db db
  | lessonUpdated (caller : Caller) (lesson : Lesson) (input : UpdateLessonProgressDto) (t : LearningDb)
      (call : r.call = .updateLessonProgress caller lesson.id input)
      (found : (liveLessons course).find? (fun l => l.id = lesson.id) = some lesson)
      (synced : Synced course r.now r.certificateId caller.id (upsertProgress
        ((calculateProgressValues lesson (progressOf db caller.id lesson.id) input).row r.now caller.id lesson.id) db) t) :
      LearningMove course r db t
  | attempted (caller : Caller) (quiz : Quiz) (passed : Bool) (t : LearningDb) (live : quiz ∈ liveQuizzes course)
      (call : r.call = .submitAttempt caller quiz.id (some passed)) (open_ : accessible course db caller.id quiz.id .quiz = true)
      (synced : Synced course r.now r.certificateId caller.id
        (createAttempt { userId := caller.id, quizId := quiz.id, passed, submittedAt := some r.now } db) t) :
      LearningMove course r db t
  | submitted (caller : Caller) (assignment : Assignment) (version : Nat) (t : LearningDb)
      (live : assignment ∈ liveAssignments course) (call : r.call = .submitAssignment caller assignment.id true)
      (open_ : accessible course db caller.id assignment.id .assignment = true)
      (synced : Synced course r.now r.certificateId caller.id
        (createSubmission { userId := caller.id, assignmentId := assignment.id, version } db) t) :
      LearningMove course r db t
  | issued (caller : Caller) (templateId : Uuid) (call : r.call = .issueCertificate caller templateId)
      (enrollment : Enrollment) (enrolled : enrollmentOf db caller.id course.id = some enrollment)
      (completed : enrollment.status = .completed) (absent : findActive db caller.id course.id = none)
      (fresh : free (fun c => some c.id) (issuedCertificate course r.certificateId caller.id templateId) db.certificates = true) :
      LearningMove course r db (addCertificate (issuedCertificate course r.certificateId caller.id templateId) db)
  | revoked (certificateId : Uuid) (reason : String) (call : r.call = .revokeCertificate certificateId reason)
      (certificate : Certificate) (found : db.certificates.find? (fun c => c.id = certificateId) = some certificate)
      (active : certificate.status ≠ .revoked) :
      LearningMove course r db { db with
        certificates := updateWhere (fun c => c.id = certificateId) (fun c => c.revoked r.now reason) db.certificates }

section Calls

variable (course : Course) (db : LearningDb)

theorem getLearningPathForUser_reads (granted : Bool) (userId : Uuid) :
    Wlp (getLearningPathForUser course granted userId) (fun path t => path = learningPath course db userId ∧ t = db) db := by
  simp only [getLearningPathForUser, wlp_bind, wlp_require, wlp_get, wlp_pure]
  exact fun _ => ⟨trivial, trivial⟩

theorem assertStudentStepAccessible_reads (granted : Bool) (userId stepId : Uuid) (type : LearningStepType) :
    Wlp (assertStudentStepAccessible course granted userId stepId type)
      (fun _ t => t = db ∧ accessible course db userId stepId type = true) db := by
  rw [assertStudentStepAccessible, wlp_bind]
  refine wlp_mono _ db (getLearningPathForUser_reads course db granted userId) ?_
  rintro path t ⟨_, same⟩
  simp only [same, wlp_bind, wlp_get, wlp_require]
  exact fun open_ => ⟨trivial, open_⟩

theorem updateLessonProgress_move (r : Request) (caller : Caller) (lessonId : Uuid) (input : UpdateLessonProgressDto)
    (call : r.call = .updateLessonProgress caller lessonId input) :
    Wlp (updateLessonProgress course r.now r.certificateId caller lessonId input) (fun _ t => LearningMove course r db t) db := by
  simp only [updateLessonProgress, wlp_bind, wlp_require, wlp_orThrow, wlp_get, wlp_modify]
  intro _ lesson found _ _
  have same : lesson.id = lessonId := of_decide_eq_true (find_some _ _ lesson found).2
  subst same
  refine wlp_mono _ _ (getLearningPathForUser_reads course _ caller.granted caller.id) ?_
  rintro path s ⟨_, kept⟩
  rw [kept]
  refine wlp_mono _ _ (evaluateAndSync_effect course r.now r.certificateId caller.id _) ?_
  intro evaluation t synced
  rw [wlp_pure]
  exact .lessonUpdated caller lesson input t call found synced

theorem submitAttempt_move (r : Request) (caller : Caller) (quizId : Uuid) (graded : Option Bool)
    (call : r.call = .submitAttempt caller quizId graded) :
    Wlp (submitAttempt course r.now r.certificateId caller quizId graded) (fun _ t => LearningMove course r db t) db := by
  simp only [submitAttempt, wlp_bind, wlp_require, wlp_orThrow]
  intro quiz found _
  obtain ⟨live, named⟩ := find_some _ _ quiz found
  have same : quiz.id = quizId := of_decide_eq_true named
  subst same
  refine wlp_mono _ db (assertStudentStepAccessible_reads course db caller.granted caller.id quiz.id .quiz) ?_
  rintro _ s ⟨kept, open_⟩
  rw [kept]
  intro passed scored
  simp only [wlp_get, wlp_modify]
  intro _
  refine wlp_mono _ _ (evaluateAndSync_effect course r.now r.certificateId caller.id _) ?_
  intro evaluation t synced
  exact .attempted caller quiz passed t live (by rw [call, scored]) open_ synced

theorem submitAssignment_move (r : Request) (caller : Caller) (assignmentId : Uuid) (work : Bool)
    (call : r.call = .submitAssignment caller assignmentId work) :
    Wlp (submitAssignment course r.now r.certificateId caller assignmentId work) (fun _ t => LearningMove course r db t) db := by
  simp only [submitAssignment, wlp_bind, wlp_require, wlp_orThrow]
  intro given assignment found _
  obtain ⟨live, named⟩ := find_some _ _ assignment found
  have same : assignment.id = assignmentId := of_decide_eq_true named
  subst same
  refine wlp_mono _ db (assertStudentStepAccessible_reads course db caller.granted caller.id assignment.id .assignment) ?_
  rintro _ s ⟨kept, open_⟩
  rw [kept]
  simp only [wlp_get, wlp_modify]
  refine wlp_mono _ _ (evaluateAndSync_effect course r.now r.certificateId caller.id _) ?_
  intro evaluation t synced
  exact .submitted caller assignment _ t live (by rw [call, given]) open_ synced

theorem issueCertificate_move (r : Request) (caller : Caller) (templateId : Uuid)
    (call : r.call = .issueCertificate caller templateId) :
    Wlp (issueCertificate course r.certificateId caller templateId) (fun _ t => LearningMove course r db t) db := by
  simp only [issueCertificate, wlp_bind, wlp_require, wlp_get, wlp_orThrow]
  intro _ enrollment enrolled completed _
  cases absent : findActive db caller.id course.id with
  | some existing =>
      rw [wlp_pure]
      exact .rejected
  | none =>
      refine wlp_mono _ db (createCertificate_effect course r.certificateId caller.id db templateId) ?_
      rintro certificate t ⟨_, fresh, same⟩
      rw [same]
      exact .issued caller templateId call enrollment enrolled completed.1 absent fresh

theorem revokeCertificate_move (r : Request) (certificateId : Uuid) (reason : String)
    (call : r.call = .revokeCertificate certificateId reason) :
    Wlp (revokeCertificate r.now certificateId reason) (fun _ t => LearningMove course r db t) db := by
  simp only [revokeCertificate, wlp_bind, wlp_get, wlp_orThrow, wlp_ite, wlp_pure, wlp_modify]
  intro certificate found
  exact ⟨fun _ => .rejected, fun active => .revoked certificateId reason call certificate found active⟩

theorem step_move (r : Request) : LearningMove course r db (learningStep course db r) := by
  unfold learningStep Request.effect
  cases call : r.call with
  | updateLessonProgress caller lessonId input =>
      exact commit_of_wlp _ _ db .rejected (updateLessonProgress_move course db r caller lessonId input call)
  | submitAttempt caller quizId graded =>
      exact commit_of_wlp _ _ db .rejected (submitAttempt_move course db r caller quizId graded call)
  | submitAssignment caller assignmentId work =>
      exact commit_of_wlp _ _ db .rejected (submitAssignment_move course db r caller assignmentId work call)
  | issueCertificate caller templateId =>
      exact commit_of_wlp _ _ db .rejected (issueCertificate_move course db r caller templateId call)
  | revokeCertificate certificateId reason =>
      exact commit_of_wlp _ _ db .rejected (revokeCertificate_move course db r certificateId reason call)

theorem progressOf_move (r : Request) (t : LearningDb) (move : LearningMove course r db t) (userId lessonId : Uuid) :
    progressOf t userId lessonId = progressOf db userId lessonId ∨
      ∃ caller lesson input, r.call = .updateLessonProgress caller lesson.id input ∧
        (liveLessons course).find? (fun l => l.id = lesson.id) = some lesson ∧ caller.id = userId ∧ lesson.id = lessonId ∧
        progressOf t userId lessonId =
          some ((calculateProgressValues lesson (progressOf db userId lessonId) input).row r.now userId lessonId) := by
  cases move with
  | rejected => exact .inl rfl
  | lessonUpdated caller lesson input t call found synced =>
      have written := progressOf_upsert db
        ((calculateProgressValues lesson (progressOf db caller.id lesson.id) input).row r.now caller.id lesson.id) userId lessonId
      rw [progressOf, (synced_apart _ _ _ _ _ t synced).1, ← progressOf, written]
      by_cases own : caller.id = userId ∧ lesson.id = lessonId
      · obtain ⟨rfl, rfl⟩ := own
        exact .inr ⟨caller, lesson, input, call, found, rfl, rfl, if_pos ⟨rfl, rfl⟩⟩
      · exact .inl (if_neg own)
  | attempted caller quiz passed t live call open_ synced =>
      rw [progressOf, (synced_apart _ _ _ _ _ t synced).1]
      exact .inl rfl
  | submitted caller assignment version t live call open_ synced =>
      rw [progressOf, (synced_apart _ _ _ _ _ t synced).1]
      exact .inl rfl
  | issued caller templateId call enrollment enrolled completed absent fresh => exact .inl rfl
  | revoked certificateId reason call certificate found active => exact .inl rfl

end Calls

end EduAi.Learning
