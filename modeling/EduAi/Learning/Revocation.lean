import EduAi.Learning.Graduation

set_option autoImplicit false

namespace EduAi.Learning

open EduAi.Store

section Certificates

variable (course : Course)

-- One active certificate at most for a learner and a course, and certificates of the course for completed enrollments only.
structure CertificatesSound (db : LearningDb) : Prop where
  single : UniqueKey activeKey db.certificates
  earned : ∀ c ∈ db.certificates, c.courseId = course.id →
    ∃ e, enrollmentOf db c.userId course.id = some e ∧ e.status = .completed

def NoReissue (before after : LearningDb) : Prop :=
  ∀ c ∈ after.certificates, c.courseId = course.id → c.status = .active →
    (∃ r ∈ before.certificates, r.userId = c.userId ∧ r.courseId = course.id ∧ r.status = .revoked) → c ∈ before.certificates

instance (before after : LearningDb) : Decidable (NoReissue course before after) := by
  unfold NoReissue
  infer_instance

def Barred (db : LearningDb) (userId : Uuid) : Prop :=
  (∃ r ∈ db.certificates, r.userId = userId ∧ r.courseId = course.id ∧ r.status = .revoked) ∧
    findActive db userId course.id = none

instance (db : LearningDb) (userId : Uuid) : Decidable (Barred course db userId) := by
  unfold Barred
  infer_instance

def LearningCall.learner : LearningCall → Option Uuid
  | .updateLessonProgress caller _ _ => some caller.id
  | .submitAttempt caller _ _ => some caller.id
  | .submitAssignment caller _ _ => some caller.id
  | .issueCertificate caller _ => some caller.id
  | .revokeCertificate _ _ => none

def RevocationHeeded (db : LearningDb) (r : Request) : Prop :=
  ∀ userId ∈ r.call.learner, ¬ Barred course db userId

instance (db : LearningDb) (r : Request) : Decidable (RevocationHeeded course db r) := by
  unfold RevocationHeeded
  infer_instance

-- What a move does to the certificates: nothing, one issued to a completed enrollment that has no active one, or a revocation.
inductive CertificateMove (r : Request) (db t : LearningDb) : Prop where
  | kept (certificates : t.certificates = db.certificates)
  | issued (userId templateId : Uuid) (learner : r.call.learner = some userId)
      (certificates : t.certificates = db.certificates ++ [issuedCertificate course r.certificateId userId templateId])
      (absent : findActive db userId course.id = none)
      (completed : ∃ e, enrollmentOf t userId course.id = some e ∧ e.status = .completed)
  | revoked (certificateId : Uuid) (reason : String) (certificates : t.certificates =
      updateWhere (fun c => c.id = certificateId) (fun c => c.revoked r.now reason) db.certificates)

def EnrollmentsKept (db t : LearningDb) : Prop :=
  ∀ userId e, enrollmentOf db userId course.id = some e → e.status = .completed →
    enrollmentOf t userId course.id = some e

theorem enrollmentOf_other (now : Instant) (userId other courseId : Uuid) (db : LearningDb) (e : Enrollment)
    (found : enrollmentOf db other courseId = some e) (completed : e.status = .completed) :
    enrollmentOf (completeEnrollment now userId courseId db) other courseId = some e := by
  unfold enrollmentOf completeEnrollment at *
  revert found
  induction db.enrollments with
  | nil => exact fun none => by cases none
  | cons x rest ih =>
      intro found
      rw [updateWhere_cons]
      by_cases own : x.userId = other ∧ x.courseId = courseId
      · rw [List.find?_cons_of_pos (by simpa using own)] at found
        obtain rfl := Option.some.inj found
        rw [if_neg (by simp [completed]), List.find?_cons_of_pos (by simpa using own)]
      · rw [List.find?_cons_of_neg (by simpa using own)] at found
        by_cases selected : decide (x.userId = userId ∧ x.courseId = courseId ∧ x.status = .active) = true
        · rw [if_pos selected, List.find?_cons_of_neg (by simpa using own)]
          exact ih found
        · rw [if_neg selected, List.find?_cons_of_neg (by simpa using own)]
          exact ih found

theorem synced_certificates (r : Request) (userId : Uuid) (db t : LearningDb) (learner : r.call.learner = some userId)
    (synced : Synced course r.now r.certificateId userId db t) : CertificateMove course r db t ∧ EnrollmentsKept course db t := by
  cases synced with
  | unchanged => exact ⟨.kept rfl, fun _ _ found _ => found⟩
  | issued templateId e enrolled completed absent fresh =>
      exact ⟨.issued userId templateId learner rfl absent ⟨e, enrolled, completed⟩, fun _ _ found _ => found⟩
  | completed e enrolled active policy =>
      exact ⟨.kept rfl, fun other e' found done => enrollmentOf_other r.now userId other course.id db e' found done⟩
  | graduated templateId e enrolled active policy absent fresh =>
      refine ⟨.issued userId templateId learner rfl absent ⟨_, enrollmentOf_complete r.now userId course.id db e enrolled active, rfl⟩, ?_⟩
      exact fun other e' found done => enrollmentOf_other r.now userId other course.id db e' found done

theorem certificateMove_after (r : Request) (db s t : LearningDb) (enrollments : s.enrollments = db.enrollments)
    (certificates : s.certificates = db.certificates) (move : CertificateMove course r s t) (kept : EnrollmentsKept course s t) :
    CertificateMove course r db t ∧ EnrollmentsKept course db t := by
  refine ⟨?_, ?_⟩
  · cases move with
    | kept same => exact .kept (same.trans certificates)
    | issued userId templateId learner same absent completed =>
        refine .issued userId templateId learner (by rw [same, certificates]) ?_ completed
        unfold findActive at absent ⊢
        rw [← certificates]
        exact absent
    | revoked certificateId reason same => exact .revoked certificateId reason (by rw [same, certificates])
  · intro userId e found completed
    refine kept userId e ?_ completed
    unfold enrollmentOf at found ⊢
    rw [enrollments]
    exact found

theorem certificateMove_of_move (r : Request) (db t : LearningDb) (move : LearningMove course r db t) :
    CertificateMove course r db t ∧ EnrollmentsKept course db t := by
  cases move with
  | rejected => exact ⟨.kept rfl, fun _ _ found _ => found⟩
  | lessonUpdated caller lesson input t call found synced =>
      have own := ownWrite_upsert
        ((calculateProgressValues lesson (progressOf db caller.id lesson.id) input).row r.now caller.id lesson.id)
      obtain ⟨moved, kept⟩ := synced_certificates course r caller.id _ t (by rw [call]; rfl) synced
      exact certificateMove_after course r db _ t (own.enrollments db) (own.certificates db) moved kept
  | attempted caller quiz passed t live call open_ synced =>
      obtain ⟨moved, kept⟩ := synced_certificates course r caller.id _ t (by rw [call]; rfl) synced
      exact certificateMove_after course r db (createAttempt _ db) t rfl rfl moved kept
  | submitted caller assignment version t live call open_ synced =>
      obtain ⟨moved, kept⟩ := synced_certificates course r caller.id _ t (by rw [call]; rfl) synced
      exact certificateMove_after course r db (createSubmission _ db) t rfl rfl moved kept
  | issued caller templateId call e enrolled completed absent fresh =>
      exact ⟨.issued caller.id templateId (by rw [call]; rfl) rfl absent ⟨e, enrolled, completed⟩, fun _ _ found _ => found⟩
  | revoked certificateId reason call certificate found active =>
      exact ⟨.revoked certificateId reason rfl, fun _ _ found _ => found⟩

theorem issued_free (db : LearningDb) (certificateId userId templateId : Uuid) (absent : findActive db userId course.id = none) :
    free activeKey (issuedCertificate course certificateId userId templateId) db.certificates = true := by
  rw [free_iff]
  intro c member k key same
  have unmatched := find_none _ _ absent c member
  have keyed : activeKey (issuedCertificate course certificateId userId templateId) = some (userId, course.id) := rfl
  rw [keyed] at key
  rw [← key] at same
  unfold activeKey at same
  by_cases active : c.status = .active
  · rw [if_pos active] at same
    have pair := Option.some.inj same
    exact of_decide_eq_false unmatched ⟨congrArg Prod.fst pair, congrArg Prod.snd pair, active⟩
  · rw [if_neg active] at same
    cases same

theorem certificatesSound_move (r : Request) (db t : LearningDb) (sound : CertificatesSound course db)
    (move : CertificateMove course r db t) (kept : EnrollmentsKept course db t) : CertificatesSound course t := by
  have carried : ∀ c ∈ db.certificates, c.courseId = course.id →
      ∃ e, enrollmentOf t c.userId course.id = some e ∧ e.status = .completed := by
    intro c member own
    obtain ⟨e, found, completed⟩ := sound.earned c member own
    exact ⟨e, kept c.userId e found completed, completed⟩
  cases move with
  | kept same =>
      refine ⟨by rw [same]; exact sound.single, ?_⟩
      rw [same]
      exact carried
  | issued userId templateId learner same absent completed =>
      refine ⟨?_, ?_⟩
      · rw [same]
        exact unique_append activeKey _ _ sound.single (issued_free course db r.certificateId userId templateId absent)
      · rw [same]
        intro c member own
        rcases List.mem_append.mp member with old | new
        · exact carried c old own
        · obtain rfl := List.mem_singleton.mp new
          exact completed
  | revoked certificateId reason same =>
      refine ⟨?_, ?_⟩
      · rw [same]
        refine unique_updateWhere_cleared activeKey _ _ _ sound.single (fun c _ _ => .inr ?_)
        simp [activeKey, Certificate.revoked]
      · rw [same]
        intro c member own
        obtain ⟨old, memberOld, rfl⟩ := (mem_updateWhere _ _ _ c).mp member
        by_cases selected : decide (old.id = certificateId) = true
        · rw [if_pos selected] at own ⊢
          exact carried old memberOld own
        · rw [if_neg selected] at own ⊢
          exact carried old memberOld own

theorem noReissue_move (r : Request) (db t : LearningDb) (heeded : RevocationHeeded course db r)
    (move : CertificateMove course r db t) : NoReissue course db t := by
  intro c member own active revoked
  cases move with
  | kept same =>
      rw [← same]
      exact member
  | issued userId templateId learner same absent completed =>
      rw [same] at member
      rcases List.mem_append.mp member with old | new
      · exact old
      · obtain rfl := List.mem_singleton.mp new
        exact absurd ⟨revoked, absent⟩ (heeded userId (by rw [learner]; rfl))
  | revoked certificateId reason same =>
      rw [same] at member
      obtain ⟨old, memberOld, rfl⟩ := (mem_updateWhere _ _ _ c).mp member
      by_cases selected : decide (old.id = certificateId) = true
      · rw [if_pos selected] at active
        cases active
      · rw [if_neg selected]
        exact memberOld

theorem certificatesSound_step (db : LearningDb) (r : Request) (sound : CertificatesSound course db) :
    CertificatesSound course (learningStep course db r) := by
  obtain ⟨move, kept⟩ := certificateMove_of_move course r db _ (step_move course db r)
  exact certificatesSound_move course r db _ sound move kept

/-- One active certificate at most, for completed enrollments only, in every run; and a revocation stands as long as the
learner leaves the course alone. -/
theorem revocation_stands (db : LearningDb) (sound : CertificatesSound course db) (requests : List Request) :
    CertificatesSound course (run (learningStep course) db requests) ∧
    (AllMeet (learningStep course) (RevocationHeeded course) db requests →
      AllMeet (learningStep course) (fun s r => NoReissue course s (learningStep course s r)) db requests) := by
  refine ⟨run_invariant (learningStep course) (CertificatesSound course) (certificatesSound_step course) db requests sound, ?_⟩
  intro heeded
  refine allMeet_shows (learningStep course) (RevocationHeeded course) _ (CertificatesSound course)
    (fun s r kept _ => certificatesSound_step course s r kept) ?_ db requests sound heeded
  intro s r _ meets
  exact noReissue_move course r s _ meets (certificateMove_of_move course r s _ (step_move course s r)).1

end Certificates

def sampleRevoke : Request where
  now := 7
  certificateId := "certificate-9"
  call := .revokeCertificate "certificate-1" "fraud"

def sampleOtherRead : Request where
  now := 8
  certificateId := "certificate-2"
  call := .updateLessonProgress { id := "student-1", isStudent := true, granted := true } "lesson-1" {}

theorem certificatesSound_sample : CertificatesSound sampleTwoLessons sampleEnrolled where
  single := by
    unfold UniqueKey
    decide
  earned := by
    intro c member
    cases member

theorem revocation_stands_sample :
    AllMeet (learningStep sampleTwoLessons) (fun s r => NoReissue sampleTwoLessons s (learningStep sampleTwoLessons s r))
      sampleEnrolled [sampleRead 1 "lesson-1", sampleRead 2 "lesson-2", sampleRevoke, sampleRevoke] := by
  refine (revocation_stands sampleTwoLessons sampleEnrolled certificatesSound_sample _).2 ⟨?_, ?_, ?_, ?_, trivial⟩
  · decide +kernel
  · decide +kernel
  · decide +kernel
  · decide +kernel

-- The learner reports on a lesson once more, and the certificate that was revoked for fraud is followed by an active one.
theorem revocation_undone :
    ¬ AllMeet (learningStep sampleTwoLessons) (fun s r => NoReissue sampleTwoLessons s (learningStep sampleTwoLessons s r))
      sampleEnrolled [sampleRead 1 "lesson-1", sampleRead 2 "lesson-2", sampleRevoke, sampleOtherRead] := by
  rintro ⟨_, _, _, fourth, _⟩
  revert fourth
  decide +kernel

end EduAi.Learning
