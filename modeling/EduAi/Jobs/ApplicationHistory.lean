import EduAi.Jobs.Applications
import Mathlib.Data.List.Chain
import Mathlib.Data.Fintype.Card

set_option autoImplicit false

namespace EduAi.Jobs

open EduAi.Store

def Follows (before after : JobApplicationStatusHistory) : Prop :=
  after.fromStatus = some before.toStatus ∧ after.toStatus ∈ transitions before.toStatus

instance (before after : JobApplicationStatusHistory) : Decidable (Follows before after) := by
  unfold Follows
  infer_instance

structure HistorySound (entries : List JobApplicationStatusHistory) (status : JobApplicationStatus) : Prop where
  created : entries.head?.map (fun e => (e.fromStatus, e.toStatus)) = some (none, .submitted)
  chain : entries.IsChain Follows
  current : entries.getLast?.map (fun e => e.toStatus) = some status

def HistoriesSound (db : JobDb) : Prop :=
  ∀ application ∈ db.applications, HistorySound (historyOf db application.id) application.status

def terminal (status : JobApplicationStatus) : Prop :=
  transitions status = []

def Closed (s t : JobDb) : Prop :=
  ∀ application ∈ s.applications, terminal application.status → historyOf t application.id = historyOf s application.id

structure Grows (s t : JobDb) : Prop where
  kept : ∀ application ∈ s.applications, ∃ application' ∈ t.applications, application'.id = application.id
  history : ∀ id, historyOf s id <+: historyOf t id

theorem grows_refl (s : JobDb) : Grows s s where
  kept := fun application member => ⟨application, member, rfl⟩
  history := fun _ => List.prefix_refl _

theorem grows_trans (s t u : JobDb) (first : Grows s t) (second : Grows t u) : Grows s u where
  kept := by
    intro application member
    obtain ⟨middle, listed, same⟩ := first.kept application member
    obtain ⟨last, listed', same'⟩ := second.kept middle listed
    exact ⟨last, listed', same'.trans same⟩
  history := fun id => (first.history id).trans (second.history id)

structure Changes (change : StatusChange) (pending : JobDb → JobDb) : Prop where
  writes : ∃ (f : JobApplication → JobApplication) (entry : JobApplicationStatusHistory),
    pending = (fun db => createHistory entry (updateApplication change.application.application.id f db)) ∧
      (∀ a, (f a).id = a.id ∧ (f a).status = entry.toStatus) ∧ entry.applicationId = change.application.application.id ∧
      entry.fromStatus = some change.current.status ∧ entry.toStatus ∈ transitions change.current.status

theorem applicationSelect_id (admin : Bool) (id : Uuid) (db : JobDb) (application : ApplicationResponse)
    (selected : applicationSelect admin id db = some application) : application.application.id = id := by
  unfold applicationSelect at selected
  obtain ⟨row, found, made⟩ := Option.map_eq_some_iff.mp selected
  rw [← made]
  simpa using List.find?_some found

theorem writeStatus_changes (admin : Bool) (now : Instant) (actorId id : Uuid) (current : JobApplication)
    (status : JobApplicationStatus) (f : JobApplication → JobApplication) (same : ∀ a, (f a).id = a.id)
    (allowed : status ∈ transitions current.status) :
    Ends Changes (writeStatus admin now actorId id current status f) (fun db => db) := by
  unfold writeStatus
  simp only [ends_bind, ends_execute, ends_query, ends_orRefuse, ends_pure]
  intro _ _ t application selected
  have about := applicationSelect_id admin id _ application selected
  refine ⟨fun a => { f a with status, updatedAt := now },
    { applicationId := id, fromStatus := some current.status, toStatus := status, changedById := actorId, createdAt := now },
    ?_, fun a => ⟨same a, rfl⟩, about.symm, rfl, allowed⟩
  rw [about]

theorem call_changes (call : JobCall) : Ends Changes call.statements (fun db => db) := by
  cases call with
  | withdraw now userId id =>
      simp only [JobCall.statements, withdraw, assertTransition, ends_bind, ends_query, ends_orRefuse, ends_refuseUnless]
      intro t current found allowed
      exact writeStatus_changes false now userId id current .withdrawn _ (fun _ => rfl) allowed
  | updateStatus now actorId id status =>
      simp only [JobCall.statements, updateStatus, assertTransition, ends_bind, ends_query, ends_orRefuse, ends_refuseUnless]
      intro t current found allowed
      exact writeStatus_changes true now actorId id current status _ (fun _ => rfl) allowed

theorem historyOf_append (entry : JobApplicationStatusHistory) (id other : Uuid) (f : JobApplication → JobApplication) (db : JobDb) :
    historyOf (createHistory entry (updateApplication id f db)) other =
      historyOf db other ++ if entry.applicationId = other then [entry] else [] := by
  unfold historyOf createHistory updateApplication
  rw [List.filter_append]
  by_cases same : entry.applicationId = other
  · simp [same]
  · simp [same]

theorem changes_grow (change : StatusChange) (pending : JobDb → JobDb) (s : JobDb) (changes : Changes change pending) :
    Grows s (pending s) := by
  obtain ⟨f, entry, rfl, keeps, about, -⟩ := changes.writes
  constructor
  · intro application member
    by_cases chosen : application.id = change.application.application.id
    · refine ⟨f application, (mem_updateWhere _ _ _ _).mpr ⟨application, member, ?_⟩, (keeps application).1⟩
      simp [chosen]
    · refine ⟨application, (mem_updateWhere _ _ _ _).mpr ⟨application, member, ?_⟩, rfl⟩
      simp [chosen]
  · intro id
    rw [historyOf_append]
    exact List.prefix_append _ _

theorem historySound_append (entries : List JobApplicationStatusHistory) (status read : JobApplicationStatus)
    (entry : JobApplicationStatusHistory) (sound : HistorySound entries status) (from_ : entry.fromStatus = some read)
    (allowed : entry.toStatus ∈ transitions read) :
    HistorySound (entries ++ [entry]) entry.toStatus ↔ status = read := by
  obtain ⟨last, ends, at_⟩ := Option.map_eq_some_iff.mp sound.current
  have follows : (entries ++ [entry]).IsChain Follows ↔ Follows last entry := by
    rw [List.isChain_append]
    simp [sound.chain, ends]
  have link : Follows last entry ↔ status = read := by
    unfold Follows
    rw [from_, at_]
    constructor
    · intro followed
      exact (Option.some.inj followed.1).symm
    · intro same
      rw [same]
      exact ⟨rfl, allowed⟩
  constructor
  · intro grown
    exact link.mp (follows.mp grown.chain)
  · intro same
    refine ⟨?_, follows.mpr (link.mpr same), by simp⟩
    obtain ⟨first, begins, -⟩ := Option.map_eq_some_iff.mp sound.created
    have created := sound.created
    rw [begins] at created
    rw [List.head?_append, begins]
    exact created

def Standing (change : StatusChange) (db : JobDb) : Prop :=
  ∀ application ∈ db.applications, application.id = change.application.application.id → application.status = change.current.status

instance (change : StatusChange) (db : JobDb) : Decidable (Standing change db) := by
  unfold Standing
  infer_instance

theorem changes_sound_iff (change : StatusChange) (pending : JobDb → JobDb) (s : JobDb) (changes : Changes change pending)
    (sound : HistoriesSound s) : HistoriesSound (pending s) ↔ Standing change s := by
  obtain ⟨f, entry, rfl, keeps, about, from_, allowed⟩ := changes.writes
  have changed (application : JobApplication) (member : application ∈ s.applications)
      (chosen : application.id = change.application.application.id) :
      HistorySound (historyOf (createHistory entry (updateApplication change.application.application.id f s)) application.id)
        entry.toStatus ↔ application.status = change.current.status := by
    rw [historyOf_append, if_pos (about.trans chosen.symm)]
    exact historySound_append _ _ _ entry (sound application member) from_ allowed
  constructor
  · intro after application member chosen
    have listed : f application ∈ updateWhere (fun a => a.id = change.application.application.id) f s.applications :=
      (mem_updateWhere _ _ _ _).mpr ⟨application, member, by simp [chosen]⟩
    have kept := after (f application) listed
    rw [(keeps application).1, (keeps application).2] at kept
    exact (changed application member chosen).mp kept
  · intro standing application listed
    obtain ⟨before, member, made⟩ := (mem_updateWhere _ _ _ _).mp listed
    by_cases chosen : before.id = change.application.application.id
    · rw [if_pos (by simpa using chosen)] at made
      rw [made, (keeps before).1, (keeps before).2]
      exact (changed before member chosen).mpr (standing before member chosen)
    · rw [if_neg (by simpa using chosen)] at made
      rw [made, historyOf_append, if_neg (fun same => chosen (same.symm.trans about)), List.append_nil]
      exact sound before member

theorem sound_closed (s t : JobDb) (before : HistoriesSound s) (after : HistoriesSound t) (grows : Grows s t) : Closed s t := by
  intro application member ended
  obtain ⟨application', listed, same⟩ := grows.kept application member
  have sound' := after application' listed
  rw [same] at sound'
  obtain ⟨more, split⟩ := grows.history application.id
  cases more with
  | nil =>
      rw [List.append_nil] at split
      exact split.symm
  | cons entry more =>
      obtain ⟨last, ends, at_⟩ := Option.map_eq_some_iff.mp (before application member).current
      have chain := sound'.chain
      rw [← split, List.isChain_append] at chain
      have follows : Follows last entry := chain.2.2 last ends entry rfl
      have allowed := follows.2
      rw [at_, ended] at allowed
      cases allowed

theorem apply_sound (now : Instant) (applicationId userId jobId : Uuid) (input : ApplyToJobDto) (s : JobDb)
    (sound : HistoriesSound s) (fresh : historyOf s applicationId = []) :
    Wlp (apply now applicationId userId jobId input) (fun _ s' => HistoriesSound s') s := by
  unfold apply
  simp only [wlp_bind, wlp_get, wlp_require, wlp_modify, wlp_orThrow]
  intro _ _ _ _ application listed
  have entries (other : Uuid) (created : JobApplicationStatusHistory) (about : created.applicationId = applicationId) :
      (s.history ++ [created]).filter (fun e => e.applicationId = other) =
        historyOf s other ++ if applicationId = other then [created] else [] := by
    unfold historyOf
    rw [List.filter_append]
    by_cases same : applicationId = other
    · simp [same, about]
    · simp [same, about]
  show HistorySound ((s.history ++ [_]).filter (fun e => e.applicationId = application.id)) application.status
  rw [entries application.id _ rfl]
  rcases List.mem_append.mp listed with old | new
  · by_cases same : applicationId = application.id
    · -- An id in use has a history, and the new one has none.
      have before := (sound application old).created
      rw [← same, fresh] at before
      cases before
    · rw [if_neg same, List.append_nil]
      exact sound application old
  · rw [List.mem_singleton.mp new, if_pos rfl, fresh]
    exact ⟨rfl, List.isChain_singleton _, rfl⟩

section Runs

variable {ι : Type} [Fintype ι] [DecidableEq ι]

def HistoriesKept (db : JobDb) (calls : ι → JobCall) (events : List (Event ι)) : Prop :=
  ∀ first second, events = first ++ second →
    HistoriesSound (run World.step (World.start db (fun i => (calls i).statements)) first).store ∧
      Closed (run World.step (World.start db (fun i => (calls i).statements)) first).store
        (run World.step (World.start db (fun i => (calls i).statements)) events).store

/-- The histories hold along a schedule exactly when every status that a call has read still stands when the call
commits. -/
theorem application_histories_kept (db : JobDb) (sound : HistoriesSound db) (calls : ι → JobCall) (events : List (Event ι)) :
    HistoriesKept db calls events ↔
      AllMeet World.step (onCommit Standing) (World.start db (fun i => (calls i).statements)) events := by
  have all : AllEnd Changes (World.start db (fun i => (calls i).statements)) :=
    allEnd_start Changes db _ (fun i => call_changes (calls i))
  have invariant := allEnd_invariant_iff Changes Standing HistoriesSound changes_sound_iff _ events all sound
  rw [invariant]
  constructor
  · intro kept first second split
    exact (kept first second split).1
  · intro reached first second split
    refine ⟨reached first second split, ?_⟩
    have grows := allEnd_relation Changes Grows grows_refl grows_trans changes_grow _ second (allEnd_run Changes _ first all)
    rw [← run_append, ← split] at grows
    exact sound_closed _ _ (reached first second split) (reached events [] (by rw [List.append_nil])) grows

end Runs

def sampleApplication : JobApplication where
  id := "application"
  userId := "candidate"
  jobId := "job"
  coverLetter := none
  status := .submitted
  submittedAt := 0
  withdrawnAt := none
  updatedAt := 0

def sampleJobs : JobDb where
  users := []
  opportunities := []
  applications := [sampleApplication]
  history := [{ applicationId := "application", fromStatus := none, toStatus := .submitted, changedById := "candidate", createdAt := 0 }]

theorem sampleJobs_sound : HistoriesSound sampleJobs := by
  intro application member
  rw [List.mem_singleton.mp member]
  exact ⟨rfl, List.isChain_singleton _, rfl⟩

def sampleCalls : Fin 2 → JobCall
  | 0 => .withdraw 10 "candidate" "application"
  | 1 => .updateStatus 10 "admin" "application" .reviewing

def callByCall : List (Event (Fin 2)) :=
  List.replicate 5 (.advance 1) ++ List.replicate 5 (.advance 0)

theorem application_histories_kept_sample : HistoriesKept sampleJobs sampleCalls callByCall :=
  (application_histories_kept sampleJobs sampleJobs_sound sampleCalls callByCall).mpr (by decide +kernel)

def bothReadFirst : List (Event (Fin 2)) :=
  [.advance 0, .advance 1] ++ List.replicate 4 (.advance 0) ++ List.replicate 4 (.advance 1)

-- Both calls read a submitted application, and the administrator's entry follows the withdrawal.
theorem withdrawn_application_reviewed : ¬HistoriesKept sampleJobs sampleCalls bothReadFirst := by
  intro kept
  have sound := (kept bothReadFirst [] (List.append_nil _).symm).1
  have reviewed : { sampleApplication with status := .reviewing, withdrawnAt := some 10, updatedAt := 10 } ∈
      (run World.step (World.start sampleJobs (fun i => (sampleCalls i).statements)) bothReadFirst).store.applications := by
    decide +kernel
  have chain := (sound _ reviewed).chain
  exact absurd chain (by decide +kernel)

end EduAi.Jobs
