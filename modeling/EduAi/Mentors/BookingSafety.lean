import EduAi.Mentors.Bookings
import Mathlib.Data.List.Chain

set_option autoImplicit false

namespace EduAi.Mentors

open EduAi.Store

def Follows (before after : MentorBookingStatusHistory) : Prop :=
  after.fromStatus = some before.toStatus ∧
    if after.toStatus = .rescheduleRequested then
      after.previousScheduledStart = some before.scheduledStart ∧ after.previousScheduledEnd = some before.scheduledEnd
    else after.scheduledStart = before.scheduledStart ∧ after.scheduledEnd = before.scheduledEnd

structure Tells (last : MentorBookingStatusHistory) (booking : MentorBooking) : Prop where
  status : last.toStatus = booking.status
  start : last.scheduledStart = booking.scheduledStart
  finish : last.scheduledEnd = booking.scheduledEnd
  proposer : booking.status ∈ proposalStatuses → last.changedById = booking.pendingRequestedById

structure BookingHistory (entries : List MentorBookingStatusHistory) (booking : MentorBooking) : Prop where
  created : entries.head?.map (fun e => (e.fromStatus, e.toStatus)) = some (none, .requested)
  chain : entries.IsChain Follows
  current : ∃ last, entries.getLast? = some last ∧ Tells last booking

def Rivals (b b' : MentorBooking) : Prop :=
  b.id ≠ b'.id ∧ b.status = .accepted ∧ b'.status = .accepted ∧ (b.mentorProfileId = b'.mentorProfileId ∨ b.studentId = b'.studentId)

structure BookingsSound (db : MentorDb) : Prop where
  ids : UniqueKey (fun b : MentorBooking => some b.id) db.bookings
  owned : ∀ e ∈ db.history, ∃ b ∈ db.bookings, b.id = e.bookingId
  apart : ∀ b ∈ db.bookings, ∀ b' ∈ db.bookings, Rivals b b' → ¬overlaps b b'.scheduledStart b'.scheduledEnd
  histories : ∀ b ∈ db.bookings, BookingHistory (historyOf db b.id) b

theorem overlaps_comm (b b' : MentorBooking) (met : overlaps b b'.scheduledStart b'.scheduledEnd) :
    overlaps b' b.scheduledStart b.scheduledEnd :=
  ⟨met.2, met.1⟩

theorem rivals_comm (b b' : MentorBooking) (rivals : Rivals b b') : Rivals b' b :=
  ⟨rivals.1.symm, rivals.2.2.1, rivals.2.1, rivals.2.2.2.imp Eq.symm Eq.symm⟩

section Participants

variable (db : MentorDb) (actorId id : Uuid) (current : MentorBooking × MentorProfile)

theorem findParticipant_some (found : findParticipant db actorId id = some current) :
    current.1 ∈ db.bookings ∧ current.1.id = id ∧ current.2 ∈ db.profiles ∧ current.2.id = current.1.mentorProfileId ∧
      (current.1.studentId = actorId ∨ current.2.userId = actorId) := by
  unfold findParticipant at found
  obtain ⟨booking, atBooking, found⟩ := Option.bind_eq_some_iff.mp found
  obtain ⟨profile, atProfile, found⟩ := Option.bind_eq_some_iff.mp found
  split at found
  case isFalse => cases found
  case isTrue party =>
    obtain rfl := Option.some.inj found
    obtain ⟨listed, same⟩ := find_some _ _ _ atBooking
    obtain ⟨listed', same'⟩ := find_some _ _ _ atProfile
    exact ⟨listed, by simpa using same, listed', by simpa using same', party⟩

end Participants

structure Transition (db db' : MentorDb) (current : MentorBooking) (entry : MentorBookingStatusHistory) : Prop where
  listed : current ∈ db.bookings
  about : entry.bookingId = current.id
  left : entry.fromStatus = some current.status
  times : if entry.toStatus = .rescheduleRequested then
      entry.previousScheduledStart = some current.scheduledStart ∧ entry.previousScheduledEnd = some current.scheduledEnd
    else entry.scheduledStart = current.scheduledStart ∧ entry.scheduledEnd = current.scheduledEnd
  free : entry.toStatus = .accepted → ∀ b ∈ db.bookings, b.id ≠ current.id → b.status = .accepted →
    (b.mentorProfileId = current.mentorProfileId ∨ b.studentId = current.studentId) →
      ¬overlaps b current.scheduledStart current.scheduledEnd
  written : ∃ f : MentorBooking → MentorBooking,
    db' = { db with
      bookings := updateWhere (fun b => b.id = entry.bookingId) (fun b => { f b with status := entry.toStatus }) db.bookings
      history := db.history ++ [entry] } ∧
    (f current).id = current.id ∧ (f current).mentorProfileId = current.mentorProfileId ∧ (f current).studentId = current.studentId ∧
    (f current).scheduledStart = entry.scheduledStart ∧ (f current).scheduledEnd = entry.scheduledEnd ∧
    (entry.toStatus ∈ proposalStatuses → (f current).pendingRequestedById = entry.changedById)

theorem updateBooking_writes (entry : MentorBookingStatusHistory) (f : MentorBooking → MentorBooking) (db : MentorDb) :
    Wlp (updateBooking entry f) (fun _ db' => db' = { db with
      bookings := updateWhere (fun b => b.id = entry.bookingId) (fun b => { f b with status := entry.toStatus }) db.bookings
      history := db.history ++ [entry] }) db := by
  unfold updateBooking selectBooking
  simp only [wlp_bind, wlp_get, wlp_set, wlp_orThrow, wlp_pure]
  intro _ _
  trivial

theorem statusEntry_transition (db db' : MentorDb) (actorId : Uuid) (current : MentorBooking) (toStatus : MentorBookingStatus)
    (reason : Option String) (f : MentorBooking → MentorBooking) (listed : current ∈ db.bookings)
    (keeps : ∃ cancelled, f current = { current with cancellationReason := cancelled }) (ended : toStatus ∉ proposalStatuses)
    (free : toStatus = .accepted → ∀ b ∈ db.bookings, b.id ≠ current.id → b.status = .accepted →
      (b.mentorProfileId = current.mentorProfileId ∨ b.studentId = current.studentId) →
        ¬overlaps b current.scheduledStart current.scheduledEnd)
    (written : db' = { db with
      bookings := updateWhere (fun b => b.id = current.id) (fun b => { f b with status := toStatus }) db.bookings
      history := db.history ++ [statusEntry actorId current toStatus reason] }) :
    Transition db db' current (statusEntry actorId current toStatus reason) := by
  obtain ⟨cancelled, same⟩ := keeps
  have kept : toStatus ≠ .rescheduleRequested := by
    intro proposal
    rw [proposal] at ended
    exact ended (by decide)
  refine ⟨listed, rfl, rfl, ?_, free, f, written, ?_⟩
  · rw [if_neg (show (statusEntry actorId current toStatus reason).toStatus ≠ .rescheduleRequested from kept)]
    exact ⟨rfl, rfl⟩
  · rw [same]
    exact ⟨rfl, rfl, rfl, rfl, rfl, fun proposal => absurd proposal ended⟩

section Transactions

variable (zones : String → Option Zone) (db : MentorDb) (actorId id : Uuid)

theorem accept_transition :
    Wlp (accept actorId id) (fun _ db' => ∃ current, findParticipant db actorId id = some current ∧
      current.1.status ∈ proposalStatuses ∧ current.1.pendingRequestedById ≠ actorId ∧
      Transition db db' current.1 (statusEntry actorId current.1 .accepted none)) db := by
  unfold accept assertNoAcceptedOverlap
  simp only [wlp_bind, wlp_get, wlp_orThrow, wlp_require]
  intro current found proposal other free
  refine wlp_mono _ _ (updateBooking_writes _ _ db) ?_
  intro _ db' written
  refine ⟨current, found, proposal, other, ?_⟩
  refine statusEntry_transition db db' actorId current.1 .accepted none _ (findParticipant_some db actorId id current found).1
    ⟨current.1.cancellationReason, rfl⟩ (by decide) ?_ written
  intro _ b listed apart accepted shared met
  exact free b listed ⟨apart, accepted, met, shared⟩

theorem reject_transition (reason : String) :
    Wlp (reject actorId id reason) (fun _ db' => ∃ current, findParticipant db actorId id = some current ∧
      current.1.status ∈ proposalStatuses ∧ current.1.pendingRequestedById ≠ actorId ∧
      Transition db db' current.1 (statusEntry actorId current.1 .rejected (some reason))) db := by
  unfold reject transitionProposal
  simp only [wlp_bind, wlp_get, wlp_orThrow, wlp_require]
  intro current found proposal other
  refine wlp_mono _ _ (updateBooking_writes _ _ db) ?_
  intro _ db' written
  refine ⟨current, found, proposal, other, ?_⟩
  exact statusEntry_transition db db' actorId current.1 .rejected (some reason) _ (findParticipant_some db actorId id current found).1
    ⟨current.1.cancellationReason, rfl⟩ (by decide) (fun accepted => by cases accepted) written

theorem cancel_transition (reason : String) :
    Wlp (cancel actorId id reason) (fun _ db' => ∃ current entry, Transition db db' current entry) db := by
  unfold cancel
  simp only [wlp_bind, wlp_get, wlp_orThrow, wlp_require]
  intro current found cancellable
  refine wlp_mono _ _ (updateBooking_writes _ _ db) ?_
  intro _ db' written
  exact ⟨current.1, _, statusEntry_transition db db' actorId current.1 .cancelled (some reason) _
    (findParticipant_some db actorId id current found).1 ⟨some reason, rfl⟩ (by decide) (fun accepted => by cases accepted) written⟩

theorem complete_transition (user : AuthenticatedUser) :
    Wlp (complete user id) (fun _ db' => ∃ current entry, Transition db db' current entry) db := by
  unfold complete
  simp only [wlp_bind, wlp_get, wlp_orThrow, wlp_require]
  intro current found _ accepted _
  refine wlp_mono _ _ (updateBooking_writes _ _ db) ?_
  intro _ db' written
  exact ⟨current.1, _, statusEntry_transition db db' user.id current.1 .completed none _
    (findParticipant_some db user.id id current found).1 ⟨current.1.cancellationReason, rfl⟩ (by decide)
    (fun accepted => by cases accepted) written⟩

theorem reschedule_transition (now : Instant) (start finish : Option Instant) :
    Wlp (reschedule zones now actorId id start finish) (fun _ db' => ∃ current entry, Transition db db' current entry) db := by
  unfold reschedule assertTime assertAvailable
  simp only [wlp_bind, wlp_get, wlp_orThrow, wlp_require, wlp_pure]
  intro startAt _ finishAt _ _ _ _ current found accepted zone _ _
  refine wlp_mono _ _ (updateBooking_writes _ _ db) ?_
  intro _ db' written
  refine ⟨current.1, _, (findParticipant_some db actorId id current found).1, rfl, rfl, ?_, ?_, _, written, ?_⟩
  · rw [if_pos (show (rescheduleEntry actorId current.1 startAt finishAt).toStatus = .rescheduleRequested from rfl)]
    exact ⟨rfl, rfl⟩
  · intro accepted
    cases accepted
  · exact ⟨rfl, rfl, rfl, rfl, rfl, fun _ => rfl⟩

end Transactions

theorem historyOf_append (db : MentorDb) (bookings : List MentorBooking) (entry : MentorBookingStatusHistory) (id : Uuid) :
    historyOf { db with bookings, history := db.history ++ [entry] } id =
      historyOf db id ++ if entry.bookingId = id then [entry] else [] := by
  unfold historyOf
  rw [List.filter_append]
  by_cases same : entry.bookingId = id
  · simp [same]
  · simp [same]

theorem isChain_append_one (entries : List MentorBookingStatusHistory) (last entry : MentorBookingStatusHistory)
    (chain : entries.IsChain Follows) (ends : entries.getLast? = some last) (follows : Follows last entry) :
    (entries ++ [entry]).IsChain Follows := by
  rw [List.isChain_append]
  refine ⟨chain, List.isChain_singleton _, ?_⟩
  intro x atEnd y first
  obtain rfl := Option.some.inj (ends.symm.trans atEnd)
  obtain rfl := Option.some.inj first
  exact follows

theorem transition_sound (db db' : MentorDb) (current : MentorBooking) (entry : MentorBookingStatusHistory)
    (sound : BookingsSound db) (moved : Transition db db' current entry) : BookingsSound db' := by
  obtain ⟨listed, about, left, times, free, f, rfl, sameId, sameMentor, sameStudent, start, finish, proposer⟩ := moved
  have only (b : MentorBooking) (member : b ∈ db.bookings) (chosen : b.id = entry.bookingId) : b = current :=
    unique_eq _ db.bookings sound.ids b current current.id member listed (congrArg some (chosen.trans about)) rfl
  -- A row of the new table is an old one that the update passes by, or the row written.
  have rows (b : MentorBooking) (member : b ∈ updateWhere (fun b : MentorBooking => b.id = entry.bookingId)
      (fun b => { f b with status := entry.toStatus }) db.bookings) :
      (b ∈ db.bookings ∧ b.id ≠ entry.bookingId) ∨ b = { f current with status := entry.toStatus } := by
    obtain ⟨old, inOld, made⟩ := (mem_updateWhere _ _ _ _).mp member
    by_cases chosen : old.id = entry.bookingId
    · right
      rw [made, if_pos (by simpa using chosen), only old inOld chosen]
    · left
      rw [if_neg (by simpa using chosen)] at made
      rw [made]
      exact ⟨inOld, chosen⟩
  have clear (b : MentorBooking) (member : b ∈ db.bookings) (rivals : Rivals b { f current with status := entry.toStatus }) :
      ¬overlaps b (f current).scheduledStart (f current).scheduledEnd := by
    obtain ⟨apart, stands, accepted, shared⟩ := rivals
    have accepted : entry.toStatus = .accepted := accepted
    rw [if_neg (by rw [accepted]; decide)] at times
    rw [start, finish, times.1, times.2]
    rw [sameMentor, sameStudent] at shared
    exact free accepted b member (by rw [← sameId]; exact apart) stands shared
  constructor
  · refine unique_updateWhere _ _ _ _ sound.ids ?_
    intro b member chosen
    rw [only b member (by simpa using chosen)]
    exact congrArg some sameId
  · intro e member
    have kept (b : MentorBooking) (inOld : b ∈ db.bookings) : ∃ b' ∈ updateWhere (fun b : MentorBooking => b.id = entry.bookingId)
        (fun b => { f b with status := entry.toStatus }) db.bookings, b'.id = b.id := by
      refine ⟨_, (mem_updateWhere _ _ _ _).mpr ⟨b, inOld, rfl⟩, ?_⟩
      by_cases chosen : b.id = entry.bookingId
      · rw [if_pos (by simpa using chosen), only b inOld chosen]
        exact sameId
      · rw [if_neg (by simpa using chosen)]
    rcases List.mem_append.mp member with old | new
    · obtain ⟨b, inOld, same⟩ := sound.owned e old
      obtain ⟨b', inNew, same'⟩ := kept b inOld
      exact ⟨b', inNew, same'.trans same⟩
    · rw [List.mem_singleton.mp new]
      obtain ⟨b', inNew, same'⟩ := kept current listed
      exact ⟨b', inNew, same'.trans about.symm⟩
  · intro b inNew b' inNew' rivals
    rcases rows b inNew with ⟨old, -⟩ | rfl
    · rcases rows b' inNew' with ⟨old', -⟩ | rfl
      · exact sound.apart b old b' old' rivals
      · exact clear b old rivals
    · rcases rows b' inNew' with ⟨old', -⟩ | rfl
      · intro met
        exact clear b' old' (rivals_comm _ _ rivals) (overlaps_comm _ _ met)
      · exact absurd rfl rivals.1
  · intro b inNew
    rcases rows b inNew with ⟨old, other⟩ | rfl
    · rw [historyOf_append, if_neg (Ne.symm other), List.append_nil]
      exact sound.histories b old
    · have before := sound.histories current listed
      obtain ⟨last, ends, tells⟩ := before.current
      have follows : Follows last entry := by
        refine ⟨by rw [left, tells.status], ?_⟩
        rw [tells.start, tells.finish]
        exact times
      rw [historyOf_append, if_pos (about.trans sameId.symm)]
      rw [show ({ f current with status := entry.toStatus } : MentorBooking).id = current.id from sameId]
      refine ⟨?_, isChain_append_one _ last entry before.chain ends follows, entry, by simp, rfl, start.symm, finish.symm, ?_⟩
      · obtain ⟨first, begins, -⟩ := Option.map_eq_some_iff.mp before.created
        have created := before.created
        rw [begins] at created
        rw [List.head?_append, begins]
        exact created
      · intro proposal
        exact (proposer proposal).symm

theorem createBooking_sound (checked : CheckedBooking) (db : MentorDb) (sound : BookingsSound db) :
    Wlp (createBooking checked) (fun _ db' => BookingsSound db') db := by
  unfold createBooking selectBooking
  simp only [wlp_bind, wlp_get, wlp_require, wlp_set, wlp_orThrow, wlp_pure]
  intro fresh _ _ _
  have unseen : historyOf db checked.request.bookingId = [] := by
    unfold historyOf
    rw [List.filter_eq_nil_iff]
    intro e member same
    obtain ⟨b, listed, owns⟩ := sound.owned e member
    exact fresh b listed (owns.trans (by simpa using same))
  constructor
  · refine unique_append _ _ _ sound.ids ?_
    rw [free_iff]
    intro b member k same
    rw [← same]
    intro taken
    exact fresh b member (Option.some.inj taken)
  · intro e member
    rcases List.mem_append.mp member with old | new
    · obtain ⟨b, listed, owns⟩ := sound.owned e old
      exact ⟨b, List.mem_append_left _ listed, owns⟩
    · rw [List.mem_singleton.mp new]
      exact ⟨requestedBooking checked, List.mem_append_right _ (List.mem_singleton.mpr rfl), rfl⟩
  · intro b member b' member' rivals
    rcases List.mem_append.mp member with old | new
    · rcases List.mem_append.mp member' with old' | new'
      · exact sound.apart b old b' old' rivals
      · rw [List.mem_singleton.mp new'] at rivals
        cases rivals.2.2.1
    · rw [List.mem_singleton.mp new] at rivals
      cases rivals.2.1
  · intro b member
    rw [historyOf_append]
    rcases List.mem_append.mp member with old | new
    · rw [if_neg (fun same : (requestedEntry checked).bookingId = b.id => fresh b old same.symm), List.append_nil]
      exact sound.histories b old
    · rw [List.mem_singleton.mp new]
      rw [if_pos (show (requestedEntry checked).bookingId = (requestedBooking checked).id from rfl)]
      rw [show historyOf db (requestedBooking checked).id = [] from unseen]
      exact ⟨rfl, List.isChain_singleton _, requestedEntry checked, rfl, rfl, rfl, rfl, fun _ => rfl⟩

section Runs

variable (zones : String → Option Zone)

theorem mentorStep_sound (db : MentorDb) (call : MentorCall) (sound : BookingsSound db) : BookingsSound (mentorStep zones db call) := by
  cases call with
  | accept actorId id =>
      refine commit_of_wlp _ BookingsSound db sound (wlp_mono _ _ (accept_transition db actorId id) ?_)
      rintro _ db' ⟨current, -, -, -, moved⟩
      exact transition_sound db db' current.1 _ sound moved
  | reject actorId id reason =>
      refine commit_of_wlp _ BookingsSound db sound (wlp_mono _ _ (reject_transition db actorId id reason) ?_)
      rintro _ db' ⟨current, -, -, -, moved⟩
      exact transition_sound db db' current.1 _ sound moved
  | cancel actorId id reason =>
      refine commit_of_wlp _ BookingsSound db sound (wlp_mono _ _ (cancel_transition db actorId id reason) ?_)
      rintro _ db' ⟨current, entry, moved⟩
      exact transition_sound db db' current entry sound moved
  | reschedule now actorId id start finish =>
      refine commit_of_wlp _ BookingsSound db sound (wlp_mono _ _ (reschedule_transition zones db actorId id now start finish) ?_)
      rintro _ db' ⟨current, entry, moved⟩
      exact transition_sound db db' current entry sound moved
  | complete user bookingId =>
      refine commit_of_wlp _ BookingsSound db sound (wlp_mono _ _ (complete_transition db bookingId user) ?_)
      rintro _ db' ⟨current, entry, moved⟩
      exact transition_sound db db' current entry sound moved
  | environment profiles sessions attendance =>
      exact ⟨sound.ids, sound.owned, sound.apart, sound.histories⟩

theorem mentorRun_sound (e : Editing MentorDb CheckedBooking) (input : EditInput MentorCall CreateMentorBooking)
    (sound : BookingsSound e.store) : BookingsSound (mentorRun zones e input).store := by
  cases input with
  | use call => exact mentorStep_sound zones e.store call sound
  | read request =>
      show BookingsSound (editStep _ _ _ e (.read request)).store
      dsimp only [editStep]
      split <;> exact sound
  | write n =>
      show BookingsSound (editStep _ _ _ e (.write n)).store
      dsimp only [editStep]
      split
      · exact commit_of_wlp _ BookingsSound e.store sound (createBooking_sound _ e.store sound)
      · exact sound

end Runs

end EduAi.Mentors
