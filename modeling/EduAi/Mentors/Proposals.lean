import EduAi.Mentors.BookingSafety
import EduAi.Store.Total

set_option autoImplicit false

namespace EduAi.Mentors

open EduAi.Store

section Availability

variable (zone : Zone) (start finish : Instant) (slots : List MentorAvailability)

def slotFits (slot : MentorAvailability) : Prop :=
  slot.dayOfWeek = weekday (localDay zone start) ∧ slot.startMinute ≤ localMinute zone start ∧ localMinute zone finish ≤ slot.endMinute

-- Every instant of the proposed time lies in one slot of one local day, and no clock change falls within it.
def InsideOneSlot : Prop :=
  Steady zone start finish ∧ ∃ slot ∈ slots, ∃ day, weekday day = slot.dayOfWeek ∧
    StaysWithin zone day slot.startMinute slot.endMinute start finish

-- No clock change, and the end has no seconds past its minute unless the slot goes on past that minute.
def EndsOnMinute : Prop :=
  Steady zone start finish ∧ ∃ slot ∈ slots, slotFits zone start finish slot ∧
    (localMinute zone finish < slot.endMinute ∨ localTime zone finish = localMinute zone finish * msPerMinute)

theorem fits_iff : fits zone start finish slots = true ↔
    weekday (localDay zone start) = weekday (localDay zone finish) ∧ ∃ slot ∈ slots, slotFits zone start finish slot := by
  unfold fits slotFits localParts
  rw [decide_eq_true_eq, List.any_eq_true]
  refine and_congr_right (fun _ => exists_congr (fun slot => and_congr_right (fun _ => ?_)))
  exact decide_eq_true_iff

theorem insideOneSlot_iff (timely : start < finish ∧ validDuration start finish)
    (sameWeekday : weekday (localDay zone start) = weekday (localDay zone finish)) :
    InsideOneSlot zone start finish slots ↔ EndsOnMinute zone start finish slots := by
  have ordered : start ≤ finish := le_of_lt timely.1
  unfold InsideOneSlot EndsOnMinute
  refine and_congr_right (fun steady => exists_congr (fun slot => and_congr_right (fun _ => ?_)))
  have sameDay : localDay zone start = localDay zone finish := by
    have short : 240 * msPerMinute ≤ 6 * msPerDay := by decide
    exact steady_weekday zone start finish steady ordered (timely.2.2.trans short) sameWeekday
  have within := steady_staysWithin zone start finish steady ordered sameDay slot.startMinute slot.endMinute
  have starts := localMinute_ge zone start slot.startMinute
  have ends := localTime_le zone finish slot.endMinute
  constructor
  · rintro ⟨day, onDay, stays⟩
    obtain rfl := (stays start le_rfl ordered).1
    obtain ⟨late, early⟩ := within.mp stays
    obtain ⟨before, whole⟩ := ends.mp early
    exact ⟨⟨onDay.symm, starts.mpr late, before⟩, whole⟩
  · rintro ⟨⟨onDay, late, before⟩, whole⟩
    exact ⟨localDay zone start, onDay.symm, within.mpr ⟨starts.mp late, ends.mpr ⟨before, whole⟩⟩⟩

end Availability

section Zones

variable (zones : String → Option Zone)

structure Timely (now : Instant) (mentor : MentorProfile) (zone : Zone) (start finish : Instant) : Prop where
  known : zones mentor.timezone = some zone
  ordered : start < finish
  future : now < start
  duration : validDuration start finish
  fitting : fits zone start finish mentor.availability = true

theorem timely_inside_iff (now : Instant) (mentor : MentorProfile) (zone : Zone) (start finish : Instant)
    (timely : Timely zones now mentor zone start finish) :
    InsideOneSlot zone start finish mentor.availability ↔ EndsOnMinute zone start finish mentor.availability :=
  insideOneSlot_iff zone start finish mentor.availability ⟨timely.ordered, timely.duration⟩
    ((fits_iff zone start finish mentor.availability).mp timely.fitting).1

theorem checkCreate_accepts (request : CreateMentorBooking) (db db' : MentorDb) (checked : CheckedBooking)
    (accepted : checkCreate zones request db = .ok (checked, db')) :
    request.scheduledStart = some checked.start ∧ request.scheduledEnd = some checked.finish ∧
      activeMentor db request.mentorProfileId = some checked.mentor ∧
      ∃ zone, Timely zones request.now checked.mentor zone checked.start checked.finish := by
  have shown : Wlp (checkCreate zones request) (fun checked _ => request.scheduledStart = some checked.start ∧
      request.scheduledEnd = some checked.finish ∧ activeMentor db request.mentorProfileId = some checked.mentor ∧
      ∃ zone, Timely zones request.now checked.mentor zone checked.start checked.finish) db := by
    unfold checkCreate assertTime assertAvailable
    simp only [wlp_bind, wlp_get, wlp_orThrow, wlp_require, wlp_pure]
    intro start atStart finish atFinish ordered future duration mentor found zone known fitting
    exact ⟨atStart, atFinish, found, zone, known, ordered, future, duration, fitting⟩
  exact shown checked db' accepted

theorem checkCreate_timely (request : CreateMentorBooking) (db : MentorDb) (mentor : MentorProfile) (zone : Zone) (start finish : Instant)
    (atStart : request.scheduledStart = some start) (atFinish : request.scheduledEnd = some finish)
    (found : activeMentor db request.mentorProfileId = some mentor) (timely : Timely zones request.now mentor zone start finish) :
    checkCreate zones request db = .ok ({ request, mentor, start, finish }, db) := by
  have times : assertTime request.now request.scheduledStart request.scheduledEnd db = .ok ((start, finish), db) := by
    unfold assertTime
    rw [orThrow_bind_run _ _ _ _ _ atStart, orThrow_bind_run _ _ _ _ _ atFinish, require_bind_run _ _ _ _ timely.ordered,
      require_bind_run _ _ _ _ timely.future, require_bind_run _ _ _ _ timely.duration]
    rfl
  have available : assertAvailable zones start finish mentor.timezone mentor.availability db = .ok ((), db) := by
    unfold assertAvailable require
    rw [orThrow_bind_run _ _ _ _ _ timely.known, if_pos timely.fitting]
    rfl
  unfold checkCreate
  rw [bind_run _ _ _ _ _ times, get_bind_run, orThrow_bind_run _ _ _ _ _ found, bind_run _ _ _ _ _ available]
  rfl

section Reschedule

variable (now : Instant) (actorId id : Uuid) (scheduledStart scheduledEnd : Option Instant) (db : MentorDb)

theorem reschedule_accepts (db' : MentorDb) (response : BookingResponse)
    (accepted : reschedule zones now actorId id scheduledStart scheduledEnd db = .ok (response, db')) :
    ∃ start finish current zone, scheduledStart = some start ∧ scheduledEnd = some finish ∧ findParticipant db actorId id = some current ∧
      current.1.status = .accepted ∧ Timely zones now current.2 zone start finish := by
  have shown : Wlp (reschedule zones now actorId id scheduledStart scheduledEnd) (fun _ _ => ∃ start finish current zone,
      scheduledStart = some start ∧ scheduledEnd = some finish ∧ findParticipant db actorId id = some current ∧
      current.1.status = .accepted ∧ Timely zones now current.2 zone start finish) db := by
    unfold reschedule assertTime assertAvailable
    simp only [wlp_bind, wlp_get, wlp_orThrow, wlp_require, wlp_pure]
    intro start atStart finish atFinish ordered future duration current found stands zone known fitting _ _ _
    exact ⟨start, finish, current, zone, atStart, atFinish, found, stands, known, ordered, future, duration, fitting⟩
  exact shown response db' accepted

theorem updateBooking_runs (entry : MentorBookingStatusHistory) (f : MentorBooking → MentorBooking) (current : MentorBooking)
    (listed : db.bookings.find? (fun b => b.id = entry.bookingId) = some current) (same : ∀ b, (f b).id = b.id) :
    Wp (updateBooking entry f) (fun _ _ => True) db := by
  have found := find_updateWhere (fun b : MentorBooking => b.id = entry.bookingId) (fun b => b.id = entry.bookingId)
    (fun b => { f b with status := entry.toStatus }) db.bookings (fun b _ => by simp [same])
  rw [listed, Option.map_some] at found
  unfold updateBooking selectBooking
  simp only [wp_bind, wp_get, wp_set, wp_orThrow, wp_pure]
  exact ⟨_, found, trivial⟩

theorem findParticipant_listed (current : MentorBooking × MentorProfile) (found : findParticipant db actorId id = some current) :
    db.bookings.find? (fun b => b.id = id) = some current.1 := by
  unfold findParticipant at found
  obtain ⟨booking, atBooking, found⟩ := Option.bind_eq_some_iff.mp found
  obtain ⟨profile, -, found⟩ := Option.bind_eq_some_iff.mp found
  split at found
  case isFalse => cases found
  case isTrue party =>
    obtain rfl := Option.some.inj found
    exact atBooking

theorem reschedule_timely (start finish : Instant) (current : MentorBooking × MentorProfile) (zone : Zone)
    (atStart : scheduledStart = some start) (atFinish : scheduledEnd = some finish)
    (found : findParticipant db actorId id = some current) (stands : current.1.status = .accepted)
    (timely : Timely zones now current.2 zone start finish) :
    Wp (reschedule zones now actorId id scheduledStart scheduledEnd) (fun _ _ => True) db := by
  unfold reschedule assertTime assertAvailable
  simp only [wp_bind, wp_get, wp_orThrow, wp_require, wp_pure]
  refine ⟨start, atStart, finish, atFinish, timely.ordered, timely.future, timely.duration, current, found, stands, zone,
    timely.known, timely.fitting, ?_⟩
  refine updateBooking_runs db _ _ current.1 ?_ (fun _ => rfl)
  have about := (findParticipant_some db actorId id current found).2.1
  show db.bookings.find? (fun b => b.id = current.1.id) = some current.1
  rw [about]
  exact findParticipant_listed actorId id db current found

end Reschedule

def ProposesInside (e : Editing MentorDb CheckedBooking) : EditInput MentorCall CreateMentorBooking → Prop
  | .read request => ∀ checked db', checkCreate zones request e.store = .ok (checked, db') →
      ∃ zone, zones checked.mentor.timezone = some zone ∧ InsideOneSlot zone checked.start checked.finish checked.mentor.availability
  | .use (.reschedule now actorId id scheduledStart scheduledEnd) => ∀ response db',
      reschedule zones now actorId id scheduledStart scheduledEnd e.store = .ok (response, db') →
        ∃ start finish current zone, scheduledStart = some start ∧ scheduledEnd = some finish ∧
          findParticipant e.store actorId id = some current ∧ zones current.2.timezone = some zone ∧
          InsideOneSlot zone start finish current.2.availability
  | _ => True

def ProposesMinutes (e : Editing MentorDb CheckedBooking) : EditInput MentorCall CreateMentorBooking → Prop
  | .read request => ∀ mentor zone start finish, activeMentor e.store request.mentorProfileId = some mentor →
      request.scheduledStart = some start → request.scheduledEnd = some finish → Timely zones request.now mentor zone start finish →
        EndsOnMinute zone start finish mentor.availability
  | .use (.reschedule now actorId id scheduledStart scheduledEnd) => ∀ current zone start finish,
      findParticipant e.store actorId id = some current → current.1.status = .accepted → scheduledStart = some start →
        scheduledEnd = some finish → Timely zones now current.2 zone start finish → EndsOnMinute zone start finish current.2.availability
  | _ => True

theorem proposes_inside_iff (e : Editing MentorDb CheckedBooking) (input : EditInput MentorCall CreateMentorBooking) :
    ProposesInside zones e input ↔ ProposesMinutes zones e input := by
  cases input with
  | read request =>
      constructor
      · intro inside mentor zone start finish found atStart atFinish timely
        obtain ⟨zone', known, stays⟩ :=
          inside _ _ (checkCreate_timely zones request e.store mentor zone start finish atStart atFinish found timely)
        obtain rfl := Option.some.inj (timely.known.symm.trans known)
        exact (timely_inside_iff zones request.now mentor zone start finish timely).mp stays
      · intro minutes checked db' accepted
        obtain ⟨atStart, atFinish, found, zone, timely⟩ := checkCreate_accepts zones request e.store db' checked accepted
        exact ⟨zone, timely.known, (timely_inside_iff zones request.now checked.mentor zone _ _ timely).mpr
          (minutes checked.mentor zone _ _ found atStart atFinish timely)⟩
  | write n => exact Iff.rfl
  | use call =>
      cases call with
      | reschedule now actorId id scheduledStart scheduledEnd =>
          constructor
          · intro inside current zone start finish found stands atStart atFinish timely
            obtain ⟨response, db', accepted, -⟩ := reschedule_timely zones now actorId id scheduledStart scheduledEnd e.store start finish
              current zone atStart atFinish found stands timely
            obtain ⟨start', finish', current', zone', atStart', atFinish', found', known, stays⟩ := inside response db' accepted
            obtain rfl := Option.some.inj (atStart.symm.trans atStart')
            obtain rfl := Option.some.inj (atFinish.symm.trans atFinish')
            obtain rfl := Option.some.inj (found.symm.trans found')
            obtain rfl := Option.some.inj (timely.known.symm.trans known)
            exact (timely_inside_iff zones now current.2 zone start finish timely).mp stays
          · intro minutes response db' accepted
            obtain ⟨start, finish, current, zone, atStart, atFinish, found, stands, timely⟩ :=
              reschedule_accepts zones now actorId id scheduledStart scheduledEnd e.store db' response accepted
            exact ⟨start, finish, current, zone, atStart, atFinish, found, timely.known,
              (timely_inside_iff zones now current.2 zone start finish timely).mpr
                (minutes current zone start finish found stands atStart atFinish timely)⟩
      | accept actorId id => exact Iff.rfl
      | reject actorId id reason => exact Iff.rfl
      | cancel actorId id reason => exact Iff.rfl
      | complete user bookingId => exact Iff.rfl
      | environment profiles sessions attendance => exact Iff.rfl

end Zones

def Answers (db : MentorDb) (actorId id : Uuid) : Prop :=
  ∃ current, findParticipant db actorId id = some current ∧ ∃ last, (historyOf db id).getLast? = some last ∧
    last.toStatus ∈ proposalStatuses ∧ last.changedById ≠ actorId

def AnsweredByOther (e : Editing MentorDb CheckedBooking) : EditInput MentorCall CreateMentorBooking → Prop
  | .use (.accept actorId id) => ∀ response db', accept actorId id e.store = .ok (response, db') → Answers e.store actorId id
  | .use (.reject actorId id reason) => ∀ response db', reject actorId id reason e.store = .ok (response, db') → Answers e.store actorId id
  | _ => True

theorem pending_answers (db : MentorDb) (actorId id : Uuid) (current : MentorBooking × MentorProfile) (sound : BookingsSound db)
    (found : findParticipant db actorId id = some current) (proposal : current.1.status ∈ proposalStatuses)
    (other : current.1.pendingRequestedById ≠ actorId) : Answers db actorId id := by
  obtain ⟨listed, about, -⟩ := findParticipant_some db actorId id current found
  obtain ⟨last, ends, tells⟩ := (sound.histories current.1 listed).current
  rw [about] at ends
  refine ⟨current, found, last, ends, ?_, ?_⟩
  · rw [tells.status]
    exact proposal
  · rw [tells.proposer proposal]
    exact other

theorem answered_by_other (e : Editing MentorDb CheckedBooking) (input : EditInput MentorCall CreateMentorBooking)
    (sound : BookingsSound e.store) : AnsweredByOther e input := by
  unfold AnsweredByOther
  split
  case h_1 actorId id =>
      intro response db' accepted
      obtain ⟨current, found, proposal, other, -⟩ := accept_transition e.store actorId id response db' accepted
      exact pending_answers e.store actorId id current sound found proposal other
  case h_2 actorId id reason =>
      intro response db' rejected
      obtain ⟨current, found, proposal, other, -⟩ := reject_transition e.store actorId id reason response db' rejected
      exact pending_answers e.store actorId id current sound found proposal other
  case h_3 => trivial

/-- Bookings stay sound in every run; the proposed times lie in a slot exactly where the minutes of both ends do. -/
theorem mentor_bookings_safe (zones : String → Option Zone) (db : MentorDb) (sound : BookingsSound db)
    (inputs : List (EditInput MentorCall CreateMentorBooking)) :
    BookingsSound (run (mentorRun zones) (opened db) inputs).store ∧
      AllMeet (mentorRun zones) AnsweredByOther (opened db) inputs ∧
      (AllMeet (mentorRun zones) (ProposesInside zones) (opened db) inputs ↔
        AllMeet (mentorRun zones) (ProposesMinutes zones) (opened db) inputs) := by
  refine ⟨?_, ?_, ?_⟩
  · exact run_invariant (mentorRun zones) (fun e => BookingsSound e.store) (mentorRun_sound zones) (opened db) inputs sound
  · exact allMeet_invariant (mentorRun zones) AnsweredByOther (fun e => BookingsSound e.store) (mentorRun_sound zones)
      answered_by_other (opened db) inputs sound
  · exact allMeet_congr (mentorRun zones) _ _ (proposes_inside_iff zones) (opened db) inputs

def sampleZones (timezone : String) : Option Zone :=
  if timezone = "UTC" then some (fun _ => 0) else none

def sampleMentor : MentorProfile where
  id := "mentor"
  userId := "teacher"
  timezone := "UTC"
  status := .approved
  isActive := true
  availability := [{ dayOfWeek := 4, startMinute := 540, endMinute := 600 }]

def sampleMentors : MentorDb where
  profiles := [sampleMentor]
  bookings := []
  history := []
  sessions := []
  attendance := []

def sampleRequest (duration : Int) : CreateMentorBooking where
  now := 0
  bookingId := "booking"
  studentId := "student"
  mentorProfileId := "mentor"
  topic := "Review"
  scheduledStart := some (7 * msPerDay + 540 * msPerMinute)
  scheduledEnd := some (7 * msPerDay + 540 * msPerMinute + duration)

def sampleBookings : List (EditInput MentorCall CreateMentorBooking) :=
  [.read (sampleRequest (60 * msPerMinute)), .write 0, .use (.accept "teacher" "booking")]

theorem sampleMentors_sound : BookingsSound sampleMentors where
  ids := unique_nil _
  owned := fun _ member => by cases member
  apart := fun _ member => by cases member
  histories := fun _ member => by cases member

theorem sampleBookings_minutes : AllMeet (mentorRun sampleZones) (ProposesMinutes sampleZones) (opened sampleMentors) sampleBookings := by
  refine ⟨?_, trivial, trivial, trivial⟩
  intro mentor zone start finish found atStart atFinish timely
  obtain rfl := Option.some.inj found
  obtain rfl := Option.some.inj atStart
  obtain rfl := Option.some.inj atFinish
  obtain rfl : (fun _ => 0 : Zone) = zone := Option.some.inj timely.known
  refine ⟨fun _ _ _ => rfl, _, List.mem_singleton.mpr rfl, ?_, .inr ?_⟩
  · exact ⟨by decide, by decide, by decide⟩
  · decide

theorem mentor_bookings_safe_sample :
    (run (mentorRun sampleZones) (opened sampleMentors) sampleBookings).store.bookings.length = 1 ∧
      BookingsSound (run (mentorRun sampleZones) (opened sampleMentors) sampleBookings).store ∧
      AllMeet (mentorRun sampleZones) AnsweredByOther (opened sampleMentors) sampleBookings ∧
      AllMeet (mentorRun sampleZones) (ProposesInside sampleZones) (opened sampleMentors) sampleBookings := by
  obtain ⟨sound, answered, inside⟩ := mentor_bookings_safe sampleZones sampleMentors sampleMentors_sound sampleBookings
  exact ⟨by decide +kernel, sound, answered, inside.mpr sampleBookings_minutes⟩

-- The slot ends at ten o'clock, and a booking until thirty seconds past ten is accepted.
theorem seconds_past_slot_accepted :
    ¬AllMeet (mentorRun sampleZones) (ProposesInside sampleZones) (opened sampleMentors)
      [.read (sampleRequest (60 * msPerMinute + 30000))] := by
  intro meets
  obtain ⟨-, slot, listed, -, ends⟩ := (proposes_inside_iff sampleZones _ _).mp meets.1 sampleMentor (fun _ => 0) _ _ rfl rfl rfl
    { known := rfl, ordered := by decide, future := by decide, duration := by decide, fitting := by decide +kernel }
  obtain rfl := List.mem_singleton.mp listed
  exact absurd ends (by decide +kernel)

end EduAi.Mentors
