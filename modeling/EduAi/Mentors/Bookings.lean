import EduAi.Store.Editing
import EduAi.Store.Txn
import EduAi.Store.WallClock

set_option autoImplicit false

namespace EduAi.Mentors

open EduAi.Store

abbrev Uuid := String
abbrev Instant := Int

inductive Fault where
  | notFound (message : String)
  | badRequest (message : String)
  | forbidden (message : String)
  | conflict (message : String)
  | range (message : String)
  | unique (index : String)
  | check (constraint : String)
  | missingRow (table : String)
deriving DecidableEq, Repr

inductive MentorApprovalStatus where
  | pending | approved | rejected
deriving DecidableEq, Repr

inductive MentorBookingStatus where
  | requested | accepted | rescheduleRequested | rejected | cancelled | completed
deriving DecidableEq, Repr

inductive RoleName where
  | student | instructor | platformAdmin
deriving DecidableEq, Repr

structure AuthenticatedUser where
  id : Uuid
  roles : List RoleName
deriving DecidableEq, Repr

structure MentorAvailability where
  dayOfWeek : Int
  startMinute : Int
  endMinute : Int
deriving DecidableEq, Repr

structure MentorProfile where
  id : Uuid
  userId : Uuid
  timezone : String
  status : MentorApprovalStatus
  isActive : Bool
  availability : List MentorAvailability
deriving DecidableEq, Repr

structure MentorBooking where
  id : Uuid
  mentorProfileId : Uuid
  studentId : Uuid
  topic : String
  scheduledStart : Instant
  scheduledEnd : Instant
  status : MentorBookingStatus
  pendingRequestedById : Uuid
  cancellationReason : Option String
deriving DecidableEq, Repr

structure MentorBookingStatusHistory where
  bookingId : Uuid
  fromStatus : Option MentorBookingStatus
  toStatus : MentorBookingStatus
  changedById : Uuid
  previousScheduledStart : Option Instant
  previousScheduledEnd : Option Instant
  scheduledStart : Instant
  scheduledEnd : Instant
  reason : Option String
deriving DecidableEq, Repr

structure MentorSession where
  id : Uuid
  bookingId : Uuid
deriving DecidableEq, Repr

structure MentorSessionAttendance where
  sessionId : Uuid
  userId : Uuid
  leftAt : Option Instant
deriving DecidableEq, Repr

structure MentorDb where
  profiles : List MentorProfile
  bookings : List MentorBooking
  history : List MentorBookingStatusHistory
  sessions : List MentorSession
  attendance : List MentorSessionAttendance
deriving DecidableEq, Repr

abbrev MentorTxn := Txn MentorDb Fault

def historyOf (db : MentorDb) (bookingId : Uuid) : List MentorBookingStatusHistory :=
  db.history.filter (fun e => e.bookingId = bookingId)

def proposalStatuses : List MentorBookingStatus :=
  [.requested, .rescheduleRequested]

def cancellableStatuses : List MentorBookingStatus :=
  [.requested, .accepted, .rescheduleRequested]

structure LocalParts where
  dayOfWeek : Int
  minute : Int
deriving DecidableEq, Repr

def localParts (zone : Zone) (date : Instant) : LocalParts where
  dayOfWeek := weekday (localDay zone date)
  minute := localMinute zone date

def fits (zone : Zone) (start finish : Instant) (slots : List MentorAvailability) : Bool :=
  let startLocal := localParts zone start
  let endLocal := localParts zone finish
  startLocal.dayOfWeek = endLocal.dayOfWeek ∧
    slots.any (fun slot => slot.dayOfWeek = startLocal.dayOfWeek ∧ slot.startMinute ≤ startLocal.minute ∧ endLocal.minute ≤ slot.endMinute)

def validDuration (start finish : Instant) : Prop :=
  15 * msPerMinute ≤ finish - start ∧ finish - start ≤ 240 * msPerMinute

instance (start finish : Instant) : Decidable (validDuration start finish) := by
  unfold validDuration
  infer_instance

-- A date that does not parse is none.
def assertTime (now : Instant) (start finish : Option Instant) : MentorTxn (Instant × Instant) := do
  let start ← orThrow start (.badRequest "Booking end must be after start")
  let finish ← orThrow finish (.badRequest "Booking end must be after start")
  require (start < finish) (.badRequest "Booking end must be after start")
  require (now < start) (.badRequest "Booking must be scheduled in the future")
  require (validDuration start finish) (.badRequest "Booking duration must be between 15 and 240 minutes")
  return (start, finish)

section Zones

-- The runtime's time zones by name.
variable (zones : String → Option Zone)

def assertAvailable (start finish : Instant) (timezone : String) (slots : List MentorAvailability) : MentorTxn Unit := do
  let zone ← orThrow (zones timezone) (.range s!"Invalid time zone specified: {timezone}")
  require (fits zone start finish slots = true) (.badRequest "Requested time is outside mentor availability")

structure CreateMentorBooking where
  now : Instant
  bookingId : Uuid
  studentId : Uuid
  mentorProfileId : Uuid
  topic : String
  scheduledStart : Option Instant
  scheduledEnd : Option Instant
deriving DecidableEq, Repr

structure CheckedBooking where
  request : CreateMentorBooking
  mentor : MentorProfile
  start : Instant
  finish : Instant
deriving DecidableEq, Repr

def activeMentor (db : MentorDb) (mentorProfileId : Uuid) : Option MentorProfile :=
  db.profiles.find? (fun p => p.id = mentorProfileId ∧ p.status = .approved ∧ p.isActive = true)

def checkCreate (request : CreateMentorBooking) : MentorTxn CheckedBooking := do
  let times ← assertTime request.now request.scheduledStart request.scheduledEnd
  let db ← get
  let mentor ← orThrow (activeMentor db request.mentorProfileId) (.notFound "Mentor not found")
  assertAvailable zones times.1 times.2 mentor.timezone mentor.availability
  return { request, mentor, start := times.1, finish := times.2 }

def requestedBooking (checked : CheckedBooking) : MentorBooking where
  id := checked.request.bookingId
  mentorProfileId := checked.request.mentorProfileId
  studentId := checked.request.studentId
  topic := checked.request.topic
  scheduledStart := checked.start
  scheduledEnd := checked.finish
  status := .requested
  pendingRequestedById := checked.request.studentId
  cancellationReason := none

def requestedEntry (checked : CheckedBooking) : MentorBookingStatusHistory where
  bookingId := checked.request.bookingId
  fromStatus := none
  toStatus := .requested
  changedById := checked.request.studentId
  previousScheduledStart := none
  previousScheduledEnd := none
  scheduledStart := checked.start
  scheduledEnd := checked.finish
  reason := none

structure BookingResponse where
  booking : MentorBooking
  history : List MentorBookingStatusHistory
deriving DecidableEq, Repr

def selectBooking (id : Uuid) : MentorTxn BookingResponse := do
  let db ← get
  let booking ← orThrow (db.bookings.find? (fun b => b.id = id)) (.missingRow "mentor_bookings")
  return { booking, history := historyOf db id }

def createBooking (checked : CheckedBooking) : MentorTxn BookingResponse := do
  let db ← get
  require (∀ b ∈ db.bookings, b.id ≠ checked.request.bookingId) (.unique "mentor_bookings_pkey")
  require (checked.start < checked.finish) (.check "mentor_booking_time_check")
  set { db with bookings := db.bookings ++ [requestedBooking checked], history := db.history ++ [requestedEntry checked] }
  selectBooking checked.request.bookingId

def findParticipant (db : MentorDb) (actorId id : Uuid) : Option (MentorBooking × MentorProfile) := do
  let booking ← db.bookings.find? (fun b => b.id = id)
  let profile ← db.profiles.find? (fun p => p.id = booking.mentorProfileId)
  if booking.studentId = actorId ∨ profile.userId = actorId then some (booking, profile) else none

def overlaps (booking : MentorBooking) (start finish : Instant) : Prop :=
  booking.scheduledStart < finish ∧ start < booking.scheduledEnd

instance (booking : MentorBooking) (start finish : Instant) : Decidable (overlaps booking start finish) := by
  unfold overlaps
  infer_instance

def assertNoAcceptedOverlap (db : MentorDb) (current : MentorBooking) : MentorTxn Unit :=
  require (∀ b ∈ db.bookings, ¬(b.id ≠ current.id ∧ b.status = .accepted ∧ overlaps b current.scheduledStart current.scheduledEnd ∧
      (b.mentorProfileId = current.mentorProfileId ∨ b.studentId = current.studentId)))
    (.conflict "The accepted booking overlaps another confirmed appointment")

def updateBooking (entry : MentorBookingStatusHistory) (f : MentorBooking → MentorBooking) : MentorTxn BookingResponse := do
  let db ← get
  set { db with
    bookings := updateWhere (fun b => b.id = entry.bookingId) (fun b => { f b with status := entry.toStatus }) db.bookings
    history := db.history ++ [entry] }
  selectBooking entry.bookingId

def statusEntry (actorId : Uuid) (current : MentorBooking) (toStatus : MentorBookingStatus) (reason : Option String) :
    MentorBookingStatusHistory where
  bookingId := current.id
  fromStatus := some current.status
  toStatus := toStatus
  changedById := actorId
  previousScheduledStart := none
  previousScheduledEnd := none
  scheduledStart := current.scheduledStart
  scheduledEnd := current.scheduledEnd
  reason := reason

def accept (actorId id : Uuid) : MentorTxn BookingResponse := do
  let db ← get
  let current ← orThrow (findParticipant db actorId id) (.notFound "Booking not found")
  require (current.1.status ∈ proposalStatuses) (.badRequest "Booking cannot be accepted from its current status")
  require (current.1.pendingRequestedById ≠ actorId) (.badRequest "The requester cannot accept their own proposal")
  assertNoAcceptedOverlap db current.1
  updateBooking (statusEntry actorId current.1 .accepted none) (fun b => b)

def transitionProposal (actorId id : Uuid) (status : MentorBookingStatus) (reason : String) : MentorTxn BookingResponse := do
  let db ← get
  let current ← orThrow (findParticipant db actorId id) (.notFound "Booking not found")
  require (current.1.status ∈ proposalStatuses) (.badRequest "Booking proposal cannot be rejected from its current status")
  require (current.1.pendingRequestedById ≠ actorId) (.badRequest "The requester cannot reject their own proposal")
  updateBooking (statusEntry actorId current.1 status (some reason)) (fun b => b)

def reject (actorId id : Uuid) (reason : String) : MentorTxn BookingResponse :=
  transitionProposal actorId id .rejected reason

def cancel (actorId id : Uuid) (reason : String) : MentorTxn BookingResponse := do
  let db ← get
  let current ← orThrow (findParticipant db actorId id) (.notFound "Booking not found")
  require (current.1.status ∈ cancellableStatuses) (.badRequest "Booking cannot be cancelled from its current status")
  updateBooking (statusEntry actorId current.1 .cancelled (some reason)) (fun b => { b with cancellationReason := some reason })

def rescheduleEntry (actorId : Uuid) (current : MentorBooking) (start finish : Instant) : MentorBookingStatusHistory where
  bookingId := current.id
  fromStatus := some current.status
  toStatus := .rescheduleRequested
  changedById := actorId
  previousScheduledStart := some current.scheduledStart
  previousScheduledEnd := some current.scheduledEnd
  scheduledStart := start
  scheduledEnd := finish
  reason := none

def reschedule (now : Instant) (actorId id : Uuid) (scheduledStart scheduledEnd : Option Instant) : MentorTxn BookingResponse := do
  let times ← assertTime now scheduledStart scheduledEnd
  let db ← get
  let current ← orThrow (findParticipant db actorId id) (.notFound "Booking not found")
  require (current.1.status = .accepted) (.badRequest "Only accepted bookings can be rescheduled")
  assertAvailable zones times.1 times.2 current.2.timezone current.2.availability
  updateBooking (rescheduleEntry actorId current.1 times.1 times.2) (fun b =>
    { b with scheduledStart := times.1, scheduledEnd := times.2, pendingRequestedById := actorId })

def endedParticipants (db : MentorDb) (booking : MentorBooking) (profile : MentorProfile) : Nat :=
  db.attendance.countP (fun a => db.sessions.any (fun s => s.id = a.sessionId ∧ s.bookingId = booking.id) ∧
    a.userId ∈ [booking.studentId, profile.userId] ∧ a.leftAt ≠ none)

def complete (user : AuthenticatedUser) (bookingId : Uuid) : MentorTxn BookingResponse := do
  let db ← get
  let current ← orThrow (findParticipant db user.id bookingId) (.notFound "Mentor booking not found")
  require (current.2.userId = user.id ∧ .instructor ∈ user.roles) (.forbidden "Only the booking mentor can complete the session")
  require (current.1.status = .accepted) (.badRequest "Only accepted bookings can be completed")
  require (endedParticipants db current.1 current.2 = 2) (.badRequest "Both participants must join and leave before completion")
  updateBooking (statusEntry user.id current.1 .completed none) (fun b => b)

-- The transactions of the two services, and what other services do to the rows these read.
inductive MentorCall where
  | accept (actorId id : Uuid)
  | reject (actorId id : Uuid) (reason : String)
  | cancel (actorId id : Uuid) (reason : String)
  | reschedule (now : Instant) (actorId id : Uuid) (scheduledStart scheduledEnd : Option Instant)
  | complete (user : AuthenticatedUser) (bookingId : Uuid)
  | environment (profiles : List MentorProfile) (sessions : List MentorSession) (attendance : List MentorSessionAttendance)
deriving DecidableEq, Repr

def mentorStep (db : MentorDb) : MentorCall → MentorDb
  | .accept actorId id => commit (EduAi.Mentors.accept actorId id) db
  | .reject actorId id reason => commit (EduAi.Mentors.reject actorId id reason) db
  | .cancel actorId id reason => commit (EduAi.Mentors.cancel actorId id reason) db
  | .reschedule now actorId id start finish => commit (EduAi.Mentors.reschedule zones now actorId id start finish) db
  | .complete user bookingId => commit (EduAi.Mentors.complete user bookingId) db
  | .environment profiles sessions attendance => { db with profiles, sessions, attendance }

-- The checks of create and its insert are two transactions, with any others between them.
abbrev mentorRun : Editing MentorDb CheckedBooking → EditInput MentorCall CreateMentorBooking → Editing MentorDb CheckedBooking :=
  editStep (mentorStep zones) (fun db request => returned (checkCreate zones request) db)
    (fun db checked => commit (createBooking checked) db)

end Zones

end EduAi.Mentors
