import EduAi.Store.Interleaving
import EduAi.Store.Table

set_option autoImplicit false

namespace EduAi.Jobs

open EduAi.Store
open EduAi.Store.Statements (query execute refuseUnless orRefuse)

abbrev Uuid := String
abbrev Instant := Int

inductive Fault where
  | notFound (message : String)
  | badRequest (message : String)
  | conflict (message : String)
  | missingRow (table : String)
deriving DecidableEq, Repr

inductive JobStatus where
  | draft | published | closed
deriving DecidableEq, Repr

inductive JobApplicationStatus where
  | submitted | reviewing | shortlisted | accepted | rejected | withdrawn
deriving DecidableEq, Repr

def JobApplicationStatus.text : JobApplicationStatus → String
  | .submitted => "submitted"
  | .reviewing => "reviewing"
  | .shortlisted => "shortlisted"
  | .accepted => "accepted"
  | .rejected => "rejected"
  | .withdrawn => "withdrawn"

def transitions : JobApplicationStatus → List JobApplicationStatus
  | .submitted => [.reviewing, .shortlisted, .rejected, .withdrawn]
  | .reviewing => [.shortlisted, .accepted, .rejected, .withdrawn]
  | .shortlisted => [.accepted, .rejected, .withdrawn]
  | .accepted => []
  | .rejected => []
  | .withdrawn => []

structure JobOpportunity where
  id : Uuid
  title : String
  companyName : String
  status : JobStatus
  closesAt : Option Instant
  deletedAt : Option Instant
deriving DecidableEq, Repr

structure Applicant where
  id : Uuid
  fullName : String
  email : String
deriving DecidableEq, Repr

structure JobApplication where
  id : Uuid
  userId : Uuid
  jobId : Uuid
  coverLetter : Option String
  status : JobApplicationStatus
  submittedAt : Instant
  withdrawnAt : Option Instant
  updatedAt : Instant
deriving DecidableEq, Repr

structure JobApplicationStatusHistory where
  applicationId : Uuid
  fromStatus : Option JobApplicationStatus
  toStatus : JobApplicationStatus
  changedById : Uuid
  createdAt : Instant
deriving DecidableEq, Repr

structure JobDb where
  users : List Applicant
  opportunities : List JobOpportunity
  applications : List JobApplication
  history : List JobApplicationStatusHistory
deriving DecidableEq, Repr

def historyOf (db : JobDb) (applicationId : Uuid) : List JobApplicationStatusHistory :=
  db.history.filter (fun e => e.applicationId = applicationId)

structure ApplicationResponse where
  application : JobApplication
  job : Option JobOpportunity
  history : List JobApplicationStatusHistory
  user : Option Applicant
deriving DecidableEq, Repr

def applicationSelect (admin : Bool) (id : Uuid) (db : JobDb) : Option ApplicationResponse :=
  (db.applications.find? (fun a => a.id = id)).map (fun application =>
    { application
      job := db.opportunities.find? (fun j => j.id = application.jobId)
      history := historyOf db id
      user := if admin then db.users.find? (fun u => u.id = application.userId) else none })

def createHistory (entry : JobApplicationStatusHistory) (db : JobDb) : JobDb :=
  { db with history := db.history ++ [entry] }

def updateApplication (id : Uuid) (f : JobApplication → JobApplication) (db : JobDb) : JobDb :=
  { db with applications := updateWhere (fun a => a.id = id) f db.applications }

def createApplication (row : JobApplication) (db : JobDb) : JobDb :=
  { db with applications := db.applications ++ [row] }

def activeJob (db : JobDb) (now : Instant) (jobId : Uuid) : Bool :=
  db.opportunities.any (fun j => j.id = jobId ∧ j.status = .published ∧ j.deletedAt = none ∧ j.closesAt.all (fun closes => now < closes))

structure ApplyToJobDto where
  coverLetter : Option String
deriving DecidableEq, Repr

def apply (now : Instant) (applicationId userId jobId : Uuid) (input : ApplyToJobDto) : Txn JobDb Fault ApplicationResponse := do
  let db ← get
  require (activeJob db now jobId = true) (.badRequest "Job is not accepting applications")
  require (∀ a ∈ db.applications, ¬(a.userId = userId ∧ a.jobId = jobId)) (.conflict "You have already applied to this job")
  modify (createApplication
    { id := applicationId, userId, jobId, coverLetter := input.coverLetter, status := .submitted,
      submittedAt := now, withdrawnAt := none, updatedAt := now })
  modify (createHistory { applicationId, fromStatus := none, toStatus := .submitted, changedById := userId, createdAt := now })
  let db ← get
  orThrow (applicationSelect false applicationId db) (.missingRow "job_applications")

abbrev JobStatements := Statements JobDb Uuid Fault

structure StatusChange where
  current : JobApplication
  application : ApplicationResponse
deriving DecidableEq, Repr

def assertTransition (before after : JobApplicationStatus) : JobStatements Unit :=
  refuseUnless (after ∈ transitions before) (.badRequest s!"Invalid application transition from {before.text} to {after.text}")

def writeStatus (admin : Bool) (now : Instant) (actorId id : Uuid) (current : JobApplication) (status : JobApplicationStatus)
    (f : JobApplication → JobApplication) : JobStatements StatusChange := do
  execute [id] (updateApplication id (fun a => { f a with status, updatedAt := now }))
  execute [] (createHistory
    { applicationId := id, fromStatus := some current.status, toStatus := status, changedById := actorId, createdAt := now })
  let selected ← query (applicationSelect admin id)
  let application ← orRefuse selected (.missingRow "job_applications")
  return { current, application }

def withdraw (now : Instant) (userId id : Uuid) : JobStatements StatusChange := do
  let found ← query (fun db => db.applications.find? (fun a => a.id = id ∧ a.userId = userId))
  let current ← orRefuse found (.notFound "Application not found")
  assertTransition current.status .withdrawn
  writeStatus false now userId id current .withdrawn (fun a => { a with withdrawnAt := some now })

def updateStatus (now : Instant) (actorId id : Uuid) (status : JobApplicationStatus) : JobStatements StatusChange := do
  let found ← query (fun db => db.applications.find? (fun a => a.id = id))
  let current ← orRefuse found (.notFound "Application not found")
  assertTransition current.status status
  writeStatus true now actorId id current status (fun a => a)

inductive JobCall where
  | withdraw (now : Instant) (userId id : Uuid)
  | updateStatus (now : Instant) (actorId id : Uuid) (status : JobApplicationStatus)
deriving DecidableEq, Repr

def JobCall.statements : JobCall → JobStatements StatusChange
  | .withdraw now userId id => EduAi.Jobs.withdraw now userId id
  | .updateStatus now actorId id status => EduAi.Jobs.updateStatus now actorId id status

end EduAi.Jobs
