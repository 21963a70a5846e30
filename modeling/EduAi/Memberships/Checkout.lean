import EduAi.Commerce.MembershipCheckout
import EduAi.Memberships.CalendarMonths
import EduAi.Payments.Fulfillment

set_option autoImplicit false

namespace EduAi.Memberships.Terms

open EduAi.Store EduAi.Gds EduAi.Commerce EduAi.Payments

structure DurationOption where
  id : Uuid
  months : Int
deriving DecidableEq, Repr

structure PlanVersion where
  id : Uuid
  planId : Uuid
  versionNumber : Int
  published : Bool
  planActive : Bool
  salesStartAt : Option Instant
  salesEndAt : Option Instant
  durationOptions : List DurationOption
deriving DecidableEq, Repr

inductive RequestedChange where
  | upgrade | downgrade
deriving DecidableEq, Repr

structure CreateMembershipCheckoutDto where
  versionId : Uuid
  durationOptionId : Uuid
  changedBenefitsConfirmed : Bool
  requestedChange : Option RequestedChange
deriving DecidableEq, Repr

-- A learner's request, with the hashes of its key and body and the amounts and the removed courses that the service works out.
structure CheckoutCall where
  learnerId : Uuid
  keyHash : String
  requestHash : String
  input : CreateMembershipCheckoutDto
  sellerId : Uuid
  listAmountMinor : Int
  amountMinor : Int
  removedCourses : List RemovedCourseSnapshot
deriving DecidableEq, Repr

section Queries

-- findFirst with orderBy key desc: the first of the rows with the greatest key.
def latestBy {α : Type} (key : α → Int) : List α → Option α
  | [] => none
  | row :: rest =>
      match latestBy key rest with
      | none => some row
      | some other => some (if key other ≤ key row then row else other)

variable (catalogue : List PlanVersion)

def onSale (version : PlanVersion) (now : Instant) : Bool :=
  version.salesStartAt.all (fun t => t ≤ now) && version.salesEndAt.all (fun t => now < t)

def offeredVersion (versionId : Uuid) : Option PlanVersion :=
  catalogue.find? (fun v => v.id = versionId ∧ v.published ∧ v.planActive)

def newestVersion (planId : Uuid) : Option PlanVersion :=
  latestBy (fun v => v.versionNumber) (catalogue.filter (fun v => v.planId = planId ∧ v.published))

def planOf (versionId : Uuid) : Option Uuid :=
  (catalogue.find? (fun v => v.id = versionId)).map (fun v => v.planId)

def startedTerms (db : CommerceDb) (learnerId : Uuid) (now : Instant) : List MembershipSubscription :=
  db.subscriptions.filter (fun s => s.userId = learnerId ∧ s.active ∧ s.startsAt ≤ now)

def currentSubscription (db : CommerceDb) (learnerId : Uuid) (now : Instant) : Option MembershipSubscription :=
  latestBy (fun s => s.expiresAt) (startedTerms db learnerId now)

def hasActiveMembership (current : Option MembershipSubscription) (now : Instant) : Bool :=
  current.any (fun s => now < s.expiresAt)

def ofPlan (current : Option MembershipSubscription) (planId : Uuid) : Bool :=
  current.any (fun s => planOf catalogue s.versionId = some planId)

end Queries

def checkoutAction (current : Option MembershipSubscription) (samePlan : Bool) (now : Instant) (change : Option RequestedChange) :
    MembershipChangeAction :=
  if current.isNone then .purchase
  else if samePlan then .renew
  else if hasActiveMembership current now = false then .purchase
  else if change = some .downgrade then .downgrade
  else .upgrade

structure QuotedTerm where
  action : MembershipChangeAction
  startsAt : Instant
  endsAt : Instant
  activatesImmediately : Bool
deriving DecidableEq, Repr

-- What createCheckoutTransaction reads before it writes: the version on sale, the current term, and the term to come.
def quoteTerm (catalogue : List PlanVersion) (learnerId : Uuid) (input : CreateMembershipCheckoutDto) (now : Instant) :
    CommerceTxn QuotedTerm := do
  let db ← get
  let version ← orThrow (offeredVersion catalogue input.versionId) (.notFound "MEMBERSHIP_UNAVAILABLE")
  require (onSale version now) (.notFound "MEMBERSHIP_UNAVAILABLE")
  let duration ← orThrow (version.durationOptions.find? (fun d => d.id = input.durationOptionId)) (.badRequest "DURATION_UNAVAILABLE")
  let current := currentSubscription db learnerId now
  let samePlan := ofPlan catalogue current version.planId
  require (¬ (hasActiveMembership current now ∧ samePlan = false ∧ input.requestedChange = none)) (.badRequest "CHANGE_KIND_REQUIRED")
  require ((newestVersion catalogue version.planId).map (fun v => v.id) = some version.id) (.conflict "MEMBERSHIP_VERSION_SUPERSEDED")
  let action := checkoutAction current samePlan now input.requestedChange
  match resolveMembershipChange action duration.months now (current.map (fun s => s.expiresAt)) with
  | .error message => throw (.raised message)
  | .ok term => do
      let endsAt ← orThrow term.endsAt (.raised "Invalid value for argument endsAt: Provided Date object is invalid.")
      pure { action, startsAt := term.startsAt, endsAt, activatesImmediately := term.activatesImmediately }

def CheckoutCall.offer (call : CheckoutCall) (term : QuotedTerm) : MembershipOffer where
  learnerId := call.learnerId
  keyHash := call.keyHash
  requestHash := call.requestHash
  versionId := call.input.versionId
  sellerId := call.sellerId
  listAmountMinor := call.listAmountMinor
  amountMinor := call.amountMinor
  startsAt := term.startsAt
  endsAt := term.endsAt
  removedCourses := call.removedCourses

-- createCheckout: a key that is known is answered from its record, and another pending checkout stops before any quote.
def createCheckout (draw : MembershipDraw) (catalogue : List PlanVersion) (call : CheckoutCall) (now : Instant) :
    CommerceTxn (Option QuotedTerm) := do
  require call.input.changedBenefitsConfirmed (.badRequest "BENEFITS_CONFIRMATION_REQUIRED")
  let db ← get
  match idempotencyRecord db call.learnerId membershipCheckoutOperation call.keyHash with
  | some existing => do
      require (existing.requestHash = call.requestHash) (.conflict "IDEMPOTENCY_KEY_REUSED")
      pure none
  | none => do
      require (¬ hasPendingIntent db call.learnerId) (.conflict "MEMBERSHIP_CHANGE_PENDING")
      let term ← quoteTerm catalogue call.learnerId call.input now
      createCheckoutTransaction draw (call.offer term)
      pure (some term)

section Latest

variable {α : Type} (key : α → Int)

theorem latestBy_mem (rows : List α) (row : α) (latest : latestBy key rows = some row) : row ∈ rows := by
  induction rows generalizing row with
  | nil => cases latest
  | cons first rest ih =>
      rw [latestBy] at latest
      cases found : latestBy key rest with
      | none =>
          rw [found] at latest
          obtain rfl := Option.some.inj latest
          exact List.mem_cons_self
      | some other =>
          rw [found] at latest
          obtain rfl := Option.some.inj latest
          by_cases ahead : key other ≤ key first
          · rw [if_pos ahead]
            exact List.mem_cons_self
          · rw [if_neg ahead]
            exact List.mem_cons_of_mem _ (ih other found)

theorem latestBy_none (rows : List α) (nothing : latestBy key rows = none) : rows = [] := by
  cases rows with
  | nil => rfl
  | cons first rest =>
      rw [latestBy] at nothing
      cases found : latestBy key rest with
      | none =>
          rw [found] at nothing
          cases nothing
      | some other =>
          rw [found] at nothing
          cases nothing

theorem latestBy_most (rows : List α) (row : α) (latest : latestBy key rows = some row) : ∀ other ∈ rows, key other ≤ key row := by
  induction rows generalizing row with
  | nil => cases latest
  | cons first rest ih =>
      rw [latestBy] at latest
      cases found : latestBy key rest with
      | none =>
          rw [found] at latest
          obtain rfl := Option.some.inj latest
          rw [latestBy_none key rest found]
          intro other member
          rw [List.mem_singleton.mp member]
      | some best =>
          rw [found] at latest
          obtain rfl := Option.some.inj latest
          have bounded := ih best found
          intro other member
          by_cases ahead : key best ≤ key first
          · rw [if_pos ahead]
            rcases List.mem_cons.mp member with rfl | later
            · exact le_rfl
            · exact le_trans (bounded other later) ahead
          · rw [if_neg ahead]
            rcases List.mem_cons.mp member with rfl | later
            · omega
            · exact bounded other later

end Latest

end EduAi.Memberships.Terms
