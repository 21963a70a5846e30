import EduAi.Commerce.Deferred

set_option autoImplicit false

namespace EduAi.Commerce

open EduAi.Store EduAi.Gds EduAi.Payments

def membershipCheckoutOperation : String :=
  "membership_checkout"

structure MembershipDraw where
  orderId : Uuid
  lineId : Uuid

-- The version a learner buys, with the price and the term the source works out for it.
structure MembershipOffer where
  learnerId : Uuid
  keyHash : String
  requestHash : String
  versionId : Uuid
  sellerId : Uuid
  listAmountMinor : Int
  amountMinor : Int
  startsAt : Instant
  endsAt : Instant
  removedCourses : List RemovedCourseSnapshot
deriving DecidableEq, Repr

def membershipOrder (draw : MembershipDraw) (offer : MembershipOffer) : CommerceOrder where
  id := draw.orderId
  cartId := none
  buyerId := offer.learnerId
  status := .pendingPayment
  fulfillmentStatus := .notStarted
  subtotalAmountMinor := offer.listAmountMinor
  discountAmountMinor := offer.listAmountMinor - offer.amountMinor
  payableAmountMinor := offer.amountMinor
  currency := "VND"
  confirmedSettlementId := none
  confirmedAt := none

def membershipIntent (draw : MembershipDraw) (offer : MembershipOffer) : MembershipCheckoutIntent where
  orderId := draw.orderId
  userId := offer.learnerId
  versionId := offer.versionId
  startsAt := offer.startsAt
  endsAt := offer.endsAt
  removedCourses := offer.removedCourses

def membershipLine (draw : MembershipDraw) (offer : MembershipOffer) : CommerceOrderLine where
  id := draw.lineId
  orderId := draw.orderId
  productType := .membership
  productReferenceId := offer.versionId
  sellerId := offer.sellerId
  unitListPriceAmountMinor := offer.listAmountMinor
  discountAmountMinor := offer.listAmountMinor - offer.amountMinor
  finalAmountMinor := offer.amountMinor
  currency := "VND"

def createMembershipOrder (draw : MembershipDraw) (offer : MembershipOffer) : CommerceTxn Unit := do
  insertOrder (membershipOrder draw offer)
  insertIntent (membershipIntent draw offer)
  insertOrderLine (membershipLine draw offer)

def hasPendingIntent (db : CommerceDb) (userId : Uuid) : Bool :=
  db.intents.any (fun i => i.userId = userId ∧ (orderById db i.orderId).any (fun o => o.status = .pendingPayment))

def createCheckoutTransaction (draw : MembershipDraw) (offer : MembershipOffer) : CommerceTxn Unit := do
  let db ← get
  match idempotencyRecord db offer.learnerId membershipCheckoutOperation offer.keyHash with
  | some existing => require (existing.requestHash = offer.requestHash) (.conflict "IDEMPOTENCY_KEY_REUSED")
  | none => do
      recordIdempotency {
        actorId := offer.learnerId
        operation := membershipCheckoutOperation
        keyHash := offer.keyHash
        requestHash := offer.requestHash
        resourceType := "commerce_order"
        resourceId := draw.orderId }
      require (¬ hasPendingIntent db offer.learnerId) (.conflict "MEMBERSHIP_CHANGE_PENDING")
      require ((versionById db offer.versionId).isSome) (.notFound "MEMBERSHIP_UNAVAILABLE")
      createMembershipOrder draw offer

end EduAi.Commerce
