import EduAi.Commerce.MembershipCheckout
import EduAi.Store.Checks
import EduAi.Store.Total
import EduAi.Store.Trim
import Mathlib.Data.List.Sort
import Mathlib.Tactic.Linarith

set_option autoImplicit false

namespace EduAi.Memberships

open EduAi.Store EduAi.Gds EduAi.Commerce EduAi.Payments

def postgresBigintMax : Int :=
  9223372036854775807

structure MembershipDurationPricing where
  baseMonthlyPriceAmountMinor : Int
  months : Int
  priceAmountMinor : Option Int
  discountPercent : Option Int
deriving DecidableEq, Repr

def durationPrice (input : MembershipDurationPricing) : Except Fault Int :=
  match input.priceAmountMinor with
  | some price =>
      if price < 0 then .error (.invariant "Fixed price must be non-negative.") else .ok price
  | none =>
      let discount := input.discountPercent.getD 0
      if discount < 0 ∨ 100 < discount then .error (.invariant "Discount percent must be between zero and 100.")
      else .ok ((input.baseMonthlyPriceAmountMinor * input.months * (100 - discount)).tdiv 100)

def calculateDurationPrice (input : MembershipDurationPricing) : Except Fault Int :=
  if input.baseMonthlyPriceAmountMinor < 0 then .error (.invariant "Base monthly price must be non-negative.")
  else if input.months ≤ 0 then .error (.invariant "Membership duration months must be a positive whole number.")
  else if input.priceAmountMinor.isSome = input.discountPercent.isSome then
    .error (.invariant "A duration requires exactly one fixed price or discount.")
  else durationPrice input

section Administration

structure MembershipDurationInputDto where
  months : Int
  priceAmountMinor : Option String
  discountPercent : Option Int
  displayOrder : Int
deriving DecidableEq, Repr

structure CreateMembershipPlanVersionDto where
  displayName : String
  baseMonthlyPriceAmountMinor : String
  currency : String
  salesStartAt : Option Instant
  salesEndAt : Option Instant
  durations : List MembershipDurationInputDto
deriving DecidableEq, Repr

-- The pattern ^(0|[1-9][0-9]{0,18})$ of an amount.
def amountText (text : String) : Bool :=
  match text.toList with
  | [] => false
  | first :: rest =>
      (first = '0' ∧ rest = []) ∨ ('1' ≤ first ∧ first ≤ '9' ∧ rest.length ≤ 18 ∧ rest.all Char.isDigit)

def MembershipDurationInputDto.valid (duration : MembershipDurationInputDto) : Bool :=
  1 ≤ duration.months ∧ duration.months ≤ 120 ∧ (∀ text ∈ duration.priceAmountMinor, amountText text) ∧
    (∀ discount ∈ duration.discountPercent, 0 ≤ discount ∧ discount ≤ 100) ∧
    0 ≤ duration.displayOrder ∧ duration.displayOrder ≤ 1000

def CreateMembershipPlanVersionDto.valid (input : CreateMembershipPlanVersionDto) : Bool :=
  1 ≤ input.displayName.length ∧ input.displayName.length ≤ 120 ∧ amountText input.baseMonthlyPriceAmountMinor ∧
    input.currency = "VND" ∧ 1 ≤ input.durations.length ∧ input.durations.length ≤ 24 ∧
    ∀ duration ∈ input.durations, duration.valid

def bigInt (text : String) : Nat :=
  text.toList.foldl (fun value c => 10 * value + (c.toNat - '0'.toNat)) 0

def parseAmountMinor (value : String) : Except Fault Int :=
  let amount : Int := bigInt value
  if postgresBigintMax < amount then .error (.badRequest "Membership amount exceeds the supported range.") else .ok amount

structure NormalizedDuration where
  months : Int
  priceAmountMinor : Option Int
  discountPercent : Option Int
  displayOrder : Int
deriving DecidableEq, Repr

structure NormalizedVersion where
  displayName : String
  baseMonthlyPriceAmountMinor : Int
  currency : String
  salesStartAt : Option Instant
  salesEndAt : Option Instant
  durations : List NormalizedDuration
deriving DecidableEq, Repr

def parsedPrice : Option String → Except Fault (Option Int)
  | none => .ok none
  | some text => (parseAmountMinor text).map some

def normalizeDuration (duration : MembershipDurationInputDto) : Except Fault NormalizedDuration := do
  let priceAmountMinor ← parsedPrice duration.priceAmountMinor
  let _ ← calculateDurationPrice {
    baseMonthlyPriceAmountMinor := 0
    months := duration.months
    priceAmountMinor := priceAmountMinor
    discountPercent := duration.discountPercent }
  return {
    months := duration.months
    priceAmountMinor := priceAmountMinor
    discountPercent := duration.discountPercent
    displayOrder := duration.displayOrder }

def salesWindow (input : CreateMembershipPlanVersionDto) : Prop :=
  ∀ start ∈ input.salesStartAt, ∀ stop ∈ input.salesEndAt, start < stop

instance (input : CreateMembershipPlanVersionDto) : Decidable (salesWindow input) := by
  unfold salesWindow
  infer_instance

def normalizeVersion (input : CreateMembershipPlanVersionDto) : Except Fault NormalizedVersion := do
  ensure (salesWindow input) (.badRequest "Membership sales end must follow its start.")
  let normalized ← input.durations.mapM normalizeDuration
  let durations := normalized.insertionSort (fun left right => left.displayOrder ≤ right.displayOrder)
  ensure ((durations.map (·.months)).Nodup ∧ (durations.map (·.displayOrder)).Nodup)
    (.badRequest "Membership durations and display order must be unique.")
  let baseMonthlyPriceAmountMinor ← parseAmountMinor input.baseMonthlyPriceAmountMinor
  return {
    displayName := jsTrim input.displayName
    baseMonthlyPriceAmountMinor := baseMonthlyPriceAmountMinor
    currency := "VND"
    salesStartAt := input.salesStartAt
    salesEndAt := input.salesEndAt
    durations := durations }

-- The validated request of the administration endpoint, as the service keeps it.
def admitVersion (input : CreateMembershipPlanVersionDto) : Except Fault NormalizedVersion := do
  ensure input.valid (.badRequest "Validation failed")
  normalizeVersion input

end Administration

section Tables

structure MembershipPlanVersion where
  id : Uuid
  displayName : String
  baseMonthlyPriceAmountMinor : Int
  currency : String
  salesStartAt : Option Instant
  salesEndAt : Option Instant
  forSale : Bool
  publishedById : Uuid
deriving DecidableEq, Repr

structure MembershipDurationOption extends NormalizedDuration where
  id : Uuid
  versionId : Uuid
deriving DecidableEq, Repr

inductive CommerceProductStatus where
  | draft | active | archived
deriving DecidableEq, Repr

structure MembershipProduct where
  id : Uuid
  membershipPlanVersionId : Uuid
  sellerId : Uuid
  status : CommerceProductStatus
deriving DecidableEq, Repr

structure DurationIntent extends MembershipCheckoutIntent where
  durationOptionId : Uuid
deriving DecidableEq, Repr

-- The snapshot a line takes, with the columns the database compares to what it finds itself.
structure SnapshotLine extends CommerceOrderLine where
  productId : Uuid
  displayTitle : String
  quantity : Int
  subtotalAmountMinor : Int
deriving DecidableEq, Repr

structure MembershipDb where
  versions : List MembershipPlanVersion
  durationOptions : List MembershipDurationOption
  products : List MembershipProduct
  orders : List CommerceOrder
  intents : List DurationIntent
  lines : List SnapshotLine
deriving DecidableEq, Repr

abbrev MembershipTxn (α : Type) :=
  Txn MembershipDb Fault α

def ofExcept {α : Type} (outcome : Except Fault α) : MembershipTxn α :=
  match outcome with
  | .ok a => pure a
  | .error e => throw e

def bigint (value : Int) : MembershipTxn Int := do
  require (-postgresBigintMax - 1 ≤ value ∧ value ≤ postgresBigintMax) (.raised "bigint out of range")
  pure value

def insertOrder (o : CommerceOrder) : MembershipTxn Unit := do
  let db ← get
  let _ ← bigint o.subtotalAmountMinor
  let _ ← bigint o.discountAmountMinor
  let _ ← bigint o.payableAmountMinor
  require (o.currency = "VND") (.check "commerce_orders_currency_check")
  require (0 ≤ o.subtotalAmountMinor ∧ 0 ≤ o.discountAmountMinor ∧ o.discountAmountMinor ≤ o.subtotalAmountMinor ∧
      o.payableAmountMinor = o.subtotalAmountMinor - o.discountAmountMinor) (.check "commerce_orders_totals_check")
  require (free (fun o => some o.id) o db.orders) (.unique "commerce_orders_pkey")
  modify (fun db => { db with orders := db.orders ++ [o] })

def insertIntent (i : DurationIntent) : MembershipTxn Unit := do
  let db ← get
  require (i.startsAt < i.endsAt) (.check "membership_checkout_intents_window_check")
  require (free (fun i => some i.orderId) i db.intents) (.unique "membership_checkout_intents_order_id_key")
  modify (fun db => { db with intents := db.intents ++ [i] })

def membershipFinalPrice (version : MembershipPlanVersion) (duration : MembershipDurationOption) : MembershipTxn Int :=
  match duration.priceAmountMinor with
  | some fixed => pure fixed
  | none => do
      let gross ← bigint (version.baseMonthlyPriceAmountMinor * duration.months)
      let scaled ← bigint (gross * (100 - duration.discountPercent.getD 0))
      pure (scaled.tdiv 100)

def membershipListPrice (version : MembershipPlanVersion) (duration : MembershipDurationOption) (finalPrice : Int) : MembershipTxn Int :=
  match duration.discountPercent with
  | none => pure finalPrice
  | some _ => bigint (version.baseMonthlyPriceAmountMinor * duration.months)

-- The list and the final amount the database works out for a version and a duration.
def recomputed (version : MembershipPlanVersion) (duration : MembershipDurationOption) : MembershipTxn (Int × Int) := do
  let finalPrice ← membershipFinalPrice version duration
  let listPrice ← membershipListPrice version duration finalPrice
  pure (listPrice, finalPrice)

def sourceOf (db : MembershipDb) (orderId versionId : Uuid) : Option (MembershipPlanVersion × MembershipDurationOption) := do
  let intent ← db.intents.find? (fun i => i.orderId = orderId ∧ i.versionId = versionId)
  let version ← db.versions.find? (fun v => v.id = intent.versionId)
  let duration ← db.durationOptions.find? (fun d => d.id = intent.durationOptionId ∧ d.versionId = version.id)
  return (version, duration)

def validateOrderLineSource (l : SnapshotLine) : MembershipTxn Unit := do
  let db ← get
  let order ← orThrow (db.orders.find? (fun o => o.id = l.orderId)) (.foreignKey "commerce_order_lines_order_id_fkey")
  let product ← orThrow (db.products.find? (fun p => p.id = l.productId)) (.foreignKey "commerce_order_lines_product_id_fkey")
  require (l.currency = order.currency ∧ l.productType = .membership ∧ l.sellerId = product.sellerId)
    (.raised "order line snapshot does not match order/product authority")
  require (l.productReferenceId = product.membershipPlanVersionId)
    (.raised "membership order line must match its immutable checkout intent")
  let (version, duration) ← orThrow (sourceOf db l.orderId product.membershipPlanVersionId)
    (.raised "membership order line must match its immutable checkout intent")
  let (listPrice, finalPrice) ← recomputed version duration
  let discount ← bigint (listPrice - finalPrice)
  require (product.status = .active ∧ l.displayTitle = version.displayName ∧ l.currency = version.currency ∧ l.quantity = 1 ∧
      l.unitListPriceAmountMinor = listPrice ∧ l.subtotalAmountMinor = listPrice ∧ l.discountAmountMinor = discount ∧
      l.finalAmountMinor = finalPrice) (.raised "membership order line must match its immutable checkout intent")

def insertOrderLine (l : SnapshotLine) : MembershipTxn Unit := do
  let db ← get
  validateOrderLineSource l
  require (l.currency = "VND") (.check "commerce_order_lines_currency_check")
  require (l.quantity = 1) (.check "commerce_order_lines_quantity_check")
  require (0 ≤ l.unitListPriceAmountMinor ∧ l.subtotalAmountMinor = l.unitListPriceAmountMinor * l.quantity ∧
      0 ≤ l.discountAmountMinor ∧ l.discountAmountMinor ≤ l.subtotalAmountMinor ∧
      l.finalAmountMinor = l.subtotalAmountMinor - l.discountAmountMinor) (.check "commerce_order_lines_totals_check")
  require (free (fun l => some l.id) l db.lines) (.unique "commerce_order_lines_pkey")
  modify (fun db => { db with lines := db.lines ++ [l] })

end Tables

section Checkout

structure CheckoutDraw extends MembershipDraw where
  productId : Uuid

-- The request of the learner, with the term and the removed courses the source works out for it.
structure CheckoutRequest where
  learnerId : Uuid
  keyHash : String
  requestHash : String
  versionId : Uuid
  durationOptionId : Uuid
  startsAt : Instant
  endsAt : Instant
  removedCourses : List RemovedCourseSnapshot
deriving DecidableEq, Repr

def onSale (version : MembershipPlanVersion) (now : Instant) : Bool :=
  version.forSale ∧ (∀ start ∈ version.salesStartAt, start ≤ now) ∧ ∀ stop ∈ version.salesEndAt, now < stop

def pricing (version : MembershipPlanVersion) (duration : MembershipDurationOption) : MembershipDurationPricing where
  baseMonthlyPriceAmountMinor := version.baseMonthlyPriceAmountMinor
  months := duration.months
  priceAmountMinor := duration.priceAmountMinor
  discountPercent := duration.discountPercent

def listAmount (version : MembershipPlanVersion) (duration : MembershipDurationOption) (amount : Int) : Int :=
  if duration.discountPercent = none then amount else version.baseMonthlyPriceAmountMinor * duration.months

def draftProduct (draw : CheckoutDraw) (version : MembershipPlanVersion) : MembershipProduct where
  id := draw.productId
  membershipPlanVersionId := version.id
  sellerId := version.publishedById
  status := .draft

def createProduct (p : MembershipProduct) : MembershipTxn MembershipProduct := do
  modify (fun db => { db with products := db.products ++ [p] })
  pure p

def activateProduct (p : MembershipProduct) : MembershipTxn MembershipProduct := do
  modify (fun db => { db with products := updateWhere (fun q => q.id = p.id) (fun q => { q with status := .active }) db.products })
  pure { p with status := .active }

def ensureActiveMembershipProduct (draw : CheckoutDraw) (version : MembershipPlanVersion) : MembershipTxn MembershipProduct := do
  let db ← get
  let product ← match db.products.find? (fun p => p.membershipPlanVersionId = version.id) with
    | some product => pure product
    | none => createProduct (draftProduct draw version)
  require (product.status ≠ .archived) (.conflict "MEMBERSHIP_UNAVAILABLE")
  if product.status = .draft then activateProduct product else pure product

def offerOf (request : CheckoutRequest) (sellerId : Uuid) (list amount : Int) : MembershipOffer where
  learnerId := request.learnerId
  keyHash := request.keyHash
  requestHash := request.requestHash
  versionId := request.versionId
  sellerId := sellerId
  listAmountMinor := list
  amountMinor := amount
  startsAt := request.startsAt
  endsAt := request.endsAt
  removedCourses := request.removedCourses

def snapshotLine (draw : CheckoutDraw) (offer : MembershipOffer) (productId : Uuid) (displayTitle : String) : SnapshotLine where
  toCommerceOrderLine := membershipLine draw.toMembershipDraw offer
  productId := productId
  displayTitle := displayTitle
  quantity := 1
  subtotalAmountMinor := offer.listAmountMinor

def createMembershipCheckout (draw : CheckoutDraw) (request : CheckoutRequest) (now : Instant) : MembershipTxn Unit := do
  let db ← get
  let version ← orThrow (db.versions.find? (fun v => v.id = request.versionId)) (.notFound "MEMBERSHIP_UNAVAILABLE")
  require (onSale version now) (.notFound "MEMBERSHIP_UNAVAILABLE")
  let duration ← orThrow (db.durationOptions.find? (fun d => d.id = request.durationOptionId ∧ d.versionId = version.id))
    (.badRequest "DURATION_UNAVAILABLE")
  let amount ← ofExcept (calculateDurationPrice (pricing version duration))
  let product ← ensureActiveMembershipProduct draw version
  let offer := offerOf request product.sellerId (listAmount version duration amount) amount
  insertOrder (membershipOrder draw.toMembershipDraw offer)
  insertIntent { membershipIntent draw.toMembershipDraw offer with durationOptionId := duration.id }
  insertOrderLine (snapshotLine draw offer product.id version.displayName)

end Checkout

end EduAi.Memberships
