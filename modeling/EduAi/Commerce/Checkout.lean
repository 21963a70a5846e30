import EduAi.Commerce.Deferred
import EduAi.Commerce.Vouchers

set_option autoImplicit false

namespace EduAi.Commerce

open EduAi.Store EduAi.Gds EduAi.Payments

def createOrderOperation : String :=
  "commerce.create-order"

def reservationLifetime : Int := 900000

-- The ids drawn for the rows of one order, by the cart line they are drawn for; a reservation draws its own operation.
structure OrderDraw where
  orderId : Uuid
  settlementId : Uuid
  cartId : Uuid
  cartLineId : Uuid → Uuid
  lineId : Uuid → Uuid
  reservationId : Uuid → Uuid
  operationId : Uuid → Uuid

-- Each application names a course and a code already trimmed and upper-cased.
structure CheckoutRequest where
  learnerId : Uuid
  keyHash : String
  requestHash : String
  courseIds : Option (List Uuid)
  applications : List (Uuid × String)
deriving DecidableEq, Repr

def courseIdOf (db : CommerceDb) (l : CommerceCartLine) : Option Uuid :=
  (productById db l.productId).bind (fun p => p.courseId)

def selectedCourses (db : CommerceDb) (cart : CommerceCart) (request : CheckoutRequest) : List Uuid :=
  request.courseIds.getD (cart.lines.filterMap (courseIdOf db))

def isSelected (db : CommerceDb) (cart : CommerceCart) (request : CheckoutRequest) (l : CommerceCartLine) : Bool :=
  (courseIdOf db l).any (fun courseId => courseId ∈ selectedCourses db cart request)

structure PricedLine where
  id : Uuid
  productId : Uuid
  courseId : Uuid
  sellerId : Uuid
  listPrice : Int
  discount : Int
  voucherId : Option Uuid
deriving DecidableEq, Repr

def PricedLine.finalPrice (l : PricedLine) : Int :=
  l.listPrice - l.discount

def applicationOf (request : CheckoutRequest) (courseId : Uuid) : Option String :=
  ((request.applications.find? (fun application => application.1 = courseId)).map (fun application => application.2)).filter
    (fun code => code ≠ "")

def applyVoucher (now : Instant) (request : CheckoutRequest) (c : Course) (price : Int) (currency : String) :
    CommerceTxn (Option CommerceVoucherDecision) :=
  match applicationOf request c.id with
  | none => pure none
  | some code => do
      let decision ← evaluateForCommerce now request.learnerId c code price currency
      pure (some decision)

def pricedLine (l : CommerceCartLine) (p : CommerceProduct) (c : Course) (price : Int)
    (voucher : Option CommerceVoucherDecision) : PricedLine where
  id := l.id
  productId := l.productId
  courseId := c.id
  sellerId := p.sellerId
  listPrice := price
  discount := (voucher.map (fun v => v.discountAmountMinor)).getD 0
  voucherId := voucher.map (fun v => v.voucherId)

def priceLine (now : Instant) (request : CheckoutRequest) (cart : CommerceCart) (l : CommerceCartLine) :
    CommerceTxn PricedLine := do
  let db ← get
  let p ← orThrow (productById db l.productId) (.badRequest "STALE_CART")
  let c ← orThrow (p.courseId.bind (courseById db)) (.badRequest "STALE_CART")
  require (p.active ∧ ¬ c.deleted ∧ c.status = .published ∧ c.isPublic ∧ c.moderationClear) (.badRequest "STALE_CART")
  let price ← orThrow c.priceAmountMinor (.badRequest "STALE_CART")
  require (0 < price ∧ price ≤ maxSafeInteger) (.badRequest "STALE_CART")
  require (c.priceCurrency = some "VND" ∧ cart.currency = "VND") (.badRequest "UNSUPPORTED_CURRENCY")
  let voucher ← applyVoucher now request c price "VND"
  pure (pricedLine l p c price voucher)

def priceLines (now : Instant) (request : CheckoutRequest) (cart : CommerceCart) : List CommerceCartLine →
    CommerceTxn (List PricedLine)
  | [] => pure []
  | l :: rest => do
      let priced ← priceLine now request cart l
      let others ← priceLines now request cart rest
      pure (priced :: others)

def pricedOrder (draw : OrderDraw) (cart : CommerceCart) (request : CheckoutRequest) (lines : List PricedLine) :
    CommerceOrder where
  id := draw.orderId
  cartId := some cart.id
  buyerId := request.learnerId
  status := .pendingPayment
  fulfillmentStatus := .notStarted
  subtotalAmountMinor := total (fun l => l.listPrice) lines
  discountAmountMinor := total (fun l => l.discount) lines
  payableAmountMinor := total (fun l => l.listPrice) lines - total (fun l => l.discount) lines
  currency := "VND"
  confirmedSettlementId := none
  confirmedAt := none

def orderLine (draw : OrderDraw) (l : PricedLine) : CommerceOrderLine where
  id := draw.lineId l.id
  orderId := draw.orderId
  productType := .course
  productReferenceId := l.courseId
  sellerId := l.sellerId
  unitListPriceAmountMinor := l.listPrice
  discountAmountMinor := l.discount
  finalAmountMinor := l.finalPrice
  currency := "VND"

def voucherReservation (now : Instant) (draw : OrderDraw) (learnerId : Uuid) (l : PricedLine) (voucherId : Uuid) :
    CommercePromotionReservation where
  id := draw.reservationId l.id
  buyerId := learnerId
  orderId := draw.orderId
  orderLineId := draw.lineId l.id
  benefitType := .voucher
  voucherId := some voucherId
  scholarshipAwardId := none
  status := .reserved
  statusOperationId := none
  reservedAt := now
  expiresAt := now + reservationLifetime

def voucherBenefit (draw : OrderDraw) (l : PricedLine) (voucherId : Uuid) : CommerceOrderLineBenefit where
  orderLineId := draw.lineId l.id
  benefitType := .voucher
  sourceId := voucherId
  allocatedDiscountAmountMinor := l.discount
  reservationId := draw.reservationId l.id

def reserveVoucher (now : Instant) (draw : OrderDraw) (learnerId : Uuid) (l : PricedLine) : CommerceTxn Unit :=
  match l.voucherId with
  | none => pure ()
  | some voucherId => do
      insertReservation (voucherReservation now draw learnerId l voucherId)
      insertBenefit (voucherBenefit draw l voucherId)

def createLine (now : Instant) (draw : OrderDraw) (learnerId : Uuid) (l : PricedLine) : CommerceTxn Unit := do
  insertOrderLine (orderLine draw l)
  reserveVoucher now draw learnerId l

def retainedCart (draw : OrderDraw) (cart : CommerceCart) (lines : List CommerceCartLine) : CommerceCart where
  id := draw.cartId
  buyerId := cart.buyerId
  status := .active
  currency := cart.currency
  lines := lines.map (fun l => { l with id := draw.cartLineId l.id })

-- The new cart stands next to the old one until that is converted, which the index on active carts does not allow.
def retainLines (draw : OrderDraw) (cart : CommerceCart) (unselected : List CommerceCartLine) : CommerceTxn Unit :=
  if unselected = [] then pure ()
  else do
    insertCart (retainedCart draw cart unselected)
    updateCart cart.id (fun c => { c with lines := c.lines.filter (fun l => l ∉ unselected) })

def usageRedemption (draw : OrderDraw) (learnerId : Uuid) (l : PricedLine) (voucherId : Uuid) : VoucherRedemption where
  voucherId := voucherId
  userId := learnerId
  courseId := l.courseId
  redemptionKey := draw.operationId (draw.reservationId l.id)
  originalAmountMinor := l.listPrice
  discountAmountMinor := l.discount
  finalAmountMinor := l.finalPrice
  currency := "VND"

def consumeUsage (draw : OrderDraw) (learnerId : Uuid) (l : PricedLine) : CommerceTxn Unit :=
  match l.voucherId with
  | none => pure ()
  | some voucherId => do
      updateReservation (draw.reservationId l.id) (.consume (draw.operationId (draw.reservationId l.id)))
      insertRedemption (usageRedemption draw learnerId l voucherId)
      incrementRedeemed voucherId

def zeroSettlement (draw : OrderDraw) (now : Instant) : CommerceSettlement where
  id := draw.settlementId
  orderId := draw.orderId
  paymentAttemptId := none
  paymentEventId := none
  kind := .noPaymentRequired
  disposition := .internal
  provider := none
  providerSettlementReference := none
  amountMinor := 0
  currency := "VND"
  settledAt := now

def confirmZeroPayableOrder (now : Instant) (draw : OrderDraw) (learnerId : Uuid) (lines : List PricedLine) :
    CommerceTxn Unit := do
  insertSettlement now (zeroSettlement draw now)
  updateOrder draw.orderId (.confirm draw.settlementId now)
  lines.forM (consumeUsage draw learnerId)

def confirmIfFree (now : Instant) (draw : OrderDraw) (learnerId : Uuid) (o : CommerceOrder) (lines : List PricedLine) :
    CommerceTxn Unit :=
  if o.payableAmountMinor = 0 then confirmZeroPayableOrder now draw learnerId lines else pure ()

def createPricedOrder (now : Instant) (draw : OrderDraw) (request : CheckoutRequest) (cart : CommerceCart)
    (selected : List CommerceCartLine) (lines : List PricedLine) : CommerceTxn CommerceOrder := do
  let o := pricedOrder draw cart request lines
  insertOrder o
  lines.forM (createLine now draw request.learnerId)
  retainLines draw cart (cart.lines.filter (fun l => l ∉ selected))
  updateCart cart.id (fun c => { c with status := .converted })
  confirmIfFree now draw request.learnerId o lines
  let db ← get
  orThrow (orderById db draw.orderId) (.unavailable "Order result is unavailable.")

def resolveExisting (request : CheckoutRequest) (existing : CommerceIdempotencyRecord) : CommerceTxn CommerceOrder := do
  require (existing.requestHash = request.requestHash) (.conflict "IDEMPOTENCY_KEY_REUSED")
  let db ← get
  orThrow (orderById db existing.resourceId) (.unavailable "Order result is unavailable.")

def activeCart (db : CommerceDb) (buyerId : Uuid) : Option CommerceCart :=
  db.carts.find? (fun c => c.buyerId = buyerId ∧ c.status = .active)

-- The access service's word on each course is an input: whether the learner may already learn it in full.
def checkoutCart (now : Instant) (draw : OrderDraw) (request : CheckoutRequest) (owned : Uuid → Bool) :
    CommerceTxn CommerceOrder := do
  let db ← get
  let cart ← orThrow ((activeCart db request.learnerId).filter (fun c => c.lines ≠ [])) (.badRequest "EMPTY_CART")
  require (∀ courseId ∈ request.courseIds.getD [], courseId ∈ cart.lines.filterMap (courseIdOf db))
    (.badRequest "CHECKOUT_TARGET_NOT_IN_CART")
  let selected := cart.lines.filter (isSelected db cart request)
  require (selected ≠ []) (.badRequest "EMPTY_CHECKOUT_SELECTION")
  require (∀ courseId ∈ selected.filterMap (courseIdOf db), owned courseId = false) (.conflict "ALREADY_OWNED")
  require (∀ application ∈ request.applications, application.1 ∈ selectedCourses db cart request)
    (.badRequest "VOUCHER_TARGET_NOT_SELECTED")
  let lines ← priceLines now request cart selected
  createPricedOrder now draw request cart selected lines

def createOrderTransaction (now : Instant) (draw : OrderDraw) (request : CheckoutRequest) (owned : Uuid → Bool) :
    CommerceTxn CommerceOrder := do
  let db ← get
  match idempotencyRecord db request.learnerId createOrderOperation request.keyHash with
  | some existing => resolveExisting request existing
  | none => do
      recordIdempotency {
        actorId := request.learnerId
        operation := createOrderOperation
        keyHash := request.keyHash
        requestHash := request.requestHash
        resourceType := "commerce_order"
        resourceId := draw.orderId }
      checkoutCart now draw request owned

end EduAi.Commerce
