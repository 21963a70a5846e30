import EduAi.Commerce.Schema

set_option autoImplicit false

namespace EduAi.Commerce

open EduAi.Store EduAi.Gds EduAi.Payments

def insertCart (cart : CommerceCart) : CommerceTxn Unit := do
  let db ← get
  require (cart.status = .active) (.raised "commerce_carts must be created in its initial state")
  require (cart.currency = "VND") (.check "commerce_carts_currency_check")
  require (free (fun c => some c.id) cart db.carts) (.unique "commerce_carts_pkey")
  require (∀ c ∈ db.carts, ¬ (c.buyerId = cart.buyerId ∧ c.status = .active)) (.unique "commerce_carts_one_active_per_buyer_idx")
  modify (fun db => { db with carts := db.carts ++ [cart] })

def updateCart (id : Uuid) (patch : CommerceCart → CommerceCart) : CommerceTxn Unit := do
  let db ← get
  let _ ← orThrow (db.carts.find? (fun c => c.id = id)) (.missingRow "commerce_carts")
  modify (fun db => { db with carts := updateWhere (fun c => c.id = id) patch db.carts })

def idempotencyRecord (db : CommerceDb) (actorId : Uuid) (operation keyHash : String) : Option CommerceIdempotencyRecord :=
  db.idempotency.find? (fun r => r.actorId = actorId ∧ r.operation = operation ∧ r.keyHash = keyHash)

-- The record is created in progress and completed before its own transaction commits.
def recordIdempotency (row : CommerceIdempotencyRecord) : CommerceTxn Unit := do
  let db ← get
  require ((idempotencyRecord db row.actorId row.operation row.keyHash).isNone)
    (.unique "commerce_idempotency_records_actor_operation_key_idx")
  modify (fun db => { db with idempotency := db.idempotency ++ [row] })

def insertOrder (o : CommerceOrder) : CommerceTxn Unit := do
  let db ← get
  require (o.status = .pendingPayment ∧ o.fulfillmentStatus = .notStarted)
    (.raised "commerce_orders must be created in its initial state")
  require (∀ id, o.cartId = some id → ∃ c ∈ db.carts, c.id = id ∧ c.buyerId = o.buyerId ∧ c.currency = o.currency ∧
      c.status = .active) (.raised "order must own an active cart with matching buyer and currency")
  require (o.currency = "VND") (.check "commerce_orders_currency_check")
  require (0 ≤ o.subtotalAmountMinor ∧ 0 ≤ o.discountAmountMinor ∧ o.discountAmountMinor ≤ o.subtotalAmountMinor ∧
      o.payableAmountMinor = o.subtotalAmountMinor - o.discountAmountMinor) (.check "commerce_orders_totals_check")
  require (o.confirmedAt = none ∧ o.confirmedSettlementId = none) (.check "commerce_orders_status_timestamp_check")
  require (free (fun o => some o.id) o db.orders) (.unique "commerce_orders_pkey")
  require (free (fun o => o.cartId) o db.orders) (.unique "commerce_orders_cart_id_key")
  modify (fun db => { db with orders := db.orders ++ [o] })

def orderTransition : CommerceOrderStatus → CommerceOrderStatus → Bool
  | .pendingPayment, .confirmed => true
  | .pendingPayment, .cancelled => true
  | .pendingPayment, .expired => true
  | .cancelled, .latePaymentReview => true
  | .expired, .latePaymentReview => true
  | .latePaymentReview, .confirmed => true
  | .latePaymentReview, .latePaymentRefunded => true
  | old, new => old = new

def fulfillmentTransition : CommerceFulfillmentStatus → CommerceFulfillmentStatus → Bool
  | .notStarted, .processing => true
  | .processing, .fulfilled => true
  | .processing, .failed => true
  | .failed, .processing => true
  | old, new => old = new

inductive OrderPatch where
  | confirm (settlementId : Uuid) (now : Instant)
  | close (expired : Bool)
  | lateReview
  | lateRefunded
  | fulfill (status : CommerceFulfillmentStatus)
deriving DecidableEq, Repr

def OrderPatch.apply : OrderPatch → CommerceOrder → CommerceOrder
  | .confirm settlementId now, o =>
      { o with status := .confirmed, confirmedSettlementId := some settlementId, confirmedAt := some now }
  | .close expired, o => { o with status := if expired then .expired else .cancelled }
  | .lateReview, o => { o with status := .latePaymentReview }
  | .lateRefunded, o => { o with status := .latePaymentRefunded }
  | .fulfill status, o => { o with fulfillmentStatus := status }

def captureKey (orderId : Uuid) : String :=
  "gds:capture:" ++ orderId

def reserveKey (orderId : Uuid) : String :=
  "gds:reserve:" ++ orderId

def gdsOrderReference (orderId : Uuid) : String :=
  "gds:order:" ++ orderId

def captureProven (db : CommerceDb) (o : CommerceOrder) : Bool :=
  db.gds.holds.any (fun h => h.orderRef = o.id ∧ h.amountMinor = o.payableAmountMinor ∧ h.status = .captured ∧
    db.gds.wallets.any (fun w => w.id = h.walletId ∧ w.buyerId = o.buyerId) ∧
    db.gds.journal.any (fun j => j.walletId = h.walletId ∧ j.orderRef = some o.id ∧ j.kind = .capture ∧
      j.eventKey = captureKey o.id ∧ j.amountMinor = o.payableAmountMinor))

def attemptOfSettlement (db : CommerceDb) (s : CommerceSettlement) : Option CommercePaymentAttempt :=
  s.paymentAttemptId.bind (attemptById db)

def confirmable (db : CommerceDb) (o : CommerceOrder) (s : CommerceSettlement) : Bool :=
  s.orderId = o.id ∧ s.amountMinor = o.payableAmountMinor ∧ s.currency = o.currency ∧
    ((s.disposition = .internal ∧ s.kind = .noPaymentRequired) ∨
      (s.disposition = .matched ∧ (attemptOfSettlement db s).any (fun a => a.status = .paid)) ∨
      (s.disposition = .lateCollection ∧ (attemptOfSettlement db s).any (fun a => a.status = .latePaid)) ∨
      (s.kind = .walletCapture ∧ s.disposition = .internal ∧ s.provider = some .gds ∧
        s.providerSettlementReference = some (gdsOrderReference o.id) ∧ 0 < o.payableAmountMinor ∧
        (∀ a ∈ db.attempts, a.orderId ≠ o.id) ∧ captureProven db o))

def confirmingSettlement (db : CommerceDb) (o : CommerceOrder) : Option CommerceSettlement :=
  o.confirmedSettlementId.bind (settlementById db)

def updateOrder (id : Uuid) (patch : OrderPatch) : CommerceTxn Unit := do
  let db ← get
  let old ← orThrow (orderById db id) (.missingRow "commerce_orders")
  let new := patch.apply old
  require (orderTransition old.status new.status) (.raised "invalid commerce order status transition")
  require (fulfillmentTransition old.fulfillmentStatus new.fulfillmentStatus) (.raised "invalid commerce fulfillment transition")
  require (old.confirmedSettlementId = none ∨ new.confirmedSettlementId = old.confirmedSettlementId)
    (.raised "confirmed settlement is immutable")
  require (new.confirmedSettlementId = none ∨ new.status = .confirmed)
    (.raised "only a confirmed order may reference its confirming settlement")
  require (new.confirmedSettlementId = none ∨ (confirmingSettlement db new).any (confirmable db new))
    (.raised "confirming settlement must belong to the order and be confirmable")
  require (old.confirmedAt = none ∨ new.confirmedAt = old.confirmedAt) (.raised "order terminal timestamps are immutable")
  require (new.status = .confirmed → new.confirmedAt.isSome ∧ new.confirmedSettlementId.isSome)
    (.check "commerce_orders_status_timestamp_check")
  require (new.fulfillmentStatus = .notStarted ∨ new.status = .confirmed) (.check "commerce_orders_fulfillment_check")
  modify (fun db => { db with orders := updateWhere (fun o => o.id = id) patch.apply db.orders })

-- What the text of a uuid, which every id column holds, says of the sources that are built from it.
def uuidText (id : Uuid) : Bool :=
  ':' ∉ id.toList

def insertOrderLine (l : CommerceOrderLine) : CommerceTxn Unit := do
  let db ← get
  require (uuidText l.id) (.check "uuid")
  let o ← orThrow (orderById db l.orderId) (.foreignKey "commerce_order_lines_order_id_fkey")
  require (l.currency = o.currency) (.raised "order line snapshot does not match order/product authority")
  require (0 ≤ l.unitListPriceAmountMinor ∧ 0 ≤ l.discountAmountMinor ∧ l.discountAmountMinor ≤ l.unitListPriceAmountMinor ∧
      l.finalAmountMinor = l.unitListPriceAmountMinor - l.discountAmountMinor) (.check "commerce_order_lines_totals_check")
  require (free (fun l => some l.id) l db.lines) (.unique "commerce_order_lines_pkey")
  modify (fun db => { db with lines := db.lines ++ [l] })

def insertIntent (i : MembershipCheckoutIntent) : CommerceTxn Unit := do
  let db ← get
  let _ ← orThrow (orderById db i.orderId) (.foreignKey "membership_checkout_intents_order_id_fkey")
  require (i.startsAt < i.endsAt) (.check "membership_checkout_intents_window_check")
  require (free (fun i => some i.orderId) i db.intents) (.unique "membership_checkout_intents_order_id_key")
  modify (fun db => { db with intents := db.intents ++ [i] })

def holdsBenefit (r : CommercePromotionReservation) : Bool :=
  r.status = .reserved || r.status = .consumed

def voucherOfOrder (r : CommercePromotionReservation) : Option (Uuid × Uuid) :=
  if holdsBenefit r then r.voucherId.map (fun v => (r.orderId, v)) else none

def insertReservation (r : CommercePromotionReservation) : CommerceTxn Unit := do
  let db ← get
  require (r.status = .reserved ∧ r.statusOperationId = none)
    (.raised "commerce_promotion_reservations must be created in its initial state")
  let o ← orThrow (orderById db r.orderId) (.foreignKey "commerce_promotion_reservations_order_id_fkey")
  let l ← orThrow (lineById db r.orderLineId) (.foreignKey "commerce_promotion_reservations_order_line_id_fkey")
  require (r.buyerId = o.buyerId ∧ r.orderId = l.orderId) (.raised "reservation ownership does not match its order line")
  require (∀ id, r.voucherId = some id → ∃ v ∈ db.vouchers, v.id = id ∧ v.status = .active ∧ v.currency = "VND" ∧
      v.startsAt ≤ r.reservedAt ∧ r.reservedAt < v.endsAt) (.raised "reservation voucher is not currently monetary-eligible")
  require ((r.benefitType = .voucher ∧ r.voucherId.isSome ∧ r.scholarshipAwardId = none) ∨
      (r.benefitType = .scholarship ∧ r.voucherId = none ∧ r.scholarshipAwardId.isSome))
    (.check "commerce_reservations_source_check")
  require (r.reservedAt < r.expiresAt) (.check "commerce_reservations_expiry_check")
  require (free (fun r => some r.id) r db.reservations) (.unique "commerce_promotion_reservations_pkey")
  require (free voucherOfOrder r db.reservations) (.unique "commerce_reservations_one_voucher_per_order_idx")
  modify (fun db => { db with reservations := db.reservations ++ [r] })

inductive ReservationPatch where
  | consume (operationId : Uuid)
  | release (operationId : Uuid)
  | expire (operationId : Uuid)
deriving DecidableEq, Repr

def ReservationPatch.apply : ReservationPatch → CommercePromotionReservation → CommercePromotionReservation
  | .consume operationId, r => { r with status := .consumed, statusOperationId := some operationId }
  | .release operationId, r => { r with status := .released, statusOperationId := some operationId }
  | .expire operationId, r => { r with status := .expired, statusOperationId := some operationId }

def updateReservation (id : Uuid) (patch : ReservationPatch) : CommerceTxn Unit := do
  let db ← get
  let old ← orThrow (db.reservations.find? (fun r => r.id = id)) (.missingRow "commerce_promotion_reservations")
  require (old.status = .reserved) (.raised "invalid promotion reservation transition")
  require ((patch.apply old).status = .consumed → ∃ o ∈ db.orders, o.id = old.orderId ∧ o.status = .confirmed)
    (.raised "only a confirmed order may consume a promotion reservation")
  modify (fun db => { db with reservations := updateWhere (fun r => r.id = id) patch.apply db.reservations })

def benefitSource (r : CommercePromotionReservation) : Option Uuid :=
  r.voucherId.orElse (fun _ => r.scholarshipAwardId)

def insertBenefit (b : CommerceOrderLineBenefit) : CommerceTxn Unit := do
  let db ← get
  let r ← orThrow (db.reservations.find? (fun r => r.id = b.reservationId))
    (.foreignKey "commerce_order_line_benefits_reservation_id_fkey")
  require (r.orderLineId = b.orderLineId ∧ r.benefitType = b.benefitType ∧ benefitSource r = some b.sourceId)
    (.raised "benefit snapshot must match its reservation source and order line")
  require (0 ≤ b.allocatedDiscountAmountMinor) (.check "commerce_order_line_benefits_amount_check")
  require (free (fun b => some b.reservationId) b db.benefits) (.unique "commerce_order_line_benefits_reservation_id_key")
  modify (fun db => { db with benefits := db.benefits ++ [b] })

def insertRedemption (r : VoucherRedemption) : CommerceTxn Unit := do
  let db ← get
  let _ ← orThrow (voucherById db r.voucherId) (.foreignKey "voucher_redemptions_voucher_id_fkey")
  require (free (fun r => some (r.voucherId, r.userId, r.redemptionKey)) r db.redemptions)
    (.unique "voucher_redemptions_voucher_id_user_id_redemption_key_key")
  modify (fun db => { db with redemptions := db.redemptions ++ [r] })

def incrementRedeemed (voucherId : Uuid) : CommerceTxn Unit := do
  let db ← get
  let _ ← orThrow (voucherById db voucherId) (.missingRow "vouchers")
  modify (fun db => { db with
    vouchers := updateWhere (fun v => v.id = voucherId) (fun v => { v with redeemedCount := v.redeemedCount + 1 }) db.vouchers })

end EduAi.Commerce
