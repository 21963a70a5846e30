import EduAi.Gds.Journal
import EduAi.Payments.Lifecycle

set_option autoImplicit false

namespace EduAi.Payments

open EduAi.Store EduAi.Gds EduAi.Commerce

def isHexDigits (length : Nat) (group : List Char) : Bool :=
  group.length = length ∧ group.all (fun c => ('0' ≤ c && c ≤ '9') || ('a' ≤ c && c ≤ 'f') || ('A' ≤ c && c ≤ 'F'))

def isUuid (text : Uuid) : Bool :=
  let characters := text.toList
  let group := fun start length => (characters.drop start).take length
  characters.length = 36 ∧ isHexDigits 8 (group 0 8) ∧ isHexDigits 4 (group 9 4) ∧ isHexDigits 4 (group 14 4) ∧
    isHexDigits 4 (group 19 4) ∧ isHexDigits 12 (group 24 12) ∧
    [group 8 1, group 13 1, group 18 1, group 23 1] = [['-'], ['-'], ['-'], ['-']] ∧
    (group 14 1).all (fun c => '1' ≤ c && c ≤ '8') ∧
    (group 19 1).all (fun c => c ∈ ['8', '9', 'a', 'b', 'A', 'B'])

def releaseKey (orderId : Uuid) : String :=
  "gds:release:" ++ orderId

def reserveEntry (walletId orderId : Uuid) (amountMinor : Int) : JournalEntry where
  walletId := walletId
  eventKey := reserveKey orderId
  kind := .reserve
  amountMinor := amountMinor
  availableDeltaMinor := -amountMinor
  heldDeltaMinor := amountMinor
  clearingDeltaMinor := 0
  orderRef := some orderId

def captureEntry (walletId orderId : Uuid) (amountMinor : Int) : JournalEntry where
  walletId := walletId
  eventKey := captureKey orderId
  kind := .capture
  amountMinor := amountMinor
  availableDeltaMinor := 0
  heldDeltaMinor := -amountMinor
  clearingDeltaMinor := amountMinor
  orderRef := some orderId

def releaseEntry (walletId orderId : Uuid) (amountMinor : Int) : JournalEntry where
  walletId := walletId
  eventKey := releaseKey orderId
  kind := .release
  amountMinor := amountMinor
  availableDeltaMinor := amountMinor
  heldDeltaMinor := -amountMinor
  clearingDeltaMinor := 0
  orderRef := some orderId

structure GdsCommerceCaptureInput where
  buyerId : Uuid
  order : CommerceOrder
  wallet : Wallet
  hold : Hold
  existingPaymentAttemptCount : Nat
  existingSettlementCount : Nat
  existingCaptureCount : Nat
deriving DecidableEq, Repr

structure PreparedGdsCommerceCapture where
  journal : JournalEntry
  reference : String
  amountMinor : Int
deriving DecidableEq, Repr

def prepareGdsCommerceCapture (input : GdsCommerceCaptureInput) : CommerceTxn PreparedGdsCommerceCapture := do
  let order := input.order
  require (isUuid input.buyerId ∧ isUuid order.id ∧ isUuid input.wallet.id ∧ order.buyerId = input.buyerId ∧
    input.wallet.buyerId = input.buyerId) (.invariant "GDS_CAPTURE_OWNER_MISMATCH")
  require (order.status = .pendingPayment ∧ order.confirmedSettlementId = none ∧ order.currency = "VND" ∧
    0 < order.payableAmountMinor ∧ order.payableAmountMinor ≤ maxSafeInteger) (.invariant "GDS_CAPTURE_ORDER_NOT_PAYABLE")
  require (input.wallet.status = .active ∧ order.payableAmountMinor ≤ input.wallet.heldMinor ∧
    input.hold.walletId = input.wallet.id ∧ input.hold.orderRef = order.id ∧
    input.hold.amountMinor = order.payableAmountMinor ∧ input.hold.status = .reserved)
    (.invariant "GDS_CAPTURE_HOLD_NOT_VERIFIED")
  require (input.existingPaymentAttemptCount = 0 ∧ input.existingSettlementCount = 0 ∧ input.existingCaptureCount = 0)
    (.invariant "GDS_CAPTURE_INSTRUMENT_OR_REPLAY_CONFLICT")
  pure {
    journal := captureEntry input.wallet.id order.id order.payableAmountMinor
    reference := gdsOrderReference order.id
    amountMinor := order.payableAmountMinor }

structure CheckoutDraw where
  settlementId : Uuid
  access : AccessDraw

structure CheckoutReceipt where
  orderId : Uuid
  amountMinor : Int
deriving DecidableEq, Repr

def captureSettlement (id : Uuid) (o : CommerceOrder) (now : Instant) (plan : PreparedGdsCommerceCapture) :
    CommerceSettlement where
  id := id
  orderId := o.id
  paymentAttemptId := none
  paymentEventId := none
  kind := .walletCapture
  disposition := .internal
  provider := some .gds
  providerSettlementReference := some plan.reference
  amountMinor := plan.amountMinor
  currency := "VND"
  settledAt := now

def replayVerified (db : CommerceDb) (buyerId : Uuid) (o : CommerceOrder) : Bool :=
  (confirmingSettlement db o).any (fun s => s.kind = .walletCapture ∧ s.orderId = o.id ∧ s.provider = some .gds ∧
    s.disposition = .internal ∧ s.currency = "VND" ∧ s.paymentAttemptId = none ∧ s.paymentEventId = none ∧
    o.fulfillmentStatus = .fulfilled ∧ s.amountMinor = o.payableAmountMinor ∧
    s.providerSettlementReference = some (gdsOrderReference o.id)) ∧
  (holdByOrder db o.id).any (fun h => h.status = .captured ∧ h.amountMinor = o.payableAmountMinor ∧
    (walletById db.gds h.walletId).any (fun w => w.buyerId = buyerId) ∧
    (db.gds.journal.find? (fun j => j.eventKey = captureKey o.id)).any (fun j => j.kind = .capture ∧
      j.walletId = h.walletId ∧ j.amountMinor = o.payableAmountMinor))

def replayCapture (buyerId : Uuid) (o : CommerceOrder) : CommerceTxn CheckoutReceipt := do
  let db ← get
  require (replayVerified db buyerId o) (.invariant "GDS_CAPTURE_REPLAY_UNVERIFIED")
  pure { orderId := o.id, amountMinor := o.payableAmountMinor }

def reserveOrder (now : Instant) (w : Wallet) (o : CommerceOrder) (insufficient : String) : CommerceTxn Unit := do
  let db ← get
  if (holdByOrder db o.id).isSome then pure ()
  else do
    require (o.payableAmountMinor ≤ w.availableMinor) (.invariant insufficient)
    onWallet (insertJournal now (reserveEntry w.id o.id o.payableAmountMinor))

def captureInput (before : CommerceDb) (buyerId : Uuid) (o : CommerceOrder) (w : Wallet) (h : Hold) :
    GdsCommerceCaptureInput where
  buyerId := buyerId
  order := o
  wallet := w
  hold := h
  existingPaymentAttemptCount := before.attempts.countP (fun a => a.orderId = o.id)
  existingSettlementCount := before.settlements.countP (fun s => s.orderId = o.id)
  existingCaptureCount := before.gds.journal.countP (fun j => j.orderRef = some o.id ∧ j.kind = .capture)

def captureOrder (deployment : Deployment) (now : Instant) (draw : CheckoutDraw) (buyerId : Uuid) (o : CommerceOrder) :
    CommerceTxn CheckoutReceipt := do
  require (o.status = .pendingPayment ∧ o.confirmedSettlementId = none ∧ o.currency = "VND" ∧ 0 < o.payableAmountMinor)
    (.invariant "GDS_CAPTURE_ORDER_NOT_PAYABLE")
  let before ← get
  let w ← orThrow ((walletByBuyer before.gds buyerId).filter (fun w => w.status = .active))
    (.invariant "GDS_CAPTURE_HOLD_NOT_VERIFIED")
  reserveOrder now w o "GDS_CAPTURE_INSUFFICIENT_FUNDS"
  let after ← get
  let current ← orThrow (walletById after.gds w.id) (.missingRow "gds_internal_wallets")
  let h ← orThrow (holdByOrder after o.id) (.invariant "GDS_CAPTURE_HOLD_NOT_VERIFIED")
  let plan ← prepareGdsCommerceCapture (captureInput before buyerId o current h)
  onWallet (insertJournal now plan.journal)
  insertSettlement now (captureSettlement draw.settlementId o now plan)
  updateOrder o.id (.confirm draw.settlementId now)
  fulfillConfirmedOrder deployment now draw.access o.id
  pure { orderId := o.id, amountMinor := o.payableAmountMinor }

def payOrder (deployment : Deployment) (now : Instant) (draw : CheckoutDraw) (buyerId orderId : Uuid) :
    CommerceTxn CheckoutReceipt := do
  require deployment.gdsCheckoutEnabled (.forbidden "GDS checkout is unavailable")
  require (isUuid buyerId ∧ isUuid orderId) (.invariant "GDS_CAPTURE_OWNER_MISMATCH")
  let db ← get
  let o ← orThrow (orderOfBuyer db orderId buyerId) (.invariant "GDS_CAPTURE_OWNER_MISMATCH")
  if o.status = .confirmed then replayCapture buyerId o else captureOrder deployment now draw buyerId o

def spendingAllowed (deployment : Deployment) (recovery : Bool) : Bool :=
  if deployment.gdsProduction then
    (if recovery then deployment.gdsProcessingEnabled else deployment.gdsCheckoutEnabled)
  else deployment.gdsReadEnabled

def assertSpendingAndIdentity (deployment : Deployment) (recovery : Bool) (buyerId orderId : Uuid) : CommerceTxn Unit := do
  require (spendingAllowed deployment recovery) (.forbidden "GDS internal spending is unavailable")
  require (isUuid buyerId ∧ isUuid orderId) (.invariant "GDS_HOLD_INVALID_IDENTITY")

def requireHoldOpen (w : Wallet) (o : CommerceOrder) (h : Hold) : CommerceTxn Unit :=
  require (h.walletId = w.id ∧ h.amountMinor = o.payableAmountMinor ∧ h.status = .reserved)
    (.invariant "GDS_HOLD_TERMINAL_OR_MISMATCH")

def reserveHold (now : Instant) (w : Wallet) (o : CommerceOrder) : CommerceTxn Unit := do
  let db ← get
  match holdByOrder db o.id with
  | some h => requireHoldOpen w o h
  | none => reserveOrder now w o "GDS_HOLD_INSUFFICIENT_FUNDS"

def reserveForUnpaidCommerceOrder (deployment : Deployment) (now : Instant) (buyerId orderId : Uuid) : CommerceTxn Unit := do
  assertSpendingAndIdentity deployment false buyerId orderId
  let db ← get
  let o ← orThrow (orderOfBuyer db orderId buyerId) (.invariant "GDS_HOLD_ORDER_NOT_PAYABLE")
  require (o.status = .pendingPayment ∧ o.currency = "VND" ∧ 0 < o.payableAmountMinor) (.invariant "GDS_HOLD_ORDER_NOT_PAYABLE")
  require ((∀ a ∈ db.attempts, a.orderId ≠ o.id) ∧ ∀ s ∈ db.settlements, s.orderId ≠ o.id)
    (.invariant "GDS_HOLD_PAYMENT_METHOD_CONFLICT")
  let w ← orThrow ((walletByBuyer db.gds buyerId).filter (fun w => w.status = .active))
    (.invariant "GDS_HOLD_WALLET_UNAVAILABLE")
  reserveHold now w o

def releaseHold (now : Instant) (w : Wallet) (o : CommerceOrder) (h : Hold) : CommerceTxn Unit := do
  require (h.walletId = w.id ∧ h.amountMinor = o.payableAmountMinor) (.invariant "GDS_HOLD_MISMATCH")
  if h.status = .reserved then onWallet (insertJournal now (releaseEntry w.id o.id h.amountMinor))
  else require (h.status = .released) (.invariant "GDS_HOLD_TERMINAL_OR_MISMATCH")

def releaseForFinalUnpaidOrder (deployment : Deployment) (now : Instant) (buyerId orderId : Uuid) : CommerceTxn Unit := do
  assertSpendingAndIdentity deployment true buyerId orderId
  let db ← get
  let o ← orThrow (orderOfBuyer db orderId buyerId) (.invariant "GDS_HOLD_ORDER_NOT_FINAL_UNPAID")
  require (o.currency = "VND" ∧ isClosedOrder o) (.invariant "GDS_HOLD_ORDER_NOT_FINAL_UNPAID")
  require ((∀ a ∈ db.attempts, a.orderId ≠ o.id) ∧ ∀ s ∈ db.settlements, s.orderId ≠ o.id)
    (.invariant "GDS_HOLD_PAYMENT_STATUS_AMBIGUOUS")
  let w ← orThrow ((walletByBuyer db.gds buyerId).filter (fun w => w.status = .active)) (.invariant "GDS_HOLD_MISMATCH")
  let h ← orThrow (holdByOrder db o.id) (.invariant "GDS_HOLD_MISMATCH")
  releaseHold now w o h

end EduAi.Payments
