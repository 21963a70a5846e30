import EduAi.Commerce.Access
import EduAi.Store.Programs
import EduAi.Store.Total
import EduAi.Gds.Statements

set_option autoImplicit false

namespace EduAi.Commerce

open EduAi.Store EduAi.Gds EduAi.Payments

-- What the triggers and constraints have checked when a statement goes through, one structure a statement.
structure OrderFits (db : CommerceDb) (o : CommerceOrder) : Prop where
  awaiting : o.status = .pendingPayment ∧ o.fulfillmentStatus = .notStarted
  cart : ∀ id, o.cartId = some id → ∃ c ∈ db.carts, c.id = id ∧ c.buyerId = o.buyerId ∧ c.currency = o.currency ∧
    c.status = .active
  currency : o.currency = "VND"
  totals : 0 ≤ o.subtotalAmountMinor ∧ 0 ≤ o.discountAmountMinor ∧ o.discountAmountMinor ≤ o.subtotalAmountMinor ∧
    o.payableAmountMinor = o.subtotalAmountMinor - o.discountAmountMinor
  unconfirmed : o.confirmedAt = none ∧ o.confirmedSettlementId = none
  freshId : free (fun o => some o.id) o db.orders = true
  freshCart : free (fun o => o.cartId) o db.orders = true

structure OrderMoves (db : CommerceDb) (id : Uuid) (patch : OrderPatch) (old : CommerceOrder) : Prop where
  found : orderById db id = some old
  status : orderTransition old.status (patch.apply old).status = true
  fulfillment : fulfillmentTransition old.fulfillmentStatus (patch.apply old).fulfillmentStatus = true
  settlementKept : old.confirmedSettlementId = none ∨ (patch.apply old).confirmedSettlementId = old.confirmedSettlementId
  settlementOnly : (patch.apply old).confirmedSettlementId = none ∨ (patch.apply old).status = .confirmed
  confirmable : (patch.apply old).confirmedSettlementId = none ∨
    (confirmingSettlement db (patch.apply old)).any (confirmable db (patch.apply old)) = true
  timestampKept : old.confirmedAt = none ∨ (patch.apply old).confirmedAt = old.confirmedAt
  confirmedStamped : (patch.apply old).status = .confirmed →
    (patch.apply old).confirmedAt.isSome ∧ (patch.apply old).confirmedSettlementId.isSome
  fulfilledConfirmed : (patch.apply old).fulfillmentStatus = .notStarted ∨ (patch.apply old).status = .confirmed

structure LineFits (db : CommerceDb) (l : CommerceOrderLine) (o : CommerceOrder) : Prop where
  text : uuidText l.id = true
  order : orderById db l.orderId = some o
  currency : l.currency = o.currency
  totals : 0 ≤ l.unitListPriceAmountMinor ∧ 0 ≤ l.discountAmountMinor ∧
    l.discountAmountMinor ≤ l.unitListPriceAmountMinor ∧ l.finalAmountMinor = l.unitListPriceAmountMinor - l.discountAmountMinor
  freshId : free (fun l => some l.id) l db.lines = true

structure IntentFits (db : CommerceDb) (i : MembershipCheckoutIntent) (o : CommerceOrder) : Prop where
  order : orderById db i.orderId = some o
  window : i.startsAt < i.endsAt
  freshOrder : free (fun i => some i.orderId) i db.intents = true

structure ReservationFits (db : CommerceDb) (r : CommercePromotionReservation) (o : CommerceOrder) (l : CommerceOrderLine) :
    Prop where
  initial : r.status = .reserved ∧ r.statusOperationId = none
  order : orderById db r.orderId = some o
  line : lineById db r.orderLineId = some l
  owned : r.buyerId = o.buyerId ∧ r.orderId = l.orderId
  voucher : ∀ id, r.voucherId = some id → ∃ v ∈ db.vouchers, v.id = id ∧ v.status = .active ∧ v.currency = "VND" ∧
    v.startsAt ≤ r.reservedAt ∧ r.reservedAt < v.endsAt
  source : (r.benefitType = .voucher ∧ r.voucherId.isSome ∧ r.scholarshipAwardId = none) ∨
    (r.benefitType = .scholarship ∧ r.voucherId = none ∧ r.scholarshipAwardId.isSome)
  window : r.reservedAt < r.expiresAt
  freshId : free (fun r => some r.id) r db.reservations = true
  freshVoucher : free voucherOfOrder r db.reservations = true

structure ReservationMoves (db : CommerceDb) (id : Uuid) (patch : ReservationPatch) (old : CommercePromotionReservation) :
    Prop where
  found : db.reservations.find? (fun r => r.id = id) = some old
  reserved : old.status = .reserved
  confirmed : (patch.apply old).status = .consumed → ∃ o ∈ db.orders, o.id = old.orderId ∧ o.status = .confirmed

structure BenefitFits (db : CommerceDb) (b : CommerceOrderLineBenefit) (r : CommercePromotionReservation) : Prop where
  reservation : db.reservations.find? (fun r => r.id = b.reservationId) = some r
  snapshot : r.orderLineId = b.orderLineId ∧ r.benefitType = b.benefitType ∧ benefitSource r = some b.sourceId
  amount : 0 ≤ b.allocatedDiscountAmountMinor
  freshReservation : free (fun b => some b.reservationId) b db.benefits = true

structure RedemptionFits (db : CommerceDb) (r : VoucherRedemption) (v : Voucher) : Prop where
  voucher : voucherById db r.voucherId = some v
  freshKey : free (fun r => some (r.voucherId, r.userId, r.redemptionKey)) r db.redemptions = true

structure AttemptFits (db : CommerceDb) (a : CommercePaymentAttempt) (o : CommerceOrder) : Prop where
  order : orderById db a.orderId = some o
  created : a.status = .created
  total : a.amountMinor = o.payableAmountMinor ∧ a.currency = o.currency ∧ 0 < o.payableAmountMinor
  currency : a.currency = "VND"
  amount : 0 < a.amountMinor
  request : a.provider = .payos → (∃ code, a.providerOrderCode = some code ∧ 0 < code) ∧
    (∃ expiry, a.providerExpiresAt = some expiry ∧ a.createdAt < expiry) ∧ a.providerRequestStartedAt.isSome
  account : a.provider = .payos → a.status = .created ∨ a.providerReceivingAccountHash.isSome
  freshId : free (fun a => some a.id) a db.attempts = true
  freshOrderCode : free orderCodeKey a db.attempts = true
  freshIdentity : free paymentIdentityKey a db.attempts = true
  freshOpen : free openOrderKey a db.attempts = true

structure AttemptMoves (db : CommerceDb) (id : Uuid) (patch : AttemptPatch) (old : CommercePaymentAttempt) : Prop where
  found : attemptById db id = some old
  identityKept : old.providerPaymentIdentity = none ∨
    (patch.apply old).providerPaymentIdentity = old.providerPaymentIdentity
  status : attemptTransition old.status (patch.apply old).status = true
  closing : (patch.apply old).status = .cancelled ∨ (patch.apply old).status = .expired →
    (patch.apply old).providerStatusCheckedAt.isSome ∨ (patch.apply old).providerCancellationRequestedAt.isSome
  requestKept : old.providerCancellationRequestedAt = none ∨
    (patch.apply old).providerCancellationRequestedAt = old.providerCancellationRequestedAt
  accountKept : old.providerReceivingAccountHash = none ∨
    (patch.apply old).providerReceivingAccountHash = old.providerReceivingAccountHash
  currency : (patch.apply old).currency = "VND"
  amount : 0 < (patch.apply old).amountMinor
  request : (patch.apply old).provider = .payos → (∃ code, (patch.apply old).providerOrderCode = some code ∧ 0 < code) ∧
    (∃ expiry, (patch.apply old).providerExpiresAt = some expiry ∧ (patch.apply old).createdAt < expiry) ∧
      (patch.apply old).providerRequestStartedAt.isSome
  account : (patch.apply old).provider = .payos →
    (patch.apply old).status = .created ∨ (patch.apply old).providerReceivingAccountHash.isSome
  freshIdentity : free paymentIdentityKey (patch.apply old) (db.attempts.filter (fun a => a.id ≠ id)) = true

structure EventFits (db : CommerceDb) (e : CommercePaymentEvent) (a : CommercePaymentAttempt) : Prop where
  attempt : attemptById db e.paymentAttemptId = some a
  facts : e.provider = a.provider ∧ e.amountMinor = a.amountMinor ∧ e.currency = a.currency ∧
    (a.providerPaymentIdentity = none ∨ a.providerPaymentIdentity = some e.providerPaymentIdentity)
  currency : e.currency = "VND"
  amount : 0 ≤ e.amountMinor
  freshId : free (fun e => some e.id) e db.events = true
  freshIdentity : free (fun e => some (e.provider, e.providerEventIdentity)) e db.events = true

structure SettlementFits (now : Instant) (db : CommerceDb) (s : CommerceSettlement) (o : CommerceOrder) : Prop where
  order : orderById db s.orderId = some o
  total : s.amountMinor = o.payableAmountMinor ∧ s.currency = o.currency
  proven : settlementProven db o s = true
  bank : s.provider = some .bankTransfer → bankSettlementProven now db o s = true
  shape : settlementShape s = true
  freshId : free (fun s => some s.id) s db.settlements = true
  freshEvent : free (fun s => s.paymentEventId) s db.settlements = true
  freshReference : free settlementReferenceKey s db.settlements = true
  freshInternal : free internalOrderKey s db.settlements = true
  freshMatched : free matchedOrderKey s db.settlements = true

structure CaseFits (db : CommerceDb) (c : CommerceReconciliationCase) : Prop where
  initial : c.status = .isOpen ∧ c.resolution = none ∧ c.resolvedById = none
  source : caseMatchesSource db c = true
  freshId : free (fun c => some c.id) c db.cases = true
  freshSettlement : free (fun c => c.settlementId) c db.cases = true
  freshKey : free (fun c => some c.sourceKey) c db.cases = true

structure CaseMoves (db : CommerceDb) (id : Uuid) (patch : CasePatch) (old : CommerceReconciliationCase) : Prop where
  found : caseById db id = some old
  observed : observedNoEarlier old.lastCheckedAt (patch.apply old).lastCheckedAt = true
  status : old.status = .isOpen ∨ (patch.apply old).status = old.status
  evidence : old.status = .isOpen ∨
    ((patch.apply old).resolution = old.resolution ∧ (patch.apply old).resolvedById = old.resolvedById)

structure BankRequestFits (db : CommerceDb) (r : CommerceBankTransferRequest) : Prop where
  bound : r.status = .pending ∧ (attemptById db r.paymentAttemptId).any (fun a => a.orderId = r.orderId ∧
      a.provider = .bankTransfer ∧ a.status = .pending ∧ a.amountMinor = r.amountMinor ∧ a.currency = "VND" ∧
      a.providerPaymentIdentity = some r.id) ∧
    (orderById db r.orderId).any (fun o => o.status = .pendingPayment ∧ o.payableAmountMinor = r.amountMinor)
  window : r.createdAt < r.expiresAt ∧ 0 < r.amountMinor
  account : r.accountNumber = "0000000000" ∧ r.bankBin = "970422"
  freshId : free (fun r => some r.id) r db.bankRequests = true
  freshOrder : free (fun r => some r.orderId) r db.bankRequests = true
  freshAttempt : free (fun r => some r.paymentAttemptId) r db.bankRequests = true
  freshContent : free (fun r => some r.transferContent) r db.bankRequests = true

structure BankRequestMoves (db : CommerceDb) (id : Uuid) (status : BankRequestStatus) (old : CommerceBankTransferRequest) :
    Prop where
  found : bankRequestById db id = some old
  transition : old.status = status ∨ (bankWindowOpen old.status ∧ status ≠ .pending)
  settled : status = .paid → ∃ s ∈ db.settlements, s.paymentAttemptId = some old.paymentAttemptId ∧
    s.provider = some .bankTransfer ∧ s.disposition = .matched

structure EvidenceFits (db : CommerceDb) (e : CommerceBankStatementEvidence) (r : CommerceBankTransferRequest) : Prop where
  request : bankRequestById db e.requestId = some r
  amount : 0 < e.amountMinor
  freshId : free (fun e => some e.id) e db.bankEvidence = true
  freshTransaction : free (fun e => some (e.bankBin, e.accountNumber, e.transactionId)) e db.bankEvidence = true

structure ApprovalFits (db : CommerceDb) (p : CommerceBankApproval) (e : CommerceBankStatementEvidence) : Prop where
  evidence : evidenceById db p.evidenceId = some e
  admin : isActiveAdmin db p.actorId = true
  fresh : free some p db.bankApprovals = true

structure EffectFits (db : CommerceDb) (e : CommerceFulfillmentEffect) : Prop where
  freshKey : free (fun e => some (effectKey e)) e db.effects = true
  line : ∃ l ∈ db.lines, l.id = e.orderLineId ∧ l.orderId = e.orderId

structure SubscriptionFits (db : CommerceDb) (s : MembershipSubscription) : Prop where
  window : s.startsAt < s.expiresAt
  snapshot : ∀ lineId, s.sourceOrderLineId = some lineId →
    ∃ l ∈ db.lines, l.id = lineId ∧ l.productType = .membership ∧ l.productReferenceId = s.versionId ∧
      (∃ o ∈ db.orders, o.id = l.orderId ∧ o.buyerId = s.userId) ∧
      (∃ i ∈ db.intents, i.orderId = l.orderId ∧ i.versionId = s.versionId ∧ i.startsAt = s.startsAt ∧ i.endsAt = s.expiresAt)
  freshId : free (fun s => some s.id) s db.subscriptions = true
  freshLine : free (fun s => s.sourceOrderLineId) s db.subscriptions = true

structure GrantFits (db : CommerceDb) (g : CourseAccessGrant) : Prop where
  freshKey : free (fun g => some (grantKey g)) g db.grants = true
  window : ∀ endsAt, g.endsAt = some endsAt → g.startsAt < endsAt
  freshId : free (fun g => some g.id) g db.grants = true

structure GrantMoves (db : CommerceDb) (id : Uuid) (old : CourseAccessGrant) : Prop where
  found : db.grants.find? (fun g => g.id = id) = some old
  active : old.active = true

structure RefundFits (db : CommerceDb) (r : CommerceRefund) (s : CommerceSettlement) : Prop where
  settlement : settlementById db r.settlementId = some s
  initial : r.status = .requested ∧ r.externalReference = none ∧ r.rejectionReasonCode = none
  target : s.orderId = r.orderId ∧ s.kind = .providerCollection ∧ s.provider = some r.provider ∧ r.amountMinor ≤ s.amountMinor
  positive : 0 < r.amountMinor ∧ ∀ a ∈ r.allocations, 0 < a.amountMinor
  lines : ∀ a ∈ r.allocations, ∃ l ∈ db.lines, l.id = a.orderLineId ∧ l.orderId = r.orderId ∧ a.amountMinor ≤ l.finalAmountMinor
  distinct : (r.allocations.map (fun a => a.orderLineId)).Nodup
  freshId : free (fun r => some r.id) r db.refunds = true

structure RefundMoves (db : CommerceDb) (id : Uuid) (patch : RefundPatch) (old : CommerceRefund) : Prop where
  found : refundById db id = some old
  requested : old.status = .requested
  freshReference : free externalReferenceKey (patch.apply old) (db.refunds.filter (fun r => r.id ≠ id)) = true

section Statements

variable (db : CommerceDb)

@[simp] theorem wlp_insertOrder (o : CommerceOrder) (Q : Unit → CommerceDb → Prop) :
    Wlp (insertOrder o) Q db ↔ (OrderFits db o → Q () { db with orders := db.orders ++ [o] }) := by
  simp only [insertOrder, wlp_bind, wlp_get, wlp_require, wlp_modify]
  exact ⟨fun h fits => h fits.1 fits.2 fits.3 fits.4 fits.5 fits.6 fits.7,
    fun h a b c d e f g => h ⟨a, b, c, d, e, f, g⟩⟩

@[simp] theorem wlp_updateOrder (id : Uuid) (patch : OrderPatch) (Q : Unit → CommerceDb → Prop) :
    Wlp (updateOrder id patch) Q db ↔
      ∀ old, OrderMoves db id patch old → Q () { db with orders := updateWhere (fun o => o.id = id) patch.apply db.orders } := by
  simp only [updateOrder, wlp_bind, wlp_get, wlp_orThrow, wlp_require, wlp_modify]
  exact ⟨fun h old moves => h old moves.1 moves.2 moves.3 moves.4 moves.5 moves.6 moves.7 moves.8 moves.9,
    fun h old a b c d e f g i j => h old ⟨a, b, c, d, e, f, g, i, j⟩⟩

@[simp] theorem wlp_insertOrderLine (l : CommerceOrderLine) (Q : Unit → CommerceDb → Prop) :
    Wlp (insertOrderLine l) Q db ↔ ∀ o, LineFits db l o → Q () { db with lines := db.lines ++ [l] } := by
  simp only [insertOrderLine, wlp_bind, wlp_get, wlp_orThrow, wlp_require, wlp_modify]
  exact ⟨fun h o fits => h fits.1 o fits.2 fits.3 fits.4 fits.5, fun h a o b c d e => h o ⟨a, b, c, d, e⟩⟩

@[simp] theorem wlp_insertIntent (i : MembershipCheckoutIntent) (Q : Unit → CommerceDb → Prop) :
    Wlp (insertIntent i) Q db ↔ ∀ o, IntentFits db i o → Q () { db with intents := db.intents ++ [i] } := by
  simp only [insertIntent, wlp_bind, wlp_get, wlp_orThrow, wlp_require, wlp_modify]
  exact ⟨fun h o fits => h o fits.1 fits.2 fits.3, fun h o a b c => h o ⟨a, b, c⟩⟩

@[simp] theorem wlp_insertReservation (r : CommercePromotionReservation) (Q : Unit → CommerceDb → Prop) :
    Wlp (insertReservation r) Q db ↔
      ∀ o l, ReservationFits db r o l → Q () { db with reservations := db.reservations ++ [r] } := by
  simp only [insertReservation, wlp_bind, wlp_get, wlp_orThrow, wlp_require, wlp_modify]
  exact ⟨fun h o l fits => h fits.1 o fits.2 l fits.3 fits.4 fits.5 fits.6 fits.7 fits.8 fits.9,
    fun h a o b l c d e f g i j => h o l ⟨a, b, c, d, e, f, g, i, j⟩⟩

@[simp] theorem wlp_updateReservation (id : Uuid) (patch : ReservationPatch) (Q : Unit → CommerceDb → Prop) :
    Wlp (updateReservation id patch) Q db ↔ ∀ old, ReservationMoves db id patch old →
      Q () { db with reservations := updateWhere (fun r => r.id = id) patch.apply db.reservations } := by
  simp only [updateReservation, wlp_bind, wlp_get, wlp_orThrow, wlp_require, wlp_modify]
  exact ⟨fun h old moves => h old moves.1 moves.2 moves.3, fun h old a b c => h old ⟨a, b, c⟩⟩

@[simp] theorem wlp_insertBenefit (b : CommerceOrderLineBenefit) (Q : Unit → CommerceDb → Prop) :
    Wlp (insertBenefit b) Q db ↔ ∀ r, BenefitFits db b r → Q () { db with benefits := db.benefits ++ [b] } := by
  simp only [insertBenefit, wlp_bind, wlp_get, wlp_orThrow, wlp_require, wlp_modify]
  exact ⟨fun h r fits => h r fits.1 fits.2 fits.3 fits.4, fun h r a b c d => h r ⟨a, b, c, d⟩⟩

@[simp] theorem wlp_insertRedemption (r : VoucherRedemption) (Q : Unit → CommerceDb → Prop) :
    Wlp (insertRedemption r) Q db ↔ ∀ v, RedemptionFits db r v → Q () { db with redemptions := db.redemptions ++ [r] } := by
  simp only [insertRedemption, wlp_bind, wlp_get, wlp_orThrow, wlp_require, wlp_modify]
  exact ⟨fun h v fits => h v fits.1 fits.2, fun h v a b => h v ⟨a, b⟩⟩

def countRedeemed (v : Voucher) : Voucher :=
  { v with redeemedCount := v.redeemedCount + 1 }

@[simp] theorem wlp_incrementRedeemed (id : Uuid) (Q : Unit → CommerceDb → Prop) :
    Wlp (incrementRedeemed id) Q db ↔ ∀ v, voucherById db id = some v →
      Q () { db with vouchers := updateWhere (fun v => v.id = id) countRedeemed db.vouchers } := by
  simp only [incrementRedeemed, wlp_bind, wlp_get, wlp_orThrow, wlp_modify]
  exact Iff.rfl

@[simp] theorem wlp_insertAttempt (a : CommercePaymentAttempt) (Q : Unit → CommerceDb → Prop) :
    Wlp (insertAttempt a) Q db ↔ ∀ o, AttemptFits db a o → Q () { db with attempts := db.attempts ++ [a] } := by
  simp only [insertAttempt, attemptChecks, wlp_bind, wlp_get, wlp_orThrow, wlp_require, wlp_modify]
  exact ⟨fun h o fits => h o fits.1 fits.2 fits.3 fits.4 fits.5 fits.6 fits.7 fits.8 fits.9 fits.10 fits.11,
    fun h o a b c d e f g i j k l => h o ⟨a, b, c, d, e, f, g, i, j, k, l⟩⟩

@[simp] theorem wlp_updateAttempt (id : Uuid) (patch : AttemptPatch) (Q : Unit → CommerceDb → Prop) :
    Wlp (updateAttempt id patch) Q db ↔ ∀ old, AttemptMoves db id patch old →
      Q () { db with attempts := updateWhere (fun a => a.id = id) patch.apply db.attempts } := by
  simp only [updateAttempt, attemptChecks, wlp_bind, wlp_get, wlp_orThrow, wlp_require, wlp_modify]
  exact ⟨fun h o m => h o m.1 m.2 m.3 m.4 m.5 m.6 m.7 m.8 m.9 m.10 m.11,
    fun h o a b c d e f g i j k l => h o ⟨a, b, c, d, e, f, g, i, j, k, l⟩⟩

@[simp] theorem wlp_insertEvent (e : CommercePaymentEvent) (Q : Unit → CommerceDb → Prop) :
    Wlp (insertEvent e) Q db ↔ ∀ a, EventFits db e a → Q () { db with events := db.events ++ [e] } := by
  simp only [insertEvent, wlp_bind, wlp_get, wlp_orThrow, wlp_require, wlp_modify]
  exact ⟨fun h a fits => h a fits.1 fits.2 fits.3 fits.4 fits.5 fits.6, fun h o a b c d e f => h o ⟨a, b, c, d, e, f⟩⟩

@[simp] theorem wlp_insertSettlement (now : Instant) (s : CommerceSettlement) (Q : Unit → CommerceDb → Prop) :
    Wlp (insertSettlement now s) Q db ↔
      ∀ o, SettlementFits now db s o → Q () { db with settlements := db.settlements ++ [s] } := by
  simp only [insertSettlement, wlp_bind, wlp_get, wlp_orThrow, wlp_require, wlp_modify]
  exact ⟨fun h o f => h o f.1 f.2 f.3 f.4 f.5 f.6 f.7 f.8 f.9 f.10,
    fun h o a b c d e f g i j k => h o ⟨a, b, c, d, e, f, g, i, j, k⟩⟩

@[simp] theorem wlp_insertCase (c : CommerceReconciliationCase) (Q : Unit → CommerceDb → Prop) :
    Wlp (insertCase c) Q db ↔ (CaseFits db c → Q () { db with cases := db.cases ++ [c] }) := by
  simp only [insertCase, wlp_bind, wlp_get, wlp_require, wlp_modify]
  exact ⟨fun h f => h f.1 f.2 f.3 f.4 f.5, fun h a b c d e => h ⟨a, b, c, d, e⟩⟩

@[simp] theorem wlp_updateCase (id : Uuid) (patch : CasePatch) (Q : Unit → CommerceDb → Prop) :
    Wlp (updateCase id patch) Q db ↔ ∀ old, CaseMoves db id patch old →
      Q () { db with cases := updateWhere (fun c => c.id = id) patch.apply db.cases } := by
  simp only [updateCase, wlp_bind, wlp_get, wlp_orThrow, wlp_require, wlp_modify]
  exact ⟨fun h old m => h old m.1 m.2 m.3 m.4, fun h old a b c d => h old ⟨a, b, c, d⟩⟩

@[simp] theorem wlp_insertRefund (r : CommerceRefund) (Q : Unit → CommerceDb → Prop) :
    Wlp (insertRefund r) Q db ↔ ∀ s, RefundFits db r s → Q () { db with refunds := db.refunds ++ [r] } := by
  simp only [insertRefund, wlp_bind, wlp_get, wlp_orThrow, wlp_require, wlp_modify]
  exact ⟨fun h s f => h s f.1 f.2 f.3 f.4 f.5 f.6 f.7, fun h s a b c d e f g => h s ⟨a, b, c, d, e, f, g⟩⟩

@[simp] theorem wlp_updateRefund (id : Uuid) (patch : RefundPatch) (Q : Unit → CommerceDb → Prop) :
    Wlp (updateRefund id patch) Q db ↔ ∀ old, RefundMoves db id patch old →
      Q () { db with refunds := updateWhere (fun r => r.id = id) patch.apply db.refunds } := by
  simp only [updateRefund, wlp_bind, wlp_get, wlp_orThrow, wlp_require, wlp_modify]
  exact ⟨fun h old m => h old m.1 m.2 m.3, fun h old a b c => h old ⟨a, b, c⟩⟩

@[simp] theorem wlp_insertBankRequest (r : CommerceBankTransferRequest) (Q : Unit → CommerceDb → Prop) :
    Wlp (insertBankRequest r) Q db ↔ (BankRequestFits db r → Q () { db with bankRequests := db.bankRequests ++ [r] }) := by
  simp only [insertBankRequest, wlp_bind, wlp_get, wlp_require, wlp_modify]
  exact ⟨fun h f => h f.1 f.2 f.3 f.4 f.5 f.6 f.7, fun h a b c d e f g => h ⟨a, b, c, d, e, f, g⟩⟩

@[simp] theorem wlp_updateBankRequest (id : Uuid) (status : BankRequestStatus) (Q : Unit → CommerceDb → Prop) :
    Wlp (updateBankRequest id status) Q db ↔ ∀ old, BankRequestMoves db id status old → Q () { db with
      bankRequests := updateWhere (fun r => r.id = id) (fun r => { r with status }) db.bankRequests } := by
  simp only [updateBankRequest, wlp_bind, wlp_get, wlp_orThrow, wlp_require, wlp_modify]
  exact ⟨fun h old m => h old m.1 m.2 m.3, fun h old a b c => h old ⟨a, b, c⟩⟩

@[simp] theorem wlp_insertEvidence (e : CommerceBankStatementEvidence) (Q : Unit → CommerceDb → Prop) :
    Wlp (insertEvidence e) Q db ↔ ∀ r, EvidenceFits db e r → Q () { db with bankEvidence := db.bankEvidence ++ [e] } := by
  simp only [insertEvidence, wlp_bind, wlp_get, wlp_orThrow, wlp_require, wlp_modify]
  exact ⟨fun h r f => h r f.1 f.2 f.3 f.4, fun h r a b c d => h r ⟨a, b, c, d⟩⟩

@[simp] theorem wlp_insertApproval (p : CommerceBankApproval) (Q : Unit → CommerceDb → Prop) :
    Wlp (insertApproval p) Q db ↔ ∀ e, ApprovalFits db p e → Q () { db with bankApprovals := db.bankApprovals ++ [p] } := by
  simp only [insertApproval, wlp_bind, wlp_get, wlp_orThrow, wlp_require, wlp_modify]
  exact ⟨fun h e f => h e f.1 f.2 f.3, fun h e a b c => h e ⟨a, b, c⟩⟩

@[simp] theorem wlp_createEffect (e : CommerceFulfillmentEffect) (Q : Unit → CommerceDb → Prop) :
    Wlp (createEffect e) Q db ↔ (EffectFits db e → Q () { db with effects := db.effects ++ [e] }) ∧
      (¬ free (fun e => some (effectKey e)) e db.effects = true → Q () db) := by
  simp only [createEffect, wlp_bind, wlp_get, wlp_ite, wlp_require, wlp_modify, wlp_pure]
  exact ⟨fun h => ⟨fun f => h.1 f.1 f.2, h.2⟩, fun h => ⟨fun a b => h.1 ⟨a, b⟩, h.2⟩⟩

@[simp] theorem wlp_insertSubscription (s : MembershipSubscription) (Q : Unit → CommerceDb → Prop) :
    Wlp (insertSubscription s) Q db ↔
      (SubscriptionFits db s → Q () { db with subscriptions := db.subscriptions ++ [s] }) := by
  simp only [insertSubscription, wlp_bind, wlp_get, wlp_require, wlp_modify]
  exact ⟨fun h f => h f.1 f.2 f.3 f.4, fun h a b c d => h ⟨a, b, c, d⟩⟩

@[simp] theorem wlp_createGrant (g : CourseAccessGrant) (Q : Unit → CommerceDb → Prop) :
    Wlp (createGrant g) Q db ↔ (GrantFits db g → Q () { db with grants := db.grants ++ [g] }) ∧
      (¬ free (fun g => some (grantKey g)) g db.grants = true → Q () db) := by
  simp only [createGrant, wlp_bind, wlp_get, wlp_ite, wlp_require, wlp_modify, wlp_pure]
  exact ⟨fun h => ⟨fun f => h.1 f.1 f.2 f.3, h.2⟩, fun h => ⟨fun a b c => h.1 ⟨a, b, c⟩, h.2⟩⟩

@[simp] theorem wlp_revokeGrantRow (id : Uuid) (reason : String) (Q : Unit → CommerceDb → Prop) :
    Wlp (revokeGrantRow id reason) Q db ↔ ∀ old, GrantMoves db id old → Q () { db with
      grants := updateWhere (fun g => g.id = id) (fun g => { g with active := false, revocationReason := some reason })
        db.grants } := by
  simp only [revokeGrantRow, wlp_bind, wlp_get, wlp_orThrow, wlp_require, wlp_modify]
  exact ⟨fun h old m => h old m.1 m.2, fun h old a b => h old ⟨a, b⟩⟩

theorem wp_updateRefund (id : Uuid) (patch : RefundPatch) (Q : Unit → CommerceDb → Prop) :
    Wp (updateRefund id patch) Q db ↔ ∃ old, RefundMoves db id patch old ∧
      Q () { db with refunds := updateWhere (fun r => r.id = id) patch.apply db.refunds } := by
  simp only [updateRefund, wp_bind, wp_get, wp_orThrow, wp_require, wp_modify]
  constructor
  · rintro ⟨old, a, b, c, h⟩
    exact ⟨old, ⟨a, b, c⟩, h⟩
  · rintro ⟨old, m, h⟩
    exact ⟨old, m.1, m.2, m.3, h⟩

theorem wp_updateCase (id : Uuid) (patch : CasePatch) (Q : Unit → CommerceDb → Prop) :
    Wp (updateCase id patch) Q db ↔ ∃ old, CaseMoves db id patch old ∧
      Q () { db with cases := updateWhere (fun c => c.id = id) patch.apply db.cases } := by
  simp only [updateCase, wp_bind, wp_get, wp_orThrow, wp_require, wp_modify]
  constructor
  · rintro ⟨old, a, b, c, d, h⟩
    exact ⟨old, ⟨a, b, c, d⟩, h⟩
  · rintro ⟨old, m, h⟩
    exact ⟨old, m.1, m.2, m.3, m.4, h⟩

theorem wp_revokeGrantRow (id : Uuid) (reason : String) (Q : Unit → CommerceDb → Prop) :
    Wp (revokeGrantRow id reason) Q db ↔ ∃ old, GrantMoves db id old ∧ Q () { db with
      grants := updateWhere (fun g => g.id = id) (fun g => { g with active := false, revocationReason := some reason })
        db.grants } := by
  simp only [revokeGrantRow, wp_bind, wp_get, wp_orThrow, wp_require, wp_modify]
  constructor
  · rintro ⟨old, a, b, h⟩
    exact ⟨old, ⟨a, b⟩, h⟩
  · rintro ⟨old, m, h⟩
    exact ⟨old, m.1, m.2, h⟩

theorem wp_insertOrder (o : CommerceOrder) (Q : Unit → CommerceDb → Prop) :
    Wp (insertOrder o) Q db ↔ OrderFits db o ∧ Q () { db with orders := db.orders ++ [o] } := by
  simp only [insertOrder, wp_bind, wp_get, wp_require, wp_modify]
  constructor
  · rintro ⟨a, b, c, d, e, f, g, h⟩
    exact ⟨⟨a, b, c, d, e, f, g⟩, h⟩
  · rintro ⟨m, h⟩
    exact ⟨m.1, m.2, m.3, m.4, m.5, m.6, m.7, h⟩

theorem wp_updateOrder (id : Uuid) (patch : OrderPatch) (Q : Unit → CommerceDb → Prop) :
    Wp (updateOrder id patch) Q db ↔ ∃ old, OrderMoves db id patch old ∧
      Q () { db with orders := updateWhere (fun o => o.id = id) patch.apply db.orders } := by
  simp only [updateOrder, wp_bind, wp_get, wp_orThrow, wp_require, wp_modify]
  constructor
  · rintro ⟨old, a, b, c, d, e, f, g, i, j, h⟩
    exact ⟨old, ⟨a, b, c, d, e, f, g, i, j⟩, h⟩
  · rintro ⟨old, m, h⟩
    exact ⟨old, m.1, m.2, m.3, m.4, m.5, m.6, m.7, m.8, m.9, h⟩

theorem wp_insertOrderLine (l : CommerceOrderLine) (Q : Unit → CommerceDb → Prop) :
    Wp (insertOrderLine l) Q db ↔ ∃ o, LineFits db l o ∧ Q () { db with lines := db.lines ++ [l] } := by
  simp only [insertOrderLine, wp_bind, wp_get, wp_orThrow, wp_require, wp_modify]
  constructor
  · rintro ⟨a, o, b, c, d, e, h⟩
    exact ⟨o, ⟨a, b, c, d, e⟩, h⟩
  · rintro ⟨o, m, h⟩
    exact ⟨m.1, o, m.2, m.3, m.4, m.5, h⟩

theorem wp_insertReservation (r : CommercePromotionReservation) (Q : Unit → CommerceDb → Prop) :
    Wp (insertReservation r) Q db ↔ ∃ o l, ReservationFits db r o l ∧ Q () { db with reservations := db.reservations ++ [r] } := by
  simp only [insertReservation, wp_bind, wp_get, wp_orThrow, wp_require, wp_modify]
  constructor
  · rintro ⟨a, o, b, l, c, d, e, f, g, i, j, h⟩
    exact ⟨o, l, ⟨a, b, c, d, e, f, g, i, j⟩, h⟩
  · rintro ⟨o, l, m, h⟩
    exact ⟨m.1, o, m.2, l, m.3, m.4, m.5, m.6, m.7, m.8, m.9, h⟩

theorem wp_updateReservation (id : Uuid) (patch : ReservationPatch) (Q : Unit → CommerceDb → Prop) :
    Wp (updateReservation id patch) Q db ↔ ∃ old, ReservationMoves db id patch old ∧
      Q () { db with reservations := updateWhere (fun r => r.id = id) patch.apply db.reservations } := by
  simp only [updateReservation, wp_bind, wp_get, wp_orThrow, wp_require, wp_modify]
  constructor
  · rintro ⟨old, a, b, c, h⟩
    exact ⟨old, ⟨a, b, c⟩, h⟩
  · rintro ⟨old, m, h⟩
    exact ⟨old, m.1, m.2, m.3, h⟩

theorem wp_insertBenefit (b : CommerceOrderLineBenefit) (Q : Unit → CommerceDb → Prop) :
    Wp (insertBenefit b) Q db ↔ ∃ r, BenefitFits db b r ∧ Q () { db with benefits := db.benefits ++ [b] } := by
  simp only [insertBenefit, wp_bind, wp_get, wp_orThrow, wp_require, wp_modify]
  constructor
  · rintro ⟨r, a, b, c, d, h⟩
    exact ⟨r, ⟨a, b, c, d⟩, h⟩
  · rintro ⟨r, m, h⟩
    exact ⟨r, m.1, m.2, m.3, m.4, h⟩

theorem wp_insertRedemption (r : VoucherRedemption) (Q : Unit → CommerceDb → Prop) :
    Wp (insertRedemption r) Q db ↔ ∃ v, RedemptionFits db r v ∧ Q () { db with redemptions := db.redemptions ++ [r] } := by
  simp only [insertRedemption, wp_bind, wp_get, wp_orThrow, wp_require, wp_modify]
  constructor
  · rintro ⟨v, a, b, h⟩
    exact ⟨v, ⟨a, b⟩, h⟩
  · rintro ⟨v, m, h⟩
    exact ⟨v, m.1, m.2, h⟩

theorem wp_insertSettlement (now : Instant) (s : CommerceSettlement) (Q : Unit → CommerceDb → Prop) :
    Wp (insertSettlement now s) Q db ↔
      ∃ o, SettlementFits now db s o ∧ Q () { db with settlements := db.settlements ++ [s] } := by
  simp only [insertSettlement, wp_bind, wp_get, wp_orThrow, wp_require, wp_modify]
  constructor
  · rintro ⟨o, a, b, c, d, e, f, g, i, j, k, h⟩
    exact ⟨o, ⟨a, b, c, d, e, f, g, i, j, k⟩, h⟩
  · rintro ⟨o, m, h⟩
    exact ⟨o, m.1, m.2, m.3, m.4, m.5, m.6, m.7, m.8, m.9, m.10, h⟩

end Statements

end EduAi.Commerce
