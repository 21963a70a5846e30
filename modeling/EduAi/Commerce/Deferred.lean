import EduAi.Commerce.Access
import EduAi.Store.Programs

set_option autoImplicit false

namespace EduAi.Commerce

open EduAi.Store EduAi.Gds EduAi.Payments

-- The constraint triggers deferred to the commit: each one looks at a row the transaction wrote, in the store it leaves.
def orderTotalsMatch (db : CommerceDb) (o : CommerceOrder) : Bool :=
  let lines := linesOf db o.id
  lines ≠ [] ∧ total (fun l => l.unitListPriceAmountMinor) lines = o.subtotalAmountMinor ∧
    total (fun l => l.discountAmountMinor) lines = o.discountAmountMinor ∧
    total (fun l => l.finalAmountMinor) lines = o.payableAmountMinor

def benefitTotalsMatch (db : CommerceDb) (l : CommerceOrderLine) : Bool :=
  total (fun b => b.allocatedDiscountAmountMinor) (db.benefits.filter (fun b => b.orderLineId = l.id)) = l.discountAmountMinor

def consumesBenefit (b : CommerceOrderLineBenefit) (r : CommercePromotionReservation) : Bool :=
  r.orderLineId = b.orderLineId ∧ r.benefitType = b.benefitType ∧ benefitSource r = some b.sourceId ∧ r.status = .consumed

def benefitsConsumed (db : CommerceDb) (o : CommerceOrder) : Bool :=
  o.status = .confirmed → ∀ b ∈ db.benefits, (∃ l ∈ db.lines, l.id = b.orderLineId ∧ l.orderId = o.id) →
    ∃ r ∈ db.reservations, consumesBenefit b r

def paidAttemptEvidence (db : CommerceDb) (a : CommercePaymentAttempt) : Bool :=
  a.status = .paid ∨ a.status = .latePaid → ∃ e ∈ db.events, e.paymentAttemptId = a.id ∧ e.nextStatus = a.status ∧
    ∃ s ∈ db.settlements, s.paymentEventId = some e.id ∧ s.paymentAttemptId = some a.id

def refundTotalsMatch (r : CommerceRefund) : Bool :=
  total (fun a => a.amountMinor) r.allocations = r.amountMinor

def recordedRefunds (db : CommerceDb) : List CommerceRefund :=
  db.refunds.filter (fun r => r.status = .recorded)

def lineRefunded (db : CommerceDb) (lineId : Uuid) : Int :=
  total (fun r => total (fun a => a.amountMinor) (r.allocations.filter (fun a => a.orderLineId = lineId))) (recordedRefunds db)

def recordedRefundBounds (db : CommerceDb) (r : CommerceRefund) : Bool :=
  r.status = .recorded →
    (∀ s ∈ db.settlements, s.id = r.settlementId →
      total (fun r => r.amountMinor) ((recordedRefunds db).filter (fun x => x.settlementId = r.settlementId)) ≤ s.amountMinor) ∧
    ∀ a ∈ r.allocations, ∀ l ∈ db.lines, l.id = a.orderLineId → lineRefunded db l.id ≤ l.finalAmountMinor

def resolutionProven (db : CommerceDb) (c : CommerceReconciliationCase) : Bool :=
  c.status = .resolved →
    (c.resolution = some .refund → ∃ r ∈ db.refunds, r.reconciliationCaseId = some c.id ∧ r.status = .recorded) ∧
    (c.resolution = some .accept → ∃ o ∈ db.orders, o.id = c.orderId ∧ o.status = .confirmed ∧
      o.confirmedSettlementId = c.settlementId)

def convertedCartOrdered (db : CommerceDb) (c : CommerceCart) : Bool :=
  c.status = .converted → ∃ o ∈ db.orders, o.cartId = some c.id ∧ o.buyerId = c.buyerId ∧ o.currency = c.currency

def deferredChecks (before after : CommerceDb) : CommerceTxn Unit := do
  require (∀ c ∈ after.carts, c ∉ before.carts → convertedCartOrdered after c) (.raised "converted cart requires its matching order")
  require (∀ o ∈ after.orders, o ∉ before.orders → orderTotalsMatch after o)
    (.raised "order totals do not equal immutable line snapshots")
  require (∀ l ∈ after.lines, l ∉ before.lines → benefitTotalsMatch after l)
    (.raised "line benefit allocations do not equal line discount")
  require (∀ b ∈ after.benefits, b ∉ before.benefits → ∀ l ∈ after.lines, l.id = b.orderLineId → benefitTotalsMatch after l)
    (.raised "line benefit allocations do not equal line discount")
  require (∀ r ∈ after.refunds, r ∉ before.refunds → refundTotalsMatch r)
    (.raised "refund allocations do not equal requested amount")
  require (∀ r ∈ after.refunds, r ∉ before.refunds → recordedRefundBounds after r)
    (.raised "recorded refunds exceed settled amount")
  require (∀ a ∈ after.attempts, a ∉ before.attempts → paidAttemptEvidence after a)
    (.raised "paid payment attempt requires immutable event and settlement evidence")
  require (∀ c ∈ after.cases, c ∉ before.cases → resolutionProven after c)
    (.raised "refund resolution requires its recorded external refund")
  require (∀ o ∈ after.orders, o ∉ before.orders → benefitsConsumed after o)
    (.raised "confirmed order requires every monetary benefit reservation consumed")

theorem deferredChecks_unchanged (db s : CommerceDb) : deferredChecks db db s = .ok ((), s) := by
  have passes : ∀ (p : Prop) [Decidable p] (fault : Fault), p → (require p fault : CommerceTxn Unit) = pure () := by
    intro p _ fault hp
    unfold require
    rw [if_pos hp]
  unfold deferredChecks
  rw [passes _ _ (fun c hc fresh => absurd hc fresh), passes _ _ (fun o ho fresh => absurd ho fresh),
    passes _ _ (fun l hl fresh => absurd hl fresh), passes _ _ (fun b hb fresh => absurd hb fresh),
    passes _ _ (fun r hr fresh => absurd hr fresh), passes _ _ (fun r hr fresh => absurd hr fresh),
    passes _ _ (fun a ha fresh => absurd ha fresh), passes _ _ (fun c hc fresh => absurd hc fresh),
    passes _ _ (fun o ho fresh => absurd ho fresh)]
  rfl

-- One interactive transaction of the application: its body, then the deferred triggers.
def transaction {α : Type} (body : CommerceTxn α) : CommerceTxn α :=
  transact deferredChecks body

theorem transaction_of {α : Type} (m : CommerceTxn α) (db t : CommerceDb) (a : α) (ran : m db = .ok (a, t))
    (checked : deferredChecks db t t = .ok ((), t)) : transaction m db = .ok (a, t) := by
  show (m db >>= fun p => (deferredChecks db p.2 p.2 >>= fun q => Except.ok (p.1, q.2))) = _
  rw [ran]
  show (deferredChecks db t t >>= fun q => Except.ok (a, q.2)) = _
  rw [checked]
  rfl

theorem transaction_unchanged {α : Type} (body : CommerceTxn α) (db : CommerceDb) (a : α) (ran : body db = .ok (a, db)) :
    transaction body db = .ok (a, db) :=
  transaction_of body db db a ran (deferredChecks_unchanged db db)

end EduAi.Commerce
