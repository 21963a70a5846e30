import EduAi.Payments.DualControl
import EduAi.Payments.FulfilledOnce
import EduAi.Payments.MoneyTrace
import EduAi.Payments.WalletPayment

set_option autoImplicit false

namespace EduAi.Payments

open EduAi.Store EduAi.Gds EduAi.Commerce

variable {scope : Scope}

-- A settlement of the order that fulfilConfirmedPayment would take for its payment.
def paymentFulfillable (deployment : Deployment) (now : Instant) (db : CommerceDb) (o : CommerceOrder) : Bool :=
  db.settlements.any (fun x => (requireCanonicalPayment deployment now o.id x.id db).isOk)

-- What confirmNoPaymentRequired asks for before it confirms and fulfils; a confirmed order it hands back as it is.
def noPaymentDue (db : CommerceDb) (o : CommerceOrder) : Bool :=
  o.payableAmountMinor = 0 ∧ o.status = .pendingPayment ∧ (intentOf db o.id).isSome ∧ reservedOf db o.id = []

-- The orders that expireDue selects for another attempt, with the payment it attempts them with.
def bankRetried (deployment : Deployment) (now : Instant) (db : CommerceDb) (o : CommerceOrder) : Bool :=
  o.status = .confirmed ∧ (o.fulfillmentStatus = .notStarted ∨ o.fulfillmentStatus = .failed) ∧
    (confirmingSettlement db o).any (fun x => x.provider = some .bankTransfer ∧
      (requireCanonicalPayment deployment now o.id x.id db).isOk)

def retryOffered (db : CommerceDb) (o : CommerceOrder) : Bool :=
  db.cases.any (fun c =>
    match prepareRetry c.id c.updatedAt db with
    | .ok (payment, _) => payment.1 = o.id
    | .error _ => false)

def fulfillmentOffered (deployment : Deployment) (now : Instant) (db : CommerceDb) (o : CommerceOrder) : Bool :=
  paymentFulfillable deployment now db o || noPaymentDue db o || bankRetried deployment now db o || retryOffered db o

theorem prepareRetry_collected (caseId : Uuid) (expectedUpdatedAt : Instant) (db : CommerceDb) :
    Wlp (prepareRetry caseId expectedUpdatedAt) (fun payment t => t = db ∧ ∃ x o, settlementById db payment.2 = some x ∧
      orderById db payment.1 = some o ∧ o.confirmedSettlementId = some x.id ∧ x.kind = .providerCollection) db := by
  simp only [prepareRetry, loadOpenCase, wlp_bind, wlp_get, wlp_orThrow, wlp_require, wlp_pure]
  intro c _ _ _ _ _ proven settlementId named
  obtain ⟨_, rows⟩ := of_decide_eq_true proven
  rw [named, Option.bind_some] at rows
  obtain ⟨x, bySettlement, _, attempts⟩ := (Option.any_eq_true _ _).mp rows |>.imp (fun _ h => h.imp_right of_decide_eq_true)
  obtain ⟨a, _, _, events⟩ := (Option.any_eq_true _ _).mp attempts |>.imp (fun _ h => h.imp_right of_decide_eq_true)
  obtain ⟨e, _, _, orders⟩ := (Option.any_eq_true _ _).mp events |>.imp (fun _ h => h.imp_right of_decide_eq_true)
  obtain ⟨o, byOrder, payment, _⟩ := (Option.any_eq_true _ _).mp orders |>.imp (fun _ h => h.imp_right of_decide_eq_true)
  obtain ⟨_, confirms, _, kind, _⟩ := of_decide_eq_true payment
  exact ⟨trivial, x, o, bySettlement, byOrder, confirms, kind⟩

section Entries

variable (deployment : Deployment) (s : System) (bank : BankSound deployment s) (o : CommerceOrder) (ho : o ∈ s.db.orders)
  (confirmed : o.status = .confirmed)

include bank ho

theorem collected_fulfillable (x : CommerceSettlement) (hx : x ∈ s.db.settlements) (named : o.confirmedSettlementId = some x.id)
    (kind : x.kind = .providerCollection) : (requireCanonicalPayment deployment s.now o.id x.id s.db).isOk = true := by
  have whole := bank.sound.whole
  have backed := whole.delivered.backed
  obtain ⟨found, settlement⟩ := confirming_found s.db whole o ho x hx named
  obtain ⟨matched, a, ha, e, he, of, paid⟩ := collection_confirms s.db backed o ho x hx named kind
  have provider : x.provider = some a.provider := by rw [of.provider, of.eventOf.provider]
  by_cases transfer : a.provider = .bankTransfer
  · have byBank : x.provider = some .bankTransfer := by rw [provider, transfer]
    have order := (named_confirms s.db backed o ho x hx named).2.order
    have proven := proof_succeeds deployment s bank x hx byBank
    rw [order] at proven
    have byAttempt : attemptOfSettlement s.db x = some a := by
      unfold attemptOfSettlement
      rw [of.attempt]
      exact attemptById_of_mem s.db backed.keys a ha
    have paidHere : paidByBank s.db o.id = true := by
      unfold paidByBank
      rw [found, Option.bind_some, settlement, Option.any_some]
      exact decide_eq_true byBank
    unfold requireCanonicalPayment
    rw [get_bind_run, if_pos paidHere, bind_run _ _ _ _ _ proven, orThrow_bind_run _ _ _ _ o found,
      orThrow_bind_run _ _ _ _ x settlement, orThrow_bind_run _ _ _ _ a byAttempt]
    rfl
  · have gateway : x.provider.any isPaymentProviderName = true := by
      rw [provider, Option.any_some]
      have collector := of.collector
      cases each : a.provider with
      | payos => rfl
      | vnpay => rfl
      | bankTransfer => exact absurd each transfer
      | gds => exact absurd each collector
    obtain ⟨unbanked, p, canonical, _⟩ := gateway_canonical s.db whole o ho x hx named kind gateway
    unfold requireCanonicalPayment
    rw [get_bind_run, unbanked, canonical]
    rfl

theorem offered_collected (confirmed : o.status = .confirmed) (offered : fulfillmentOffered deployment s.now s.db o = true) :
    ∃ x ∈ s.db.settlements, o.confirmedSettlementId = some x.id ∧ x.kind = .providerCollection := by
  have whole := bank.sound.whole
  have backed := whole.delivered.backed
  obtain ⟨x, hx, named, _, _⟩ := confirmed_by_one s bank.sound o ho confirmed
  obtain ⟨found, settlement⟩ := confirming_found s.db whole o ho x hx named
  have banked : x.provider = some .bankTransfer → x.kind = .providerCollection := by
    intro provider
    obtain ⟨r, e, paid⟩ := bank.settled.proven x hx provider
    exact paid.settled.1
  have canonical : ∀ id, (requireCanonicalPayment deployment s.now o.id id s.db).isOk = true → x.kind = .providerCollection := by
    intro id ok
    unfold requireCanonicalPayment at ok
    rw [get_bind_run] at ok
    by_cases transfer : paidByBank s.db o.id = true
    · unfold paidByBank at transfer
      rw [found, Option.bind_some, settlement, Option.any_some] at transfer
      exact banked (of_decide_eq_true transfer)
    · rw [if_neg transfer] at ok
      cases found' : canonicalPayment s.db o.id id with
      | none =>
        rw [found'] at ok
        cases ok
      | some p =>
        obtain ⟨order, confirming, _, _, e, _, proven⟩ := (canonicalPayment_some o.id id s.db p).mp found'
        have one : p.order = o := Option.some.inj (order.symm.trans found)
        rw [one] at confirming
        have same : p.settlement = x := Option.some.inj (confirming.symm.trans settlement)
        obtain ⟨_, _, _, kind, _⟩ := of_decide_eq_true proven
        rw [← same]
        exact kind
  refine ⟨x, hx, named, ?_⟩
  simp only [fulfillmentOffered, Bool.or_eq_true] at offered
  rcases offered with ((payment | free) | retried) | retry
  · obtain ⟨y, _, ok⟩ := List.any_eq_true.mp payment
    exact canonical y.id ok
  · obtain ⟨_, awaiting, _⟩ := of_decide_eq_true free
    rw [confirmed] at awaiting
    cases awaiting
  · obtain ⟨_, _, transfer⟩ := of_decide_eq_true retried
    rw [settlement, Option.any_some] at transfer
    exact banked (of_decide_eq_true transfer).1
  · obtain ⟨c, _, answered⟩ := List.any_eq_true.mp retry
    split at answered
    case h_1 payment t ok =>
      obtain ⟨_, y, o', bySettlement, byOrder, confirms, kind⟩ := prepareRetry_collected c.id c.updatedAt s.db payment t ok
      rw [of_decide_eq_true answered, found] at byOrder
      rw [← Option.some.inj byOrder, named] at confirms
      have same := settlement_same s.db backed.keys x y hx (settlementById_some s.db _ y bySettlement).1 (Option.some.inj confirms)
      rw [same]
      exact kind
    case h_2 => cases answered

theorem offered_iff_collected (confirmed : o.status = .confirmed) : fulfillmentOffered deployment s.now s.db o = true ↔
    ∃ x ∈ s.db.settlements, o.confirmedSettlementId = some x.id ∧ x.kind = .providerCollection := by
  constructor
  · exact offered_collected deployment s bank o ho confirmed
  · rintro ⟨x, hx, named, kind⟩
    have payment : paymentFulfillable deployment s.now s.db o = true :=
      List.any_eq_true.mpr ⟨x, hx, collected_fulfillable deployment s bank o ho x hx named kind⟩
    simp only [fulfillmentOffered, payment, Bool.true_or]

end Entries

-- An order settled inside the system was fulfilled in the transaction that settled it.
def InternalFulfilled (db : CommerceDb) : Prop :=
  ∀ x ∈ db.settlements, x.disposition = .internal → ∃ o ∈ db.orders, o.id = x.orderId ∧ o.fulfillmentStatus = .fulfilled

section Preserved

variable (db t : CommerceDb)

theorem internalFulfilled_kept (kept : Kept db t) (x : CommerceSettlement)
    (fulfilled : ∃ o ∈ db.orders, o.id = x.orderId ∧ o.fulfillmentStatus = .fulfilled) :
    ∃ o ∈ t.orders, o.id = x.orderId ∧ o.fulfillmentStatus = .fulfilled := by
  obtain ⟨o, ho, named, done⟩ := fulfilled
  obtain ⟨o', ho', same⟩ := kept.orders o ho
  exact ⟨o', ho', same.id.trans named, same.fulfilled done⟩

theorem confirmation_internal_from (now : Instant) (s : CommerceSettlement) (o : CommerceOrder) (u : CommerceDb)
    (confirms : Confirmation scope db now s o u) (x : CommerceSettlement) (hx : x ∈ (confirmedStore now s u).settlements)
    (internal : x.disposition = .internal) : x ∈ db.settlements ∨ x = s := by
  rcases routines_settlements_from _ _ confirms.moved x hx with before | other
  · rcases List.mem_append.mp before with old | new
    · exact .inl old
    · exact .inr (List.mem_singleton.mp new)
  · exact absurd (.inr internal) other

theorem transition_internalFulfilled (allow : Allowance) (charged : ¬ allow.gifts) (keys : Keys db)
    (settled : InternalFulfilled db) (step : Transition allow db t) : InternalFulfilled t := by
  have kept := writes_kept db t keys (transition_writes allow db t step)
  intro x hx internal
  have carried : x ∈ db.settlements → ∃ o ∈ t.orders, o.id = x.orderId ∧ o.fulfillmentStatus = .fulfilled :=
    fun old => internalFulfilled_kept db t kept x (settled x old internal)
  cases step with
  | routine t w =>
    rcases routine_settlements_from db t w x hx with old | other
    · exact carried old
    · exact absurd (.inr internal) other
  | collected now s o u confirms matched banked =>
    rcases confirmation_internal_from db now s o u confirms x hx internal with old | new
    · exact carried old
    · rw [new, matched] at internal
      cases internal
  | gifted now s o u confirms internal free allowed => exact absurd allowed charged
  | granted now s o u t confirms granted done =>
    have same : t.settlements = (confirmedStore now s u).settlements := by
      rw [← done.apart]
      rfl
    rw [same] at hx
    rcases confirmation_internal_from db now s o u confirms x hx internal with old | new
    · exact carried old
    · obtain ⟨ho, named⟩ := orderById_some u s.orderId o confirms.moves.found
      rw [new, done.orders]
      refine ⟨_, (mem_updateWhere _ _ _ _).mpr ⟨_, (mem_updateWhere _ _ _ _).mpr ⟨o, ho, rfl⟩, rfl⟩, ?_⟩
      rw [if_pos (by simp [named]), if_pos (by simp [named])]
      exact ⟨named, rfl⟩
  | completed orderId o t found confirmed unfulfilled done allowed =>
    have same : t.settlements = db.settlements := by
      rw [← done.apart]
      rfl
    rw [same] at hx
    exact carried hx
  | _ => exact carried hx

end Preserved

def chargesCheckout (s : System) : Input → Prop
  | .createOrder _ request _ => ∀ rows, freeCheckout s.now request { s.db with idempotency := rows } = false
  | _ => True

def charged : Allowance :=
  { unrestricted with gifts := False }

theorem charged_admits (s : System) (i : Input) (charges : chargesCheckout s i) : Admits charged s i := by
  have admits := unrestricted_admits s i
  cases i with
  | createOrder draw request owned =>
    refine ⟨fun _ => ⟨fun _ _ _ _ _ _ _ => trivial, fun _ => trivial⟩, fun rows free => ?_⟩
    rw [charges rows] at free
    cases free
  | _ => exact admits

structure Fulfillable (deployment : Deployment) (s : System) : Prop where
  bank : BankSound deployment s
  settled : InternalFulfilled s.db

theorem step_fulfillable (deployment : Deployment) (s : System) (i : Input) (held : Fulfillable deployment s)
    (charges : chargesCheckout s i) : Fulfillable deployment (step deployment s i) := by
  have whole := held.bank.sound.whole
  have steps := step_transitions charged deployment s i whole (charged_admits s i charges)
  refine ⟨step_bankSound deployment s i held.bank, ?_⟩
  exact (writes_invariant (fun db => Keys db ∧ InternalFulfilled db)
    (fun db t moved kept => ⟨writes_keys db t kept.1 (transition_writes charged db t moved),
      transition_internalFulfilled db t charged id kept.1 kept.2 moved⟩)
    _ _ steps ⟨whole.delivered.backed.keys, held.settled⟩).2

/-- In a run that gives no order away, a confirmed order is fulfilled or can still be. -/
theorem confirmed_order_fulfillable (deployment : Deployment) (createdAt : Instant) (inputs : List Input)
    (charges : AllMeet (step deployment) chargesCheckout (System.start createdAt) inputs) :
    let s := run (step deployment) (System.start createdAt) inputs
    ∀ o ∈ s.db.orders, o.status = .confirmed → o.fulfillmentStatus ≠ .fulfilled →
      fulfillmentOffered deployment s.now s.db o = true := by
  have held := run_invariant_meet (step deployment) chargesCheckout (Fulfillable deployment) (step_fulfillable deployment)
    (System.start createdAt) inputs ⟨start_bankSound deployment createdAt, fun _ member => by cases member⟩ charges
  intro s o ho confirmed unfulfilled
  refine (offered_iff_collected deployment s held.bank o ho confirmed).mpr ?_
  obtain ⟨x, hx, named, order, disposition⟩ := confirmed_by_one s held.bank.sound o ho confirmed
  refine ⟨x, hx, named, ?_⟩
  rcases disposition with matched | internal
  · have shape := (held.bank.sound.whole.delivered.backed.settlements x hx).shape
    simp [settlementShape, matched] at shape
    exact shape.1
  · obtain ⟨o', ho', named', fulfilled⟩ := held.settled x hx internal
    have same : o' = o := order_same s.db held.bank.sound.whole.delivered.backed.keys o' o ho' ho (named'.trans order)
    rw [same] at fulfilled
    exact absurd fulfilled unfulfilled

theorem paid_order_fulfillable : let s := run (step sampleDeployment) (System.start 0) sampleCollected
    ∃ o ∈ s.db.orders, fulfillmentOffered sampleDeployment s.now s.db o = true := by
  intro s
  obtain ⟨o, ho, confirmed, unfulfilled⟩ : ∃ o ∈ s.db.orders, o.status = .confirmed ∧ o.fulfillmentStatus ≠ .fulfilled := by
    decide +kernel
  have charges : AllMeet (step sampleDeployment) chargesCheckout (System.start 0) sampleCollected :=
    ⟨trivial, fun rows => rfl, trivial, trivial, trivial, trivial⟩
  exact ⟨o, ho, confirmed_order_fulfillable sampleDeployment 0 sampleCollected charges o ho confirmed unfulfilled⟩

def sampleVoucher : Voucher where
  id := "voucher-1"
  code := "FREE"
  status := .active
  kind := .percentage
  value := 100
  currency := "VND"
  startsAt := 0
  endsAt := 1000000000
  minimumCoursePriceMinor := none
  maximumDiscountMinor := none
  usageLimit := some 1
  perUserLimit := some 1
  redeemedCount := 0
  courseIds := []
  categorySlugs := []
  eligibleUserIds := []

def sampleGift : System :=
  run (step sampleDeployment) (System.start 0) [.environment sampleShop, .createVoucher sampleVoucher,
    .createOrder (sampleOrderDraw "1") (sampleCheckout "1" [("course-1", "FREE")]) (fun _ => false)]

-- Asking for its payment hands the order back as it is.
theorem gift_never_fulfilled : ∃ o ∈ sampleGift.db.orders, o.status = .confirmed ∧ o.fulfillmentStatus ≠ .fulfilled ∧
    fulfillmentOffered sampleDeployment sampleGift.now sampleGift.db o = false ∧
    o ∈ (step sampleDeployment sampleGift (.requestPayment (samplePaymentDraw "1" "0000000000001-a") (sampleRequest "1" .payos))).db.orders := by
  decide +kernel

end EduAi.Payments
