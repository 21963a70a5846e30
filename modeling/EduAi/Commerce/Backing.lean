import EduAi.Commerce.Kept

set_option autoImplicit false

namespace EduAi.Commerce

open EduAi.Store EduAi.Gds EduAi.Payments

def AttemptBacked (db : CommerceDb) (a : CommercePaymentAttempt) : Prop :=
  0 < a.amountMinor ∧ a.currency = "VND" ∧
    ∃ o ∈ db.orders, o.id = a.orderId ∧ a.amountMinor = o.payableAmountMinor ∧ a.currency = o.currency

structure EventOfAttempt (e : CommercePaymentEvent) (a : CommercePaymentAttempt) : Prop where
  attempt : a.id = e.paymentAttemptId
  provider : e.provider = a.provider
  amount : e.amountMinor = a.amountMinor
  currency : e.currency = a.currency
  identity : a.providerPaymentIdentity = some e.providerPaymentIdentity

def EventBacked (db : CommerceDb) (e : CommercePaymentEvent) : Prop :=
  ∃ a ∈ db.attempts, EventOfAttempt e a

structure CollectionOf (s : CommerceSettlement) (a : CommercePaymentAttempt) (e : CommercePaymentEvent) : Prop where
  attempt : s.paymentAttemptId = some a.id
  order : a.orderId = s.orderId
  event : s.paymentEventId = some e.id
  eventOf : EventOfAttempt e a
  provider : s.provider = some e.provider
  reference : s.providerSettlementReference = some e.providerSettlementReference
  occurredAt : s.settledAt = e.providerOccurredAt
  nextStatus : s.disposition = .matched → e.nextStatus = .paid
  collector : a.provider ≠ .gds
  orderCode : isPaymentProviderName a.provider = true → a.providerOrderCode.isSome
  identityNamed : isPaymentProviderName a.provider = true → e.providerPaymentIdentity ≠ ""
  referenceNamed : isPaymentProviderName a.provider = true → e.providerSettlementReference ≠ ""

structure SettlementBacked (db : CommerceDb) (s : CommerceSettlement) : Prop where
  shape : settlementShape s = true
  order : ∃ o ∈ db.orders, o.id = s.orderId ∧ s.amountMinor = o.payableAmountMinor ∧ s.currency = o.currency ∧
    (s.disposition = .lateCollection → closed o.status = true)
  collection : s.kind = .providerCollection → ∃ a ∈ db.attempts, ∃ e ∈ db.events, CollectionOf s a e

structure ConfirmedBy (db : CommerceDb) (o : CommerceOrder) (s : CommerceSettlement) : Prop where
  settlement : o.confirmedSettlementId = some s.id
  order : s.orderId = o.id
  amount : s.amountMinor = o.payableAmountMinor
  currency : s.currency = o.currency
  stamped : o.confirmedAt.isSome
  disposition : s.disposition = .internal ∨ s.disposition = .matched
  paid : s.disposition = .matched → ∃ a ∈ db.attempts, s.paymentAttemptId = some a.id ∧ a.status = .paid

def OrderBacked (db : CommerceDb) (o : CommerceOrder) : Prop :=
  (o.confirmedSettlementId.isSome ↔ o.status = .confirmed) ∧
    (o.status = .confirmed → ∃ s ∈ db.settlements, ConfirmedBy db o s) ∧
    (o.fulfillmentStatus ≠ .notStarted → o.status = .confirmed)

structure ReservationBacked (db : CommerceDb) (r : CommercePromotionReservation) : Prop where
  order : ∃ o ∈ db.orders, o.id = r.orderId ∧ o.buyerId = r.buyerId ∧ (r.status = .consumed → o.status = .confirmed)
  line : ∃ l ∈ db.lines, l.id = r.orderLineId ∧ l.orderId = r.orderId

def CaseBacked (c : CommerceReconciliationCase) : Prop :=
  KeyedCase c ∧ (c.settlementId = none → c.status = .isOpen)

def RefundBacked (db : CommerceDb) (r : CommerceRefund) : Prop :=
  ∀ id, r.reconciliationCaseId = some id → ∃ c ∈ db.cases, c.id = id ∧ c.settlementId ≠ none

structure Backed (db : CommerceDb) : Prop where
  keys : Keys db
  attempts : ∀ a ∈ db.attempts, AttemptBacked db a
  events : ∀ e ∈ db.events, EventBacked db e
  settlements : ∀ s ∈ db.settlements, SettlementBacked db s
  orders : ∀ o ∈ db.orders, OrderBacked db o
  reservations : ∀ r ∈ db.reservations, ReservationBacked db r
  cases : ∀ c ∈ db.cases, CaseBacked c
  refunds : ∀ r ∈ db.refunds, RefundBacked db r

theorem emptyCommerceDb_backed (createdAt : Instant) : Backed (emptyCommerceDb createdAt) := by
  refine ⟨emptyCommerceDb_keys createdAt, ?_, ?_, ?_, ?_, ?_, ?_, ?_⟩ <;>
    · intro _ member
      cases member

theorem attemptOfSettlement_some (db : CommerceDb) (s : CommerceSettlement) (a : CommercePaymentAttempt)
    (found : attemptOfSettlement db s = some a) : a ∈ db.attempts ∧ s.paymentAttemptId = some a.id := by
  obtain ⟨id, named, byId⟩ := Option.bind_eq_some_iff.mp found
  obtain ⟨member, same⟩ := attemptById_some db id a byId
  exact ⟨member, by rw [named, same]⟩

theorem eventOfSettlement_some (db : CommerceDb) (s : CommerceSettlement) (e : CommercePaymentEvent)
    (found : eventOfSettlement db s = some e) : e ∈ db.events ∧ s.paymentEventId = some e.id := by
  obtain ⟨id, named, byId⟩ := Option.bind_eq_some_iff.mp found
  obtain ⟨member, same⟩ := eventById_some db id e byId
  exact ⟨member, by rw [named, same]⟩

section Kept

variable (db t : CommerceDb) (kept : Kept db t)

include kept

theorem attemptBacked_kept (a a' : CommercePaymentAttempt) (same : AttemptKept a a') (backed : AttemptBacked db a) :
    AttemptBacked t a' := by
  obtain ⟨positive, vnd, o, ho, named, amount, currency⟩ := backed
  obtain ⟨o', ho', order⟩ := kept.orders o ho
  refine ⟨by rw [same.amount]; exact positive, by rw [same.currency]; exact vnd, o', ho', ?_, ?_, ?_⟩
  · rw [order.id, named, same.orderId]
  · rw [same.amount, amount, order.payable]
  · rw [same.currency, currency, order.currency]

omit kept in
theorem eventOfAttempt_kept (e : CommercePaymentEvent) (a a' : CommercePaymentAttempt) (same : AttemptKept a a')
    (of : EventOfAttempt e a) : EventOfAttempt e a' :=
  ⟨same.id.trans of.attempt, of.provider.trans same.provider.symm, of.amount.trans same.amount.symm,
    of.currency.trans same.currency.symm, same.identity _ of.identity⟩

theorem eventBacked_kept (e : CommercePaymentEvent) (backed : EventBacked db e) : EventBacked t e := by
  obtain ⟨a, ha, of⟩ := backed
  obtain ⟨a', ha', same⟩ := kept.attempts a ha
  exact ⟨a', ha', eventOfAttempt_kept e a a' same of⟩

theorem settlementBacked_kept (s : CommerceSettlement) (backed : SettlementBacked db s) : SettlementBacked t s := by
  refine ⟨backed.shape, ?_, ?_⟩
  · obtain ⟨o, ho, named, amount, currency, late⟩ := backed.order
    obtain ⟨o', ho', order⟩ := kept.orders o ho
    exact ⟨o', ho', order.id.trans named, amount.trans order.payable.symm, currency.trans order.currency.symm,
      fun isLate => order.closed (late isLate)⟩
  · intro collection
    obtain ⟨a, ha, e, he, of⟩ := backed.collection collection
    obtain ⟨a', ha', same⟩ := kept.attempts a ha
    refine ⟨a', ha', e, kept.appends.events.subset he, ?_⟩
    exact { of with
      attempt := by rw [of.attempt, same.id]
      order := same.orderId.trans of.order
      eventOf := eventOfAttempt_kept e a a' same of.eventOf
      collector := by rw [same.provider]; exact of.collector
      orderCode := fun gateway => by rw [same.orderCode]; exact of.orderCode (by rw [← same.provider]; exact gateway)
      identityNamed := fun gateway => of.identityNamed (by rw [← same.provider]; exact gateway)
      referenceNamed := fun gateway => of.referenceNamed (by rw [← same.provider]; exact gateway) }

theorem confirmedBy_kept (o o' : CommerceOrder) (order : OrderKept o o') (s : CommerceSettlement) (confirms : ConfirmedBy db o s) :
    ConfirmedBy t o' s := by
  refine ⟨order.settlement _ confirms.settlement, confirms.order.trans order.id.symm, confirms.amount.trans order.payable.symm,
    confirms.currency.trans order.currency.symm, ?_, confirms.disposition, ?_⟩
  · obtain ⟨stamp, stamped⟩ := Option.isSome_iff_exists.mp confirms.stamped
    rw [order.confirmedAt stamp stamped]
    rfl
  · intro matched
    obtain ⟨a, ha, named, paid⟩ := confirms.paid matched
    obtain ⟨a', ha', same⟩ := kept.attempts a ha
    exact ⟨a', ha', by rw [named, same.id], same.paid paid⟩

theorem refundBacked_kept (r r' : CommerceRefund) (same : r'.reconciliationCaseId = r.reconciliationCaseId)
    (backed : RefundBacked db r) : RefundBacked t r' := by
  intro id named
  obtain ⟨c, hc, sameId, settled⟩ := backed id (same.symm.trans named)
  obtain ⟨c', hc', carried⟩ := kept.cases c hc
  exact ⟨c', hc', carried.id.trans sameId, by rw [carried.settlementId]; exact settled⟩

theorem reservationBacked_kept (keys : Keys db) (r r' : CommercePromotionReservation) (same : ReservationKept r r')
    (consumed : r'.status = .consumed → r.status = .consumed ∨ ∃ o ∈ db.orders, o.id = r.orderId ∧ o.status = .confirmed)
    (backed : ReservationBacked db r) : ReservationBacked t r' := by
  refine ⟨?_, ?_⟩
  · obtain ⟨o, ho, named, buyer, confirmed⟩ := backed.order
    obtain ⟨o', ho', order⟩ := kept.orders o ho
    refine ⟨o', ho', by rw [order.id, named, same.orderId], by rw [order.buyer, buyer, same.buyer], ?_⟩
    intro used
    apply order.confirmed
    rcases consumed used with before | ⟨x, hx, xNamed, xConfirmed⟩
    · exact confirmed before
    · rw [order_same db keys o x ho hx (named.trans xNamed.symm)]
      exact xConfirmed
  · obtain ⟨l, hl, named, order⟩ := backed.line
    exact ⟨l, kept.appends.lines.subset hl, by rw [named, same.orderLineId], by rw [order, same.orderId]⟩

end Kept

-- Where an order of the later store comes from: an order as it was, a new one, or one that a patch moved.
inductive OrderOrigin (db : CommerceDb) (o' : CommerceOrder) : Prop where
  | same (member : o' ∈ db.orders)
  | new (fits : OrderFits db o')
  | moved (id : Uuid) (patch : OrderPatch) (old : CommerceOrder) (moves : OrderMoves db id patch old) (member : old ∈ db.orders)
      (kept : OrderKept old o') (result : o' = patch.apply old)
      (awaiting : ∀ settlementId now, patch = .confirm settlementId now → old.status = .pendingPayment)

section Origins

variable (db t : CommerceDb) (keys : Keys db) (w : Write db t)

include w

theorem write_settlements_from (s : CommerceSettlement) (hs : s ∈ t.settlements) :
    s ∈ db.settlements ∨ ∃ now o, SettlementFits now db s o ∧ (s.kind = .providerCollection → ∃ a e, Collected db s a e) := by
  cases w with
  | routine _ w =>
    cases w with
    | surplus now s' o fits disposition collected =>
      rcases List.mem_append.mp hs with old | new
      · exact .inl old
      · rw [List.mem_singleton.mp new]
        exact .inr ⟨now, o, fits, collected⟩
    | _ => exact .inl hs
  | settle now s' o fits collected =>
    rcases List.mem_append.mp hs with old | new
    · exact .inl old
    · rw [List.mem_singleton.mp new]
      exact .inr ⟨now, o, fits, collected⟩
  | _ => exact .inl hs

theorem write_events_from (e : CommercePaymentEvent) (he : e ∈ t.events) :
    e ∈ db.events ∨ ∃ a, EventFits db e a ∧ a.providerPaymentIdentity = some e.providerPaymentIdentity := by
  cases w with
  | routine _ w =>
    cases w with
    | event e' a fits identified =>
      rcases List.mem_append.mp he with old | new
      · exact .inl old
      · rw [List.mem_singleton.mp new]
        exact .inr ⟨a, fits, identified⟩
    | _ => exact .inl he
  | _ => exact .inl he

include keys

theorem write_attempts_from (a' : CommercePaymentAttempt) (ha' : a' ∈ t.attempts) :
    (∃ a ∈ db.attempts, AttemptKept a a') ∨ ∃ o, AttemptFits db a' o ∧ o.status = .pendingPayment := by
  cases w with
  | routine _ w =>
    cases w with
    | attempt new o fits awaiting =>
      rcases List.mem_append.mp ha' with old | added
      · exact .inl ⟨a', old, attemptKept_refl a'⟩
      · rw [List.mem_singleton.mp added]
        exact .inr ⟨o, fits, awaiting⟩
    | moveAttempt id patch old moves =>
      obtain ⟨a, ha, rfl⟩ := (mem_updateWhere _ _ _ _).mp ha'
      refine .inl ⟨a, ha, ?_⟩
      by_cases selected : a.id = id
      · obtain ⟨member, named⟩ := attemptById_some db id old moves.found
        have same : a = old := attempt_same db keys a old ha member (by rw [named, selected])
        rw [same, if_pos (by simp [named])]
        exact moved_attemptKept db id patch old moves
      · rw [if_neg (by simp [selected])]
        exact attemptKept_refl a
    | _ => exact .inl ⟨a', ha', attemptKept_refl a'⟩
  | _ => exact .inl ⟨a', ha', attemptKept_refl a'⟩

theorem write_cases_from (c' : CommerceReconciliationCase) (hc' : c' ∈ t.cases) :
    (∃ c ∈ db.cases, CaseKept c c') ∨ (CaseFits db c' ∧ KeyedCase c') := by
  cases w with
  | routine _ w =>
    cases w with
    | openCase c fits keyed =>
      rcases List.mem_append.mp hc' with old | added
      · exact .inl ⟨c', old, caseKept_refl c'⟩
      · rw [List.mem_singleton.mp added]
        exact .inr ⟨fits, keyed⟩
    | recheckCase id now old moves =>
      obtain ⟨c, hc, rfl⟩ := (mem_updateWhere _ _ _ _).mp hc'
      refine .inl ⟨c, hc, ?_⟩
      split
      · exact ⟨rfl, rfl, rfl, rfl, rfl, rfl, rfl, fun _ opened => opened⟩
      · exact caseKept_refl c
    | resolveCase id resolution actorId now old moves settled =>
      obtain ⟨c, hc, rfl⟩ := (mem_updateWhere _ _ _ _).mp hc'
      refine .inl ⟨c, hc, ?_⟩
      obtain ⟨member, named⟩ := caseById_some db id old moves.found
      by_cases selected : c.id = id
      · have same : c = old := case_same db keys c old hc member (by rw [named, selected])
        rw [same, if_pos (by simp [named])]
        exact ⟨rfl, rfl, rfl, rfl, rfl, rfl, rfl, fun none => absurd none settled⟩
      · rw [if_neg (by simp [selected])]
        exact caseKept_refl c
    | _ => exact .inl ⟨c', hc', caseKept_refl c'⟩
  | _ => exact .inl ⟨c', hc', caseKept_refl c'⟩

omit keys in
theorem write_refunds_from (r' : CommerceRefund) (hr' : r' ∈ t.refunds) :
    (∃ r ∈ db.refunds, r'.reconciliationCaseId = r.reconciliationCaseId) ∨ RefundBacked db r' := by
  cases w with
  | routine _ w =>
    cases w with
    | refund r s fits totals linked =>
      rcases List.mem_append.mp hr' with old | added
      · exact .inl ⟨r', old, rfl⟩
      · rw [List.mem_singleton.mp added]
        exact .inr linked
    | moveRefund id patch old moves =>
      obtain ⟨r, hr, rfl⟩ := (mem_updateWhere _ _ _ _).mp hr'
      refine .inl ⟨r, hr, ?_⟩
      split
      · cases patch <;> rfl
      · rfl
    | _ => exact .inl ⟨r', hr', rfl⟩
  | _ => exact .inl ⟨r', hr', rfl⟩

theorem write_reservations_from (r' : CommercePromotionReservation) (hr' : r' ∈ t.reservations) :
    (∃ r ∈ db.reservations, ReservationKept r r' ∧
      (r'.status = .consumed → r.status = .consumed ∨ ∃ o ∈ db.orders, o.id = r.orderId ∧ o.status = .confirmed)) ∨
      ∃ o l, ReservationFits db r' o l := by
  have moved : ∀ id (patch : ReservationPatch) old, ReservationMoves db id patch old →
      r' ∈ updateWhere (fun r => r.id = id) patch.apply db.reservations → ∃ r ∈ db.reservations, ReservationKept r r' ∧
        (r'.status = .consumed → r.status = .consumed ∨ ∃ o ∈ db.orders, o.id = r.orderId ∧ o.status = .confirmed) := by
    intro id patch old moves member'
    obtain ⟨r, hr, rfl⟩ := (mem_updateWhere _ _ _ _).mp member'
    refine ⟨r, hr, ?_⟩
    by_cases selected : r.id = id
    · obtain ⟨member, named⟩ := reservation_found db id old moves.found
      have same : r = old := reservation_same db keys r old hr member (by rw [named, selected])
      rw [same, if_pos (by simp [named])]
      refine ⟨?_, fun used => .inr (moves.confirmed used)⟩
      cases patch <;> exact ⟨rfl, rfl, rfl, rfl, rfl, rfl, rfl, rfl, fun ended => absurd moves.reserved ended⟩
    · rw [if_neg (by simp [selected])]
      exact ⟨reservationKept_refl r, fun used => .inl used⟩
  cases w with
  | routine _ w =>
    cases w with
    | returnReservation id patch old moves returns allowed => exact .inl (moved id patch old moves hr')
    | _ => exact .inl ⟨r', hr', reservationKept_refl r', fun used => .inl used⟩
  | reserve r o l fits =>
    rcases List.mem_append.mp hr' with old | added
    · exact .inl ⟨r', old, reservationKept_refl r', fun used => .inl used⟩
    · rw [List.mem_singleton.mp added]
      exact .inr ⟨o, l, fits⟩
  | consume id operationId old moves => exact .inl (moved id _ old moves hr')
  | _ => exact .inl ⟨r', hr', reservationKept_refl r', fun used => .inl used⟩

theorem write_orders_from (o' : CommerceOrder) (ho' : o' ∈ t.orders) : OrderOrigin db o' := by
  have moved : ∀ id (patch : OrderPatch) old, OrderMoves db id patch old →
      (closed old.status = true → (patch.apply old).status ≠ .confirmed) →
      (∀ settlementId now, patch = .confirm settlementId now → old.status = .pendingPayment) →
      o' ∈ updateWhere (fun o => o.id = id) patch.apply db.orders → OrderOrigin db o' := by
    intro id patch old moves closes awaiting member'
    obtain ⟨o, ho, rfl⟩ := (mem_updateWhere _ _ _ _).mp member'
    by_cases selected : o.id = id
    · obtain ⟨member, named⟩ := orderById_some db id old moves.found
      have same : o = old := order_same db keys o old ho member (by rw [named, selected])
      rw [same, if_pos (by simp [named])]
      exact .moved id patch old moves member (moved_orderKept db id patch old moves closes) rfl awaiting
    · rw [if_neg (by simp [selected])]
      exact .same ho
  cases w with
  | routine _ w =>
    cases w with
    | order o fits =>
      rcases List.mem_append.mp ho' with old | added
      · exact .same old
      · rw [List.mem_singleton.mp added]
        exact .new fits
    | moveOrder id patch old moves routine =>
      refine moved id patch old moves (routine_closes patch old routine) ?_ ho'
      rintro settlementId now rfl
      cases routine
    | _ => exact .same ho'
  | confirm id settlementId now old moves awaiting =>
    refine moved id _ old moves ?_ (fun _ _ _ => awaiting) ho'
    intro wasClosed
    rw [awaiting] at wasClosed
    cases wasClosed
  | fulfilled id old moves complete =>
    refine moved id _ old moves (fulfill_closes .fulfilled old) ?_ ho'
    intro settlementId now confirm
    cases confirm
  | _ => exact .same ho'

end Origins

section Preserved

variable (db t : CommerceDb) (backed : Backed db) (w : Write db t)

include backed

theorem settlementFits_backed (now : Instant) (s : CommerceSettlement) (o : CommerceOrder) (fits : SettlementFits now db s o)
    (collected : s.kind = .providerCollection → ∃ a e, Collected db s a e) : SettlementBacked db s := by
  obtain ⟨ho, named⟩ := orderById_some db s.orderId o fits.order
  have late : s.disposition = .lateCollection → closed o.status = true := by
    intro isLate
    have shape := fits.shape
    have proven := fits.proven
    unfold settlementShape at shape
    unfold settlementProven at proven
    cases kind : s.kind with
    | noPaymentRequired => simp [kind, isLate] at shape
    | walletCapture => simp [kind, isLate] at shape
    | providerCollection =>
      simp only [kind, collectionProven] at proven
      have statuses := (of_decide_eq_true proven).2.2.2 isLate
      rcases statuses with cancelled | expired | review
      · rw [cancelled]; rfl
      · rw [expired]; rfl
      · rw [review]; rfl
  refine ⟨fits.shape, ⟨o, ho, named, fits.total.1, fits.total.2, late⟩, ?_⟩
  intro collection
  obtain ⟨a, e, facts⟩ := collected collection
  obtain ⟨ha, attempt⟩ := attemptOfSettlement_some db s a facts.attempt
  obtain ⟨he, event⟩ := eventOfSettlement_some db s e facts.event
  have proven := fits.proven
  simp only [settlementProven, collection, collectionProven, facts.attempt, facts.event, Option.any_some, decide_eq_true_eq]
    at proven
  obtain ⟨order, ⟨sameAttempt, provider, reference, _⟩, _, _⟩ := proven
  obtain ⟨a', ha', of⟩ := backed.events e he
  have same : a' = a := by
    refine attempt_same db backed.keys a' a ha' ha ?_
    rw [of.attempt]
    rw [attempt] at sameAttempt
    exact Option.some.inj sameAttempt
  subst same
  exact ⟨a', ha, e, he, ⟨attempt, order, event, of, provider.symm, reference.symm, facts.occurredAt, facts.nextStatus,
    facts.collector, facts.orderCode, facts.identity, facts.reference⟩⟩

theorem confirm_backed (id settlementId : Uuid) (now : Instant) (old : CommerceOrder)
    (moves : OrderMoves db id (.confirm settlementId now) old) (member : old ∈ db.orders)
    (awaiting : old.status = .pendingPayment) :
    ∃ s ∈ db.settlements, ConfirmedBy db ((OrderPatch.confirm settlementId now).apply old) s := by
  have named := moves.confirmable
  simp only [OrderPatch.apply, reduceCtorEq, false_or, confirmingSettlement, Option.bind_some] at named
  obtain ⟨s, found, fits⟩ := Option.any_eq_true _ _ |>.mp named
  obtain ⟨hs, sameId⟩ := settlementById_some db settlementId s found
  obtain ⟨order, amount, currency, dispositions⟩ := of_decide_eq_true fits
  refine ⟨s, hs, ⟨by rw [sameId]; rfl, order, amount, currency, rfl, ?_, ?_⟩⟩
  · rcases dispositions with internal | matched | late | wallet
    · exact .inl internal.1
    · exact .inr matched.1
    · obtain ⟨o, ho, sameOrder, _, _, closes⟩ := (backed.settlements s hs).order
      have same : o = old := order_same db backed.keys o old ho member (sameOrder.trans order)
      have wasClosed := closes late.1
      rw [same, awaiting] at wasClosed
      cases wasClosed
    · exact .inl wallet.2.1
  · intro matched
    rcases dispositions with internal | paid | late | wallet
    · rw [internal.1] at matched
      cases matched
    · obtain ⟨a, foundAttempt, isPaid⟩ := Option.any_eq_true _ _ |>.mp paid.2
      obtain ⟨ha, attempt⟩ := attemptOfSettlement_some db s a foundAttempt
      exact ⟨a, ha, attempt, of_decide_eq_true isPaid⟩
    · rw [late.1] at matched
      cases matched
    · rw [wallet.2.1] at matched
      cases matched

include w

theorem write_orderBacked (o' : CommerceOrder) (ho' : o' ∈ t.orders) : OrderBacked t o' := by
  have kept := write_kept db t backed.keys w
  cases write_orders_from db t backed.keys w o' ho' with
  | same member =>
    obtain ⟨iff, confirmed, fulfilling⟩ := backed.orders o' member
    refine ⟨iff, ?_, fulfilling⟩
    intro status
    obtain ⟨s, hs, confirms⟩ := confirmed status
    exact ⟨s, kept.appends.settlements.subset hs, confirmedBy_kept db t kept o' o' (orderKept_refl o') s confirms⟩
  | new fits =>
    have none := fits.unconfirmed.2
    have pending := fits.awaiting.1
    refine ⟨by simp [none, pending], fun confirmed => ?_, fun started => absurd fits.awaiting.2 started⟩
    rw [pending] at confirmed
    cases confirmed
  | moved id patch old moves member orderKept result awaiting =>
    subst result
    refine ⟨⟨?_, fun status => (moves.confirmedStamped status).2⟩, ?_, ?_⟩
    · intro named
      rcases moves.settlementOnly with none | confirmed
      · rw [none] at named
        cases named
      · exact confirmed
    · intro status
      by_cases before : old.status = .confirmed
      · obtain ⟨s, hs, confirms⟩ := (backed.orders old member).2.1 before
        exact ⟨s, kept.appends.settlements.subset hs, confirmedBy_kept db t kept old _ orderKept s confirms⟩
      · cases patch with
        | confirm settlementId now =>
          obtain ⟨s, hs, confirms⟩ := confirm_backed db backed id settlementId now old moves member (awaiting settlementId now rfl)
          exact ⟨s, kept.appends.settlements.subset hs, confirmedBy_kept db t kept _ _ (orderKept_refl _) s confirms⟩
        | close expired => cases expired <;> cases status
        | lateReview => cases status
        | lateRefunded => cases status
        | fulfill next => exact absurd status before
    · intro started
      exact moves.fulfilledConfirmed.resolve_left started

theorem write_backed : Backed t := by
  have kept := write_kept db t backed.keys w
  refine ⟨write_keys db t w backed.keys, ?_, ?_, ?_, write_orderBacked db t backed w, ?_, ?_, ?_⟩
  · intro a' ha'
    rcases write_attempts_from db t backed.keys w a' ha' with ⟨a, ha, same⟩ | ⟨o, fits, awaiting⟩
    · exact attemptBacked_kept db t kept a a' same (backed.attempts a ha)
    · obtain ⟨ho, named⟩ := orderById_some db a'.orderId o fits.order
      exact attemptBacked_kept db t kept a' a' (attemptKept_refl a')
        ⟨fits.amount, fits.currency, o, ho, named, fits.total.1, fits.total.2.1⟩
  · intro e he
    refine eventBacked_kept db t kept e ?_
    rcases write_events_from db t w e he with old | ⟨a, fits, identified⟩
    · exact backed.events e old
    · obtain ⟨ha, named⟩ := attemptById_some db e.paymentAttemptId a fits.attempt
      exact ⟨a, ha, named, fits.facts.1, fits.facts.2.1, fits.facts.2.2.1, identified⟩
  · intro s hs
    refine settlementBacked_kept db t kept s ?_
    rcases write_settlements_from db t w s hs with old | ⟨now, o, fits, collected⟩
    · exact backed.settlements s old
    · exact settlementFits_backed db backed now s o fits collected
  · intro r' hr'
    rcases write_reservations_from db t backed.keys w r' hr' with ⟨r, hr, same, consumed⟩ | ⟨o, l, fits⟩
    · exact reservationBacked_kept db t kept backed.keys r r' same consumed (backed.reservations r hr)
    · obtain ⟨ho, named⟩ := orderById_some db r'.orderId o fits.order
      obtain ⟨hl, lineNamed⟩ := find_some _ db.lines l fits.line
      refine reservationBacked_kept db t kept backed.keys r' r' (reservationKept_refl r') (fun used => .inl used) ?_
      refine ⟨⟨o, ho, named, fits.owned.1.symm, ?_⟩, l, hl, of_decide_eq_true lineNamed, fits.owned.2.symm⟩
      intro used
      rw [fits.initial.1] at used
      cases used
  · intro c' hc'
    rcases write_cases_from db t backed.keys w c' hc' with ⟨c, hc, same⟩ | ⟨fits, keyed⟩
    · obtain ⟨⟨attemptId, kind, rest, key, attempt, unsettled⟩, opened⟩ := backed.cases c hc
      refine ⟨⟨attemptId, kind, rest, same.sourceKey.trans key, same.paymentAttemptId.trans attempt, ?_⟩, ?_⟩
      · rw [same.settlementId]
        exact unsettled
      · intro none
        rw [same.settlementId] at none
        exact same.unsettledOpen none (opened none)
    · exact ⟨keyed, fun _ => fits.initial.1⟩
  · intro r' hr'
    rcases write_refunds_from db t w r' hr' with ⟨r, hr, same⟩ | linked
    · exact refundBacked_kept db t kept r r' same (backed.refunds r hr)
    · exact refundBacked_kept db t kept r' r' rfl linked

end Preserved

section Confirming

variable (db : CommerceDb) (backed : Backed db) (o : CommerceOrder) (ho : o ∈ db.orders) (s : CommerceSettlement)
  (hs : s ∈ db.settlements) (named : o.confirmedSettlementId = some s.id)

include backed ho hs named

theorem named_confirms : o.status = .confirmed ∧ ConfirmedBy db o s := by
  obtain ⟨iff, confirmedBy, _⟩ := backed.orders o ho
  have confirmed := iff.mp (by rw [named]; rfl)
  obtain ⟨x, hx, confirms⟩ := confirmedBy confirmed
  have same : x = s := by
    refine settlement_same db backed.keys x s hx hs ?_
    have other := confirms.settlement
    rw [named] at other
    exact (Option.some.inj other).symm
  rw [same] at confirms
  exact ⟨confirmed, confirms⟩

theorem collection_confirms (kind : s.kind = .providerCollection) : s.disposition = .matched ∧
    ∃ a ∈ db.attempts, ∃ e ∈ db.events, CollectionOf s a e ∧ a.status = .paid := by
  obtain ⟨_, confirms⟩ := named_confirms db backed o ho s hs named
  have settled := backed.settlements s hs
  have matched : s.disposition = .matched := by
    rcases confirms.disposition with internal | matched
    · have shape := settled.shape
      simp [settlementShape, kind, internal] at shape
    · exact matched
  obtain ⟨a, ha, e, he, of⟩ := settled.collection kind
  obtain ⟨b, hb, attempt, paid⟩ := confirms.paid matched
  have same : b = a := by
    refine attempt_same db backed.keys b a hb ha ?_
    have other := of.attempt
    rw [attempt] at other
    exact Option.some.inj other
  rw [same] at paid
  exact ⟨matched, a, ha, e, he, of, paid⟩

end Confirming

end EduAi.Commerce
