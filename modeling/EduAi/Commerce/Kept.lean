import EduAi.Commerce.Keys

set_option autoImplicit false

namespace EduAi.Commerce

open EduAi.Store EduAi.Gds EduAi.Payments

def closed (status : CommerceOrderStatus) : Bool :=
  status ≠ .pendingPayment && status ≠ .confirmed

structure OrderKept (o o' : CommerceOrder) : Prop where
  id : o'.id = o.id
  buyer : o'.buyerId = o.buyerId
  payable : o'.payableAmountMinor = o.payableAmountMinor
  currency : o'.currency = o.currency
  settlement : ∀ id, o.confirmedSettlementId = some id → o'.confirmedSettlementId = some id
  confirmedAt : ∀ at', o.confirmedAt = some at' → o'.confirmedAt = some at'
  confirmed : o.status = .confirmed → o'.status = .confirmed
  closed : closed o.status = true → closed o'.status = true
  fulfilled : o.fulfillmentStatus = .fulfilled → o'.fulfillmentStatus = .fulfilled

structure AttemptKept (a a' : CommercePaymentAttempt) : Prop where
  id : a'.id = a.id
  orderId : a'.orderId = a.orderId
  provider : a'.provider = a.provider
  orderCode : a'.providerOrderCode = a.providerOrderCode
  amount : a'.amountMinor = a.amountMinor
  currency : a'.currency = a.currency
  createdAt : a'.createdAt = a.createdAt
  identity : ∀ identity, a.providerPaymentIdentity = some identity → a'.providerPaymentIdentity = some identity
  paid : a.status = .paid → a'.status = .paid
  latePaid : a.status = .latePaid → a'.status = .latePaid
  ended : isOpenAttempt a = false → isOpenAttempt a' = false

structure CaseKept (c c' : CommerceReconciliationCase) : Prop where
  id : c'.id = c.id
  orderId : c'.orderId = c.orderId
  settlementId : c'.settlementId = c.settlementId
  paymentAttemptId : c'.paymentAttemptId = c.paymentAttemptId
  kind : c'.kind = c.kind
  reasonCode : c'.reasonCode = c.reasonCode
  sourceKey : c'.sourceKey = c.sourceKey
  unsettledOpen : c.settlementId = none → c.status = .isOpen → c'.status = .isOpen

structure ReservationKept (r r' : CommercePromotionReservation) : Prop where
  id : r'.id = r.id
  buyer : r'.buyerId = r.buyerId
  orderId : r'.orderId = r.orderId
  orderLineId : r'.orderLineId = r.orderLineId
  benefitType : r'.benefitType = r.benefitType
  voucherId : r'.voucherId = r.voucherId
  scholarshipAwardId : r'.scholarshipAwardId = r.scholarshipAwardId
  expiresAt : r'.expiresAt = r.expiresAt
  ended : r.status ≠ .reserved → r' = r

structure BankRequestKept (r r' : CommerceBankTransferRequest) : Prop where
  same : { r' with status := r.status } = r
  paid : r.status = .paid → r'.status = .paid

structure SubscriptionKept (s s' : MembershipSubscription) : Prop where
  same : { s' with active := s.active } = s
  cancelled : s.active = false → s'.active = false

structure GrantKept (g g' : CourseAccessGrant) : Prop where
  id : g'.id = g.id
  key : grantKey g' = grantKey g
  revoked : g.active = false → g'.active = false

theorem orderKept_refl (o : CommerceOrder) : OrderKept o o :=
  ⟨rfl, rfl, rfl, rfl, fun _ h => h, fun _ h => h, fun h => h, fun h => h, fun h => h⟩

theorem orderKept_trans (a b c : CommerceOrder) (first : OrderKept a b) (second : OrderKept b c) : OrderKept a c :=
  ⟨second.id.trans first.id, second.buyer.trans first.buyer, second.payable.trans first.payable,
    second.currency.trans first.currency, fun id h => second.settlement id (first.settlement id h),
    fun t h => second.confirmedAt t (first.confirmedAt t h), fun h => second.confirmed (first.confirmed h),
    fun h => second.closed (first.closed h), fun h => second.fulfilled (first.fulfilled h)⟩

theorem attemptKept_refl (a : CommercePaymentAttempt) : AttemptKept a a :=
  ⟨rfl, rfl, rfl, rfl, rfl, rfl, rfl, fun _ h => h, fun h => h, fun h => h, fun h => h⟩

theorem attemptKept_trans (a b c : CommercePaymentAttempt) (first : AttemptKept a b) (second : AttemptKept b c) :
    AttemptKept a c :=
  ⟨second.id.trans first.id, second.orderId.trans first.orderId, second.provider.trans first.provider,
    second.orderCode.trans first.orderCode, second.amount.trans first.amount, second.currency.trans first.currency,
    second.createdAt.trans first.createdAt, fun i h => second.identity i (first.identity i h),
    fun h => second.paid (first.paid h), fun h => second.latePaid (first.latePaid h), fun h => second.ended (first.ended h)⟩

theorem caseKept_refl (c : CommerceReconciliationCase) : CaseKept c c :=
  ⟨rfl, rfl, rfl, rfl, rfl, rfl, rfl, fun _ h => h⟩

theorem caseKept_trans (a b c : CommerceReconciliationCase) (first : CaseKept a b) (second : CaseKept b c) : CaseKept a c :=
  ⟨second.id.trans first.id, second.orderId.trans first.orderId, second.settlementId.trans first.settlementId,
    second.paymentAttemptId.trans first.paymentAttemptId, second.kind.trans first.kind,
    second.reasonCode.trans first.reasonCode, second.sourceKey.trans first.sourceKey,
    fun none opened => second.unsettledOpen (first.settlementId.trans none) (first.unsettledOpen none opened)⟩

theorem reservationKept_refl (r : CommercePromotionReservation) : ReservationKept r r :=
  ⟨rfl, rfl, rfl, rfl, rfl, rfl, rfl, rfl, fun _ => rfl⟩

theorem reservationKept_trans (a b c : CommercePromotionReservation) (first : ReservationKept a b)
    (second : ReservationKept b c) : ReservationKept a c := by
  refine ⟨second.id.trans first.id, second.buyer.trans first.buyer, second.orderId.trans first.orderId,
    second.orderLineId.trans first.orderLineId, second.benefitType.trans first.benefitType,
    second.voucherId.trans first.voucherId, second.scholarshipAwardId.trans first.scholarshipAwardId,
    second.expiresAt.trans first.expiresAt, ?_⟩
  intro ended
  have same := first.ended ended
  rw [same] at second
  exact second.ended ended

theorem bankRequestKept_refl (r : CommerceBankTransferRequest) : BankRequestKept r r :=
  ⟨rfl, fun h => h⟩

theorem bankRequestKept_trans (a b c : CommerceBankTransferRequest) (first : BankRequestKept a b)
    (second : BankRequestKept b c) : BankRequestKept a c := by
  refine ⟨?_, fun h => second.paid (first.paid h)⟩
  rw [← first.same, ← second.same]

theorem subscriptionKept_refl (s : MembershipSubscription) : SubscriptionKept s s :=
  ⟨rfl, fun h => h⟩

theorem subscriptionKept_trans (a b c : MembershipSubscription) (first : SubscriptionKept a b)
    (second : SubscriptionKept b c) : SubscriptionKept a c := by
  refine ⟨?_, fun h => second.cancelled (first.cancelled h)⟩
  rw [← first.same, ← second.same]

theorem grantKept_refl (g : CourseAccessGrant) : GrantKept g g :=
  ⟨rfl, rfl, fun h => h⟩

theorem grantKept_trans (a b c : CourseAccessGrant) (first : GrantKept a b) (second : GrantKept b c) : GrantKept a c :=
  ⟨second.id.trans first.id, second.key.trans first.key, fun h => second.revoked (first.revoked h)⟩

structure Appends (db t : CommerceDb) : Prop where
  versions : db.versions <+: t.versions
  redemptions : db.redemptions <+: t.redemptions
  lines : db.lines <+: t.lines
  intents : db.intents <+: t.intents
  benefits : db.benefits <+: t.benefits
  events : db.events <+: t.events
  settlements : db.settlements <+: t.settlements
  bankEvidence : db.bankEvidence <+: t.bankEvidence
  bankApprovals : db.bankApprovals <+: t.bankApprovals
  effects : db.effects <+: t.effects

structure Kept (db t : CommerceDb) : Prop where
  appends : Appends db t
  orders : Carried OrderKept db.orders t.orders
  reservations : Carried ReservationKept db.reservations t.reservations
  attempts : Carried AttemptKept db.attempts t.attempts
  cases : Carried CaseKept db.cases t.cases
  bankRequests : Carried BankRequestKept db.bankRequests t.bankRequests
  subscriptions : Carried SubscriptionKept db.subscriptions t.subscriptions
  grants : Carried GrantKept db.grants t.grants

theorem appends_refl (db : CommerceDb) : Appends db db := by
  constructor <;> exact List.prefix_refl _

theorem appends_trans (a b c : CommerceDb) (first : Appends a b) (second : Appends b c) : Appends a c :=
  ⟨first.versions.trans second.versions, first.redemptions.trans second.redemptions, first.lines.trans second.lines,
    first.intents.trans second.intents, first.benefits.trans second.benefits, first.events.trans second.events,
    first.settlements.trans second.settlements, first.bankEvidence.trans second.bankEvidence,
    first.bankApprovals.trans second.bankApprovals, first.effects.trans second.effects⟩

theorem kept_refl (db : CommerceDb) : Kept db db :=
  ⟨appends_refl db, carried_refl _ orderKept_refl _, carried_refl _ reservationKept_refl _, carried_refl _ attemptKept_refl _,
    carried_refl _ caseKept_refl _, carried_refl _ bankRequestKept_refl _, carried_refl _ subscriptionKept_refl _,
    carried_refl _ grantKept_refl _⟩

theorem kept_trans (a b c : CommerceDb) (first : Kept a b) (second : Kept b c) : Kept a c where
  appends := appends_trans a b c first.appends second.appends
  orders := carried_trans _ orderKept_trans _ _ _ first.orders second.orders
  reservations := carried_trans _ reservationKept_trans _ _ _ first.reservations second.reservations
  attempts := carried_trans _ attemptKept_trans _ _ _ first.attempts second.attempts
  cases := carried_trans _ caseKept_trans _ _ _ first.cases second.cases
  bankRequests := carried_trans _ bankRequestKept_trans _ _ _ first.bankRequests second.bankRequests
  subscriptions := carried_trans _ subscriptionKept_trans _ _ _ first.subscriptions second.subscriptions
  grants := carried_trans _ grantKept_trans _ _ _ first.grants second.grants

theorem orderTransition_confirmed (new : CommerceOrderStatus) (moves : orderTransition .confirmed new = true) :
    new = .confirmed := by
  cases new <;> simp_all [orderTransition]

theorem orderTransition_closed (old new : CommerceOrderStatus) (moves : orderTransition old new = true)
    (before : closed old = true) (unconfirmed : new ≠ .confirmed) : closed new = true := by
  cases old <;> cases new <;> simp_all [orderTransition, closed]

theorem fulfillmentTransition_fulfilled (new : CommerceFulfillmentStatus)
    (moves : fulfillmentTransition .fulfilled new = true) : new = .fulfilled := by
  cases new <;> simp_all [fulfillmentTransition]

theorem orderPatch_snapshot (patch : OrderPatch) (o : CommerceOrder) :
    (patch.apply o).buyerId = o.buyerId ∧ (patch.apply o).payableAmountMinor = o.payableAmountMinor ∧
      (patch.apply o).currency = o.currency := by
  cases patch <;> exact ⟨rfl, rfl, rfl⟩

theorem moved_orderKept (db : CommerceDb) (id : Uuid) (patch : OrderPatch) (old : CommerceOrder)
    (moves : OrderMoves db id patch old)
    (closes : closed old.status = true → (patch.apply old).status ≠ .confirmed) : OrderKept old (patch.apply old) := by
  obtain ⟨buyer, payable, currency⟩ := orderPatch_snapshot patch old
  refine ⟨orderPatch_id patch old, buyer, payable, currency, ?_, ?_, ?_, ?_, ?_⟩
  · intro settlementId named
    rcases moves.settlementKept with none | same
    · rw [none] at named
      cases named
    · rw [same, named]
  · intro stamped named
    rcases moves.timestampKept with none | same
    · rw [none] at named
      cases named
    · rw [same, named]
  · intro confirmed
    have status := moves.status
    rw [confirmed] at status
    exact orderTransition_confirmed _ status
  · intro before
    exact orderTransition_closed _ _ moves.status before (closes before)
  · intro fulfilled
    have status := moves.fulfillment
    rw [fulfilled] at status
    exact fulfillmentTransition_fulfilled _ status

theorem fulfill_closes (status : CommerceFulfillmentStatus) (o : CommerceOrder) (wasClosed : closed o.status = true) :
    ((OrderPatch.fulfill status).apply o).status ≠ .confirmed := by
  intro confirmed
  have kept : o.status = .confirmed := confirmed
  rw [kept] at wasClosed
  cases wasClosed

theorem routine_closes (patch : OrderPatch) (o : CommerceOrder) (routine : patch.routine = true)
    (wasClosed : closed o.status = true) : (patch.apply o).status ≠ .confirmed := by
  cases patch with
  | confirm settlementId now => cases routine
  | close expired =>
    intro confirmed
    cases expired <;> cases confirmed
  | lateReview => exact fun confirmed => by cases confirmed
  | lateRefunded => exact fun confirmed => by cases confirmed
  | fulfill status => exact fulfill_closes status o wasClosed

theorem attemptTransition_final (old new : CommercePaymentStatus) (moves : attemptTransition old new = true) :
    (old = .paid → new = .paid) ∧ (old = .latePaid → new = .latePaid) := by
  cases old <;> cases new <;> simp_all [attemptTransition]

theorem moved_attemptKept (db : CommerceDb) (id : Uuid) (patch : AttemptPatch) (old : CommercePaymentAttempt)
    (moves : AttemptMoves db id patch old) : AttemptKept old (patch.apply old) := by
  obtain ⟨paid, latePaid⟩ := attemptTransition_final _ _ moves.status
  have snapshot : (patch.apply old).amountMinor = old.amountMinor ∧ (patch.apply old).currency = old.currency ∧
      (patch.apply old).createdAt = old.createdAt := by
    cases patch <;> exact ⟨rfl, rfl, rfl⟩
  obtain ⟨orderId, provider, code⟩ := attemptPatch_same patch old
  refine ⟨attemptPatch_id patch old, orderId, provider, code, snapshot.1, snapshot.2.1, snapshot.2.2, ?_, paid, latePaid, ?_⟩
  · intro identity named
    rcases moves.identityKept with none | same
    · rw [none] at named
      cases named
    · rw [same, named]
  · intro ended
    by_contra reopened
    have opened : isOpenAttempt (patch.apply old) = true := by simpa using reopened
    have before := attempt_opens old.status (patch.apply old).status moves.status (by simpa [isOpenAttempt] using opened)
    simp [isOpenAttempt] at ended
    rcases before with created | pending
    · exact ended.1 created
    · exact ended.2 pending

section Kept

variable (db t : CommerceDb) (keys : Keys db)

include keys

theorem moved_orders (id : Uuid) (patch : OrderPatch) (old : CommerceOrder) (moves : OrderMoves db id patch old)
    (closes : closed old.status = true → (patch.apply old).status ≠ .confirmed) :
    Carried OrderKept db.orders (updateWhere (fun o => o.id = id) patch.apply db.orders) := by
  obtain ⟨member, named⟩ := orderById_some db id old moves.found
  refine carried_updateWhere _ orderKept_refl _ _ _ ?_
  intro o ho selected
  have same : o = old := order_same db keys o old ho member (by rw [named]; exact of_decide_eq_true selected)
  rw [same]
  exact moved_orderKept db id patch old moves closes

theorem write_orders (w : Write db t) : Carried OrderKept db.orders t.orders := by
  cases w with
  | routine _ w =>
    cases w with
    | order o fits => exact carried_append _ orderKept_refl _ _
    | moveOrder id patch old moves routine =>
      exact moved_orders db keys id patch old moves (routine_closes patch old routine)
    | _ => exact carried_refl _ orderKept_refl _
  | confirm id settlementId now old moves awaiting =>
    refine moved_orders db keys id _ old moves ?_
    intro wasClosed
    rw [awaiting] at wasClosed
    cases wasClosed
  | fulfilled id old moves complete =>
    exact moved_orders db keys id _ old moves (fulfill_closes .fulfilled old)
  | _ => exact carried_refl _ orderKept_refl _

theorem moved_reservations (id : Uuid) (patch : ReservationPatch) (old : CommercePromotionReservation)
    (moves : ReservationMoves db id patch old) :
    Carried ReservationKept db.reservations (updateWhere (fun r => r.id = id) patch.apply db.reservations) := by
  obtain ⟨member, named⟩ := reservation_found db id old moves.found
  refine carried_updateWhere _ reservationKept_refl _ _ _ ?_
  intro r hr selected
  have same : r = old := reservation_same db keys r old hr member (by rw [named]; exact of_decide_eq_true selected)
  rw [same]
  cases patch <;> exact ⟨rfl, rfl, rfl, rfl, rfl, rfl, rfl, rfl, fun ended => absurd moves.reserved ended⟩

theorem write_reservations (w : Write db t) : Carried ReservationKept db.reservations t.reservations := by
  cases w with
  | routine _ w =>
    cases w with
    | returnReservation id patch old moves returns allowed => exact moved_reservations db keys id patch old moves
    | _ => exact carried_refl _ reservationKept_refl _
  | reserve r o l fits => exact carried_append _ reservationKept_refl _ _
  | consume id operationId old moves => exact moved_reservations db keys id _ old moves
  | _ => exact carried_refl _ reservationKept_refl _

theorem write_attempts (w : Write db t) : Carried AttemptKept db.attempts t.attempts := by
  cases w with
  | routine _ w =>
    cases w with
    | attempt a o fits awaiting => exact carried_append _ attemptKept_refl _ _
    | moveAttempt id patch old moves =>
      obtain ⟨member, named⟩ := attemptById_some db id old moves.found
      refine carried_updateWhere _ attemptKept_refl _ _ _ ?_
      intro a ha selected
      have same : a = old := attempt_same db keys a old ha member (by rw [named]; exact of_decide_eq_true selected)
      rw [same]
      exact moved_attemptKept db id patch old moves
    | _ => exact carried_refl _ attemptKept_refl _
  | _ => exact carried_refl _ attemptKept_refl _

theorem write_cases (w : Write db t) : Carried CaseKept db.cases t.cases := by
  cases w with
  | routine _ w =>
    cases w with
    | openCase c fits keyed => exact carried_append _ caseKept_refl _ _
    | recheckCase id now old moves =>
      exact carried_updateWhere _ caseKept_refl _ _ _ (fun c _ _ => ⟨rfl, rfl, rfl, rfl, rfl, rfl, rfl, fun _ h => h⟩)
    | resolveCase id resolution actorId now old moves settled =>
      obtain ⟨member, named⟩ := caseById_some db id old moves.found
      refine carried_updateWhere _ caseKept_refl _ _ _ ?_
      intro c hc selected
      have same : c = old := case_same db keys c old hc member (by rw [named]; exact of_decide_eq_true selected)
      rw [same]
      exact ⟨rfl, rfl, rfl, rfl, rfl, rfl, rfl, fun none => absurd none settled⟩
    | _ => exact carried_refl _ caseKept_refl _
  | _ => exact carried_refl _ caseKept_refl _

theorem write_bankRequests (w : Write db t) : Carried BankRequestKept db.bankRequests t.bankRequests := by
  cases w with
  | routine _ w =>
    cases w with
    | bankRequest r fits => exact carried_append _ bankRequestKept_refl _ _
    | moveBankRequest id status old moves =>
      obtain ⟨member, named⟩ := find_some _ db.bankRequests old moves.found
      refine carried_updateWhere _ bankRequestKept_refl _ _ _ ?_
      intro r hr selected
      have same : r = old := unique_eq _ db.bankRequests keys.bank.ids r old old.id hr member
        (by rw [of_decide_eq_true selected, of_decide_eq_true named]) rfl
      rw [same]
      refine ⟨rfl, ?_⟩
      intro paid
      rcases moves.transition with same | ⟨opened, _⟩
      · rw [← paid, same]
      · simp [bankWindowOpen, paid] at opened
    | _ => exact carried_refl _ bankRequestKept_refl _
  | _ => exact carried_refl _ bankRequestKept_refl _

omit keys in
theorem write_subscriptions (w : Write db t) : Carried SubscriptionKept db.subscriptions t.subscriptions := by
  cases w with
  | routine _ w =>
    cases w with
    | subscription s fits => exact carried_append _ subscriptionKept_refl _ _
    | cancelSubscriptions p =>
      exact carried_updateWhere _ subscriptionKept_refl _ _ _ (fun s _ _ => ⟨rfl, fun _ => rfl⟩)
    | _ => exact carried_refl _ subscriptionKept_refl _
  | _ => exact carried_refl _ subscriptionKept_refl _

omit keys in
theorem write_grants (w : Write db t) : Carried GrantKept db.grants t.grants := by
  cases w with
  | routine _ w =>
    cases w with
    | grant g fits => exact carried_append _ grantKept_refl _ _
    | revokeGrant id reason old moves =>
      exact carried_updateWhere _ grantKept_refl _ _ _ (fun g _ _ => ⟨rfl, rfl, fun _ => rfl⟩)
    | _ => exact carried_refl _ grantKept_refl _
  | _ => exact carried_refl _ grantKept_refl _

omit keys in
theorem write_appends (w : Write db t) : Appends db t := by
  cases w with
  | routine _ w => cases w <;> constructor <;> first | exact List.prefix_refl _ | exact List.prefix_append _ _
  | _ => constructor <;> first | exact List.prefix_refl _ | exact List.prefix_append _ _

theorem write_kept (w : Write db t) : Kept db t :=
  ⟨write_appends db t w, write_orders db t keys w, write_reservations db t keys w, write_attempts db t keys w,
    write_cases db t keys w, write_bankRequests db t keys w, write_subscriptions db t w, write_grants db t w⟩

theorem writes_keys (writes : Writes Write db t) : Keys t :=
  writes_invariant Keys (fun s u w => write_keys s u w) db t writes keys

theorem writes_kept (writes : Writes Write db t) : Kept db t :=
  writes_relation Kept kept_refl kept_trans Keys (fun s u w => write_keys s u w)
    (fun s u w held => write_kept s u held w) db t writes keys

end Kept

end EduAi.Commerce
