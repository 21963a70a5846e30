import EduAi.Commerce.Admission

set_option autoImplicit false

namespace EduAi.Commerce

open EduAi.Store EduAi.Gds EduAi.Payments

@[simp] theorem orderPatch_id (patch : OrderPatch) (o : CommerceOrder) : (patch.apply o).id = o.id := by
  cases patch <;> rfl

@[simp] theorem attemptPatch_id (patch : AttemptPatch) (a : CommercePaymentAttempt) : (patch.apply a).id = a.id := by
  cases patch <;> rfl

@[simp] theorem reservationPatch_id (patch : ReservationPatch) (r : CommercePromotionReservation) :
    (patch.apply r).id = r.id := by
  cases patch <;> rfl

theorem attempt_opens (old new : CommercePaymentStatus) (moves : attemptTransition old new = true)
    (opened : new = .created ∨ new = .pending) : old = .created ∨ old = .pending := by
  cases old <;> cases new <;> simp_all [attemptTransition]

theorem attemptPatch_same (patch : AttemptPatch) (a : CommercePaymentAttempt) :
    (patch.apply a).orderId = a.orderId ∧ (patch.apply a).provider = a.provider ∧
      (patch.apply a).providerOrderCode = a.providerOrderCode := by
  cases patch <;> exact ⟨rfl, rfl, rfl⟩

structure AttemptKeys (attempts : List CommercePaymentAttempt) : Prop where
  ids : UniqueKey (fun a => some a.id) attempts
  orderCodes : UniqueKey orderCodeKey attempts
  identities : UniqueKey paymentIdentityKey attempts
  opens : UniqueKey openOrderKey attempts

structure EventKeys (events : List CommercePaymentEvent) : Prop where
  ids : UniqueKey (fun e => some e.id) events
  identities : UniqueKey (fun e => some (e.provider, e.providerEventIdentity)) events

structure SettlementKeys (settlements : List CommerceSettlement) : Prop where
  ids : UniqueKey (fun s => some s.id) settlements
  events : UniqueKey (fun s => s.paymentEventId) settlements
  references : UniqueKey settlementReferenceKey settlements
  internals : UniqueKey internalOrderKey settlements
  matched : UniqueKey matchedOrderKey settlements

structure CaseKeys (cases : List CommerceReconciliationCase) : Prop where
  ids : UniqueKey (fun c => some c.id) cases
  settlements : UniqueKey (fun c => c.settlementId) cases
  sources : UniqueKey (fun c => some c.sourceKey) cases

structure ReservationKeys (reservations : List CommercePromotionReservation) : Prop where
  ids : UniqueKey (fun r => some r.id) reservations
  vouchers : UniqueKey voucherOfOrder reservations

structure BankKeys (requests : List CommerceBankTransferRequest) (evidence : List CommerceBankStatementEvidence)
    (approvals : List CommerceBankApproval) : Prop where
  ids : UniqueKey (fun r => some r.id) requests
  orders : UniqueKey (fun r => some r.orderId) requests
  attempts : UniqueKey (fun r => some r.paymentAttemptId) requests
  evidenceIds : UniqueKey (fun e => some e.id) evidence
  transactions : UniqueKey (fun e => some (e.bankBin, e.accountNumber, e.transactionId)) evidence
  approvals : UniqueKey some approvals

structure AccessKeys (effects : List CommerceFulfillmentEffect) (subscriptions : List MembershipSubscription)
    (grants : List CourseAccessGrant) : Prop where
  effects : UniqueKey (fun e => some (effectKey e)) effects
  subscriptionIds : UniqueKey (fun s => some s.id) subscriptions
  subscriptionLines : UniqueKey (fun s => s.sourceOrderLineId) subscriptions
  grantIds : UniqueKey (fun g => some g.id) grants
  grantKeys : UniqueKey (fun g => some (grantKey g)) grants

structure Keys (db : CommerceDb) : Prop where
  vouchers : UniqueKey (fun v => some v.id) db.vouchers
  versions : UniqueKey (fun v => some v.id) db.versions
  redemptions : UniqueKey (fun r => some (r.voucherId, r.userId, r.redemptionKey)) db.redemptions
  orders : UniqueKey (fun o => some o.id) db.orders
  lines : UniqueKey (fun l => some l.id) db.lines
  intents : UniqueKey (fun i => some i.orderId) db.intents
  benefits : UniqueKey (fun b => some b.reservationId) db.benefits
  reservations : ReservationKeys db.reservations
  attempts : AttemptKeys db.attempts
  events : EventKeys db.events
  settlements : SettlementKeys db.settlements
  cases : CaseKeys db.cases
  bank : BankKeys db.bankRequests db.bankEvidence db.bankApprovals
  access : AccessKeys db.effects db.subscriptions db.grants
  refunds : UniqueKey (fun r => some r.id) db.refunds

theorem emptyCommerceDb_keys (createdAt : Instant) : Keys (emptyCommerceDb createdAt) :=
  ⟨unique_nil _, unique_nil _, unique_nil _, unique_nil _, unique_nil _, unique_nil _, unique_nil _,
    ⟨unique_nil _, unique_nil _⟩, ⟨unique_nil _, unique_nil _, unique_nil _, unique_nil _⟩, ⟨unique_nil _, unique_nil _⟩,
    ⟨unique_nil _, unique_nil _, unique_nil _, unique_nil _, unique_nil _⟩, ⟨unique_nil _, unique_nil _, unique_nil _⟩,
    ⟨unique_nil _, unique_nil _, unique_nil _, unique_nil _, unique_nil _, unique_nil _⟩,
    ⟨unique_nil _, unique_nil _, unique_nil _, unique_nil _, unique_nil _⟩, unique_nil _⟩

section Found

variable (db : CommerceDb) (keys : Keys db)

theorem orderById_some (id : Uuid) (o : CommerceOrder) (found : orderById db id = some o) : o ∈ db.orders ∧ o.id = id := by
  obtain ⟨member, same⟩ := find_some _ db.orders o found
  exact ⟨member, of_decide_eq_true same⟩

theorem attemptById_some (id : Uuid) (a : CommercePaymentAttempt) (found : attemptById db id = some a) :
    a ∈ db.attempts ∧ a.id = id := by
  obtain ⟨member, same⟩ := find_some _ db.attempts a found
  exact ⟨member, of_decide_eq_true same⟩

theorem settlementById_some (id : Uuid) (s : CommerceSettlement) (found : settlementById db id = some s) :
    s ∈ db.settlements ∧ s.id = id := by
  obtain ⟨member, same⟩ := find_some _ db.settlements s found
  exact ⟨member, of_decide_eq_true same⟩

theorem eventById_some (id : Uuid) (e : CommercePaymentEvent) (found : eventById db id = some e) :
    e ∈ db.events ∧ e.id = id := by
  obtain ⟨member, same⟩ := find_some _ db.events e found
  exact ⟨member, of_decide_eq_true same⟩

theorem caseById_some (id : Uuid) (c : CommerceReconciliationCase) (found : caseById db id = some c) :
    c ∈ db.cases ∧ c.id = id := by
  obtain ⟨member, same⟩ := find_some _ db.cases c found
  exact ⟨member, of_decide_eq_true same⟩

theorem reservation_found (id : Uuid) (r : CommercePromotionReservation)
    (found : db.reservations.find? (fun r => r.id = id) = some r) : r ∈ db.reservations ∧ r.id = id := by
  obtain ⟨member, same⟩ := find_some _ db.reservations r found
  exact ⟨member, of_decide_eq_true same⟩

theorem voucherById_some (id : Uuid) (v : Voucher) (found : voucherById db id = some v) : v ∈ db.vouchers ∧ v.id = id := by
  obtain ⟨member, same⟩ := find_some _ db.vouchers v found
  exact ⟨member, of_decide_eq_true same⟩

include keys

theorem order_same (o o' : CommerceOrder) (ho : o ∈ db.orders) (ho' : o' ∈ db.orders) (same : o.id = o'.id) : o = o' :=
  unique_eq _ db.orders keys.orders o o' o'.id ho ho' (by rw [same]) rfl

theorem attempt_same (a a' : CommercePaymentAttempt) (ha : a ∈ db.attempts) (ha' : a' ∈ db.attempts) (same : a.id = a'.id) :
    a = a' :=
  unique_eq _ db.attempts keys.attempts.ids a a' a'.id ha ha' (by rw [same]) rfl

theorem settlement_same (s s' : CommerceSettlement) (hs : s ∈ db.settlements) (hs' : s' ∈ db.settlements)
    (same : s.id = s'.id) : s = s' :=
  unique_eq _ db.settlements keys.settlements.ids s s' s'.id hs hs' (by rw [same]) rfl

theorem event_same (e e' : CommercePaymentEvent) (he : e ∈ db.events) (he' : e' ∈ db.events) (same : e.id = e'.id) : e = e' :=
  unique_eq _ db.events keys.events.ids e e' e'.id he he' (by rw [same]) rfl

theorem case_same (c c' : CommerceReconciliationCase) (hc : c ∈ db.cases) (hc' : c' ∈ db.cases) (same : c.id = c'.id) :
    c = c' :=
  unique_eq _ db.cases keys.cases.ids c c' c'.id hc hc' (by rw [same]) rfl

theorem reservation_same (r r' : CommercePromotionReservation) (hr : r ∈ db.reservations) (hr' : r' ∈ db.reservations)
    (same : r.id = r'.id) : r = r' :=
  unique_eq _ db.reservations keys.reservations.ids r r' r'.id hr hr' (by rw [same]) rfl

theorem orderById_of_mem (o : CommerceOrder) (ho : o ∈ db.orders) : orderById db o.id = some o :=
  find_unique _ _ db.orders keys.orders o o.id ho (by simp) rfl (fun x _ hx => by simpa using hx)

theorem attemptById_of_mem (a : CommercePaymentAttempt) (ha : a ∈ db.attempts) : attemptById db a.id = some a :=
  find_unique _ _ db.attempts keys.attempts.ids a a.id ha (by simp) rfl (fun x _ hx => by simpa using hx)

theorem settlementById_of_mem (s : CommerceSettlement) (hs : s ∈ db.settlements) : settlementById db s.id = some s :=
  find_unique _ _ db.settlements keys.settlements.ids s s.id hs (by simp) rfl (fun x _ hx => by simpa using hx)

theorem eventById_of_mem (e : CommercePaymentEvent) (he : e ∈ db.events) : eventById db e.id = some e :=
  find_unique _ _ db.events keys.events.ids e e.id he (by simp) rfl (fun x _ hx => by simpa using hx)

theorem moved_reservationKeys (id : Uuid) (patch : ReservationPatch) (old : CommercePromotionReservation)
    (moves : ReservationMoves db id patch old) :
    ReservationKeys (updateWhere (fun r => r.id = id) patch.apply db.reservations) := by
  obtain ⟨member, named⟩ := reservation_found db id old moves.found
  refine ⟨unique_updateWhere _ _ _ _ keys.reservations.ids (fun r _ _ => by rw [reservationPatch_id]), ?_⟩
  refine unique_updateWhere_cleared _ _ _ _ keys.reservations.vouchers ?_
  intro r hr selected
  have same : r = old :=
    reservation_same db keys r old hr member (by rw [named]; exact of_decide_eq_true selected)
  subst same
  cases patch with
  | consume operationId =>
    left
    simp [voucherOfOrder, holdsBenefit, ReservationPatch.apply, moves.reserved]
  | release operationId => right; simp [voucherOfOrder, holdsBenefit, ReservationPatch.apply]
  | expire operationId => right; simp [voucherOfOrder, holdsBenefit, ReservationPatch.apply]

theorem moved_attemptKeys (id : Uuid) (patch : AttemptPatch) (old : CommercePaymentAttempt)
    (moves : AttemptMoves db id patch old) : AttemptKeys (updateWhere (fun a => a.id = id) patch.apply db.attempts) := by
  obtain ⟨member, named⟩ := attemptById_some db id old moves.found
  have only : ∀ a ∈ db.attempts, decide (a.id = id) = true → a = old := fun a ha selected =>
    attempt_same db keys a old ha member (by rw [named]; exact of_decide_eq_true selected)
  refine ⟨?_, ?_, ?_, ?_⟩
  · exact unique_updateWhere _ _ _ _ keys.attempts.ids (fun a _ _ => by rw [attemptPatch_id])
  · refine unique_updateWhere _ _ _ _ keys.attempts.orderCodes ?_
    intro a _ _
    obtain ⟨_, provider, code⟩ := attemptPatch_same patch a
    unfold orderCodeKey
    rw [provider, code]
  · refine unique_updateWhere_fresh (fun a => some a.id) _ _ _ _ keys.attempts.ids keys.attempts.identities old id member
      (by simp) (by rw [named]) ?_
    have fresh := moves.freshIdentity
    simpa using fresh
  · refine unique_updateWhere_cleared _ _ _ _ keys.attempts.opens ?_
    intro a ha selected
    rw [only a ha selected]
    by_cases opened : isOpenAttempt (patch.apply old) = true
    · left
      have before : isOpenAttempt old = true := by
        have := attempt_opens old.status (patch.apply old).status moves.status (by simpa [isOpenAttempt] using opened)
        simpa [isOpenAttempt] using this
      unfold openOrderKey
      rw [if_pos opened, if_pos before, (attemptPatch_same patch old).1]
    · right
      unfold openOrderKey
      rw [if_neg opened]

theorem added_settlementKeys (now : Instant) (s : CommerceSettlement) (o : CommerceOrder) (fits : SettlementFits now db s o) :
    SettlementKeys (db.settlements ++ [s]) :=
  ⟨unique_append _ s _ keys.settlements.ids fits.freshId, unique_append _ s _ keys.settlements.events fits.freshEvent,
    unique_append _ s _ keys.settlements.references fits.freshReference,
    unique_append _ s _ keys.settlements.internals fits.freshInternal,
    unique_append _ s _ keys.settlements.matched fits.freshMatched⟩

end Found

section Preserved

variable (db t : CommerceDb) (w : Write db t) (keys : Keys db)

include w keys

theorem write_voucherKeys : UniqueKey (fun v => some v.id) t.vouchers := by
  cases w with
  | routine _ w =>
    cases w with
    | voucher v fresh unused => exact unique_append _ v db.vouchers keys.vouchers fresh
    | editVoucher old new found edits allowed =>
      refine unique_updateWhere _ _ _ db.vouchers keys.vouchers ?_
      intro v _ selected
      rw [edits.id, of_decide_eq_true selected]
    | _ => exact keys.vouchers
  | countRedeemed id v found => exact unique_updateWhere _ _ _ db.vouchers keys.vouchers (fun _ _ _ => rfl)
  | _ => exact keys.vouchers

theorem write_versionKeys : UniqueKey (fun v => some v.id) t.versions := by
  cases w with
  | routine _ w =>
    cases w with
    | version v fresh => exact unique_append _ v db.versions keys.versions fresh
    | _ => exact keys.versions
  | _ => exact keys.versions

theorem write_redemptionKeys : UniqueKey (fun r => some (r.voucherId, r.userId, r.redemptionKey)) t.redemptions := by
  cases w with
  | routine _ w => cases w <;> exact keys.redemptions
  | redeem r v fits => exact unique_append _ r db.redemptions keys.redemptions fits.freshKey
  | _ => exact keys.redemptions

theorem write_orderKeys : UniqueKey (fun o => some o.id) t.orders := by
  cases w with
  | routine _ w =>
    cases w with
    | order o fits => exact unique_append _ o db.orders keys.orders fits.freshId
    | moveOrder id patch old moves routine =>
      exact unique_updateWhere _ _ _ db.orders keys.orders (fun o _ _ => by rw [orderPatch_id])
    | _ => exact keys.orders
  | confirm id settlementId now old moves awaiting =>
    exact unique_updateWhere _ _ _ db.orders keys.orders (fun o _ _ => by rw [orderPatch_id])
  | fulfilled id old moves complete =>
    exact unique_updateWhere _ _ _ db.orders keys.orders (fun o _ _ => by rw [orderPatch_id])
  | _ => exact keys.orders

theorem write_lineKeys : UniqueKey (fun l => some l.id) t.lines := by
  cases w with
  | routine _ w =>
    cases w with
    | line l o fits awaiting => exact unique_append _ l db.lines keys.lines fits.freshId
    | _ => exact keys.lines
  | _ => exact keys.lines

theorem write_intentKeys : UniqueKey (fun i => some i.orderId) t.intents := by
  cases w with
  | routine _ w =>
    cases w with
    | intent i o fits awaiting => exact unique_append _ i db.intents keys.intents fits.freshOrder
    | _ => exact keys.intents
  | _ => exact keys.intents

theorem write_benefitKeys : UniqueKey (fun b => some b.reservationId) t.benefits := by
  cases w with
  | routine _ w =>
    cases w with
    | benefit b r fits => exact unique_append _ b db.benefits keys.benefits fits.freshReservation
    | _ => exact keys.benefits
  | _ => exact keys.benefits

theorem write_reservationKeys : ReservationKeys t.reservations := by
  cases w with
  | routine _ w =>
    cases w with
    | returnReservation id patch old moves returns allowed => exact moved_reservationKeys db keys id patch old moves
    | _ => exact keys.reservations
  | reserve r o l fits =>
    exact ⟨unique_append _ r _ keys.reservations.ids fits.freshId, unique_append _ r _ keys.reservations.vouchers fits.freshVoucher⟩
  | consume id operationId old moves => exact moved_reservationKeys db keys id _ old moves
  | _ => exact keys.reservations

theorem write_attemptKeys : AttemptKeys t.attempts := by
  cases w with
  | routine _ w =>
    cases w with
    | attempt a o fits awaiting =>
      exact ⟨unique_append _ a _ keys.attempts.ids fits.freshId, unique_append _ a _ keys.attempts.orderCodes fits.freshOrderCode,
        unique_append _ a _ keys.attempts.identities fits.freshIdentity, unique_append _ a _ keys.attempts.opens fits.freshOpen⟩
    | moveAttempt id patch old moves => exact moved_attemptKeys db keys id patch old moves
    | _ => exact keys.attempts
  | _ => exact keys.attempts

theorem write_eventKeys : EventKeys t.events := by
  cases w with
  | routine _ w =>
    cases w with
    | event e a fits identified =>
      exact ⟨unique_append _ e _ keys.events.ids fits.freshId, unique_append _ e _ keys.events.identities fits.freshIdentity⟩
    | _ => exact keys.events
  | _ => exact keys.events

theorem write_settlementKeys : SettlementKeys t.settlements := by
  cases w with
  | routine _ w =>
    cases w with
    | surplus now s o fits disposition collected => exact added_settlementKeys db keys now s o fits
    | _ => exact keys.settlements
  | settle now s o fits collected => exact added_settlementKeys db keys now s o fits
  | _ => exact keys.settlements

theorem write_caseKeys : CaseKeys t.cases := by
  have rekeyed : ∀ id (patch : CasePatch), CaseKeys (updateWhere (fun c => c.id = id) patch.apply db.cases) := by
    intro id patch
    have kept := keys.cases
    cases patch with
    | recheck now =>
      exact ⟨unique_updateWhere _ _ _ _ kept.ids (fun _ _ _ => rfl), unique_updateWhere _ _ _ _ kept.settlements (fun _ _ _ => rfl),
        unique_updateWhere _ _ _ _ kept.sources (fun _ _ _ => rfl)⟩
    | resolve resolution actorId now =>
      exact ⟨unique_updateWhere _ _ _ _ kept.ids (fun _ _ _ => rfl), unique_updateWhere _ _ _ _ kept.settlements (fun _ _ _ => rfl),
        unique_updateWhere _ _ _ _ kept.sources (fun _ _ _ => rfl)⟩
  cases w with
  | routine _ w =>
    cases w with
    | openCase c fits keyed =>
      exact ⟨unique_append _ c _ keys.cases.ids fits.freshId, unique_append _ c _ keys.cases.settlements fits.freshSettlement,
        unique_append _ c _ keys.cases.sources fits.freshKey⟩
    | recheckCase id now old moves => exact rekeyed id _
    | resolveCase id resolution actorId now old moves settled => exact rekeyed id _
    | _ => exact keys.cases
  | _ => exact keys.cases

theorem write_bankKeys : BankKeys t.bankRequests t.bankEvidence t.bankApprovals := by
  have kept := keys.bank
  cases w with
  | routine _ w =>
    cases w with
    | bankRequest r fits allowed =>
      exact { kept with
        ids := unique_append _ r _ kept.ids fits.freshId
        orders := unique_append _ r _ kept.orders fits.freshOrder
        attempts := unique_append _ r _ kept.attempts fits.freshAttempt }
    | moveBankRequest id status old moves allowed =>
      exact { kept with
        ids := unique_updateWhere _ _ _ _ kept.ids (fun _ _ _ => rfl)
        orders := unique_updateWhere _ _ _ _ kept.orders (fun _ _ _ => rfl)
        attempts := unique_updateWhere _ _ _ _ kept.attempts (fun _ _ _ => rfl) }
    | evidence e r fits allowed =>
      exact { kept with
        evidenceIds := unique_append _ e _ kept.evidenceIds fits.freshId
        transactions := unique_append _ e _ kept.transactions fits.freshTransaction }
    | approval p e fits allowed => exact { kept with approvals := unique_append _ p _ kept.approvals fits.fresh }
    | _ => exact kept
  | _ => exact kept

theorem write_accessKeys : AccessKeys t.effects t.subscriptions t.grants := by
  obtain ⟨effects, subscriptionIds, subscriptionLines, grantIds, grantKeys⟩ := keys.access
  cases w with
  | routine _ w =>
    cases w with
    | subscription s fits =>
      exact ⟨effects, unique_append _ s _ subscriptionIds fits.freshId, unique_append _ s _ subscriptionLines fits.freshLine,
        grantIds, grantKeys⟩
    | cancelSubscriptions p =>
      exact ⟨effects, unique_updateWhere _ _ _ _ subscriptionIds (fun _ _ _ => rfl),
        unique_updateWhere _ _ _ _ subscriptionLines (fun _ _ _ => rfl), grantIds, grantKeys⟩
    | grant g fits =>
      exact ⟨effects, subscriptionIds, subscriptionLines, unique_append _ g _ grantIds fits.freshId,
        unique_append _ g _ grantKeys fits.freshKey⟩
    | revokeGrant id reason old moves =>
      exact ⟨effects, subscriptionIds, subscriptionLines, unique_updateWhere _ _ _ _ grantIds (fun _ _ _ => rfl),
        unique_updateWhere _ _ _ _ grantKeys (fun _ _ _ => rfl)⟩
    | _ => exact ⟨effects, subscriptionIds, subscriptionLines, grantIds, grantKeys⟩
  | effect e l fits expected =>
    exact ⟨unique_append _ e _ effects fits.freshKey, subscriptionIds, subscriptionLines, grantIds, grantKeys⟩
  | _ => exact ⟨effects, subscriptionIds, subscriptionLines, grantIds, grantKeys⟩

theorem write_refundKeys : UniqueKey (fun r => some r.id) t.refunds := by
  cases w with
  | routine _ w =>
    cases w with
    | refund r s fits totals linked => exact unique_append _ r _ keys.refunds fits.freshId
    | moveRefund id patch old moves =>
      cases patch with
      | record reference now => exact unique_updateWhere _ _ _ _ keys.refunds (fun _ _ _ => rfl)
      | reject reason now => exact unique_updateWhere _ _ _ _ keys.refunds (fun _ _ _ => rfl)
    | _ => exact keys.refunds
  | _ => exact keys.refunds

theorem write_keys : Keys t :=
  ⟨write_voucherKeys db t w keys, write_versionKeys db t w keys, write_redemptionKeys db t w keys, write_orderKeys db t w keys,
    write_lineKeys db t w keys, write_intentKeys db t w keys, write_benefitKeys db t w keys, write_reservationKeys db t w keys,
    write_attemptKeys db t w keys, write_eventKeys db t w keys, write_settlementKeys db t w keys, write_caseKeys db t w keys,
    write_bankKeys db t w keys, write_accessKeys db t w keys, write_refundKeys db t w keys⟩

end Preserved

end EduAi.Commerce
