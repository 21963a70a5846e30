import EduAi.Payments.HeldPromotions

set_option autoImplicit false

namespace EduAi.Payments

open EduAi.Store EduAi.Gds EduAi.Commerce

def reservationsOf (db : CommerceDb) (orderId : Uuid) : List CommercePromotionReservation :=
  db.reservations.filter (fun r => r.orderId = orderId)

def redeemedCountOf (db : CommerceDb) (voucherId : Uuid) : Int :=
  ((voucherById db voucherId).map (fun v => v.redeemedCount)).getD 0

def redeemedFor (r : CommercePromotionReservation) (x : VoucherRedemption) : Bool :=
  r.voucherId = some x.voucherId ∧ x.userId = r.buyerId ∧ r.statusOperationId = some x.redemptionKey

-- What a confirmation owes the promotions of its order.
structure PromotionsSettled (before after : CommerceDb) (orderId : Uuid) : Prop where
  consumed : ∀ r ∈ reservationsOf after orderId, r.status = .consumed
  redeemed : ∀ r ∈ reservationsOf after orderId, r.voucherId.isSome → before.redemptions.countP (redeemedFor r) = 0 ∧
    after.redemptions.countP (redeemedFor r) = 1
  counted : ∀ voucherId, redeemedCountOf after voucherId =
    redeemedCountOf before voucherId + usesOf voucherId (reservationsOf after orderId)

def BenefitCheckPasses (after : CommerceDb) (orderId : Uuid) : Prop :=
  ∀ o ∈ after.orders, o.id = orderId → benefitsConsumed after o = true

-- Every later decision on a voucher comes out alike in both stores.
def SameEligibility (t u : CommerceDb) : Prop :=
  t.vouchers = u.vouchers ∧ ∀ now v userId code courseId categorySlug amountMinor currency,
    evaluate t now v userId code courseId categorySlug amountMinor currency =
      evaluate u now v userId code courseId categorySlug amountMinor currency

def redemptionKeyOf (x : VoucherRedemption) : Uuid × Uuid × String :=
  (x.voucherId, x.userId, x.redemptionKey)

def owedKey (operationId : Uuid → Uuid) (r : CommercePromotionReservation) : Option (Uuid × Uuid × String) :=
  r.voucherId.map (fun voucherId => (voucherId, r.buyerId, operationId r.id))

def consumedRows (operationId : Uuid → Uuid) (rows all : List CommercePromotionReservation) : List CommercePromotionReservation :=
  updateWhere (fun r => rows.any (fun x => x.id = r.id)) (fun r => (ReservationPatch.consume (operationId r.id)).apply r) all

def countedVouchers (rows : List CommercePromotionReservation) (vouchers : List Voucher) : List Voucher :=
  vouchers.map (fun v => { v with redeemedCount := v.redeemedCount + usesOf v.id rows })

-- The reservations are consumed, and each voucher among them is redeemed and counted once.
structure Consumes (operationId : Uuid → Uuid) (rows : List CommercePromotionReservation) (s t : CommerceDb) : Prop where
  reservations : t.reservations = consumedRows operationId rows s.reservations
  redemptions : ∃ more, t.redemptions = s.redemptions ++ more ∧ more.map redemptionKeyOf = rows.filterMap (owedKey operationId)
  vouchers : t.vouchers = countedVouchers rows s.vouchers

section Loops

variable (operationId : Uuid → Uuid)

theorem consumedRows_nil (all : List CommercePromotionReservation) : consumedRows operationId [] all = all :=
  updateWhere_of_none _ _ _ (fun _ _ => rfl)

theorem consumedRows_cons (r : CommercePromotionReservation) (rest all : List CommercePromotionReservation)
    (apart : r.id ∉ rest.map (fun x => x.id)) :
    consumedRows operationId rest (consumedRows operationId [r] all) = consumedRows operationId (r :: rest) all := by
  have unnamed : ∀ x : CommercePromotionReservation, x.id = r.id → (rest.any fun y => y.id = x.id) = false := by
    intro x same
    rw [List.any_eq_false]
    intro y hy sameId
    exact apart (List.mem_map.mpr ⟨y, hy, (of_decide_eq_true sameId).trans same⟩)
  unfold consumedRows
  rw [updateWhere_updateWhere]
  · simp only [List.any_cons, List.any_nil, Bool.or_false]
  · intro x _ selected
    exact unnamed _ (by simpa [eq_comm] using selected)
  · intro x _ selected
    exact unnamed x (by simpa [eq_comm] using selected)

theorem consumedRows_one (r : CommercePromotionReservation) (all : List CommercePromotionReservation) :
    updateWhere (fun x => x.id = r.id) (ReservationPatch.consume (operationId r.id)).apply all = consumedRows operationId [r] all := by
  refine updateWhere_congr _ _ _ _ _ ?_ ?_
  · intro x _
    simp [eq_comm]
  · intro x _ selected
    rw [of_decide_eq_true selected]

theorem countedVouchers_nil (vouchers : List Voucher) : countedVouchers [] vouchers = vouchers := by
  simp [countedVouchers, usesOf]

theorem countedVouchers_cons (r : CommercePromotionReservation) (rest : List CommercePromotionReservation)
    (vouchers : List Voucher) : countedVouchers rest (countedVouchers [r] vouchers) = countedVouchers (r :: rest) vouchers := by
  unfold countedVouchers
  rw [List.map_map]
  apply List.map_congr_left
  intro v _
  by_cases uses : r.voucherId = some v.id
  · simp [usesOf, List.countP_cons, uses]
    ring
  · simp [usesOf, List.countP_cons, uses]

theorem countedVouchers_one (r : CommercePromotionReservation) (voucherId : Uuid) (named : r.voucherId = some voucherId)
    (vouchers : List Voucher) : updateWhere (fun v => v.id = voucherId) countRedeemed vouchers = countedVouchers [r] vouchers := by
  apply List.map_congr_left
  intro v _
  by_cases same : v.id = voucherId
  · simp [usesOf, named, same, countRedeemed]
  · have other : voucherId ≠ v.id := fun h => same h.symm
    simp [usesOf, named, same, other]

theorem countedVouchers_bare (rows : List CommercePromotionReservation) (bare : ∀ r ∈ rows, r.voucherId = none)
    (vouchers : List Voucher) : countedVouchers rows vouchers = vouchers := by
  have unused : ∀ voucherId, usesOf voucherId rows = 0 := by
    intro voucherId
    refine List.countP_eq_zero.mpr (fun r member => ?_)
    simp [bare r member]
  simp [countedVouchers, unused]

theorem owedKeys_bare (rows : List CommercePromotionReservation) (bare : ∀ r ∈ rows, r.voucherId = none) :
    rows.filterMap (owedKey operationId) = [] := by
  refine List.filterMap_eq_nil_iff.mpr (fun r member => ?_)
  rw [owedKey, bare r member]
  rfl

theorem consumes_nil (s : CommerceDb) : Consumes operationId [] s s :=
  ⟨(consumedRows_nil operationId _).symm, ⟨[], by simp⟩, (countedVouchers_nil _).symm⟩

theorem consumes_cons (r : CommercePromotionReservation) (rest : List CommercePromotionReservation) (s u t : CommerceDb)
    (apart : r.id ∉ rest.map (fun x => x.id)) (first : Consumes operationId [r] s u) (later : Consumes operationId rest u t) :
    Consumes operationId (r :: rest) s t := by
  obtain ⟨one, grown, owed⟩ := first.redemptions
  obtain ⟨more, grown', owed'⟩ := later.redemptions
  refine ⟨?_, ⟨one ++ more, ?_, ?_⟩, ?_⟩
  · rw [later.reservations, first.reservations, consumedRows_cons operationId r rest _ apart]
  · rw [grown', grown, List.append_assoc]
  · rw [List.map_append, owed, owed', ← List.filterMap_append]
    rfl
  · rw [later.vouchers, first.vouchers, countedVouchers_cons]

end Loops

section Settling

variable (operationId : Uuid → Uuid) (rows : List CommercePromotionReservation) (s t : CommerceDb)

theorem consumedRows_uses (orderId voucherId : Uuid) (reservations : t.reservations = consumedRows operationId rows s.reservations) :
    usesOf voucherId (reservationsOf t orderId) = usesOf voucherId (reservationsOf s orderId) := by
  unfold usesOf reservationsOf
  rw [reservations, consumedRows, updateWhere, List.countP_filter, List.countP_filter, List.countP_map]
  congr 1
  funext r
  simp only [Function.comp]
  split <;> rfl

theorem consumes_found (voucherId : Uuid) (done : Consumes operationId rows s t) : voucherById t voucherId =
    (voucherById s voucherId).map (fun v => { v with redeemedCount := v.redeemedCount + usesOf v.id rows }) := by
  unfold voucherById
  rw [done.vouchers, countedVouchers, List.find?_map]
  rfl

theorem consumes_counted (voucherId : Uuid) (named : ∀ r ∈ rows, ∀ id, r.voucherId = some id → ∃ v ∈ s.vouchers, v.id = id)
    (done : Consumes operationId rows s t) : redeemedCountOf t voucherId = redeemedCountOf s voucherId + usesOf voucherId rows := by
  unfold redeemedCountOf
  rw [consumes_found operationId rows s t voucherId done]
  cases found : voucherById s voucherId with
  | some v => simp [(voucherById_some s voucherId v found).2]
  | none =>
    have unused : usesOf voucherId rows = 0 := by
      refine List.countP_eq_zero.mpr (fun r member uses => ?_)
      obtain ⟨v, hv, same⟩ := named r member voucherId (of_decide_eq_true uses)
      have missing := List.find?_eq_none.mp found v hv
      exact missing (decide_eq_true same)
    simp [unused]

theorem consumed_from (orderId : Uuid) (done : Consumes operationId (reservationsOf s orderId) s t)
    (r : CommercePromotionReservation) (member : r ∈ reservationsOf t orderId) :
    ∃ old ∈ reservationsOf s orderId, r = (ReservationPatch.consume (operationId old.id)).apply old := by
  obtain ⟨hr, order⟩ := List.mem_filter.mp member
  rw [done.reservations] at hr
  obtain ⟨old, hold, same⟩ := (mem_updateWhere _ _ _ _).mp hr
  have ofOrder : old.orderId = orderId := by
    have kept : r.orderId = old.orderId := by
      rw [same]
      split <;> rfl
    exact kept.symm.trans (of_decide_eq_true order)
  have own : old ∈ reservationsOf s orderId := List.mem_filter.mpr ⟨hold, decide_eq_true ofOrder⟩
  refine ⟨old, own, ?_⟩
  rw [same, if_pos]
  exact List.any_eq_true.mpr ⟨old, own, by simp⟩

theorem consumes_named (orderId : Uuid) (named : VouchersNamed t) (done : Consumes operationId (reservationsOf s orderId) s t) :
    ∀ r ∈ reservationsOf s orderId, ∀ id, r.voucherId = some id → ∃ v ∈ s.vouchers, v.id = id := by
  intro r member id applied
  have after : (ReservationPatch.consume (operationId r.id)).apply r ∈ t.reservations := by
    rw [done.reservations]
    refine (mem_updateWhere _ _ _ _).mpr ⟨r, (List.mem_filter.mp member).1, ?_⟩
    rw [if_pos]
    exact List.any_eq_true.mpr ⟨r, member, by simp⟩
  obtain ⟨v, hv, same⟩ := named _ after id applied
  rw [done.vouchers] at hv
  obtain ⟨v', hv', counted⟩ := List.mem_map.mp hv
  refine ⟨v', hv', ?_⟩
  rw [← same, ← counted]

theorem settled_of_consumes (before : CommerceDb) (orderId : Uuid) (keys : Keys t) (vouchers : s.vouchers = before.vouchers)
    (redemptions : s.redemptions = before.redemptions) (named : VouchersNamed t)
    (done : Consumes operationId (reservationsOf s orderId) s t) : PromotionsSettled before t orderId := by
  refine ⟨?_, ?_, ?_⟩
  · intro r member
    obtain ⟨old, _, same⟩ := consumed_from operationId s t orderId done r member
    rw [same]
    rfl
  · intro r member vouched
    obtain ⟨old, own, same⟩ := consumed_from operationId s t orderId done r member
    obtain ⟨voucherId, named⟩ := Option.isSome_iff_exists.mp vouched
    obtain ⟨more, grown, owed⟩ := done.redemptions
    have key : (voucherId, r.buyerId, operationId old.id) ∈ more.map redemptionKeyOf := by
      rw [owed, List.mem_filterMap]
      refine ⟨old, own, ?_⟩
      rw [same] at named ⊢
      have own' : old.voucherId = some voucherId := named
      rw [owedKey, own']
      rfl
    obtain ⟨x, hx, isKey⟩ := List.mem_map.mp key
    have keyed : ∀ y : VoucherRedemption, redeemedFor r y = true ↔ redemptionKeyOf y = (voucherId, r.buyerId, operationId old.id) := by
      intro y
      have operation : r.statusOperationId = some (operationId old.id) := by rw [same]; rfl
      unfold redeemedFor redemptionKeyOf
      rw [decide_eq_true_eq, named, operation, Prod.mk.injEq, Prod.mk.injEq, Option.some.injEq, Option.some.injEq]
      exact ⟨fun h => ⟨h.1.symm, h.2.1, h.2.2.symm⟩, fun h => ⟨h.1.symm, h.2.1, h.2.2.symm⟩⟩
    have once := unique_count_le_one (fun y : VoucherRedemption => some (y.voucherId, y.userId, y.redemptionKey)) t.redemptions
      keys.redemptions (voucherId, r.buyerId, operationId old.id)
    have atMost : t.redemptions.countP (redeemedFor r) ≤ 1 :=
      le_trans (List.countP_mono_left (fun y _ mine => decide_eq_true (congrArg some ((keyed y).mp mine)))) once
    have added : 0 < more.countP (redeemedFor r) := List.countP_pos_iff.mpr ⟨x, hx, (keyed x).mpr isKey⟩
    rw [grown, List.countP_append] at atMost ⊢
    rw [← redemptions]
    omega
  · intro voucherId
    have unchanged : redeemedCountOf s voucherId = redeemedCountOf before voucherId := by
      unfold redeemedCountOf voucherById
      rw [vouchers]
    rw [consumedRows_uses operationId _ s t orderId voucherId done.reservations, ← unchanged]
    exact consumes_counted operationId _ s t voucherId (consumes_named operationId s t orderId named done) done

theorem benefitCheck_passes (after : CommerceDb) (orderId : Uuid) (backed : Backed after)
    (benefits : ∀ b ∈ after.benefits, ∃ r ∈ after.reservations, BenefitOf b r)
    (consumed : ∀ r ∈ reservationsOf after orderId, r.status = .consumed) : BenefitCheckPasses after orderId := by
  intro o _ named
  refine decide_eq_true (fun _ b member ofOrder => ?_)
  obtain ⟨l, hl, line, order⟩ := ofOrder
  obtain ⟨r, hr, of⟩ := benefits b member
  obtain ⟨l', hl', line', order'⟩ := (backed.reservations r hr).line
  have same : l' = l := unique_eq _ after.lines backed.keys.lines l' l l.id hl' hl (by rw [line', of.1, line]) rfl
  have own : r ∈ reservationsOf after orderId := by
    refine List.mem_filter.mpr ⟨hr, decide_eq_true ?_⟩
    rw [← order', same, order, named]
  exact ⟨r, hr, decide_eq_true ⟨of.1, of.2.1, of.2.2, consumed r own⟩⟩

theorem consumes_alike (first second : Uuid → Uuid) (u : CommerceDb) (done : Consumes first rows s t)
    (other : Consumes second rows s u) : SameEligibility t u := by
  have pairs : ∀ (operationId : Uuid → Uuid) (more : List VoucherRedemption),
      more.map redemptionKeyOf = rows.filterMap (owedKey operationId) → more.map (fun x => (x.voucherId, x.userId)) =
        rows.filterMap (fun r => r.voucherId.map (fun voucherId => (voucherId, r.buyerId))) := by
    intro operationId more owed
    have projected := congrArg (List.map (fun key : Uuid × Uuid × String => (key.1, key.2.1))) owed
    rw [List.map_map, List.map_filterMap] at projected
    refine projected.trans ?_
    congr 1
    funext r
    unfold owedKey
    cases r.voucherId <;> rfl
  obtain ⟨more, grown, owed⟩ := done.redemptions
  obtain ⟨more', grown', owed'⟩ := other.redemptions
  have redeemed : ∀ p : Uuid × Uuid → Bool, t.redemptions.countP (fun x => p (x.voucherId, x.userId)) =
      u.redemptions.countP (fun x => p (x.voucherId, x.userId)) := by
    intro p
    have counts : ∀ xs : List VoucherRedemption, xs.countP (fun x => p (x.voucherId, x.userId)) =
        (xs.map (fun x => (x.voucherId, x.userId))).countP p := by
      intro xs
      rw [List.countP_map]
      rfl
    rw [counts, counts, grown, grown', List.map_append, List.map_append, pairs first more owed, pairs second more' owed']
  have held : ∀ (now : Instant) (voucherId : Uuid) (q : Uuid → Bool),
      t.reservations.countP (fun r => holdsUse now voucherId r && q r.buyerId) =
        u.reservations.countP (fun r => holdsUse now voucherId r && q r.buyerId) := by
    intro now voucherId q
    rw [done.reservations, other.reservations, consumedRows, consumedRows, updateWhere, updateWhere, List.countP_map,
      List.countP_map]
    congr 1
    funext r
    simp only [Function.comp]
    split <;> rfl
  refine ⟨done.vouchers.trans other.vouchers.symm, ?_⟩
  intro now v userId code courseId categorySlug amountMinor currency
  have all := redeemed (fun key => key.1 = v.id)
  have own := redeemed (fun key => key.1 = v.id ∧ key.2 = userId)
  have allHeld := held now v.id (fun _ => true)
  have ownHeld := held now v.id (fun buyer => buyer = userId)
  simp only [Bool.and_true] at allHeld
  have ownHeld' : userReservationCount t now v.id userId = userReservationCount u now v.id userId := by
    simpa [userReservationCount] using ownHeld
  unfold evaluate
  rw [ownHeld']
  simp only [redemptionCount, userRedemptionCount, reservationCount]
  rw [all, own, allHeld]

end Settling

section Awaiting

variable (db : CommerceDb) (whole : Whole db) (held : PromotionsHeld db) (orderId : Uuid)
  (awaiting : ∀ o ∈ db.orders, o.id = orderId → o.status = .pendingPayment)

include whole in
theorem routines_unconfirmed (t : CommerceDb) (writes : Writes (RoutineWrite .nothing) db t) (o : CommerceOrder)
    (member : o ∈ t.orders) (confirmed : o.status = .confirmed) : ∃ x ∈ db.orders, x.id = o.id ∧ x.status = .confirmed := by
  have steps := routine_transitions unrestricted db t (writes_mono (routine_anywhere unrestricted.scope) _ _ writes)
  obtain ⟨s, hs, confirms⟩ := ((transitions_whole unrestricted db t steps whole).delivered.backed.orders o member).2.1 confirmed
  have settles : confirming s := confirms.disposition.symm
  have before := (routines_settlements_from db t writes s hs).resolve_right (fun other => other settles)
  obtain ⟨x, hx, named, settled⟩ := whole.confirms s before settles
  refine ⟨x, hx, named.trans confirms.order, (whole.delivered.backed.orders x hx).1.mp ?_⟩
  rw [settled]
  rfl

include awaiting in
theorem confirmed_moved (t : CommerceDb) (id settlementId : Uuid) (now : Instant)
    (orders : t.orders = updateWhere (fun o => o.id = id) (OrderPatch.confirm settlementId now).apply db.orders)
    (confirmed : ∃ o ∈ t.orders, o.id = orderId ∧ o.status = .confirmed) : orderId = id := by
  obtain ⟨o, member, named, status⟩ := confirmed
  rw [orders] at member
  obtain ⟨x, hx, same⟩ := (mem_updateWhere _ _ _ _).mp member
  by_cases own : x.id = id
  · rw [same, if_pos (by simp [own])] at named
    exact named.symm.trans own
  · rw [same, if_neg (by simp [own])] at named status
    rw [awaiting x hx named] at status
    cases status

include awaiting in
theorem unconfirmed_same (t : CommerceDb) (orders : t.orders = db.orders)
    (confirmed : ∃ o ∈ t.orders, o.id = orderId ∧ o.status = .confirmed) :
    False := by
  obtain ⟨o, member, named, status⟩ := confirmed
  rw [orders] at member
  rw [awaiting o member named] at status
  cases status

include whole held awaiting in
theorem awaiting_reservations : reservedOf db orderId = reservationsOf db orderId := by
  refine List.filter_congr (fun r member => ?_)
  by_cases ofOrder : r.orderId = orderId
  · obtain ⟨o, ho, named, _⟩ := (whole.delivered.backed.reservations r member).order
    have reserved := awaiting_reserved db whole.delivered.backed held r member o ho named (awaiting o ho (named.trans ofOrder))
    simp [ofOrder, reserved]
  · simp [ofOrder]

omit db in
theorem filtered_distinct (all : List CommercePromotionReservation)
    (ids : UniqueKey (fun r : CommercePromotionReservation => some r.id) all)
    (p : CommercePromotionReservation → Bool) : ((all.filter p).map (fun r => r.id)).Nodup := by
  unfold UniqueKey at ids
  rw [List.filterMap_eq_map'] at ids
  exact List.Nodup.sublist (List.Sublist.map _ List.filter_sublist) ids

end Awaiting

section Webhooks

variable (db : CommerceDb) (whole : Whole db) (held : PromotionsHeld db) (orderId : Uuid)
  (awaiting : ∀ o ∈ db.orders, o.id = orderId → o.status = .pendingPayment)

theorem lineById_of_mem (db : CommerceDb) (keys : Keys db) (l : CommerceOrderLine) (member : l ∈ db.lines) :
    lineById db l.id = some l :=
  find_unique (fun l => some l.id) _ db.lines keys.lines l l.id member (by simp) rfl
    (fun x _ named => by rw [of_decide_eq_true named])

theorem consumedStore_consumes (operationId : Uuid → Uuid) (currency : String) (rows : List CommercePromotionReservation) (s : CommerceDb)
    (lines : ∀ r ∈ rows, ∃ l, lineById s r.orderLineId = some l) :
    Consumes operationId rows s (consumedStore operationId currency rows s) := by
  refine ⟨rfl, ⟨redeemedRows s operationId currency rows, rfl, ?_⟩, rfl⟩
  unfold redeemedRows
  rw [List.map_filterMap]
  refine List.filterMap_congr (fun r member => ?_)
  obtain ⟨l, found⟩ := lines r member
  unfold owedKey
  cases r.voucherId with
  | none => rfl
  | some voucherId =>
    rw [Option.bind_some, found]
    rfl

include whole held awaiting in
theorem webhook_consumes (now : Instant) (draw : WebhookDraw) (v : VerifiedPaymentWebhook) (shaped : deliverable v = true) :
    Wlp (applyVerified now draw v) (fun _ t => (∃ o ∈ t.orders, o.id = orderId ∧ o.status = .confirmed) →
      Consumes draw.operationId (reservationsOf db orderId) db t) db := by
  have backed := whole.delivered.backed
  refine wlp_mono _ db (applyVerified_outcome db backed now draw v shaped) ?_
  intro r t outcome confirmed
  have routine : Writes (RoutineWrite .nothing) db t → Consumes draw.operationId (reservationsOf db orderId) db t := by
    intro writes
    obtain ⟨o, member, named, status⟩ := confirmed
    obtain ⟨x, hx, same, before⟩ := routines_unconfirmed db whole t writes o member status
    rw [awaiting x hx (same.trans named)] at before
    cases before
  cases outcome with
  | unknown code parsed noAttempt => exact routine (writes_refl db)
  | replayed s member records => exact routine (writes_refl db)
  | mismatch a code _ source writes opened => exact routine writes
  | duplicate _ s member records writes => exact routine writes
  | late _ s member records writes => exact routine writes
  | confirmed a o member named order pending waits facts steps =>
    have same : orderId = a.orderId :=
      confirmed_moved db orderId awaiting _ a.orderId draw.settlementId now rfl confirmed
    have ofOrder : o.id = orderId := (orderById_some db a.orderId o order).2.trans same.symm
    rw [ofOrder, awaiting_reservations db whole held orderId awaiting]
    have done := consumedStore_consumes draw.operationId a.currency (reservationsOf db orderId) (paidStore now draw a v db) ?_
    · exact ⟨done.reservations, done.redemptions, done.vouchers⟩
    · intro r member
      obtain ⟨l, hl, line, _⟩ := (backed.reservations r (List.mem_filter.mp member).1).line
      refine ⟨l, ?_⟩
      rw [← line]
      exact lineById_of_mem db backed.keys l hl

end Webhooks

section Banks

variable (draw : BankDraw)

theorem consumeBenefits_rows (rows : List CommercePromotionReservation) (distinct : (rows.map (fun r => r.id)).Nodup)
    (s : CommerceDb) : Wlp (rows.forM (consumeBenefit draw)) (fun _ t => t.orders = s.orders ∧ t.vouchers = s.vouchers ∧
      t.redemptions = s.redemptions ∧ t.reservations = consumedRows draw.operationId rows s.reservations) s := by
  induction rows generalizing s with
  | nil =>
    rw [List.forM_eq_forM, List.forM_nil, wlp_pure, consumedRows_nil]
    exact ⟨rfl, rfl, rfl, rfl⟩
  | cons r rest ih =>
    rw [List.map_cons, List.nodup_cons] at distinct
    rw [List.forM_eq_forM, List.forM_cons, wlp_bind]
    unfold consumeBenefit
    rw [wlp_updateReservation]
    intro old moves
    refine wlp_mono _ _ (ih distinct.2 _) ?_
    rintro _ t ⟨orders, vouchers, redemptions, reservations⟩
    refine ⟨orders, vouchers, redemptions, ?_⟩
    rw [reservations, ← consumedRows_cons draw.operationId r rest _ distinct.1, ← consumedRows_one]

-- What an approval leaves of the promotions: it consumes the reservations of the order it confirms and redeems nothing.
structure BankTables (db t : CommerceDb) : Prop where
  vouchers : t.vouchers = db.vouchers
  redemptions : t.redemptions = db.redemptions
  settled : t.orders = db.orders ∨ ∃ id settlementId now,
    t.orders = updateWhere (fun o => o.id = id) (OrderPatch.confirm settlementId now).apply db.orders ∧
      t.reservations = consumedRows draw.operationId (reservedOf db id) db.reservations

theorem settleBank_tables (now : Instant) (db : CommerceDb)
    (ids : UniqueKey (fun r : CommercePromotionReservation => some r.id) db.reservations) (r : CommerceBankTransferRequest)
    (e : CommerceBankStatementEvidence) : Wlp (settleBank now draw r e) (fun _ t => BankTables draw db t) db := by
  simp only [settleBank, wlp_bind, wlp_get, wlp_orThrow, wlp_require, wlp_insertEvent, wlp_insertSettlement, wlp_updateAttempt,
    wlp_updateBankRequest, wlp_updateOrder, wlp_pure]
  intro o _ _ _ a event o' settlement old attempt old' request old'' moves
  refine wlp_mono _ _ (consumeBenefits_rows draw (reservedOf db o.id) (filtered_distinct _ ids _) _) ?_
  rintro _ t ⟨orders, vouchers, redemptions, reservations⟩
  exact ⟨vouchers, redemptions, .inr ⟨o.id, draw.settlementId, now, orders, reservations⟩⟩

theorem approve_tables (deployment : Deployment) (now : Instant) (key : OperationKey) (evidenceId : Uuid) (input : BankApproval)
    (db : CommerceDb) (ids : UniqueKey (fun r : CommercePromotionReservation => some r.id) db.reservations) :
    Wlp (approve deployment now draw key evidenceId input) (fun _ t => BankTables draw db t) db := by
  simp only [approve, wlp_bind]
  refine wlp_mono _ db (requireOperator_reads deployment db key.actorId) ?_
  rintro _ s ⟨rfl, _⟩
  simp only [wlp_get, wlp_orThrow, wlp_require]
  intro e evidence _
  refine wlp_mono _ _ (bankIdempotency_store draw key _) ?_
  rintro _ t ⟨rows, rfl⟩
  intro r request
  rw [wlp_ite]
  refine ⟨fun _ => ?_, fun _ => ?_⟩
  · simp only [replayApproval, wlp_bind, wlp_get, wlp_orThrow, wlp_pure]
    exact fun _ _ => ⟨rfl, rfl, .inl rfl⟩
  · simp only [approveEvidence, wlp_bind, wlp_require, wlp_get]
    intro _
    refine wlp_mono _ _ (addApproval_store e.id key.actorId _) ?_
    rintro _ u ⟨approvals, rfl⟩
    refine wlp_mono _ _ (requireOperators_reads deployment _ _) ?_
    rintro _ w ⟨rfl, _⟩
    rw [wlp_ite, wlp_pure]
    refine ⟨fun _ => ⟨rfl, rfl, .inl rfl⟩, fun _ => ?_⟩
    refine wlp_mono _ _ (settleBank_tables draw now _ ?unique r e) ?_
    case unique => exact ids
    intro _ u tables
    exact ⟨tables.vouchers, tables.redemptions, tables.settled⟩

end Banks

section Wallets

variable (deployment : Deployment) (now : Instant) (draw : CheckoutDraw) (db : CommerceDb) (whole : Whole db)

structure PromotionsApart (db t : CommerceDb) : Prop where
  vouchers : t.vouchers = db.vouchers
  redemptions : t.redemptions = db.redemptions
  reservations : t.reservations = db.reservations

include whole in
theorem payOrder_apart (buyerId orderId : Uuid) :
    Wlp (payOrder deployment now draw buyerId orderId) (fun _ t => PromotionsApart db t) db := by
  simp only [payOrder, wlp_bind, wlp_require, wlp_get, wlp_orThrow, wlp_ite]
  intro _ _ o owned
  obtain ⟨byId, _⟩ := ownedOrder_some db orderId buyerId o owned
  have found : orderById db o.id = some o := by
    rw [(orderById_some db orderId o byId).2]
    exact byId
  refine ⟨fun _ => ?_, fun _ => ?_⟩
  · refine wlp_mono _ db (replayCapture_reads db buyerId o) ?_
    rintro _ t ⟨rfl, _⟩
    exact ⟨rfl, rfl, rfl⟩
  simp only [captureOrder, wlp_bind, wlp_require, wlp_get, wlp_orThrow]
  rintro ⟨awaiting, _⟩ w _
  refine wlp_mono _ db (wlp_and _ _ ((@reserveOrder_program unrestricted.scope now w o _).within db) (reserveOrder_store now w o _ db)) ?_
  rintro _ s ⟨reserved, gds, rfl⟩ current _ h _
  refine wlp_mono _ _ (prepareGdsCommerceCapture_plan _ _) ?_
  rintro plan _ ⟨rfl, _⟩
  refine wlp_mono _ _ (wlp_and _ _ ((@posting_program unrestricted.scope now _).within _) (posting_store now _ _)) ?_
  rintro _ t ⟨captured, gds', _, rfl⟩
  simp only [wlp_insertSettlement, wlp_updateOrder]
  intro o' fits old moves
  have path := routine_transitions unrestricted _ _ (writes_trans _ _ _ reserved captured)
  have delivered := (transitions_whole unrestricted _ _ path whole).delivered
  have settled := writes_one _ _ (Write.settle _ now _ o' fits (fun collection => by cases collection))
  have confirmed := settled.tail (.confirm _ _ _ now old moves (by
    have sameRow : orderById db o.id = some old := moves.found
    rw [found] at sameRow
    rw [← Option.some.inj sameRow]
    exact awaiting))
  refine wlp_mono _ _ (fulfillConfirmedOrder_outcome deployment now draw.access o.id _
    (writes_delivered _ _ delivered confirmed)) ?_
  intro _ u outcome
  rw [wlp_pure]
  cases outcome with
  | already x found fulfilled => exact ⟨rfl, rfl, rfl⟩
  | completed x u found confirmed unfulfilled done =>
    rw [← done.apart]
    exact ⟨rfl, rfl, rfl⟩

end Wallets

section Gifts

variable (now : Instant) (draw : OrderDraw)

def heldFor (learnerId : Uuid) (l : PricedLine) : Option CommercePromotionReservation :=
  l.voucherId.map (voucherReservation now draw learnerId l)

structure LinesPlaced (learnerId : Uuid) (lines : List PricedLine) (s t : CommerceDb) : Prop where
  reservations : t.reservations = s.reservations ++ lines.filterMap (heldFor now draw learnerId)
  redemptions : t.redemptions = s.redemptions
  vouchers : t.vouchers = s.vouchers
  orders : t.orders = s.orders

theorem createLines_placed (learnerId : Uuid) (lines : List PricedLine) (s : CommerceDb) :
    Wlp (lines.forM (createLine now draw learnerId)) (fun _ t => LinesPlaced now draw learnerId lines s t) s := by
  induction lines generalizing s with
  | nil =>
    rw [List.forM_eq_forM, List.forM_nil, wlp_pure]
    exact ⟨by simp, rfl, rfl, rfl⟩
  | cons l rest ih =>
    rw [List.forM_eq_forM, List.forM_cons, wlp_bind]
    have first : Wlp (createLine now draw learnerId l) (fun _ t => LinesPlaced now draw learnerId [l] s t) s := by
      simp only [createLine, wlp_bind, wlp_insertOrderLine]
      intro o _
      unfold reserveVoucher
      split
      case h_1 none =>
        rw [wlp_pure]
        exact ⟨by simp [heldFor, none], rfl, rfl, rfl⟩
      case h_2 voucherId applied =>
        simp only [wlp_bind, wlp_insertReservation, wlp_insertBenefit]
        intro o' x _ r _
        exact ⟨by simp [heldFor, applied], rfl, rfl, rfl⟩
    refine wlp_mono _ s first ?_
    intro _ u placed
    refine wlp_mono _ u (ih u) ?_
    intro _ t others
    refine ⟨?_, others.redemptions.trans placed.redemptions, others.vouchers.trans placed.vouchers,
      others.orders.trans placed.orders⟩
    rw [others.reservations, placed.reservations, List.append_assoc, ← List.filterMap_append]
    rfl

theorem consumeUsage_consumes (learnerId : Uuid) (l : PricedLine) (s : CommerceDb) : Wlp (consumeUsage draw learnerId l)
    (fun _ t => t.orders = s.orders ∧ Consumes draw.operationId (heldFor now draw learnerId l).toList s t) s := by
  unfold consumeUsage heldFor
  split
  case h_1 none =>
    rw [wlp_pure, none]
    exact ⟨rfl, consumes_nil draw.operationId s⟩
  case h_2 voucherId applied =>
    rw [applied]
    simp only [wlp_bind, wlp_updateReservation, wlp_insertRedemption, wlp_incrementRedeemed]
    intro old moves v fits v' found
    refine ⟨trivial, ?_, ⟨[usageRedemption draw learnerId l voucherId], rfl, rfl⟩, ?_⟩
    · exact consumedRows_one draw.operationId (voucherReservation now draw learnerId l voucherId) s.reservations
    · exact countedVouchers_one (voucherReservation now draw learnerId l voucherId) voucherId rfl s.vouchers

theorem consumeUsages_consume (learnerId : Uuid) (lines : List PricedLine) (s : CommerceDb)
    (distinct : ((lines.filterMap (heldFor now draw learnerId)).map (fun r => r.id)).Nodup) :
    Wlp (lines.forM (consumeUsage draw learnerId)) (fun _ t => t.orders = s.orders ∧
      Consumes draw.operationId (lines.filterMap (heldFor now draw learnerId)) s t) s := by
  induction lines generalizing s with
  | nil =>
    rw [List.forM_eq_forM, List.forM_nil, wlp_pure]
    exact ⟨rfl, consumes_nil draw.operationId s⟩
  | cons l rest ih =>
    rw [List.forM_eq_forM, List.forM_cons, wlp_bind]
    refine wlp_mono _ s (consumeUsage_consumes now draw learnerId l s) ?_
    rintro _ u ⟨orders, first⟩
    cases reserved : heldFor now draw learnerId l with
    | none =>
      rw [List.filterMap_cons_none reserved] at distinct ⊢
      rw [reserved] at first
      refine wlp_mono _ u (ih u distinct) ?_
      rintro _ t ⟨orders', later⟩
      refine ⟨orders'.trans orders, ?_, ?_, ?_⟩
      · rw [later.reservations, first.reservations, Option.toList_none, consumedRows_nil]
      · obtain ⟨none, grown, owed⟩ := first.redemptions
        obtain ⟨more, grown', owed'⟩ := later.redemptions
        have empty : none = [] := List.map_eq_nil_iff.mp owed
        exact ⟨more, by rw [grown', grown, empty, List.append_nil], owed'⟩
      · rw [later.vouchers, first.vouchers, Option.toList_none, countedVouchers_nil]
    | some r =>
      rw [List.filterMap_cons_some reserved] at distinct ⊢
      rw [reserved] at first
      rw [List.map_cons, List.nodup_cons] at distinct
      refine wlp_mono _ u (ih u distinct.2) ?_
      rintro _ t ⟨orders', later⟩
      exact ⟨orders'.trans orders, consumes_cons draw.operationId r _ s u t distinct.1 first later⟩

theorem confirmIfFree_consumes (learnerId : Uuid) (o : CommerceOrder) (lines : List PricedLine) (s : CommerceDb)
    (distinct : ((lines.filterMap (heldFor now draw learnerId)).map (fun r => r.id)).Nodup) :
    Wlp (confirmIfFree now draw learnerId o lines) (fun _ t => t.orders = s.orders ∨
      t.orders = updateWhere (fun x => x.id = draw.orderId) (OrderPatch.confirm draw.settlementId now).apply s.orders ∧
        Consumes draw.operationId (lines.filterMap (heldFor now draw learnerId)) s t) s := by
  simp only [confirmIfFree, wlp_ite]
  refine ⟨fun _ => ?_, fun _ => (wlp_pure _ _ _).mpr (.inl rfl)⟩
  simp only [confirmZeroPayableOrder, wlp_bind, wlp_insertSettlement, wlp_updateOrder]
  intro x _ old _
  refine wlp_mono _ _ (consumeUsages_consume now draw learnerId lines _ distinct) ?_
  rintro _ t ⟨orders, done⟩
  exact .inr ⟨orders, ⟨done.reservations, done.redemptions, done.vouchers⟩⟩

theorem heldFor_order (learnerId : Uuid) (lines : List PricedLine) :
    ∀ r ∈ lines.filterMap (heldFor now draw learnerId), r.orderId = draw.orderId := by
  intro r member
  obtain ⟨l, _, held⟩ := List.mem_filterMap.mp member
  obtain ⟨voucherId, _, rfl⟩ := Option.map_eq_some_iff.mp held
  rfl

variable (db : CommerceDb) (whole : Whole db) (orderId : Uuid)
  (awaiting : ∀ o ∈ db.orders, o.id = orderId → o.status = .pendingPayment)

-- What a checkout leaves of an order it confirms at once: the order is new, and its promotions are consumed.
def ConsumesNew (t : CommerceDb) : Prop :=
  (∀ o ∈ db.orders, o.id ≠ orderId) ∧ ∃ s, s.vouchers = db.vouchers ∧ s.redemptions = db.redemptions ∧
    Consumes draw.operationId (reservationsOf s orderId) s t

include whole in
theorem new_reservations (fresh : ∀ o ∈ db.orders, o.id ≠ draw.orderId) (learnerId : Uuid) (lines : List PricedLine) (s : CommerceDb)
    (reservations : s.reservations = db.reservations ++ lines.filterMap (heldFor now draw learnerId)) :
    reservationsOf s draw.orderId = lines.filterMap (heldFor now draw learnerId) := by
  have before : db.reservations.filter (fun r => r.orderId = draw.orderId) = [] := by
    refine List.filter_eq_nil_iff.mpr (fun r member own => ?_)
    obtain ⟨o, ho, named, _⟩ := (whole.delivered.backed.reservations r member).order
    exact fresh o ho (named.trans (of_decide_eq_true own))
  have added : (lines.filterMap (heldFor now draw learnerId)).filter (fun r => r.orderId = draw.orderId) =
      lines.filterMap (heldFor now draw learnerId) :=
    List.filter_eq_self.mpr (fun r member => decide_eq_true (heldFor_order now draw learnerId lines r member))
  rw [reservationsOf, reservations, List.filter_append, before, added, List.nil_append]

include whole awaiting in
theorem createPricedOrder_consumes (request : CheckoutRequest) (cart : CommerceCart) (selected : List CommerceCartLine)
    (lines : List PricedLine) : Wlp (createPricedOrder now draw request cart selected lines)
      (fun _ t => (∃ o ∈ t.orders, o.id = orderId ∧ o.status = .confirmed) → ConsumesNew draw db orderId t) db := by
  have backed := whole.delivered.backed
  simp only [createPricedOrder, wlp_bind, wlp_insertOrder]
  intro fits
  have placed : Placing unrestricted db draw (pricedOrder draw cart request lines)
      { db with orders := db.orders ++ [pricedOrder draw cart request lines] } :=
    ⟨writes_one _ _ (.routine _ _ (.order db _ fits)), List.mem_append_right _ (by simp), ⟨rfl, rfl, [], by simp, by simp⟩⟩
  refine wlp_mono _ _ (wlp_and _ _ (createLines_place unrestricted db now draw request.learnerId lines backed.keys _ rfl rfl
    (fun _ _ _ _ _ _ _ => trivial) lines (fun _ member => member) _ placed)
    (createLines_placed now draw request.learnerId lines _)) ?_
  rintro _ s ⟨⟨placing, _⟩, rows⟩
  have fresh : ∀ o ∈ db.orders, o.id ≠ draw.orderId := fun o member same =>
    (free_iff _ _ _).mp fits.freshId o member draw.orderId rfl (congrArg some same)
  have own : reservationsOf s draw.orderId = lines.filterMap (heldFor now draw request.learnerId) :=
    new_reservations now draw db whole fresh request.learnerId lines s rows.reservations
  have keys := writes_keys db s backed.keys (transitions_writes unrestricted db s placing.path)
  have distinct : ((lines.filterMap (heldFor now draw request.learnerId)).map (fun r => r.id)).Nodup := by
    rw [← own]
    exact filtered_distinct s.reservations keys.reservations.ids _
  have pending : ∀ o ∈ s.orders, o.id = orderId → o.status = .pendingPayment := by
    intro o member named
    rw [rows.orders] at member
    rcases List.mem_append.mp member with old | new
    · exact awaiting o old named
    · rw [List.mem_singleton.mp new]
      rfl
  refine wlp_mono _ s (retainLines_store draw cart _ s) ?_
  rintro _ t ⟨carts, rfl⟩
  refine wlp_mono _ _ (updateCart_store cart.id _ _) ?_
  rintro _ t ⟨carts', rfl⟩
  refine wlp_mono _ _ (confirmIfFree_consumes now draw request.learnerId _ lines _ distinct) ?_
  intro _ u outcome
  simp only [wlp_get, wlp_orThrow]
  intro _ _ confirmed
  rcases outcome with same | ⟨orders, done⟩
  · exact (unconfirmed_same s orderId pending u same confirmed).elim
  · have same : orderId = draw.orderId := confirmed_moved s orderId pending u draw.orderId draw.settlementId now orders confirmed
    subst same
    refine ⟨fresh, s, rows.vouchers, rows.redemptions, ?_⟩
    rw [own]
    exact ⟨done.reservations, done.redemptions, done.vouchers⟩

include whole awaiting in
theorem createOrder_consumes (request : CheckoutRequest) (owned : Uuid → Bool) : Wlp (createOrderTransaction now draw request owned)
    (fun _ t => (∃ o ∈ t.orders, o.id = orderId ∧ o.status = .confirmed) → ConsumesNew draw db orderId t) db := by
  simp only [createOrderTransaction, wlp_bind, wlp_get]
  split
  · simp only [resolveExisting, wlp_bind, wlp_require, wlp_get, wlp_orThrow]
    exact fun _ _ _ confirmed => (unconfirmed_same db orderId awaiting db rfl confirmed).elim
  · rw [wlp_bind]
    refine wlp_mono _ db (recordIdempotency_store _ db) ?_
    rintro _ s ⟨rows, rfl⟩
    have recorded := @idempotencyBeside unrestricted.scope db rows
    have later := transitions_whole unrestricted _ _ (writes_one _ _ (.routine _ _ recorded)) whole
    simp only [checkoutCart, wlp_bind, wlp_get, wlp_orThrow, wlp_require]
    intro cart _ _ _ _ _ lines t ok
    obtain ⟨rfl, _, _⟩ := priceLines_reads _ now request cart _ lines t ok
    exact createPricedOrder_consumes now draw _ later orderId awaiting request cart _ lines

end Gifts

end EduAi.Payments
