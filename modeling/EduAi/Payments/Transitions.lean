import EduAi.Commerce.BankBacking
import EduAi.Payments.FulfillmentWrites

set_option autoImplicit false

namespace EduAi.Payments

open EduAi.Store EduAi.Gds EduAi.Commerce

variable {scope : Scope}

structure Confirmation (scope : Scope) (db : CommerceDb) (now : Instant) (s : CommerceSettlement) (o : CommerceOrder)
    (u : CommerceDb) : Prop where
  fits : SettlementFits now db s o
  collected : s.kind = .providerCollection → ∃ a e, Collected db s a e
  moved : Writes (RoutineWrite scope) { db with settlements := db.settlements ++ [s] } u
  moves : OrderMoves u s.orderId (.confirm s.id now) o
  awaiting : o.status = .pendingPayment
  banked : s.provider = some .bankTransfer → ∃ r ∈ u.bankRequests, r.orderId = s.orderId ∧
    s.paymentAttemptId = some r.paymentAttemptId ∧ r.status = .paid

def confirmedStore (now : Instant) (s : CommerceSettlement) (u : CommerceDb) : CommerceDb :=
  { u with orders := updateWhere (fun o => o.id = s.orderId) (OrderPatch.confirm s.id now).apply u.orders }

def usedStore (r : CommercePromotionReservation) (operationId : Uuid) (row : VoucherRedemption) (db : CommerceDb) : CommerceDb :=
  { db with
    reservations := updateWhere (fun x => x.id = r.id) (ReservationPatch.consume operationId).apply db.reservations
    redemptions := db.redemptions ++ [row]
    vouchers := updateWhere (fun v => v.id = row.voucherId) countRedeemed db.vouchers }

structure Used (db : CommerceDb) (r : CommercePromotionReservation) (operationId : Uuid) (row : VoucherRedemption) : Prop where
  moves : ReservationMoves db r.id (.consume operationId) r
  voucher : r.voucherId = some row.voucherId
  user : row.userId = r.buyerId
  key : row.redemptionKey = operationId
  fresh : free (fun x => some (x.voucherId, x.userId, x.redemptionKey)) row db.redemptions = true
  counted : ∃ v, voucherById db row.voucherId = some v

structure Allowance where
  scope : Scope
  gifts : Prop
  completes : Uuid → Prop
  uses : Uuid → Instant → Prop
  bare : Uuid → Prop
  reserves : CommerceDb → CommercePromotionReservation → Prop
  redeems : CommerceDb → VoucherRedemption → Prop

-- The writes of a transaction in the portions whose ends keep the invariants of the store.
inductive Transition (allow : Allowance) : CommerceDb → CommerceDb → Prop where
  | routine (db t : CommerceDb) (w : RoutineWrite allow.scope db t) : Transition allow db t
  | collected (db : CommerceDb) (now : Instant) (s : CommerceSettlement) (o : CommerceOrder) (u : CommerceDb)
      (confirms : Confirmation allow.scope db now s o u) (matched : s.disposition = .matched)
      (banked : s.provider = some .bankTransfer → allow.scope.banks) :
      Transition allow db (confirmedStore now s u)
  | granted (db : CommerceDb) (now : Instant) (s : CommerceSettlement) (o : CommerceOrder) (u t : CommerceDb)
      (confirms : Confirmation allow.scope db now s o u) (internal : s.disposition = .internal)
      (done : Completed (confirmedStore now s u) s.orderId t) : Transition allow db t
  | gifted (db : CommerceDb) (now : Instant) (s : CommerceSettlement) (o : CommerceOrder) (u : CommerceDb)
      (confirms : Confirmation allow.scope db now s o u) (internal : s.disposition = .internal) (free : s.kind = .noPaymentRequired)
      (allowed : allow.gifts) : Transition allow db (confirmedStore now s u)
  | completed (db : CommerceDb) (orderId : Uuid) (o : CommerceOrder) (t : CommerceDb) (found : orderById db orderId = some o)
      (confirmed : o.status = .confirmed) (unfulfilled : o.fulfillmentStatus ≠ .fulfilled) (done : Completed db orderId t)
      (allowed : allow.completes orderId) : Transition allow db t
  | reserved (db : CommerceDb) (r : CommercePromotionReservation) (b : CommerceOrderLineBenefit) (o : CommerceOrder)
      (l : CommerceOrderLine) (fits : ReservationFits db r o l) (awaiting : o.status = .pendingPayment)
      (snapshot : BenefitFits { db with reservations := db.reservations ++ [r] } b r) (allowed : allow.reserves db r) :
      Transition allow db { db with reservations := db.reservations ++ [r], benefits := db.benefits ++ [b] }
  | used (db : CommerceDb) (r : CommercePromotionReservation) (operationId : Uuid) (row : VoucherRedemption)
      (used : Used db r operationId row) (allowed : allow.uses row.voucherId r.expiresAt) : Transition allow db (usedStore r operationId row db)
  | consumed (db : CommerceDb) (id operationId : Uuid) (r : CommercePromotionReservation)
      (moves : ReservationMoves db id (.consume operationId) r) (allowed : ∀ v, r.voucherId = some v → allow.bare v) :
      Transition allow db { db with
        reservations := updateWhere (fun r => r.id = id) (ReservationPatch.consume operationId).apply db.reservations }
  | redeemed (db : CommerceDb) (row : VoucherRedemption) (v : Voucher) (fits : RedemptionFits db row v)
      (allowed : allow.redeems db row) : Transition allow db { db with
        redemptions := db.redemptions ++ [row]
        vouchers := updateWhere (fun v => v.id = row.voucherId) countRedeemed db.vouchers }

section Writes

variable (allow : Allowance)

theorem confirmation_writes (db : CommerceDb) (now : Instant) (s : CommerceSettlement) (o : CommerceOrder) (u : CommerceDb)
    (confirms : Confirmation scope db now s o u) : Writes Write db (confirmedStore now s u) := by
  obtain ⟨x, fits⟩ : ∃ x, SettlementFits now db s x := ⟨o, confirms.fits⟩
  have settled := writes_one _ _ (Write.settle db now s x fits confirms.collected)
  have moved := writes_mono (fun _ _ w => Write.routine _ _ w) _ _ confirms.moved
  exact (writes_trans _ _ _ settled moved).tail (.confirm u s.orderId s.id now o confirms.moves confirms.awaiting)

theorem transition_writes (db t : CommerceDb) (step : Transition allow db t) : Writes Write db t := by
  cases step with
  | routine t w => exact writes_one _ _ (.routine _ _ w)
  | collected now s o u confirms matched banked => exact confirmation_writes db now s o u confirms
  | granted now s o u t confirms internal done =>
    exact writes_trans _ _ _ (confirmation_writes db now s o u confirms) done.writes
  | gifted now s o u confirms internal free allowed => exact confirmation_writes db now s o u confirms
  | completed orderId o t found confirmed unfulfilled done allowed => exact done.writes
  | reserved r b o l fits awaiting snapshot allowed =>
    exact (writes_one _ _ (.reserve db r o l fits)).tail (routine_write _ _ (.benefit _ b r snapshot))
  | used r operationId row used allowed =>
    obtain ⟨v, counted⟩ := used.counted
    have consumed := Write.consume db r.id operationId r used.moves
    have redeemed := Write.redeem { db with
      reservations := updateWhere (fun x => x.id = r.id) (ReservationPatch.consume operationId).apply db.reservations } row v
      ⟨counted, used.fresh⟩
    refine ((writes_one _ _ consumed).tail redeemed).tail ?_
    refine .countRedeemed _ row.voucherId v ?_
    exact counted
  | consumed id operationId r moves allowed => exact writes_one _ _ (.consume db id operationId r moves)
  | redeemed row v fits allowed =>
    refine (writes_one _ _ (.redeem db row v fits)).tail (.countRedeemed _ row.voucherId v ?_)
    exact fits.voucher

theorem transitions_writes (db t : CommerceDb) (steps : Writes (Transition allow) db t) : Writes Write db t := by
  induction steps with
  | refl => exact writes_refl db
  | tail path step ih => exact writes_trans _ _ _ ih (transition_writes allow _ _ step)

theorem routine_transitions (db t : CommerceDb) (writes : Writes (RoutineWrite allow.scope) db t) : Writes (Transition allow) db t :=
  writes_mono (fun s t w => .routine s t w) db t writes

end Writes

def confirming (s : CommerceSettlement) : Prop :=
  s.disposition = .matched ∨ s.disposition = .internal

def Confirms (db : CommerceDb) (s : CommerceSettlement) : Prop :=
  ∃ o ∈ db.orders, o.id = s.orderId ∧ o.confirmedSettlementId = some s.id

theorem confirms_kept (db t : CommerceDb) (kept : Kept db t) (s : CommerceSettlement) (confirmed : Confirms db s) :
    Confirms t s := by
  obtain ⟨o, ho, order, named⟩ := confirmed
  obtain ⟨o', ho', same⟩ := kept.orders o ho
  exact ⟨o', ho', same.id.trans order, same.settlement _ named⟩

-- On top of the rows' backing, what holds between transactions and not between their writes: money is never left beside
-- the order it paid, and an order has fulfilment rows only once it is fulfilled.
structure Whole (db : CommerceDb) : Prop where
  delivered : Delivered db
  requests : RequestsBacked db
  confirms : ∀ s ∈ db.settlements, confirming s → Confirms db s
  effects : ∀ e ∈ db.effects, ∃ o ∈ db.orders, o.id = e.orderId ∧ o.fulfillmentStatus = .fulfilled

theorem emptyCommerceDb_whole (createdAt : Instant) : Whole (emptyCommerceDb createdAt) := by
  refine ⟨emptyCommerceDb_delivered createdAt, ?_, ?_, ?_⟩ <;>
    · intro _ member
      cases member

section Preserved

variable (allow : Allowance) (db t : CommerceDb)

theorem routine_settlements_from (w : RoutineWrite scope db t) (s : CommerceSettlement) (hs : s ∈ t.settlements) :
    s ∈ db.settlements ∨ ¬ confirming s := by
  cases w with
  | surplus now s' o fits disposition collected =>
    rcases List.mem_append.mp hs with old | new
    · exact .inl old
    · rw [List.mem_singleton.mp new]
      refine .inr ?_
      rintro (matched | internal) <;> rcases disposition with same | same <;> simp_all
  | _ => exact .inl hs

theorem routines_settlements_from (writes : Writes (RoutineWrite scope) db t) (s : CommerceSettlement) (hs : s ∈ t.settlements) :
    s ∈ db.settlements ∨ ¬ confirming s := by
  induction writes with
  | refl => exact .inl hs
  | tail path w ih =>
    rcases routine_settlements_from _ _ w s hs with old | other
    · exact ih old
    · exact .inr other

theorem routine_effects (w : RoutineWrite scope db t) : t.effects = db.effects := by
  cases w <;> rfl

theorem routines_effects (writes : Writes (RoutineWrite scope) db t) : t.effects = db.effects := by
  induction writes with
  | refl => rfl
  | tail path w ih => rw [routine_effects _ _ w, ih]

theorem confirmation_effects (now : Instant) (s : CommerceSettlement) (o : CommerceOrder) (u : CommerceDb)
    (confirms : Confirmation scope db now s o u) : (confirmedStore now s u).effects = db.effects := by
  have same := routines_effects _ u confirms.moved
  exact same

theorem confirmation_order (now : Instant) (s : CommerceSettlement) (o : CommerceOrder) (u : CommerceDb)
    (confirms : Confirmation scope db now s o u) : (OrderPatch.confirm s.id now).apply o ∈ (confirmedStore now s u).orders ∧
      ((OrderPatch.confirm s.id now).apply o).id = s.orderId := by
  obtain ⟨ho, named⟩ := orderById_some u s.orderId o confirms.moves.found
  exact ⟨(mem_updateWhere _ _ _ _).mpr ⟨o, ho, by simp [named]⟩, named⟩

theorem confirmation_settlements_from (now : Instant) (s : CommerceSettlement) (o : CommerceOrder) (u : CommerceDb)
    (confirms : Confirmation scope db now s o u) (x : CommerceSettlement) (hx : x ∈ (confirmedStore now s u).settlements) :
    x ∈ db.settlements ∨ ¬ confirming x ∨ Confirms (confirmedStore now s u) x := by
  rcases routines_settlements_from _ _ confirms.moved x hx with before | other
  · rcases List.mem_append.mp before with old | new
    · exact .inl old
    · refine .inr (.inr ?_)
      obtain ⟨member, named⟩ := confirmation_order db now s o u confirms
      rw [List.mem_singleton.mp new]
      exact ⟨_, member, named, rfl⟩
  · exact .inr (.inl other)

theorem transition_settlements_from (keys : Keys db) (step : Transition allow db t) (x : CommerceSettlement)
    (hx : x ∈ t.settlements) : x ∈ db.settlements ∨ ¬ confirming x ∨ Confirms t x := by
  cases step with
  | routine t w =>
    rcases routine_settlements_from db _ w x hx with old | other
    · exact .inl old
    · exact .inr (.inl other)
  | collected now s o u confirms matched banked => exact confirmation_settlements_from db now s o u confirms x hx
  | gifted now s o u confirms internal free allowed => exact confirmation_settlements_from db now s o u confirms x hx
  | granted now s o u t confirms internal done =>
    have same : t.settlements = (confirmedStore now s u).settlements := by
      rw [← done.apart]
      rfl
    rw [same] at hx
    rcases confirmation_settlements_from db now s o u confirms x hx with old | other | confirmed
    · exact .inl old
    · exact .inr (.inl other)
    · have reached := writes_keys db _ keys (confirmation_writes db now s o u confirms)
      exact .inr (.inr (confirms_kept _ t (writes_kept _ t reached done.writes) x confirmed))
  | completed orderId o t found confirmed unfulfilled done allowed =>
    have same : t.settlements = db.settlements := by
      rw [← done.apart]
      rfl
    rw [same] at hx
    exact .inl hx
  | _ => exact .inl hx

theorem completed_effects (orderId : Uuid) (done : Completed db orderId t) (named : ∃ o ∈ db.orders, o.id = orderId)
    (kept : Kept db t)
    (before : ∀ e ∈ db.effects, ∃ o ∈ db.orders, o.id = e.orderId ∧ o.fulfillmentStatus = .fulfilled) :
    ∀ e ∈ t.effects, ∃ o ∈ t.orders, o.id = e.orderId ∧ o.fulfillmentStatus = .fulfilled := by
  intro e he
  rcases done.effects e he with old | own
  · obtain ⟨o, ho, order, fulfilled⟩ := before e old
    obtain ⟨o', ho', same⟩ := kept.orders o ho
    exact ⟨o', ho', same.id.trans order, same.fulfilled fulfilled⟩
  · obtain ⟨o, ho, order⟩ := named
    refine ⟨(OrderPatch.fulfill .fulfilled).apply o, ?_, ?_, rfl⟩
    · rw [done.orders]
      exact (mem_updateWhere _ _ _ _).mpr ⟨o, ho, by simp [order]⟩
    · exact order.trans own.symm

theorem transition_whole (whole : Whole db) (step : Transition allow db t) : Whole t := by
  have writes := transition_writes allow db t step
  have keys := whole.delivered.backed.keys
  have kept := writes_kept db t keys writes
  refine ⟨writes_delivered db t whole.delivered writes, writes_requestsBacked db t keys whole.requests writes, ?_, ?_⟩
  · intro x hx may
    rcases transition_settlements_from allow db t keys step x hx with old | other | confirmed
    · exact confirms_kept db t kept x (whole.confirms x old may)
    · exact absurd may other
    · exact confirmed
  · have carried : t.effects = db.effects →
        ∀ e ∈ t.effects, ∃ o ∈ t.orders, o.id = e.orderId ∧ o.fulfillmentStatus = .fulfilled := by
      intro same e he
      rw [same] at he
      obtain ⟨o, ho, order, fulfilled⟩ := whole.effects e he
      obtain ⟨o', ho', orderKept⟩ := kept.orders o ho
      exact ⟨o', ho', orderKept.id.trans order, orderKept.fulfilled fulfilled⟩
    cases step with
    | routine t w => exact carried (routine_effects db t w)
    | collected now s o u confirms matched banked => exact carried (confirmation_effects db now s o u confirms)
    | gifted now s o u confirms internal free allowed => exact carried (confirmation_effects db now s o u confirms)
    | granted now s o u t confirms internal done =>
      have path := confirmation_writes db now s o u confirms
      have between := writes_kept db _ keys path
      have named : ∃ x ∈ (confirmedStore now s u).orders, x.id = s.orderId :=
        ⟨_, confirmation_order db now s o u confirms⟩
      refine completed_effects (confirmedStore now s u) t s.orderId done named
        (writes_kept _ t (writes_keys db _ keys path) done.writes) ?_
      intro e he
      rw [confirmation_effects db now s o u confirms] at he
      obtain ⟨x, hx, order, fulfilled⟩ := whole.effects e he
      obtain ⟨x', hx', orderKept⟩ := between.orders x hx
      exact ⟨x', hx', orderKept.id.trans order, orderKept.fulfilled fulfilled⟩
    | completed orderId o t found confirmed unfulfilled done allowed =>
      obtain ⟨ho, named⟩ := orderById_some db orderId o found
      exact completed_effects db t orderId done ⟨o, ho, named⟩ kept whole.effects
    | _ => exact carried rfl

theorem transitions_whole (steps : Writes (Transition allow) db t) (whole : Whole db) : Whole t :=
  writes_invariant Whole (fun s u step held => transition_whole allow s u held step) db t steps whole

end Preserved

end EduAi.Payments
