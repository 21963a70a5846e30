import EduAi.Payments.BankControl

set_option autoImplicit false

namespace EduAi.Payments

open EduAi.Store EduAi.Gds EduAi.Commerce

def isReturned (r : CommercePromotionReservation) : Bool :=
  r.status = .released || r.status = .expired

def BenefitOf (b : CommerceOrderLineBenefit) (r : CommercePromotionReservation) : Prop :=
  r.orderLineId = b.orderLineId ∧ r.benefitType = b.benefitType ∧ benefitSource r = some b.sourceId

def ReturnedClosed (db : CommerceDb) : Prop :=
  ∀ r ∈ db.reservations, isReturned r = true → ∀ o ∈ db.orders, o.id = r.orderId → o.status ≠ .pendingPayment

def VouchersNamed (db : CommerceDb) : Prop :=
  ∀ r ∈ db.reservations, ∀ id, r.voucherId = some id → ∃ v ∈ db.vouchers, v.id = id

-- A reservation is given back only with its order, every benefit stands on a reservation for its own line, and the voucher of a
-- reservation is there.
structure PromotionsHeld (db : CommerceDb) : Prop where
  returned : ReturnedClosed db
  benefits : ∀ b ∈ db.benefits, ∃ r ∈ db.reservations, BenefitOf b r
  vouchers : VouchersNamed db

theorem emptyCommerceDb_promotionsHeld (createdAt : Instant) : PromotionsHeld (emptyCommerceDb createdAt) :=
  ⟨(fun _ member => by cases member), (fun _ member => by cases member), (fun _ member => by cases member)⟩

section Kept

variable (db t : CommerceDb)

theorem awaiting_reserved (backed : Backed db) (held : PromotionsHeld db) (r : CommercePromotionReservation)
    (member : r ∈ db.reservations) (o : CommerceOrder) (order : o ∈ db.orders) (named : o.id = r.orderId)
    (awaiting : o.status = .pendingPayment) : r.status = .reserved := by
  cases status : r.status with
  | reserved => rfl
  | consumed =>
    obtain ⟨x, hx, same, _, confirmed⟩ := (backed.reservations r member).order
    rw [order_same db backed.keys x o hx order (same.trans named.symm), awaiting] at confirmed
    cases confirmed status
  | released => exact absurd awaiting (held.returned r member (by simp [isReturned, status]) o order named)
  | expired => exact absurd awaiting (held.returned r member (by simp [isReturned, status]) o order named)

theorem benefitOf_kept (b : CommerceOrderLineBenefit) (r r' : CommercePromotionReservation) (same : ReservationKept r r')
    (of : BenefitOf b r) : BenefitOf b r' := by
  refine ⟨same.orderLineId.trans of.1, same.benefitType.trans of.2.1, ?_⟩
  rw [← of.2.2, benefitSource, same.voucherId, same.scholarshipAwardId, benefitSource]

theorem write_benefits_from (w : Write db t) (b : CommerceOrderLineBenefit) (member : b ∈ t.benefits) :
    b ∈ db.benefits ∨ ∃ r ∈ t.reservations, BenefitOf b r := by
  cases w with
  | routine _ w =>
    cases w with
    | benefit new r fits =>
      rcases List.mem_append.mp member with old | added
      · exact .inl old
      · rw [List.mem_singleton.mp added]
        exact .inr ⟨r, (find_some _ db.reservations r fits.reservation).1, fits.snapshot⟩
    | _ => exact .inl member
  | _ => exact .inl member

theorem write_benefits_held (keys : Keys db) (w : Write db t)
    (held : ∀ b ∈ db.benefits, ∃ r ∈ db.reservations, BenefitOf b r) :
    ∀ b ∈ t.benefits, ∃ r ∈ t.reservations, BenefitOf b r := by
  intro b member
  rcases write_benefits_from db t w b member with old | new
  · obtain ⟨r, hr, of⟩ := held b old
    obtain ⟨r', hr', same⟩ := write_reservations db t keys w r hr
    exact ⟨r', hr', benefitOf_kept b r r' same of⟩
  · exact new

theorem write_vouchers_kept (w : Write db t) (v : Voucher) (member : v ∈ db.vouchers) : ∃ v' ∈ t.vouchers, v'.id = v.id := by
  cases w with
  | routine _ w =>
    cases w with
    | voucher new fresh unused => exact ⟨v, List.mem_append_left _ member, rfl⟩
    | editVoucher old new found edits allowed =>
      refine ⟨_, (mem_updateWhere _ _ _ _).mpr ⟨v, member, rfl⟩, ?_⟩
      split
      case isTrue same => exact edits.id.trans (of_decide_eq_true same).symm
      case isFalse => rfl
    | _ => exact ⟨v, member, rfl⟩
  | countRedeemed id x found =>
    refine ⟨_, (mem_updateWhere _ _ _ _).mpr ⟨v, member, rfl⟩, ?_⟩
    split <;> rfl
  | _ => exact ⟨v, member, rfl⟩

theorem write_vouchersNamed (keys : Keys db) (w : Write db t) (held : VouchersNamed db) : VouchersNamed t := by
  intro r member id named
  have before : ∃ v ∈ db.vouchers, v.id = id := by
    rcases write_reservations_from db t keys w r member with ⟨old, hr, same, _⟩ | ⟨o, l, fits⟩
    · exact held old hr id (same.voucherId.symm.trans named)
    · obtain ⟨v, hv, own, _⟩ := fits.voucher id named
      exact ⟨v, hv, own⟩
  obtain ⟨v, hv, own⟩ := before
  obtain ⟨v', hv', same⟩ := write_vouchers_kept db t w v hv
  exact ⟨v', hv', same.trans own⟩

theorem returnedClosed_kept (backed : Backed db) (later : Keys t) (kept : Kept db t) (held : ReturnedClosed db)
    (rows : ∀ r ∈ t.reservations, isReturned r = true → r ∈ db.reservations) : ReturnedClosed t := by
  intro r member returned o order named
  have before := rows r member returned
  obtain ⟨x, hx, same, _⟩ := (backed.reservations r before).order
  obtain ⟨x', hx', carried⟩ := kept.orders x hx
  have one : o = x' := order_same t later o x' order hx' (by rw [named, carried.id, same])
  have ended := held r before returned x hx same
  rw [one]
  by_cases confirmed : x.status = .confirmed
  · rw [carried.confirmed confirmed]
    decide
  · have shut := carried.closed (by simp [closed, ended, confirmed])
    intro pending
    simp [closed, pending] at shut

end Kept

def promising : Allowance :=
  { unrestricted with scope := { Scope.everything with returns := False } }

section Promising

variable (db t : CommerceDb)

theorem routine_reservations (w : RoutineWrite promising.scope db t) : t.reservations = db.reservations := by
  cases w with
  | returnReservation id patch old moves returns allowed => exact allowed.elim
  | _ => rfl

theorem routines_reservations (writes : Writes (RoutineWrite promising.scope) db t) : t.reservations = db.reservations := by
  induction writes with
  | refl => rfl
  | tail path w ih => rw [routine_reservations _ _ w, ih]

theorem confirmation_reservations (now : Instant) (s : CommerceSettlement) (o : CommerceOrder) (u : CommerceDb)
    (confirms : Confirmation promising.scope db now s o u) : (confirmedStore now s u).reservations = db.reservations := by
  have same := routines_reservations _ u confirms.moved
  exact same

theorem completed_reservations (orderId : Uuid) (done : Completed db orderId t) : t.reservations = db.reservations := by
  rw [← done.apart]
  rfl

theorem consumed_returned (id operationId : Uuid) (rows : List CommercePromotionReservation) (r : CommercePromotionReservation)
    (member : r ∈ updateWhere (fun x => x.id = id) (ReservationPatch.consume operationId).apply rows) (returned : isReturned r = true) :
    r ∈ rows := by
  obtain ⟨x, hx, same⟩ := (mem_updateWhere _ _ _ _).mp member
  subst same
  split at returned
  case isTrue => cases returned
  case isFalse apart =>
    rw [if_neg apart]
    exact hx

theorem transition_returned_from (step : Transition promising db t) (r : CommercePromotionReservation)
    (member : r ∈ t.reservations) (returned : isReturned r = true) : r ∈ db.reservations := by
  cases step with
  | routine t w => exact routine_reservations db _ w ▸ member
  | collected now s o u confirms matched banked => exact confirmation_reservations db now s o u confirms ▸ member
  | gifted now s o u confirms internal free allowed => exact confirmation_reservations db now s o u confirms ▸ member
  | granted now s o u t confirms internal done =>
    rw [completed_reservations _ _ s.orderId done, confirmation_reservations db now s o u confirms] at member
    exact member
  | completed orderId o t found confirmed unfulfilled done =>
    rw [completed_reservations _ _ orderId done] at member
    exact member
  | reserved new b o l fits awaiting snapshot allowed =>
    rcases List.mem_append.mp member with old | added
    · exact old
    · rw [List.mem_singleton.mp added, isReturned, fits.initial.1] at returned
      cases returned
  | used x operationId row used allowed => exact consumed_returned x.id operationId _ r member returned
  | consumed id operationId x moves allowed => exact consumed_returned id operationId _ r member returned
  | redeemed row v fits allowed => exact member

theorem transitions_returned_from (steps : Writes (Transition promising) db t) (r : CommercePromotionReservation)
    (member : r ∈ t.reservations) (returned : isReturned r = true) : r ∈ db.reservations := by
  induction steps with
  | refl => exact member
  | tail path step ih => exact ih (transition_returned_from _ _ step r member returned)

theorem transitions_returnedClosed (backed : Backed db) (held : ReturnedClosed db) (steps : Writes (Transition promising) db t) :
    ReturnedClosed t := by
  have writes := transitions_writes promising db t steps
  exact returnedClosed_kept db t backed (writes_keys db t backed.keys writes) (writes_kept db t backed.keys writes) held
    (transitions_returned_from db t steps)

end Promising

section Closing

variable (db : CommerceDb) (ids : UniqueKey (fun r : CommercePromotionReservation => some r.id) db.reservations)
  (held : ReturnedClosed db)

include ids in
theorem returns_own (orderId : Uuid) (patch : CommercePromotionReservation → ReservationPatch) :
    Wlp ((reservedOf db orderId).forM (fun r => updateReservation r.id (patch r)))
      (fun _ t => t.orders = db.orders ∧ ∀ x ∈ t.reservations, x ∈ db.reservations ∨ x.orderId = orderId) db := by
  have looped := wlp_forM (ε := Fault) (fun r => updateReservation r.id (patch r)) (fun rest s =>
    (∀ r ∈ rest, r ∈ reservedOf db orderId) ∧ s.orders = db.orders ∧
      ∀ x ∈ s.reservations, x ∈ db.reservations ∨ x.orderId = orderId) (reservedOf db orderId) db ?_
    ⟨fun _ member => member, rfl, fun _ member => .inl member⟩
  · exact wlp_mono _ db looped (fun _ t reached => reached.2)
  · rintro r rest s ⟨members, orders, rows⟩
    obtain ⟨hr, own⟩ := List.mem_filter.mp (members r (by simp))
    have owned : r.orderId = orderId := by
      have both := own
      simp only [decide_eq_true_eq] at both
      exact both.1
    rw [wlp_updateReservation]
    intro old moves
    refine ⟨fun x member => members x (by simp [member]), orders, ?_⟩
    intro x member
    obtain ⟨y, hy, same⟩ := (mem_updateWhere _ _ _ _).mp member
    subst same
    split
    case isFalse => exact rows y hy
    case isTrue selected =>
      refine .inr ?_
      have ofOrder : y.orderId = orderId := by
        rcases rows y hy with before | own
        · have one : y = r := unique_eq _ db.reservations ids y r r.id before hr (by rw [of_decide_eq_true selected]) rfl
          rw [one]
          exact owned
        · exact own
      cases patch r <;> exact ofOrder

include held in
theorem closed_returned (t : CommerceDb) (id : Uuid) (expired : Bool)
    (orders : t.orders = updateWhere (fun o => o.id = id) (OrderPatch.close expired).apply db.orders)
    (rows : ∀ x ∈ t.reservations, x ∈ db.reservations ∨ x.orderId = id) : ReturnedClosed t := by
  intro r member returned o order named
  rw [orders] at order
  obtain ⟨x, hx, same⟩ := (mem_updateWhere _ _ _ _).mp order
  subst same
  split
  case isTrue => cases expired <;> simp [OrderPatch.apply]
  case isFalse other =>
    rw [if_neg other] at named
    rcases rows r member with before | own
    · exact held r before returned x hx named
    · exact absurd (decide_eq_true (named.trans own)) other

include ids held in
theorem closeOrder_returned (operationId : Uuid → Uuid) (o : CommerceOrder) (expired : Bool) :
    Wlp (closeOrder operationId o expired) (fun _ t => ReturnedClosed t) db := by
  simp only [closeOrder, wlp_bind, wlp_get]
  refine wlp_mono _ db (returns_own db ids o.id _) ?_
  rintro _ s ⟨orders, rows⟩
  simp only [wlp_updateOrder, wlp_orThrow]
  intro old moves x _
  exact closed_returned db held _ o.id expired (by rw [orders]) rows

include ids held in
theorem closeAttempt_returned (now : Instant) (operationId : Uuid → Uuid) (a : CommercePaymentAttempt) (o : CommerceOrder)
    (status : PaymentProviderStatus) (requested expired : Bool) :
    Wlp (closeAttempt now a status requested >>= fun _ => closeOrder operationId o expired) (fun _ t => ReturnedClosed t) db := by
  simp only [closeAttempt, wlp_bind, wlp_updateAttempt]
  intro old moves
  refine closeOrder_returned _ ?unique ?before operationId o expired
  · exact ids
  · exact held

include ids held in
theorem closing_returned (now : Instant) (operationId : Uuid → Uuid) (call : LifecycleCall) (attemptId : Uuid)
    (status : PaymentProviderStatus) (requested : Bool) :
    Wlp (closing call now operationId attemptId status requested) (fun _ t => ReturnedClosed t) db := by
  cases call with
  | cancel learnerId =>
    refine discard_wlp _ _ db ?_
    simp only [finish, wlp_bind, wlp_get, wlp_orThrow, wlp_ite, wlp_require, wlp_pure]
    intro a _ o _
    refine ⟨fun _ => held, fun _ _ => ?_⟩
    have closed := closeAttempt_returned db ids held now operationId a o status requested (status = .expired)
    rw [wlp_bind] at closed
    exact closed
  | expiry =>
    refine discard_wlp _ _ db ?_
    simp only [finishExpiry, wlp_bind, wlp_get, wlp_orThrow, wlp_ite, wlp_require, wlp_pure]
    intro a _ o _
    refine ⟨fun _ => held, fun _ _ _ => ?_⟩
    have closed := closeAttempt_returned db ids held now operationId a o status requested true
    rw [wlp_bind] at closed
    exact closed

include ids held in
theorem prepare_returned (operationId : Uuid → Uuid) (request : CancelRequest) :
    Wlp (prepare operationId request) (fun _ t => ReturnedClosed t) db := by
  simp only [prepare, wlp_bind, wlp_get, wlp_require, wlp_orThrow, wlp_ite, wlp_pure]
  intro _ o _
  refine ⟨fun _ => held, fun _ _ => ?_⟩
  have recorded : ∀ s, ReturnedClosed s → ∀ attempt, Wlp (recordCancellation request o attempt) (fun _ t => ReturnedClosed t) s := by
    intro s closed attempt
    simp only [recordCancellation, recordIdempotency, wlp_bind, wlp_get, wlp_ite, wlp_require, wlp_modify, wlp_pure]
    exact ⟨fun _ _ => closed, fun _ => closed⟩
  have ended : Wlp (closeOrRefuse operationId o (latestAttempt db o.id)) (fun _ t => ReturnedClosed t) db := by
    unfold closeOrRefuse
    split
    case h_1 => exact closeOrder_returned db ids held operationId o false
    case h_2 =>
      simp only [wlp_bind, wlp_require, wlp_pure]
      exact fun _ => held
  exact wlp_mono _ db ended (fun _ s closed => recorded s closed _)

include ids held in
theorem closeBankTransfer_returned (now : Instant) (draw : BankDraw) (expired : Bool) (key : OperationKey) (orderId : Uuid) :
    Wlp (closeBankTransfer now draw expired key orderId) (fun _ t => ReturnedClosed t) db := by
  simp only [closeBankTransfer, requireOwnedOrder, cancelKey, wlp_bind, wlp_get, wlp_orThrow]
  intro o _
  have keyed : Wlp (if expired = true then pure () else bankIdempotency draw key)
      (fun _ t => ∃ rows, t = { db with idempotency := rows }) db := by
    rw [wlp_ite, wlp_pure]
    exact ⟨fun _ => ⟨db.idempotency, rfl⟩, fun _ => bankIdempotency_store draw key db⟩
  refine wlp_mono _ db keyed ?_
  rintro _ s ⟨rows, same⟩ r _
  subst same
  rw [wlp_ite, wlp_pure]
  refine ⟨fun _ => held, fun _ => ?_⟩
  simp only [closeBankWindow, wlp_bind, wlp_require, wlp_updateAttempt, wlp_updateBankRequest, wlp_updateOrder, wlp_get]
  intro _ a attempt x request old moves
  refine wlp_mono _ _ (returns_own _ ?unique o.id
    (fun r => if expired then .expire (draw.operationId r.id) else .release (draw.operationId r.id))) ?_
  case unique => exact ids
  rintro _ t ⟨orders, returned⟩
  exact closed_returned db held t o.id expired orders returned

end Closing

def Input.gives : Input → Bool
  | .prepareCancel _ _ => true
  | .followWord _ _ _ _ _ => true
  | .closeObserved _ _ _ _ => true
  | .closeBank _ _ _ _ => true
  | _ => false

theorem promising_admits (s : System) (i : Input) (keeps : i.gives = false) : Admits promising s i := by
  have admits := unrestricted_admits s i
  cases i with
  | createOrder draw request owned =>
    exact ⟨fun _ => ⟨fun _ _ _ _ _ _ _ => trivial, fun _ => trivial⟩, fun _ _ => trivial⟩
  | prepareCancel operationId request => cases keeps
  | followWord call a status seen draw => cases keeps
  | closeObserved call a v operationId => cases keeps
  | closeBank draw expired key orderId => cases keeps
  | _ => exact admits

section Steps

variable (deployment : Deployment) (s : System)

theorem followWord_returned (whole : Whole s.db) (held : ReturnedClosed s.db) (now : Instant) (call : LifecycleCall)
    (a : CommercePaymentAttempt) (status : PaymentRequestStatus) (seen : Option String) (draw : WordDraw) :
    Wlp (followWord deployment now call a status seen draw) (fun _ t => ReturnedClosed t) s.db := by
  have backed := whole.delivered.backed
  unfold followWord
  split
  case h_1 =>
    refine wlp_mono _ s.db ((@flagAttempt_program promising.scope deployment now draw.caseId a _ seen).within s.db) ?_
    exact fun _ t writes => transitions_returnedClosed s.db t backed held (routine_transitions promising _ _ writes)
  case h_2 v action =>
    have built := (toVerifiedPaymentWebhook_some a status v (lifecycleAction_ingest a status v action)).2
    refine discard_wlp _ _ s.db (wlp_mono _ s.db (applyVerified_transitions promising now draw.webhook v s.db whole built.shaped
      (fun _ _ _ _ _ _ _ _ _ _ _ _ _ => trivial)) ?_)
    exact fun _ t steps => transitions_returnedClosed s.db t backed held steps
  case h_3 => exact closing_returned s.db backed.keys.reservations.ids held now draw.operationId call a.id _ true
  case h_4 => exact (wlp_pure _ _ _).mpr held

theorem body_returned (i : Input) (whole : Whole s.db) (held : ReturnedClosed s.db) :
    Wlp (body deployment s i) (fun _ t => ReturnedClosed t) s.db := by
  have backed := whole.delivered.backed
  have ids := backed.keys.reservations.ids
  have kept : i.gives = false → Wlp (body deployment s i) (fun _ t => ReturnedClosed t) s.db := fun keeps =>
    wlp_mono _ s.db (body_transitions promising deployment s i whole (promising_admits s i keeps))
      (fun _ t steps => transitions_returnedClosed s.db t backed held steps)
  cases i with
  | prepareCancel operationId request => exact discard_wlp _ _ s.db (prepare_returned s.db ids held operationId request)
  | followWord call a status seen draw =>
    simp only [body, wlp_bind, wlp_require]
    exact fun _ => followWord_returned deployment s whole held s.now call a status seen draw
  | closeObserved call a v operationId =>
    simp only [body, closeObserved, wlp_bind, wlp_require, wlp_orThrow]
    exact fun _ status _ => closing_returned s.db ids held s.now operationId call a.id status false
  | closeBank draw expired key orderId => exact closeBankTransfer_returned s.db ids held s.now draw expired key orderId
  | _ => exact kept rfl

theorem writes_benefits_named (db t : CommerceDb) (keys : Keys db) (writes : Writes Write db t)
    (benefits : ∀ b ∈ db.benefits, ∃ r ∈ db.reservations, BenefitOf b r) (named : VouchersNamed db) :
    (∀ b ∈ t.benefits, ∃ r ∈ t.reservations, BenefitOf b r) ∧ VouchersNamed t :=
  (writes_invariant (fun db => Keys db ∧ (∀ b ∈ db.benefits, ∃ r ∈ db.reservations, BenefitOf b r) ∧ VouchersNamed db)
    (fun s u w held => ⟨write_keys s u w held.1, write_benefits_held s u held.1 w held.2.1, write_vouchersNamed s u held.1 w held.2.2⟩)
    db t writes ⟨keys, benefits, named⟩).2

theorem step_promotionsHeld (i : Input) (whole : Whole s.db) (held : PromotionsHeld s.db) :
    PromotionsHeld (step deployment s i).db := by
  have steps := step_transitions unrestricted deployment s i whole (unrestricted_admits s i)
  obtain ⟨benefits, named⟩ := writes_benefits_named _ _ whole.delivered.backed.keys (transitions_writes unrestricted _ _ steps)
    held.benefits held.vouchers
  refine ⟨?_, benefits, named⟩
  exact commit_of_wlp _ ReturnedClosed s.db held.returned
    (transaction_wlp _ _ s.db (body_returned deployment s i whole held.returned))

theorem run_promotionsHeld (inputs : List Input) (sound : Sound s) (held : PromotionsHeld s.db) :
    Sound (run (step deployment) s inputs) ∧ PromotionsHeld (run (step deployment) s inputs).db :=
  run_invariant (step deployment) (fun s => Sound s ∧ PromotionsHeld s.db)
    (fun s i both => ⟨step_sound deployment s i both.1, step_promotionsHeld deployment s i both.1.whole both.2⟩) s inputs
    ⟨sound, held⟩

end Steps

end EduAi.Payments
