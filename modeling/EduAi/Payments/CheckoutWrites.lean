import EduAi.Commerce.MembershipCheckout
import EduAi.Commerce.Pricing
import EduAi.Payments.BankWrites
import EduAi.Payments.Transitions

set_option autoImplicit false

namespace EduAi.Payments

open EduAi.Store EduAi.Gds EduAi.Commerce

variable {scope : Scope}

section Carts

theorem cartsBeside (db : CommerceDb) (carts : List CommerceCart) : RoutineWrite scope db { db with carts } :=
  .beside db { db with carts }

theorem idempotencyBeside (db : CommerceDb) (rows : List CommerceIdempotencyRecord) :
    RoutineWrite scope db { db with idempotency := rows } :=
  .beside db { db with idempotency := rows }

theorem recordIdempotency_store (row : CommerceIdempotencyRecord) (db : CommerceDb) :
    Wlp (recordIdempotency row) (fun _ t => ∃ rows, t = { db with idempotency := rows }) db := by
  simp only [recordIdempotency, wlp_bind, wlp_get, wlp_require, wlp_modify]
  exact fun _ => ⟨_, rfl⟩

theorem updateCart_store (id : Uuid) (patch : CommerceCart → CommerceCart) (db : CommerceDb) :
    Wlp (updateCart id patch) (fun _ t => ∃ carts, t = { db with carts }) db := by
  simp only [updateCart, wlp_bind, wlp_get, wlp_orThrow, wlp_modify]
  exact fun _ _ => ⟨_, rfl⟩

theorem retainLines_store (draw : OrderDraw) (cart : CommerceCart) (unselected : List CommerceCartLine) (db : CommerceDb) :
    Wlp (retainLines draw cart unselected) (fun _ t => ∃ carts, t = { db with carts }) db := by
  simp only [retainLines, insertCart, updateCart, wlp_ite, wlp_bind, wlp_get, wlp_require, wlp_orThrow, wlp_modify, wlp_pure]
  exact ⟨fun _ => ⟨db.carts, rfl⟩, fun _ _ _ _ _ _ _ => ⟨_, rfl⟩⟩

end Carts

structure Reserving (db s : CommerceDb) (orderId : Uuid) : Prop where
  redemptions : s.redemptions = db.redemptions
  vouchers : s.vouchers = db.vouchers
  own : ∃ rows, s.reservations = db.reservations ++ rows ∧ ∀ r ∈ rows, r.orderId = orderId ∧ r.status = .reserved

section Orders

variable (allow : Allowance) (db : CommerceDb) (now : Instant) (draw : OrderDraw) (learnerId : Uuid)
  (lines : List PricedLine)

structure Placing (o : CommerceOrder) (s : CommerceDb) : Prop where
  path : Writes (Transition allow) db s
  order : o ∈ s.orders
  reserving : Reserving db s draw.orderId

def ReservedLine (s : CommerceDb) (l : PricedLine) : Prop :=
  ∀ voucherId, l.voucherId = some voucherId → voucherReservation now draw learnerId l voucherId ∈ s.reservations

variable (keys : Keys db) (o : CommerceOrder) (named : o.id = draw.orderId) (awaiting : o.status = .pendingPayment)
  (reserves : ∀ s l voucherId, l ∈ lines → l.voucherId = some voucherId → Reserving db s draw.orderId →
    free voucherOfOrder (voucherReservation now draw learnerId l voucherId) s.reservations = true →
    allow.reserves s (voucherReservation now draw learnerId l voucherId))

include keys named awaiting

theorem found_awaiting (s : CommerceDb) (placing : Placing allow db draw o s) (x : CommerceOrder)
    (found : orderById s draw.orderId = some x) : x.status = .pendingPayment := by
  have later := writes_keys db s keys (transitions_writes allow db s placing.path)
  obtain ⟨member, sameId⟩ := orderById_some s draw.orderId x found
  rw [order_same s later x o member placing.order (sameId.trans named.symm)]
  exact awaiting

include reserves

theorem createLine_places (l : PricedLine) (member : l ∈ lines) (s : CommerceDb) (placing : Placing allow db draw o s) :
    Wlp (createLine now draw learnerId l) (fun _ t => Placing allow db draw o t ∧ ReservedLine now draw learnerId t l ∧
      s.reservations <+: t.reservations) s := by
  simp only [createLine, wlp_bind, wlp_insertOrderLine]
  intro x fits
  have lined : Transition allow s { s with lines := s.lines ++ [orderLine draw l] } :=
    .routine _ _ (.line s _ x fits (found_awaiting allow db draw keys o named awaiting s placing x fits.order))
  have placing' : Placing allow db draw o { s with lines := s.lines ++ [orderLine draw l] } :=
    ⟨placing.path.tail lined, placing.order, ⟨placing.reserving.redemptions, placing.reserving.vouchers, placing.reserving.own⟩⟩
  unfold reserveVoucher
  split
  case h_1 none =>
    rw [wlp_pure]
    refine ⟨placing', ?_, List.prefix_refl _⟩
    intro voucherId applied
    rw [none] at applied
    cases applied
  case h_2 voucherId applied =>
    simp only [wlp_bind, wlp_insertReservation, wlp_insertBenefit]
    intro y line reservation r benefit
    obtain ⟨rows, own, status⟩ := placing'.reserving.own
    have later := writes_keys db _ keys (transitions_writes allow db _ placing'.path)
    have same : r = voucherReservation now draw learnerId l voucherId := by
      have found := benefit.reservation
      obtain ⟨inRows, sameId⟩ := find_some _ _ r found
      have grown : Keys { s with
          lines := s.lines ++ [orderLine draw l]
          reservations := s.reservations ++ [voucherReservation now draw learnerId l voucherId] } :=
        write_keys _ _ (.reserve _ _ y line reservation) later
      exact reservation_same _ grown r _ inRows (List.mem_append_right _ (by simp)) (of_decide_eq_true sameId)
    subst same
    refine ⟨⟨placing'.path.tail (.reserved _ _ _ y line reservation ?_ benefit ?_), placing.order, ?_⟩, ?_, List.prefix_append _ _⟩
    · exact found_awaiting allow db draw keys o named awaiting _ placing' y reservation.order
    · exact reserves _ l voucherId member applied placing'.reserving reservation.freshVoucher
    · refine ⟨placing.reserving.redemptions, placing.reserving.vouchers,
        rows ++ [voucherReservation now draw learnerId l voucherId], ?_, ?_⟩
      · rw [← List.append_assoc, ← own]
      · intro z hz
        rcases List.mem_append.mp hz with before | added
        · exact status z before
        · rw [List.mem_singleton.mp added]
          exact ⟨rfl, rfl⟩
    · intro id again
      rw [applied] at again
      cases again
      exact List.mem_append_right _ (by simp)

theorem createLines_place (rest : List PricedLine) (members : ∀ l ∈ rest, l ∈ lines) (s : CommerceDb)
    (placing : Placing allow db draw o s) : Wlp (rest.forM (createLine now draw learnerId))
      (fun _ t => Placing allow db draw o t ∧ (∀ l ∈ rest, ReservedLine now draw learnerId t l) ∧
        s.reservations <+: t.reservations) s := by
  induction rest generalizing s with
  | nil =>
    rw [List.forM_eq_forM, List.forM_nil, wlp_pure]
    exact ⟨placing, (fun _ member => by cases member), List.prefix_refl _⟩
  | cons l rest ih =>
    rw [List.forM_eq_forM, List.forM_cons, wlp_bind]
    refine wlp_mono _ s (createLine_places allow db now draw learnerId lines keys o named awaiting reserves l
      (members l (by simp)) s placing) ?_
    intro _ t ⟨placed, reserved, grows⟩
    refine wlp_mono _ t (ih (fun x hx => members x (by simp [hx])) t placed) ?_
    intro _ u ⟨placed', others, grows'⟩
    refine ⟨placed', ?_, grows.trans grows'⟩
    intro x member
    rcases List.mem_cons.mp member with rfl | later
    · exact fun id applied => grows'.subset (reserved id applied)
    · exact others x later

end Orders

section Usage

variable (allow : Allowance) (now : Instant) (draw : OrderDraw) (learnerId : Uuid)

theorem consumeUsage_transitions (db : CommerceDb) (keys : Keys db) (l : PricedLine) (reserved : ReservedLine now draw learnerId db l)
    (uses : ∀ voucherId, l.voucherId = some voucherId → allow.uses voucherId (now + reservationLifetime)) (s : CommerceDb)
    (path : Writes (Transition allow) db s) :
    Wlp (consumeUsage draw learnerId l) (fun _ t => Writes (Transition allow) s t) s := by
  unfold consumeUsage
  split
  case h_1 => exact (wlp_pure _ _ _).mpr (writes_refl s)
  case h_2 voucherId applied =>
    have writes := transitions_writes allow db s path
    obtain ⟨r, hr, kept⟩ := (writes_kept db s keys writes).reservations _ (reserved voucherId applied)
    simp only [wlp_bind, wlp_updateReservation, wlp_insertRedemption, wlp_incrementRedeemed]
    intro old moves v fits v' found
    have own : r.id = draw.reservationId l.id := kept.id
    have same : old = r := by
      obtain ⟨inRows, sameId⟩ := reservation_found s _ old moves.found
      exact reservation_same s (writes_keys db s keys writes) old r inRows hr (sameId.trans own.symm)
    subst same
    have used : Used s old (draw.operationId (draw.reservationId l.id)) (usageRedemption draw learnerId l voucherId) := by
      refine ⟨?_, kept.voucherId, kept.buyer.symm, rfl, fits.freshKey, v', found⟩
      rw [own]
      exact moves
    have step := Transition.used s old _ _ used (by rw [kept.expiresAt]; exact uses voucherId applied)
    unfold usedStore at step
    rw [own] at step
    exact writes_one _ _ step

theorem consumeUsages_transitions (db : CommerceDb) (keys : Keys db) (lines : List PricedLine)
    (reserved : ∀ l ∈ lines, ReservedLine now draw learnerId db l)
    (uses : ∀ l ∈ lines, ∀ voucherId, l.voucherId = some voucherId → allow.uses voucherId (now + reservationLifetime))
    (s : CommerceDb) (path : Writes (Transition allow) db s) :
    Wlp (lines.forM (consumeUsage draw learnerId)) (fun _ t => Writes (Transition allow) s t) s := by
  refine wlp_mono _ s (wlp_forM_each _ (fun _ _ => True) (fun _ _ _ _ _ => trivial) lines s ?_) (fun _ t reached => reached.1)
  intro l member t reached
  refine wlp_mono _ t (consumeUsage_transitions allow now draw learnerId db keys l (reserved l member) (uses l member) t
    (writes_trans _ _ _ path reached)) ?_
  exact fun _ u moved => ⟨moved, trivial⟩

theorem confirmIfFree_transitions (db : CommerceDb) (keys : Keys db) (o : CommerceOrder) (lines : List PricedLine)
    (awaiting : ∀ x, orderById db draw.orderId = some x → x.status = .pendingPayment)
    (reserved : ∀ l ∈ lines, ReservedLine now draw learnerId db l)
    (uses : ∀ l ∈ lines, ∀ voucherId, l.voucherId = some voucherId → allow.uses voucherId (now + reservationLifetime))
    (gifts : o.payableAmountMinor = 0 → allow.gifts) :
    Wlp (confirmIfFree now draw learnerId o lines) (fun _ t => Writes (Transition allow) db t) db := by
  simp only [confirmIfFree, wlp_ite, wlp_pure]
  refine ⟨fun free => ?_, fun _ => writes_refl db⟩
  simp only [confirmZeroPayableOrder, wlp_bind, wlp_insertSettlement, wlp_updateOrder]
  intro o' fits old moves
  have same : o' = old := by
    have found := moves.found
    rw [show orderById { db with settlements := db.settlements ++ [zeroSettlement draw now] } draw.orderId =
      orderById db draw.orderId from rfl] at found
    have other : orderById db draw.orderId = some o' := fits.order
    rw [found] at other
    exact (Option.some.inj other).symm
  subst same
  have confirms : Confirmation allow.scope db now (zeroSettlement draw now) o'
      { db with settlements := db.settlements ++ [zeroSettlement draw now] } :=
    ⟨fits, (fun collection => by cases collection), writes_refl _, moves, awaiting o' fits.order, (fun bank => by cases bank)⟩
  have gifted := writes_one _ _ (@Transition.gifted allow db now _ o' _ confirms rfl rfl (gifts free))
  refine wlp_mono _ _ (consumeUsages_transitions allow now draw learnerId db keys lines reserved uses _ gifted) ?_
  intro _ t used
  exact writes_trans _ _ _ gifted used

end Usage

section Creation

variable (allow : Allowance) (now : Instant) (draw : OrderDraw) (request : CheckoutRequest)

structure Orders (db : CommerceDb) : Prop where
  reserves : ∀ s l voucherId, Priced db now request.learnerId l → l.voucherId = some voucherId →
    Reserving db s draw.orderId →
    free voucherOfOrder (voucherReservation now draw request.learnerId l voucherId) s.reservations = true →
    allow.reserves s (voucherReservation now draw request.learnerId l voucherId)
  uses : ∀ voucherId, allow.uses voucherId (now + reservationLifetime)

theorem createPricedOrder_transitions (db : CommerceDb) (keys : Keys db) (cart : CommerceCart) (selected : List CommerceCartLine)
    (lines : List PricedLine) (priced : ∀ l ∈ lines, Priced db now request.learnerId l)
    (orders : Orders allow now draw request db)
    (gifts : (pricedOrder draw cart request lines).payableAmountMinor = 0 → allow.gifts) :
    Wlp (createPricedOrder now draw request cart selected lines) (fun _ t => Writes (Transition allow) db t) db := by
  simp only [createPricedOrder, wlp_bind, wlp_insertOrder]
  intro fits
  have placed : Placing allow db draw (pricedOrder draw cart request lines)
      { db with orders := db.orders ++ [pricedOrder draw cart request lines] } :=
    ⟨writes_one _ _ (.routine _ _ (.order db _ fits)), List.mem_append_right _ (by simp), ⟨rfl, rfl, [], by simp, by simp⟩⟩
  refine wlp_mono _ _ (createLines_place allow db now draw request.learnerId lines keys _ rfl rfl
    (fun s l voucherId member applied reserving fresh => orders.reserves s l voucherId (priced l member) applied reserving fresh)
    lines (fun _ member => member) _ placed) ?_
  rintro _ s ⟨placing, reserved, _⟩
  refine wlp_mono _ s (retainLines_store draw cart _ s) ?_
  rintro _ t ⟨carts, rfl⟩
  refine wlp_mono _ _ (updateCart_store cart.id _ _) ?_
  rintro _ t ⟨carts', rfl⟩
  have path := placing.path.tail (.routine _ _ (cartsBeside s carts'))
  have later := writes_keys db _ keys (transitions_writes allow db _ path)
  refine wlp_mono _ _ (confirmIfFree_transitions allow now draw request.learnerId { s with carts := carts' } later _ lines ?_
    reserved (fun l _ voucherId _ => orders.uses voucherId) gifts) ?_
  · intro x found
    exact found_awaiting allow db draw keys _ rfl rfl s placing x found
  · intro _ u confirmed
    simp only [wlp_get, wlp_orThrow]
    exact fun _ _ => writes_trans _ _ _ path confirmed

-- The price of the cart a request selects, as the transaction works it out: the vouchers cover all of it.
def freeCheckout (now : Instant) (request : CheckoutRequest) (db : CommerceDb) : Bool :=
  match activeCart db request.learnerId with
  | none => false
  | some cart =>
      match priceLines now request cart (cart.lines.filter (isSelected db cart request)) db with
      | .error _ => false
      | .ok (lines, _) => total (fun l => l.listPrice) lines - total (fun l => l.discount) lines = 0

theorem checkoutCart_transitions (owned : Uuid → Bool) (db : CommerceDb) (keys : Keys db)
    (orders : Orders allow now draw request db) (gifts : freeCheckout now request db = true → allow.gifts) :
    Wlp (checkoutCart now draw request owned) (fun _ t => Writes (Transition allow) db t) db := by
  simp only [checkoutCart, wlp_bind, wlp_get, wlp_orThrow, wlp_require]
  intro cart found _ _ _ _ lines t ok
  obtain ⟨rfl, _, priced⟩ := priceLines_reads db now request cart _ lines t ok
  refine createPricedOrder_transitions allow now draw request _ keys cart _ lines priced orders ?_
  intro free
  refine gifts ?_
  obtain ⟨active, _⟩ := Option.filter_eq_some_iff.mp found
  unfold freeCheckout
  rw [active]
  simp only [ok]
  exact decide_eq_true free

theorem createOrderTransaction_transitions (owned : Uuid → Bool) (db : CommerceDb) (keys : Keys db)
    (orders : ∀ rows, Orders allow now draw request { db with idempotency := rows })
    (gifts : ∀ rows, freeCheckout now request { db with idempotency := rows } = true → allow.gifts) :
    Wlp (createOrderTransaction now draw request owned) (fun _ t => Writes (Transition allow) db t) db := by
  simp only [createOrderTransaction, wlp_bind, wlp_get]
  split
  · simp only [resolveExisting, wlp_bind, wlp_require, wlp_get, wlp_orThrow]
    exact fun _ _ _ => writes_refl db
  · rw [wlp_bind]
    refine wlp_mono _ db (recordIdempotency_store _ db) ?_
    rintro _ s ⟨rows, rfl⟩
    have recorded := @idempotencyBeside allow.scope db rows
    refine wlp_mono _ _ (checkoutCart_transitions allow now draw request owned _
      (write_keys _ _ (.routine _ _ recorded) keys) (orders rows) (gifts rows)) ?_
    intro _ t written
    exact writes_trans _ _ _ (writes_one _ _ (.routine _ _ recorded)) written

end Creation

section Memberships

theorem createCheckoutTransaction_writes (draw : MembershipDraw) (offer : MembershipOffer) (db : CommerceDb) (keys : Keys db) :
    Wlp (createCheckoutTransaction draw offer) (fun _ t => Writes (RoutineWrite scope) db t) db := by
  simp only [createCheckoutTransaction, wlp_bind, wlp_get]
  split
  · rw [wlp_require]
    exact fun _ => writes_refl db
  · rw [wlp_bind]
    refine wlp_mono _ db (recordIdempotency_store _ db) ?_
    rintro _ s ⟨rows, rfl⟩
    simp only [createMembershipOrder, wlp_bind, wlp_require, wlp_insertOrder, wlp_insertIntent, wlp_insertOrderLine]
    intro _ _ order o intent o' line
    have ordered := (writes_one _ _ (@idempotencyBeside scope db rows)).tail (.order _ _ order)
    have later := writes_keys db _ keys (writes_mono (fun _ _ w => Write.routine _ _ w) _ _ ordered)
    have isPending : ∀ x, orderById { db with orders := db.orders ++ [membershipOrder draw offer] } draw.orderId = some x →
        x.status = .pendingPayment := by
      intro x found
      obtain ⟨member, named⟩ := orderById_some _ _ x found
      rw [order_same _ later x (membershipOrder draw offer) member (List.mem_append_right _ (by simp)) named]
      rfl
    exact (ordered.tail (.intent _ _ o intent (isPending o intent.order))).tail
      (.line _ _ o' line (isPending o' line.order))

end Memberships

section Redemptions

variable (allow : Allowance) (now : Instant) (request : RedeemRequest)

def Redeems (db : CommerceDb) : Prop :=
  ∀ v row, v ∈ db.vouchers → row.voucherId = v.id → row.userId = request.userId → WithinLimits db now request.userId v →
    allow.redeems db row

theorem redeem_transitions (db : CommerceDb) (allowed : Redeems allow now request db) :
    Wlp (redeem now request) (fun _ t => Writes (Transition allow) db t) db := by
  simp only [redeem, wlp_bind, wlp_get, wlp_orThrow]
  intro v found
  split
  · simp only [wlp_bind, wlp_require, wlp_pure]
    exact fun _ => writes_refl db
  · simp only [redeemFresh, wlp_bind, wlp_get, wlp_orThrow, wlp_require, wlp_insertRedemption, wlp_incrementRedeemed, wlp_pure]
    intro c _ eligible v' fits v'' _
    obtain ⟨usage, perUser⟩ := evaluate_eligible db now v _ _ _ _ _ _ eligible
    exact writes_one _ _ (.redeemed db _ v' fits
      (allowed v _ (find_some _ db.vouchers v found).1 rfl rfl ⟨usage, perUser⟩))

end Redemptions

end EduAi.Payments
