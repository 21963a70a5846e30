import EduAi.Commerce.Acceptance
import EduAi.Store.Quotas

set_option autoImplicit false

namespace EduAi.Commerce

open EduAi.Store EduAi.Gds EduAi.Payments

-- The ids drawn for an order are uuids that no stored row carries or names, another one for each of its lines.
structure FreshDraw (db : CommerceDb) (draw : OrderDraw) (ids : List Uuid) : Prop where
  order : ∀ o ∈ db.orders, o.id ≠ draw.orderId
  orderLines : ∀ l ∈ db.lines, l.orderId ≠ draw.orderId
  orderReservations : ∀ r ∈ db.reservations, r.orderId ≠ draw.orderId
  orderSettlements : ∀ s ∈ db.settlements, s.orderId ≠ draw.orderId
  settlement : ∀ s ∈ db.settlements, s.id ≠ draw.settlementId
  text : ∀ id ∈ ids, uuidText (draw.lineId id) = true
  line : ∀ id ∈ ids, ∀ l ∈ db.lines, l.id ≠ draw.lineId id
  lineBenefits : ∀ id ∈ ids, ∀ b ∈ db.benefits, b.orderLineId ≠ draw.lineId id
  reservation : ∀ id ∈ ids, ∀ r ∈ db.reservations, r.id ≠ draw.reservationId id
  reservationBenefits : ∀ id ∈ ids, ∀ b ∈ db.benefits, b.reservationId ≠ draw.reservationId id
  redemption : ∀ id ∈ ids, ∀ r ∈ db.redemptions, r.redemptionKey ≠ draw.operationId (draw.reservationId id)
  lines : (ids.map draw.lineId).Nodup
  reservations : (ids.map draw.reservationId).Nodup
  operations : (ids.map (fun id => draw.operationId (draw.reservationId id))).Nodup

-- What the trigger of commerce_promotion_reservations asks of the voucher of a reservation made now.
def Current (db : CommerceDb) (now : Instant) (voucherId : Uuid) : Prop :=
  ∃ v ∈ db.vouchers, v.id = voucherId ∧ v.status = .active ∧ v.currency = "VND" ∧ v.startsAt ≤ now ∧ now < v.endsAt

structure Placeable (db : CommerceDb) (now : Instant) (lines : List PricedLine) : Prop where
  filled : lines ≠ []
  amounts : ∀ l ∈ lines, 0 ≤ l.discount ∧ l.discount ≤ l.listPrice
  unapplied : ∀ l ∈ lines, l.voucherId = none → l.discount = 0
  current : ∀ l ∈ lines, ∀ id, l.voucherId = some id → Current db now id
  once : (lines.filterMap (fun l => l.voucherId)).Nodup

def newReservations (now : Instant) (draw : OrderDraw) (learnerId : Uuid) (lines : List PricedLine) :
    List CommercePromotionReservation :=
  lines.filterMap (fun l => l.voucherId.map (voucherReservation now draw learnerId l))

def newBenefits (draw : OrderDraw) (lines : List PricedLine) : List CommerceOrderLineBenefit :=
  lines.filterMap (fun l => l.voucherId.map (voucherBenefit draw l))

def withLines (db : CommerceDb) (now : Instant) (draw : OrderDraw) (o : CommerceOrder) (lines : List PricedLine) : CommerceDb :=
  { db with
    orders := db.orders ++ [o]
    lines := db.lines ++ lines.map (orderLine draw)
    reservations := db.reservations ++ newReservations now draw o.buyerId lines
    benefits := db.benefits ++ newBenefits draw lines }

section Rows

variable (db : CommerceDb) (now : Instant) (draw : OrderDraw) (o : CommerceOrder) (done : List PricedLine) (x : PricedLine)

theorem mem_newReservations (learnerId : Uuid) (r : CommercePromotionReservation) :
    r ∈ newReservations now draw learnerId done ↔
      ∃ y ∈ done, ∃ id, y.voucherId = some id ∧ voucherReservation now draw learnerId y id = r := by
  simp [newReservations, Option.map_eq_some_iff]

theorem mem_newBenefits (b : CommerceOrderLineBenefit) :
    b ∈ newBenefits draw done ↔ ∃ y ∈ done, ∃ id, y.voucherId = some id ∧ voucherBenefit draw y id = b := by
  simp [newBenefits, Option.map_eq_some_iff]

-- The store between the line and its reservation.
def withLine : CommerceDb :=
  { withLines db now draw o done with lines := (withLines db now draw o done).lines ++ [orderLine draw x] }

theorem withLines_snoc : withLines db now draw o (done ++ [x]) =
    { withLine db now draw o done x with
      reservations := db.reservations ++ newReservations now draw o.buyerId done ++ newReservations now draw o.buyerId [x]
      benefits := db.benefits ++ newBenefits draw done ++ newBenefits draw [x] } := by
  simp only [withLine, withLines, newReservations, newBenefits, List.map_append, List.map_cons, List.map_nil, List.filterMap_append,
    List.append_assoc]

end Rows

section Lines

variable {db : CommerceDb} {now : Instant} {draw : OrderDraw} {o : CommerceOrder} {lines : List PricedLine}
variable (fresh : FreshDraw db draw (lines.map (fun l => l.id)))

include fresh

theorem lines_distinct : (lines.map (fun l => draw.lineId l.id)).Nodup := by
  have distinct := fresh.lines
  rw [List.map_map] at distinct
  exact distinct

theorem reservations_distinct : (lines.map (fun l => draw.reservationId l.id)).Nodup := by
  have distinct := fresh.reservations
  rw [List.map_map] at distinct
  exact distinct

theorem operations_distinct : (lines.map (fun l => draw.operationId (draw.reservationId l.id))).Nodup := by
  have distinct := fresh.operations
  rw [List.map_map] at distinct
  exact distinct

variable (named : o.id = draw.orderId) (currency : o.currency = "VND") (placeable : Placeable db now lines)
variable (done rest : List PricedLine) (x : PricedLine) (split : lines = done ++ x :: rest)

include named in
theorem placed_order (now : Instant) (done : List PricedLine) : orderById (withLines db now draw o done) draw.orderId = some o :=
  find_append_fresh _ db.orders o (fun y member => decide_eq_false (fresh.order y member)) (decide_eq_true named)

include split in
theorem new_line : ∀ l ∈ db.lines ++ done.map (orderLine draw), l.id ≠ draw.lineId x.id := by
  intro l member same
  have inLines : x ∈ lines := by simp [split]
  rcases List.mem_append.mp member with old | new
  · exact fresh.line x.id (List.mem_map_of_mem inLines) l old same
  · obtain ⟨y, inDone, rfl⟩ := List.mem_map.mp new
    exact split_distinct (fun l : PricedLine => draw.lineId l.id) lines done rest x (lines_distinct fresh) split y inDone same

include named currency placeable split in
theorem orderLine_fits : LineFits (withLines db now draw o done) (orderLine draw x) o := by
  have inLines : x ∈ lines := by simp [split]
  obtain ⟨lower, upper⟩ := placeable.amounts x inLines
  refine ⟨fresh.text x.id (List.mem_map_of_mem inLines), placed_order fresh named now done, currency.symm, ?_, ?_⟩
  · exact ⟨lower.trans upper, lower, upper, rfl⟩
  · rw [free_iff]
    intro l member k mine theirs
    exact new_line fresh done rest x split l member ((Option.some.inj theirs).trans (Option.some.inj mine).symm)

include split in
theorem new_reservation : ∀ r ∈ db.reservations ++ newReservations now draw o.buyerId done, r.id ≠ draw.reservationId x.id := by
  intro r member same
  have inLines : x ∈ lines := by simp [split]
  rcases List.mem_append.mp member with old | new
  · exact fresh.reservation x.id (List.mem_map_of_mem inLines) r old same
  · obtain ⟨y, inDone, id, _, rfl⟩ := (mem_newReservations now draw done o.buyerId r).mp new
    exact split_distinct (fun l : PricedLine => draw.reservationId l.id) lines done rest x (reservations_distinct fresh) split y
      inDone same

include placeable split in
theorem new_voucher (id : Uuid) (applied : x.voucherId = some id) : free voucherOfOrder
    (voucherReservation now draw o.buyerId x id) (db.reservations ++ newReservations now draw o.buyerId done) = true := by
  rw [free_iff]
  intro r member k mine theirs
  obtain rfl : (draw.orderId, id) = k := Option.some.inj mine
  rcases List.mem_append.mp member with old | new
  · unfold voucherOfOrder at theirs
    split at theirs
    · obtain ⟨v, _, same⟩ := Option.map_eq_some_iff.mp theirs
      exact fresh.orderReservations r old (congrArg Prod.fst same)
    · cases theirs
  · obtain ⟨y, inDone, other, applied', rfl⟩ := (mem_newReservations now draw done o.buyerId r).mp new
    have same : other = id := congrArg Prod.snd (Option.some.inj theirs)
    have once := placeable.once
    rw [split, List.filterMap_append, List.nodup_append] at once
    exact once.2.2 other (List.mem_filterMap.mpr ⟨y, inDone, applied'⟩) id (List.mem_filterMap.mpr ⟨x, by simp, applied⟩) same

include named placeable split in
theorem reservation_fits (id : Uuid) (applied : x.voucherId = some id) :
    ReservationFits (withLine db now draw o done x) (voucherReservation now draw o.buyerId x id) o (orderLine draw x) := by
  have inLines : x ∈ lines := by simp [split]
  refine ⟨⟨rfl, rfl⟩, placed_order fresh named now done, ?_, ⟨rfl, rfl⟩, ?_, .inl ⟨rfl, rfl, rfl⟩, ?_, ?_, ?_⟩
  · exact find_append_fresh _ _ (orderLine draw x)
      (fun l member => decide_eq_false (new_line fresh done rest x split l member)) (decide_eq_true rfl)
  · intro k same
    obtain rfl := Option.some.inj same
    exact placeable.current x inLines id applied
  · exact Int.lt_add_of_pos_right now (by decide)
  · rw [free_iff]
    intro r member k mine theirs
    exact new_reservation fresh done rest x split r member ((Option.some.inj theirs).trans (Option.some.inj mine).symm)
  · exact new_voucher fresh placeable done rest x split id applied

include placeable split in
theorem benefit_fits (id : Uuid) (s : CommerceDb) (sameBenefits : s.benefits = db.benefits ++ newBenefits draw done)
    (sameReservations : s.reservations =
      db.reservations ++ newReservations now draw o.buyerId done ++ [voucherReservation now draw o.buyerId x id]) :
    BenefitFits s (voucherBenefit draw x id) (voucherReservation now draw o.buyerId x id) := by
  have inLines : x ∈ lines := by simp [split]
  refine ⟨?_, ⟨rfl, rfl, rfl⟩, (placeable.amounts x inLines).1, ?_⟩
  · rw [sameReservations]
    exact find_append_fresh _ _ _ (fun r member => decide_eq_false (new_reservation fresh done rest x split r member))
      (decide_eq_true rfl)
  · rw [sameBenefits, free_iff]
    intro b member k mine theirs
    have same := (Option.some.inj theirs).trans (Option.some.inj mine).symm
    rcases List.mem_append.mp member with old | new
    · exact fresh.reservationBenefits x.id (List.mem_map_of_mem inLines) b old same
    · obtain ⟨y, inDone, other, _, rfl⟩ := (mem_newBenefits draw done b).mp new
      exact split_distinct (fun l : PricedLine => draw.reservationId l.id) lines done rest x (reservations_distinct fresh) split y
        inDone same

include named currency placeable split in
theorem createLine_writes : Wp (createLine now draw o.buyerId x) (fun _ u => u = withLines db now draw o (done ++ [x]))
    (withLines db now draw o done) := by
  unfold createLine
  rw [wp_bind, wp_insertOrderLine]
  refine ⟨o, orderLine_fits fresh named currency placeable done rest x split, ?_⟩
  unfold reserveVoucher
  cases applied : x.voucherId with
  | none =>
      dsimp only
      rw [wp_pure, withLines_snoc]
      simp only [newReservations, newBenefits, applied, List.filterMap_cons, List.filterMap_nil, Option.map_none, List.append_nil]
      rfl
  | some id =>
      dsimp only
      rw [wp_bind, wp_insertReservation]
      refine ⟨o, orderLine draw x, reservation_fits fresh named placeable done rest x split id applied, ?_⟩
      rw [wp_insertBenefit]
      refine ⟨_, benefit_fits fresh placeable done rest x split id _ rfl rfl, ?_⟩
      rw [withLines_snoc]
      simp only [newReservations, newBenefits, applied, List.filterMap_cons, List.filterMap_nil, Option.map_some]
      rfl

end Lines

theorem createLines_write (db : CommerceDb) (now : Instant) (draw : OrderDraw) (o : CommerceOrder) (lines : List PricedLine)
    (fresh : FreshDraw db draw (lines.map (fun l => l.id))) (named : o.id = draw.orderId) (currency : o.currency = "VND")
    (placeable : Placeable db now lines) : Wp (lines.forM (createLine now draw o.buyerId))
      (fun _ u => u = withLines db now draw o lines) { db with orders := db.orders ++ [o] } := by
  have placed := wp_inserts (createLine now draw o.buyerId) (withLines db now draw o) lines
    (fun done x rest split => createLine_writes fresh named currency placeable done rest x split)
  have start : withLines db now draw o [] = { db with orders := db.orders ++ [o] } := by
    unfold withLines newReservations newBenefits
    simp
  rw [start] at placed
  exact placed

def convertedCarts (db : CommerceDb) (cart : CommerceCart) : List CommerceCart :=
  updateWhere (fun c => c.id = cart.id) (fun c => { c with status := .converted }) db.carts

-- What a new order leaves, as far as the triggers deferred to the commit look at it.
structure Placed (db : CommerceDb) (draw : OrderDraw) (cart : CommerceCart) (o : CommerceOrder) (lines : List PricedLine)
    (t : CommerceDb) : Prop where
  carts : t.carts = convertedCarts db cart
  orders : t.orders = db.orders ++ [o]
  rows : t.lines = db.lines ++ lines.map (orderLine draw)
  benefits : t.benefits = db.benefits ++ newBenefits draw lines
  kept : t.refunds = db.refunds ∧ t.attempts = db.attempts ∧ t.cases = db.cases
  consumed : o.status = .confirmed → ∀ b ∈ newBenefits draw lines, ∃ r ∈ t.reservations, consumesBenefit b r = true

section Usage

variable (s : CommerceDb) (now : Instant) (draw : OrderDraw) (learnerId : Uuid) (lines : List PricedLine)

-- The usage of the first lines is recorded: the rows that the rest of them still need.
structure Consuming (rest : List PricedLine) (u : CommerceDb) : Prop where
  frame : { u with reservations := s.reservations, redemptions := s.redemptions, vouchers := s.vouchers } = s
  order : ∃ o ∈ u.orders, o.id = draw.orderId ∧ o.status = .confirmed
  waiting : ∀ l ∈ rest, ∀ id, l.voucherId = some id →
    u.reservations.find? (fun r => r.id = draw.reservationId l.id) = some (voucherReservation now draw learnerId l id)
  keys : ∀ l ∈ rest, ∀ r ∈ u.redemptions, r.redemptionKey ≠ draw.operationId (draw.reservationId l.id)
  vouchers : ∀ l ∈ rest, ∀ id, l.voucherId = some id → ∃ v, voucherById u id = some v
  consumed : ∀ b ∈ newBenefits draw lines, b ∈ newBenefits draw rest ∨ ∃ r ∈ u.reservations, consumesBenefit b r = true
  reservationIds : (rest.map (fun l => draw.reservationId l.id)).Nodup
  operationIds : (rest.map (fun l => draw.operationId (draw.reservationId l.id))).Nodup

theorem consumed_kept (b : CommerceOrderLineBenefit) (id operationId : Uuid) (rows : List CommercePromotionReservation)
    (consumed : ∃ r ∈ rows, consumesBenefit b r = true) :
    ∃ r ∈ updateWhere (fun r => r.id = id) (ReservationPatch.consume operationId).apply rows, consumesBenefit b r = true := by
  obtain ⟨r, member, consumes⟩ := consumed
  refine ⟨_, (mem_updateWhere _ _ _ _).mpr ⟨r, member, rfl⟩, ?_⟩
  split
  · obtain ⟨line, kind, source, _⟩ := of_decide_eq_true consumes
    exact decide_eq_true ⟨line, kind, source, rfl⟩
  · exact consumes

theorem consumeUsage_keeps (x : PricedLine) (rest : List PricedLine) (u : CommerceDb)
    (consuming : Consuming s now draw learnerId lines (x :: rest) u) :
    Wp (consumeUsage draw learnerId x) (fun _ t => Consuming s now draw learnerId lines rest t) u := by
  obtain ⟨reservationId, reservationIds⟩ := List.nodup_cons.mp consuming.reservationIds
  obtain ⟨operationId, operationIds⟩ := List.nodup_cons.mp consuming.operationIds
  have others : ∀ l ∈ rest, draw.reservationId l.id ≠ draw.reservationId x.id :=
    fun l member same => reservationId (List.mem_map.mpr ⟨l, member, same⟩)
  unfold consumeUsage
  cases applied : x.voucherId with
  | none =>
      dsimp only
      rw [wp_pure]
      have same : newBenefits draw (x :: rest) = newBenefits draw rest := by
        unfold newBenefits
        rw [List.filterMap_cons_none (by rw [applied]; rfl)]
      exact ⟨consuming.frame, consuming.order, (fun l member => consuming.waiting l (by simp [member])),
        (fun l member => consuming.keys l (by simp [member])), (fun l member => consuming.vouchers l (by simp [member])),
        same ▸ consuming.consumed, reservationIds, operationIds⟩
  | some id =>
      obtain ⟨v, stored⟩ := consuming.vouchers x (by simp) id applied
      have reserved := consuming.waiting x (by simp) id applied
      dsimp only
      rw [wp_bind, wp_updateReservation]
      refine ⟨_, ⟨reserved, rfl, fun _ => consuming.order⟩, ?_⟩
      rw [wp_bind, wp_insertRedemption]
      refine ⟨v, ⟨stored, ?_⟩, ?_⟩
      · rw [free_iff]
        intro r member k mine theirs
        have same := (Option.some.inj theirs).trans (Option.some.inj mine).symm
        exact consuming.keys x (by simp) r member (congrArg (fun key => key.2.2) same)
      · simp only [incrementRedeemed, wp_bind, wp_get, wp_orThrow, wp_modify]
        refine ⟨v, stored, ?_⟩
        refine ⟨consuming.frame, consuming.order, ?_, ?_, ?_, ?_, reservationIds, operationIds⟩
        · intro l member k applied'
          refine (find_updateWhere _ _ _ u.reservations ?_).trans ?_
          · exact fun r _ => rfl
          rw [consuming.waiting l (by simp [member]) k applied', Option.map_some]
          exact congrArg some (if_neg (fun same => others l member (of_decide_eq_true same)))
        · intro l member r stored' same
          rcases List.mem_append.mp stored' with old | new
          · exact consuming.keys l (by simp [member]) r old same
          · obtain rfl := List.mem_singleton.mp new
            exact operationId (List.mem_map.mpr ⟨l, member, same.symm⟩)
        · intro l member k applied'
          obtain ⟨w, found⟩ := consuming.vouchers l (by simp [member]) k applied'
          have still := find_updateWhere (fun v => v.id = id) (fun v => v.id = k) countRedeemed u.vouchers (fun v _ => rfl)
          rw [show u.vouchers.find? (fun v => v.id = k) = some w from found] at still
          exact ⟨_, still⟩
        · intro b asked
          rcases consuming.consumed b asked with waiting | consumed
          · unfold newBenefits at waiting
            rw [List.filterMap_cons_some (b := voucherBenefit draw x id) (by rw [applied]; rfl)] at waiting
            rcases List.mem_cons.mp waiting with rfl | later
            · obtain ⟨member, own⟩ := find_some _ _ _ reserved
              exact .inr ⟨_, (mem_updateWhere _ _ _ _).mpr ⟨_, member, (if_pos own).symm⟩, decide_eq_true ⟨rfl, rfl, rfl, rfl⟩⟩
            · exact .inl later
          · exact .inr (consumed_kept b _ _ _ consumed)

end Usage

section Confirmation

variable {db : CommerceDb} {now : Instant} {draw : OrderDraw} {o : CommerceOrder} {lines : List PricedLine}
variable (fresh : FreshDraw db draw (lines.map (fun l => l.id))) (named : o.id = draw.orderId) (currency : o.currency = "VND")
variable (awaiting : o.status = .pendingPayment ∧ o.fulfillmentStatus = .notStarted)
variable (unconfirmed : o.confirmedAt = none ∧ o.confirmedSettlementId = none)
variable (carts : List CommerceCart)

include fresh in
theorem reservation_waits (l : PricedLine) (member : l ∈ lines) (id : Uuid) (applied : l.voucherId = some id) :
    (withLines db now draw o lines).reservations.find? (fun r => r.id = draw.reservationId l.id) =
      some (voucherReservation now draw o.buyerId l id) := by
  have nothing : db.reservations.find? (fun r => r.id = draw.reservationId l.id) = none := by
    rw [List.find?_eq_none]
    intro r stored same
    exact fresh.reservation l.id (List.mem_map_of_mem member) r stored (of_decide_eq_true same)
  obtain ⟨done, rest, split⟩ := List.append_of_mem member
  have before : (newReservations now draw o.buyerId done).find? (fun r => r.id = draw.reservationId l.id) = none := by
    rw [List.find?_eq_none]
    intro r new same
    obtain ⟨y, inDone, other, _, rfl⟩ := (mem_newReservations now draw done o.buyerId r).mp new
    exact split_distinct (fun l : PricedLine => draw.reservationId l.id) lines done rest l (reservations_distinct fresh) split y
      inDone (of_decide_eq_true same)
  show (db.reservations ++ newReservations now draw o.buyerId lines).find? _ = _
  rw [List.find?_append, nothing, split, newReservations, List.filterMap_append, List.find?_append]
  unfold newReservations at before
  rw [before, List.filterMap_cons_some (b := voucherReservation now draw o.buyerId l id) (by rw [applied]; rfl)]
  rw [Option.none_or, Option.none_or]
  have own : decide ((voucherReservation now draw o.buyerId l id).id = draw.reservationId l.id) = true := decide_eq_true rfl
  exact List.find?_cons_of_pos own

include fresh named currency in
theorem zeroSettlement_fits (free : o.payableAmountMinor = 0) :
    SettlementFits now { withLines db now draw o lines with carts } (zeroSettlement draw now) o := by
  refine ⟨placed_order fresh named now lines, ⟨free.symm, currency.symm⟩, decide_eq_true free, (fun bank => by cases bank),
    ?_, ?_, ?_, ?_, ?_, ?_⟩
  · unfold settlementShape
    simp [zeroSettlement]
  · rw [free_iff]
    intro s stored k mine theirs
    exact fresh.settlement s stored ((Option.some.inj theirs).trans (Option.some.inj mine).symm)
  · rw [free_iff]
    intro s stored k mine
    cases mine
  · rw [free_iff]
    intro s stored k mine
    cases mine
  · rw [free_iff]
    intro s stored k mine theirs
    unfold internalOrderKey at theirs
    split at theirs
    · exact fresh.orderSettlements s stored ((Option.some.inj theirs).trans (Option.some.inj mine).symm)
    · cases theirs
  · rw [free_iff]
    intro s stored k mine
    cases mine

include fresh named currency awaiting unconfirmed in
theorem confirm_moves (free : o.payableAmountMinor = 0) :
    OrderMoves { withLines db now draw o lines with carts, settlements := db.settlements ++ [zeroSettlement draw now] }
      draw.orderId (.confirm draw.settlementId now) o := by
  have settled : settlementById { withLines db now draw o lines with
      carts, settlements := db.settlements ++ [zeroSettlement draw now] } draw.settlementId = some (zeroSettlement draw now) :=
    find_append_fresh _ _ _ (fun s stored => decide_eq_false (fresh.settlement s stored)) (decide_eq_true rfl)
  refine ⟨placed_order fresh named now lines, ?_, ?_, .inl unconfirmed.2, .inr rfl, .inr ?_, .inl unconfirmed.1,
    fun _ => ⟨rfl, rfl⟩, .inl awaiting.2⟩
  · rw [awaiting.1]
    rfl
  · show fulfillmentTransition o.fulfillmentStatus o.fulfillmentStatus = true
    rw [awaiting.2]
    rfl
  · show (settlementById _ draw.settlementId).any _ = true
    rw [settled]
    exact decide_eq_true ⟨named.symm, free.symm, currency.symm, .inl ⟨rfl, rfl⟩⟩

include fresh named in
theorem confirmed_orders (patch : OrderPatch) : updateWhere (fun x => x.id = draw.orderId) patch.apply (db.orders ++ [o]) =
    db.orders ++ [patch.apply o] := by
  have old := updateWhere_of_none (fun x => x.id = draw.orderId) patch.apply db.orders
    (fun x stored => decide_eq_false (fresh.order x stored))
  unfold updateWhere at old ⊢
  rw [List.map_append, old, List.map_singleton, if_pos (decide_eq_true named)]

theorem current_stored (id : Uuid) (current : Current db now id) : ∃ v, voucherById db id = some v := by
  obtain ⟨v, stored, same, _⟩ := current
  exact Option.isSome_iff_exists.mp (List.find?_isSome.mpr ⟨v, stored, decide_eq_true same⟩)

-- The store of a confirmed order, before the usage of its vouchers is recorded.
def zeroConfirmed (db : CommerceDb) (now : Instant) (draw : OrderDraw) (o : CommerceOrder) (carts : List CommerceCart)
    (lines : List PricedLine) : CommerceDb :=
  { withLines db now draw o lines with
    carts
    settlements := db.settlements ++ [zeroSettlement draw now]
    orders := db.orders ++ [(OrderPatch.confirm draw.settlementId now).apply o] }

include fresh named in
theorem zeroConfirmed_consuming (placeable : Placeable db now lines) :
    Consuming (zeroConfirmed db now draw o carts lines) now draw o.buyerId lines lines
      (zeroConfirmed db now draw o carts lines) where
  frame := rfl
  order := ⟨(OrderPatch.confirm draw.settlementId now).apply o, List.mem_append_right _ (List.mem_singleton.mpr rfl), named, rfl⟩
  waiting := reservation_waits fresh
  keys := fun l member => fresh.redemption l.id (List.mem_map_of_mem member)
  vouchers := fun l member id applied => current_stored id (placeable.current l member id applied)
  consumed := fun _ asked => .inl asked
  reservationIds := reservations_distinct fresh
  operationIds := operations_distinct fresh

include fresh named currency awaiting unconfirmed in
theorem confirmZeroPayableOrder_places (cart : CommerceCart) (placeable : Placeable db now lines) (free : o.payableAmountMinor = 0) :
    Wp (confirmZeroPayableOrder now draw o.buyerId lines)
      (fun _ t => Placed db draw cart ((OrderPatch.confirm draw.settlementId now).apply o) lines t)
      { withLines db now draw o lines with carts := convertedCarts db cart } := by
  unfold confirmZeroPayableOrder
  rw [wp_bind, wp_insertSettlement]
  refine ⟨o, zeroSettlement_fits fresh named currency _ free, ?_⟩
  rw [wp_bind, wp_updateOrder]
  refine ⟨o, confirm_moves fresh named currency awaiting unconfirmed _ free, ?_⟩
  have moved := confirmed_orders fresh named (.confirm draw.settlementId now)
  show Wp _ _ { withLines db now draw o lines with
    carts := convertedCarts db cart
    settlements := db.settlements ++ [zeroSettlement draw now]
    orders := updateWhere (fun x => x.id = draw.orderId) (OrderPatch.confirm draw.settlementId now).apply (db.orders ++ [o]) }
  rw [moved]
  refine wp_mono _ _ (wp_forM (consumeUsage draw o.buyerId)
    (Consuming (zeroConfirmed db now draw o (convertedCarts db cart) lines) now draw o.buyerId lines) lines _
    (consumeUsage_keeps _ now draw o.buyerId lines) (zeroConfirmed_consuming fresh named _ placeable)) ?_
  intro _ t consumed
  have frame : ∀ {α : Type} (f : CommerceDb → α), f { t with
      reservations := (zeroConfirmed db now draw o (convertedCarts db cart) lines).reservations
      redemptions := (zeroConfirmed db now draw o (convertedCarts db cart) lines).redemptions
      vouchers := (zeroConfirmed db now draw o (convertedCarts db cart) lines).vouchers } =
      f (zeroConfirmed db now draw o (convertedCarts db cart) lines) := fun f => congrArg f consumed.frame
  refine ⟨frame (fun u => u.carts), frame (fun u => u.orders), frame (fun u => u.lines), frame (fun u => u.benefits),
    ⟨frame (fun u => u.refunds), frame (fun u => u.attempts), frame (fun u => u.cases)⟩, ?_⟩
  intro _ b asked
  rcases consumed.consumed b asked with waiting | used
  · cases waiting
  · exact used

end Confirmation

section Creation

variable {db : CommerceDb} {now : Instant} {draw : OrderDraw} {request : CheckoutRequest} {cart : CommerceCart}
variable {selected : List CommerceCartLine} {lines : List PricedLine}

-- The cart of a new order: active, in VND, its owner's, and no order's yet.
structure CartOpen (db : CommerceDb) (learnerId : Uuid) (cart : CommerceCart) : Prop where
  stored : cart ∈ db.carts
  owner : cart.buyerId = learnerId
  active : cart.status = .active
  currency : cart.currency = "VND"
  unordered : ∀ o ∈ db.orders, o.cartId ≠ some cart.id

theorem pricedOrder_fits (fresh : FreshDraw db draw (lines.map (fun l => l.id))) (isOpen : CartOpen db request.learnerId cart)
    (placeable : Placeable db now lines) : OrderFits db (pricedOrder draw cart request lines) := by
  refine ⟨⟨rfl, rfl⟩, ?_, rfl, ⟨?_, ?_, ?_, rfl⟩, ⟨rfl, rfl⟩, ?_, ?_⟩
  · intro id same
    obtain rfl := Option.some.inj same
    exact ⟨cart, isOpen.stored, rfl, isOpen.owner, isOpen.currency, isOpen.active⟩
  · exact total_nonneg _ _ (fun l member => (placeable.amounts l member).1.trans (placeable.amounts l member).2)
  · exact total_nonneg _ _ (fun l member => (placeable.amounts l member).1)
  · exact total_mono _ _ _ (fun l member => (placeable.amounts l member).2)
  · rw [free_iff]
    intro o stored k mine theirs
    exact fresh.order o stored ((Option.some.inj theirs).trans (Option.some.inj mine).symm)
  · rw [free_iff]
    intro o stored k mine theirs
    obtain rfl := Option.some.inj mine
    exact isOpen.unordered o stored theirs

-- The order as it is stored: awaiting its payment, or confirmed at once when nothing is payable.
def StoredAs (now : Instant) (draw : OrderDraw) (o o' : CommerceOrder) : Prop :=
  o' = o ∨ (o.payableAmountMinor = 0 ∧ o' = (OrderPatch.confirm draw.settlementId now).apply o)

theorem createPricedOrder_places (fresh : FreshDraw db draw (lines.map (fun l => l.id)))
    (isOpen : CartOpen db request.learnerId cart) (placeable : Placeable db now lines)
    (whole : cart.lines.filter (fun l => l ∉ selected) = []) : Wp (createPricedOrder now draw request cart selected lines)
      (fun o t => StoredAs now draw (pricedOrder draw cart request lines) o ∧ Placed db draw cart o lines t) db := by
  unfold createPricedOrder
  rw [wp_bind, wp_insertOrder]
  refine ⟨pricedOrder_fits fresh isOpen placeable, ?_⟩
  rw [wp_bind]
  refine wp_mono _ _ (createLines_write db now draw (pricedOrder draw cart request lines) lines fresh rfl rfl placeable) ?_
  rintro _ s rfl
  rw [whole, wp_bind]
  unfold retainLines
  rw [if_pos rfl, wp_pure, wp_bind]
  have given : ∃ c, db.carts.find? (fun c => c.id = cart.id) = some c :=
    Option.isSome_iff_exists.mp (List.find?_isSome.mpr ⟨cart, isOpen.stored, decide_eq_true rfl⟩)
  obtain ⟨c, found⟩ := given
  simp only [updateCart, wp_bind, wp_get, wp_orThrow, wp_modify]
  refine ⟨c, found, ?_⟩
  unfold confirmIfFree
  split
  case isTrue free =>
      refine wp_mono _ _ (confirmZeroPayableOrder_places (o := pricedOrder draw cart request lines) fresh rfl rfl ⟨rfl, rfl⟩
        ⟨rfl, rfl⟩ cart placeable free) ?_
      intro _ t placed
      refine ⟨_, ?_, .inr ⟨free, rfl⟩, placed⟩
      unfold orderById
      rw [placed.orders]
      exact find_append_fresh _ _ _ (fun y member => decide_eq_false (fresh.order y member)) (decide_eq_true rfl)
  case isFalse payable =>
      rw [wp_pure]
      refine ⟨_, placed_order fresh rfl now lines, .inl rfl, rfl, rfl, rfl, rfl, ⟨rfl, rfl, rfl⟩, ?_⟩
      intro confirmed
      cases confirmed

end Creation

section Checks

variable {db t : CommerceDb} {now : Instant} {draw : OrderDraw} {request : CheckoutRequest} {cart : CommerceCart}
variable {o : CommerceOrder} {lines : List PricedLine}
variable (fresh : FreshDraw db draw (lines.map (fun l => l.id))) (placeable : Placeable db now lines)
variable (stored : StoredAs now draw (pricedOrder draw cart request lines) o) (placed : Placed db draw cart o lines t)

include stored in
theorem stored_snapshot : o.id = draw.orderId ∧ o.cartId = some cart.id ∧ o.buyerId = request.learnerId ∧ o.currency = "VND" ∧
    o.subtotalAmountMinor = total (fun l => l.listPrice) lines ∧ o.discountAmountMinor = total (fun l => l.discount) lines ∧
    o.payableAmountMinor = total (fun l => l.listPrice) lines - total (fun l => l.discount) lines := by
  rcases stored with rfl | ⟨_, rfl⟩
  · exact ⟨rfl, rfl, rfl, rfl, rfl, rfl, rfl⟩
  · exact ⟨rfl, rfl, rfl, rfl, rfl, rfl, rfl⟩

include placed in
theorem placed_line (l : CommerceOrderLine) (member : l ∈ t.lines) : l ∈ db.lines ∨ ∃ x ∈ lines, orderLine draw x = l := by
  rw [placed.rows] at member
  rcases List.mem_append.mp member with old | new
  · exact .inl old
  · exact .inr (List.mem_map.mp new)

include fresh placed in
theorem placed_linesOf : linesOf t draw.orderId = lines.map (orderLine draw) := by
  have old : db.lines.filter (fun l => l.orderId = draw.orderId) = [] := by
    rw [List.filter_eq_nil_iff]
    intro l member same
    exact fresh.orderLines l member (of_decide_eq_true same)
  have new : (lines.map (orderLine draw)).filter (fun l => l.orderId = draw.orderId) = lines.map (orderLine draw) := by
    rw [List.filter_eq_self]
    intro l member
    obtain ⟨x, _, rfl⟩ := List.mem_map.mp member
    exact decide_eq_true rfl
  unfold linesOf
  rw [placed.rows, List.filter_append, old, new, List.nil_append]

include fresh placed in
theorem placed_benefits (x : PricedLine) (member : x ∈ lines) :
    t.benefits.filter (fun b => b.orderLineId = draw.lineId x.id) = (x.voucherId.map (voucherBenefit draw x)).toList := by
  have old : db.benefits.filter (fun b => b.orderLineId = draw.lineId x.id) = [] := by
    rw [List.filter_eq_nil_iff]
    intro b kept same
    exact fresh.lineBenefits x.id (List.mem_map_of_mem member) b kept (of_decide_eq_true same)
  have own : ∀ y b, (y : PricedLine).voucherId.map (voucherBenefit draw y) = some b → b.orderLineId = draw.lineId y.id := by
    intro y b made
    obtain ⟨id, _, rfl⟩ := Option.map_eq_some_iff.mp made
    rfl
  have new := filter_filterMap_own (fun y : PricedLine => draw.lineId y.id) (fun b : CommerceOrderLineBenefit => b.orderLineId)
    (fun y => y.voucherId.map (voucherBenefit draw y)) lines own (lines_distinct fresh) x member
  rw [placed.benefits, List.filter_append, old, List.nil_append]
  exact new

include fresh placeable placed in
theorem placed_benefitTotals (x : PricedLine) (member : x ∈ lines) : benefitTotalsMatch t (orderLine draw x) = true := by
  refine decide_eq_true ?_
  have own := placed_benefits fresh placed x member
  show total _ (t.benefits.filter (fun b => b.orderLineId = draw.lineId x.id)) = x.discount
  rw [own]
  cases applied : x.voucherId with
  | none => exact (placeable.unapplied x member applied).symm
  | some id =>
      rw [Option.map_some, Option.toList_some, total_cons, total_nil, Int.add_zero]
      rfl

theorem total_finalPrice (rows : List PricedLine) :
    total (fun l => l.finalPrice) rows = total (fun l => l.listPrice) rows - total (fun l => l.discount) rows := by
  have parts := total_add rows (fun l => l.finalPrice) (fun l => l.discount)
  have whole := total_congr (fun l : PricedLine => l.finalPrice + l.discount) (fun l => l.listPrice) rows
    (fun l _ => Int.sub_add_cancel l.listPrice l.discount)
  omega

include fresh placeable stored placed in
theorem placed_totals : orderTotalsMatch t o = true := by
  obtain ⟨named, _, _, _, subtotal, discount, payable⟩ := stored_snapshot stored
  refine decide_eq_true ?_
  rw [named, placed_linesOf fresh placed, subtotal, discount, payable, total_map, total_map, total_map]
  refine ⟨?_, rfl, rfl, total_finalPrice lines⟩
  intro none
  exact placeable.filled (List.map_eq_nil_iff.mp none)

include placed in
theorem placed_order_new (x : CommerceOrder) (member : x ∈ t.orders) (new : x ∉ db.orders) : x = o := by
  rw [placed.orders] at member
  rcases List.mem_append.mp member with old | last
  · exact absurd old new
  · exact List.mem_singleton.mp last

include placed in
theorem placed_benefit_new (b : CommerceOrderLineBenefit) (member : b ∈ t.benefits) :
    b ∈ db.benefits ∨ b ∈ newBenefits draw lines := by
  rw [placed.benefits] at member
  exact List.mem_append.mp member

include fresh placeable placed in
theorem placed_benefit_line (b : CommerceOrderLineBenefit) (member : b ∈ t.benefits) (new : b ∉ db.benefits)
    (l : CommerceOrderLine) (inLines : l ∈ t.lines) (same : l.id = b.orderLineId) : benefitTotalsMatch t l = true := by
  rcases placed_benefit_new placed b member with old | made
  · exact absurd old new
  · obtain ⟨x, inRows, id, _, rfl⟩ := (mem_newBenefits draw lines b).mp made
    rcases placed_line placed l inLines with old | ⟨y, inRows', rfl⟩
    · exact absurd same (fresh.line x.id (List.mem_map_of_mem inRows) l old)
    · exact placed_benefitTotals fresh placeable placed y inRows'

include fresh stored placed in
theorem placed_consumed : benefitsConsumed t o = true := by
  obtain ⟨named, _⟩ := stored_snapshot stored
  refine decide_eq_true ?_
  rintro confirmed b member ⟨l, inLines, same, own⟩
  rcases placed_benefit_new placed b member with old | made
  · rcases placed_line placed l inLines with before | ⟨x, inRows, rfl⟩
    · exact absurd (own.trans named) (fresh.orderLines l before)
    · exact absurd same.symm (fresh.lineBenefits x.id (List.mem_map_of_mem inRows) b old)
  · exact placed.consumed confirmed b made

include stored placed in
theorem placed_cart (ids : UniqueKey (fun c => some c.id) db.carts) (isOpen : CartOpen db request.learnerId cart)
    (c : CommerceCart) (member : c ∈ t.carts) (new : c ∉ db.carts) : convertedCartOrdered t c = true := by
  obtain ⟨_, ordered, buyer, currency, _⟩ := stored_snapshot stored
  rw [placed.carts] at member
  obtain ⟨old, kept, rfl⟩ := (mem_updateWhere _ _ _ _).mp member
  split at new
  case isFalse => exact absurd kept new
  case isTrue own =>
      have same : old = cart := unique_eq _ _ ids old cart cart.id kept isOpen.stored (congrArg some (of_decide_eq_true own)) rfl
      subst same
      rw [if_pos own]
      refine decide_eq_true (fun _ => ⟨o, ?_, ordered, buyer.trans isOpen.owner.symm, currency.trans isOpen.currency.symm⟩)
      rw [placed.orders]
      exact List.mem_append_right _ (List.mem_singleton.mpr rfl)

include fresh placeable stored placed in
theorem placed_passes (ids : UniqueKey (fun c => some c.id) db.carts) (isOpen : CartOpen db request.learnerId cart) :
    Wp (deferredChecks db t) (fun _ u => u = t) t := by
  obtain ⟨refunds, attempts, cases⟩ := placed.kept
  simp only [deferredChecks, wp_bind, wp_require]
  refine ⟨placed_cart stored placed ids isOpen, ?_, ?_, ?_, ?_, ?_, ?_, ?_, ?_, trivial⟩
  · intro x member new
    rw [placed_order_new placed x member new]
    exact placed_totals fresh placeable stored placed
  · intro l member new
    rcases placed_line placed l member with old | ⟨x, inRows, rfl⟩
    · exact absurd old new
    · exact placed_benefitTotals fresh placeable placed x inRows
  · exact placed_benefit_line fresh placeable placed
  · exact fun r member new => absurd (refunds ▸ member) new
  · exact fun r member new => absurd (refunds ▸ member) new
  · exact fun a member new => absurd (attempts ▸ member) new
  · exact fun c member new => absurd (cases ▸ member) new
  · intro x member new
    rw [placed_order_new placed x member new]
    exact placed_consumed fresh stored placed

end Checks

end EduAi.Commerce
