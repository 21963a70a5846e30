import EduAi.Commerce.PlacedOrder

set_option autoImplicit false

namespace EduAi.Commerce

open EduAi.Store EduAi.Gds EduAi.Payments

-- A failure of the database is no answer of the validation.
abbrev Fails {α : Type} (m : CommerceTxn α) : Prop :=
  Throws (fun fault => rejection fault = false) m

section Failures

theorem fails_raised (p : Prop) [Decidable p] (message : String) : Fails (require p (.raised message)) :=
  throws_require p _ rfl

theorem fails_check (p : Prop) [Decidable p] (name : String) : Fails (require p (.check name)) :=
  throws_require p _ rfl

theorem fails_unique (p : Prop) [Decidable p] (name : String) : Fails (require p (.unique name)) :=
  throws_require p _ rfl

theorem fails_foreignKey {α : Type} (o : Option α) (name : String) : Fails (orThrow o (.foreignKey name)) :=
  throws_orThrow o _ rfl

theorem fails_missingRow {α : Type} (o : Option α) (table : String) : Fails (orThrow o (.missingRow table)) :=
  throws_orThrow o _ rfl

theorem insertOrder_fails (o : CommerceOrder) : Fails (insertOrder o) := by
  refine (throws_get _).bind (fun db => (fails_raised _ _).bind (fun _ => (fails_raised _ _).bind (fun _ => ?_)))
  refine (fails_check _ _).bind (fun _ => (fails_check _ _).bind (fun _ => (fails_check _ _).bind (fun _ => ?_)))
  exact (fails_unique _ _).bind (fun _ => (fails_unique _ _).bind (fun _ => throws_modify _ _))

theorem insertOrderLine_fails (l : CommerceOrderLine) : Fails (insertOrderLine l) := by
  refine (throws_get _).bind (fun db => (fails_check _ _).bind (fun _ => (fails_foreignKey _ _).bind (fun _ => ?_)))
  refine (fails_raised _ _).bind (fun _ => (fails_check _ _).bind (fun _ => ?_))
  exact (fails_unique _ _).bind (fun _ => throws_modify _ _)

theorem insertReservation_fails (r : CommercePromotionReservation) : Fails (insertReservation r) := by
  refine (throws_get _).bind (fun db => (fails_raised _ _).bind (fun _ => (fails_foreignKey _ _).bind (fun _ => ?_)))
  refine (fails_foreignKey _ _).bind (fun _ => (fails_raised _ _).bind (fun _ => (fails_raised _ _).bind (fun _ => ?_)))
  refine (fails_check _ _).bind (fun _ => (fails_check _ _).bind (fun _ => (fails_unique _ _).bind (fun _ => ?_)))
  exact (fails_unique _ _).bind (fun _ => throws_modify _ _)

theorem insertBenefit_fails (b : CommerceOrderLineBenefit) : Fails (insertBenefit b) := by
  refine (throws_get _).bind (fun db => (fails_foreignKey _ _).bind (fun _ => (fails_raised _ _).bind (fun _ => ?_)))
  exact (fails_check _ _).bind (fun _ => (fails_unique _ _).bind (fun _ => throws_modify _ _))

theorem createLine_fails (now : Instant) (draw : OrderDraw) (learnerId : Uuid) (l : PricedLine) :
    Fails (createLine now draw learnerId l) := by
  refine (insertOrderLine_fails _).bind (fun _ => ?_)
  unfold reserveVoucher
  split
  · exact throws_pure _ _
  · exact (insertReservation_fails _).bind (fun _ => insertBenefit_fails _)

theorem retainLines_fails (draw : OrderDraw) (cart : CommerceCart) (unselected : List CommerceCartLine) :
    Fails (retainLines draw cart unselected) := by
  unfold retainLines
  split
  · exact throws_pure _ _
  · refine Throws.bind ?_ (fun _ => (throws_get _).bind (fun db => (fails_missingRow _ _).bind (fun _ => throws_modify _ _)))
    refine (throws_get _).bind (fun db => (fails_raised _ _).bind (fun _ => (fails_check _ _).bind (fun _ => ?_)))
    exact (fails_unique _ _).bind (fun _ => (fails_unique _ _).bind (fun _ => throws_modify _ _))

theorem updateOrder_fails (id : Uuid) (patch : OrderPatch) : Fails (updateOrder id patch) := by
  refine (throws_get _).bind (fun db => (fails_missingRow _ _).bind (fun old => (fails_raised _ _).bind (fun _ => ?_)))
  refine (fails_raised _ _).bind (fun _ => (fails_raised _ _).bind (fun _ => (fails_raised _ _).bind (fun _ => ?_)))
  refine (fails_raised _ _).bind (fun _ => (fails_raised _ _).bind (fun _ => (fails_check _ _).bind (fun _ => ?_)))
  exact (fails_check _ _).bind (fun _ => throws_modify _ _)

theorem insertSettlement_fails (now : Instant) (s : CommerceSettlement) : Fails (insertSettlement now s) := by
  refine (throws_get _).bind (fun db => (fails_foreignKey _ _).bind (fun o => (fails_raised _ _).bind (fun _ => ?_)))
  refine (fails_raised _ _).bind (fun _ => (fails_raised _ _).bind (fun _ => (fails_check _ _).bind (fun _ => ?_)))
  refine (fails_unique _ _).bind (fun _ => (fails_unique _ _).bind (fun _ => (fails_unique _ _).bind (fun _ => ?_)))
  exact (fails_unique _ _).bind (fun _ => (fails_unique _ _).bind (fun _ => throws_modify _ _))

theorem consumeUsage_fails (draw : OrderDraw) (learnerId : Uuid) (l : PricedLine) : Fails (consumeUsage draw learnerId l) := by
  unfold consumeUsage
  split
  · exact throws_pure _ _
  · refine Throws.bind ?_ (fun _ => Throws.bind ?_ (fun _ => ?_))
    · refine (throws_get _).bind (fun db => (fails_missingRow _ _).bind (fun old => (fails_raised _ _).bind (fun _ => ?_)))
      exact (fails_raised _ _).bind (fun _ => throws_modify _ _)
    · refine (throws_get _).bind (fun db => (fails_foreignKey _ _).bind (fun v => ?_))
      exact (fails_unique _ _).bind (fun _ => throws_modify _ _)
    · exact (throws_get _).bind (fun db => (fails_missingRow _ _).bind (fun v => throws_modify _ _))

theorem createPricedOrder_fails (now : Instant) (draw : OrderDraw) (request : CheckoutRequest) (cart : CommerceCart)
    (selected : List CommerceCartLine) (lines : List PricedLine) :
    Fails (createPricedOrder now draw request cart selected lines) := by
  refine (insertOrder_fails _).bind (fun _ => (throws_forM _ _ (createLine_fails now draw _)).bind (fun _ => ?_))
  refine (retainLines_fails draw cart _).bind (fun _ => Throws.bind ?_ (fun _ => Throws.bind ?_ (fun _ => ?_)))
  · exact (throws_get _).bind (fun db => (fails_missingRow _ _).bind (fun _ => throws_modify _ _))
  · unfold confirmIfFree
    split
    · refine (insertSettlement_fails now _).bind (fun _ => (updateOrder_fails _ _).bind (fun _ => ?_))
      exact throws_forM _ _ (consumeUsage_fails draw _)
    · exact throws_pure _ _
  · exact (throws_get _).bind (fun db => throws_orThrow _ _ rfl)

end Failures

section Refusals

variable (s : CommerceDb) (now : Instant) (draw : OrderDraw) (learnerId : Uuid) (lines : List PricedLine)

-- The lines already written: their vouchers are current, each on one line, and hold their index key.
structure LinesHeld (rest : List PricedLine) (t : CommerceDb) : Prop where
  carts : t.carts = s.carts
  vouchers : t.vouchers = s.vouchers
  done : ∃ done, lines = done ++ rest ∧ (done.filterMap (fun l => l.voucherId)).Nodup ∧
    ∀ l ∈ done, ∀ id, l.voucherId = some id → Current s now id ∧ ∃ r ∈ t.reservations, voucherOfOrder r = some (draw.orderId, id)

theorem createLine_reserves (x : PricedLine) (rest : List PricedLine) (t : CommerceDb)
    (reserving : LinesHeld s now draw lines (x :: rest) t) :
    Wlp (createLine now draw learnerId x) (fun _ u => LinesHeld s now draw lines rest u) t := by
  obtain ⟨carts, vouchers, done, split, once, held⟩ := reserving
  simp only [createLine, wlp_bind, wlp_insertOrderLine]
  intro o _
  unfold reserveVoucher
  cases applied : x.voucherId with
  | none =>
      dsimp only
      rw [wlp_pure]
      refine ⟨carts, vouchers, done ++ [x], by rw [split]; simp, ?_, ?_⟩
      · rw [List.filterMap_append, List.filterMap_cons_none applied, List.filterMap_nil, List.append_nil]
        exact once
      · intro l member id own
        rcases List.mem_append.mp member with old | last
        · exact held l old id own
        · rw [List.mem_singleton.mp last, applied] at own
          cases own
  | some voucherId =>
      dsimp only
      simp only [wlp_bind, wlp_insertReservation, wlp_insertBenefit]
      intro o' l' fits r _
      have current : Current s now voucherId := by
        have offered := fits.voucher voucherId rfl
        rw [show ({ t with lines := t.lines ++ [orderLine draw x] } : CommerceDb).vouchers = s.vouchers from vouchers] at offered
        exact offered
      have taken := (free_iff _ _ _).mp fits.freshVoucher
      refine ⟨carts, vouchers, done ++ [x], by rw [split]; simp, ?_, ?_⟩
      · rw [List.filterMap_append, List.filterMap_cons_some applied, List.filterMap_nil, List.nodup_append]
        refine ⟨once, List.nodup_singleton _, ?_⟩
        rintro id before k single rfl
        obtain rfl := List.mem_singleton.mp single
        obtain ⟨l, member, own⟩ := List.mem_filterMap.mp before
        obtain ⟨_, kept, stored, key⟩ := held l member _ own
        exact taken kept stored _ rfl key
      · intro l member id own
        rcases List.mem_append.mp member with old | last
        · obtain ⟨fair, kept, stored, key⟩ := held l old id own
          exact ⟨fair, kept, List.mem_append_left _ stored, key⟩
        · rw [List.mem_singleton.mp last, applied] at own
          obtain rfl := Option.some.inj own
          exact ⟨current, _, List.mem_append_right _ (List.mem_singleton.mpr rfl), rfl⟩

theorem createPricedOrder_requires (request : CheckoutRequest) (cart : CommerceCart) (selected : List CommerceCartLine)
    (stored : cart ∈ s.carts) (active : cart.status = .active) : Wlp (createPricedOrder now draw request cart selected lines)
      (fun _ _ => cart.lines.filter (fun l => l ∉ selected) = [] ∧ (lines.filterMap (fun l => l.voucherId)).Nodup ∧
        ∀ l ∈ lines, ∀ id, l.voucherId = some id → Current s now id) s := by
  unfold createPricedOrder
  simp only [wlp_bind, wlp_insertOrder]
  intro _
  have start : LinesHeld s now draw lines lines { s with orders := s.orders ++ [pricedOrder draw cart request lines] } :=
    ⟨rfl, rfl, [], rfl, List.nodup_nil, fun _ member => by cases member⟩
  refine wlp_mono _ _ (wlp_forM _ (LinesHeld s now draw lines) lines _
    (createLine_reserves s now draw request.learnerId lines) start) ?_
  rintro _ t ⟨carts, _, done, split, once, held⟩
  rw [List.append_nil] at split
  subst split
  have kept : ∀ (m : CommerceTxn CommerceOrder) (u : CommerceDb), cart.lines.filter (fun l => l ∉ selected) = [] →
      Wlp m (fun _ _ => cart.lines.filter (fun l => l ∉ selected) = [] ∧ (lines.filterMap (fun l => l.voucherId)).Nodup ∧
        ∀ l ∈ lines, ∀ id, l.voucherId = some id → Current s now id) u :=
    fun m u whole _ _ _ => ⟨whole, once, fun l member id own => (held l member id own).1⟩
  unfold retainLines
  split
  case isTrue whole =>
      rw [wlp_pure]
      have later := kept (do
        updateCart cart.id (fun c => { c with status := .converted })
        confirmIfFree now draw request.learnerId (pricedOrder draw cart request lines) lines
        let db ← get
        orThrow (orderById db draw.orderId) (.unavailable "Order result is unavailable.")) t whole
      simp only [wlp_bind] at later
      exact later
  case isFalse =>
      simp only [insertCart, wlp_bind, wlp_get, wlp_require]
      intro _ _ _ alone
      exact absurd ⟨rfl, active⟩ (alone cart (carts ▸ stored))

end Refusals

-- The bounds of a line, and the snapshot of its product and course that the trigger of commerce_order_lines compares.
def LinePriced (db : CommerceDb) (c : CommerceCartLine) (l : CommerceOrderLine) : Prop :=
  (0 ≤ l.discountAmountMinor ∧ l.discountAmountMinor ≤ l.unitListPriceAmountMinor ∧
    l.finalAmountMinor = l.unitListPriceAmountMinor - l.discountAmountMinor) ∧
  ∃ p course, productById db c.productId = some p ∧ p.active = true ∧ p.courseId.bind (courseById db) = some course ∧
    l.productType = .course ∧ l.productReferenceId = course.id ∧ l.sellerId = p.sellerId ∧
    course.priceAmountMinor = some l.unitListPriceAmountMinor ∧ course.priceCurrency = some l.currency

structure PricedExactly (db : CommerceDb) (request : CheckoutRequest) (cart : CommerceCart) (o : CommerceOrder) (t : CommerceDb) :
    Prop where
  stored : orderById t o.id = some o
  owner : o.buyerId = request.learnerId ∧ o.cartId = some cart.id
  lines : List.Forall₂ (LinePriced db) (selectedLines db cart request) (linesOf t o.id)
  benefits : ∀ l ∈ linesOf t o.id, benefitTotalsMatch t l = true
  totals : o.subtotalAmountMinor = total (fun l => l.unitListPriceAmountMinor) (linesOf t o.id) ∧
    o.discountAmountMinor = total (fun l => l.discountAmountMinor) (linesOf t o.id) ∧
    o.payableAmountMinor = total (fun l => l.finalAmountMinor) (linesOf t o.id)
  payable : 0 ≤ o.payableAmountMinor

-- The carts as the database keeps them: an order's cart is no longer active, and none becomes active again.
structure CartsKept (db : CommerceDb) : Prop where
  ids : UniqueKey (fun c => some c.id) db.carts
  ordered : ∀ o ∈ db.orders, ∀ c ∈ db.carts, o.cartId = some c.id → c.status ≠ .active

-- A call commits an order priced exactly, or its own validation refuses it.
def Answered (db : CommerceDb) (normalized : Except Fault CheckoutRequest) : Except Fault (CommerceOrder × CommerceDb) → Prop
  | .ok (o, t) => ∃ request cart, normalized = .ok request ∧ activeCart db request.learnerId = some cart ∧
      PricedExactly db request cart o t ∧ CartsKept t
  | .error fault => rejection fault = true

-- What validation leaves to the constraints: one active cart a buyer, one use of a voucher an order, a voucher in force.
structure Storable (db : CommerceDb) (now : Instant) (request : CheckoutRequest) (cart : CommerceCart) : Prop where
  whole : ∀ l ∈ cart.lines, isSelected db cart request l = true
  once : ((selectedLines db cart request).filterMap (fun l => (appliedVoucher db request l).map (fun v => v.id))).Nodup
  current : ∀ l ∈ selectedLines db cart request, ∀ v, appliedVoucher db request l = some v → Current db now v.id

section Answers

variable {db : CommerceDb} {clock : Uuid → Instant} {now : Instant} {draw : OrderDraw} {request : CheckoutRequest}
variable {cart : CommerceCart} {selected : List CommerceCartLine} {lines : List PricedLine}

theorem appliedVoucher_stored (db : CommerceDb) (request : CheckoutRequest) (l : CommerceCartLine) (v : Voucher)
    (applied : appliedVoucher db request l = some v) : v ∈ db.vouchers := by
  obtain ⟨_, _, coded⟩ := Option.bind_eq_some_iff.mp applied
  obtain ⟨_, _, found⟩ := Option.bind_eq_some_iff.mp coded
  exact (find_some _ db.vouchers v found).1

variable (priced : List.Forall₂ (fun l x => PricedFrom db (clock l.id) request cart l x) selected lines)

include priced

theorem priced_ids : lines.map (fun x => x.id) = selected.map (fun l => l.id) := by
  induction priced with
  | nil => rfl
  | cons head _ ih => rw [List.map_cons, List.map_cons, ih, head.id]

theorem priced_vouchers : lines.filterMap (fun x => x.voucherId) =
    selected.filterMap (fun l => (appliedVoucher db request l).map (fun v => v.id)) := by
  induction priced with
  | nil => rfl
  | cons head _ ih => rw [List.filterMap_cons, List.filterMap_cons, ih, head.voucher]

theorem priced_lines : List.Forall₂ (LinePriced db) selected (lines.map (orderLine draw)) := by
  rw [List.forall₂_map_right_iff]
  refine priced.imp ?_
  intro l x from_
  obtain ⟨p, c, offered, seller, course⟩ := from_.source
  exact ⟨⟨from_.bounds.discount.1, from_.bounds.discount.2, rfl⟩, p, c, offered.product, offered.open_.1, offered.course, rfl,
    course.symm, seller.symm, offered.asked, offered.currency.1⟩

theorem priced_placeable (some : selected ≠ []) (storable : Storable db now request cart)
    (same : selected = selectedLines db cart request) : Placeable db now lines := by
  refine ⟨?_, ?_, ?_, ?_, ?_⟩
  · rintro rfl
    cases priced
    exact some rfl
  · intro x member
    obtain ⟨l, _, from_⟩ := forall₂_partner _ lines selected priced.flip x member
    exact from_.bounds.discount
  · intro x member
    obtain ⟨l, _, from_⟩ := forall₂_partner _ lines selected priced.flip x member
    exact from_.bounds.unapplied
  · intro x member id applied
    obtain ⟨l, inSelected, from_⟩ := forall₂_partner _ lines selected priced.flip x member
    rw [from_.voucher] at applied
    obtain ⟨v, found, rfl⟩ := Option.map_eq_some_iff.mp applied
    exact storable.current l (same ▸ inSelected) v found
  · rw [priced_vouchers priced, same]
    exact storable.once

theorem required_storable (same : selected = selectedLines db cart request) (whole : cart.lines.filter (fun l => l ∉ selected) = [])
    (once : (lines.filterMap (fun l => l.voucherId)).Nodup)
    (current : ∀ x ∈ lines, ∀ id, x.voucherId = some id → Current db now id) : Storable db now request cart := by
  refine ⟨?_, ?_, ?_⟩
  · intro l member
    have kept := List.filter_eq_nil_iff.mp whole l member
    have inSelected : l ∈ selected := by simpa using kept
    rw [same] at inSelected
    exact (List.mem_filter.mp inSelected).2
  · rw [← same, ← priced_vouchers priced]
    exact once
  · intro l member v applied
    obtain ⟨x, inLines, from_⟩ := forall₂_partner _ selected lines priced l (same ▸ member)
    exact current x inLines v.id (by rw [from_.voucher, applied, Option.map_some])

end Answers

section Calls

variable {db : CommerceDb} {clock : Uuid → Instant} {now : Instant} {draw : OrderDraw} {request : CheckoutRequest}
variable {owned : Uuid → Bool}

def recorded (db : CommerceDb) (draw : OrderDraw) (request : CheckoutRequest) : CommerceDb :=
  { db with idempotency := db.idempotency ++ [orderRecord draw request] }

theorem createOrderAt_first (first : idempotencyRecord db request.learnerId createOrderOperation request.keyHash = none) :
    createOrderAt clock now draw request owned db = (validateCheckout clock request owned >>= fun checkout =>
      createPricedOrder now draw request checkout.cart checkout.selected checkout.lines) (recorded db draw request) := by
  unfold createOrderAt
  rw [get_bind_run, first]
  have fresh : recordIdempotency (orderRecord draw request) db = .ok ((), recorded db draw request) := by
    have unused : (idempotencyRecord db request.learnerId createOrderOperation request.keyHash).isNone = true := by rw [first]; rfl
    unfold recordIdempotency
    rw [get_bind_run]
    refine (require_bind_run _ _ _ db ?_).trans rfl
    exact unused
  exact bind_run _ _ _ _ () fresh

theorem transaction_error {α : Type} (body : CommerceTxn α) (fault : Fault) (failed : body db = .error fault) :
    transaction body db = .error fault := by
  show (body db >>= fun p => (deferredChecks db p.2 p.2 >>= fun q => Except.ok (p.1, q.2))) = _
  rw [failed]
  rfl

theorem freshDraw_recorded (ids : List Uuid) (fresh : FreshDraw db draw ids) : FreshDraw (recorded db draw request) draw ids :=
  ⟨fresh.1, fresh.2, fresh.3, fresh.4, fresh.5, fresh.6, fresh.7, fresh.8, fresh.9, fresh.10, fresh.11, fresh.12, fresh.13, fresh.14⟩

theorem eligible_cart (cart : CommerceCart) (eligible : CheckoutEligible db clock request owned cart) :
    activeCart db request.learnerId = some cart :=
  (Option.filter_eq_some_iff.mp eligible.active).1

theorem activeCart_open (kept : CartsKept db) (cart : CommerceCart) (active : activeCart db request.learnerId = some cart)
    (currency : cart.currency = "VND") : CartOpen db request.learnerId cart := by
  obtain ⟨member, owns⟩ := find_some _ db.carts cart active
  obtain ⟨owner, isActive⟩ := of_decide_eq_true owns
  exact ⟨member, owner, isActive, currency, fun o stored named => kept.ordered o stored cart member named isActive⟩

theorem eligible_currency (cart : CommerceCart) (eligible : CheckoutEligible db clock request owned cart) :
    cart.currency = "VND" := by
  obtain ⟨l, member⟩ := List.exists_mem_of_ne_nil _ eligible.selected
  obtain ⟨_, _, _, offered, _⟩ := eligible.lines l member
  exact offered.currency.2

theorem placed_cartsKept (kept : CartsKept db) (cart : CommerceCart) (o : CommerceOrder) (lines : List PricedLine) (t : CommerceDb)
    (placed : Placed db draw cart o lines t) (own : o.cartId = some cart.id) : CartsKept t := by
  refine ⟨?_, ?_⟩
  · rw [placed.carts]
    exact unique_updateWhere _ _ _ _ kept.ids (fun c _ _ => rfl)
  · intro x stored c member named
    rw [placed.carts] at member
    rw [placed.orders] at stored
    obtain ⟨old, before, rfl⟩ := (mem_updateWhere _ _ _ _).mp member
    split
    · exact fun active => by cases active
    · rename_i other
      rw [if_neg other] at named
      rcases List.mem_append.mp stored with earlier | last
      · exact kept.ordered x earlier old before named
      · rw [List.mem_singleton.mp last, own] at named
        exact absurd (decide_eq_true (Option.some.inj named).symm) other

theorem storable_commits (kept : CartsKept db) (cart : CommerceCart) (eligible : CheckoutEligible db clock request owned cart)
    (storable : Storable db now request cart) (fresh : FreshDraw db draw (cart.lines.map (fun l => l.id))) (lines : List PricedLine)
    (priced : List.Forall₂ (fun l x => PricedFrom (recorded db draw request) (clock l.id) request cart l x)
      (selectedLines db cart request) lines) :
    ∃ o t, createPricedOrder now draw request cart (selectedLines db cart request) lines (recorded db draw request) = .ok (o, t) ∧
      deferredChecks db t t = .ok ((), t) ∧ PricedExactly db request cart o t ∧ CartsKept t := by
  have whole : selectedLines db cart request = cart.lines := List.filter_eq_self.mpr storable.whole
  have drawn : FreshDraw db draw (lines.map (fun x => x.id)) := by
    rw [priced_ids priced, whole]
    exact fresh
  have isOpen := activeCart_open kept cart (eligible_cart cart eligible) (eligible_currency cart eligible)
  have placeable := priced_placeable priced eligible.selected ⟨storable.1, storable.2, storable.3⟩ rfl
  have nothing : cart.lines.filter (fun l => l ∉ selectedLines db cart request) = [] := by
    rw [List.filter_eq_nil_iff]
    intro l member
    rw [whole]
    simpa using member
  obtain ⟨o, t, created, stored, placed⟩ := createPricedOrder_places (freshDraw_recorded _ drawn)
    ⟨isOpen.1, isOpen.2, isOpen.3, isOpen.4, isOpen.5⟩ placeable nothing
  have placed : Placed db draw cart o lines t := ⟨placed.1, placed.2, placed.3, placed.4, placed.5, placed.6⟩
  have placeable : Placeable db now lines := ⟨placeable.1, placeable.2, placeable.3, placeable.4, placeable.5⟩
  obtain ⟨_, u, checked, same⟩ := placed_passes drawn placeable stored placed kept.ids isOpen
  rw [same] at checked
  obtain ⟨named, cartId, buyer, _, subtotal, discount, payable⟩ := stored_snapshot stored
  have own := placed_linesOf drawn placed
  rw [← named] at own
  have snapshots : List.Forall₂ (LinePriced (recorded db draw request)) _ (lines.map (orderLine draw)) := priced_lines priced
  refine ⟨o, t, created, checked, ⟨?_, ⟨buyer, cartId⟩, ?_, ?_, ?_, ?_⟩, placed_cartsKept kept cart o lines t placed cartId⟩
  · unfold orderById
    rw [placed.orders, named]
    exact find_append_fresh _ _ _ (fun y member => decide_eq_false (drawn.order y member)) (decide_eq_true named)
  · rw [own]
    exact snapshots
  · rw [own]
    intro l member
    obtain ⟨x, inLines, rfl⟩ := List.mem_map.mp member
    exact placed_benefitTotals drawn placeable placed x inLines
  · rw [own, subtotal, discount, payable, total_map, total_map, total_map]
    exact ⟨rfl, rfl, (total_finalPrice lines).symm⟩
  · have below := total_mono (fun l => l.discount) (fun l => l.listPrice) lines (fun l member => (placeable.amounts l member).2)
    omega

theorem transaction_answers (kept : CartsKept db)
    (fresh : ∀ cart, activeCart db request.learnerId = some cart → FreshDraw db draw (cart.lines.map (fun l => l.id)))
    (first : idempotencyRecord db request.learnerId createOrderOperation request.keyHash = none) :
    Answered db (.ok request) (transaction (createOrderAt clock now draw request owned) db) ↔
      ∀ cart, CheckoutEligible db clock request owned cart → Storable db now request cart := by
  have body := @createOrderAt_first db clock now draw request owned first
  cases validated : validateCheckout clock request owned (recorded db draw request) with
  | error fault =>
      have refused := validateCheckout_rejects clock request owned _ fault validated
      have failed : transaction (createOrderAt clock now draw request owned) db = .error fault :=
        transaction_error _ fault (body.trans (bind_error _ _ _ fault validated))
      rw [failed]
      refine ⟨fun _ cart eligible => ?_, fun _ => refused⟩
      obtain ⟨checkout, passed⟩ := validateCheckout_passes clock request owned (recorded db draw request) cart
        ((checkoutEligible_recorded clock request owned db _ cart).mpr eligible)
      rw [validated] at passed
      cases passed
  | ok checked =>
      obtain ⟨⟨cart, selected, lines⟩, s⟩ := checked
      obtain ⟨same, validates, chosen, priced⟩ := validateCheckout_accepts clock request owned _ _ _ validated
      subst same
      have eligible := (checkoutEligible_recorded clock request owned db _ cart).mp validates
      have active := eligible_cart cart eligible
      have ran := body.trans (bind_run _ _ _ _ _ validated)
      constructor
      · intro answered other otherEligible
        obtain rfl : cart = other := Option.some.inj (active.symm.trans (eligible_cart other otherEligible))
        have isOpen := activeCart_open kept cart active (eligible_currency cart eligible)
        cases created : createPricedOrder now draw request cart selected lines (recorded db draw request) with
        | error fault =>
            have failed : transaction (createOrderAt clock now draw request owned) db = .error fault :=
              transaction_error _ fault (ran.trans created)
            rw [failed] at answered
            have refused : rejection fault = true := answered
            rw [createPricedOrder_fails now draw request cart selected lines _ fault created] at refused
            cases refused
        | ok placed =>
            obtain ⟨whole, once, current⟩ := createPricedOrder_requires (recorded db draw request) now draw lines request cart
              selected isOpen.stored isOpen.active _ _ created
            have storable := required_storable priced chosen whole once current
            exact ⟨storable.1, storable.2, storable.3⟩
      · intro storable
        have chosen : selected = selectedLines db cart request := chosen
        subst chosen
        obtain ⟨o, t, created, passes, placed⟩ :=
          storable_commits kept cart eligible (storable cart eligible) (fresh cart active) lines priced
        rw [transaction_of _ db t o (ran.trans created) passes]
        exact ⟨request, cart, rfl, active, placed⟩

end Calls

/-- A call under a new key commits an order whose lines and totals are exact, or is refused by its own validation, if and only if
every checkout it finds eligible is storable: the whole cart is selected, no voucher stands on two lines, and each one is in VND
and runs at the time that stamps its reservation. -/
theorem createOrder_stored_or_refused (db : CommerceDb) (clock : Uuid → Instant) (now : Instant) (draw : OrderDraw)
    (learnerId keyHash : String) (digest : Option (List Uuid) → List (Uuid × String) → String) (owned : Uuid → Bool)
    (input : CreateOrderDto) (kept : CartsKept db)
    (fresh : ∀ cart, activeCart db learnerId = some cart → FreshDraw db draw (cart.lines.map (fun l => l.id)))
    (first : idempotencyRecord db learnerId createOrderOperation keyHash = none) :
    Answered db (normalizeInput learnerId keyHash digest input)
        (createOrder clock now draw learnerId keyHash digest owned input db) ↔
      ∀ request cart, normalizeInput learnerId keyHash digest input = .ok request →
        CheckoutEligible db clock request owned cart → Storable db now request cart := by
  unfold createOrder
  rcases normalizeInput_answers learnerId keyHash digest input with ⟨fault, refused, rejected⟩ | ⟨request, accepted, learner, key⟩
  · rw [refused]
    exact ⟨fun _ request cart accepted => (by cases accepted), fun _ => rejected⟩
  · subst learner key
    have answers := @transaction_answers db clock now draw request owned kept fresh first
    rw [accepted]
    refine ⟨fun answered other cart same eligible => ?_, fun storable => answers.mpr (fun cart => storable request cart rfl)⟩
    cases same
    exact answers.mp answered cart eligible

def bundleCourse (id : Uuid) : Course where
  id := id
  categorySlug := none
  status := .published
  isPublic := true
  moderationClear := true
  deleted := false
  priceAmountMinor := some 100000
  priceCurrency := some "VND"

def bundleVoucher (id code : String) : Voucher where
  id := id
  code := code
  status := .active
  kind := .percentage
  value := 10
  currency := "VND"
  startsAt := 0
  endsAt := 1000
  minimumCoursePriceMinor := none
  maximumDiscountMinor := none
  usageLimit := none
  perUserLimit := none
  redeemedCount := 0
  courseIds := []
  categorySlugs := []
  eligibleUserIds := []

def bundleCart : CommerceCart where
  id := "cart-1"
  buyerId := "learner-1"
  status := .active
  currency := "VND"
  lines := [⟨"item-1", "product-1"⟩, ⟨"item-2", "product-2"⟩]

def bundleShop : CommerceDb :=
  { emptyCommerceDb 0 with
    courses := [bundleCourse "course-1", bundleCourse "course-2"]
    products := [⟨"product-1", some "course-1", "seller", true⟩, ⟨"product-2", some "course-2", "seller", true⟩]
    vouchers := [bundleVoucher "voucher-1" "SAVE10", bundleVoucher "voucher-2" "EXTRA10"]
    carts := [bundleCart] }

def bundleDraw : OrderDraw where
  orderId := "order-1"
  settlementId := "settlement-1"
  cartId := "cart-2"
  cartLineId := fun id => id ++ "-next"
  lineId := fun id => "line-" ++ id
  reservationId := fun id => "reservation-" ++ id
  operationId := fun id => "operation-" ++ id

def bundleInput (second : String) : CreateOrderDto where
  courseIds := none
  voucherApplications := some [("course-1", "SAVE10"), ("course-2", second)]

def bundleRequest (second : String) : CheckoutRequest where
  learnerId := "learner-1"
  keyHash := "key"
  requestHash := "digest"
  courseIds := none
  applications := [("course-1", "SAVE10"), ("course-2", second)]

def bundleCall (second : String) : Except Fault (CommerceOrder × CommerceDb) :=
  createOrder (fun _ => 5) 5 bundleDraw "learner-1" "key" (fun _ _ => "digest") (fun _ => false) (bundleInput second) bundleShop

theorem bundle_fresh (cart : CommerceCart) (active : activeCart bundleShop "learner-1" = some cart) :
    FreshDraw bundleShop bundleDraw (cart.lines.map (fun l => l.id)) := by
  have same : activeCart bundleShop "learner-1" = some bundleCart := rfl
  obtain rfl : bundleCart = cart := Option.some.inj (same.symm.trans active)
  refine ⟨?_, ?_, ?_, ?_, ?_, ?_, ?_, ?_, ?_, ?_, ?_, ?_, ?_, ?_⟩ <;> decide +kernel

theorem bundle_kept : CartsKept bundleShop :=
  ⟨by unfold UniqueKey; decide +kernel, by decide +kernel⟩

theorem two_vouchers_stored : (∃ p, bundleCall "extra10" = .ok p ∧ p.1.payableAmountMinor = 180000) ∧
    Answered bundleShop (normalizeInput "learner-1" "key" (fun _ _ => "digest") (bundleInput "extra10")) (bundleCall "extra10") := by
  refine ⟨ok_of_answer (bundleCall "extra10") (fun p => p.1.payableAmountMinor) 180000 (by decide +kernel), ?_⟩
  refine (createOrder_stored_or_refused bundleShop (fun _ => 5) 5 bundleDraw "learner-1" "key" (fun _ _ => "digest") (fun _ => false)
    (bundleInput "extra10") bundle_kept bundle_fresh rfl).mpr ?_
  intro request cart accepted eligible
  have normal : normalizeInput "learner-1" "key" (fun _ _ => "digest") (bundleInput "extra10") = .ok (bundleRequest "EXTRA10") := by
    decide +kernel
  obtain rfl : bundleRequest "EXTRA10" = request := Except.ok.inj (normal.symm.trans accepted)
  obtain rfl : bundleCart = cart := Option.some.inj ((show activeCart bundleShop "learner-1" = some bundleCart from rfl).symm.trans
    (eligible_cart cart eligible))
  have current : ∀ v ∈ bundleShop.vouchers, Current bundleShop 5 v.id := by
    unfold Current
    decide +kernel
  exact ⟨by decide +kernel, by decide +kernel, fun l _ v applied => current v (appliedVoucher_stored bundleShop _ l v applied)⟩

-- The validation admits one code for two courses; the index of reservations refuses the second line.
theorem one_voucher_twice_fails : bundleCall "save10" = .error (.unique "commerce_reservations_one_voucher_per_order_idx") ∧
    normalizeInput "learner-1" "key" (fun _ _ => "digest") (bundleInput "save10") = .ok (bundleRequest "SAVE10") ∧
    (∃ cart, CheckoutEligible bundleShop (fun _ => 5) (bundleRequest "SAVE10") (fun _ => false) cart) ∧
    ¬ Answered bundleShop (normalizeInput "learner-1" "key" (fun _ _ => "digest") (bundleInput "save10")) (bundleCall "save10") := by
  have failed : bundleCall "save10" = .error (.unique "commerce_reservations_one_voucher_per_order_idx") := by decide +kernel
  refine ⟨failed, by decide +kernel, ?_, ?_⟩
  · obtain ⟨p, ran, _⟩ := ok_of_answer
      (validateCheckout (fun _ => 5) (bundleRequest "SAVE10") (fun _ => false) bundleShop) (fun _ => ()) () (by decide +kernel)
    exact ⟨_, (validateCheckout_accepts _ _ _ bundleShop p.1 p.2 ran).2.1⟩
  · rw [failed]
    intro answered
    cases show rejection _ = true from answered

end EduAi.Commerce
