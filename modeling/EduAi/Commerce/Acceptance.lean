import EduAi.Commerce.Pricing

set_option autoImplicit false

namespace EduAi.Commerce

open EduAi.Store EduAi.Gds EduAi.Payments

-- The errors of the application's own validation; every other one reaches the caller as a failure of the server.
def rejection : Fault → Bool
  | .conflict _ => true
  | .notFound _ => true
  | .forbidden _ => true
  | .badRequest _ => true
  | _ => false

abbrev Rejects {α : Type} (m : CommerceTxn α) : Prop :=
  Throws (fun fault => rejection fault = true) m

def selectedLines (db : CommerceDb) (cart : CommerceCart) (request : CheckoutRequest) : List CommerceCartLine :=
  cart.lines.filter (isSelected db cart request)

def appliedVoucher (db : CommerceDb) (request : CheckoutRequest) (l : CommerceCartLine) : Option Voucher :=
  (courseIdOf db l).bind (fun courseId => (applicationOf request courseId).bind (voucherByCode db))

structure Offered (db : CommerceDb) (cart : CommerceCart) (l : CommerceCartLine) (p : CommerceProduct) (c : Course) (price : Int) :
    Prop where
  product : productById db l.productId = some p
  course : p.courseId.bind (courseById db) = some c
  open_ : p.active ∧ ¬ c.deleted ∧ c.status = .published ∧ c.isPublic ∧ c.moderationClear
  asked : c.priceAmountMinor = some price
  payable : 0 < price ∧ price ≤ maxSafeInteger
  currency : c.priceCurrency = some "VND" ∧ cart.currency = "VND"

def VoucherEligible (db : CommerceDb) (now : Instant) (request : CheckoutRequest) (c : Course) (price : Int) : Prop :=
  ∀ code, applicationOf request c.id = some code → ∃ v, voucherByCode db code = some v ∧
    (evaluate db now v request.learnerId code c.id c.categorySlug price "VND").eligible = true

def LineEligible (db : CommerceDb) (now : Instant) (request : CheckoutRequest) (cart : CommerceCart) (l : CommerceCartLine) : Prop :=
  ∃ p c price, Offered db cart l p c price ∧ VoucherEligible db now request c price

structure PricedFrom (db : CommerceDb) (now : Instant) (request : CheckoutRequest) (cart : CommerceCart) (l : CommerceCartLine)
    (priced : PricedLine) : Prop where
  id : priced.id = l.id
  source : ∃ p c, Offered db cart l p c priced.listPrice ∧ p.sellerId = priced.sellerId ∧ c.id = priced.courseId
  bounds : Priced db now request.learnerId priced
  voucher : priced.voucherId = (appliedVoucher db request l).map (fun v => v.id)

section Reading

variable (db : CommerceDb) (now : Instant) (request : CheckoutRequest) (cart : CommerceCart)

theorem rejects_require (p : Prop) [Decidable p] (message : String) : Rejects (require p (.badRequest message)) :=
  throws_require p _ rfl

theorem rejects_conflict (p : Prop) [Decidable p] (message : String) : Rejects (require p (.conflict message)) :=
  throws_require p _ rfl

theorem rejects_orThrow {α : Type} (o : Option α) (message : String) : Rejects (orThrow o (.badRequest message)) :=
  throws_orThrow o _ rfl

theorem applyVoucher_rejects (c : Course) (price : Int) (currency : String) :
    Rejects (applyVoucher now request c price currency) := by
  unfold applyVoucher
  split
  · exact throws_pure _ _
  · refine Throws.bind ?_ (fun _ => throws_pure _ _)
    refine (throws_get _).bind (fun db => (rejects_orThrow _ _).bind (fun v => ?_))
    exact (rejects_require _ _).bind (fun _ => throws_pure _ _)

theorem priceLine_rejects (l : CommerceCartLine) : Rejects (priceLine now request cart l) := by
  refine (throws_get _).bind (fun db => (rejects_orThrow _ _).bind (fun p => (rejects_orThrow _ _).bind (fun c => ?_)))
  refine (rejects_require _ _).bind (fun _ => (rejects_orThrow _ _).bind (fun price => (rejects_require _ _).bind (fun _ => ?_)))
  refine (rejects_require _ _).bind (fun _ => (applyVoucher_rejects now request c price "VND").bind (fun _ => ?_))
  exact throws_pure _ _

theorem courseById_some (id : Uuid) (c : Course) (found : courseById db id = some c) : c ∈ db.courses ∧ c.id = id := by
  obtain ⟨member, same⟩ := find_some _ db.courses c found
  exact ⟨member, of_decide_eq_true same⟩

theorem appliedVoucher_offered (l : CommerceCartLine) (p : CommerceProduct) (c : Course) (price : Int)
    (offered : Offered db cart l p c price) :
    appliedVoucher db request l = (applicationOf request c.id).bind (voucherByCode db) := by
  obtain ⟨courseId, named, found⟩ := Option.bind_eq_some_iff.mp offered.course
  have same := (courseById_some db courseId c found).2
  unfold appliedVoucher courseIdOf
  rw [offered.product, Option.bind_some, named, Option.bind_some, same]

theorem applyVoucher_eligible (c : Course) (price : Int) (eligible : VoucherEligible db now request c price) :
    ∃ decision, applyVoucher now request c price "VND" db = .ok (decision, db) ∧
      decision.map (fun d => d.voucherId) = ((applicationOf request c.id).bind (voucherByCode db)).map (fun v => v.id) := by
  unfold applyVoucher
  cases applied : applicationOf request c.id with
  | none => exact ⟨none, rfl, rfl⟩
  | some code =>
      obtain ⟨v, found, passes⟩ := eligible code applied
      have decided : Wp (evaluateForCommerce now request.learnerId c code price "VND")
          (fun d t => t = db ∧ d.voucherId = v.id) db := by
        simp only [evaluateForCommerce, wp_bind, wp_get, wp_orThrow, wp_require, wp_pure]
        exact ⟨v, found, passes, trivial, rfl⟩
      obtain ⟨d, t, ran, same, named⟩ := decided
      subst same
      refine ⟨some d, ?_, ?_⟩
      · dsimp only
        rw [bind_run _ _ _ _ d ran]
        rfl
      · rw [Option.bind_some, found, Option.map_some, Option.map_some, named]

theorem applyVoucher_accepts (c : Course) (price : Int) : Wlp (applyVoucher now request c price "VND")
    (fun decision _ => VoucherEligible db now request c price ∧
      decision.map (fun d => d.voucherId) = ((applicationOf request c.id).bind (voucherByCode db)).map (fun v => v.id)) db := by
  unfold applyVoucher VoucherEligible
  cases applied : applicationOf request c.id with
  | none =>
      dsimp only
      rw [wlp_pure]
      exact ⟨(fun code none => by cases none), rfl⟩
  | some code =>
      simp only [evaluateForCommerce, wlp_bind, wlp_get, wlp_orThrow, wlp_require, wlp_pure]
      intro v found passes
      refine ⟨?_, ?_⟩
      · intro code' same
        obtain rfl := Option.some.inj same
        exact ⟨v, found, passes⟩
      · rw [Option.bind_some, found]
        rfl

theorem priceLine_eligible (l : CommerceCartLine) (eligible : LineEligible db now request cart l) :
    ∃ priced, priceLine now request cart l db = .ok (priced, db) := by
  obtain ⟨p, c, price, offered, applies⟩ := eligible
  obtain ⟨decision, ran, _⟩ := applyVoucher_eligible db now request c price applies
  have priced : Wp (priceLine now request cart l) (fun _ t => t = db) db := by
    simp only [priceLine, wp_bind, wp_get, wp_orThrow, wp_require]
    refine ⟨p, offered.product, c, offered.course, offered.open_, price, offered.asked, offered.payable, offered.currency,
      decision, db, ran, ?_⟩
    exact (wp_pure _ _ _).mpr rfl
  obtain ⟨x, t, done, same⟩ := priced
  subst same
  exact ⟨x, done⟩

theorem priceLine_accepts (l : CommerceCartLine) : Wlp (priceLine now request cart l)
    (fun priced t => t = db ∧ LineEligible db now request cart l ∧ PricedFrom db now request cart l priced) db := by
  have read := priceLine_reads db now request cart l
  have source : Wlp (priceLine now request cart l) (fun priced _ => LineEligible db now request cart l ∧
      (∃ p c, Offered db cart l p c priced.listPrice ∧ p.sellerId = priced.sellerId ∧ c.id = priced.courseId) ∧
      priced.voucherId = (appliedVoucher db request l).map (fun v => v.id)) db := by
    simp only [priceLine, wlp_bind, wlp_get, wlp_orThrow, wlp_require]
    intro p product c course isOpen price priced payable currency
    have offered : Offered db cart l p c price := ⟨product, course, isOpen, priced, payable, currency⟩
    refine wlp_mono _ db (applyVoucher_accepts db now request c price) ?_
    intro decision t taken
    obtain ⟨applies, named⟩ := taken
    rw [wlp_pure, appliedVoucher_offered db request cart l p c price offered]
    exact ⟨⟨p, c, price, offered, applies⟩, ⟨p, c, offered, rfl, rfl⟩, named⟩
  refine wlp_mono _ db (wlp_and _ db read source) ?_
  intro priced t both
  obtain ⟨⟨same, id, bounds⟩, eligible, offered, voucher⟩ := both
  exact ⟨same, eligible, id, offered, bounds, voucher⟩

end Reading

section Clocks

-- The service reads its clock again for each voucher it evaluates.
def priceLinesAt (clock : Uuid → Instant) (request : CheckoutRequest) (cart : CommerceCart) : List CommerceCartLine →
    CommerceTxn (List PricedLine)
  | [] => pure []
  | l :: rest => do
      let priced ← priceLine (clock l.id) request cart l
      let others ← priceLinesAt clock request cart rest
      pure (priced :: others)

variable (clock : Uuid → Instant) (request : CheckoutRequest) (cart : CommerceCart) (db : CommerceDb)

theorem priceLinesAt_same (now : Instant) (lines : List CommerceCartLine) :
    priceLinesAt (fun _ => now) request cart lines = priceLines now request cart lines := by
  induction lines with
  | nil => rfl
  | cons l rest ih =>
      unfold priceLinesAt priceLines
      rw [ih]

theorem priceLinesAt_rejects (lines : List CommerceCartLine) : Rejects (priceLinesAt clock request cart lines) := by
  induction lines with
  | nil => exact throws_pure _ _
  | cons l rest ih =>
      unfold priceLinesAt
      exact (priceLine_rejects (clock l.id) request cart l).bind (fun _ => ih.bind (fun _ => throws_pure _ _))

theorem priceLinesAt_eligible (lines : List CommerceCartLine) (eligible : ∀ l ∈ lines, LineEligible db (clock l.id) request cart l) :
    ∃ priced, priceLinesAt clock request cart lines db = .ok (priced, db) := by
  induction lines with
  | nil => exact ⟨[], rfl⟩
  | cons l rest ih =>
      obtain ⟨head, first⟩ := priceLine_eligible db (clock l.id) request cart l (eligible l (by simp))
      obtain ⟨others, later⟩ := ih (fun x member => eligible x (by simp [member]))
      refine ⟨head :: others, ?_⟩
      unfold priceLinesAt
      rw [bind_run _ _ _ _ head first, bind_run _ _ _ _ others later]
      rfl

theorem priceLinesAt_accepts (lines : List CommerceCartLine) : Wlp (priceLinesAt clock request cart lines)
    (fun priced t => t = db ∧ (∀ l ∈ lines, LineEligible db (clock l.id) request cart l) ∧
      List.Forall₂ (fun l x => PricedFrom db (clock l.id) request cart l x) lines priced) db := by
  induction lines with
  | nil =>
      unfold priceLinesAt
      rw [wlp_pure]
      exact ⟨rfl, (fun _ member => by cases member), .nil⟩
  | cons l rest ih =>
      simp only [priceLinesAt, wlp_bind]
      refine wlp_mono _ db (priceLine_accepts db (clock l.id) request cart l) ?_
      intro head t first
      obtain ⟨same, eligible, priced⟩ := first
      subst same
      refine wlp_mono _ _ ih ?_
      intro others t later
      obtain ⟨same, rest', each⟩ := later
      subst same
      rw [wlp_pure]
      exact ⟨rfl, List.forall_mem_cons.mpr ⟨eligible, rest'⟩, .cons priced each⟩

end Clocks

structure Checkout where
  cart : CommerceCart
  selected : List CommerceCartLine
  lines : List PricedLine

-- All that createOrder validates before it writes the order.
def validateCheckout (clock : Uuid → Instant) (request : CheckoutRequest) (owned : Uuid → Bool) : CommerceTxn Checkout := do
  let db ← get
  let cart ← orThrow ((activeCart db request.learnerId).filter (fun c => c.lines ≠ [])) (.badRequest "EMPTY_CART")
  require (∀ courseId ∈ request.courseIds.getD [], courseId ∈ cart.lines.filterMap (courseIdOf db))
    (.badRequest "CHECKOUT_TARGET_NOT_IN_CART")
  require (selectedLines db cart request ≠ []) (.badRequest "EMPTY_CHECKOUT_SELECTION")
  require (∀ courseId ∈ (selectedLines db cart request).filterMap (courseIdOf db), owned courseId = false) (.conflict "ALREADY_OWNED")
  require (∀ application ∈ request.applications, application.1 ∈ selectedCourses db cart request)
    (.badRequest "VOUCHER_TARGET_NOT_SELECTED")
  let lines ← priceLinesAt clock request cart (selectedLines db cart request)
  pure { cart, selected := selectedLines db cart request, lines }

def orderRecord (draw : OrderDraw) (request : CheckoutRequest) : CommerceIdempotencyRecord where
  actorId := request.learnerId
  operation := createOrderOperation
  keyHash := request.keyHash
  requestHash := request.requestHash
  resourceType := "commerce_order"
  resourceId := draw.orderId

-- createOrderTransaction with a reading of the clock for each voucher next to the reading that stamps the rows.
def createOrderAt (clock : Uuid → Instant) (now : Instant) (draw : OrderDraw) (request : CheckoutRequest) (owned : Uuid → Bool) :
    CommerceTxn CommerceOrder := do
  let db ← get
  match idempotencyRecord db request.learnerId createOrderOperation request.keyHash with
  | some existing => resolveExisting request existing
  | none => do
      recordIdempotency (orderRecord draw request)
      let checkout ← validateCheckout clock request owned
      createPricedOrder now draw request checkout.cart checkout.selected checkout.lines

theorem createOrderAt_same (now : Instant) (draw : OrderDraw) (request : CheckoutRequest) (owned : Uuid → Bool) :
    createOrderAt (fun _ => now) now draw request owned = createOrderTransaction now draw request owned := by
  unfold createOrderAt createOrderTransaction checkoutCart validateCheckout selectedLines orderRecord
  simp only [bind_assoc, pure_bind, priceLinesAt_same]
  all_goals rfl

structure CreateOrderDto where
  courseIds : Option (List Uuid)
  voucherApplications : Option (List (Uuid × String))
deriving DecidableEq, Repr

def normalizeCourseIds (input : CreateOrderDto) : Except Fault (Option (List Uuid)) :=
  match input.courseIds with
  | none => .ok none
  | some courseIds =>
      if courseIds = [] ∨ 20 < courseIds.length then .error (.badRequest "INVALID_CHECKOUT_SELECTION")
      else if courseIds.Nodup then .ok (some courseIds) else .error (.badRequest "DUPLICATE_CHECKOUT_TARGET")

def normalizeApplications (input : CreateOrderDto) : Except Fault (List (Uuid × String)) :=
  let applications := (input.voucherApplications.getD []).map (fun item => (item.1, normalizeCode item.2))
  if (applications.map (fun application => application.1)).Nodup then .ok applications
  else .error (.badRequest "DUPLICATE_PROMOTION")

-- The digest is of both lists sorted by course; nothing else depends on their order.
def normalizeInput (learnerId keyHash : String) (digest : Option (List Uuid) → List (Uuid × String) → String)
    (input : CreateOrderDto) : Except Fault CheckoutRequest := do
  let courseIds ← normalizeCourseIds input
  let applications ← normalizeApplications input
  pure { learnerId, keyHash, requestHash := digest courseIds applications, courseIds, applications }

def createOrder (clock : Uuid → Instant) (now : Instant) (draw : OrderDraw) (learnerId keyHash : String)
    (digest : Option (List Uuid) → List (Uuid × String) → String) (owned : Uuid → Bool) (input : CreateOrderDto) :
    CommerceTxn CommerceOrder := fun db => do
  let request ← normalizeInput learnerId keyHash digest input
  transaction (createOrderAt clock now draw request owned) db

section Normalization

variable (learnerId keyHash : String) (digest : Option (List Uuid) → List (Uuid × String) → String) (input : CreateOrderDto)

theorem normalizeCourseIds_rejects (fault : Fault) (refused : normalizeCourseIds input = .error fault) :
    rejection fault = true := by
  unfold normalizeCourseIds at refused
  split at refused
  · cases refused
  · split at refused
    · cases refused
      rfl
    · split at refused
      · cases refused
      · cases refused
        rfl

theorem normalizeApplications_rejects (fault : Fault) (refused : normalizeApplications input = .error fault) :
    rejection fault = true := by
  unfold normalizeApplications at refused
  dsimp only at refused
  split at refused
  · cases refused
  · cases refused
    rfl

theorem normalizeInput_answers : (∃ fault, normalizeInput learnerId keyHash digest input = .error fault ∧ rejection fault = true) ∨
    ∃ request, normalizeInput learnerId keyHash digest input = .ok request ∧ request.learnerId = learnerId ∧
      request.keyHash = keyHash := by
  unfold normalizeInput
  cases courses : normalizeCourseIds input with
  | error fault => exact .inl ⟨fault, rfl, normalizeCourseIds_rejects input fault courses⟩
  | ok courseIds =>
      cases applied : normalizeApplications input with
      | error fault => exact .inl ⟨fault, rfl, normalizeApplications_rejects input fault applied⟩
      | ok applications => exact .inr ⟨_, rfl, rfl, rfl⟩

end Normalization

structure CheckoutEligible (db : CommerceDb) (clock : Uuid → Instant) (request : CheckoutRequest) (owned : Uuid → Bool)
    (cart : CommerceCart) : Prop where
  active : (activeCart db request.learnerId).filter (fun c => c.lines ≠ []) = some cart
  targets : ∀ courseId ∈ request.courseIds.getD [], courseId ∈ cart.lines.filterMap (courseIdOf db)
  selected : selectedLines db cart request ≠ []
  unowned : ∀ courseId ∈ (selectedLines db cart request).filterMap (courseIdOf db), owned courseId = false
  applications : ∀ application ∈ request.applications, application.1 ∈ selectedCourses db cart request
  lines : ∀ l ∈ selectedLines db cart request, LineEligible db (clock l.id) request cart l

section Validation

variable (clock : Uuid → Instant) (request : CheckoutRequest) (owned : Uuid → Bool) (db : CommerceDb)

theorem validateCheckout_rejects : Rejects (validateCheckout clock request owned) := by
  refine (throws_get _).bind (fun db => (rejects_orThrow _ _).bind (fun cart => ?_))
  refine (rejects_require _ _).bind (fun _ => (rejects_require _ _).bind (fun _ => ?_))
  refine (rejects_conflict _ _).bind (fun _ => (rejects_require _ _).bind (fun _ => ?_))
  exact (priceLinesAt_rejects clock request cart _).bind (fun _ => throws_pure _ _)

theorem validateCheckout_passes (cart : CommerceCart) (eligible : CheckoutEligible db clock request owned cart) :
    ∃ checkout, validateCheckout clock request owned db = .ok (checkout, db) := by
  obtain ⟨lines, priced⟩ := priceLinesAt_eligible clock request cart db (selectedLines db cart request) eligible.lines
  have validated : Wp (validateCheckout clock request owned) (fun _ t => t = db) db := by
    simp only [validateCheckout, wp_bind, wp_get, wp_orThrow, wp_require]
    refine ⟨cart, eligible.active, eligible.targets, eligible.selected, eligible.unowned, eligible.applications, ?_⟩
    exact (wp_ran _ _ _ _ _ priced).mpr ((wp_pure _ _ _).mpr rfl)
  obtain ⟨checkout, t, done, same⟩ := validated
  subst same
  exact ⟨checkout, done⟩

theorem validateCheckout_accepts : Wlp (validateCheckout clock request owned) (fun checkout t => t = db ∧
    CheckoutEligible db clock request owned checkout.cart ∧ checkout.selected = selectedLines db checkout.cart request ∧
    List.Forall₂ (fun l x => PricedFrom db (clock l.id) request checkout.cart l x) checkout.selected checkout.lines) db := by
  simp only [validateCheckout, wlp_bind, wlp_get, wlp_orThrow, wlp_require]
  intro cart active targets selected unowned applications
  refine wlp_mono _ db (priceLinesAt_accepts clock request cart db (selectedLines db cart request)) ?_
  intro lines t priced
  obtain ⟨same, eligible, each⟩ := priced
  rw [wlp_pure]
  exact ⟨same, ⟨active, targets, selected, unowned, applications, eligible⟩, rfl, each⟩

-- The record of the request does not bear on what is validated.
theorem checkoutEligible_recorded (rows : List CommerceIdempotencyRecord) (cart : CommerceCart) :
    CheckoutEligible { db with idempotency := rows } clock request owned cart ↔ CheckoutEligible db clock request owned cart := by
  constructor
  · rintro ⟨active, targets, selected, unowned, applications, lines⟩
    refine ⟨active, targets, selected, unowned, applications, fun l member => ?_⟩
    obtain ⟨p, c, price, ⟨a, b, d, e, f, g⟩, applies⟩ := lines l member
    exact ⟨p, c, price, ⟨a, b, d, e, f, g⟩, applies⟩
  · rintro ⟨active, targets, selected, unowned, applications, lines⟩
    refine ⟨active, targets, selected, unowned, applications, fun l member => ?_⟩
    obtain ⟨p, c, price, ⟨a, b, d, e, f, g⟩, applies⟩ := lines l member
    exact ⟨p, c, price, ⟨a, b, d, e, f, g⟩, applies⟩

end Validation

end EduAi.Commerce
