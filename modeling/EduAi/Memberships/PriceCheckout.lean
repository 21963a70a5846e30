import EduAi.Memberships.PriceAgreement

set_option autoImplicit false

namespace EduAi.Memberships

open EduAi.Store EduAi.Gds EduAi.Commerce EduAi.Payments

section Checkout

variable (db : MembershipDb) (draw : CheckoutDraw) (request : CheckoutRequest) (now : Instant)
variable (version : MembershipPlanVersion) (duration : MembershipDurationOption)

-- A checkout that nothing but its amounts can stop: the version is on sale, the term is one, and the drawn ids are new.
structure Purchasable : Prop where
  chosen : db.versions.find? (fun v => v.id = request.versionId) = some version
  currency : version.currency = "VND"
  sale : onSale version now = true
  option : db.durationOptions.find? (fun d => d.id = request.durationOptionId ∧ d.versionId = version.id) = some duration
  open' : ∀ p, db.products.find? (fun p => p.membershipPlanVersionId = version.id) = some p → p.status ≠ .archived
  keyed : UniqueKey (fun p => some p.id) db.products
  term : request.startsAt < request.endsAt
  products : ∀ p ∈ db.products, p.id ≠ draw.productId
  orders : ∀ o ∈ db.orders, o.id ≠ draw.orderId
  intents : ∀ i ∈ db.intents, i.orderId ≠ draw.orderId
  lines : ∀ l ∈ db.lines, l.id ≠ draw.lineId

structure OnOffer (products : List MembershipProduct) (versionId : Uuid) (p : MembershipProduct) : Prop where
  found : products.find? (fun q => q.id = p.id) = some p
  sells : p.membershipPlanVersionId = versionId

theorem product_activated (products : List MembershipProduct) (versionId : Uuid) (p : MembershipProduct)
    (offered : OnOffer products versionId p) (notArchived : p.status ≠ .archived) :
    Wp (if p.status = .draft then activateProduct p else pure p)
      (fun q t => ∃ sold, t = { db with products := sold } ∧ OnOffer sold versionId q ∧ q.status = .active)
      { db with products := products } := by
  by_cases draft : p.status = .draft
  · rw [if_pos draft]
    unfold activateProduct
    rw [wp_bind, wp_modify, wp_pure]
    refine ⟨_, rfl, { found := ?_, sells := offered.sells }, rfl⟩
    have again := find_updateWhere (fun q => q.id = p.id) (fun q => q.id = p.id)
      (fun q : MembershipProduct => { q with status := .active }) products (fun _ _ => rfl)
    rw [again, offered.found]
    simp only [Option.map_some, decide_true, if_true]
  · rw [if_neg draft, wp_pure]
    refine ⟨products, rfl, offered, ?_⟩
    cases status : p.status with
    | draft => exact absurd status draft
    | archived => exact absurd status notArchived
    | active => rfl

variable {db draw request now version duration}

theorem ensureActive_offers (purchase : Purchasable db draw request now version duration) :
    Wp (ensureActiveMembershipProduct draw version)
      (fun q t => ∃ sold, t = { db with products := sold } ∧ OnOffer sold version.id q ∧ q.status = .active) db := by
  unfold ensureActiveMembershipProduct
  rw [wp_bind, wp_get]
  cases found : db.products.find? (fun p => p.membershipPlanVersionId = version.id) with
  | some p =>
      obtain ⟨member, sells⟩ := find_some _ _ p found
      have offered : OnOffer db.products version.id p := {
        found := find_unique (fun p => some p.id) _ _ purchase.keyed p p.id member (decide_eq_true rfl) rfl
          (fun x _ same => congrArg some (of_decide_eq_true same))
        sells := of_decide_eq_true sells }
      have notArchived := purchase.open' p found
      simp only [wp_bind, wp_pure, wp_require]
      exact ⟨notArchived, product_activated db db.products version.id p offered notArchived⟩
  | none =>
      have offered : OnOffer (db.products ++ [draftProduct draw version]) version.id (draftProduct draw version) := {
        found := find_append_fresh _ _ _ (fun q hq => decide_eq_false (purchase.products q hq)) (decide_eq_true rfl)
        sells := rfl }
      have notArchived : (draftProduct draw version).status ≠ .archived := fun same => by cases same
      simp only [createProduct, wp_bind, wp_modify, wp_pure, wp_require]
      exact ⟨notArchived, product_activated db _ version.id _ offered notArchived⟩

section Rows

variable (db) (offer : MembershipOffer) (nonneg : 0 ≤ offer.amountMinor) (within : offer.amountMinor ≤ offer.listAmountMinor)
  (listed : offer.listAmountMinor ≤ postgresBigintMax)

include nonneg within listed in
theorem order_inserted (orders : ∀ o ∈ db.orders, o.id ≠ draw.orderId) (Q : Unit → MembershipDb → Prop) :
    Wp (insertOrder (membershipOrder draw.toMembershipDraw offer)) Q db ↔
      Q () { db with orders := db.orders ++ [membershipOrder draw.toMembershipDraw offer] } := by
  have discounted : 0 ≤ (membershipOrder draw.toMembershipDraw offer).discountAmountMinor := Int.sub_nonneg_of_le within
  have list : 0 ≤ (membershipOrder draw.toMembershipDraw offer).subtotalAmountMinor := le_trans nonneg within
  have payable : 0 ≤ (membershipOrder draw.toMembershipDraw offer).payableAmountMinor := nonneg
  have new : free (fun o : CommerceOrder => some o.id) (membershipOrder draw.toMembershipDraw offer) db.orders = true := by
    rw [free_iff]
    intro o member k named same
    rw [← named] at same
    exact orders o member (Option.some.inj same)
  have totals : offer.listAmountMinor - offer.amountMinor ≤ offer.listAmountMinor ∧
      offer.amountMinor = offer.listAmountMinor - (offer.listAmountMinor - offer.amountMinor) := by omega
  unfold insertOrder
  rw [wp_bind, wp_get, wp_bind, wp_bigint _ list, wp_bind, wp_bigint _ discounted, wp_bind, wp_bigint _ payable, wp_bind,
    wp_require, wp_bind, wp_require, wp_bind, wp_require, wp_modify]
  constructor
  · rintro ⟨_, _, _, _, _, _, held⟩
    exact held
  · intro held
    exact ⟨listed, le_trans totals.1 listed, le_trans within listed, rfl, ⟨list, discounted, totals.1, totals.2⟩, new, held⟩

theorem intent_inserted (i : DurationIntent) (term : i.startsAt < i.endsAt) (intents : ∀ j ∈ db.intents, j.orderId ≠ i.orderId)
    (Q : Unit → MembershipDb → Prop) :
    Wp (insertIntent i) Q db ↔ Q () { db with intents := db.intents ++ [i] } := by
  have new : free (fun j : DurationIntent => some j.orderId) i db.intents = true := by
    rw [free_iff]
    intro j member k named same
    rw [← named] at same
    exact intents j member (Option.some.inj same)
  unfold insertIntent
  rw [wp_bind, wp_get, wp_bind, wp_require, wp_bind, wp_require, wp_modify]
  constructor
  · rintro ⟨_, _, held⟩
    exact held
  · intro held
    exact ⟨term, new, held⟩

variable (version duration) in
structure Snapshots (product : MembershipProduct) (l : SnapshotLine) (listPrice amount : Int) : Prop where
  currency : l.currency = "VND"
  type : l.productType = .membership
  seller : l.sellerId = product.sellerId
  reference : l.productReferenceId = product.membershipPlanVersionId
  active : product.status = .active
  title : l.displayTitle = version.displayName
  quantity : l.quantity = 1
  list : l.unitListPriceAmountMinor = listPrice
  subtotal : l.subtotalAmountMinor = listPrice
  discount : l.discountAmountMinor = listPrice - amount
  final : l.finalAmountMinor = amount

theorem line_inserted (base : 0 ≤ version.baseMonthlyPriceAmountMinor) (admitted : AdmittedDuration duration.toNormalizedDuration)
    (currency : version.currency = "VND") (amount : Int)
    (priced : calculateDurationPrice (pricing version duration) = .ok amount) (nonneg : 0 ≤ amount)
    (within : amount ≤ listAmount version duration amount) (listed : listAmount version duration amount ≤ postgresBigintMax)
    (order : CommerceOrder) (product : MembershipProduct) (l : SnapshotLine)
    (ordered : db.orders.find? (fun o => o.id = l.orderId) = some order) (dong : order.currency = "VND")
    (offered : db.products.find? (fun p => p.id = l.productId) = some product)
    (source : sourceOf db l.orderId product.membershipPlanVersionId = some (version, duration))
    (snapshots : Snapshots version product l (listAmount version duration amount) amount)
    (lines : ∀ l' ∈ db.lines, l'.id ≠ l.id) (Q : Unit → MembershipDb → Prop) :
    Wp (insertOrderLine l) Q db ↔ FitsBigint version duration ∧ Q () { db with lines := db.lines ++ [l] } := by
  have discounted : 0 ≤ listAmount version duration amount - amount := by omega
  have new : free (fun l' : SnapshotLine => some l'.id) l db.lines = true := by
    rw [free_iff]
    intro l' member k named same
    rw [← named] at same
    exact lines l' member (Option.some.inj same)
  have totals : 0 ≤ l.unitListPriceAmountMinor ∧ l.subtotalAmountMinor = l.unitListPriceAmountMinor * l.quantity ∧
      0 ≤ l.discountAmountMinor ∧ l.discountAmountMinor ≤ l.subtotalAmountMinor ∧
      l.finalAmountMinor = l.subtotalAmountMinor - l.discountAmountMinor := by
    rw [snapshots.list, snapshots.subtotal, snapshots.discount, snapshots.final, snapshots.quantity]
    omega
  unfold insertOrderLine validateOrderLineSource
  rw [wp_bind, wp_get, wp_bind, wp_bind, wp_get, wp_bind, ordered, wp_orThrow]
  simp only [offered, wp_bind, wp_orThrow, wp_require, wp_modify]
  constructor
  · rintro ⟨_, _, sold, found, _, _, pair, selected, recomputation⟩
    obtain rfl := Option.some.inj found
    obtain rfl := Option.some.inj (source.symm.trans selected)
    obtain ⟨fits, compared⟩ := (recomputed_agrees version duration base admitted amount priced listed _ db).mp recomputation
    obtain ⟨_, _, _, _, _, _, held⟩ := (wp_bigint _ discounted _ db).mp compared
    exact ⟨fits, held⟩
  · rintro ⟨fits, held⟩
    refine ⟨order, rfl, product, rfl, ⟨by rw [snapshots.currency, dong], snapshots.type, snapshots.seller⟩, snapshots.reference,
      (version, duration), source, ?_⟩
    refine (recomputed_agrees version duration base admitted amount priced listed _ db).mpr ⟨fits, ?_⟩
    refine (wp_bigint _ discounted _ db).mpr ⟨by omega, ?_⟩
    refine ⟨⟨snapshots.active, snapshots.title, ?_, snapshots.quantity, snapshots.list, snapshots.subtotal, snapshots.discount,
      snapshots.final⟩, snapshots.currency, snapshots.quantity, totals, new, held⟩
    rw [snapshots.currency, currency]

end Rows

variable (db draw request now version duration) in
-- The amounts of checkout are ordered, the database works out the same ones, and the checkout commits with them.
structure PricingAgrees : Prop where
  amounts : ∃ amount, calculateDurationPrice (pricing version duration) = .ok amount ∧
    0 ≤ listAmount version duration amount - amount ∧ 0 ≤ amount ∧ amount ≤ listAmount version duration amount ∧
    returned (recomputed version duration) db = some (listAmount version duration amount, amount)
  commits : Wp (createMembershipCheckout draw request now) (fun _ t => ∃ l ∈ t.lines, l.id = draw.lineId ∧
    l.unitListPriceAmountMinor = l.discountAmountMinor + l.finalAmountMinor ∧
    calculateDurationPrice (pricing version duration) = .ok l.finalAmountMinor) db

theorem returned_wp {σ ε α : Type} (m : Txn σ ε α) (s : σ) (a : α) : returned m s = some a ↔ Wp m (fun b _ => b = a) s := by
  unfold returned Wp
  cases ran : m s with
  | error e => simp
  | ok p =>
      constructor
      · intro same
        exact ⟨p.1, p.2, rfl, Option.some.inj same⟩
      · rintro ⟨b, t, ok, rfl⟩
        cases ok
        rfl

theorem checkout_commits (purchase : Purchasable db draw request now version duration)
    (base : 0 ≤ version.baseMonthlyPriceAmountMinor) (admitted : AdmittedDuration duration.toNormalizedDuration) (amount : Int)
    (priced : calculateDurationPrice (pricing version duration) = .ok amount) (nonneg : 0 ≤ amount)
    (within : amount ≤ listAmount version duration amount) (listed : listAmount version duration amount ≤ postgresBigintMax) :
    Wp (createMembershipCheckout draw request now) (fun _ t => ∃ l ∈ t.lines, l.id = draw.lineId ∧
      l.unitListPriceAmountMinor = l.discountAmountMinor + l.finalAmountMinor ∧
      calculateDurationPrice (pricing version duration) = .ok l.finalAmountMinor) db ↔ FitsBigint version duration := by
  obtain ⟨product, t, ran, sold, rfl, offered, active⟩ := ensureActive_offers purchase
  obtain ⟨_, named⟩ := find_some _ _ version purchase.chosen
  obtain ⟨_, named'⟩ := find_some _ _ duration purchase.option
  have versionId : version.id = request.versionId := of_decide_eq_true named
  have durationId : duration.id = request.durationOptionId := (of_decide_eq_true named').1
  let offer := offerOf request product.sellerId (listAmount version duration amount) amount
  let order := membershipOrder draw.toMembershipDraw offer
  let intent : DurationIntent := { membershipIntent draw.toMembershipDraw offer with durationOptionId := duration.id }
  have refers : request.versionId = product.membershipPlanVersionId := by rw [offered.sells, versionId]
  unfold createMembershipCheckout
  rw [wp_bind, wp_get, wp_bind, purchase.chosen]
  simp only [wp_orThrow, wp_bind, wp_require, purchase.sale, Option.some.injEq, exists_eq_left', true_and, purchase.option,
    priced, ofExcept, wp_pure, wp_ran _ _ _ _ _ ran]
  refine (order_inserted { db with products := sold } offer nonneg within listed purchase.orders _).trans ?_
  refine (intent_inserted { db with products := sold, orders := db.orders ++ [order] } intent purchase.term purchase.intents _).trans ?_
  refine (line_inserted { db with products := sold, orders := db.orders ++ [order], intents := db.intents ++ [intent] } base admitted
    purchase.currency amount priced nonneg within listed order product (snapshotLine draw offer product.id version.displayName)
    ?ordered rfl offered.found ?source ?snapshots purchase.lines _).trans ?_
  case ordered =>
    exact find_append_fresh _ _ _ (fun o member => decide_eq_false (purchase.orders o member)) (decide_eq_true rfl)
  case source =>
    have found := find_append_fresh (fun i : DurationIntent => i.orderId = draw.orderId ∧ i.versionId = product.membershipPlanVersionId)
      db.intents intent (fun i member => decide_eq_false (fun both => purchase.intents i member both.1)) (decide_eq_true ⟨rfl, refers⟩)
    have joined : db.durationOptions.find? (fun d => d.id = intent.durationOptionId ∧ d.versionId = version.id) = some duration := by
      rw [show intent.durationOptionId = request.durationOptionId from durationId]
      exact purchase.option
    show (do
      let i ← (db.intents ++ [intent]).find? (fun i => i.orderId = draw.orderId ∧ i.versionId = product.membershipPlanVersionId)
      let v ← db.versions.find? (fun v => v.id = i.versionId)
      let d ← db.durationOptions.find? (fun d => d.id = i.durationOptionId ∧ d.versionId = v.id)
      return (v, d)) = some (version, duration)
    rw [found, Option.bind_eq_bind, Option.bind_some,
      show db.versions.find? (fun v => v.id = intent.versionId) = some version from purchase.chosen,
      Option.bind_eq_bind, Option.bind_some, joined]
    rfl
  case snapshots =>
    exact {
      currency := rfl
      type := rfl
      seller := rfl
      reference := refers
      active := active
      title := rfl
      quantity := rfl
      list := rfl
      subtotal := rfl
      discount := rfl
      final := rfl }
  constructor
  · rintro ⟨fits, _⟩
    exact fits
  · intro fits
    refine ⟨fits, snapshotLine draw offer product.id version.displayName, List.mem_append_right _ List.mem_cons_self, rfl, ?_, rfl⟩
    exact (Int.sub_add_cancel _ _).symm

end Checkout

def storedVersion (n : NormalizedVersion) (id publishedById : Uuid) : MembershipPlanVersion where
  id := id
  displayName := n.displayName
  baseMonthlyPriceAmountMinor := n.baseMonthlyPriceAmountMinor
  currency := n.currency
  salesStartAt := n.salesStartAt
  salesEndAt := n.salesEndAt
  forSale := true
  publishedById := publishedById

def storedDuration (d : NormalizedDuration) (id versionId : Uuid) : MembershipDurationOption where
  toNormalizedDuration := d
  id := id
  versionId := versionId

/-- For what the administration endpoint admits, checkout and the database agree on every amount, and the checkout commits,
exactly when the product of the discounted price stays within bigint. -/
theorem membership_prices_agree (input : CreateMembershipPlanVersionDto) (n : NormalizedVersion)
    (admitted : admitVersion input = .ok n) (d : NormalizedDuration) (member : d ∈ n.durations) (db : MembershipDb)
    (draw : CheckoutDraw) (request : CheckoutRequest) (now : Instant) (id publishedById optionId : Uuid)
    (purchase : Purchasable db draw request now (storedVersion n id publishedById) (storedDuration d optionId id))
    (listed : ∀ amount, calculateDurationPrice (pricing (storedVersion n id publishedById) (storedDuration d optionId id)) = .ok amount →
      listAmount (storedVersion n id publishedById) (storedDuration d optionId id) amount ≤ postgresBigintMax) :
    PricingAgrees db draw request now (storedVersion n id publishedById) (storedDuration d optionId id) ↔
      ∀ discount ∈ d.discountPercent, n.baseMonthlyPriceAmountMinor * d.months * (100 - discount) ≤ postgresBigintMax := by
  have sound := admitVersion_admits input n admitted
  have base : 0 ≤ (storedVersion n id publishedById).baseMonthlyPriceAmountMinor := sound.base.1
  have single := sound.durations d member
  obtain ⟨amount, priced, nonneg, within⟩ :=
    duration_priced (storedVersion n id publishedById) (storedDuration d optionId id) base single
  have fits := listed amount priced
  have commits := checkout_commits purchase base single amount priced nonneg within fits
  constructor
  · intro agrees
    exact commits.mp agrees.commits
  · intro bounded
    refine { amounts := ⟨amount, priced, Int.sub_nonneg_of_le within, nonneg, within, ?_⟩, commits := commits.mpr bounded }
    exact (returned_wp _ _ _).mpr ((recomputed_agrees _ _ base single amount priced fits _ db).mpr ⟨bounded, rfl⟩)

def sampleVersionInput (price : String) : CreateMembershipPlanVersionDto where
  displayName := "Pro"
  baseMonthlyPriceAmountMinor := price
  currency := "VND"
  salesStartAt := none
  salesEndAt := none
  durations := [{ months := 12, priceAmountMinor := some "990000", discountPercent := none, displayOrder := 1 },
    { months := 1, priceAmountMinor := none, discountPercent := some 50, displayOrder := 0 }]

def sampleVersion (base : Int) : NormalizedVersion where
  displayName := "Pro"
  baseMonthlyPriceAmountMinor := base
  currency := "VND"
  salesStartAt := none
  salesEndAt := none
  durations := [{ months := 1, priceAmountMinor := none, discountPercent := some 50, displayOrder := 0 },
    { months := 12, priceAmountMinor := some 990000, discountPercent := none, displayOrder := 1 }]

def sampleMonth : NormalizedDuration where
  months := 1
  priceAmountMinor := none
  discountPercent := some 50
  displayOrder := 0

def samplePlans (base : Int) : MembershipDb where
  versions := [storedVersion (sampleVersion base) "version-1" "admin-1"]
  durationOptions := [storedDuration sampleMonth "option-1" "version-1"]
  products := []
  orders := []
  intents := []
  lines := []

def samplePlanDraw : CheckoutDraw where
  orderId := "order-1"
  lineId := "line-1"
  productId := "product-1"

def samplePlanRequest : CheckoutRequest where
  learnerId := "learner-1"
  keyHash := "key-1"
  requestHash := "request-1"
  versionId := "version-1"
  durationOptionId := "option-1"
  startsAt := 0
  endsAt := 30
  removedCourses := []

theorem samplePurchasable (base : Int) : Purchasable (samplePlans base) samplePlanDraw samplePlanRequest 0
    (storedVersion (sampleVersion base) "version-1" "admin-1") (storedDuration sampleMonth "option-1" "version-1") where
  chosen := rfl
  currency := rfl
  sale := rfl
  option := rfl
  open' := fun p found => by cases found
  keyed := unique_nil _
  term := by decide
  products := fun p member => by cases member
  orders := fun o member => by cases member
  intents := fun i member => by cases member
  lines := fun l member => by cases member

theorem membership_prices_agree_sample :
    PricingAgrees (samplePlans 100001) samplePlanDraw samplePlanRequest 0
      (storedVersion (sampleVersion 100001) "version-1" "admin-1") (storedDuration sampleMonth "option-1" "version-1") := by
  have admitted : admitVersion (sampleVersionInput "100001") = .ok (sampleVersion 100001) := by decide +kernel
  have listed : listAmount (storedVersion (sampleVersion 100001) "version-1" "admin-1")
      (storedDuration sampleMonth "option-1" "version-1") 0 ≤ postgresBigintMax := by
    simp [listAmount, storedVersion, storedDuration, sampleVersion, sampleMonth, postgresBigintMax]
  exact (membership_prices_agree (sampleVersionInput "100001") (sampleVersion 100001) admitted sampleMonth (by decide) _ _ _ 0 _ _ _
    (samplePurchasable 100001) (fun _ _ => listed)).mpr (by decide)

-- Half of the largest price is a price, but the database multiplies by fifty before it divides.
theorem membership_discount_overflows :
    admitVersion (sampleVersionInput "9223372036854775807") = .ok (sampleVersion 9223372036854775807) ∧
    listAmount (storedVersion (sampleVersion 9223372036854775807) "version-1" "admin-1")
      (storedDuration sampleMonth "option-1" "version-1") 4611686018427387903 ≤ postgresBigintMax ∧
    ¬ PricingAgrees (samplePlans 9223372036854775807) samplePlanDraw samplePlanRequest 0
      (storedVersion (sampleVersion 9223372036854775807) "version-1" "admin-1")
      (storedDuration sampleMonth "option-1" "version-1") := by
  refine ⟨by decide +kernel, ?_, fun agrees => ?_⟩
  · simp [listAmount, storedVersion, storedDuration, sampleVersion, sampleMonth, postgresBigintMax]
  · obtain ⟨amount, priced, _, _, _, same⟩ := agrees.amounts
    revert same
    have overflows : returned (recomputed (storedVersion (sampleVersion 9223372036854775807) "version-1" "admin-1")
        (storedDuration sampleMonth "option-1" "version-1")) (samplePlans 9223372036854775807) = none := by decide +kernel
    rw [overflows]
    intro same
    cases same

end EduAi.Memberships
