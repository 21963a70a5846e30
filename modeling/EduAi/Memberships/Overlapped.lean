import EduAi.Memberships.Fulfillable

set_option autoImplicit false

namespace EduAi.Memberships.Terms

open EduAi.Store EduAi.Gds EduAi.Commerce EduAi.Payments

structure Blocked (draw : MembershipDraw) (offer : MembershipOffer) (db : CommerceDb) : Prop where
  order : ∃ o ∈ db.orders, o.id = draw.orderId ∧ o.buyerId = offer.learnerId
  intent : membershipIntent draw offer ∈ db.intents
  line : membershipLine draw offer ∈ db.lines
  ahead : ∃ s ∈ db.subscriptions, overlappingTerm offer.learnerId (membershipIntent draw offer) s = true
  unbought : ∀ s ∈ db.subscriptions, s.sourceOrderLineId ≠ some draw.lineId
  unfulfilled : ∀ o ∈ db.orders, o.id = draw.orderId → o.fulfillmentStatus ≠ .fulfilled

section Blocked

variable {draw : MembershipDraw} {offer : MembershipOffer} {db : CommerceDb}

theorem blocked_line (rows : Rows db) (blocked : Blocked draw offer db) (t : CommerceDb) (intents : t.intents = db.intents)
    (subscriptions : t.subscriptions = db.subscriptions) (now : Instant) (access : AccessDraw) (o : CommerceOrder)
    (named : o.id = draw.orderId) (buyer : o.buyerId = offer.learnerId) :
    Wlp (fulfillLine now access o (membershipLine draw offer)) (fun _ _ => False) t := by
  show Wlp (fulfillMembership access o (membershipLine draw offer)) (fun _ _ => False) t
  simp only [fulfillMembership, ensureTerm, wlp_bind, wlp_get, wlp_orThrow, wlp_require]
  intro i snapshot _ _ _
  have own : intentOf t o.id = some (membershipIntent draw offer) := by
    rw [intentOf, intents]
    exact keyed_find (fun i : MembershipCheckoutIntent => i.orderId) _ _ rows.intentKey blocked.intent o.id named.symm
  obtain rfl := Option.some.inj (own.symm.trans snapshot)
  have unknown : t.subscriptions.find? (fun s => s.sourceOrderLineId = some (membershipLine draw offer).id) = none := by
    rw [subscriptions, List.find?_eq_none]
    intro s member
    rw [decide_eq_true_eq]
    exact blocked.unbought s member
  rw [unknown]
  simp only [wlp_bind, wlp_require]
  intro clear
  obtain ⟨s, member, meets⟩ := blocked.ahead
  rw [← buyer] at meets
  exact absurd meets (clear s (subscriptions ▸ member))

theorem blocked_fails (deployment : Deployment) (rows : Rows db) (blocked : Blocked draw offer db) (access : AccessDraw) (now : Instant) :
    Wlp (fulfillConfirmedOrder deployment now access draw.orderId) (fun _ _ => False) db := by
  simp only [fulfillConfirmedOrder, wlp_bind, wlp_get, wlp_orThrow, wlp_ite, wlp_require, wlp_pure]
  intro o found
  obtain ⟨inOrders, named⟩ := orderById_some db draw.orderId o found
  refine ⟨fun fulfilled => blocked.unfulfilled o inOrders named fulfilled, ?_⟩
  intro _ _
  obtain ⟨o', inOrders', named', buyer⟩ := blocked.order
  obtain rfl := rows.orderKey o' inOrders' o inOrders (named'.trans named.symm)
  refine wlp_mono _ db (requireBankProofOfOrder_reads deployment now db o') ?_
  intro _ s proven
  rw [proven]
  refine wlp_mono _ db (convertReceiptOfOrder_idle o' db rows.receipts) ?_
  intro _ s' idle
  rw [idle, deliverOrder, wlp_bind]
  refine wlp_mono _ db (startFulfillment_store o' db) ?_
  intro _ t started
  have beside : t.lines = db.lines ∧ t.intents = db.intents ∧ t.subscriptions = db.subscriptions := by
    rcases started with rfl | ⟨_, _, rfl⟩
    · exact ⟨rfl, rfl, rfl⟩
    · exact ⟨rfl, rfl, rfl⟩
  obtain ⟨lines, intents, subscriptions⟩ := beside
  rw [wlp_bind, wlp_get, wlp_bind]
  have listed : membershipLine draw offer ∈ linesOf t o'.id := by
    rw [linesOf, lines]
    exact List.mem_filter.mpr ⟨blocked.line, decide_eq_true named'.symm⟩
  have only : ∀ l ∈ linesOf t o'.id, l = membershipLine draw offer := by
    rw [linesOf, lines]
    intro l member
    obtain ⟨inLines, ordered⟩ := List.mem_filter.mp member
    exact rows.oneLine l inLines _ blocked.line ((of_decide_eq_true ordered).trans named')
  cases work : linesOf t o'.id with
  | nil =>
      rw [work] at listed
      cases listed
  | cons l rest =>
      rw [only l (work ▸ List.mem_cons_self)]
      refine (wlp_bind _ _ _ _).mpr (wlp_mono _ t (blocked_line rows blocked t intents subscriptions now access o' named' buyer) ?_)
      intro _ _ never
      exact never.elim

end Blocked

section Steps

variable {draw : MembershipDraw} {offer : MembershipOffer} {db t : CommerceDb}

theorem blocked_checkout (blocked : Blocked draw offer db) {draw' : MembershipDraw} {catalogue : List PlanVersion} {call : CheckoutCall}
    {now : Instant} {term : QuotedTerm} (out : CheckedOut draw' catalogue call now db t term) : Blocked draw offer t := by
  obtain ⟨o, inOrders, named, buyer⟩ := blocked.order
  refine ⟨⟨o, out.orders ▸ List.mem_append_left _ inOrders, named, buyer⟩, out.intents ▸ List.mem_append_left _ blocked.intent,
    out.lines ▸ List.mem_append_left _ blocked.line, out.subscriptions ▸ blocked.ahead, out.subscriptions ▸ blocked.unbought, ?_⟩
  rw [out.orders]
  intro x member same
  rcases (mem_append_one _ _ x).mp member with old | rfl
  · exact blocked.unfulfilled x old same
  · exact fun fulfilled => by cases fulfilled

theorem blocked_moved (rows : Rows db) (blocked : Blocked draw offer db) (orderId : Uuid) (patch : OrderPatch) (settling : Settling patch) :
    Blocked draw offer (commit (updateOrder orderId patch) db) := by
  refine commit_of_wlp _ _ db blocked (wlp_mono _ db (updateOrder_after rows orderId patch settling) ?_)
  rintro _ t ⟨after, subscriptions, orders⟩
  obtain ⟨o, inOrders, named, buyer⟩ := blocked.order
  obtain ⟨new, inTable, moved⟩ := after_forward after o inOrders
  refine ⟨⟨new, inTable, moved.id.trans named, moved.buyerId.trans buyer⟩, after.intents ▸ blocked.intent, after.lines ▸ blocked.line,
    subscriptions ▸ blocked.ahead, subscriptions ▸ blocked.unbought, ?_⟩
  intro x member same
  rw [orders] at member
  obtain ⟨old, inOld, rfl⟩ := (mem_updateWhere _ _ _ _).mp member
  by_cases chosen : decide (old.id = orderId) = true
  · rw [if_pos chosen] at same ⊢
    rw [settling.fulfillment]
    exact blocked.unfulfilled old inOld ((settling.id old).symm.trans same)
  · rw [if_neg chosen] at same ⊢
    exact blocked.unfulfilled old inOld same

theorem blocked_delivered (rows : Rows db) (blocked : Blocked draw offer db) (orderId : Uuid) (other : orderId ≠ draw.orderId)
    (delivered : Delivers orderId (linesOf db orderId) db t) : Blocked draw offer t := by
  obtain ⟨f, restamps, orders⟩ := delivered.orders
  obtain ⟨o, inOrders, named, buyer⟩ := blocked.order
  obtain ⟨s, member, meets⟩ := blocked.ahead
  refine ⟨⟨f o, orders ▸ List.mem_map_of_mem inOrders, (restamps o).id.trans named, (restamps o).buyerId.trans buyer⟩,
    delivered.intents ▸ blocked.intent, delivered.lines ▸ blocked.line, ⟨s, delivered.kept.subset member, meets⟩, ?_, ?_⟩
  · intro m inTerms
    rcases delivered.grown m inTerms with earlier | ⟨l, inLines, ⟨listed, ofOrder, same⟩, source, _⟩
    · exact blocked.unbought m earlier
    · intro bought
      obtain ⟨inTable, ordered⟩ := List.mem_filter.mp ofOrder
      have sameId : listed.id = draw.lineId := same.trans (Option.some.inj (source.symm.trans bought))
      have line := rows.lineKey listed inTable _ blocked.line sameId
      have mine : (membershipLine draw offer).orderId = orderId := line ▸ of_decide_eq_true ordered
      exact other mine.symm
  · intro x inTable same
    rw [orders] at inTable
    obtain ⟨old, inOld, rfl⟩ := List.mem_map.mp inTable
    have ownId : old.id = draw.orderId := (restamps old).id.symm.trans same
    rw [(restamps old).other (fun mine => other (mine.symm.trans ownId))]
    exact blocked.unfulfilled old inOld ownId

theorem step_blocked (deployment : Deployment) (e : Event) (rows : Rows db) (blocked : Blocked draw offer db) :
    Blocked draw offer (step deployment db e) := by
  cases e with
  | checkout draw' catalogue call now =>
      refine commit_of_wlp _ _ db blocked (wlp_mono _ db (createCheckout_outcome draw' catalogue call now db) ?_)
      intro made t outcome
      cases made with
      | none =>
          obtain rfl : t = db := outcome
          exact blocked
      | some term => exact blocked_checkout blocked outcome
  | settle s now =>
      exact settle_store db s now _ blocked (fun _ => ⟨blocked.1, blocked.2, blocked.3, blocked.4, blocked.5, blocked.6⟩)
  | confirm orderId settlementId now => exact blocked_moved rows blocked orderId _ (confirm_settling settlementId now)
  | close orderId expired => exact blocked_moved rows blocked orderId _ (close_settling expired)
  | fulfill access orderId now =>
      by_cases mine : orderId = draw.orderId
      · subst mine
        exact commit_of_wlp _ _ db blocked (wlp_mono _ db (blocked_fails deployment rows blocked access now) (fun _ _ never => never.elim))
      · refine commit_of_wlp _ _ db blocked (wlp_mono _ db (fulfillConfirmedOrder_delivers deployment access orderId now db rows.receipts) ?_)
        rintro _ t (rfl | ⟨_, delivered⟩)
        · exact blocked
        · exact blocked_delivered rows blocked orderId mine delivered

end Steps

section Runs

variable {deployment : Deployment} {db : CommerceDb}

theorem checkedOut_blocked {draw : MembershipDraw} {catalogue : List PlanVersion} {call : CheckoutCall} {now : Instant} {t : CommerceDb}
    {term : QuotedTerm} (rows : Rows db) (out : CheckedOut draw catalogue call now db t term)
    (meets : ∃ s ∈ db.subscriptions, overlappingTerm call.learnerId (membershipIntent draw (call.offer term)) s = true) :
    Blocked draw (call.offer term) t := by
  refine ⟨⟨_, out.orders ▸ List.mem_append_right _ List.mem_cons_self, rfl, rfl⟩, out.intents ▸ List.mem_append_right _ List.mem_cons_self,
    out.lines ▸ List.mem_append_right _ List.mem_cons_self, out.subscriptions ▸ meets, ?_, ?_⟩
  · rw [out.subscriptions]
    intro s member source
    obtain ⟨l, inLines, bought, _⟩ := rows.bought s member
    exact out.freshLine l inLines (Option.some.inj (bought.1.symm.trans source))
  · rw [out.orders]
    intro o member named
    rcases (mem_append_one _ _ o).mp member with old | rfl
    · exact absurd named (out.freshOrder o old)
    · exact fun fulfilled => by cases fulfilled

theorem run_blocked {draw : MembershipDraw} {offer : MembershipOffer} (rows : Rows db) (blocked : Blocked draw offer db) (events : List Event) :
    Rows (run (step deployment) db events) ∧ Blocked draw offer (run (step deployment) db events) :=
  run_invariant (step deployment) (fun db => Rows db ∧ Blocked draw offer db)
    (fun s e held => ⟨step_rows deployment s e held.1, step_blocked deployment e held.1 held.2⟩) db events ⟨rows, blocked⟩

/-- An accepted checkout that upgrades a running plan, or whose term meets one that is still to start, can be paid and is never fulfilled. -/
theorem met_never_fulfilled (deployment : Deployment) (db : CommerceDb) (nothing : NoOrders db) (before later : List Event)
    (draw : MembershipDraw) (catalogue : List PlanVersion) (call : CheckoutCall) (now : Instant) (term : QuotedTerm) (t : CommerceDb)
    (made : createCheckout draw catalogue call now (run (step deployment) db before) = .ok (some term, t))
    (meets : upgradesRunning catalogue (run (step deployment) db before) call.learnerId call.input now = true ∨
      ∃ s ∈ (run (step deployment) db before).subscriptions,
        meetsAhead call.learnerId now (membershipIntent draw (call.offer term)) s = true) : let u := run (step deployment) t later
    (∀ o ∈ u.orders, o.id = draw.orderId → o.fulfillmentStatus ≠ .fulfilled) ∧
      (∀ s ∈ u.subscriptions, s.sourceOrderLineId ≠ some draw.lineId) ∧
      ∀ access at' v, fulfillConfirmedOrder deployment at' access draw.orderId u ≠ .ok ((), v) := by
  intro u
  have rows : Rows (run (step deployment) db before) := run_rows (noOrders_rows nothing) before
  have out : CheckedOut draw catalogue call now _ t term := createCheckout_outcome draw catalogue call now _ _ _ made
  have blocked := checkedOut_blocked rows out ((checkedOut_meets out).mpr meets)
  obtain ⟨rows', blocked'⟩ : Rows u ∧ Blocked draw (call.offer term) u := run_blocked (checkedOut_rows rows out) blocked later
  refine ⟨blocked'.unfulfilled, blocked'.unbought, ?_⟩
  intro access at' v done
  exact blocked_fails deployment rows' blocked' access at' () v done

theorem checkedOut_clear {draw : MembershipDraw} {catalogue : List PlanVersion} {call : CheckoutCall} {now : Instant} {t : CommerceDb}
    {term : QuotedTerm} (out : CheckedOut draw catalogue call now db t term) :
    (∀ s ∈ t.subscriptions, overlappingTerm call.learnerId (membershipIntent draw (call.offer term)) s = false) ↔
      upgradesRunning catalogue db call.learnerId call.input now = false ∧
        ∀ s ∈ db.subscriptions, meetsAhead call.learnerId now (membershipIntent draw (call.offer term)) s = false := by
  have meets := not_congr (checkedOut_meets out)
  rw [out.subscriptions]
  simpa only [not_exists, not_and, not_or, Bool.not_eq_true] using meets

def overlaps : Fault :=
  .conflict "Membership term overlaps an existing term."

theorem insertSubscription_throws (s : MembershipSubscription) : Throws (fun fault => fault ≠ overlaps) (insertSubscription s) := by
  refine (throws_get _).bind (fun db => (throws_require _ _ ?_).bind (fun _ => (throws_require _ _ ?_).bind (fun _ =>
    (throws_require _ _ ?_).bind (fun _ => (throws_require _ _ ?_).bind (fun _ => throws_modify _ _)))))
  all_goals
    intro same
    cases same

theorem ensureTerm_clear (draw : AccessDraw) (o : CommerceOrder) (l : CommerceOrderLine) (i : MembershipCheckoutIntent)
    (clear : ∀ s ∈ db.subscriptions, s.sourceOrderLineId ≠ some l.id → overlappingTerm o.buyerId i s = false) :
    ensureTerm draw o l i db ≠ .error overlaps := by
  unfold ensureTerm
  rw [get_bind_run]
  cases known : db.subscriptions.find? (fun s => s.sourceOrderLineId = some l.id) with
  | some s => exact fun failed => by cases failed
  | none =>
      have others : ∀ s ∈ db.subscriptions, ¬ overlappingTerm o.buyerId i s = true := by
        intro s member
        rw [Bool.not_eq_true]
        exact clear s member (of_decide_eq_false (find_none _ _ known s member))
      dsimp only
      rw [require_bind_run _ _ _ _ others]
      have written : Throws (fun fault => fault ≠ overlaps)
          (insertSubscription (membershipTerm draw o l i) >>= fun _ => pure (membershipTerm draw o l i)) :=
        (insertSubscription_throws _).bind (fun _ => throws_pure _ _)
      exact fun failed => written db _ failed rfl

/-- A checkout that is accepted records a term apart from every other exactly when it upgrades no running plan and meets no term that is
still to start; where every checkout is clear, the overlap check stops no order that is paid. -/
theorem accepted_terms_clear (deployment : Deployment) (db : CommerceDb) (nothing : NoOrders db) (events : List Event) :
    let s := run (step deployment) db events
    (∀ draw catalogue call now term t, createCheckout draw catalogue call now s = .ok (some term, t) →
      ((∀ x ∈ t.subscriptions, overlappingTerm call.learnerId (membershipIntent draw (call.offer term)) x = false) ↔
        upgradesRunning catalogue s call.learnerId call.input now = false ∧
          ∀ x ∈ s.subscriptions, meetsAhead call.learnerId now (membershipIntent draw (call.offer term)) x = false)) ∧
    (AllMeet (step deployment) ClearEvent db events → ∀ o ∈ s.orders, o.status = .confirmed → ∀ l ∈ linesOf s o.id,
      ∃ i, intentOf s o.id = some i ∧
        (∀ x ∈ s.subscriptions, x.sourceOrderLineId ≠ some l.id → overlappingTerm o.buyerId i x = false) ∧
        ∀ draw, ensureTerm draw o l i s ≠ .error overlaps) := by
  intro s
  refine ⟨?_, ?_⟩
  · intro draw catalogue call now term t made
    exact checkedOut_clear (createCheckout_outcome draw catalogue call now _ _ _ made)
  · intro clear o inOrders confirmed l listed
    obtain ⟨rows, apart⟩ := run_apart nothing events clear
    obtain ⟨inLines, ordered⟩ := List.mem_filter.mp listed
    obtain ⟨i, inIntents, placed⟩ := rows.lined l inLines
    have named : l.orderId = o.id := of_decide_eq_true ordered
    have own : i.orderId = o.id := placed.trans named
    have passes : ∀ x ∈ s.subscriptions, x.sourceOrderLineId ≠ some l.id → overlappingTerm o.buyerId i x = false :=
      fun x member other => apart_fits rows apart o inOrders confirmed l inLines named i inIntents own x member other
    exact ⟨i, keyed_find (fun i : MembershipCheckoutIntent => i.orderId) _ i rows.intentKey inIntents o.id own, passes,
      fun draw => ensureTerm_clear draw o l i passes⟩

end Runs

section Sample

def sampleOther : PlanVersion :=
  { samplePlan with id := "version-2", planId := "plan-2" }

def sampleUpgrade : CommerceTxn (Option QuotedTerm) :=
  createCheckout { orderId := "order-2", lineId := "line-2" } [samplePlan, sampleOther] (sampleCall "2" "version-2" (some .upgrade)) 1

def sampleMember : CommerceDb :=
  run (step sampleDeployment) sampleStore samplePurchase

def sampleUpgraded : CommerceDb :=
  commit sampleUpgrade sampleMember

def samplePayment : List Event :=
  [.settle (sampleSettlement "settlement-2" "order-2") 1, .confirm "order-2" "settlement-2" 1, .fulfill sampleAccess "order-2" 1]

def sampleTerm : QuotedTerm where
  action := .upgrade
  startsAt := 1
  endsAt := 2678400001
  activatesImmediately := true

theorem paid_upgrade_never_fulfilled : let u := run (step sampleDeployment) sampleUpgraded samplePayment
    (∃ o ∈ u.orders, o.id = "order-2" ∧ o.status = .confirmed) ∧
      ∀ o ∈ u.orders, o.id = "order-2" → o.fulfillmentStatus ≠ .fulfilled := by
  refine ⟨by decide +kernel, ?_⟩
  have made : sampleUpgrade sampleMember = .ok (some sampleTerm, sampleUpgraded) := by decide +kernel
  exact (met_never_fulfilled sampleDeployment sampleStore ⟨rfl, rfl, rfl, rfl, rfl⟩ samplePurchase samplePayment _ _ _ 1 sampleTerm _ made
    (.inl (by decide +kernel))).1

theorem sample_terms_clear : let s := run (step sampleDeployment) sampleStore (samplePurchase ++ sampleRenewal)
    s.orders.length = 2 ∧ ∀ o ∈ s.orders, o.status = .confirmed → ∀ l ∈ linesOf s o.id, ∃ i, intentOf s o.id = some i ∧
      ∀ draw, ensureTerm draw o l i s ≠ .error overlaps := by
  refine ⟨by decide +kernel, ?_⟩
  intro o inOrders confirmed l listed
  obtain ⟨i, found, _, passes⟩ := (accepted_terms_clear sampleDeployment sampleStore ⟨rfl, rfl, rfl, rfl, rfl⟩
    (samplePurchase ++ sampleRenewal)).2 (quiet_events_clear _ renewal_quiet) o inOrders confirmed l listed
  exact ⟨i, found, passes⟩

def sampleSecondRenewal : List Event :=
  [.checkout { orderId := "order-3", lineId := "line-3" } [samplePlan] (sampleCall "3" "version-1" none) 2000,
    .settle (sampleSettlement "settlement-3" "order-3") 2000, .confirm "order-3" "settlement-3" 2000,
    .fulfill sampleAccess "order-3" 2000]

-- The plan is renewed again while its first renewal is still to start: the order is paid, and the overlap check stops it.
theorem second_renewal_stopped :
    let s := run (step sampleDeployment) sampleStore (samplePurchase ++ sampleRenewal ++ sampleSecondRenewal)
    ∃ o ∈ s.orders, o.id = "order-3" ∧ o.status = .confirmed ∧ o.fulfillmentStatus = .notStarted ∧
      ∃ l ∈ linesOf s o.id, ∃ i ∈ s.intents, i.orderId = o.id ∧ (∃ x ∈ s.subscriptions, overlappingTerm o.buyerId i x = true) ∧
        ensureTerm sampleAccess o l i s = .error overlaps := by
  decide +kernel

end Sample

end EduAi.Memberships.Terms
