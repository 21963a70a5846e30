import EduAi.Memberships.CheckoutRuns
import EduAi.Payments.MoneyTrace

set_option autoImplicit false

namespace EduAi.Memberships.Terms

open EduAi.Store EduAi.Gds EduAi.Commerce EduAi.Payments

section Quiet

structure Quiet (catalogue : List PlanVersion) (db : CommerceDb) (call : CheckoutCall) (now : Instant) : Prop where
  waits : upgradesRunning catalogue db call.learnerId call.input now = false
  begun : ∀ s ∈ db.subscriptions, s.userId = call.learnerId → s.startsAt ≤ now
  delivered : ∀ i ∈ db.intents, i.userId = call.learnerId → Confirmed db i.orderId →
    ∃ l ∈ db.lines, l.orderId = i.orderId ∧ ∃ s ∈ db.subscriptions, s.sourceOrderLineId = some l.id

def QuietEvent (db : CommerceDb) : Event → Prop
  | .checkout draw catalogue call now =>
      ∀ term t, createCheckout draw catalogue call now db = .ok (some term, t) → Quiet catalogue db call now
  | _ => True

variable {draw : MembershipDraw} {catalogue : List PlanVersion} {call : CheckoutCall} {now : Instant} {db t : CommerceDb}
  {term : QuotedTerm}

theorem bought_term (rows : Rows db) (j : MembershipCheckoutIntent) (member : j ∈ db.intents) (l : CommerceOrderLine)
    (inLines : l ∈ db.lines) (ordered : l.orderId = j.orderId) (s : MembershipSubscription) (inTerms : s ∈ db.subscriptions)
    (source : s.sourceOrderLineId = some l.id) :
    s.userId = j.userId ∧ s.active = true ∧ s.startsAt = j.startsAt ∧ s.expiresAt = j.endsAt := by
  obtain ⟨l', inLines', ⟨source', active, ⟨o, inOrders, named, buyer⟩, i, inIntents, ordered', starts, ends⟩, _⟩ :=
    rows.bought s inTerms
  have sameId : l'.id = l.id := Option.some.inj (source'.symm.trans source)
  obtain rfl := rows.lineKey l' inLines' l inLines sameId
  obtain rfl := rows.intentKey i inIntents j member (ordered'.trans ordered)
  obtain ⟨⟨o', inOrders', named', buyer'⟩, _⟩ := rows.placed i member
  obtain rfl := rows.orderKey o inOrders o' inOrders' (named.trans (ordered.trans named'.symm))
  exact ⟨buyer.symm.trans buyer', active, starts.symm, ends.symm⟩

def Delivered (db : CommerceDb) (orderId : Uuid) : Prop :=
  ∃ l ∈ db.lines, l.orderId = orderId ∧ ∃ s ∈ db.subscriptions, s.sourceOrderLineId = some l.id

-- The term of a checkout lies apart from the terms the learner has and from those that are paid and still to be delivered.
structure Clear (catalogue : List PlanVersion) (db : CommerceDb) (call : CheckoutCall) (now : Instant) (i : MembershipCheckoutIntent) :
    Prop where
  waits : upgradesRunning catalogue db call.learnerId call.input now = false
  ahead : ∀ s ∈ db.subscriptions, meetsAhead call.learnerId now i s = false
  undelivered : ∀ j ∈ db.intents, j.userId = call.learnerId → Confirmed db j.orderId →
    Delivered db j.orderId ∨ Apart i.startsAt i.endsAt j.startsAt j.endsAt

def ClearEvent (db : CommerceDb) : Event → Prop
  | .checkout draw catalogue call now => ∀ term t, createCheckout draw catalogue call now db = .ok (some term, t) →
      Clear catalogue db call now (membershipIntent draw (call.offer term))
  | _ => True

theorem quiet_clear (quiet : Quiet catalogue db call now) (i : MembershipCheckoutIntent) : Clear catalogue db call now i := by
  refine ⟨quiet.waits, ?_, fun j member owner confirmed => .inl (quiet.delivered j member owner confirmed)⟩
  intro s member
  rw [meetsAhead, Bool.and_eq_false_iff]
  by_cases owner : s.userId = call.learnerId
  · exact .inr (decide_eq_false (not_lt.mpr (quiet.begun s member owner)))
  · left
    rw [← Bool.not_eq_true, overlapping_iff]
    exact fun meets => owner meets.1

theorem quietEvent_clear (db : CommerceDb) (e : Event) (quiet : QuietEvent db e) : ClearEvent db e := by
  cases e with
  | checkout draw catalogue call now => exact fun term t made => quiet_clear (quiet term t made) _
  | _ => trivial

theorem clear_apart (rows : Rows db) (out : CheckedOut draw catalogue call now db t term)
    (clear : Clear catalogue db call now (membershipIntent draw (call.offer term)))
    (j : MembershipCheckoutIntent) (member : j ∈ db.intents) (owner : j.userId = call.learnerId) (live : Live db j.orderId) :
    Apart term.startsAt term.endsAt j.startsAt j.endsAt := by
  obtain ⟨o, inOrders, named, pending | confirmed⟩ := live
  · exfalso
    have found : orderById db j.orderId = some o :=
      keyed_find (fun o : CommerceOrder => o.id) db.orders o rows.orderKey inOrders j.orderId named
    have none := out.settled
    rw [hasPendingIntent, List.any_eq_false] at none
    have unpaid := none j member
    rw [found] at unpaid
    simp [owner, pending] at unpaid
  · rcases clear.undelivered j member owner ⟨o, inOrders, named, confirmed⟩ with ⟨l, inLines, ordered, s, inTerms, source⟩ | apart
    · obtain ⟨buyer, active, starts, ends⟩ := bought_term rows j member l inLines ordered s inTerms source
      have own : s.userId = call.learnerId := buyer.trans owner
      by_cases begun : s.startsAt ≤ now
      · have started := (started_mem s).mpr ⟨inTerms, own, active, begun⟩
        exact .inr (ends ▸ quoted_after out.quoted clear.waits s started)
      · have ahead := clear.ahead s inTerms
        rw [meetsAhead, Bool.and_eq_false_iff] at ahead
        have overlaps := ahead.resolve_right (by simpa using begun)
        rw [← Bool.not_eq_true, overlapping_iff] at overlaps
        by_contra meets
        rw [Apart, not_or, not_le, not_le] at meets
        exact overlaps ⟨own, active, starts ▸ meets.1, ends ▸ meets.2⟩
    · exact apart

theorem checkedOut_apart (rows : Rows db) (apart : TermsApart db) (out : CheckedOut draw catalogue call now db t term)
    (clear : Clear catalogue db call now (membershipIntent draw (call.offer term))) : TermsApart t := by
  have before (j : MembershipCheckoutIntent) (member : j ∈ db.intents) (live : Live t j.orderId) : Live db j.orderId := by
    obtain ⟨o, inOrders, named, status⟩ := live
    rw [out.orders] at inOrders
    rcases (mem_append_one _ _ o).mp inOrders with old | rfl
    · exact ⟨o, old, named, status⟩
    · exact absurd named.symm (out.freshIntent j member)
  intro i memberI j memberJ other owner liveI liveJ
  rw [out.intents] at memberI memberJ
  rcases (mem_append_one _ _ i).mp memberI with oldI | rfl
  · rcases (mem_append_one _ _ j).mp memberJ with oldJ | rfl
    · exact apart i oldI j oldJ other owner (before i oldI liveI) (before j oldJ liveJ)
    · exact (clear_apart rows out clear i oldI owner (before i oldI liveI)).symm
  · rcases (mem_append_one _ _ j).mp memberJ with oldJ | rfl
    · exact clear_apart rows out clear j oldJ owner.symm (before j oldJ liveJ)
    · exact absurd rfl other

end Quiet

section Steps

variable (deployment : Deployment) (db : CommerceDb) (e : Event)

theorem settle_store (s : CommerceSettlement) (now : Instant) (P : CommerceDb → Prop) (kept : P db)
    (beside : ∀ rows, P { db with settlements := rows }) : P (commit (insertSettlement now s) db) := by
  refine commit_of_wlp _ P db kept ?_
  rw [wlp_insertSettlement]
  exact fun _ _ => beside _

-- What an event may do to the rows of orders: nothing, a checkout, or a step of a payment, a closing or a fulfilment.
inductive Stepped (t : CommerceDb) : Prop where
  | checkout (draw : MembershipDraw) (catalogue : List PlanVersion) (call : CheckoutCall) (now : Instant) (term : QuotedTerm)
      (event : e = .checkout draw catalogue call now) (ran : createCheckout draw catalogue call now db = .ok (some term, t))
      (out : CheckedOut draw catalogue call now db t term)
  | after (moved : StoreAfter db t)

theorem after_same (t : CommerceDb) (rows : Rows db) (orders : t.orders = db.orders) (lines : t.lines = db.lines)
    (intents : t.intents = db.intents)
    (generations : t.generations = db.generations) (subscriptions : t.subscriptions = db.subscriptions) : StoreAfter db t := by
  refine ⟨⟨id, ?_, ?_⟩, lines, intents, generations, ?_⟩
  · intro o member
    exact ⟨rfl, rfl, rows.early o member, id, id⟩
  · rw [List.map_id, orders]
  · intro s member
    rw [subscriptions] at member
    exact .inl member

theorem step_stepped (rows : Rows db) : Stepped db e (step deployment db e) := by
  have still : Stepped db e db := .after (after_same db db rows rfl rfl rfl rfl rfl)
  cases e with
  | checkout draw catalogue call now =>
      refine commit_of_wlp _ _ db still ?_
      refine wlp_mono _ db (wlp_and _ db (createCheckout_outcome draw catalogue call now db) (wlp_run _ db)) ?_
      rintro made t ⟨outcome, ran⟩
      cases made with
      | none =>
          obtain rfl : t = db := outcome
          exact still
      | some term => exact .checkout draw catalogue call now term rfl ran outcome
  | settle s now =>
      exact settle_store db s now _ still (fun _ => .after (after_same db _ rows rfl rfl rfl rfl rfl))
  | confirm orderId settlementId now =>
      exact commit_of_wlp _ _ db still (wlp_mono _ db (updateOrder_after rows orderId _ (confirm_settling settlementId now))
        (fun _ t moved => .after moved.1))
  | close orderId expired =>
      exact commit_of_wlp _ _ db still (wlp_mono _ db (updateOrder_after rows orderId _ (close_settling expired))
        (fun _ t moved => .after moved.1))
  | fulfill draw orderId now =>
      refine commit_of_wlp _ _ db still (wlp_mono _ db (fulfillConfirmedOrder_delivers deployment draw orderId now db rows.receipts) ?_)
      rintro _ t (rfl | ⟨confirmed, delivered⟩)
      · exact still
      · exact .after (delivered_after rows orderId confirmed delivered)

theorem step_rows (rows : Rows db) : Rows (step deployment db e) := by
  cases step_stepped deployment db e rows with
  | checkout draw catalogue call now term event ran out => exact checkedOut_rows rows out
  | after moved => exact after_rows moved rows

theorem step_apart (rows : Rows db) (apart : TermsApart db) (clear : ClearEvent db e) : TermsApart (step deployment db e) := by
  cases step_stepped deployment db e rows with
  | checkout draw catalogue call now term event ran out =>
      subst event
      exact checkedOut_apart rows apart out (clear term _ ran)
  | after moved => exact after_apart moved apart

end Steps

structure NoOrders (db : CommerceDb) : Prop where
  orders : db.orders = []
  lines : db.lines = []
  intents : db.intents = []
  subscriptions : db.subscriptions = []
  generations : db.generations = []

section Runs

variable {deployment : Deployment} {db : CommerceDb}

theorem noOrders_rows (nothing : NoOrders db) : Rows db := by
  constructor
  case orderKey | early => simp [nothing.orders]
  case lineKey | oneLine | lined => simp [nothing.lines]
  case intentKey | placed | window => simp [nothing.intents]
  case receipts => exact nothing.generations
  case bought => simp [nothing.subscriptions]

theorem run_rows (rows : Rows db) (events : List Event) : Rows (run (step deployment) db events) :=
  run_invariant (step deployment) Rows (step_rows deployment) db events rows

theorem run_apart (nothing : NoOrders db) (events : List Event) (clear : AllMeet (step deployment) ClearEvent db events) :
    Rows (run (step deployment) db events) ∧ TermsApart (run (step deployment) db events) := by
  refine run_invariant_meet (step deployment) ClearEvent (fun db => Rows db ∧ TermsApart db) ?_ db events ⟨noOrders_rows nothing, ?_⟩ clear
  · intro s e held meets
    exact ⟨step_rows deployment s e held.1, step_apart deployment s e held.1 held.2 meets⟩
  · intro i member
    rw [nothing.intents] at member
    cases member

theorem quiet_events_clear (events : List Event) (quiet : AllMeet (step deployment) QuietEvent db events) :
    AllMeet (step deployment) ClearEvent db events :=
  allMeet_shows (step deployment) QuietEvent ClearEvent (fun _ => True) (fun _ _ _ _ => trivial)
    (fun s e _ meets => quietEvent_clear s e meets) db events trivial quiet

theorem apart_fits (rows : Rows db) (apart : TermsApart db) (o : CommerceOrder) (inOrders : o ∈ db.orders) (paid : o.status = .confirmed)
    (l : CommerceOrderLine) (inLines : l ∈ db.lines) (ordered : l.orderId = o.id) (i : MembershipCheckoutIntent)
    (intent : i ∈ db.intents) (placed : i.orderId = o.id) (s : MembershipSubscription) (inTerms : s ∈ db.subscriptions)
    (other : s.sourceOrderLineId ≠ some l.id) : overlappingTerm o.buyerId i s = false := by
  obtain ⟨l', inLines', bought, confirmed⟩ := rows.bought s inTerms
  obtain ⟨j, inIntents, ordered'⟩ := rows.lined l' inLines'
  obtain ⟨owner, _, starts, ends⟩ := bought_term rows j inIntents l' inLines' ordered'.symm s inTerms bought.1
  have elsewhere : i.orderId ≠ j.orderId := by
    intro same
    have sameLine := rows.oneLine l inLines l' inLines' (ordered.trans (placed.symm.trans (same.trans ordered')))
    exact other (sameLine ▸ bought.1)
  by_contra meets
  rw [Bool.not_eq_false] at meets
  obtain ⟨buyer, _, begins, runs⟩ := (overlapping_iff _ _ s).mp meets
  obtain ⟨⟨o', inOrders', named', buyer'⟩, _⟩ := rows.placed i intent
  obtain rfl := rows.orderKey o' inOrders' o inOrders (named'.trans placed)
  have own : i.userId = j.userId := buyer'.symm.trans (buyer.symm.trans owner)
  obtain ⟨x, paidRow, named, status⟩ := confirmed
  have live : Live db j.orderId := ⟨x, paidRow, named.trans ordered'.symm, .inr status⟩
  rcases apart i intent j inIntents elsewhere own ⟨o', inOrders', placed.symm, .inr paid⟩ live with before | after
  · exact absurd begins (not_lt.mpr (starts ▸ before))
  · exact absurd runs (not_lt.mpr (ends ▸ after))

theorem ensureTerm_fits (rows : Rows db) (apart : TermsApart db) (o : CommerceOrder) (inOrders : o ∈ db.orders)
    (paid : o.status = .confirmed) (l : CommerceOrderLine) (inLines : l ∈ db.lines) (ordered : l.orderId = o.id)
    (i : MembershipCheckoutIntent) (intent : i ∈ db.intents) (placed : i.orderId = o.id) (draw : AccessDraw)
    (fresh : ∀ s ∈ db.subscriptions, s.id ≠ draw.subscriptionId l.id) : ∃ term t, ensureTerm draw o l i db = .ok (term, t) := by
  unfold ensureTerm
  rw [get_bind_run]
  cases known : db.subscriptions.find? (fun s => s.sourceOrderLineId = some l.id) with
  | some s => exact ⟨s, db, rfl⟩
  | none =>
      have others (s : MembershipSubscription) (member : s ∈ db.subscriptions) : s.sourceOrderLineId ≠ some l.id :=
        of_decide_eq_false (find_none _ _ known s member)
      have clear : ∀ s ∈ db.subscriptions, ¬ overlappingTerm o.buyerId i s = true := by
        intro s member
        rw [Bool.not_eq_true]
        exact apart_fits rows apart o inOrders paid l inLines ordered i intent placed s member (others s member)
      obtain ⟨_, l', inLines', ordered', product, reference⟩ := rows.placed i intent
      obtain rfl := rows.oneLine l' inLines' l inLines (ordered'.trans (placed.trans ordered.symm))
      dsimp only
      rw [require_bind_run _ _ _ _ clear]
      have window : (membershipTerm draw o l' i).startsAt < (membershipTerm draw o l' i).expiresAt := rows.window i intent
      have snapshot : ∀ lineId, (membershipTerm draw o l' i).sourceOrderLineId = some lineId →
          ∃ l ∈ db.lines, l.id = lineId ∧ l.productType = .membership ∧ l.productReferenceId = (membershipTerm draw o l' i).versionId ∧
            (∃ o' ∈ db.orders, o'.id = l.orderId ∧ o'.buyerId = (membershipTerm draw o l' i).userId) ∧
            (∃ j ∈ db.intents, j.orderId = l.orderId ∧ j.versionId = (membershipTerm draw o l' i).versionId ∧
              j.startsAt = (membershipTerm draw o l' i).startsAt ∧ j.endsAt = (membershipTerm draw o l' i).expiresAt) := by
        intro lineId named
        obtain rfl := Option.some.inj named
        exact ⟨l', inLines', rfl, product, reference, ⟨o, inOrders, ordered.symm, rfl⟩, i, intent, ordered'.symm, rfl, rfl, rfl⟩
      have freshId : free (fun s => some s.id) (membershipTerm draw o l' i) db.subscriptions = true := by
        rw [free_iff]
        intro s member k named same
        exact fresh s member (Option.some.inj (same.trans named.symm))
      have freshLine : free (fun s => s.sourceOrderLineId) (membershipTerm draw o l' i) db.subscriptions = true := by
        rw [free_iff]
        intro s member k named same
        exact others s member (same.trans named.symm)
      refine ⟨membershipTerm draw o l' i, { db with subscriptions := db.subscriptions ++ [membershipTerm draw o l' i] }, ?_⟩
      refine (bind_run _ _ db _ () ?_).trans rfl
      unfold insertSubscription
      rw [get_bind_run, require_bind_run _ _ _ _ window, require_bind_run _ _ _ _ snapshot, require_bind_run _ _ _ _ freshId,
        require_bind_run _ _ _ _ freshLine]
      rfl

theorem bought_apart (rows : Rows db) (apart : TermsApart db) (s : MembershipSubscription) (inTerms : s ∈ db.subscriptions)
    (s' : MembershipSubscription) (inTerms' : s' ∈ db.subscriptions) (owner : s.userId = s'.userId)
    (other : s.sourceOrderLineId ≠ s'.sourceOrderLineId) : Apart s.startsAt s.expiresAt s'.startsAt s'.expiresAt := by
  have origin (m : MembershipSubscription) (member : m ∈ db.subscriptions) : ∃ l ∈ db.lines, ∃ i ∈ db.intents, i.orderId = l.orderId ∧
      m.sourceOrderLineId = some l.id ∧ m.userId = i.userId ∧ m.startsAt = i.startsAt ∧ m.expiresAt = i.endsAt ∧ Live db i.orderId := by
    obtain ⟨l, inLines, bought, o, inOrders, named, status⟩ := rows.bought m member
    obtain ⟨i, inIntents, ordered⟩ := rows.lined l inLines
    obtain ⟨buyer, _, starts, ends⟩ := bought_term rows i inIntents l inLines ordered.symm m member bought.1
    exact ⟨l, inLines, i, inIntents, ordered, bought.1, buyer, starts, ends, o, inOrders, named.trans ordered.symm, .inr status⟩
  obtain ⟨l, inLines, i, inIntents, ordered, source, buyer, starts, ends, live⟩ := origin s inTerms
  obtain ⟨l', inLines', i', inIntents', ordered', source', buyer', starts', ends', live'⟩ := origin s' inTerms'
  have elsewhere : i.orderId ≠ i'.orderId := by
    intro same
    have sameLine := rows.oneLine l inLines l' inLines' (ordered.symm.trans (same.trans ordered'))
    exact other (source.trans (sameLine ▸ source'.symm))
  rw [starts, ends, starts', ends']
  exact apart i inIntents i' inIntents' elsewhere (buyer.symm.trans (owner.trans buyer')) live live'

/-- Where every checkout is quiet, the term of every confirmed order is there or can be written, and all terms lie apart. -/
theorem quiet_runs_fulfil (deployment : Deployment) (db : CommerceDb) (events : List Event) (nothing : NoOrders db)
    (quiet : AllMeet (step deployment) QuietEvent db events) : let t := run (step deployment) db events
    (∀ o ∈ t.orders, o.status = .confirmed → ∀ l ∈ linesOf t o.id, ∃ i, intentOf t o.id = some i ∧ ∀ draw : AccessDraw,
      (∀ s ∈ t.subscriptions, s.id ≠ draw.subscriptionId l.id) → ∃ term u, ensureTerm draw o l i t = .ok (term, u)) ∧
    ∀ s ∈ t.subscriptions, ∀ s' ∈ t.subscriptions, s.userId = s'.userId → s.sourceOrderLineId ≠ s'.sourceOrderLineId →
      Apart s.startsAt s.expiresAt s'.startsAt s'.expiresAt := by
  intro t
  obtain ⟨rows, apart⟩ := run_apart nothing events (quiet_events_clear events quiet)
  refine ⟨?_, bought_apart rows apart⟩
  intro o inOrders confirmed l listed
  obtain ⟨inLines, ordered⟩ := List.mem_filter.mp listed
  obtain ⟨i, inIntents, placed⟩ := rows.lined l inLines
  have own : i.orderId = o.id := placed.trans (of_decide_eq_true ordered)
  refine ⟨i, keyed_find (fun i : MembershipCheckoutIntent => i.orderId) _ i rows.intentKey inIntents o.id own, ?_⟩
  intro draw fresh
  exact ensureTerm_fits rows apart o inOrders confirmed l inLines (of_decide_eq_true ordered) i inIntents own draw fresh

end Runs

section Sample

def samplePlan : PlanVersion where
  id := "version-1"
  planId := "plan-1"
  versionNumber := 1
  published := true
  planActive := true
  salesStartAt := none
  salesEndAt := none
  durationOptions := [{ id := "month", months := 1 }]

def sampleStore : CommerceDb :=
  { emptyCommerceDb 0 with versions := [{ id := "version-1", includedCourses := [], serviceEntitlements := [] },
    { id := "version-2", includedCourses := [], serviceEntitlements := [] }] }

def sampleCall (key : String) (versionId : Uuid) (change : Option RequestedChange) : CheckoutCall where
  learnerId := "learner-1"
  keyHash := key
  requestHash := key
  input := { versionId, durationOptionId := "month", changedBenefitsConfirmed := true, requestedChange := change }
  sellerId := "seller-1"
  listAmountMinor := 0
  amountMinor := 0
  removedCourses := []

def sampleSettlement (id orderId : Uuid) : CommerceSettlement where
  id := id
  orderId := orderId
  paymentAttemptId := none
  paymentEventId := none
  kind := .noPaymentRequired
  disposition := .internal
  provider := none
  providerSettlementReference := none
  amountMinor := 0
  currency := "VND"
  settledAt := 0

def sampleAccess : AccessDraw where
  subscriptionId := fun lineId => "subscription-" ++ lineId
  grantId := fun _ => "grant"
  entitlementId := fun _ _ => "entitlement"

def samplePurchase : List Event :=
  [.checkout { orderId := "order-1", lineId := "line-1" } [samplePlan] (sampleCall "1" "version-1" none) 0,
    .settle (sampleSettlement "settlement-1" "order-1") 0, .confirm "order-1" "settlement-1" 0, .fulfill sampleAccess "order-1" 0]

theorem purchase_quiet : AllMeet (step sampleDeployment) QuietEvent sampleStore samplePurchase := by
  refine ⟨?_, trivial, trivial, trivial, trivial⟩
  intro term t _
  refine ⟨by decide, ?_, ?_⟩
  · intro s member
    cases member
  · intro i member
    cases member

def sampleRenewal : List Event :=
  [.checkout { orderId := "order-2", lineId := "line-2" } [samplePlan] (sampleCall "2" "version-1" none) 1000,
    .settle (sampleSettlement "settlement-2" "order-2") 1000, .confirm "order-2" "settlement-2" 1000, .fulfill sampleAccess "order-2" 1000]

theorem renewal_quiet : AllMeet (step sampleDeployment) QuietEvent sampleStore (samplePurchase ++ sampleRenewal) := by
  rw [allMeet_append]
  refine ⟨purchase_quiet, ?_, trivial, trivial, trivial, trivial⟩
  have begun : (run (step sampleDeployment) sampleStore samplePurchase).subscriptions.all (fun s => s.startsAt ≤ 1000) = true := by
    decide +kernel
  have delivered : (run (step sampleDeployment) sampleStore samplePurchase).intents.all (fun i =>
      (run (step sampleDeployment) sampleStore samplePurchase).lines.any (fun l => l.orderId = i.orderId ∧
        (run (step sampleDeployment) sampleStore samplePurchase).subscriptions.any (fun s => s.sourceOrderLineId = some l.id))) = true := by
    decide +kernel
  intro term t _
  refine ⟨by decide +kernel, fun s member _ => of_decide_eq_true (List.all_eq_true.mp begun s member), fun i member _ _ => ?_⟩
  obtain ⟨l, inLines, found⟩ := List.any_eq_true.mp (List.all_eq_true.mp delivered i member)
  obtain ⟨ordered, bought⟩ := of_decide_eq_true found
  obtain ⟨s, inTerms, source⟩ := List.any_eq_true.mp bought
  exact ⟨l, inLines, ordered, s, inTerms, of_decide_eq_true source⟩

-- Both orders are fulfilled, and the second term does not meet the first.
theorem purchase_fulfilled : let t := run (step sampleDeployment) sampleStore (samplePurchase ++ sampleRenewal)
    t.orders.map (fun o => (o.status, o.fulfillmentStatus)) = [(.confirmed, .fulfilled), (.confirmed, .fulfilled)] ∧
      (∀ o ∈ t.orders, o.status = .confirmed → ∀ l ∈ linesOf t o.id, ∃ i, intentOf t o.id = some i) ∧
      t.subscriptions.length = 2 ∧ ∀ s ∈ t.subscriptions, ∀ s' ∈ t.subscriptions, s.userId = s'.userId →
        s.sourceOrderLineId ≠ s'.sourceOrderLineId → Apart s.startsAt s.expiresAt s'.startsAt s'.expiresAt := by
  intro t
  obtain ⟨terms, apart⟩ := quiet_runs_fulfil sampleDeployment sampleStore (samplePurchase ++ sampleRenewal) ⟨rfl, rfl, rfl, rfl, rfl⟩
    renewal_quiet
  refine ⟨by decide +kernel, fun o inOrders confirmed l listed => ?_, by decide +kernel, apart⟩
  obtain ⟨i, found, _⟩ := terms o inOrders confirmed l listed
  exact ⟨i, found⟩

end Sample

end EduAi.Memberships.Terms
