import EduAi.Memberships.Checkout
import EduAi.Payments.CheckoutWrites
import EduAi.Store.Checks
import EduAi.Store.Keyed

set_option autoImplicit false

namespace EduAi.Memberships.Terms

open EduAi.Store EduAi.Gds EduAi.Commerce EduAi.Payments

section Quote

variable (catalogue : List PlanVersion) (db : CommerceDb) (learnerId : Uuid) (input : CreateMembershipCheckoutDto) (now : Instant)

def upgradesRunning : Bool :=
  hasActiveMembership (currentSubscription db learnerId now) now && !decide (input.requestedChange = some .downgrade) &&
    (offeredVersion catalogue input.versionId).all (fun v => !ofPlan catalogue (currentSubscription db learnerId now) v.planId)

structure Quoted (term : QuotedTerm) : Prop where
  action : ∃ version, offeredVersion catalogue input.versionId = some version ∧
    term.action = checkoutAction (currentSubscription db learnerId now)
      (ofPlan catalogue (currentSubscription db learnerId now) version.planId) now input.requestedChange
  startsAt : term.startsAt = if term.action = .renew ∨ term.action = .downgrade then
    (((currentSubscription db learnerId now).map (fun s => s.expiresAt)).filter (fun expiry => now < expiry)).getD now else now

theorem resolved_start (action : MembershipChangeAction) (months paymentAt : Int) (activeExpiresAt : Option Int) (term : MembershipTerm)
    (resolved : resolveMembershipChange action months paymentAt activeExpiresAt = .ok term) :
    term.startsAt = if action = .renew ∨ action = .downgrade then
      (activeExpiresAt.filter (fun expiry => paymentAt < expiry)).getD paymentAt else paymentAt := by
  unfold resolveMembershipChange at resolved
  obtain ⟨endsAt, _, resolved⟩ := (answered_bind _ _ _).mp resolved
  obtain rfl := (answered_pure _ _).mp resolved
  rfl

theorem quoteTerm_quoted :
    Wlp (quoteTerm catalogue learnerId input now) (fun term t => t = db ∧ Quoted catalogue db learnerId input now term) db := by
  simp only [quoteTerm, wlp_bind, wlp_get, wlp_orThrow, wlp_require]
  intro version offered _ duration _ _ _
  cases resolved : resolveMembershipChange (checkoutAction (currentSubscription db learnerId now)
      (ofPlan catalogue (currentSubscription db learnerId now) version.planId) now input.requestedChange) duration.months now
      ((currentSubscription db learnerId now).map (fun s => s.expiresAt)) with
  | error message => exact wlp_throw _ _ _
  | ok term =>
      simp only [wlp_bind, wlp_orThrow, wlp_pure]
      intro endsAt _
      exact ⟨trivial, ⟨version, offered, rfl⟩, resolved_start _ _ _ _ _ resolved⟩

variable {catalogue db learnerId input now} {term : QuotedTerm}

theorem started_mem (s : MembershipSubscription) :
    s ∈ startedTerms db learnerId now ↔ s ∈ db.subscriptions ∧ s.userId = learnerId ∧ s.active = true ∧ s.startsAt ≤ now := by
  rw [startedTerms, List.mem_filter, decide_eq_true_eq]

theorem started_before (s : MembershipSubscription) (member : s ∈ startedTerms db learnerId now) :
    ∃ c, currentSubscription db learnerId now = some c ∧ s.expiresAt ≤ c.expiresAt := by
  cases current : currentSubscription db learnerId now with
  | none =>
      have empty := latestBy_none _ _ current
      rw [empty] at member
      cases member
  | some c => exact ⟨c, rfl, latestBy_most _ _ c current s member⟩

theorem quoted_after (quoted : Quoted catalogue db learnerId input now term)
    (waits : upgradesRunning catalogue db learnerId input now = false) (s : MembershipSubscription)
    (member : s ∈ startedTerms db learnerId now) : s.expiresAt ≤ term.startsAt := by
  obtain ⟨c, current, before⟩ := started_before s member
  obtain ⟨version, offered, action⟩ := quoted.action
  have starts := quoted.startsAt
  rw [upgradesRunning, offered, current] at waits
  rw [current] at action starts
  rw [Option.map_some, Option.filter_some] at starts
  refine le_trans before ?_
  by_cases running : now < c.expiresAt
  · have goesOn : term.action = .renew ∨ term.action = .downgrade := by
      rw [action]
      unfold checkoutAction
      by_cases samePlan : ofPlan catalogue (some c) version.planId = true
      · simp [samePlan]
      · have asked : input.requestedChange = some .downgrade := by
          simpa [hasActiveMembership, running, samePlan] using waits
        simp [samePlan, hasActiveMembership, running, asked]
    rw [if_pos goesOn, if_pos (by simpa using running)] at starts
    exact le_of_eq starts.symm
  · have nothing : (if (decide (now < c.expiresAt)) = true then some c.expiresAt else none) = none :=
      if_neg (by simpa using running)
    rw [nothing] at starts
    have begins : term.startsAt = now := by
      rw [starts]
      split <;> rfl
    rw [begins]
    exact not_lt.mp running

theorem quoted_upgrade (quoted : Quoted catalogue db learnerId input now term)
    (upgrades : upgradesRunning catalogue db learnerId input now = true) :
    term.startsAt = now ∧ ∃ c ∈ startedTerms db learnerId now, now < c.expiresAt := by
  obtain ⟨version, offered, action⟩ := quoted.action
  rw [upgradesRunning, offered, Bool.and_eq_true, Bool.and_eq_true] at upgrades
  obtain ⟨⟨running, waits⟩, other⟩ := upgrades
  cases current : currentSubscription db learnerId now with
  | none =>
      rw [current] at running
      cases running
  | some c =>
      rw [current] at running action other
      have unlike : ofPlan catalogue (some c) version.planId = false := by simpa using other
      have asked : input.requestedChange ≠ some .downgrade := by simpa using waits
      have upgrade : term.action = .upgrade := by
        rw [action]
        simp [checkoutAction, unlike, running, asked]
      have starts := quoted.startsAt
      rw [upgrade, if_neg (by simp)] at starts
      refine ⟨starts, c, latestBy_mem _ _ c current, ?_⟩
      simpa [hasActiveMembership] using running

end Quote

structure CheckedOut (draw : MembershipDraw) (catalogue : List PlanVersion) (call : CheckoutCall) (now : Instant)
    (db t : CommerceDb) (term : QuotedTerm) : Prop where
  quoted : Quoted catalogue db call.learnerId call.input now term
  settled : hasPendingIntent db call.learnerId = false
  window : term.startsAt < term.endsAt
  freshOrder : ∀ o ∈ db.orders, o.id ≠ draw.orderId
  freshIntent : ∀ i ∈ db.intents, i.orderId ≠ draw.orderId
  freshLine : ∀ l ∈ db.lines, l.id ≠ draw.lineId
  orders : t.orders = db.orders ++ [membershipOrder draw (call.offer term)]
  intents : t.intents = db.intents ++ [membershipIntent draw (call.offer term)]
  lines : t.lines = db.lines ++ [membershipLine draw (call.offer term)]
  subscriptions : t.subscriptions = db.subscriptions
  generations : t.generations = db.generations

theorem createCheckout_outcome (draw : MembershipDraw) (catalogue : List PlanVersion) (call : CheckoutCall) (now : Instant)
    (db : CommerceDb) :
    Wlp (createCheckout draw catalogue call now)
      (fun made t => match made with
        | none => t = db
        | some term => CheckedOut draw catalogue call now db t term) db := by
  unfold createCheckout
  rw [wlp_bind, wlp_require]
  intro _
  rw [wlp_bind, wlp_get]
  cases known : idempotencyRecord db call.learnerId membershipCheckoutOperation call.keyHash with
  | some existing =>
      simp only [wlp_bind, wlp_require, wlp_pure]
      exact fun _ => trivial
  | none =>
      simp only [wlp_bind, wlp_require]
      intro settled
      refine wlp_mono _ db (quoteTerm_quoted catalogue db call.learnerId call.input now) ?_
      rintro term _ ⟨rfl, quoted⟩
      unfold createCheckoutTransaction
      rw [wlp_bind, wlp_get]
      have unknown : idempotencyRecord _ (call.offer term).learnerId membershipCheckoutOperation (call.offer term).keyHash = none := known
      rw [unknown, wlp_bind]
      refine wlp_mono _ _ (recordIdempotency_store _ _) ?_
      rintro _ _ ⟨rows, rfl⟩
      simp only [createMembershipOrder, wlp_bind, wlp_require, wlp_insertOrder, wlp_insertIntent, wlp_insertOrderLine, wlp_pure]
      intro _ _ order o intent o' line
      exact {
        quoted := quoted
        settled := by simpa using settled
        window := intent.window
        freshOrder := free_key (fun o : CommerceOrder => o.id) _ _ order.freshId
        freshIntent := free_key (fun i : MembershipCheckoutIntent => i.orderId) _ _ intent.freshOrder
        freshLine := free_key (fun l : CommerceOrderLine => l.id) _ _ line.freshId
        orders := rfl
        intents := rfl
        lines := rfl
        subscriptions := rfl
        generations := rfl }

section Meeting

variable {draw : MembershipDraw} {catalogue : List PlanVersion} {call : CheckoutCall} {now : Instant} {db t : CommerceDb}
  {term : QuotedTerm}

theorem overlapping_iff (learnerId : Uuid) (i : MembershipCheckoutIntent) (s : MembershipSubscription) :
    overlappingTerm learnerId i s = true ↔
      s.userId = learnerId ∧ s.active = true ∧ s.startsAt < i.endsAt ∧ i.startsAt < s.expiresAt := by
  rw [overlappingTerm, decide_eq_true_eq]

def meetsAhead (learnerId : Uuid) (now : Instant) (i : MembershipCheckoutIntent) (s : MembershipSubscription) : Bool :=
  overlappingTerm learnerId i s && decide (now < s.startsAt)

theorem checkedOut_meets (out : CheckedOut draw catalogue call now db t term) :
    (∃ s ∈ db.subscriptions, overlappingTerm call.learnerId (membershipIntent draw (call.offer term)) s = true) ↔
      upgradesRunning catalogue db call.learnerId call.input now = true ∨
        ∃ s ∈ db.subscriptions, meetsAhead call.learnerId now (membershipIntent draw (call.offer term)) s = true := by
  constructor
  · rintro ⟨s, member, meets⟩
    obtain ⟨owner, active, starts, ends⟩ := (overlapping_iff _ _ s).mp meets
    by_cases begun : s.startsAt ≤ now
    · left
      by_contra waits
      have after := quoted_after out.quoted (Bool.not_eq_true _ ▸ waits) s (started_mem s |>.mpr ⟨member, owner, active, begun⟩)
      exact absurd ends (not_lt.mpr after)
    · right
      refine ⟨s, member, ?_⟩
      rw [meetsAhead, meets, Bool.true_and, decide_eq_true_eq]
      exact not_le.mp begun
  · rintro (upgrades | ⟨s, member, ahead⟩)
    · obtain ⟨begins, c, started, runs⟩ := quoted_upgrade out.quoted upgrades
      obtain ⟨member, owner, active, begun⟩ := (started_mem c).mp started
      have window := out.window
      refine ⟨c, member, (overlapping_iff _ _ c).mpr ⟨owner, active, ?_, ?_⟩⟩
      · rw [begins] at window
        exact lt_of_le_of_lt begun window
      · show term.startsAt < c.expiresAt
        rw [begins]
        exact runs
    · exact ⟨s, member, (Bool.and_eq_true _ _ ▸ ahead).1⟩

end Meeting

end EduAi.Memberships.Terms
