import EduAi.Payments.MoneyTrace

set_option autoImplicit false

namespace EduAi.Payments

open EduAi.Store EduAi.Gds EduAi.Commerce

variable {scope : Scope}

def EffectsFinal (db t : CommerceDb) : Prop :=
  ∀ o ∈ db.orders, o.fulfillmentStatus = .fulfilled → ∀ e ∈ t.effects, e.orderId = o.id → e ∈ db.effects

theorem effectsFinal_trans (db t u : CommerceDb) (kept : Kept db t) (first : EffectsFinal db t) (second : EffectsFinal t u) :
    EffectsFinal db u := by
  intro o ho fulfilled e he order
  obtain ⟨o', ho', same⟩ := kept.orders o ho
  exact first o ho fulfilled e (second o' ho' (same.fulfilled fulfilled) e he (order.trans same.id.symm)) order

section Preserved

variable (allow : Allowance) (db t : CommerceDb) (whole : Whole db)

include whole

theorem fulfilled_confirmed (o : CommerceOrder) (ho : o ∈ db.orders) (fulfilled : o.fulfillmentStatus = .fulfilled) :
    o.status = .confirmed :=
  (whole.delivered.backed.orders o ho).2.2 (by rw [fulfilled]; decide)

theorem awaiting_unfulfilled (now : Instant) (s : CommerceSettlement) (x : CommerceOrder) (u : CommerceDb)
    (confirms : Confirmation scope db now s x u) (o : CommerceOrder) (ho : o ∈ db.orders)
    (fulfilled : o.fulfillmentStatus = .fulfilled) : o.id ≠ s.orderId := by
  intro order
  have settled := writes_one _ _ (Write.settle db now s x confirms.fits confirms.collected)
  have path := writes_trans _ _ _ settled (writes_mono (fun _ _ w => Write.routine _ _ w) _ _ confirms.moved)
  have kept := writes_kept db u whole.delivered.backed.keys path
  have keys := writes_keys db u whole.delivered.backed.keys path
  obtain ⟨o', ho', same⟩ := kept.orders o ho
  obtain ⟨hx, named⟩ := orderById_some u s.orderId x confirms.moves.found
  have one : o' = x := order_same u keys o' x ho' hx (same.id.trans (order.trans named.symm))
  have confirmed := same.confirmed (fulfilled_confirmed db whole o ho fulfilled)
  rw [one, confirms.awaiting] at confirmed
  cases confirmed

theorem transition_effectsFinal (step : Transition allow db t) : EffectsFinal db t := by
  intro o ho fulfilled e he order
  have carried : t.effects = db.effects → e ∈ db.effects := fun same => same ▸ he
  cases step with
  | routine t w => exact carried (routine_effects db t w)
  | collected now s x u confirms matched banked => exact carried (confirmation_effects db now s x u confirms)
  | gifted now s x u confirms internal free allowed => exact carried (confirmation_effects db now s x u confirms)
  | granted now s x u t confirms internal done =>
    rcases done.effects e he with before | own
    · rw [confirmation_effects db now s x u confirms] at before
      exact before
    · exact absurd (order.symm.trans own) (awaiting_unfulfilled db whole now s x u confirms o ho fulfilled)
  | completed orderId x t found confirmed unfulfilled done =>
    rcases done.effects e he with before | own
    · exact before
    · obtain ⟨hx, named⟩ := orderById_some db orderId x found
      have one : o = x := order_same db whole.delivered.backed.keys o x ho hx (order.symm.trans (own.trans named.symm))
      rw [one] at fulfilled
      exact absurd fulfilled unfulfilled
  | _ => exact carried rfl

theorem transitions_effectsFinal (steps : Writes (Transition allow) db t) : EffectsFinal db t := by
  induction steps with
  | refl => exact fun _ _ _ _ he _ => he
  | tail path step ih =>
    have reached := transitions_whole allow db _ path whole
    have kept := writes_kept db _ whole.delivered.backed.keys (transitions_writes allow db _ path)
    exact effectsFinal_trans db _ _ kept ih (transition_effectsFinal allow _ _ reached step)

end Preserved

section Attempts

variable (deployment : Deployment) (now : Instant) (db : CommerceDb)

theorem fulfilled_again (draw : AccessDraw) (orderId : Uuid) (o : CommerceOrder) (found : orderById db orderId = some o)
    (fulfilled : o.fulfillmentStatus = .fulfilled) : fulfillConfirmedOrder deployment now draw orderId db = .ok ((), db) := by
  unfold fulfillConfirmedOrder
  rw [get_bind_run, orThrow_bind_run _ _ _ _ o found, if_pos fulfilled]
  rfl

end Attempts

def Casework (s t : CommerceDb) : Prop :=
  { t with orders := s.orders, cases := s.cases } = s

theorem casework_writes (s t : CommerceDb) (writes : Writes Casework s t) : Casework s t := by
  induction writes with
  | refl => rfl
  | tail path w ih =>
    unfold Casework at *
    rw [← ih, ← w]

section Failures

variable (deployment : Deployment) (now : Instant)

theorem updateOrder_casework (id : Uuid) (patch : OrderPatch) : Program Casework (updateOrder id patch) := by
  constructor
  intro s
  rw [wlp_updateOrder]
  exact fun old moves => writes_one _ _ rfl

theorem updateCase_casework (id : Uuid) (patch : CasePatch) : Program Casework (updateCase id patch) := by
  constructor
  intro s
  rw [wlp_updateCase]
  exact fun old moves => writes_one _ _ rfl

theorem insertCase_casework (c : CommerceReconciliationCase) : Program Casework (insertCase c) := by
  constructor
  intro s
  rw [wlp_insertCase]
  exact fun fits => writes_one _ _ rfl

theorem recordFailure_casework (caseId orderId settlementId : Uuid) :
    Program Casework (recordFailure deployment now caseId orderId settlementId) := by
  have payment : Program Casework (requireCanonicalPayment deployment now orderId settlementId) := by
    refine ⟨fun s => wlp_mono _ s (requireCanonicalPayment_reads deployment now orderId settlementId s) ?_⟩
    intro p t reads
    rw [reads.1]
  refine payment.bind (fun p => program_ite _ _ _ (program_pure _) ?_)
  have started : Program Casework (startFulfillment p.order) :=
    program_ite _ _ _ (updateOrder_casework _ _) (program_pure _)
  refine started.bind (fun _ => (updateOrder_casework _ _).bind (fun _ => program_get.bind (fun s => ?_)))
  have answered : Program Casework (pure true : CommerceTxn Bool) := program_pure _
  split
  · refine (program_require _ _).bind (fun _ => ?_)
    split
    · exact ((program_require _ _).bind (fun _ => updateCase_casework _ _)).bind (fun _ => answered)
    · exact answered
  · exact (insertCase_casework _).bind (fun _ => answered)

end Failures

section Gateways

variable (db : CommerceDb) (whole : Whole db) (o : CommerceOrder) (ho : o ∈ db.orders) (x : CommerceSettlement)
  (hx : x ∈ db.settlements) (named : o.confirmedSettlementId = some x.id) (kind : x.kind = .providerCollection)
  (gateway : x.provider.any isPaymentProviderName = true)

include whole ho hx named

theorem confirming_found : orderById db o.id = some o ∧ confirmingSettlement db o = some x := by
  have keys := whole.delivered.backed.keys
  refine ⟨orderById_of_mem db keys o ho, ?_⟩
  unfold confirmingSettlement
  rw [named]
  exact settlementById_of_mem db keys x hx

include kind gateway

theorem gateway_canonical : paidByBank db o.id = false ∧ ∃ p, canonicalPayment db o.id x.id = some p ∧ p.order = o := by
  have backed := whole.delivered.backed
  obtain ⟨found, settlement⟩ := confirming_found db whole o ho x hx named
  obtain ⟨confirmed, confirms⟩ := named_confirms db backed o ho x hx named
  obtain ⟨matched, a, ha, e, he, of, paid⟩ := collection_confirms db backed o ho x hx named kind
  have provider : x.provider = some a.provider := by rw [of.provider, of.eventOf.provider]
  have isGateway : isPaymentProviderName a.provider = true := by
    rw [provider] at gateway
    exact gateway
  refine ⟨?_, ⟨⟨o, x, a⟩, ?_, rfl⟩⟩
  · unfold paidByBank
    rw [found, Option.bind_some, settlement, Option.any_some, provider]
    apply decide_eq_false
    intro bank
    rw [Option.some.inj bank] at isGateway
    cases isGateway
  · have byAttempt : attemptOfSettlement db x = some a := by
      unfold attemptOfSettlement
      rw [of.attempt]
      exact attemptById_of_mem db backed.keys a ha
    have byEvent : eventOfSettlement db x = some e := by
      unfold eventOfSettlement
      rw [of.event]
      exact eventById_of_mem db backed.keys e he
    have identity := of.eventOf.identity
    have amounts : a.amountMinor = x.amountMinor ∧ a.currency = x.currency := by
      obtain ⟨_, _, o', ho', order, amount, currency⟩ := backed.attempts a ha
      have same : o' = o := order_same db backed.keys o' o ho' ho (order.trans (of.order.trans confirms.order))
      rw [same] at amount currency
      exact ⟨amount.trans confirms.amount.symm, currency.trans confirms.currency.symm⟩
    refine (canonicalPayment_some o.id x.id db ⟨o, x, a⟩).mpr ⟨found, settlement, byAttempt, rfl, e, byEvent, ?_⟩
    refine decide_eq_true ⟨confirmed, named, confirms.order, kind, matched, gateway, ?_, of.event, of.eventOf.attempt.symm,
      of.provider.symm, identity.symm, of.reference.symm, of.eventOf.amount.trans amounts.1,
      of.eventOf.currency.trans amounts.2, of.nextStatus matched, of.occurredAt.symm, of.attempt,
      of.order.trans confirms.order, provider.symm, ?_, of.orderCode isGateway, paid, amounts.1, amounts.2, confirms.amount, confirms.currency⟩
    · rw [of.reference]
      exact decide_eq_true (of.referenceNamed isGateway)
    · rw [identity]
      exact decide_eq_true (of.identityNamed isGateway)

end Gateways

section Whole

variable (db : CommerceDb) (delivered : Delivered db)

include delivered

theorem effect_once (o : CommerceOrder) (ho : o ∈ db.orders) (fulfilled : o.fulfillmentStatus = .fulfilled)
    (l : CommerceOrderLine) (hl : l ∈ db.lines) (order : l.orderId = o.id) (expected : String × String)
    (asked : expected ∈ expectedEffects db l) :
    db.effects.countP (fun e => e.orderLineId = l.id ∧ e.effectType = expected.1 ∧ e.sourceId = expected.2) = 1 := by
  obtain ⟨effectType, source⟩ := expected
  have once := unique_count_le_one (fun e => some (effectKey e)) db.effects delivered.backed.keys.access.effects
    (l.id, effectType, source)
  obtain ⟨e, he, _, key⟩ := (delivered.fulfilled o ho fulfilled l hl order).covered (effectType, source) asked
  have same : (fun e : CommerceFulfillmentEffect =>
      decide (e.orderLineId = l.id ∧ e.effectType = effectType ∧ e.sourceId = source)) =
      fun e => decide (some (effectKey e) = some (l.id, effectType, source)) := by
    funext e
    simp [effectKey]
  rw [same]
  refine le_antisymm once ?_
  exact List.countP_pos_iff.mpr ⟨e, he, decide_eq_true (by rw [key])⟩

end Whole

def FulfilledWhole (t : CommerceDb) (orderId : Uuid) : Prop :=
  ∃ o ∈ t.orders, o.id = orderId ∧ o.status = .confirmed ∧ o.fulfillmentStatus = .fulfilled ∧
    ∀ l ∈ t.lines, l.orderId = orderId → ∀ expected ∈ expectedEffects t l,
      t.effects.countP (fun e => e.orderLineId = l.id ∧ e.effectType = expected.1 ∧ e.sourceId = expected.2) = 1

theorem outcome_fulfilled (db t : CommerceDb) (delivered : Delivered db) (orderId : Uuid) (outcome : FulfillmentOutcome db orderId t) :
    FulfilledWhole t orderId := by
  have whole (u : CommerceDb) (deliveredThere : Delivered u) (o : CommerceOrder) (ho : o ∈ u.orders) (named : o.id = orderId)
      (fulfilled : o.fulfillmentStatus = .fulfilled) : FulfilledWhole u orderId := by
    refine ⟨o, ho, named, (deliveredThere.backed.orders o ho).2.2 (by rw [fulfilled]; decide), fulfilled, ?_⟩
    exact fun l hl order => effect_once u deliveredThere o ho fulfilled l hl (order.trans named.symm)
  cases outcome with
  | already o found fulfilled =>
      obtain ⟨ho, named⟩ := orderById_some db orderId o found
      exact whole db delivered o ho named fulfilled
  | completed o t found confirmed unfulfilled done =>
      obtain ⟨ho, named⟩ := orderById_some db orderId o found
      refine whole t (writes_delivered _ _ delivered done.writes) ((OrderPatch.fulfill .fulfilled).apply o) ?_ named rfl
      rw [done.orders]
      exact (mem_updateWhere _ _ _ _).mpr ⟨o, ho, by rw [if_pos (decide_eq_true named)]⟩

-- What a reachable state says of fulfilment: complete and single once an order is fulfilled, absent before, and final.
structure FulfilledOnce (deployment : Deployment) (s : System) : Prop where
  complete : ∀ o ∈ s.db.orders, o.fulfillmentStatus = .fulfilled → ∀ l ∈ s.db.lines, l.orderId = o.id →
    ∀ expected ∈ expectedEffects s.db l,
      s.db.effects.countP (fun e => e.orderLineId = l.id ∧ e.effectType = expected.1 ∧ e.sourceId = expected.2) = 1
  attempted : ∀ draw orderId settlementId t,
    transaction (fulfillmentTxn deployment s.now draw orderId settlementId) s.db = .ok ((), t) →
    (step deployment s (.fulfill draw orderId settlementId)).db = t ∧ FulfilledWhole t orderId
  entered : ∀ draw orderId t, fulfillConfirmedOrder deployment s.now draw orderId s.db = .ok ((), t) → FulfilledWhole t orderId
  expected : ∀ e ∈ s.db.effects, ∃ l, EffectExpected s.db e l
  partless : ∀ o ∈ s.db.orders, o.fulfillmentStatus ≠ .fulfilled → ∀ e ∈ s.db.effects, e.orderId ≠ o.id
  terms : ∀ lineId, s.db.subscriptions.countP (fun m => m.sourceOrderLineId = some lineId) ≤ 1
  grants : ∀ userId courseId sourceType sourceId, s.db.grants.countP (fun g => g.active ∧ g.userId = userId ∧
    g.courseId = courseId ∧ g.sourceType = sourceType ∧ g.sourceId = sourceId) ≤ 1
  failed : ∀ i fault, transaction (body deployment s i) s.db = .error fault → (step deployment s i).db = s.db
  recorded : ∀ caseId orderId settlementId,
    Casework s.db (step deployment s (.recordFailure caseId orderId settlementId)).db
  further : ∀ o ∈ s.db.orders, o.fulfillmentStatus = .fulfilled → ∀ draw settlementId caseId,
    fulfillConfirmedOrder deployment s.now draw o.id s.db = .ok ((), s.db) ∧
      (step deployment s (.fulfill draw o.id settlementId)).db = s.db ∧
      (step deployment s (.recordFailure caseId o.id settlementId)).db = s.db ∧
      ((∃ x ∈ s.db.settlements, x.id = settlementId ∧ o.confirmedSettlementId = some x.id ∧ x.kind = .providerCollection ∧
        x.provider.any isPaymentProviderName = true) →
        transaction (body deployment s (.fulfill draw o.id settlementId)) s.db = .ok ((), s.db))
  final : ∀ later, ∀ o ∈ s.db.orders, o.fulfillmentStatus = .fulfilled →
    (∃ o' ∈ (run (step deployment) s later).db.orders, o'.id = o.id ∧ o'.fulfillmentStatus = .fulfilled) ∧
      ∀ e, e.orderId = o.id → (e ∈ (run (step deployment) s later).db.effects ↔ e ∈ s.db.effects)

section System

variable (deployment : Deployment) (s : System) (sound : Sound s)

include sound

theorem term_once (lineId : Uuid) : s.db.subscriptions.countP (fun m => m.sourceOrderLineId = some lineId) ≤ 1 :=
  unique_count_le_one (fun m => m.sourceOrderLineId) s.db.subscriptions
    sound.whole.delivered.backed.keys.access.subscriptionLines lineId

theorem grant_once (userId courseId : Uuid) (sourceType : CourseAccessSourceType) (sourceId : String) :
    s.db.grants.countP (fun g => g.active ∧ g.userId = userId ∧ g.courseId = courseId ∧ g.sourceType = sourceType ∧
      g.sourceId = sourceId) ≤ 1 := by
  have once := unique_count_le_one (fun g => some (grantKey g)) s.db.grants sound.whole.delivered.backed.keys.access.grantKeys
    (userId, courseId, sourceType, sourceId)
  refine le_trans (List.countP_mono_left ?_) once
  intro g _ selected
  obtain ⟨_, user, course, type, source⟩ := of_decide_eq_true selected
  exact decide_eq_true (by rw [grantKey, user, course, type, source])

theorem fulfill_again (o : CommerceOrder) (ho : o ∈ s.db.orders) (fulfilled : o.fulfillmentStatus = .fulfilled)
    (draw : AccessDraw) (settlementId : Uuid) : (step deployment s (.fulfill draw o.id settlementId)).db = s.db := by
  have outcome := fulfillmentTxn_outcome deployment s.now draw o.id settlementId s.db sound.whole.delivered
  refine commit_of_wlp _ (fun t => t = s.db) s.db rfl (transaction_wlp _ _ s.db (wlp_mono _ _ outcome ?_))
  intro _ t done
  cases done with
  | already x found before => rfl
  | completed x t found confirmed unfulfilled done =>
    rw [orderById_of_mem s.db sound.whole.delivered.backed.keys o ho] at found
    rw [Option.some.inj found] at fulfilled
    exact absurd fulfilled unfulfilled

theorem recordFailure_again (o : CommerceOrder) (ho : o ∈ s.db.orders) (fulfilled : o.fulfillmentStatus = .fulfilled)
    (caseId settlementId : Uuid) : (step deployment s (.recordFailure caseId o.id settlementId)).db = s.db := by
  have found := orderById_of_mem s.db sound.whole.delivered.backed.keys o ho
  have unchanged : Wlp (discard (recordFailure deployment s.now caseId o.id settlementId)) (fun _ t => t = s.db) s.db := by
    refine discard_wlp _ _ _ ?_
    simp only [recordFailure, wlp_bind]
    refine wlp_mono _ s.db (requireCanonicalPayment_reads deployment s.now o.id settlementId s.db) ?_
    intro p t reads
    rw [reads.1]
    rw [found] at reads
    rw [← Option.some.inj reads.2.1, if_pos fulfilled, wlp_pure]
  exact commit_of_wlp _ (fun t => t = s.db) s.db rfl (transaction_wlp _ _ s.db unchanged)

theorem fulfill_answers (o : CommerceOrder) (ho : o ∈ s.db.orders) (fulfilled : o.fulfillmentStatus = .fulfilled)
    (draw : AccessDraw) (x : CommerceSettlement) (hx : x ∈ s.db.settlements) (named : o.confirmedSettlementId = some x.id)
    (kind : x.kind = .providerCollection) (gateway : x.provider.any isPaymentProviderName = true) :
    transaction (body deployment s (.fulfill draw o.id x.id)) s.db = .ok ((), s.db) := by
  obtain ⟨unbanked, p, canonical, _⟩ := gateway_canonical s.db sound.whole o ho x hx named kind gateway
  have found := orderById_of_mem s.db sound.whole.delivered.backed.keys o ho
  have again := fulfilled_again deployment s.now s.db draw o.id o found fulfilled
  refine transaction_unchanged _ _ _ ?_
  show (requireCanonicalPayment deployment s.now o.id x.id s.db >>= fun q => fulfillConfirmedOrder deployment s.now draw o.id q.2) = _
  have required : requireCanonicalPayment deployment s.now o.id x.id s.db = .ok (p, s.db) := by
    unfold requireCanonicalPayment
    rw [get_bind_run, unbanked, canonical]
    rfl
  rw [required]
  exact again

end System

theorem run_effectsFinal (deployment : Deployment) (s : System) (later : List Input) (sound : Sound s) :
    EffectsFinal s.db (run (step deployment) s later).db := by
  have related := run_relation (step deployment) (fun s t => Kept s.db t.db ∧ EffectsFinal s.db t.db)
    (fun s => ⟨kept_refl s.db, fun _ _ _ _ he _ => he⟩)
    (fun s t u first second => ⟨kept_trans _ _ _ first.1 second.1, effectsFinal_trans _ _ _ first.1 first.2 second.2⟩)
    Sound (step_sound deployment) ?_ s later sound
  · exact related.2
  · intro s i sound
    have steps := step_transitions unrestricted deployment s i sound.whole (unrestricted_admits s i)
    exact ⟨step_kept deployment s i sound.whole, transitions_effectsFinal unrestricted s.db _ sound.whole steps⟩

/-- In every state of a run each effect of an order exists once at most, and a fulfilment that succeeds leaves all of
them. -/
theorem fulfilment_happens_once (deployment : Deployment) (createdAt : Instant) (inputs : List Input) :
    FulfilledOnce deployment (run (step deployment) (System.start createdAt) inputs) := by
  have sound := run_sound deployment _ inputs (start_sound createdAt)
  generalize run (step deployment) (System.start createdAt) inputs = s at sound ⊢
  have keys := sound.whole.delivered.backed.keys
  have delivered := sound.whole.delivered
  constructor
  · exact effect_once s.db delivered
  · intro draw orderId settlementId t ran
    refine ⟨commit_ok _ s.db t () ran, outcome_fulfilled s.db t delivered orderId ?_⟩
    exact fulfillmentTxn_outcome deployment s.now draw orderId settlementId s.db delivered () t (transaction_ok _ _ _ _ ran).1
  · intro draw orderId t ran
    refine outcome_fulfilled s.db t delivered orderId ?_
    exact fulfillConfirmedOrder_outcome deployment s.now draw orderId s.db delivered () t ran
  · exact delivered.effects
  · intro o ho unfulfilled e he order
    obtain ⟨x, hx, named, fulfilled⟩ := sound.whole.effects e he
    have same : x = o := order_same s.db keys x o hx ho (named.trans order)
    rw [same] at fulfilled
    exact unfulfilled fulfilled
  · exact term_once s sound
  · exact grant_once s sound
  · exact fun i fault threw => commit_error _ s.db fault threw
  · intro caseId orderId settlementId
    have casework := recordFailure_casework deployment s.now caseId orderId settlementId
    refine commit_of_wlp _ (Casework s.db) s.db rfl (transaction_wlp _ _ s.db (discard_wlp _ _ _ ?_))
    exact wlp_mono _ _ (casework.within s.db) (fun _ t writes => casework_writes s.db t writes)
  · intro o ho fulfilled draw settlementId caseId
    have found := orderById_of_mem s.db keys o ho
    refine ⟨fulfilled_again deployment s.now s.db draw o.id o found fulfilled,
      fulfill_again deployment s sound o ho fulfilled draw settlementId,
      recordFailure_again deployment s sound o ho fulfilled caseId settlementId, ?_⟩
    rintro ⟨x, hx, rfl, named, kind, gateway⟩
    exact fulfill_answers deployment s sound o ho fulfilled draw x hx named kind gateway
  · intro later o ho fulfilled
    have kept := run_kept deployment s later sound
    obtain ⟨o', ho', same⟩ := kept.orders o ho
    refine ⟨⟨o', ho', same.id, same.fulfilled fulfilled⟩, fun e order => ⟨?_, fun he => kept.appends.effects.subset he⟩⟩
    exact fun he => run_effectsFinal deployment s later sound o ho fulfilled e he order

theorem collected_order_fulfilled : let s := run (step sampleDeployment) (System.start 0) sampleCollected
    ∃ t, transaction (fulfillmentTxn sampleDeployment s.now sampleAccess "order-1" "collected-1") s.db = .ok ((), t) ∧
      t.effects.length = 1 ∧ FulfilledWhole t "order-1" := by
  intro s
  obtain ⟨⟨_, t⟩, done, length⟩ := ok_of_answer
    (transaction (fulfillmentTxn sampleDeployment s.now sampleAccess "order-1" "collected-1") s.db)
    (fun outcome => outcome.2.effects.length) 1 (by decide +kernel)
  exact ⟨t, done, length, ((fulfilment_happens_once sampleDeployment 0 sampleCollected).attempted sampleAccess "order-1" "collected-1" t
    done).2⟩

end EduAi.Payments
