import EduAi.Payments.MoneyTrace

set_option autoImplicit false

namespace EduAi.Payments

open EduAi.Store EduAi.Gds EduAi.Commerce

-- The settlement and the event that stand for a verified event. VNPay reports one payment over two channels, each under
-- an identity of its own, and the second report finds the settlement by its reference.
structure RecordedAs (db : CommerceDb) (v : VerifiedPaymentWebhook) (x : CommerceSettlement) (e : CommercePaymentEvent) : Prop where
  settlement : x ∈ db.settlements
  event : e ∈ db.events
  kind : x.kind = .providerCollection
  linked : x.paymentEventId = some e.id
  provider : e.provider = .ofName v.provider
  paymentIdentity : e.providerPaymentIdentity = v.providerPaymentIdentity
  reference : e.providerSettlementReference = v.providerSettlementReference
  amount : e.amountMinor = v.amountMinor
  currency : e.currency = v.currency
  parsed : (providerOrderCode v).isSome
  attempt : ∃ a ∈ db.attempts, a.id = e.paymentAttemptId ∧ a.providerOrderCode = providerOrderCode v
  again : (e.providerEventIdentity = v.providerEventIdentity ∧ (fromReceipt v = true ∨ e.providerOccurredAt = v.occurredAt)) ∨
    (v.provider = .vnpay ∧ eventByIdentity db (.ofName v.provider) v.providerEventIdentity = none)

section Replays

variable (db : CommerceDb) (whole : Whole db) (v : VerifiedPaymentWebhook) (x : CommerceSettlement) (e : CommercePaymentEvent)
  (recorded : RecordedAs db v x e)

include whole recorded

theorem recorded_collection : ∃ a ∈ db.attempts, ∃ o ∈ db.orders, CollectionOf x a e ∧ o.id = a.orderId ∧
    paymentFactsMatch db a o v = true ∧ x.amountMinor = v.amountMinor ∧ x.currency = v.currency ∧
    (x.disposition ≠ .matched ∨ matchedSettlementIsCanonical a o x.id = true) := by
  have backed := whole.delivered.backed
  obtain ⟨a, ha, e', he', of⟩ := (backed.settlements x recorded.settlement).collection recorded.kind
  have sameEvent : e' = e := by
    refine event_same db backed.keys e' e he' recorded.event ?_
    have linked := recorded.linked
    rw [of.event] at linked
    exact Option.some.inj linked
  subst sameEvent
  obtain ⟨a', ha', named, code⟩ := recorded.attempt
  have sameAttempt : a' = a := attempt_same db backed.keys a' a ha' ha (named.trans of.eventOf.attempt.symm)
  subst sameAttempt
  obtain ⟨_, _, o, ho, order, payable, currency⟩ := backed.attempts a' ha
  have amounts : x.amountMinor = v.amountMinor ∧ x.currency = v.currency := by
    obtain ⟨o', ho', orderId, amount', currency', _⟩ := (backed.settlements x recorded.settlement).order
    have sameOrder : o' = o := order_same db backed.keys o' o ho' ho (orderId.trans (of.order.symm.trans order.symm))
    subst sameOrder
    exact ⟨by rw [amount', ← payable, ← of.eventOf.amount, recorded.amount],
      by rw [currency', ← currency, ← of.eventOf.currency, recorded.currency]⟩
  refine ⟨a', ha, o, ho, of, order, ?_, amounts.1, amounts.2, ?_⟩
  · refine decide_eq_true ⟨?_, ?_, recorded.parsed, code, ?_, ?_, order, ?_, ?_, ?_⟩
    · rw [← of.eventOf.provider, recorded.provider]
    · rw [of.eventOf.identity, recorded.paymentIdentity]
    · rw [← of.eventOf.amount, recorded.amount]
    · rw [← of.eventOf.currency, recorded.currency]
    · rw [← payable, ← of.eventOf.amount, recorded.amount]
    · rw [← currency, ← of.eventOf.currency, recorded.currency]
    · intro r hr
      obtain ⟨member, belongs⟩ := List.mem_filter.mp hr
      have orderId : r.orderId = o.id := (of_decide_eq_true belongs).1
      obtain ⟨⟨o', ho', named', buyer, _⟩, l, hl, lineNamed, lineOrder⟩ := backed.reservations r member
      have sameOrder : o' = o := order_same db backed.keys o' o ho' ho (named'.trans orderId)
      subst sameOrder
      refine decide_eq_true ⟨orderId.trans order, buyer.symm, (Option.any_eq_true _ _).mpr ⟨l, ?_, ?_⟩⟩
      · rw [← lineNamed]
        exact find_unique _ _ db.lines backed.keys.lines l l.id hl (by simp) rfl (fun y _ hy => by simpa using hy)
      · exact decide_eq_true (lineOrder.trans (orderId.trans order))
  · by_cases matched : x.disposition = .matched
    · right
      obtain ⟨o', ho', orderId, confirms⟩ := whole.confirms x recorded.settlement (.inl matched)
      have sameOrder : o' = o := order_same db backed.keys o' o ho' ho (orderId.trans (of.order.symm.trans order.symm))
      subst sameOrder
      obtain ⟨confirmed, _⟩ := named_confirms db backed o' ho x recorded.settlement confirms
      obtain ⟨_, b, hb, _, _, paidOf, paid⟩ := collection_confirms db backed o' ho x recorded.settlement confirms recorded.kind
      have samePaid : b = a' := by
        refine attempt_same db backed.keys b a' hb ha ?_
        have named'' := of.attempt
        rw [paidOf.attempt] at named''
        exact Option.some.inj named''
      subst samePaid
      exact decide_eq_true ⟨paid, confirmed, confirms⟩
    · exact .inl matched

theorem recorded_replays (now : Instant) (draw : WebhookDraw) : applyVerified now draw v db = .ok (resultFor x true, db) := by
  have keys := whole.delivered.backed.keys
  obtain ⟨a, ha, o, ho, of, order, facts, amount, currency, canonical⟩ := recorded_collection db whole v x e recorded
  obtain ⟨code, parsed⟩ := Option.isSome_iff_exists.mp recorded.parsed
  have byId : attemptById db e.paymentAttemptId = some a := by
    rw [← of.eventOf.attempt]
    exact attemptById_of_mem db keys a ha
  have byOrder : orderById db a.orderId = some o := by
    rw [← order]
    exact orderById_of_mem db keys o ho
  have provider : x.provider = some (.ofName v.provider) := by rw [of.provider, recorded.provider]
  have reference : x.providerSettlementReference = some v.providerSettlementReference := by
    rw [of.reference, recorded.reference]
  unfold applyVerified
  rw [get_bind_run, orThrow_bind_run _ _ _ _ code parsed]
  rcases recorded.again with ⟨identity, occurred⟩ | ⟨vnpay, unrecorded⟩
  · have prior : eventByIdentity db (.ofName v.provider) v.providerEventIdentity = some e := by
      refine find_unique (fun e => some (e.provider, e.providerEventIdentity)) _ db.events keys.events.identities e
        (.ofName v.provider, v.providerEventIdentity) recorded.event ?_ ?_ ?_
      · exact decide_eq_true ⟨recorded.provider, identity⟩
      · rw [recorded.provider, identity]
      · intro y _ hy
        obtain ⟨provider, same⟩ := of_decide_eq_true hy
        rw [provider, same]
    have byEvent : settlementByEvent db e.id = some x :=
      find_unique (fun s => s.paymentEventId) _ db.settlements keys.settlements.events x e.id recorded.settlement
        (decide_eq_true recorded.linked) recorded.linked (fun y _ hy => of_decide_eq_true hy)
    have same : priorEventMatches db e a o x v = true := by
      refine decide_eq_true ⟨recorded.provider, identity, recorded.paymentIdentity, recorded.reference, recorded.amount,
        recorded.currency, of.eventOf.attempt.symm, occurred, facts, of.order.symm, of.attempt, of.event, recorded.kind, provider, reference,
        amount, currency, ?_, canonical⟩
      rw [of.occurredAt]
      exact occurred
    simp only [prior]
    unfold replayPriorEvent
    rw [get_bind_run, orThrow_bind_run _ _ _ _ a byId, orThrow_bind_run _ _ _ _ o byOrder]
    simp only [byEvent, same, if_true]
    rfl
  · have named : attemptByOrderCode db (.ofName v.provider) code = some a := by
      obtain ⟨gateway, _, _, orderCode, _⟩ := of_decide_eq_true facts
      rw [parsed] at orderCode
      refine find_unique orderCodeKey _ db.attempts keys.attempts.orderCodes a (.ofName v.provider, code) ha ?_ ?_ ?_
      · exact decide_eq_true ⟨gateway, orderCode⟩
      · simp [orderCodeKey, gateway, orderCode]
      · intro b _ hb
        obtain ⟨sameProvider, sameCode⟩ := of_decide_eq_true hb
        simp [orderCodeKey, sameProvider, sameCode]
    have byReference : settlementByReference db (.ofName v.provider) v.providerSettlementReference = some x := by
      refine find_unique settlementReferenceKey _ db.settlements keys.settlements.references x
        (.ofName v.provider, v.providerSettlementReference) recorded.settlement ?_ ?_ ?_
      · exact decide_eq_true ⟨provider, reference⟩
      · simp [settlementReferenceKey, provider, reference]
      · intro y _ hy
        obtain ⟨sameProvider, sameReference⟩ := of_decide_eq_true hy
        simp [settlementReferenceKey, sameProvider, sameReference]
    have byEvent : eventOfSettlement db x = some e := by
      unfold eventOfSettlement
      rw [of.event]
      exact eventById_of_mem db keys e recorded.event
    have same : existingSettlementMatches db x a o v = true := by
      unfold existingSettlementMatches
      rw [byEvent]
      exact decide_eq_true ⟨of.order.symm, of.attempt, of.event, recorded.kind, provider, reference, amount, currency, .inl vnpay,
        of.eventOf.attempt.symm, recorded.provider, .inl vnpay, recorded.paymentIdentity, recorded.reference, recorded.amount,
        recorded.currency, .inl vnpay, canonical⟩
    simp only [unrecorded, named]
    unfold settleAttempt
    rw [get_bind_run, orThrow_bind_run _ _ _ _ o byOrder]
    simp only [facts, byReference, same, if_true]
    rfl

end Replays

def accepted : PaymentWebhookProcessingResult → Bool
  | .rejected _ => false
  | .unknownPaymentAcknowledged => false
  | _ => true

structure AnsweredBy (db t : CommerceDb) (v : VerifiedPaymentWebhook) (r : PaymentWebhookProcessingResult)
    (x : CommerceSettlement) (e : CommercePaymentEvent) : Prop where
  settlement : x ∈ t.settlements
  event : e ∈ t.events
  kind : x.kind = .providerCollection
  linked : x.paymentEventId = some e.id
  provider : e.provider = .ofName v.provider
  paymentIdentity : e.providerPaymentIdentity = v.providerPaymentIdentity
  reference : e.providerSettlementReference = v.providerSettlementReference
  amount : e.amountMinor = v.amountMinor
  currency : e.currency = v.currency
  parsed : (providerOrderCode v).isSome
  attempt : ∃ a ∈ db.attempts, a.id = e.paymentAttemptId ∧ a.providerOrderCode = providerOrderCode v
  again : (e.providerEventIdentity = v.providerEventIdentity ∧ (fromReceipt v = true ∨ e.providerOccurredAt = v.occurredAt)) ∨
    (v.provider = .vnpay ∧ eventByIdentity t (.ofName v.provider) v.providerEventIdentity = none)
  answer : r = resultFor x false ∨ r = resultFor x true

theorem answered_recorded (db t : CommerceDb) (kept : Kept db t) (v : VerifiedPaymentWebhook) (r : PaymentWebhookProcessingResult)
    (x : CommerceSettlement) (e : CommercePaymentEvent) (answered : AnsweredBy db t v r x e) : RecordedAs t v x e := by
  obtain ⟨a, ha, named, code⟩ := answered.attempt
  obtain ⟨a', ha', same⟩ := kept.attempts a ha
  exact { answered with attempt := ⟨a', ha', same.id.trans named, same.orderCode.trans code⟩ }

theorem recorded_kept (db t : CommerceDb) (kept : Kept db t) (v : VerifiedPaymentWebhook) (x : CommerceSettlement)
    (e : CommercePaymentEvent) (recorded : RecordedAs db v x e)
    (own : e.providerEventIdentity = v.providerEventIdentity ∧ (fromReceipt v = true ∨ e.providerOccurredAt = v.occurredAt)) :
    RecordedAs t v x e := by
  obtain ⟨a, ha, named, code⟩ := recorded.attempt
  obtain ⟨a', ha', same⟩ := kept.attempts a ha
  exact { recorded with
    settlement := kept.appends.settlements.subset recorded.settlement
    event := kept.appends.events.subset recorded.event
    attempt := ⟨a', ha', same.id.trans named, same.orderCode.trans code⟩
    again := .inl own }

section Recorded

variable (db : CommerceDb) (backed : Backed db) (now : Instant) (draw : WebhookDraw) (v : VerifiedPaymentWebhook)
  (shaped : deliverable v = true)

theorem collected_answered (t : CommerceDb) (a : CommercePaymentAttempt) (o : CommerceOrder) (member : a ∈ db.attempts)
    (facts : paymentFactsMatch db a o v = true) (nextStatus : CommercePaymentStatus)
    (disposition : CommerceSettlementDisposition) (r : PaymentWebhookProcessingResult)
    (event : collectionEvent draw.eventId a v nextStatus ∈ t.events)
    (settlement : collectionSettlement draw.settlementId draw.eventId a v disposition ∈ t.settlements)
    (answer : r = resultFor (collectionSettlement draw.settlementId draw.eventId a v disposition) false) :
    AnsweredBy db t v r (collectionSettlement draw.settlementId draw.eventId a v disposition)
      (collectionEvent draw.eventId a v nextStatus) := by
  obtain ⟨_, _, parsed, code, _⟩ := of_decide_eq_true facts
  exact ⟨settlement, event, rfl, rfl, rfl, rfl, rfl, rfl, rfl, parsed, ⟨a, member, rfl, code⟩, .inl ⟨rfl, .inr rfl⟩, .inl answer⟩

def Answers (db : CommerceDb) (v : VerifiedPaymentWebhook) (r : PaymentWebhookProcessingResult) (t : CommerceDb) : Prop :=
  accepted r = true → ∃ x e, AnsweredBy db t v r x e

theorem recordIdentityMismatch_rejects (s : CommerceDb) (caseId : Uuid) (a : CommercePaymentAttempt) (code : IdentityMismatchCode)
    (backed : Backed s) : Wlp (recordIdentityMismatch now caseId a code) (Answers db v) s := by
  refine wlp_mono _ s (recordIdentityMismatch_writes s backed now caseId a code) ?_
  rintro r t ⟨rfl, _⟩ accepts
  cases accepts

include backed

theorem settleUnrecorded_answers (a : CommercePaymentAttempt) (o : CommerceOrder) (member : a ∈ db.attempts)
    (order : orderById db a.orderId = some o) (facts : paymentFactsMatch db a o v = true) (shaped : deliverable v = true) :
    Wlp (settleUnrecorded now draw a o v) (Answers db v) db := by
  simp only [settleUnrecorded, wlp_bind, wlp_get, wlp_ite]
  refine ⟨?_, fun _ => ⟨?_, fun _ => ⟨?_, fun _ => ?_⟩⟩⟩
  · rintro ⟨_, awaiting⟩
    refine wlp_mono _ _ (confirm_store db backed now draw a o v member order facts shaped _
      (fun r hr => (List.mem_filter.mp hr).1) (reservedOf_distinct db backed o.id) awaiting) ?_
    rintro r t ⟨answer, rfl, _⟩ _
    exact ⟨_, _, collected_answered db draw v _ a o member facts .paid .matched r
      (List.mem_append_right _ (List.mem_singleton.mpr rfl)) (List.mem_append_right _ (List.mem_singleton.mpr rfl)) answer⟩
  · intro _
    simp only [recordDuplicate, createEvent, createSettlement, wlp_bind, wlp_insertEvent, wlp_insertSettlement, wlp_insertCase,
      wlp_pure]
    intro _ _ _ _ _ _
    exact ⟨_, _, collected_answered db draw v _ a o member facts .paid .duplicateCollection _
      (List.mem_append_right _ (List.mem_singleton.mpr rfl)) (List.mem_append_right _ (List.mem_singleton.mpr rfl)) rfl⟩
  · intro _
    simp only [recordLate, createEvent, createSettlement, wlp_bind, wlp_insertEvent, wlp_insertSettlement, wlp_updateAttempt,
      wlp_updateOrder, wlp_insertCase, wlp_pure]
    intro _ _ _ _ _ _ _ _ _ _
    exact ⟨_, _, collected_answered db draw v _ a o member facts .latePaid .lateCollection _
      (List.mem_append_right _ (List.mem_singleton.mpr rfl)) (List.mem_append_right _ (List.mem_singleton.mpr rfl)) rfl⟩
  · exact recordIdentityMismatch_rejects db now v db draw.caseId a .state backed

theorem replayPriorEvent_answers (e : CommercePaymentEvent)
    (prior : eventByIdentity db (.ofName v.provider) v.providerEventIdentity = some e) :
    Wlp (replayPriorEvent now draw e v) (Answers db v) db := by
  obtain ⟨he, _⟩ := find_some _ db.events e prior
  simp only [replayPriorEvent, wlp_bind, wlp_get, wlp_orThrow]
  intro a found o order
  have rejects := recordIdentityMismatch_rejects db now v db draw.caseId a .eventIdentity backed
  split
  case h_1 => exact rejects
  case h_2 x byEvent =>
    rw [wlp_ite]
    refine ⟨?_, fun _ => rejects⟩
    intro same
    rw [wlp_pure]
    intro _
    obtain ⟨provider, identity, paymentIdentity, reference, amount, currency, attempt, occurred, facts, _, _, linked, kind, _⟩ :=
      of_decide_eq_true same
    obtain ⟨_, _, parsed, code, _⟩ := of_decide_eq_true facts
    obtain ⟨ha, _⟩ := attemptById_some db e.paymentAttemptId a found
    exact ⟨x, e, (find_some _ db.settlements x byEvent).1, he, kind, linked, provider, paymentIdentity, reference, amount,
      currency, parsed, ⟨a, ha, attempt.symm, code⟩, .inl ⟨identity, occurred⟩, .inr rfl⟩

theorem settleAttempt_answers (a : CommercePaymentAttempt) (member : a ∈ db.attempts) (shaped : deliverable v = true)
    (fresh : eventByIdentity db (.ofName v.provider) v.providerEventIdentity = none) :
    Wlp (settleAttempt now draw a v) (Answers db v) db := by
  simp only [settleAttempt, wlp_bind, wlp_get, wlp_orThrow, wlp_ite]
  intro o order
  refine ⟨?_, fun _ => recordIdentityMismatch_rejects db now v db draw.caseId a .fact backed⟩
  intro facts
  split
  case h_2 => exact settleUnrecorded_answers db backed now draw v a o member order facts shaped
  case h_1 x byReference =>
    rw [wlp_ite]
    refine ⟨?_, fun _ => recordIdentityMismatch_rejects db now v db draw.caseId a .reference backed⟩
    intro same
    rw [wlp_pure]
    intro _
    obtain ⟨e, ofSettlement, agrees⟩ := (Option.any_eq_true _ _).mp same
    obtain ⟨_, _, linked, kind, _, _, _, _, _, attempt, provider, identity, paymentIdentity, reference, amount, currency,
      _, _⟩ := of_decide_eq_true agrees
    obtain ⟨he, _⟩ := eventOfSettlement_some db x e ofSettlement
    obtain ⟨_, _, parsed, code, _⟩ := of_decide_eq_true facts
    refine ⟨x, e, (find_some _ db.settlements x byReference).1, he, kind, linked, provider, paymentIdentity, reference, amount,
      currency, parsed, ⟨a, member, attempt.symm, code⟩, ?_, .inr rfl⟩
    rcases identity with vnpay | known
    · exact .inr ⟨vnpay, fresh⟩
    · have unknown := find_none _ db.events fresh e he
      simp [provider, known] at unknown

theorem applyVerified_answers (shaped : deliverable v = true) : Wlp (applyVerified now draw v) (Answers db v) db := by
  simp only [applyVerified, wlp_bind, wlp_get, wlp_orThrow]
  intro code parsed
  split
  case h_1 e prior => exact replayPriorEvent_answers db backed now draw v e prior
  case h_2 fresh =>
    split
    case h_1 a found => exact settleAttempt_answers db backed now draw v a (find_some _ db.attempts a found).1 shaped fresh
    case h_2 =>
      split
      case h_1 a found => exact recordIdentityMismatch_rejects db now v db draw.caseId a .reference backed
      case h_2 =>
        rw [wlp_pure]
        intro accepts
        cases accepts

end Recorded

structure SurplusOutcome (v : VerifiedPaymentWebhook) (a : CommercePaymentAttempt) (o : CommerceOrder)
    (r : PaymentWebhookProcessingResult) (t : CommerceDb) : Prop where
  duplicate : a.status = .paid ∨ o.status = .confirmed → r = .duplicate false ∧
    ∃ x ∈ t.settlements, RecordsEvent v x ∧ x.orderId = o.id ∧ x.disposition = .duplicateCollection
  late : ¬ (a.status = .paid ∨ o.status = .confirmed) →
    (a.status = .cancelled ∨ a.status = .expired) ∧ (o.status = .cancelled ∨ o.status = .expired) →
    r = .latePaymentReview ∧ ∃ x ∈ t.settlements, RecordsEvent v x ∧ x.orderId = o.id ∧ x.disposition = .lateCollection
  unresolved : ¬ (a.status = .paid ∨ o.status = .confirmed) →
    ¬ ((a.status = .cancelled ∨ a.status = .expired) ∧ (o.status = .cancelled ∨ o.status = .expired)) →
    r = .rejected .state ∧ ReviewOpen t a.id

theorem settleUnrecorded_surplus (db : CommerceDb) (backed : Backed db) (now : Instant) (draw : WebhookDraw)
    (v : VerifiedPaymentWebhook) (a : CommercePaymentAttempt) (o : CommerceOrder) (order : orderById db a.orderId = some o)
    (settled : o.status ≠ .pendingPayment) :
    Wlp (settleUnrecorded now draw a o v) (SurplusOutcome v a o) db := by
  have named := (orderById_some db a.orderId o order).2
  simp only [settleUnrecorded, wlp_bind, wlp_get, wlp_ite]
  refine ⟨fun awaiting => absurd awaiting.2 settled, fun _ => ⟨?_, fun unpaid => ⟨?_, fun open' => ?_⟩⟩⟩
  · intro paid
    simp only [recordDuplicate, createEvent, createSettlement, wlp_bind, wlp_insertEvent, wlp_insertSettlement, wlp_insertCase,
      wlp_pure]
    intro _ _ _ _ _
    exact ⟨fun _ => ⟨rfl, _, List.mem_append_right _ (List.mem_singleton.mpr rfl), ⟨rfl, rfl, rfl⟩, named.symm, rfl⟩,
      fun unpaid => absurd paid unpaid, fun unpaid => absurd paid unpaid⟩
  · intro ended
    simp only [recordLate, createEvent, createSettlement, wlp_bind, wlp_insertEvent, wlp_insertSettlement, wlp_updateAttempt,
      wlp_updateOrder, wlp_insertCase, wlp_pure]
    intro _ _ _ _ _ _ _ _ _
    exact ⟨fun paid => absurd paid unpaid,
      fun _ _ => ⟨rfl, _, List.mem_append_right _ (List.mem_singleton.mpr rfl), ⟨rfl, rfl, rfl⟩, named.symm, rfl⟩,
      fun _ open' => absurd ended open'⟩
  · refine wlp_mono _ _ (recordIdentityMismatch_writes db backed now draw.caseId a .state) ?_
    rintro r t ⟨answer, _, opened⟩
    exact ⟨fun paid => absurd paid unpaid, fun _ ended => absurd ended open',
      fun _ _ => ⟨answer, mismatchOpen_reviewOpen t a.id .state opened⟩⟩

structure SingleSettlement (deployment : Deployment) (s : System) : Prop where
  matched : ∀ orderId, s.db.settlements.countP (fun x => x.orderId = orderId ∧ x.disposition = .matched) ≤ 1
  references : ∀ provider reference,
    s.db.settlements.countP (fun x => x.provider = some provider ∧ x.providerSettlementReference = some reference) ≤ 1
  confirmed : ∀ o ∈ s.db.orders, ∀ x ∈ s.db.settlements, o.status = .confirmed → o.confirmedSettlementId = some x.id →
    x.kind = .providerCollection → x.disposition = .matched ∧ x.amountMinor = o.payableAmountMinor ∧ x.currency = o.currency ∧
      ∃ a ∈ s.db.attempts, x.paymentAttemptId = some a.id ∧ a.orderId = o.id
  surplus : ∀ draw v r a o code, deliverable v = true → providerOrderCode v = some code →
    attemptByOrderCode s.db (.ofName v.provider) code = some a → orderById s.db a.orderId = some o → o.status ≠ .pendingPayment →
    eventByIdentity s.db (.ofName v.provider) v.providerEventIdentity = none →
    settlementByReference s.db (.ofName v.provider) v.providerSettlementReference = none →
    paymentFactsMatch s.db a o v = true → settledNotification v = true → applied s draw v = .ok r →
    SurplusOutcome v a o r (step deployment s (.deliver draw v)).db
  final : ∀ i, ∀ o ∈ s.db.orders, ∃ o' ∈ (step deployment s i).db.orders, o'.id = o.id ∧
    (o.status = .confirmed → o'.status = .confirmed ∧ o'.confirmedSettlementId = o.confirmedSettlementId) ∧
    (closed o.status = true → closed o'.status = true)
  recorded : ∀ draw v r, deliverable v = true → settledNotification v = true → applied s draw v = .ok r → accepted r = true →
    ∃ x e, RecordedAs (step deployment s (.deliver draw v)).db v x e ∧ (r = resultFor x false ∨ r = resultFor x true)
  lasting : ∀ v x e, RecordedAs s.db v x e →
    e.providerEventIdentity = v.providerEventIdentity ∧ (fromReceipt v = true ∨ e.providerOccurredAt = v.occurredAt) →
    ∀ later, RecordedAs (run (step deployment) s later).db v x e
  replayed : ∀ draw v x e, RecordedAs s.db v x e → deliverable v = true → settledNotification v = true →
    applied s draw v = .ok (resultFor x true) ∧ (step deployment s (.deliver draw v)).db = s.db

section System

variable (deployment : Deployment) (s : System) (sound : Sound s)

include sound

theorem matched_once (orderId : Uuid) :
    s.db.settlements.countP (fun x => x.orderId = orderId ∧ x.disposition = .matched) ≤ 1 := by
  have once := unique_count_le_one matchedOrderKey s.db.settlements sound.whole.delivered.backed.keys.settlements.matched orderId
  refine le_trans (List.countP_mono_left ?_) once
  intro x _ selected
  obtain ⟨order, matched⟩ := of_decide_eq_true selected
  simp [matchedOrderKey, matched, order]

theorem reference_once (provider : CollectionProvider) (reference : String) :
    s.db.settlements.countP (fun x => x.provider = some provider ∧ x.providerSettlementReference = some reference) ≤ 1 := by
  have once := unique_count_le_one settlementReferenceKey s.db.settlements
    sound.whole.delivered.backed.keys.settlements.references (provider, reference)
  refine le_trans (List.countP_mono_left ?_) once
  intro x _ selected
  obtain ⟨from', named⟩ := of_decide_eq_true selected
  simp [settlementReferenceKey, from', named]

theorem confirmed_by_collection (o : CommerceOrder) (ho : o ∈ s.db.orders) (x : CommerceSettlement) (hx : x ∈ s.db.settlements)
    (_ : o.status = .confirmed) (named : o.confirmedSettlementId = some x.id) (kind : x.kind = .providerCollection) :
    x.disposition = .matched ∧ x.amountMinor = o.payableAmountMinor ∧ x.currency = o.currency ∧
      ∃ a ∈ s.db.attempts, x.paymentAttemptId = some a.id ∧ a.orderId = o.id := by
  have backed := sound.whole.delivered.backed
  obtain ⟨_, confirms⟩ := named_confirms s.db backed o ho x hx named
  obtain ⟨matched, a, ha, _, _, of, _⟩ := collection_confirms s.db backed o ho x hx named kind
  exact ⟨matched, confirms.amount, confirms.currency, a, ha, of.attempt, of.order.trans confirms.order⟩

theorem surplus_outcome (draw : WebhookDraw) (v : VerifiedPaymentWebhook) (r : PaymentWebhookProcessingResult)
    (a : CommercePaymentAttempt) (o : CommerceOrder) (code : Int) (shaped : deliverable v = true)
    (parsed : providerOrderCode v = some code) (found : attemptByOrderCode s.db (.ofName v.provider) code = some a)
    (order : orderById s.db a.orderId = some o) (settled : o.status ≠ .pendingPayment)
    (fresh : eventByIdentity s.db (.ofName v.provider) v.providerEventIdentity = none)
    (unused : settlementByReference s.db (.ofName v.provider) v.providerSettlementReference = none)
    (facts : paymentFactsMatch s.db a o v = true) (notified : settledNotification v = true) (answered : applied s draw v = .ok r) :
    SurplusOutcome v a o r (step deployment s (.deliver draw v)).db := by
  obtain ⟨t, ran⟩ := applied_ok s draw v r answered
  rw [deliver_db deployment s draw v notified shaped r t ran]
  have body := (transaction_ok _ _ _ _ ran).1
  have reduced : applyVerified s.now draw v s.db = settleUnrecorded s.now draw a o v s.db := by
    unfold applyVerified
    rw [get_bind_run, orThrow_bind_run _ _ _ _ code parsed]
    simp only [fresh, found]
    unfold settleAttempt
    rw [get_bind_run, orThrow_bind_run _ _ _ _ o order]
    simp only [facts, unused, if_true]
  rw [reduced] at body
  exact settleUnrecorded_surplus s.db sound.whole.delivered.backed s.now draw v a o order settled r t body

theorem replayed_unchanged (draw : WebhookDraw) (v : VerifiedPaymentWebhook) (x : CommerceSettlement) (e : CommercePaymentEvent)
    (recorded : RecordedAs s.db v x e) (shaped : deliverable v = true) (notified : settledNotification v = true) :
    applied s draw v = .ok (resultFor x true) ∧ (step deployment s (.deliver draw v)).db = s.db := by
  have body := recorded_replays s.db sound.whole v x e recorded s.now draw
  have ran := transaction_unchanged _ _ _ body
  refine ⟨?_, deliver_db deployment s draw v notified shaped _ _ ran⟩
  unfold applied
  rw [ran]
  rfl

theorem delivered_recorded (draw : WebhookDraw) (v : VerifiedPaymentWebhook) (r : PaymentWebhookProcessingResult)
    (shaped : deliverable v = true) (notified : settledNotification v = true) (answered : applied s draw v = .ok r)
    (accepts : accepted r = true) : ∃ x e, RecordedAs (step deployment s (.deliver draw v)).db v x e ∧
      (r = resultFor x false ∨ r = resultFor x true) := by
  have kept := step_kept deployment s (.deliver draw v) sound.whole
  obtain ⟨t, ran⟩ := applied_ok s draw v r answered
  rw [deliver_db deployment s draw v notified shaped r t ran] at kept ⊢
  obtain ⟨x, e, rows⟩ := applyVerified_answers s.db sound.whole.delivered.backed s.now draw v shaped r t
    (transaction_ok _ _ _ _ ran).1 accepts
  exact ⟨x, e, answered_recorded s.db t kept v r x e rows, rows.answer⟩

theorem order_final (i : Input) (o : CommerceOrder) (ho : o ∈ s.db.orders) : ∃ o' ∈ (step deployment s i).db.orders, o'.id = o.id ∧
    (o.status = .confirmed → o'.status = .confirmed ∧ o'.confirmedSettlementId = o.confirmedSettlementId) ∧
    (closed o.status = true → closed o'.status = true) := by
  have kept := step_kept deployment s i sound.whole
  obtain ⟨o', ho', same⟩ := kept.orders o ho
  refine ⟨o', ho', same.id, ?_, same.closed⟩
  intro confirmed
  obtain ⟨id, named⟩ := Option.isSome_iff_exists.mp ((sound.whole.delivered.backed.orders o ho).1.mpr confirmed)
  exact ⟨same.confirmed confirmed, by rw [same.settlement id named, named]⟩

end System

/-- In every state of a run one settlement at most has confirmed an order, and what was collected beside it is kept
under review. -/
theorem single_settlement_per_order (deployment : Deployment) (createdAt : Instant) (inputs : List Input) :
    SingleSettlement deployment (run (step deployment) (System.start createdAt) inputs) := by
  have sound := reached_sound deployment createdAt inputs
  constructor
  · exact matched_once _ sound
  · exact reference_once _ sound
  · exact confirmed_by_collection _ sound
  · exact surplus_outcome deployment _ sound
  · exact order_final deployment _ sound
  · exact delivered_recorded deployment _ sound
  · intro v x e recorded own later
    exact recorded_kept _ _ (run_kept deployment _ later sound) v x e recorded own
  · exact replayed_unchanged deployment _ sound

-- A second collection for a paid order is kept as a duplicate.
theorem second_collection_kept : let s := run (step sampleDeployment) (System.start 0) sampleCollected
    ∃ a o, o.status = .confirmed ∧ SurplusOutcome (sampleWebhook "1" "R2") a o (.duplicate false)
      (step sampleDeployment s (.deliver (sampleWebhookDraw "2") (sampleWebhook "1" "R2"))).db := by
  intro s
  have rows : ((attemptByOrderCode s.db .payos 1).bind (fun a => (orderById s.db a.orderId).map (fun o => (a, o)))).any
      (fun row => row.2.status = .confirmed ∧ paymentFactsMatch s.db row.1 row.2 (sampleWebhook "1" "R2")) = true := by decide +kernel
  obtain ⟨⟨a, o⟩, found, facts⟩ := (Option.any_eq_true _ _).mp rows
  obtain ⟨a', attempt, mapped⟩ := Option.bind_eq_some_iff.mp found
  obtain ⟨o', order, pair⟩ := Option.map_eq_some_iff.mp mapped
  cases pair
  obtain ⟨confirmed, agrees⟩ := of_decide_eq_true facts
  refine ⟨a, o, confirmed, (single_settlement_per_order sampleDeployment 0 sampleCollected).surplus
      (sampleWebhookDraw "2") (sampleWebhook "1" "R2")
    (.duplicate false) a o 1 (by decide +kernel) (by decide +kernel) attempt order ?_ (by decide +kernel) (by decide +kernel) agrees
    (by decide +kernel) (by decide +kernel)⟩
  rw [confirmed]
  decide

-- The provider reports the request failed, the order is cancelled, and then the money arrives all the same.
def sampleWord (n : String) (status : PaymentProviderStatus) (paid : Int) : PaymentRequestStatus where
  providerPaymentIdentity := "link-" ++ n
  receivingAccount := none
  localOrderReference := 1
  amountMinor := 100000
  amountPaidMinor := paid
  amountRemainingMinor := 100000 - paid
  status := status
  createdAt := 0
  cancelledAt := none
  transactions := []

def sampleCancel (n : String) (status : PaymentProviderStatus) (paid : Int) : Input :=
  .followWord (.cancel ("learner-" ++ n))
    { sampleAttempt n "0000000000001-a" with
      status := .pending, providerPaymentIdentity := some ("link-" ++ n), providerReceivingAccountHash := some "account" }
    (sampleWord n status paid) none ⟨sampleWebhookDraw n, "case-" ++ n, fun id => "return-" ++ id⟩

def sampleFailed : System :=
  run (step sampleDeployment) (System.start 0)
    (.environment sampleShop :: sampleRequested "1" "0000000000001-a" ++ [sampleCancel "1" .failed 0])

theorem failed_request_paid :
    sampleFailed.db.orders.map (fun o => o.status) = [.cancelled] ∧
      applied sampleFailed (sampleWebhookDraw "1") (sampleWebhook "1" "R1") = .ok (.rejected .state) ∧
      (step sampleDeployment sampleFailed (.deliver (sampleWebhookDraw "1") (sampleWebhook "1" "R1"))).db.settlements = [] := by
  decide +kernel

end EduAi.Payments
