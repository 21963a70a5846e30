import EduAi.Payments.Transitions

set_option autoImplicit false

namespace EduAi.Payments

open EduAi.Store EduAi.Gds EduAi.Commerce

variable {scope : Scope}

def usesOf (voucherId : Uuid) (reservations : List CommercePromotionReservation) : Nat :=
  reservations.countP (fun r => r.voucherId = some voucherId)

def redeemedRows (db : CommerceDb) (operationId : Uuid → Uuid) (currency : String)
    (reservations : List CommercePromotionReservation) : List VoucherRedemption :=
  reservations.filterMap (fun r => r.voucherId.bind (fun voucherId => (lineById db r.orderLineId).map (fun l =>
    redemptionOf db r voucherId l (operationId r.id) currency)))

def consumedStore (operationId : Uuid → Uuid) (currency : String) (reservations : List CommercePromotionReservation)
    (db : CommerceDb) : CommerceDb :=
  { db with
    reservations := updateWhere (fun r => reservations.any (fun x => x.id = r.id))
      (fun r => (ReservationPatch.consume (operationId r.id)).apply r) db.reservations
    redemptions := db.redemptions ++ redeemedRows db operationId currency reservations
    vouchers := db.vouchers.map (fun v => { v with redeemedCount := v.redeemedCount + usesOf v.id reservations }) }

section Consumption

variable (allow : Allowance) (operationId : Uuid → Uuid) (currency : String) (db : CommerceDb) (keys : Keys db)

include keys in
theorem consumeReservation_transitions (r : CommercePromotionReservation) (member : r ∈ db.reservations)
    (allowed : ∀ v, r.voucherId = some v → allow.uses v r.expiresAt) (s : CommerceDb)
    (path : Writes (Transition allow) db s) :
    Wlp (consumeReservation operationId currency r) (fun _ t => Writes (Transition allow) s t) s := by
  have writes := transitions_writes allow db s path
  obtain ⟨r', hr', kept⟩ := (writes_kept db s keys writes).reservations r member
  simp only [consumeReservation, wlp_bind, wlp_get, wlp_updateReservation]
  intro old moves
  have same : old = r' := by
    obtain ⟨found, named⟩ := reservation_found s r.id old moves.found
    exact reservation_same s (writes_keys db s keys writes) old r' found hr' (named.trans kept.id.symm)
  subst same
  split
  case h_1 none =>
    rw [wlp_pure]
    refine writes_one _ _ (.consumed s r.id (operationId r.id) old moves ?_)
    intro v named
    rw [kept.voucherId, none] at named
    cases named
  case h_2 voucherId named =>
    simp only [wlp_bind, wlp_orThrow, wlp_insertRedemption, wlp_incrementRedeemed]
    intro l _ v fits v' found
    have own : old.id = r.id := kept.id
    have used : Used s old (operationId r.id) (redemptionOf s r voucherId l (operationId r.id) currency) := by
      refine ⟨?_, kept.voucherId.trans named, kept.buyer.symm, rfl, fits.freshKey, v', found⟩
      rw [own]
      exact moves
    have step := Transition.used s old (operationId r.id) _ used (by rw [kept.expiresAt]; exact allowed voucherId named)
    unfold usedStore at step
    rw [own] at step
    exact writes_one _ _ step

include keys in
theorem consumeReservations_transitions (reservations : List CommercePromotionReservation)
    (members : ∀ r ∈ reservations, r ∈ db.reservations)
    (allowed : ∀ r ∈ reservations, ∀ v, r.voucherId = some v → allow.uses v r.expiresAt) (s : CommerceDb)
    (path : Writes (Transition allow) db s) :
    Wlp (consumeReservations operationId currency reservations) (fun _ t => Writes (Transition allow) s t) s := by
  unfold consumeReservations
  refine wlp_mono _ s (wlp_forM_each _ (fun _ _ => True) (fun _ _ _ _ _ => trivial) reservations s ?_)
    (fun _ t reached => reached.1)
  intro r member t reached
  refine wlp_mono _ t (consumeReservation_transitions allow operationId currency db keys r (members r member)
    (allowed r member) t (writes_trans _ _ _ path reached)) ?_
  exact fun _ u moved => ⟨moved, trivial⟩

end Consumption

theorem redeemedRows_cons (db : CommerceDb) (operationId : Uuid → Uuid) (currency : String) (r : CommercePromotionReservation)
    (rest : List CommercePromotionReservation) : redeemedRows db operationId currency (r :: rest) =
      redeemedRows db operationId currency [r] ++ redeemedRows db operationId currency rest := by
  have split : r :: rest = [r] ++ rest := rfl
  unfold redeemedRows
  rw [split, List.filterMap_append]

theorem consumedStore_nil (operationId : Uuid → Uuid) (currency : String) (db : CommerceDb) :
    consumedStore operationId currency [] db = db := by
  have rows : updateWhere (fun r => ([] : List CommercePromotionReservation).any (fun x => x.id = r.id))
      (fun r => (ReservationPatch.consume (operationId r.id)).apply r) db.reservations = db.reservations :=
    updateWhere_of_none _ _ _ (fun _ _ => rfl)
  have counts : db.vouchers.map (fun v => { v with redeemedCount := v.redeemedCount + usesOf v.id [] }) = db.vouchers := by
    simp [usesOf]
  unfold consumedStore
  rw [rows, counts]
  simp [redeemedRows]

theorem consumedStore_cons (operationId : Uuid → Uuid) (currency : String) (r : CommercePromotionReservation)
    (rest : List CommercePromotionReservation) (db : CommerceDb) (apart : r.id ∉ rest.map (fun x => x.id)) :
    consumedStore operationId currency rest (consumedStore operationId currency [r] db) =
      consumedStore operationId currency (r :: rest) db := by
  have unnamed : ∀ x : CommercePromotionReservation, x.id = r.id → (rest.any fun y => y.id = x.id) = false := by
    intro x same
    rw [List.any_eq_false]
    intro y hy sameId
    exact apart (List.mem_map.mpr ⟨y, hy, (of_decide_eq_true sameId).trans same⟩)
  unfold consumedStore
  congr 1
  · rw [List.map_map]
    apply List.map_congr_left
    intro v _
    by_cases uses : r.voucherId = some v.id
    · simp [usesOf, List.countP_cons, uses]
      ring
    · simp [usesOf, List.countP_cons, uses]
  · rw [redeemedRows_cons db operationId currency r rest, ← List.append_assoc]
    rfl
  · rw [updateWhere_updateWhere]
    · simp only [List.any_cons, List.any_nil, Bool.or_false]
    · intro x _ selected
      exact unnamed _ (by simpa [eq_comm] using selected)
    · intro x _ selected
      exact unnamed x (by simpa [eq_comm] using selected)

theorem consumeReservation_store (operationId : Uuid → Uuid) (currency : String) (r : CommercePromotionReservation)
    (db : CommerceDb) :
    Wlp (consumeReservation operationId currency r) (fun _ t => t = consumedStore operationId currency [r] db) db := by
  simp only [consumeReservation, wlp_bind, wlp_get, wlp_updateReservation]
  intro old moves
  have rows : updateWhere (fun x => x.id = r.id) (ReservationPatch.consume (operationId r.id)).apply db.reservations =
      updateWhere (fun x => [r].any (fun y => y.id = x.id)) (fun x => (ReservationPatch.consume (operationId x.id)).apply x)
        db.reservations := by
    refine updateWhere_congr _ _ _ _ _ ?_ ?_
    · intro x _
      simp [eq_comm]
    · intro x _ selected
      rw [of_decide_eq_true selected]
  split
  case h_1 none =>
    rw [wlp_pure, rows]
    simp [consumedStore, redeemedRows, usesOf, none]
  case h_2 voucherId named =>
    simp only [wlp_bind, wlp_orThrow, wlp_insertRedemption, wlp_incrementRedeemed]
    intro l line v fits v' found
    have counts : updateWhere (fun v => v.id = voucherId) countRedeemed db.vouchers =
        db.vouchers.map (fun v => { v with redeemedCount := v.redeemedCount + usesOf v.id [r] }) := by
      apply List.map_congr_left
      intro v _
      by_cases same : v.id = voucherId
      · simp [usesOf, named, same, countRedeemed]
      · have other : voucherId ≠ v.id := fun h => same h.symm
        simp [usesOf, named, same, other]
    have redeemed : redeemedRows db operationId currency [r] = [redemptionOf db r voucherId l (operationId r.id) currency] := by
      simp [redeemedRows, named, line]
    unfold consumedStore
    rw [rows, counts, redeemed]

theorem consumeReservations_store (operationId : Uuid → Uuid) (currency : String)
    (reservations : List CommercePromotionReservation) (distinct : (reservations.map (fun r => r.id)).Nodup) (db : CommerceDb) :
    Wlp (consumeReservations operationId currency reservations)
      (fun _ t => t = consumedStore operationId currency reservations db) db := by
  induction reservations generalizing db with
  | nil =>
    unfold consumeReservations
    rw [List.forM_eq_forM, List.forM_nil, wlp_pure, consumedStore_nil]
  | cons r rest ih =>
    unfold consumeReservations at *
    rw [List.map_cons, List.nodup_cons] at distinct
    rw [List.forM_eq_forM, List.forM_cons, wlp_bind]
    refine wlp_mono _ db (consumeReservation_store operationId currency r db) ?_
    rintro _ s rfl
    refine wlp_mono _ _ (ih distinct.2 _) ?_
    intro _ t same
    rw [same, consumedStore_cons operationId currency r rest db distinct.1]

def collectedStore (draw : WebhookDraw) (a : CommercePaymentAttempt) (v : VerifiedPaymentWebhook)
    (nextStatus : CommercePaymentStatus) (disposition : CommerceSettlementDisposition) (db : CommerceDb) : CommerceDb :=
  { db with
    events := db.events ++ [collectionEvent draw.eventId a v nextStatus]
    settlements := db.settlements ++ [collectionSettlement draw.settlementId draw.eventId a v disposition] }

def paidStore (now : Instant) (draw : WebhookDraw) (a : CommercePaymentAttempt) (v : VerifiedPaymentWebhook) (db : CommerceDb) :
    CommerceDb :=
  { collectedStore draw a v .paid .matched db with
    attempts := updateWhere (fun x => x.id = a.id) (AttemptPatch.settle .paid).apply db.attempts
    orders := updateWhere (fun o => o.id = a.orderId) (OrderPatch.confirm draw.settlementId now).apply db.orders }

theorem gateway_collector (a : CommercePaymentAttempt) (provider : PaymentProviderName)
    (gateway : a.provider = .ofName provider) : a.provider ≠ .gds := by
  rw [gateway]
  cases provider <;> decide

theorem gateway_unbanked (a : CommercePaymentAttempt) (provider : PaymentProviderName)
    (gateway : a.provider = .ofName provider) : a.provider ≠ .bankTransfer := by
  rw [gateway]
  cases provider <;> decide

section Collections

variable (db : CommerceDb) (backed : Backed db) (now : Instant) (draw : WebhookDraw) (a : CommercePaymentAttempt)
  (o : CommerceOrder) (v : VerifiedPaymentWebhook) (member : a ∈ db.attempts) (order : orderById db a.orderId = some o)
  (facts : paymentFactsMatch db a o v = true) (shaped : deliverable v = true)

include backed member facts in
theorem event_routine (nextStatus : CommercePaymentStatus) (a' : CommercePaymentAttempt)
    (fits : EventFits db (collectionEvent draw.eventId a v nextStatus) a') :
    RoutineWrite scope db { db with events := db.events ++ [collectionEvent draw.eventId a v nextStatus] } := by
  have found : a' = a := by
    have := fits.attempt
    rw [show (collectionEvent draw.eventId a v nextStatus).paymentAttemptId = a.id from rfl,
      attemptById_of_mem db backed.keys a member] at this
    exact (Option.some.inj this).symm
  subst found
  exact .event db _ a' fits (of_decide_eq_true facts).2.1

include backed member facts shaped in
theorem settlement_collected (nextStatus : CommercePaymentStatus) (disposition : CommerceSettlementDisposition)
    (paid : disposition = .matched → nextStatus = .paid) (a' : CommercePaymentAttempt)
    (fits : EventFits db (collectionEvent draw.eventId a v nextStatus) a') :
    ∃ x e, Collected { db with events := db.events ++ [collectionEvent draw.eventId a v nextStatus] }
      (collectionSettlement draw.settlementId draw.eventId a v disposition) x e := by
  have w := @event_routine .nothing db backed draw a o v member facts nextStatus a' fits
  have keys := write_keys db _ (.routine _ _ w) backed.keys
  obtain ⟨gateway, identity, coded, code, _⟩ := of_decide_eq_true facts
  obtain ⟨_, identityNamed, referenceNamed⟩ := of_decide_eq_true shaped
  refine ⟨a, collectionEvent draw.eventId a v nextStatus, ⟨attemptById_of_mem db backed.keys a member, ?_, rfl, paid,
    gateway_collector a v.provider gateway, fun _ => by rw [code]; exact coded, fun _ => identityNamed, fun _ => referenceNamed⟩⟩
  exact eventById_of_mem _ keys (collectionEvent draw.eventId a v nextStatus) (List.mem_append_right _ (by simp))

include backed member facts in
theorem settled_unbanked (old : CommercePaymentAttempt) (found : attemptById db a.id = some old) :
    old.provider ≠ .bankTransfer := by
  rw [attemptById_of_mem db backed.keys a member] at found
  rw [← Option.some.inj found]
  exact gateway_unbanked a v.provider (of_decide_eq_true facts).1

include backed member order facts shaped in
theorem confirm_store (reservations : List CommercePromotionReservation) (members : ∀ r ∈ reservations, r ∈ db.reservations)
    (distinct : (reservations.map (fun r => r.id)).Nodup) (awaiting : o.status = .pendingPayment) :
    Wlp (confirm now draw a reservations v) (fun r t => r = .confirmed a.orderId draw.settlementId false ∧
      t = consumedStore draw.operationId a.currency reservations (paidStore now draw a v db) ∧
      ∀ allow, (∀ r ∈ reservations, ∀ voucherId, r.voucherId = some voucherId → allow.uses voucherId r.expiresAt) →
        Writes (Transition allow) db t) db := by
  simp only [confirm, createEvent, createSettlement, wlp_bind, wlp_insertEvent, wlp_insertSettlement, wlp_updateAttempt,
    wlp_updateOrder, wlp_pure]
  intro a' event o' settlement old attempt old' moves
  have pending : old' = o := by
    have found : orderById db a.orderId = some old' := moves.found
    rw [order] at found
    exact (Option.some.inj found).symm
  subst pending
  have recorded := fun scope => @event_routine scope db backed draw a old' v member facts .paid a' event
  have unbanked : (collectionSettlement draw.settlementId draw.eventId a v .matched).provider ≠ some .bankTransfer := by
    intro bank
    have gateway := Option.some.inj bank
    cases provider : v.provider <;> rw [provider] at gateway <;> cases gateway
  have confirms : ∀ scope, Confirmation scope { db with events := db.events ++ [collectionEvent draw.eventId a v .paid] } now
      (collectionSettlement draw.settlementId draw.eventId a v .matched) old'
      { collectedStore draw a v .paid .matched db with
        attempts := updateWhere (fun x => x.id = a.id) (AttemptPatch.settle .paid).apply db.attempts } := by
    intro scope
    refine ⟨?_, fun _ => settlement_collected db backed draw a old' v member facts shaped .paid .matched (fun _ => rfl) a' event,
      writes_one _ _ (.moveAttempt _ a.id (.settle .paid) old attempt (fun bank =>
        absurd bank (settled_unbanked db backed a old' v member facts old attempt.found))), moves, awaiting, ?_⟩
    · have same : o' = old' := by
        have found : orderById db a.orderId = some o' := settlement.order
        rw [order] at found
        exact (Option.some.inj found).symm
      rw [← same]
      exact settlement
    · exact fun bank => absurd bank unbanked
  have header : ∀ allow, Writes (Transition allow) db (paidStore now draw a v db) := fun allow =>
    (writes_one _ _ (Transition.routine _ _ (recorded _))).tail (.collected _ now _ old' _ (confirms _) rfl
      (fun bank => absurd bank unbanked))
  intro x t ok
  have store := consumeReservations_store draw.operationId a.currency reservations distinct _ x t ok
  refine ⟨trivial, store, fun allow allowed => ?_⟩
  exact writes_trans _ _ _ (header allow) (consumeReservations_transitions allow draw.operationId a.currency db backed.keys
    reservations members allowed _ (header allow) x t ok)

include backed member facts shaped in
theorem recordDuplicate_writes : Wlp (recordDuplicate now draw a v) (fun r t => r = .duplicate false ∧
    Writes (RoutineWrite .nothing) db t ∧ collectionSettlement draw.settlementId draw.eventId a v .duplicateCollection ∈ t.settlements)
    db := by
  simp only [recordDuplicate, createEvent, createSettlement, wlp_bind, wlp_insertEvent, wlp_insertSettlement, wlp_insertCase,
    wlp_pure]
  intro a' event o' settlement fits
  refine ⟨trivial, ?_, List.mem_append_right _ (by simp)⟩
  exact ((writes_one _ _ (event_routine db backed draw a o v member facts .paid a' event)).tail
    (.surplus _ now _ o' settlement (.inl rfl)
      (fun _ => settlement_collected db backed draw a o v member facts shaped .paid _ (fun h => by cases h) a' event))).tail
    (.openCase _ _ fits ⟨a.id, _, _, rfl, rfl, .inl (by decide)⟩)

include backed member facts shaped in
theorem recordLate_writes : Wlp (recordLate now draw a v) (fun r t => r = .latePaymentReview ∧
    Writes (RoutineWrite .nothing) db t ∧ collectionSettlement draw.settlementId draw.eventId a v .lateCollection ∈ t.settlements)
    db := by
  simp only [recordLate, createEvent, createSettlement, wlp_bind, wlp_insertEvent, wlp_insertSettlement, wlp_updateAttempt,
    wlp_updateOrder, wlp_insertCase, wlp_pure]
  intro a' event o' settlement old attempt old' moves fits
  refine ⟨trivial, ?_, List.mem_append_right _ (by simp)⟩
  exact ((((writes_one _ _ (event_routine db backed draw a o v member facts .latePaid a' event)).tail
    (.surplus _ now _ o' settlement (.inr rfl)
      (fun _ => settlement_collected db backed draw a o v member facts shaped .latePaid _ (fun h => by cases h) a' event))).tail
    (.moveAttempt _ a.id (.settle .latePaid) old attempt (fun bank =>
      absurd bank (settled_unbanked db backed a o v member facts old attempt.found)))).tail
      (.moveOrder _ a.orderId .lateReview old' moves rfl)).tail
    (.openCase _ _ fits ⟨a.id, _, _, rfl, rfl, .inl (by decide)⟩)

end Collections

def MismatchOpen (t : CommerceDb) (attemptId : Uuid) (code : IdentityMismatchCode) : Prop :=
  ∃ c ∈ t.cases, c.sourceKey = mismatchKey attemptId code ∧ c.paymentAttemptId = some attemptId ∧ c.settlementId = none ∧
    c.status = .isOpen

theorem mismatch_unsettled (code : IdentityMismatchCode) : code.text ∉ settledKinds := by
  cases code <;> decide

theorem recordIdentityMismatch_writes (db : CommerceDb) (backed : Backed db) (now : Instant) (caseId : Uuid)
    (a : CommercePaymentAttempt) (code : IdentityMismatchCode) :
    Wlp (recordIdentityMismatch now caseId a code)
      (fun r t => r = .rejected code ∧ Writes (RoutineWrite .nothing) db t ∧ MismatchOpen t a.id code) db := by
  simp only [recordIdentityMismatch, wlp_bind, wlp_get]
  split
  case h_1 c found =>
    obtain ⟨member, key⟩ := find_some _ db.cases c found
    have key := of_decide_eq_true key
    obtain ⟨⟨attemptId, kind, rest, named, attempt, unsettled⟩, opened⟩ := backed.cases c member
    rw [key] at named
    cases named
    have none := unsettled.resolve_left (mismatch_unsettled code)
    simp only [recheckCase, wlp_bind, wlp_require, wlp_updateCase, wlp_pure]
    intro _ old moves
    refine ⟨trivial, writes_one _ _ (.recheckCase db c.id now old moves), ?_⟩
    refine ⟨(CasePatch.recheck now).apply c, (mem_updateWhere _ _ _ _).mpr ⟨c, member, by simp⟩, key, attempt, none, ?_⟩
    exact opened none
  case h_2 =>
    simp only [wlp_bind, wlp_insertCase, wlp_pure]
    intro fits
    refine ⟨trivial, writes_one _ _ (.openCase db _ fits ⟨a.id, code.text, [], rfl, rfl, .inr rfl⟩), ?_⟩
    exact ⟨_, List.mem_append_right _ (List.mem_singleton.mpr rfl), rfl, rfl, rfl, rfl⟩

-- The attempt a verified event is charged to: the one its order reference names, or the one its payment identity names
-- where no attempt has that reference.
def attemptOfEvent (db : CommerceDb) (v : VerifiedPaymentWebhook) (code : Int) : Option CommercePaymentAttempt :=
  match attemptByOrderCode db (.ofName v.provider) code with
  | some a => some a
  | none => attemptByPaymentIdentity db (.ofName v.provider) v.providerPaymentIdentity

def attemptOfPriorEvent (db : CommerceDb) (v : VerifiedPaymentWebhook) : Option CommercePaymentAttempt :=
  (eventByIdentity db (.ofName v.provider) v.providerEventIdentity).bind (fun e => attemptById db e.paymentAttemptId)

-- A settlement that records the event: its provider, its reference and its amount.
def RecordsEvent (v : VerifiedPaymentWebhook) (s : CommerceSettlement) : Prop :=
  s.provider = some (.ofName v.provider) ∧ s.providerSettlementReference = some v.providerSettlementReference ∧
    s.amountMinor = v.amountMinor

inductive VerifiedOutcome (now : Instant) (draw : WebhookDraw) (v : VerifiedPaymentWebhook) (db : CommerceDb) :
    PaymentWebhookProcessingResult → CommerceDb → Prop where
  | unknown (code : Int) (parsed : providerOrderCode v = some code) (noAttempt : attemptOfEvent db v code = none) :
      VerifiedOutcome now draw v db .unknownPaymentAcknowledged db
  | replayed (s : CommerceSettlement) (member : s ∈ db.settlements) (records : RecordsEvent v s) :
      VerifiedOutcome now draw v db (resultFor s true) db
  | mismatch (a : CommercePaymentAttempt) (code : IdentityMismatchCode) (t : CommerceDb)
      (source : attemptOfPriorEvent db v = some a ∨ ∃ n, providerOrderCode v = some n ∧ attemptOfEvent db v n = some a)
      (writes : Writes (RoutineWrite .nothing) db t) (opened : MismatchOpen t a.id code) :
      VerifiedOutcome now draw v db (.rejected code) t
  | duplicate (t : CommerceDb) (s : CommerceSettlement) (member : s ∈ t.settlements) (records : RecordsEvent v s)
      (writes : Writes (RoutineWrite .nothing) db t) : VerifiedOutcome now draw v db (.duplicate false) t
  | late (t : CommerceDb) (s : CommerceSettlement) (member : s ∈ t.settlements) (records : RecordsEvent v s)
      (writes : Writes (RoutineWrite .nothing) db t) : VerifiedOutcome now draw v db .latePaymentReview t
  | confirmed (a : CommercePaymentAttempt) (o : CommerceOrder) (member : a ∈ db.attempts)
      (named : ∃ code, providerOrderCode v = some code ∧ attemptOfEvent db v code = some a)
      (order : orderById db a.orderId = some o) (pending : a.status = .pending) (awaiting : o.status = .pendingPayment)
      (facts : paymentFactsMatch db a o v = true)
      (steps : ∀ allow, (∀ r ∈ reservedOf db o.id, ∀ voucherId, r.voucherId = some voucherId →
          allow.uses voucherId r.expiresAt) → Writes (Transition allow) db
        (consumedStore draw.operationId a.currency (reservedOf db o.id) (paidStore now draw a v db))) :
      VerifiedOutcome now draw v db (.confirmed a.orderId draw.settlementId false)
        (consumedStore draw.operationId a.currency (reservedOf db o.id) (paidStore now draw a v db))

section Outcomes

variable (db : CommerceDb) (backed : Backed db) (now : Instant) (draw : WebhookDraw) (v : VerifiedPaymentWebhook)
  (shaped : deliverable v = true)

include backed in
theorem reservedOf_distinct (orderId : Uuid) : ((reservedOf db orderId).map (fun r => r.id)).Nodup := by
  have ids := backed.keys.reservations.ids
  unfold UniqueKey at ids
  rw [List.filterMap_eq_map'] at ids
  exact List.Nodup.sublist (List.Sublist.map _ List.filter_sublist) ids

include backed shaped

theorem settleUnrecorded_outcome (a : CommercePaymentAttempt) (o : CommerceOrder) (member : a ∈ db.attempts)
    (order : orderById db a.orderId = some o) (facts : paymentFactsMatch db a o v = true) (code : Int)
    (parsed : providerOrderCode v = some code) (named : attemptOfEvent db v code = some a) :
    Wlp (settleUnrecorded now draw a o v) (VerifiedOutcome now draw v db) db := by
  simp only [settleUnrecorded, wlp_bind, wlp_get, wlp_ite]
  refine ⟨?_, fun _ => ⟨?_, fun _ => ⟨?_, ?_⟩⟩⟩
  · rintro ⟨pending, awaiting⟩
    refine wlp_mono _ _ (confirm_store db backed now draw a o v member order facts shaped _
      (fun r hr => (List.mem_filter.mp hr).1) (reservedOf_distinct db backed o.id) awaiting) ?_
    rintro r t ⟨rfl, rfl, steps⟩
    exact .confirmed a o member ⟨code, parsed, named⟩ order pending awaiting facts steps
  · intro _
    refine wlp_mono _ _ (recordDuplicate_writes db backed now draw a o v member facts shaped) ?_
    rintro r t ⟨rfl, writes, recorded⟩
    exact .duplicate t _ recorded ⟨rfl, rfl, rfl⟩ writes
  · intro _
    refine wlp_mono _ _ (recordLate_writes db backed now draw a o v member facts shaped) ?_
    rintro r t ⟨rfl, writes, recorded⟩
    exact .late t _ recorded ⟨rfl, rfl, rfl⟩ writes
  · intro _
    refine wlp_mono _ _ (recordIdentityMismatch_writes db backed now draw.caseId a .state) ?_
    rintro r t ⟨rfl, writes, opened⟩
    exact .mismatch a .state t (.inr ⟨code, parsed, named⟩) writes opened

theorem settleAttempt_outcome (a : CommercePaymentAttempt) (member : a ∈ db.attempts) (code : Int)
    (parsed : providerOrderCode v = some code) (named : attemptOfEvent db v code = some a) :
    Wlp (settleAttempt now draw a v) (VerifiedOutcome now draw v db) db := by
  simp only [settleAttempt, wlp_bind, wlp_get, wlp_orThrow, wlp_ite]
  intro o order
  refine ⟨?_, ?_⟩
  · intro facts
    split
    case h_1 s found =>
      obtain ⟨recorded, matches'⟩ := find_some _ db.settlements s found
      rw [wlp_ite]
      refine ⟨?_, ?_⟩
      · intro same
        obtain ⟨e, _, agrees⟩ := (Option.any_eq_true _ _).mp same
        obtain ⟨_, _, _, _, provider, reference, amount, _⟩ := of_decide_eq_true agrees
        rw [wlp_pure]
        exact .replayed s recorded ⟨provider, reference, amount⟩
      · intro _
        refine wlp_mono _ _ (recordIdentityMismatch_writes db backed now draw.caseId a .reference) ?_
        rintro r t ⟨rfl, writes, opened⟩
        exact .mismatch a .reference t (.inr ⟨code, parsed, named⟩) writes opened
    case h_2 => exact settleUnrecorded_outcome db backed now draw v shaped a o member order facts code parsed named
  · intro _
    refine wlp_mono _ _ (recordIdentityMismatch_writes db backed now draw.caseId a .fact) ?_
    rintro r t ⟨rfl, writes, opened⟩
    exact .mismatch a .fact t (.inr ⟨code, parsed, named⟩) writes opened

omit shaped in
theorem replayPriorEvent_outcome (e : CommercePaymentEvent)
    (prior : eventByIdentity db (.ofName v.provider) v.providerEventIdentity = some e) :
    Wlp (replayPriorEvent now draw e v) (VerifiedOutcome now draw v db) db := by
  simp only [replayPriorEvent, wlp_bind, wlp_get, wlp_orThrow]
  intro a found o order
  have owner : attemptOfPriorEvent db v = some a := by
    unfold attemptOfPriorEvent
    rw [prior]
    exact found
  have mismatched : Wlp (recordIdentityMismatch now draw.caseId a .eventIdentity) (VerifiedOutcome now draw v db) db := by
    refine wlp_mono _ _ (recordIdentityMismatch_writes db backed now draw.caseId a .eventIdentity) ?_
    rintro r t ⟨rfl, writes, opened⟩
    exact .mismatch a .eventIdentity t (.inl owner) writes opened
  split
  case h_1 => exact mismatched
  case h_2 s recorded =>
    rw [wlp_ite]
    refine ⟨?_, fun _ => mismatched⟩
    intro same
    obtain ⟨_, _, _, _, _, _, _, _, _, _, _, _, _, provider, reference, amount, _⟩ := of_decide_eq_true same
    rw [wlp_pure]
    exact .replayed s (find_some _ db.settlements s recorded).1 ⟨provider, reference, amount⟩

theorem applyVerified_outcome : Wlp (applyVerified now draw v) (VerifiedOutcome now draw v db) db := by
  simp only [applyVerified, wlp_bind, wlp_get, wlp_orThrow]
  intro code parsed
  split
  case h_1 e prior => exact replayPriorEvent_outcome db backed now draw v e prior
  case h_2 =>
    split
    case h_1 a found =>
      refine settleAttempt_outcome db backed now draw v shaped a (find_some _ db.attempts a found).1 code parsed ?_
      unfold attemptOfEvent
      rw [found]
    case h_2 none =>
      split
      case h_1 a found =>
        have named : attemptOfEvent db v code = some a := by
          unfold attemptOfEvent
          rw [none]
          exact found
        refine wlp_mono _ _ (recordIdentityMismatch_writes db backed now draw.caseId a .reference) ?_
        rintro r t ⟨rfl, writes, opened⟩
        exact .mismatch a .reference t (.inr ⟨code, parsed, named⟩) writes opened
      case h_2 unnamed =>
        rw [wlp_pure]
        refine .unknown code parsed ?_
        unfold attemptOfEvent
        rw [none]
        exact unnamed

end Outcomes

def UsesOf (allow : Allowance) (db : CommerceDb) (v : VerifiedPaymentWebhook) : Prop :=
  ∀ code a, providerOrderCode v = some code → attemptOfEvent db v code = some a → a.status = .pending →
    ∀ o, orderById db a.orderId = some o → o.status = .pendingPayment → paymentFactsMatch db a o v = true →
    ∀ r ∈ reservedOf db a.orderId, ∀ voucherId, r.voucherId = some voucherId → allow.uses voucherId r.expiresAt

theorem verified_transitions (allow : Allowance) (now : Instant) (draw : WebhookDraw) (v : VerifiedPaymentWebhook)
    (db t : CommerceDb) (r : PaymentWebhookProcessingResult) (outcome : VerifiedOutcome now draw v db r t)
    (allowed : UsesOf allow db v) : Writes (Transition allow) db t := by
  cases outcome with
  | unknown code parsed noAttempt => exact writes_refl db
  | replayed s member records => exact writes_refl db
  | mismatch a code _ source writes opened => exact routine_transitions allow _ _ (writes_mono (routine_anywhere allow.scope) _ _ writes)
  | duplicate _ s member records writes => exact routine_transitions allow _ _ (writes_mono (routine_anywhere allow.scope) _ _ writes)
  | late _ s member records writes => exact routine_transitions allow _ _ (writes_mono (routine_anywhere allow.scope) _ _ writes)
  | confirmed a o member named order pending awaiting facts steps =>
    obtain ⟨code, parsed, byEvent⟩ := named
    refine steps allow ?_
    rw [(orderById_some db a.orderId o order).2]
    exact allowed code a parsed byEvent pending o order awaiting facts

end EduAi.Payments
