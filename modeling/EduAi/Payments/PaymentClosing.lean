import EduAi.Payments.SingleSettlement

set_option autoImplicit false

namespace EduAi.Payments

open EduAi.Store EduAi.Gds EduAi.Commerce

def isClosedPayment (a : CommercePaymentAttempt) : Bool :=
  a.status = .cancelled || a.status = .expired || a.status = .failed

structure ClosesNothing (db t : CommerceDb) : Prop where
  attempts : ∀ a ∈ db.attempts, ∃ a' ∈ t.attempts, a'.id = a.id ∧ (isClosedPayment a' = true → isClosedPayment a = true)
  orders : ∀ o ∈ db.orders, ∃ o' ∈ t.orders, o'.id = o.id ∧ (isClosedOrder o' = true → isClosedOrder o = true)

theorem closesNothing_refl (db : CommerceDb) : ClosesNothing db db :=
  ⟨fun a ha => ⟨a, ha, rfl, id⟩, fun o ho => ⟨o, ho, rfl, id⟩⟩

theorem closesNothing_trans (a b c : CommerceDb) (first : ClosesNothing a b) (second : ClosesNothing b c) : ClosesNothing a c := by
  constructor
  · intro row hrow
    obtain ⟨row', hrow', id, closed⟩ := first.attempts row hrow
    obtain ⟨row'', hrow'', id', closed'⟩ := second.attempts row' hrow'
    exact ⟨row'', hrow'', id'.trans id, fun h => closed (closed' h)⟩
  · intro row hrow
    obtain ⟨row', hrow', id, closed⟩ := first.orders row hrow
    obtain ⟨row'', hrow'', id', closed'⟩ := second.orders row' hrow'
    exact ⟨row'', hrow'', id'.trans id, fun h => closed (closed' h)⟩

theorem closesNothing_of (db t : CommerceDb) (attempts : t.attempts = db.attempts) (orders : t.orders = db.orders) :
    ClosesNothing db t := by
  constructor
  · intro a ha
    exact ⟨a, by rw [attempts]; exact ha, rfl, id⟩
  · intro o ho
    exact ⟨o, by rw [orders]; exact ho, rfl, id⟩

section Programs

variable (now : Instant) (draw : WebhookDraw) (v : VerifiedPaymentWebhook)

theorem apart_program {α : Type} (m : CommerceTxn α)
    (apart : ∀ db, Wlp m (fun _ t => t.attempts = db.attempts ∧ t.orders = db.orders) db) : Program ClosesNothing m :=
  ⟨fun db => wlp_mono m db (apart db) (fun _ t same => writes_one _ _ (closesNothing_of db t same.1 same.2))⟩

theorem settleAttempt_program (id : Uuid) (status : CommercePaymentStatus) (collected : status = .paid ∨ status = .latePaid) :
    Program ClosesNothing (updateAttempt id (.settle status)) := by
  constructor
  intro db
  rw [wlp_updateAttempt]
  refine fun old _ => writes_one _ _ ⟨?_, fun o ho => ⟨o, ho, rfl, fun h => h⟩⟩
  intro a ha
  refine ⟨_, (mem_updateWhere _ _ _ _).mpr ⟨a, ha, rfl⟩, ?_⟩
  split
  case isTrue =>
    refine ⟨rfl, fun closed => ?_⟩
    rcases collected with paid | late
    · simp [isClosedPayment, AttemptPatch.apply, paid] at closed
    · simp [isClosedPayment, AttemptPatch.apply, late] at closed
  case isFalse => exact ⟨rfl, fun h => h⟩

theorem updateOrder_program (id : Uuid) (patch : OrderPatch) (same : ∀ o, (patch.apply o).id = o.id)
    (opened : ∀ o, isClosedOrder (patch.apply o) = false) : Program ClosesNothing (updateOrder id patch) := by
  constructor
  intro db
  rw [wlp_updateOrder]
  refine fun old _ => writes_one _ _ ⟨fun a ha => ⟨a, ha, rfl, fun h => h⟩, ?_⟩
  intro o ho
  refine ⟨_, (mem_updateWhere _ _ _ _).mpr ⟨o, ho, rfl⟩, ?_⟩
  split
  case isTrue =>
    refine ⟨same o, fun closed => ?_⟩
    rw [opened o] at closed
    cases closed
  case isFalse => exact ⟨rfl, fun h => h⟩

theorem insertCase_program (c : CommerceReconciliationCase) : Program ClosesNothing (insertCase c) :=
  apart_program _ (fun db => (wlp_insertCase db c _).mpr (fun _ => ⟨rfl, rfl⟩))

theorem createEvent_program (a : CommercePaymentAttempt) (nextStatus : CommercePaymentStatus) :
    Program ClosesNothing (createEvent draw.eventId a v nextStatus) :=
  apart_program _ (fun db => (wlp_insertEvent db _ _).mpr (fun _ _ => ⟨rfl, rfl⟩))

theorem createSettlement_program (a : CommercePaymentAttempt) (disposition : CommerceSettlementDisposition) :
    Program ClosesNothing (createSettlement now draw.settlementId draw.eventId a v disposition) :=
  apart_program _ (fun db => (wlp_insertSettlement db now _ _).mpr (fun _ _ => ⟨rfl, rfl⟩))

theorem consumeReservations_program (operationId : Uuid → Uuid) (currency : String)
    (reservations : List CommercePromotionReservation) :
    Program ClosesNothing (consumeReservations operationId currency reservations) := by
  refine program_forM _ _ (fun r => apart_program _ (fun db => ?_))
  simp only [consumeReservation, wlp_bind, wlp_get, wlp_updateReservation]
  intro old _
  split
  case h_1 => exact (wlp_pure _ _ _).mpr ⟨rfl, rfl⟩
  case h_2 =>
    simp only [wlp_bind, wlp_orThrow, wlp_insertRedemption, wlp_incrementRedeemed]
    exact fun _ _ _ _ _ _ => ⟨trivial, trivial⟩

theorem recordIdentityMismatch_cases (db : CommerceDb) (caseId : Uuid) (a : CommercePaymentAttempt) (code : IdentityMismatchCode) :
    Wlp (recordIdentityMismatch now caseId a code) (fun _ t => t.attempts = db.attempts ∧ t.orders = db.orders) db := by
  simp only [recordIdentityMismatch, wlp_bind, wlp_get]
  split
  case h_1 =>
    simp only [recheckCase, wlp_bind, wlp_require, wlp_updateCase, wlp_pure]
    exact fun _ _ _ => ⟨trivial, trivial⟩
  case h_2 =>
    simp only [wlp_bind, wlp_insertCase, wlp_pure]
    exact fun _ => ⟨trivial, trivial⟩

theorem flagAttempt_cases (deployment : Deployment) (caseId : Uuid) (a : CommercePaymentAttempt) (r : Review)
    (seen : Option String) (db : CommerceDb) :
    Wlp (flagAttempt deployment now caseId a r seen) (fun _ t => t.attempts = db.attempts ∧ t.orders = db.orders) db := by
  simp only [flagAttempt, wlp_bind, wlp_get]
  split
  case h_1 =>
    rw [wlp_updateCase]
    exact fun _ _ => ⟨rfl, rfl⟩
  case h_2 =>
    rw [wlp_insertCase]
    exact fun _ => ⟨rfl, rfl⟩

theorem settleUnrecorded_program (a : CommercePaymentAttempt) (o : CommerceOrder) :
    Program ClosesNothing (settleUnrecorded now draw a o v) := by
  have answered : ∀ r : PaymentWebhookProcessingResult, Program ClosesNothing (pure r : CommerceTxn _) := fun r => program_pure r
  refine program_get.bind (fun db => program_ite _ _ _ ?_ (program_ite _ _ _ ?_ (program_ite _ _ _ ?_ ?_)))
  · exact (createEvent_program draw v a .paid).bind (fun _ => (createSettlement_program now draw v a .matched).bind (fun _ =>
      (settleAttempt_program a.id .paid (.inl rfl)).bind (fun _ =>
      (updateOrder_program a.orderId (.confirm draw.settlementId now) (fun _ => rfl) (fun _ => rfl)).bind (fun _ =>
      (consumeReservations_program draw.operationId a.currency _).bind (fun _ => answered _)))))
  · exact (createEvent_program draw v a .paid).bind (fun _ => (createSettlement_program now draw v a .duplicateCollection).bind (fun _ =>
      (insertCase_program _).bind (fun _ => answered _)))
  · exact (createEvent_program draw v a .latePaid).bind (fun _ => (createSettlement_program now draw v a .lateCollection).bind (fun _ =>
      (settleAttempt_program a.id .latePaid (.inr rfl)).bind (fun _ =>
      (updateOrder_program a.orderId .lateReview (fun _ => rfl) (fun _ => rfl)).bind (fun _ =>
      (insertCase_program _).bind (fun _ => answered _)))))
  · exact apart_program _ (fun db => recordIdentityMismatch_cases now db draw.caseId a .state)

theorem applyVerified_program : Program ClosesNothing (applyVerified now draw v) := by
  have refused : ∀ a code, Program ClosesNothing (recordIdentityMismatch now draw.caseId a code) := fun a code =>
    apart_program _ (fun db => recordIdentityMismatch_cases now db draw.caseId a code)
  refine program_get.bind (fun db => (program_orThrow _ _).bind (fun code => ?_))
  split
  case h_1 e _ =>
    refine program_get.bind (fun db => (program_orThrow _ _).bind (fun a => (program_orThrow _ _).bind (fun o => ?_)))
    split
    · exact refused a .eventIdentity
    · exact program_ite _ _ _ (program_pure _) (refused a .eventIdentity)
  case h_2 =>
    split
    case h_1 a _ =>
      refine program_get.bind (fun db => (program_orThrow _ _).bind (fun o => program_ite _ _ _ ?_ (refused a .fact)))
      split
      · exact program_ite _ _ _ (program_pure _) (refused a .reference)
      · exact settleUnrecorded_program now draw v a o
    case h_2 =>
      split
      · exact refused _ .reference
      · exact program_pure _

theorem applyVerified_closesNothing (db : CommerceDb) :
    Wlp (applyVerified now draw v) (fun _ t => ClosesNothing db t) db :=
  wlp_mono _ db ((applyVerified_program now draw v).within db) (fun _ t writes =>
    writes_relation ClosesNothing closesNothing_refl closesNothing_trans (fun _ => True) (fun _ _ _ _ => trivial)
      (fun _ _ w _ => w) db t writes trivial)

def isRefused : PaymentWebhookProcessingResult → Bool
  | .rejected _ => true
  | .unknownPaymentAcknowledged => true
  | _ => false

def RefusalApart (db : CommerceDb) (r : PaymentWebhookProcessingResult) (t : CommerceDb) : Prop :=
  isRefused r = true → t.attempts = db.attempts ∧ t.orders = db.orders

theorem before_apart {α : Type} (db : CommerceDb) (m : CommerceTxn α) (f : α → CommerceTxn PaymentWebhookProcessingResult)
    (rest : ∀ a s, Wlp (f a) (RefusalApart db) s) (s : CommerceDb) : Wlp (m >>= f) (RefusalApart db) s := by
  rw [wlp_bind]
  exact fun a t _ => rest a t

theorem answered_apart (db : CommerceDb) (r : PaymentWebhookProcessingResult) (settled : isRefused r = false) (s : CommerceDb) :
    Wlp (pure r : CommerceTxn _) (RefusalApart db) s := by
  rw [wlp_pure]
  intro refused
  rw [settled] at refused
  cases refused

theorem mismatch_apart (db : CommerceDb) (a : CommercePaymentAttempt) (code : IdentityMismatchCode) :
    Wlp (recordIdentityMismatch now draw.caseId a code) (RefusalApart db) db :=
  wlp_mono _ db (recordIdentityMismatch_cases now db draw.caseId a code) (fun _ _ same _ => same)

theorem replayed_apart (db : CommerceDb) (x : CommerceSettlement) : Wlp (pure (resultFor x true) : CommerceTxn _) (RefusalApart db) db := by
  rw [wlp_pure]
  exact fun _ => ⟨rfl, rfl⟩

theorem applyVerified_apart (db : CommerceDb) : Wlp (applyVerified now draw v) (RefusalApart db) db := by
  simp only [applyVerified, wlp_bind, wlp_get, wlp_orThrow]
  intro code _
  split
  case h_1 e _ =>
    simp only [replayPriorEvent, wlp_bind, wlp_get, wlp_orThrow]
    intro a _ o _
    split
    · exact mismatch_apart now draw db a .eventIdentity
    · rw [wlp_ite]
      exact ⟨fun _ => replayed_apart db _, fun _ => mismatch_apart now draw db a .eventIdentity⟩
  case h_2 =>
    split
    case h_1 a _ =>
      simp only [settleAttempt, wlp_bind, wlp_get, wlp_orThrow, wlp_ite]
      refine fun o _ => ⟨fun _ => ?_, fun _ => mismatch_apart now draw db a .fact⟩
      split
      · rw [wlp_ite]
        exact ⟨fun _ => replayed_apart db _, fun _ => mismatch_apart now draw db a .reference⟩
      · simp only [settleUnrecorded, wlp_bind, wlp_get, wlp_ite]
        refine ⟨fun _ => ?_, fun _ => ⟨fun _ => ?_, fun _ => ⟨fun _ => ?_, fun _ => mismatch_apart now draw db a .state⟩⟩⟩
        · exact before_apart db _ _ (fun _ => before_apart db _ _ (fun _ => before_apart db _ _ (fun _ =>
            before_apart db _ _ (fun _ => before_apart db _ _ (fun _ => answered_apart db _ rfl))))) db
        · exact before_apart db _ _ (fun _ => before_apart db _ _ (fun _ => before_apart db _ _ (fun _ => answered_apart db _ rfl))) db
        · exact before_apart db _ _ (fun _ => before_apart db _ _ (fun _ => before_apart db _ _ (fun _ =>
            before_apart db _ _ (fun _ => before_apart db _ _ (fun _ => answered_apart db _ rfl))))) db
    case h_2 =>
      split
      · exact mismatch_apart now draw db _ .reference
      · rw [wlp_pure]
        exact fun _ => ⟨rfl, rfl⟩

end Programs

-- One turn of cancel or of runExpiry on a PayOS attempt: the row it has read, the provider's answer, what became of the
-- fulfilment that follows a confirmation, and what its transactions draw.
structure Turn where
  call : LifecycleCall
  attempt : CommercePaymentAttempt
  status : PaymentRequestStatus
  seen : Option String
  draw : WordDraw
  fulfilled : Except Fault Unit
  seenAfter : Option String
  caseAfter : Uuid

def Turn.word (T : Turn) : Input :=
  .followWord T.call T.attempt T.status T.seen T.draw

-- What reaches the caller of the word's transaction as an exception; a refused event does.
def turnFault (deployment : Deployment) (s : System) (T : Turn) : Option Fault :=
  match lifecycleAction T.attempt T.status with
  | .ingest v =>
      match processVerified s T.draw.webhook v T.fulfilled with
      | .ok (.rejected code) => some (.conflict code.text)
      | .ok _ => none
      | .error fault => some fault
  | _ =>
      match transaction (body deployment s T.word) s.db with
      | .ok _ => none
      | .error fault => some fault

def Turn.review (T : Turn) (fault : Fault) : Input :=
  .flag T.attempt (expiryFailure fault) T.seenAfter T.caseAfter

-- Only runExpiry has a handler, which flags the attempt.
def turned (deployment : Deployment) (s : System) (T : Turn) : System :=
  match T.call, turnFault deployment s T with
  | .expiry, some fault => step deployment (step deployment s T.word) (T.review fault)
  | _, _ => step deployment s T.word

def turnCommits (deployment : Deployment) (s : System) (T : Turn) : Bool :=
  match T.call, turnFault deployment s T with
  | .expiry, some fault =>
      (transaction (body deployment (step deployment s T.word) (T.review fault)) (step deployment s T.word).db).isOk
  | _, _ => (transaction (body deployment s T.word) s.db).isOk

-- The provider's word closes nothing that was paid in part, and cancel is not told of money under an identity that was
-- recorded for another attempt.
def safeWord (s : System) (T : Turn) : Bool :=
  match lifecycleAction T.attempt T.status with
  | .close _ => T.status.amountPaidMinor ≤ 0
  | .ingest v => T.call = .expiry ∨ (attemptOfPriorEvent s.db v).all (fun prior => prior.id = T.attempt.id)
  | _ => true

-- The full amount of the attempt, recorded for the event the provider's word was turned into.
def FullySettled (t : CommerceDb) (T : Turn) : Prop :=
  ∃ v, lifecycleAction T.attempt T.status = .ingest v ∧ ∃ x ∈ t.settlements, RecordsEvent v x ∧ x.amountMinor = T.attempt.amountMinor

structure MoneyKept (deployment : Deployment) (s : System) (T : Turn) : Prop where
  closes : ClosesNothing s.db (turned deployment s T).db
  kept : FullySettled (turned deployment s T).db T ∨ ((turned deployment s T).db.attempts = s.db.attempts ∧
    (turned deployment s T).db.orders = s.db.orders ∧ ReviewOpen (turned deployment s T).db T.attempt.id)
  traced : ∀ later, let u := run (step deployment) (turned deployment s T) later
    FullySettled u.db T ∨ ReviewOpen u.db T.attempt.id

theorem lifecycleAction_acts (a : CommercePaymentAttempt) (status : PaymentRequestStatus) : lifecycleAction a status ≠ .none := by
  unfold lifecycleAction paidAction
  split
  · simp
  · split
    · split <;> simp
    · split <;> simp

theorem lifecycleAction_unsettled (a : CommercePaymentAttempt) (status : PaymentRequestStatus) (r : Review)
    (action : lifecycleAction a status = .flag r) : r.unsettled = true := by
  have mismatch : ∀ reason, (reviewOf .providerFactMismatch reason).unsettled = true := fun reason =>
    reviewOf_unsettled _ reason (by decide)
  unfold lifecycleAction paidAction at action
  split at action
  case h_1 concern _ =>
    cases action
    exact mismatch concern
  case h_2 =>
    split at action
    case isTrue =>
      split at action
      case h_1 => cases action
      case h_2 =>
        cases action
        exact mismatch _
    case isFalse =>
      split at action
      case isTrue => cases action
      case isFalse =>
        cases action
        exact reviewOf_unsettled _ _ (by decide)

theorem expiryFailure_unsettled (fault : Fault) : (expiryFailure fault).unsettled = true := by
  unfold expiryFailure
  split <;> exact reviewOf_unsettled _ _ (by decide)

section Turns

variable (deployment : Deployment) (s : System) (sound : Sound s) (T : Turn) (read : s.reads T.attempt = true)
  (payos : T.attempt.provider = .payos)

theorem commit_isOk {α : Type} (m : CommerceTxn α) (db : CommerceDb) (ok : (transaction m db).isOk = true) :
    ∃ a t, m db = .ok (a, t) ∧ commit (transaction m) db = t := by
  cases ran : transaction m db with
  | error fault =>
    rw [ran] at ok
    cases ok
  | ok p => exact ⟨p.1, p.2, (transaction_ok m db p.2 p.1 ran).1, commit_ok _ _ _ _ ran⟩

theorem word_commits (Q : CommerceDb → Prop) (ok : (transaction (body deployment s T.word) s.db).isOk = true)
    (ran : Wlp (followWord deployment s.now T.call T.attempt T.status T.seen T.draw) (fun _ t => Q t) s.db) :
    Q (step deployment s T.word).db := by
  obtain ⟨_, t, body, reached⟩ := commit_isOk _ s.db ok
  have guarded : Wlp (Payments.body deployment s T.word) (fun _ t => Q t) s.db := by
    show Wlp (do require _ _; followWord _ _ _ _ _ _ _) _ _
    rw [wlp_bind, wlp_require]
    exact fun _ => ran
  show Q (commit (transaction (Payments.body deployment s T.word)) s.db)
  rw [reached]
  exact guarded _ t body

theorem word_checked (ok : (transaction (body deployment s T.word) s.db).isOk = true) :
    deferredChecks s.db (step deployment s T.word).db (step deployment s T.word).db = .ok ((), (step deployment s T.word).db) := by
  show deferredChecks s.db (commit (transaction (body deployment s T.word)) s.db) _ = _
  cases ran : transaction (body deployment s T.word) s.db with
  | error fault =>
    rw [ran] at ok
    cases ok
  | ok p =>
    have reached : (step deployment s T.word).db = p.2 := commit_ok _ _ _ _ ran
    rw [reached, commit_ok _ _ _ _ ran]
    exact (transaction_ok _ _ _ _ ran).2

include sound in
theorem flag_step (a : CommercePaymentAttempt) (r : Review) (seen : Option String) (caseId : Uuid) (unsettled : r.unsettled = true)
    (ok : (transaction (body deployment s (.flag a r seen caseId)) s.db).isOk = true) :
    let t := (step deployment s (.flag a r seen caseId)).db
    t.attempts = s.db.attempts ∧ t.orders = s.db.orders ∧ ReviewOpen t a.id := by
  obtain ⟨_, t, ran, reached⟩ := commit_isOk _ s.db ok
  have flagged : Wlp (body deployment s (.flag a r seen caseId))
      (fun _ t => (t.attempts = s.db.attempts ∧ t.orders = s.db.orders) ∧ ReviewOpen t a.id) s.db := by
    show Wlp (do require _ _; flagAttempt _ _ _ _ _ _) _ _
    rw [wlp_bind, wlp_require]
    exact fun _ => wlp_and _ _ (flagAttempt_cases s.now deployment caseId a r seen s.db)
      (flagAttempt_opens deployment s.now caseId a r seen s.db sound.whole.delivered.backed unsettled)
  obtain ⟨same, opened⟩ := flagged _ t ran
  have here : (step deployment s (.flag a r seen caseId)).db = t := reached
  rw [here]
  exact ⟨same.1, same.2, opened⟩

-- What the word alone leaves: the settlement, or the payment as it was and, unless its transaction failed or another
-- attempt answers for the event, a review of it.
structure WordLeft (t : CommerceDb) : Prop where
  closes : ClosesNothing s.db t
  left : FullySettled t T ∨ (t.attempts = s.db.attempts ∧ t.orders = s.db.orders)

include sound read in
theorem read_attempt (code : Int) (coded : T.attempt.providerOrderCode = some code) :
    ∃ a ∈ s.db.attempts, a.id = T.attempt.id ∧ a.amountMinor = T.attempt.amountMinor ∧
      attemptByOrderCode s.db T.attempt.provider code = some a := by
  obtain ⟨db, member, held⟩ := List.any_eq_true.mp read
  have kept : Kept db s.db := by
    rcases List.mem_cons.mp member with same | earlier
    · rw [same]
      exact kept_refl s.db
    · exact (sound.past db earlier).2
  obtain ⟨a, ha, same⟩ := kept.attempts T.attempt (of_decide_eq_true held)
  refine ⟨a, ha, same.id, same.amount, ?_⟩
  have codes := sound.whole.delivered.backed.keys.attempts.orderCodes
  have own := same.orderCode.trans coded
  refine find_unique orderCodeKey _ s.db.attempts codes a (T.attempt.provider, code) ha (decide_eq_true ⟨same.provider, own⟩) ?_ ?_
  · simp [orderCodeKey, same.provider, own]
  · intro b _ hb
    obtain ⟨sameProvider, sameCode⟩ := of_decide_eq_true hb
    simp [orderCodeKey, sameProvider, sameCode]

include sound read payos in
theorem ingested_left (v : VerifiedPaymentWebhook) (draw : WebhookDraw) (action : lifecycleAction T.attempt T.status = .ingest v)
    (r : PaymentWebhookProcessingResult) (t : CommerceDb) (ran : applyVerified s.now draw v s.db = .ok (r, t)) :
    FullySettled t T ∨ ∃ n, r = .rejected n ∧ (ReviewOpen t T.attempt.id ∨
      ∃ prior, attemptOfPriorEvent s.db v = some prior ∧ ReviewOpen t prior.id) := by
  obtain ⟨provider, built⟩ := toVerifiedPaymentWebhook_some T.attempt T.status v (lifecycleAction_ingest T.attempt T.status v action)
  obtain ⟨code, coded, parsed⟩ := built.code
  obtain ⟨a, _, named, amount, found⟩ := read_attempt s sound T read code coded
  have outcome := applyVerified_outcome s.db sound.whole.delivered.backed s.now draw v built.shaped r t ran
  have byCode : attemptByOrderCode s.db (.ofName v.provider) code = some a := by
    rw [provider]
    rw [payos] at found
    exact found
  rcases outcome_left s draw v s.db t r outcome code a parsed byCode with ⟨x, hx, records⟩ | ⟨n, rejected, review⟩
  · exact .inl ⟨v, action, x, hx, records, records.2.2.trans built.amount⟩
  · rw [named] at review
    exact .inr ⟨n, rejected, review⟩

include sound read payos in
theorem ingest_wordLeft (v : VerifiedPaymentWebhook) (draw : WebhookDraw) (action : lifecycleAction T.attempt T.status = .ingest v) :
    Wlp (discard (applyVerified s.now draw v)) (fun _ t => WordLeft s T t) s.db := by
  refine discard_wlp _ _ _ ?_
  intro r t ran
  refine ⟨applyVerified_closesNothing s.now draw v s.db r t ran, ?_⟩
  rcases ingested_left s sound T read payos v draw action r t ran with settled | ⟨n, rejected, _⟩
  · exact .inl settled
  · exact .inr (applyVerified_apart s.now draw v s.db r t ran (by rw [rejected]; rfl))

include sound read payos in
theorem word_left (unclosed : ∀ closed, lifecycleAction T.attempt T.status ≠ .close closed) :
    WordLeft s T (step deployment s T.word).db := by
  have untouched : WordLeft s T s.db := ⟨closesNothing_refl s.db, .inr ⟨rfl, rfl⟩⟩
  by_cases ok : (transaction (body deployment s T.word) s.db).isOk = true
  · refine word_commits deployment s T (WordLeft s T) ok ?_
    unfold followWord
    split
    case h_1 review action =>
      refine wlp_mono _ _ (flagAttempt_cases s.now deployment T.draw.caseId T.attempt review T.seen s.db) ?_
      exact fun _ t same => ⟨closesNothing_of s.db t same.1 same.2, .inr same⟩
    case h_2 v action => exact ingest_wordLeft s sound T read payos v T.draw.webhook action
    case h_3 closed action => exact absurd action (unclosed closed)
    case h_4 => exact (wlp_pure _ _ _).mpr untouched
  · have same : (step deployment s T.word).db = s.db := by
      show commit (transaction (body deployment s T.word)) s.db = s.db
      cases ran : transaction (body deployment s T.word) s.db with
      | error fault => exact commit_error _ s.db fault ran
      | ok p =>
        rw [ran] at ok
        exact absurd rfl ok
    rw [same]
    exact untouched

-- What a turn that ends without its handler has left: a refusal would have thrown, or names the attempt's own event.
include sound read payos in
theorem unhandled_kept (unclosed : ∀ closed, lifecycleAction T.attempt T.status ≠ .close closed) (safe : safeWord s T = true)
    (ok : (transaction (body deployment s T.word) s.db).isOk = true) (quiet : T.call = .expiry → turnFault deployment s T = none) :
    FullySettled (step deployment s T.word).db T ∨ ((step deployment s T.word).db.attempts = s.db.attempts ∧
      (step deployment s T.word).db.orders = s.db.orders ∧ ReviewOpen (step deployment s T.word).db T.attempt.id) := by
  have backed := sound.whole.delivered.backed
  cases action : lifecycleAction T.attempt T.status with
  | close closed => exact absurd action (unclosed closed)
  | none => exact absurd action (lifecycleAction_acts T.attempt T.status)
  | flag review =>
    refine .inr (word_commits deployment s T (fun t => t.attempts = s.db.attempts ∧ t.orders = s.db.orders ∧ ReviewOpen t T.attempt.id) ok ?_)
    unfold followWord
    rw [action]
    refine wlp_mono _ _ (wlp_and _ _ (flagAttempt_cases s.now deployment T.draw.caseId T.attempt review T.seen s.db)
      (flagAttempt_opens deployment s.now T.draw.caseId T.attempt review T.seen s.db backed
        (lifecycleAction_unsettled T.attempt T.status review action))) ?_
    rintro _ t ⟨⟨attempts, orders⟩, opened⟩
    exact ⟨attempts, orders, opened⟩
  | ingest v =>
    obtain ⟨r, ran⟩ : ∃ r, applyVerified s.now T.draw.webhook v s.db = .ok (r, (step deployment s T.word).db) := by
      refine word_commits deployment s T (fun t => ∃ r, applyVerified s.now T.draw.webhook v s.db = .ok (r, t)) ok ?_
      unfold followWord
      rw [action]
      exact discard_wlp _ _ _ (fun r t ran => ⟨r, ran⟩)
    rcases ingested_left s sound T read payos v T.draw.webhook action r _ ran with settled | ⟨n, rejected, review⟩
    · exact .inl settled
    · obtain ⟨attempts, orders⟩ := applyVerified_apart s.now T.draw.webhook v s.db r _ ran (by rw [rejected]; rfl)
      refine .inr ⟨attempts, orders, ?_⟩
      rcases review with own | ⟨prior, charged, opened⟩
      · exact own
      · cases call : T.call with
        | cancel learnerId =>
          have named : prior.id = T.attempt.id := by
            unfold safeWord at safe
            rw [action] at safe
            rcases of_decide_eq_true safe with expiry | same
            · rw [call] at expiry
              cases expiry
            · rw [charged, Option.all_some] at same
              exact of_decide_eq_true same
          rw [← named]
          exact opened
        | expiry =>
          have answered : applied s T.draw.webhook v = .ok r := by
            unfold applied
            rw [transaction_of _ _ _ _ ran (word_checked deployment s T ok)]
            rfl
          have settled := (toVerifiedPaymentWebhook_some T.attempt T.status v (lifecycleAction_ingest T.attempt T.status v action)).2.settled
          have processed : processVerified s T.draw.webhook v T.fulfilled = .ok (.rejected n) := by
            unfold processVerified
            rw [if_pos settled, answered, rejected]
            rfl
          have thrown : turnFault deployment s T = some (.conflict n.text) := by
            unfold turnFault
            rw [action]
            simp only [processed]
          rw [quiet call] at thrown
          cases thrown

end Turns

theorem fullySettled_kept (db t : CommerceDb) (T : Turn) (kept : Kept db t) (settled : FullySettled db T) : FullySettled t T := by
  obtain ⟨v, action, x, hx, records⟩ := settled
  exact ⟨v, action, x, kept.appends.settlements.subset hx, records⟩

/-- Money the provider reports is recorded in full, or the payment stays open under review, whatever the turn has read of it. -/
theorem reported_money_kept (deployment : Deployment) (createdAt : Instant) (inputs : List Input) (T : Turn)
    (read : (run (step deployment) (System.start createdAt) inputs).reads T.attempt = true)
    (payos : T.attempt.provider = .payos) (paid : 0 < T.status.amountPaidMinor)
    (safe : safeWord (run (step deployment) (System.start createdAt) inputs) T = true)
    (commits : turnCommits deployment (run (step deployment) (System.start createdAt) inputs) T = true) :
    MoneyKept deployment (run (step deployment) (System.start createdAt) inputs) T := by
  have sound := run_sound deployment _ inputs (start_sound createdAt)
  generalize run (step deployment) (System.start createdAt) inputs = s at read safe commits sound ⊢
  have unclosed : ∀ closed, lifecycleAction T.attempt T.status ≠ .close closed := by
    intro closed action
    unfold safeWord at safe
    rw [action] at safe
    exact absurd paid (not_lt.mpr (of_decide_eq_true safe))
  have word := word_left deployment s sound T read payos unclosed
  have after := step_sound deployment s T.word sound
  obtain ⟨reached, closes, kept⟩ : Sound (turned deployment s T) ∧ ClosesNothing s.db (turned deployment s T).db ∧
      (FullySettled (turned deployment s T).db T ∨ ((turned deployment s T).db.attempts = s.db.attempts ∧
        (turned deployment s T).db.orders = s.db.orders ∧ ReviewOpen (turned deployment s T).db T.attempt.id)) := by
    unfold turnCommits at commits
    unfold turned
    split at commits
    case h_1 fault call threw =>
      obtain ⟨attempts, orders, opened⟩ := flag_step deployment _ after T.attempt (expiryFailure fault) T.seenAfter T.caseAfter
        (expiryFailure_unsettled fault) commits
      refine ⟨step_sound deployment _ _ after, closesNothing_trans _ _ _ word.closes (closesNothing_of _ _ attempts orders), ?_⟩
      rcases word.left with settled | ⟨same, same'⟩
      · exact .inl (fullySettled_kept _ _ T (step_kept deployment _ (T.review fault) after.whole) settled)
      · exact .inr ⟨attempts.trans same, orders.trans same', opened⟩
    case h_2 handled =>
      have quiet : T.call = .expiry → turnFault deployment s T = none := by
        intro call
        cases threw : turnFault deployment s T with
        | none => rfl
        | some fault => exact absurd threw (handled fault call)
      exact ⟨after, word.closes, unhandled_kept deployment s sound T read payos unclosed safe commits quiet⟩
  refine ⟨closes, kept, fun later => ?_⟩
  have steady := run_kept deployment _ later reached
  rcases kept with settled | ⟨_, _, opened⟩
  · exact .inl (fullySettled_kept _ _ T steady settled)
  · exact .inr (reviewOpen_kept _ _ steady _ opened)

def sampleTurn (status : PaymentProviderStatus) : Turn where
  call := .cancel "learner-1"
  attempt := { sampleAttempt "1" "0000000000001-a" with
    status := .pending, providerPaymentIdentity := some "link-1", providerReceivingAccountHash := some "account" }
  status := sampleWord "1" status 50000
  seen := none
  draw := ⟨sampleWebhookDraw "1", "case-1", fun id => "return-" ++ id⟩
  fulfilled := .ok ()
  seenAfter := none
  caseAfter := "case-2"

def sampleOpenRequest : System :=
  run (step sampleDeployment) (System.start 0) (.environment sampleShop :: sampleRequested "1" "0000000000001-a")

theorem underpaid_request_kept : MoneyKept sampleDeployment sampleOpenRequest (sampleTurn .underpaid) :=
  reported_money_kept sampleDeployment 0 (.environment sampleShop :: sampleRequested "1" "0000000000001-a") (sampleTurn .underpaid)
    (by decide +kernel) rfl (by decide) (by decide +kernel) (by decide +kernel)

-- The provider cancels the request, reports what was paid, and the payment is closed without a trace of it.
theorem partly_paid_request_closed : let t := turned sampleDeployment sampleOpenRequest (sampleTurn .cancelled)
    sampleOpenRequest.reads (sampleTurn .cancelled).attempt = true ∧
      turnCommits sampleDeployment sampleOpenRequest (sampleTurn .cancelled) = true ∧
      0 < (sampleTurn .cancelled).status.amountPaidMinor ∧
      t.db.attempts.map (fun a => a.status) = [.cancelled] ∧ t.db.orders.map (fun o => o.status) = [.cancelled] ∧
      t.db.settlements = [] ∧ t.db.cases = [] := by
  decide +kernel

end EduAi.Payments
