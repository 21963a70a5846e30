import EduAi.Payments.CheckoutWrites
import EduAi.Payments.RefundWrites
import EduAi.Payments.WalletWrites
import EduAi.Store.Runs

set_option autoImplicit false

namespace EduAi.Payments

open EduAi.Store EduAi.Gds EduAi.Commerce

variable {scope : Scope}

-- The store, the clock its transactions read, and the earlier stores that a caller may still hold rows of.
structure System where
  db : CommerceDb
  now : Instant
  past : List CommerceDb

def System.reads (s : System) (a : CommercePaymentAttempt) : Bool :=
  (s.db :: s.past).any (fun db => a ∈ db.attempts)

inductive LifecycleCall where
  | cancel (learnerId : Uuid)
  | expiry
deriving DecidableEq, Repr

structure WordDraw where
  webhook : WebhookDraw
  caseId : Uuid
  operationId : Uuid → Uuid

-- One transaction of the application or one change of its environment, with all its data.
inductive Input where
  | advance (elapsed : Nat)
  | environment (t : CommerceDb)
  | publishVersion (v : MembershipPlanVersion)
  | createVoucher (v : Voucher)
  | editVoucher (v : Voucher)
  | walletStatement (statement : Statement)
  | grantReceipt (g : CourseAccessGrant)
  | subscribeReceipt (m : MembershipSubscription)
  | cancelSubscription (id : Uuid)
  | revokeAccess (grantId : Uuid) (reason : String)
  | createOrder (draw : OrderDraw) (request : CheckoutRequest) (owned : Uuid → Bool)
  | createMembership (draw : MembershipDraw) (offer : MembershipOffer)
  | redeemVoucher (request : RedeemRequest)
  | requestPayment (draw : PaymentRequestDraw) (request : PaymentRequest)
  | attachRequest (a : CommercePaymentAttempt) (created : CreatedPaymentRequest)
  | failRequest (attemptId : Uuid)
  | deliver (draw : WebhookDraw) (v : VerifiedPaymentWebhook)
  | fulfill (draw : AccessDraw) (orderId settlementId : Uuid)
  | recordFailure (caseId orderId settlementId : Uuid)
  | finalizeRetry (actorId caseId : Uuid) (expectedUpdatedAt : Instant)
  | flag (a : CommercePaymentAttempt) (review : Review) (seen : Option String) (caseId : Uuid)
  | checkStatus (attemptId : Uuid) (status : PaymentRequestStatus)
  | checkObservation (attemptId : Uuid) (v : VnPayQueryDrObservation)
  | prepareCancel (operationId : Uuid → Uuid) (request : CancelRequest)
  | followWord (call : LifecycleCall) (a : CommercePaymentAttempt) (status : PaymentRequestStatus) (seen : Option String)
      (draw : WordDraw)
  | closeObserved (call : LifecycleCall) (a : CommercePaymentAttempt) (v : VnPayQueryDrObservation) (operationId : Uuid → Uuid)
  | createBank (draw : BankDraw) (key : OperationKey) (orderId : Uuid)
  | supportBank (draw : BankDraw) (key : OperationKey) (orderId : Uuid)
  | closeBank (draw : BankDraw) (expired : Bool) (key : OperationKey) (orderId : Uuid)
  | recordStatement (draw : BankDraw) (key : OperationKey) (requestId : Uuid) (statement : BankStatement)
  | approveBank (draw : BankDraw) (key : OperationKey) (evidenceId : Uuid) (input : BankApproval)
  | payWallet (draw : CheckoutDraw) (buyerId orderId : Uuid)
  | reserveWallet (buyerId orderId : Uuid)
  | releaseWallet (buyerId orderId : Uuid)
  | requestRefund (refundId : Uuid) (input : RefundInput)
  | recordRefund (decision : RefundDecision)
  | rejectRefund (decision : RefundDecision)

def discard {α : Type} (m : CommerceTxn α) : CommerceTxn Unit := do
  let _ ← m
  pure ()

def unreadable : Fault :=
  .missingRow "commerce_payment_attempts"

def closing (call : LifecycleCall) (now : Instant) (operationId : Uuid → Uuid) (attemptId : Uuid)
    (status : PaymentProviderStatus) (requested : Bool) : CommerceTxn Unit :=
  match call with
  | .cancel learnerId => discard (finish now operationId learnerId attemptId status requested)
  | .expiry => discard (finishExpiry now operationId attemptId status requested)

-- The transaction that the provider's status of a PayOS attempt asks cancel and runExpiry for.
def followWord (deployment : Deployment) (now : Instant) (call : LifecycleCall) (a : CommercePaymentAttempt)
    (status : PaymentRequestStatus) (seen : Option String) (draw : WordDraw) : CommerceTxn Unit :=
  match lifecycleAction a status with
  | .flag review => flagAttempt deployment now draw.caseId a review seen
  | .ingest v => discard (applyVerified now draw.webhook v)
  | .close closed => closing call now draw.operationId a.id closed true
  | .none => pure ()

def closedAs (call : LifecycleCall) (outcome : VnPayLifecycleOutcome) : Option PaymentProviderStatus :=
  match call with
  | .cancel _ => cancelledAs outcome
  | .expiry => expiredAs outcome

-- A VNPay attempt closes after a query of its own, which asks the provider for nothing.
def closeObserved (now : Instant) (call : LifecycleCall) (a : CommercePaymentAttempt) (v : VnPayQueryDrObservation)
    (operationId : Uuid → Uuid) : CommerceTxn Unit := do
  let status ← orThrow (closedAs call (lifecycleOutcome v)) (.conflict "PAYMENT_RECONCILIATION_REQUIRED")
  closing call now operationId a.id status false

def editVoucher (new : Voucher) : CommerceTxn Unit := do
  let db ← get
  let old ← orThrow (voucherById db new.id) (.missingRow "vouchers")
  modify (fun db => { db with
    vouchers := updateWhere (fun v => v.id = old.id) (fun _ => { new with redeemedCount := old.redeemedCount }) db.vouchers })

-- The body of each transaction. Every event that reaches applyVerified comes from an adapter, which answers for its shape.
def body (deployment : Deployment) (s : System) : Input → CommerceTxn Unit
  | .advance _ => pure ()
  | .environment t => modify (fun db => beside db t)
  | .publishVersion v => do
      let db ← get
      require (free (fun v => some v.id) v db.versions) (.unique "membership_plan_versions_pkey")
      modify (fun db => { db with versions := db.versions ++ [v] })
  | .createVoucher v => do
      let db ← get
      require (free (fun v => some v.id) v db.vouchers ∧ v.redeemedCount = 0) (.unique "vouchers_pkey")
      modify (fun db => { db with vouchers := db.vouchers ++ [v] })
  | .editVoucher v => editVoucher v
  | .walletStatement statement => onWallet (execute s.now statement)
  | .grantReceipt g => do
      require (g.sourceType = .unverifiedReceiptAccess) (.invariant "receipt grant")
      createGrant g
  | .subscribeReceipt m => do
      require (m.sourceOrderLineId = none) (.invariant "receipt subscription")
      insertSubscription m
  | .cancelSubscription id => cancelSubscriptions (fun m => m.id = id)
  | .revokeAccess grantId reason => revokeGrantRow grantId reason
  | .createOrder draw request owned => discard (createOrderTransaction s.now draw request owned)
  | .createMembership draw offer => createCheckoutTransaction draw offer
  | .redeemVoucher request => discard (redeem s.now request)
  | .requestPayment draw request => discard (prepareRequest deployment s.now draw request)
  | .attachRequest a created => do
      require (s.reads a) unreadable
      completeProviderRequest deployment a created
  | .failRequest attemptId => recordProviderFailure attemptId
  | .deliver draw v => do
      require (settledNotification v ∧ deliverable v) (.badRequest "WEBHOOK_NOT_SETTLED")
      discard (applyVerified s.now draw v)
  | .fulfill draw orderId settlementId => fulfillmentTxn deployment s.now draw orderId settlementId
  | .recordFailure caseId orderId settlementId => discard (recordFailure deployment s.now caseId orderId settlementId)
  | .finalizeRetry actorId caseId expectedUpdatedAt => finalizeRetry s.now actorId caseId expectedUpdatedAt
  | .flag a review seen caseId => do
      require (s.reads a) unreadable
      flagAttempt deployment s.now caseId a review seen
  | .checkStatus attemptId status => persistCheckedFacts deployment s.now attemptId status
  | .checkObservation attemptId v => persistVnPayCheckedFacts s.now attemptId v
  | .prepareCancel operationId request => discard (prepare operationId request)
  | .followWord call a status seen draw => do
      require (s.reads a ∧ a.provider = .payos) unreadable
      followWord deployment s.now call a status seen draw
  | .closeObserved call a v operationId => do
      require (s.reads a ∧ a.provider = .vnpay) unreadable
      closeObserved s.now call a v operationId
  | .createBank draw key orderId => createBankTransfer deployment s.now draw key orderId
  | .supportBank draw key orderId => supportBankTransfer deployment draw key orderId
  | .closeBank draw expired key orderId => closeBankTransfer s.now draw expired key orderId
  | .recordStatement draw key requestId statement => discard (recordStatement deployment s.now draw key requestId statement)
  | .approveBank draw key evidenceId input => discard (approve deployment s.now draw key evidenceId input)
  | .payWallet draw buyerId orderId => discard (payOrder deployment s.now draw buyerId orderId)
  | .reserveWallet buyerId orderId => reserveForUnpaidCommerceOrder deployment s.now buyerId orderId
  | .releaseWallet buyerId orderId => releaseForFinalUnpaidOrder deployment s.now buyerId orderId
  | .requestRefund refundId input => discard (createRefund s.now refundId input)
  | .recordRefund decision => record s.now decision
  | .rejectRefund decision => reject s.now decision

def Input.elapsed : Input → Nat
  | .advance elapsed => elapsed
  | _ => 0

def step (deployment : Deployment) (s : System) (i : Input) : System where
  db := commit (transaction (body deployment s i)) s.db
  now := s.now + i.elapsed
  past := s.db :: s.past

def System.start (createdAt : Instant) : System where
  db := emptyCommerceDb createdAt
  now := createdAt
  past := []

section Bodies

variable (allow : Allowance) (deployment : Deployment)

theorem discard_wlp {α : Type} (m : CommerceTxn α) (Q : CommerceDb → Prop) (db : CommerceDb) (h : Wlp m (fun _ t => Q t) db) :
    Wlp (discard m) (fun _ t => Q t) db := by
  simp only [discard, wlp_bind, wlp_pure]
  exact h

theorem program_wlp {α : Type} (m : CommerceTxn α) (routine : Program (RoutineWrite allow.scope) m) (db : CommerceDb) :
    Wlp m (fun _ t => Writes (Transition allow) db t) db :=
  (Program.transitions allow routine).within db

theorem routine_wlp {α : Type} (m : CommerceTxn α) (db : CommerceDb)
    (routine : Wlp m (fun _ t => Writes (RoutineWrite allow.scope) db t) db) :
    Wlp m (fun _ t => Writes (Transition allow) db t) db :=
  wlp_mono m db routine (fun _ t writes => routine_transitions allow db t writes)

theorem program_discard {α : Type} {m : CommerceTxn α} (routine : Program (RoutineWrite scope) m) : Program (RoutineWrite scope) (discard m) :=
  routine.bind (fun _ => program_pure _)

theorem editVoucher_writes (new : Voucher) (s : CommerceDb)
    (allowed : ∀ old, voucherById s new.id = some old → scope.edits s old { new with redeemedCount := old.redeemedCount }) :
    Wlp (editVoucher new) (fun _ t => Writes (RoutineWrite scope) s t) s := by
  simp only [editVoucher, wlp_bind, wlp_get, wlp_orThrow, wlp_modify]
  intro old found
  have named := (find_some _ s.vouchers old found).2
  have same : new.id = old.id := (of_decide_eq_true named).symm
  refine writes_one _ _ (.editVoucher s old _ ?_ ⟨same, rfl⟩ (allowed old found))
  rw [← same]
  exact found

theorem closing_writes (db : CommerceDb) (call : LifecycleCall) (now : Instant) (operationId : Uuid → Uuid) (attemptId : Uuid)
    (status : PaymentProviderStatus) (requested : Bool) (gives : scope.returns) (unbanked : Unbanked scope db attemptId) :
    Wlp (closing call now operationId attemptId status requested) (fun _ t => Writes (RoutineWrite scope) db t) db := by
  cases call with
  | cancel learnerId => exact discard_wlp _ _ db (finish_writes now operationId gives db learnerId attemptId status requested unbanked)
  | expiry => exact discard_wlp _ _ db (finishExpiry_writes now operationId gives db attemptId status requested unbanked)

theorem walletStatement_program (now : Instant) (statement : Statement) :
    Program (RoutineWrite scope) (onWallet (execute now statement)) := by
  constructor
  intro s
  rw [onWallet, wlp_zoom]
  intro _ gds ok
  exact writes_one _ _ (.wallet s now statement gds ok)

-- What the run allows of the inputs that touch promotions, bank transfers and access rows or give reservations back, each in the
-- store it finds.
def Admits (allow : Allowance) (s : System) : Input → Prop
  | .grantReceipt g => g.sourceType = .unverifiedReceiptAccess → allow.scope.grants g
  | .subscribeReceipt m => m.sourceOrderLineId = none → allow.scope.subscriptions m
  | .editVoucher new =>
      ∀ old, voucherById s.db new.id = some old → allow.scope.edits s.db old { new with redeemedCount := old.redeemedCount }
  | .createOrder draw request _ =>
      (∀ rows, Orders allow s.now draw request { s.db with idempotency := rows }) ∧
        ∀ rows, freeCheckout s.now request { s.db with idempotency := rows } = true → allow.gifts
  | .redeemVoucher request => Redeems allow s.now request s.db
  | .deliver _ v => UsesOf allow s.db v
  | .followWord _ a status _ _ =>
      (∀ v, lifecycleAction a status = .ingest v → UsesOf allow s.db v) ∧
        (s.reads a = true → a.provider = .payos → Unbanked allow.scope s.db a.id) ∧ allow.scope.returns
  | .closeObserved _ a _ _ => (s.reads a = true → a.provider = .vnpay → Unbanked allow.scope s.db a.id) ∧ allow.scope.returns
  | .prepareCancel _ _ => allow.scope.returns
  | .fulfill _ orderId _ => ∀ o, orderById s.db orderId = some o → o.fulfillmentStatus ≠ .fulfilled → allow.completes orderId
  | .createBank _ _ _ => allow.scope.banks
  | .supportBank _ _ _ => allow.scope.banks
  | .closeBank _ _ _ _ => allow.scope.banks ∧ allow.scope.returns
  | .recordStatement _ _ _ _ => allow.scope.banks
  | .approveBank _ _ evidenceId _ => allow.scope.banks ∧ ApprovesBare allow s.db evidenceId
  | _ => True

theorem applyVerified_transitions (now : Instant) (draw : WebhookDraw) (v : VerifiedPaymentWebhook) (db : CommerceDb)
    (whole : Whole db) (shaped : deliverable v = true) (allowed : UsesOf allow db v) :
    Wlp (applyVerified now draw v) (fun _ t => Writes (Transition allow) db t) db :=
  wlp_mono _ db (applyVerified_outcome db whole.delivered.backed now draw v shaped)
    (fun r t outcome => verified_transitions allow now draw v db t r outcome allowed)

theorem lifecycleAction_ingest (a : CommercePaymentAttempt) (status : PaymentRequestStatus) (v : VerifiedPaymentWebhook)
    (action : lifecycleAction a status = .ingest v) : toVerifiedPaymentWebhook a status = some v := by
  unfold lifecycleAction at action
  split at action
  case h_1 => cases action
  case h_2 =>
    split at action
    case isTrue =>
      unfold paidAction at action
      split at action
      case h_1 w built =>
        cases action
        exact built
      case h_2 => cases action
    case isFalse => split at action <;> cases action

theorem followWord_transitions (now : Instant) (call : LifecycleCall) (a : CommercePaymentAttempt) (status : PaymentRequestStatus)
    (seen : Option String) (draw : WordDraw) (db : CommerceDb) (whole : Whole db)
    (allowed : ∀ v, lifecycleAction a status = .ingest v → UsesOf allow db v) (unbanked : Unbanked allow.scope db a.id)
    (gives : allow.scope.returns) :
    Wlp (followWord deployment now call a status seen draw) (fun _ t => Writes (Transition allow) db t) db := by
  unfold followWord
  split
  case h_1 => exact program_wlp allow _ (flagAttempt_program deployment now draw.caseId a _ seen) db
  case h_2 v action =>
    have built := (toVerifiedPaymentWebhook_some a status v (lifecycleAction_ingest a status v action)).2
    exact discard_wlp _ _ db (applyVerified_transitions allow now draw.webhook v db whole built.shaped (allowed v action))
  case h_3 => exact routine_wlp allow _ db (closing_writes db call now draw.operationId a.id _ true gives unbanked)
  case h_4 => exact (wlp_pure _ _ _).mpr (writes_refl db)

theorem body_transitions (s : System) (i : Input) (whole : Whole s.db) (admits : Admits allow s i) :
    Wlp (body deployment s i) (fun _ t => Writes (Transition allow) s.db t) s.db := by
  have keys := whole.delivered.backed.keys
  have beside_one : ∀ t, Writes (Transition allow) s.db (beside s.db t) := fun t =>
    writes_one _ _ (.routine _ _ (.beside s.db t))
  cases i with
  | advance elapsed => exact (wlp_pure _ _ _).mpr (writes_refl _)
  | environment t => exact (wlp_modify _ _ _).mpr (beside_one t)
  | publishVersion v =>
    simp only [body, wlp_bind, wlp_get, wlp_require, wlp_modify]
    exact fun fresh => writes_one _ _ (.routine _ _ (.version s.db v fresh))
  | createVoucher v =>
    simp only [body, wlp_bind, wlp_get, wlp_require, wlp_modify]
    exact fun fresh => writes_one _ _ (.routine _ _ (.voucher s.db v fresh.1 fresh.2))
  | editVoucher v => exact routine_wlp allow _ s.db (editVoucher_writes v s.db admits)
  | walletStatement statement => exact program_wlp allow _ (walletStatement_program s.now statement) s.db
  | grantReceipt g =>
    simp only [body, wlp_bind, wlp_require, wlp_createGrant]
    exact fun receipt => ⟨fun fits => writes_one _ _ (.routine _ _ (.grant s.db g fits (admits receipt))), fun _ => writes_refl _⟩
  | subscribeReceipt m =>
    simp only [body, wlp_bind, wlp_require, wlp_insertSubscription]
    exact fun receipt fits => writes_one _ _ (.routine _ _ (.subscription s.db m fits (admits receipt)))
  | cancelSubscription id => exact program_wlp allow _ ((cancelSubscriptions_withdrawal _).mono (withdrawal_routine _)) s.db
  | revokeAccess grantId reason => exact program_wlp allow _ ((revokeGrantRow_withdrawal grantId reason).mono (withdrawal_routine _)) s.db
  | createOrder draw request owned =>
    exact discard_wlp _ _ _ (createOrderTransaction_transitions allow s.now draw request owned s.db keys admits.1 admits.2)
  | createMembership draw offer => exact routine_wlp allow _ s.db (createCheckoutTransaction_writes draw offer s.db keys)
  | redeemVoucher request => exact discard_wlp _ _ _ (redeem_transitions allow s.now request s.db admits)
  | requestPayment draw request =>
    exact discard_wlp _ _ _ (prepareRequest_transitions allow deployment s.now draw request s.db whole.delivered)
  | attachRequest a created =>
    exact program_wlp allow _ ((program_require _ _).bind (fun _ => completeProviderRequest_program deployment a created)) s.db
  | failRequest attemptId => exact program_wlp allow _ (recordProviderFailure_program attemptId) s.db
  | deliver draw v =>
    simp only [body, wlp_bind, wlp_require]
    exact fun shape => discard_wlp _ _ _ (applyVerified_transitions allow s.now draw v s.db whole shape.2 admits)
  | fulfill draw orderId settlementId =>
    refine wlp_mono _ _ (fulfillmentTxn_outcome deployment s.now draw orderId settlementId s.db whole.delivered) ?_
    intro _ t outcome
    cases outcome with
    | already o found fulfilled => exact writes_refl _
    | completed o t found confirmed unfulfilled done =>
      exact writes_one _ _ (.completed s.db orderId o t found confirmed unfulfilled done (admits o found unfulfilled))
  | recordFailure caseId orderId settlementId =>
    exact discard_wlp _ _ _ (wlp_mono _ _ (recordFailure_outcome deployment s.now orderId settlementId s.db caseId)
      (fun _ t outcome => routine_transitions allow _ _ outcome.1))
  | finalizeRetry actorId caseId expectedUpdatedAt =>
    exact program_wlp allow _ (finalizeRetry_program s.now actorId caseId expectedUpdatedAt) s.db
  | flag a review seen caseId =>
    exact program_wlp allow _ ((program_require _ _).bind (fun _ => flagAttempt_program deployment s.now caseId a review seen)) s.db
  | checkStatus attemptId status => exact program_wlp allow _ (persistCheckedFacts_program deployment s.now attemptId status) s.db
  | checkObservation attemptId v => exact program_wlp allow _ (persistVnPayCheckedFacts_program s.now attemptId v) s.db
  | prepareCancel operationId request => exact program_wlp allow _ (program_discard (prepare_program operationId admits request)) s.db
  | followWord call a status seen draw =>
    simp only [body, wlp_bind, wlp_require]
    exact fun held => followWord_transitions allow deployment s.now call a status seen draw s.db whole admits.1
      (admits.2.1 held.1 held.2) admits.2.2
  | closeObserved call a v operationId =>
    simp only [body, closeObserved, wlp_bind, wlp_require, wlp_orThrow]
    exact fun held status _ => routine_wlp allow _ s.db (closing_writes s.db call s.now operationId a.id status false
      admits.2 (admits.1 held.1 held.2))
  | createBank draw key orderId => exact routine_wlp allow _ s.db (createBankTransfer_writes deployment s.now draw key s.db admits orderId)
  | supportBank draw key orderId => exact program_wlp allow _ (supportBankTransfer_program deployment draw key admits orderId) s.db
  | closeBank draw expired key orderId =>
    exact program_wlp allow _ (closeBankTransfer_program s.now draw key admits.1 admits.2 expired orderId) s.db
  | recordStatement draw key requestId statement =>
    exact program_wlp allow _ (program_discard (recordStatement_program deployment s.now draw key admits requestId statement)) s.db
  | approveBank draw key evidenceId input =>
    exact discard_wlp _ _ _ (approve_transitions allow deployment s.now draw key admits.1 s.db whole evidenceId input admits.2)
  | payWallet draw buyerId orderId =>
    exact discard_wlp _ _ _ (payOrder_transitions allow deployment s.now draw s.db whole buyerId orderId)
  | reserveWallet buyerId orderId =>
    exact program_wlp allow _ (reserveForUnpaidCommerceOrder_program s.now deployment buyerId orderId) s.db
  | releaseWallet buyerId orderId =>
    exact program_wlp allow _ (releaseForFinalUnpaidOrder_program s.now deployment buyerId orderId) s.db
  | requestRefund refundId input => exact program_wlp allow _ (program_discard (createRefund_program s.now refundId input)) s.db
  | recordRefund decision => exact routine_wlp allow _ s.db (record_writes s.now decision s.db whole.delivered.backed)
  | rejectRefund decision => exact program_wlp allow _ (reject_program s.now decision) s.db

end Bodies

section Transactions

theorem deferredChecks_reads (before after db : CommerceDb) : Wlp (deferredChecks before after) (fun _ t => t = db) db := by
  simp only [deferredChecks, wlp_bind, wlp_require]
  exact fun _ _ _ _ _ _ _ _ _ => trivial

theorem transaction_wlp {α : Type} (m : CommerceTxn α) (Q : α → CommerceDb → Prop) (db : CommerceDb) (h : Wlp m Q db) :
    Wlp (transaction m) Q db := by
  simp only [transaction, transact, wlp_bind, wlp_get, wlp_pure]
  refine wlp_mono m db h ?_
  intro a t held
  refine wlp_mono _ t (deferredChecks_reads db t t) ?_
  rintro _ _ rfl
  exact held

theorem transaction_ok {α : Type} (m : CommerceTxn α) (db t : CommerceDb) (a : α) (ok : transaction m db = .ok (a, t)) :
    m db = .ok (a, t) ∧ deferredChecks db t t = .ok ((), t) := by
  have ran : Wlp (transaction m) (fun a t => m db = .ok (a, t) ∧ deferredChecks db t t = .ok ((), t)) db := by
    simp only [transaction, transact, wlp_bind, wlp_get, wlp_pure]
    intro a t body _ u checked
    have same := deferredChecks_reads db t t _ u checked
    rw [same] at checked ⊢
    exact ⟨body, checked⟩
  exact ran a t ok

theorem transaction_discard {α : Type} (m : CommerceTxn α) (db t : CommerceDb) (a : α) (ok : transaction m db = .ok (a, t)) :
    transaction (discard m) db = .ok ((), t) := by
  obtain ⟨ran, checked⟩ := transaction_ok m db t a ok
  refine transaction_of (discard m) db t () ?_ checked
  show (m db >>= fun p => Except.ok ((), p.2)) = _
  rw [ran]
  rfl

end Transactions

def unrestricted : Allowance where
  scope := .everything
  gifts := True
  completes := fun _ => True
  uses := fun _ _ => True
  bare := fun _ => True
  reserves := fun _ _ => True
  redeems := fun _ _ => True

theorem unrestricted_admits (s : System) (i : Input) : Admits unrestricted s i := by
  cases i with
  | createOrder draw request owned =>
    exact ⟨fun _ => ⟨fun _ _ _ _ _ _ _ => trivial, fun _ => trivial⟩, fun _ _ => trivial⟩
  | editVoucher new => exact fun _ _ => trivial
  | redeemVoucher request => exact fun _ _ _ _ _ _ => trivial
  | deliver draw v => exact fun _ _ _ _ _ _ _ _ _ _ _ _ _ => trivial
  | followWord call a status seen draw => exact ⟨fun _ _ _ _ _ _ _ _ _ _ _ _ _ _ _ => trivial, fun _ _ => .inl trivial, trivial⟩
  | closeObserved call a v operationId => exact ⟨fun _ _ => .inl trivial, trivial⟩
  | approveBank draw key evidenceId input => exact ⟨trivial, fun _ _ _ _ _ _ _ _ => trivial⟩
  | closeBank draw expired key orderId => exact ⟨trivial, trivial⟩
  | grantReceipt g => exact fun _ => trivial
  | subscribeReceipt m => exact fun _ => trivial
  | fulfill draw orderId settlementId => exact fun _ _ _ => trivial
  | _ => trivial

section Steps

variable (allow : Allowance) (deployment : Deployment) (s : System) (i : Input)

theorem step_transitions (whole : Whole s.db) (admits : Admits allow s i) :
    Writes (Transition allow) s.db (step deployment s i).db :=
  commit_of_wlp _ _ s.db (writes_refl s.db) (transaction_wlp _ _ s.db (body_transitions allow deployment s i whole admits))

theorem step_whole (whole : Whole s.db) : Whole (step deployment s i).db :=
  transitions_whole unrestricted _ _ (step_transitions unrestricted deployment s i whole (unrestricted_admits s i)) whole

theorem step_kept (whole : Whole s.db) : Kept s.db (step deployment s i).db :=
  writes_kept _ _ whole.delivered.backed.keys (transitions_writes unrestricted _ _
    (step_transitions unrestricted deployment s i whole (unrestricted_admits s i)))

end Steps

structure Sound (s : System) : Prop where
  whole : Whole s.db
  past : ∀ db ∈ s.past, Whole db ∧ Kept db s.db

theorem start_sound (createdAt : Instant) : Sound (System.start createdAt) :=
  ⟨emptyCommerceDb_whole createdAt, fun _ member => by cases member⟩

theorem step_sound (deployment : Deployment) (s : System) (i : Input) (sound : Sound s) : Sound (step deployment s i) := by
  have kept := step_kept deployment s i sound.whole
  refine ⟨step_whole deployment s i sound.whole, ?_⟩
  intro db member
  rcases List.mem_cons.mp member with rfl | earlier
  · exact ⟨sound.whole, kept⟩
  · obtain ⟨whole, before⟩ := sound.past db earlier
    exact ⟨whole, kept_trans _ _ _ before kept⟩

theorem run_sound (deployment : Deployment) (s : System) (inputs : List Input) (sound : Sound s) :
    Sound (run (step deployment) s inputs) :=
  run_invariant (step deployment) Sound (step_sound deployment) s inputs sound

theorem run_kept (deployment : Deployment) (s : System) (inputs : List Input) (sound : Sound s) :
    Kept s.db (run (step deployment) s inputs).db :=
  run_relation (step deployment) (fun s t => Kept s.db t.db) (fun s => kept_refl s.db) (fun s t u => kept_trans s.db t.db u.db)
    Sound (step_sound deployment) (fun s i sound => step_kept deployment s i sound.whole) s inputs sound

end EduAi.Payments
