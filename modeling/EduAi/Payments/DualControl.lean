import EduAi.Payments.BankControl
import EduAi.Payments.MoneyTrace

set_option autoImplicit false

namespace EduAi.Payments

open EduAi.Store EduAi.Gds EduAi.Commerce

structure BankSound (deployment : Deployment) (s : System) : Prop where
  sound : Sound s
  settled : BankSettled s.db
  opened : BankOpen s.now s.db
  enabled : ∀ x ∈ s.db.settlements, x.provider = some .bankTransfer → deployment.bankTransferEnabled = true

section Step

variable (deployment : Deployment) (s : System) (i : Input)

theorem step_commit_wlp (P : CommerceDb → Prop) (before : P s.db) (ran : Wlp (body deployment s i) (fun _ t => P t) s.db) :
    P (step deployment s i).db :=
  commit_of_wlp _ _ s.db before (transaction_wlp _ _ s.db ran)

theorem bankOpen_later (now later : Instant) (db : CommerceDb) (passed : now ≤ later) (opened : BankOpen now db) :
    BankOpen later db := by
  refine ⟨opened.pending, ?_⟩
  intro e he
  obtain ⟨recorded, observed⟩ := opened.recorded e he
  exact ⟨le_trans recorded passed, observed⟩

theorem step_bankOpen (sound : Sound s) (opened : BankOpen s.now s.db) : BankOpen s.now (step deployment s i).db := by
  have backed := sound.whole.delivered.backed
  by_cases bank : i.banks = true
  · refine step_commit_wlp deployment s i _ opened ?_
    cases i with
    | createBank draw key orderId => exact createBankTransfer_open deployment s.now draw key s.db opened orderId
    | supportBank draw key orderId => exact supportBankTransfer_open deployment s.now draw key s.db backed.keys opened orderId
    | closeBank draw expired key orderId => exact closeBankTransfer_open s.now draw key s.db backed.keys opened expired orderId
    | recordStatement draw key requestId statement =>
      exact discard_wlp _ _ _ (recordStatement_open deployment s.now draw key s.db backed.keys opened requestId statement)
    | approveBank draw key evidenceId input =>
      exact discard_wlp _ _ _ (approve_open deployment s.now draw key s.db backed.keys opened evidenceId input)
    | _ => cases bank
  · have outside : i.banks = false := by simpa using bank
    exact bankOpen_apart s.now s.db _ backed.keys sound.whole.requests opened (step_bankApart s sound deployment i outside)

theorem step_bankSettled (sound : Sound s) (settled : BankSettled s.db) : BankSettled (step deployment s i).db := by
  have writes := step_transitions unrestricted deployment s i sound.whole (unrestricted_admits s i)
  exact (writes_invariant (fun db => Whole db ∧ BankSettled db)
    (fun db t moved held => ⟨transition_whole unrestricted db t held.1 moved, transition_bankSettled db t unrestricted held.1 held.2 moved⟩)
    _ _ writes ⟨sound.whole, settled⟩).2

theorem step_dual_control (sound : Sound s) (x : CommerceSettlement) (hx : x ∈ (step deployment s i).db.settlements)
    (bank : x.provider = some .bankTransfer) :
    x ∈ s.db.settlements ∨ ∃ r e, DualControl deployment s.now s.db (step deployment s i).db x r e := by
  have keys := sound.whole.delivered.backed.keys
  have routine : Writes (RoutineWrite .everything) s.db (step deployment s i).db → x ∈ s.db.settlements :=
    fun writes => routines_banks_from _ _ writes x hx bank
  have kept : ∀ m : CommerceTxn Unit, (step deployment s i).db = commit (transaction m) s.db →
      Wlp m (fun _ t => Writes (RoutineWrite .everything) s.db t) s.db → x ∈ s.db.settlements := by
    intro m reached ran
    refine routine ?_
    rw [reached]
    exact commit_of_wlp _ (fun t => Writes (RoutineWrite .everything) s.db t) s.db (writes_refl s.db) (transaction_wlp _ _ s.db ran)
  cases i with
  | createBank draw key orderId =>
    exact .inl (kept _ rfl (createBankTransfer_writes deployment s.now draw key s.db trivial orderId))
  | supportBank draw key orderId =>
    exact .inl (kept _ rfl ((supportBankTransfer_program deployment draw key trivial orderId).within s.db))
  | closeBank draw expired key orderId =>
    exact .inl (kept _ rfl ((closeBankTransfer_program s.now draw key trivial trivial expired orderId).within s.db))
  | recordStatement draw key requestId statement =>
    exact .inl (kept _ rfl
      ((program_discard (recordStatement_program deployment s.now draw key trivial requestId statement)).within s.db))
  | approveBank draw key evidenceId input =>
    have outcome := step_commit_wlp deployment s (.approveBank draw key evidenceId input)
      (fun t => ∀ x ∈ t.settlements, x ∈ s.db.settlements ∨ ∃ r e, DualControl deployment s.now s.db t x r e)
      (fun x old => .inl old)
      (discard_wlp _ _ _ (approve_outcome deployment s.now draw key s.db keys evidenceId input))
    exact outcome x hx
  | _ => exact .inl ((step_bankApart s sound deployment _ rfl).settlements x hx bank)

theorem step_bankSound (bank : BankSound deployment s) : BankSound deployment (step deployment s i) := by
  refine ⟨step_sound deployment s i bank.sound, step_bankSettled deployment s i bank.sound bank.settled, ?_, ?_⟩
  · exact bankOpen_later s.now _ _ (Int.le_add_of_nonneg_right (Int.natCast_nonneg _)) (step_bankOpen deployment s i bank.sound bank.opened)
  · intro x hx provider
    rcases step_dual_control deployment s i bank.sound x hx provider with old | ⟨r, e, control⟩
    · exact bank.enabled x old provider
    · exact control.enabled

end Step

theorem run_bankSound (deployment : Deployment) (s : System) (inputs : List Input) (bank : BankSound deployment s) :
    BankSound deployment (run (step deployment) s inputs) :=
  run_invariant (step deployment) (BankSound deployment) (step_bankSound deployment) s inputs bank

theorem start_bankSound (deployment : Deployment) (createdAt : Instant) : BankSound deployment (System.start createdAt) :=
  ⟨start_sound createdAt, emptyCommerceDb_bankSettled createdAt, emptyCommerceDb_bankOpen createdAt createdAt,
    fun _ member => by cases member⟩

structure ConfirmedByBank (db : CommerceDb) (o : CommerceOrder) (x : CommerceSettlement) : Prop where
  order : o ∈ db.orders
  settlement : x ∈ db.settlements
  provider : x.provider = some .bankTransfer
  confirmed : o.confirmedSettlementId = some x.id

structure Quotes (db : CommerceDb) (x : CommerceSettlement) (e : CommerceBankStatementEvidence) : Prop where
  evidence : e ∈ db.bankEvidence
  reference : x.providerSettlementReference = some e.id

-- The transaction up to the approval's own row, which approve's checks then read.
def recordApproval (draw : BankDraw) (key : OperationKey) (evidenceId : Uuid) : CommerceTxn Unit := do
  bankIdempotency draw key
  addApproval evidenceId key.actorId

theorem recordApproval_store (draw : BankDraw) (key : OperationKey) (db : CommerceDb) (evidenceId : Uuid) :
    Wlp (recordApproval draw key evidenceId) (fun _ t => Writes (RoutineWrite .everything) db t ∧
      ∃ rows approvals, t = { db with idempotency := rows, bankApprovals := approvals }) db := by
  refine wlp_and _ _ (((bankIdempotency_program draw key).bind (fun _ => addApproval_program trivial evidenceId key.actorId)).within db) ?_
  unfold recordApproval
  rw [wlp_bind]
  refine wlp_mono _ db (bankIdempotency_store draw key db) ?_
  rintro _ s ⟨rows, rfl⟩
  refine wlp_mono _ _ (addApproval_store evidenceId key.actorId _) ?_
  rintro _ t ⟨approvals, rfl⟩
  exact ⟨rows, approvals, rfl⟩

structure Approved (deployment : Deployment) (now : Instant) (draw : BankDraw) (key : OperationKey) (db t : CommerceDb) (evidenceId : Uuid)
    (u : CommerceDb) (r : CommerceBankTransferRequest) (e : CommerceBankStatementEvidence) (o : CommerceOrder) : Prop where
  evidence : evidenceById db evidenceId = some e
  recorded : recordApproval draw key e.id db = .ok ((), u)
  request : bankRequestById u e.requestId = some r
  order : orderById u r.orderId = some o
  passes : approvalPasses deployment now u r e o = true
  settlement : bankSettlement draw r e o ∈ t.settlements

theorem approve_passes (deployment : Deployment) (now : Instant) (draw : BankDraw) (key : OperationKey) (db : CommerceDb) (evidenceId : Uuid)
    (input : BankApproval) : Wlp (approve deployment now draw key evidenceId input)
      (fun _ t => t.settlements = db.settlements ∨ ∃ u r e o, Approved deployment now draw key db t evidenceId u r e o) db := by
  simp only [approve, wlp_bind]
  refine wlp_mono _ db (requireOperator_reads deployment db key.actorId) ?_
  rintro _ s ⟨rfl, enabled, _⟩
  simp only [wlp_get, wlp_orThrow, wlp_require]
  intro e evidence _
  refine wlp_mono _ _ (wlp_and _ _ (wlp_run (bankIdempotency draw key) s) (bankIdempotency_store draw key s)) ?_
  rintro _ t ⟨keyed, rows, rfl⟩
  intro r request
  rw [wlp_ite]
  refine ⟨fun _ => ?_, fun _ => ?_⟩
  · simp only [replayApproval, wlp_bind, wlp_get, wlp_orThrow, wlp_pure]
    exact fun _ _ => .inl trivial
  · simp only [approveEvidence, wlp_bind, wlp_require, wlp_get]
    rintro ⟨exception, classified, unexpired, status⟩
    refine wlp_mono _ _ (wlp_and _ _ (wlp_run (addApproval e.id key.actorId) _) (addApproval_store e.id key.actorId _)) ?_
    rintro _ u ⟨added, approvals, rfl⟩
    refine wlp_mono _ _ (requireOperators_reads deployment _ _) ?_
    rintro _ v ⟨rfl, operators⟩
    rw [wlp_ite]
    refine ⟨fun _ => ?_, fun enough => ?_⟩
    · rw [wlp_pure]
      exact .inl rfl
    simp only [settleBank, wlp_bind, wlp_get, wlp_orThrow, wlp_require, wlp_insertEvent, wlp_insertSettlement, wlp_updateAttempt,
      wlp_updateBankRequest, wlp_updateOrder, wlp_pure]
    intro o found payable _ a' event o' settlement old attempt old' moved old'' moves
    refine wlp_mono _ _ (consumeBenefits_store draw _ _) ?_
    rintro _ w ⟨reservations, rfl⟩
    refine .inr ⟨{ s with idempotency := rows, bankApprovals := approvals }, r, e, o, evidence, ?_, request, found, ?_, ?_⟩
    · unfold recordApproval
      rw [bind_run _ _ _ _ _ keyed]
      exact added
    · exact decide_eq_true ⟨exception, classified, unexpired, status, operators, not_lt.mp enough, payable⟩
    · exact List.mem_append_right _ (List.mem_singleton.mpr rfl)

structure BankTransfersControlled (deployment : Deployment) (s : System) : Prop where
  dual : ∀ i o x, ConfirmedByBank (step deployment s i).db o x → (∀ o' ∈ s.db.orders, o'.id = o.id → o'.confirmedSettlementId = none) →
    ∃ r e, DualControl deployment s.now s.db (step deployment s i).db x r e
  once : ∀ o o' x x' e e', ConfirmedByBank s.db o x → ConfirmedByBank s.db o' x' → Quotes s.db x e → Quotes s.db x' e' →
    e.transactionId = e'.transactionId → o = o'
  paid : ∀ r ∈ s.db.bankRequests, r.status = .paid ↔ ∃ x ∈ s.db.settlements, x.paymentAttemptId = some r.paymentAttemptId ∧
    x.provider = some .bankTransfer ∧ x.disposition = .matched
  accepted : ∀ draw key r o, ∀ e ∈ s.db.bankEvidence, ∀ u v, recordApproval draw key e.id s.db = .ok ((), u) →
    bankRequestById u e.requestId = some r → orderById u r.orderId = some o →
    approvalPasses deployment s.now u r e o = true → insertEvent (bankEvent draw r e) u = .ok ((), v) →
    bankSettlementProven s.now v o (bankSettlement draw r e o) = true
  proven : ∀ x ∈ s.db.settlements, x.provider = some .bankTransfer → ∀ later, let u := run (step deployment) s later
    requireBankTransferProof deployment u.now x.orderId x.id u.db = .ok ((), u.db)

section System

variable (deployment : Deployment) (s : System) (bank : BankSound deployment s)

include bank

theorem settlement_observed (x : CommerceSettlement) (hx : x ∈ s.db.settlements) (provider : x.provider = some .bankTransfer) :
    x.settledAt ≤ s.now := by
  obtain ⟨r, e, paid⟩ := bank.settled.proven x hx provider
  obtain ⟨recorded, observed⟩ := bank.opened.recorded e paid.evidence
  rw [paid.settledAt]
  exact le_trans (observed paid.quoted.2.2) recorded

theorem proof_succeeds (x : CommerceSettlement) (hx : x ∈ s.db.settlements) (provider : x.provider = some .bankTransfer) :
    requireBankTransferProof deployment s.now x.orderId x.id s.db = .ok ((), s.db) := by
  have proven := bank_proven s.db bank.sound.whole bank.settled x hx provider s.now (settlement_observed deployment s bank x hx provider)
  unfold requireBankTransferProof
  rw [get_bind_run, require_bind_run _ _ _ _ (bank.enabled x hx provider)]
  unfold require
  rw [if_pos proven]
  rfl

theorem request_paid_iff (r : CommerceBankTransferRequest) (hr : r ∈ s.db.bankRequests) :
    r.status = .paid ↔ ∃ x ∈ s.db.settlements, x.paymentAttemptId = some r.paymentAttemptId ∧
      x.provider = some .bankTransfer ∧ x.disposition = .matched := by
  constructor
  · exact bank.settled.requests.paid r hr
  · rintro ⟨x, hx, attempt, provider, _⟩
    obtain ⟨r', e, paid⟩ := bank.settled.proven x hx provider
    have keys := bank.sound.whole.delivered.backed.keys
    have same : r = r' := unique_eq _ s.db.bankRequests keys.bank.attempts r r' r.paymentAttemptId hr paid.request rfl
      (paid.attempt.symm.trans attempt)
    rw [same]
    exact paid.paid

theorem transaction_once (o o' : CommerceOrder) (x x' : CommerceSettlement) (e e' : CommerceBankStatementEvidence)
    (first : ConfirmedByBank s.db o x) (second : ConfirmedByBank s.db o' x') (quotes : Quotes s.db x e) (quotes' : Quotes s.db x' e')
    (same : e.transactionId = e'.transactionId) : o = o' := by
  have whole := bank.sound.whole
  have keys := whole.delivered.backed.keys
  obtain ⟨r, f, paid⟩ := bank.settled.proven x first.settlement first.provider
  obtain ⟨r', f', paid'⟩ := bank.settled.proven x' second.settlement second.provider
  have evidence : ∀ y g h, Quotes s.db y g → h ∈ s.db.bankEvidence → y.providerSettlementReference = some h.id → g = h := by
    intro y g h quoted member reference
    exact unique_eq _ s.db.bankEvidence keys.bank.evidenceIds g h g.id quoted.evidence member rfl
      (reference.symm.trans quoted.reference)
  have row := evidence x e f quotes paid.evidence paid.quoted.1
  have row' := evidence x' e' f' quotes' paid'.evidence paid'.quoted.1
  subst row row'
  have account := bank.settled.requests.accounts r paid.request
  have account' := bank.settled.requests.accounts r' paid'.request
  have one : e = e' := unique_eq _ s.db.bankEvidence keys.bank.transactions e e' (e.bankBin, e.accountNumber, e.transactionId)
    paid.evidence paid'.evidence rfl (by
      rw [paid.account.1, paid.account.2, paid'.account.1, paid'.account.2, account.1, account.2, account'.1, account'.2, same])
  subst one
  have request : r = r' := unique_eq _ s.db.bankRequests keys.bank.ids r r' r.id paid.request paid'.request rfl
    (congrArg some (paid'.quoted.2.1.symm.trans paid.quoted.2.1))
  have confirms := (named_confirms s.db whole.delivered.backed o first.order x first.settlement first.confirmed).2
  have confirms' := (named_confirms s.db whole.delivered.backed o' second.order x' second.settlement second.confirmed).2
  refine order_same s.db keys o o' first.order second.order ?_
  rw [← confirms.order, ← confirms'.order, ← paid.order, ← paid'.order, request]

theorem settlement_accepted (draw : BankDraw) (key : OperationKey) (r : CommerceBankTransferRequest) (o : CommerceOrder)
    (e : CommerceBankStatementEvidence) (he : e ∈ s.db.bankEvidence) (u v : CommerceDb)
    (recorded : recordApproval draw key e.id s.db = .ok ((), u)) (request : bankRequestById u e.requestId = some r)
    (order : orderById u r.orderId = some o) (passes : approvalPasses deployment s.now u r e o = true)
    (event : insertEvent (bankEvent draw r e) u = .ok ((), v)) :
    bankSettlementProven s.now v o (bankSettlement draw r e o) = true := by
  obtain ⟨writes, rows, approvals, rfl⟩ := recordApproval_store draw key s.db e.id () u recorded
  have whole : Whole _ := transitions_whole unrestricted s.db _ (routine_transitions unrestricted _ _ writes) bank.sound.whole
  have opened : BankOpen s.now { s.db with idempotency := rows, bankApprovals := approvals } :=
    bankOpen_of s.now s.db _ bank.opened rfl rfl rfl
  have inserted : ∀ db, Wlp (insertEvent (bankEvent draw r e)) (fun _ t => ∃ a, EventFits db (bankEvent draw r e) a ∧
      t = { db with events := db.events ++ [bankEvent draw r e] }) db := by
    intro db
    rw [wlp_insertEvent]
    exact fun a fits => ⟨a, fits, rfl⟩
  obtain ⟨a, fits, rfl⟩ := inserted _ () v event
  exact provenance_accepts deployment s.now draw _ whole opened r e o he request order passes a fits

theorem confirmation_controlled (i : Input) (o : CommerceOrder) (x : CommerceSettlement)
    (confirmed : ConfirmedByBank (step deployment s i).db o x)
    (unconfirmed : ∀ o' ∈ s.db.orders, o'.id = o.id → o'.confirmedSettlementId = none) :
    ∃ r e, DualControl deployment s.now s.db (step deployment s i).db x r e := by
  rcases step_dual_control deployment s i bank.sound x confirmed.settlement confirmed.provider with old | control
  · obtain ⟨o', ho', named, _, settled⟩ := bank_confirmed s.db bank.sound.whole bank.settled x old confirmed.provider
    have after := step_sound deployment s i bank.sound
    have confirms := (named_confirms _ after.whole.delivered.backed o confirmed.order x confirmed.settlement confirmed.confirmed).2
    have none := unconfirmed o' ho' (named.trans confirms.order)
    rw [settled] at none
    cases none
  · exact control

end System

/-- In every run a bank transfer confirms an order only on a statement of the request's own terms that two
administrators have approved, and each transaction confirms one order. -/
theorem bank_transfer_dual_control (deployment : Deployment) (createdAt : Instant) (inputs : List Input) :
    BankTransfersControlled deployment (run (step deployment) (System.start createdAt) inputs) := by
  have bank := run_bankSound deployment (System.start createdAt) inputs (start_bankSound deployment createdAt)
  generalize run (step deployment) (System.start createdAt) inputs = s at bank ⊢
  constructor
  · exact confirmation_controlled deployment s bank
  · exact transaction_once deployment s bank
  · exact request_paid_iff deployment s bank
  · intro draw key r o e he u v recorded request order passes event
    exact settlement_accepted deployment s bank draw key r o e he u v recorded request order passes event
  · intro x hx provider later
    have after := run_bankSound deployment s later bank
    have kept := run_kept deployment s later bank.sound
    exact proof_succeeds deployment _ after x (kept.appends.settlements.subset hx) provider

def sampleBankDraw : BankDraw where
  requestId := "request-1"
  attemptId := "bank-attempt-1"
  evidenceId := "evidence-1"
  eventId := "bank-event-1"
  settlementId := "bank-settlement-1"
  idempotencyId := "operation-1"
  operationId := fun id => "use-" ++ id

def sampleKey (actorId operation : String) : OperationKey where
  actorId := actorId
  operation := operation
  keyHash := "key"
  requestHash := "request"

def sampleStatement : BankStatement where
  checked := true
  bankBin := bankSandboxBin
  accountNumber := bankSandboxAccount
  transactionId := "FT1"
  amountMinor := 100000
  transferContent := bankTransferContent "request-1"
  occurredAt := 0
  statementSha256 := "statement"
  suspicious := false

def sampleReview : BankApproval where
  checked := true
  statementSha256 := "statement"
  transactionId := "FT1"
  amountMinor := 100000
  transferContent := bankTransferContent "request-1"
  accountNumber := bankSandboxAccount

-- A transfer that its statement matches, under the eyes of one operator so far.
def sampleReviewed : List Input :=
  [.environment sampleShop, .createOrder (sampleOrderDraw "1") (sampleCheckout "1" []) (fun _ => false),
    .createBank sampleBankDraw (sampleKey "learner-1" "create") "order-1",
    .recordStatement sampleBankDraw (sampleKey "admin-1" "record") "request-1" sampleStatement,
    .approveBank sampleBankDraw (sampleKey "admin-1" "approve") "evidence-1" sampleReview]

def sampleSecondReview : Input :=
  .approveBank sampleBankDraw (sampleKey "admin-2" "approve") "evidence-1" sampleReview

theorem second_review_confirms : let s := run (step sampleDeployment) (System.start 0) sampleReviewed
    ∃ o x, ConfirmedByBank (step sampleDeployment s sampleSecondReview).db o x ∧
      ∃ r e, DualControl sampleDeployment s.now s.db (step sampleDeployment s sampleSecondReview).db x r e := by
  intro s
  have settled : (step sampleDeployment s sampleSecondReview).db.orders.any (fun o =>
      (step sampleDeployment s sampleSecondReview).db.settlements.any (fun x => x.provider = some .bankTransfer ∧
        o.confirmedSettlementId = some x.id)) = true := by decide +kernel
  have unsettled : s.db.orders.all (fun o => o.confirmedSettlementId = none) = true := by decide +kernel
  obtain ⟨o, order, found⟩ := List.any_eq_true.mp settled
  obtain ⟨x, settlement, named⟩ := List.any_eq_true.mp found
  have confirmed : ConfirmedByBank (step sampleDeployment s sampleSecondReview).db o x :=
    ⟨order, settlement, (of_decide_eq_true named).1, (of_decide_eq_true named).2⟩
  exact ⟨o, x, confirmed, (bank_transfer_dual_control sampleDeployment 0 sampleReviewed).dual sampleSecondReview o x confirmed
    (fun o' member _ => of_decide_eq_true (List.all_eq_true.mp unsettled o' member))⟩

end EduAi.Payments
