import EduAi.Payments.BankProof

set_option autoImplicit false

namespace EduAi.Payments

open EduAi.Store EduAi.Gds EduAi.Commerce

def Input.banks : Input → Bool
  | .createBank _ _ _ => true
  | .supportBank _ _ _ => true
  | .closeBank _ _ _ _ => true
  | .recordStatement _ _ _ _ => true
  | .approveBank _ _ _ _ => true
  | _ => false

def bankless : Allowance :=
  { unrestricted with scope := { Scope.everything with banks := False } }

section Bankless

variable (s : System) (sound : Sound s)

include sound

theorem reads_unbanked (a : CommercePaymentAttempt) (reads : s.reads a = true) (gateway : a.provider ≠ .bankTransfer) :
    ∀ x, attemptById s.db a.id = some x → x.provider ≠ .bankTransfer := by
  intro x found
  obtain ⟨hx, named⟩ := attemptById_some s.db a.id x found
  obtain ⟨db, member, held⟩ := List.any_eq_true.mp reads
  have kept : Kept db s.db := by
    rcases List.mem_cons.mp member with same | earlier
    · rw [same]
      exact kept_refl s.db
    · exact (sound.past db earlier).2
  obtain ⟨a', ha', same⟩ := kept.attempts a (of_decide_eq_true held)
  have one : x = a' := attempt_same s.db sound.whole.delivered.backed.keys x a' hx ha' (named.trans same.id.symm)
  rw [one, same.provider]
  exact gateway

theorem bankless_admits (i : Input) (outside : i.banks = false) : Admits bankless s i := by
  cases i with
  | createOrder draw request owned =>
    exact ⟨fun _ => ⟨fun _ _ _ _ _ _ _ => trivial, fun _ => trivial⟩, fun _ _ => trivial⟩
  | editVoucher new => exact fun _ _ => trivial
  | redeemVoucher request => exact fun _ _ _ _ _ _ => trivial
  | deliver draw v => exact fun _ _ _ _ _ _ _ _ _ _ _ _ _ => trivial
  | followWord call a status seen draw =>
    refine ⟨fun _ _ _ _ _ _ _ _ _ _ _ _ _ _ _ => trivial, fun reads payos => .inr (reads_unbanked s sound a reads ?_), trivial⟩
    rw [payos]
    decide
  | closeObserved call a v operationId =>
    refine ⟨fun reads vnpay => .inr (reads_unbanked s sound a reads ?_), trivial⟩
    rw [vnpay]
    decide
  | grantReceipt g => exact fun _ => trivial
  | subscribeReceipt m => exact fun _ => trivial
  | fulfill draw orderId settlementId => exact fun _ _ _ => trivial
  | createBank draw key orderId => cases outside
  | supportBank draw key orderId => cases outside
  | closeBank draw expired key orderId => cases outside
  | recordStatement draw key requestId statement => cases outside
  | approveBank draw key evidenceId input => cases outside
  | _ => trivial

theorem step_bankApart (deployment : Deployment) (i : Input) (outside : i.banks = false) :
    BankApart s.db (step deployment s i).db :=
  transitions_bankApart _ _ bankless id sound.whole.delivered.backed.keys
    (step_transitions bankless deployment s i sound.whole (bankless_admits s sound i outside))

end Bankless

-- The attempt of an open request is pending, and a statement without exception was recorded after its transfer.
structure BankOpen (now : Instant) (db : CommerceDb) : Prop where
  pending : ∀ r ∈ db.bankRequests, bankWindowOpen r.status = true →
    ∃ a ∈ db.attempts, a.id = r.paymentAttemptId ∧ a.status = .pending
  recorded : ∀ e ∈ db.bankEvidence, e.recordedAt ≤ now ∧ (e.exceptionReason = none → e.occurredAt ≤ e.recordedAt)

theorem emptyCommerceDb_bankOpen (now createdAt : Instant) : BankOpen now (emptyCommerceDb createdAt) := by
  constructor <;>
    · intro _ member
      cases member

section Opened

variable (now : Instant) (db t : CommerceDb)

theorem bankOpen_of (opened : BankOpen now db) (attempts : t.attempts = db.attempts) (requests : t.bankRequests = db.bankRequests)
    (evidence : t.bankEvidence = db.bankEvidence) : BankOpen now t := by
  refine ⟨?_, ?_⟩
  · rw [attempts, requests]
    exact opened.pending
  · rw [evidence]
    exact opened.recorded

theorem bankOpen_apart (keys : Keys db) (requests : RequestsBacked db) (opened : BankOpen now db) (apart : BankApart db t) : BankOpen now t := by
  refine ⟨?_, ?_⟩
  · rw [apart.requests]
    intro r hr window
    obtain ⟨a, ha, named, pending⟩ := opened.pending r hr window
    obtain ⟨b, hb, of⟩ := requests r hr
    have same : a = b := attempt_same db keys a b ha hb (named.trans of.attempt.symm)
    obtain ⟨a', ha', named', _, pending'⟩ := apart.attempts a ha (by rw [same]; exact of.provider) (by rw [pending]; decide)
    exact ⟨a', ha', named'.trans named, pending'.trans pending⟩
  · rw [apart.evidence]
    exact opened.recorded

theorem bankOpen_moved (opened : BankOpen now db) (id : Uuid) (status : BankRequestStatus) (old : CommerceBankTransferRequest)
    (keys : Keys db) (moves : BankRequestMoves db id status old) : BankOpen now { db with
      bankRequests := updateWhere (fun r => r.id = id) (fun r => { r with status }) db.bankRequests } := by
  refine ⟨?_, opened.recorded⟩
  intro y hy window
  obtain ⟨r, hr, rfl⟩ := (mem_updateWhere _ _ _ _).mp hy
  by_cases selected : r.id = id
  · obtain ⟨member, named⟩ := find_some _ db.bankRequests old moves.found
    have same : r = old := unique_eq _ db.bankRequests keys.bank.ids r old old.id hr member
      (by rw [selected, of_decide_eq_true named]) rfl
    rw [if_pos (by simp [selected])] at window ⊢
    refine opened.pending r hr ?_
    rw [same]
    rcases moves.transition with kept | ⟨opened', _⟩
    · rw [kept]
      exact window
    · exact opened'
  · rw [if_neg (by simp [selected])] at window ⊢
    exact opened.pending r hr window

theorem bankOpen_ended (opened : BankOpen now db) (keys : Keys db) (r : CommerceBankTransferRequest) (hr : r ∈ db.bankRequests)
    (patch : AttemptPatch) (status : BankRequestStatus) (ended : bankWindowOpen status = false) : BankOpen now { db with
      attempts := updateWhere (fun a => a.id = r.paymentAttemptId) patch.apply db.attempts
      bankRequests := updateWhere (fun x => x.id = r.id) (fun x => { x with status }) db.bankRequests } := by
  refine ⟨?_, opened.recorded⟩
  intro y hy window
  obtain ⟨x, hx, rfl⟩ := (mem_updateWhere _ _ _ _).mp hy
  by_cases selected : x.id = r.id
  · rw [if_pos (by simp [selected])] at window
    rw [ended] at window
    cases window
  · rw [if_neg (by simp [selected])] at window ⊢
    obtain ⟨a, ha, named, pending⟩ := opened.pending x hx window
    have other : a.id ≠ r.paymentAttemptId := by
      intro same
      have one := unique_eq _ db.bankRequests keys.bank.attempts x r r.paymentAttemptId hx hr (by rw [← named, same]) rfl
      exact selected (by rw [one])
    exact ⟨_, (mem_updateWhere _ _ _ _).mpr ⟨a, ha, rfl⟩, by rw [if_neg (by simp [other])]; exact ⟨named, pending⟩⟩

theorem recorded_keys (keys : Keys db) (rows : List CommerceIdempotencyRecord) : Keys { db with idempotency := rows } :=
  write_keys _ _ (routine_write _ _ (idempotencyBeside db rows)) keys

end Opened

section Transactions

variable (deployment : Deployment) (now : Instant) (draw : BankDraw) (key : OperationKey) (db : CommerceDb)

theorem updateBankRequest_open (keys : Keys db) (opened : BankOpen now db) (id : Uuid) (status : BankRequestStatus) :
    Wlp (updateBankRequest id status) (fun _ t => BankOpen now t) db := by
  rw [wlp_updateBankRequest]
  exact fun old moves => bankOpen_moved now db opened id status old keys moves

theorem supportBankTransfer_open (keys : Keys db) (opened : BankOpen now db) (orderId : Uuid) :
    Wlp (supportBankTransfer deployment draw key orderId) (fun _ t => BankOpen now t) db := by
  simp only [supportBankTransfer, requireOwnedOrder, wlp_bind, wlp_require, wlp_get, wlp_orThrow]
  intro _ o _
  refine wlp_mono _ db (bankIdempotency_store draw key db) ?_
  rintro _ s ⟨rows, rfl⟩
  intro r _
  have held : BankOpen now { db with idempotency := rows } := bankOpen_of now db _ opened rfl rfl rfl
  rw [wlp_ite]
  refine ⟨fun _ => ?_, fun _ => (wlp_pure _ _ _).mpr held⟩
  exact updateBankRequest_open now _ (recorded_keys db keys rows) held _ _

theorem addStatement_open (keys : Keys db) (opened : BankOpen now db) (r : CommerceBankTransferRequest) (input : BankStatement) :
    Wlp (addStatement now draw r input) (fun _ t => BankOpen now t) db := by
  simp only [addStatement, wlp_bind, wlp_insertEvidence, wlp_ite, wlp_pure]
  intro r' fits
  have added := write_keys _ _ (routine_write _ _ (.evidence db _ r' fits trivial)) keys
  have held : BankOpen now { db with
      bankEvidence := db.bankEvidence ++ [recordedStatement now draw r.id input (statementException now draw r input)] } := by
    refine ⟨opened.pending, ?_⟩
    intro e he
    rcases List.mem_append.mp he with old | new
    · exact opened.recorded e old
    · rw [List.mem_singleton.mp new]
      refine ⟨le_refl now, fun clean => ?_⟩
      have agrees : classifyBankEvidence now r (recordedStatement now draw r.id input none) = none := by
        have none := clean
        simp only [recordedStatement, statementException] at none
        split at none
        case isTrue => cases none
        case isFalse =>
          split at none
          case h_1 => cases none
          case h_2 unmatched => exact unmatched
      exact ((classifyBankEvidence_none now r _).mp agrees).observed
  refine ⟨fun _ => ?_, fun _ => held⟩
  refine wlp_mono _ _ (updateBankRequest_open now _ added held _ _) ?_
  exact fun _ t done => done

theorem recordStatement_open (keys : Keys db) (opened : BankOpen now db) (requestId : Uuid) (input : BankStatement) :
    Wlp (recordStatement deployment now draw key requestId input) (fun _ t => BankOpen now t) db := by
  simp only [recordStatement, wlp_bind, wlp_require]
  intro _
  refine wlp_mono _ db (requireOperator_reads deployment db key.actorId) ?_
  rintro _ s ⟨rfl, _⟩
  simp only [wlp_get, wlp_orThrow]
  intro r _
  refine wlp_mono _ s (bankIdempotency_store draw key s) ?_
  rintro _ t ⟨rows, rfl⟩
  have held : BankOpen now { s with idempotency := rows } := bankOpen_of now s _ opened rfl rfl rfl
  split
  · simp only [wlp_bind, wlp_require, wlp_pure]
    exact fun _ => held
  · exact addStatement_open now draw _ (recorded_keys s keys rows) held r input

theorem openBankRequest_open (opened : BankOpen now db) (o : CommerceOrder) :
    Wlp (openBankRequest deployment now draw o) (fun _ t => BankOpen now t) db := by
  simp only [openBankRequest, wlp_bind, wlp_require, wlp_get, wlp_insertAttempt, wlp_updateAttempt, wlp_insertBankRequest]
  intro _ _ _ _ o' fits old moves request
  refine ⟨?_, opened.recorded⟩
  intro r hr window
  have carried : ∀ a ∈ db.attempts, a.status = .pending → ∃ a' ∈ updateWhere (fun a => a.id = draw.attemptId)
      AttemptPatch.start.apply (db.attempts ++ [bankAttempt now draw o (paymentExpiry db now o)]), a'.id = a.id ∧
        a'.status = .pending := by
    intro a ha pending
    refine ⟨_, (mem_updateWhere _ _ _ _).mpr ⟨a, List.mem_append_left _ ha, rfl⟩, ?_⟩
    split
    · exact ⟨rfl, rfl⟩
    · exact ⟨rfl, pending⟩
  rcases List.mem_append.mp hr with old' | new
  · obtain ⟨a, ha, named, pending⟩ := opened.pending r old' window
    obtain ⟨a', ha', named', pending'⟩ := carried a ha pending
    exact ⟨a', ha', named'.trans named, pending'⟩
  · rw [List.mem_singleton.mp new]
    refine ⟨_, (mem_updateWhere _ _ _ _).mpr ⟨_, List.mem_append_right _ (List.mem_singleton.mpr rfl), rfl⟩, ?_⟩
    rw [if_pos (by simp [bankAttempt])]
    exact ⟨rfl, rfl⟩

theorem createBankTransfer_open (opened : BankOpen now db) (orderId : Uuid) :
    Wlp (createBankTransfer deployment now draw key orderId) (fun _ t => BankOpen now t) db := by
  simp only [createBankTransfer, requireOwnedOrder, wlp_bind, wlp_require, wlp_get, wlp_orThrow]
  intro _ o _
  refine wlp_mono _ db (bankIdempotency_store draw key db) ?_
  rintro _ s ⟨rows, rfl⟩
  have held : BankOpen now { db with idempotency := rows } := bankOpen_of now db _ opened rfl rfl rfl
  rw [wlp_ite]
  refine ⟨fun _ => (wlp_pure _ _ _).mpr held, fun _ => ?_⟩
  exact openBankRequest_open deployment now draw _ held o

theorem returnBenefits_open (expired : Bool) (opened : BankOpen now db) (reservations : List CommercePromotionReservation) :
    Wlp (reservations.forM (returnBenefit draw expired)) (fun _ t => BankOpen now t) db := by
  refine wlp_forM _ (fun _ t => BankOpen now t) reservations db ?_ opened
  intro x rest t held
  unfold returnBenefit
  rw [wlp_updateReservation]
  exact fun _ _ => bankOpen_of now t _ held rfl rfl rfl

theorem closeBankTransfer_open (keys : Keys db) (opened : BankOpen now db) (expired : Bool) (orderId : Uuid) :
    Wlp (closeBankTransfer now draw expired key orderId) (fun _ t => BankOpen now t) db := by
  have cancelled : Wlp (cancelKey draw expired key) (fun _ t => ∃ rows, t = { db with idempotency := rows }) db := by
    unfold cancelKey
    rw [wlp_ite, wlp_pure]
    exact ⟨fun _ => ⟨db.idempotency, rfl⟩, fun _ => bankIdempotency_store draw key db⟩
  simp only [closeBankTransfer, requireOwnedOrder, wlp_bind, wlp_get, wlp_orThrow]
  intro o _
  refine wlp_mono _ db cancelled ?_
  rintro _ s ⟨rows, rfl⟩
  intro r found
  have held : BankOpen now { db with idempotency := rows } := bankOpen_of now db _ opened rfl rfl rfl
  rw [wlp_ite]
  refine ⟨fun _ => (wlp_pure _ _ _).mpr held, fun _ => ?_⟩
  simp only [closeBankWindow, wlp_bind, wlp_require, wlp_updateAttempt, wlp_updateBankRequest, wlp_updateOrder, wlp_get]
  intro _ old moves old' moved old'' closed
  have ended := bankOpen_ended now _ held (recorded_keys db keys rows) r (find_some _ db.bankRequests r found).1
    (.close (if expired then .expired else .cancelled) now false) (if expired then .expired else .cancelled)
    (by cases expired <;> rfl)
  refine returnBenefits_open now draw _ expired ?_ _
  exact bankOpen_of now _ _ ended rfl rfl rfl

theorem consumeBenefits_open (opened : BankOpen now db) (reservations : List CommercePromotionReservation) :
    Wlp (reservations.forM (consumeBenefit draw)) (fun _ t => BankOpen now t) db := by
  refine wlp_forM _ (fun _ t => BankOpen now t) reservations db ?_ opened
  intro x rest t held
  unfold consumeBenefit
  rw [wlp_updateReservation]
  exact fun _ _ => bankOpen_of now t _ held rfl rfl rfl

theorem settleBank_open (keys : Keys db) (opened : BankOpen now db) (r : CommerceBankTransferRequest)
    (hr : r ∈ db.bankRequests) (e : CommerceBankStatementEvidence) :
    Wlp (settleBank now draw r e) (fun _ t => BankOpen now t) db := by
  simp only [settleBank, wlp_bind, wlp_get, wlp_orThrow, wlp_require, wlp_insertEvent, wlp_insertSettlement, wlp_updateAttempt,
    wlp_updateBankRequest, wlp_updateOrder, wlp_pure]
  intro o _ _ _ a' event o' settlement old attempt old' request old'' moves
  have ended := bankOpen_ended now db opened keys r hr (.settle .paid) .paid rfl
  refine consumeBenefits_open now draw _ ?_ _
  exact bankOpen_of now _ _ ended rfl rfl rfl

theorem approve_open (keys : Keys db) (opened : BankOpen now db) (evidenceId : Uuid) (input : BankApproval) :
    Wlp (approve deployment now draw key evidenceId input) (fun _ t => BankOpen now t) db := by
  simp only [approve, wlp_bind]
  refine wlp_mono _ db (requireOperator_reads deployment db key.actorId) ?_
  rintro _ s ⟨rfl, _⟩
  simp only [wlp_get, wlp_orThrow, wlp_require]
  intro e _ _
  refine wlp_mono _ _ (bankIdempotency_store draw key _) ?_
  rintro _ t ⟨rows, rfl⟩
  intro r request
  have held : BankOpen now { s with idempotency := rows } := bankOpen_of now s _ opened rfl rfl rfl
  rw [wlp_ite]
  refine ⟨fun _ => ?_, fun _ => ?_⟩
  · simp only [replayApproval, wlp_bind, wlp_get, wlp_orThrow, wlp_pure]
    exact fun _ _ => held
  · simp only [approveEvidence, wlp_bind, wlp_require, wlp_get]
    intro _
    refine wlp_mono _ _ (wlp_and _ _ ((@addApproval_program .everything trivial e.id key.actorId).within _)
      (addApproval_store e.id key.actorId _)) ?_
    rintro _ u ⟨added, approvals, rfl⟩
    refine wlp_mono _ _ (requireOperators_reads deployment _ _) ?_
    rintro _ v ⟨rfl, _⟩
    have approved := writes_keys _ _ (recorded_keys s keys rows) (writes_mono (fun _ _ w => routine_write _ _ w) _ _ added)
    have still : BankOpen now { s with idempotency := rows, bankApprovals := approvals } := bankOpen_of now _ _ held rfl rfl rfl
    rw [wlp_ite]
    refine ⟨fun _ => (wlp_pure _ _ _).mpr still, fun _ => ?_⟩
    exact settleBank_open now draw _ approved still r (find_some _ s.bankRequests r request).1 e

end Transactions

structure DualControl (deployment : Deployment) (now : Instant) (db t : CommerceDb) (x : CommerceSettlement)
    (r : CommerceBankTransferRequest) (e : CommerceBankStatementEvidence) : Prop where
  enabled : deployment.bankTransferEnabled = true
  request : r ∈ db.bankRequests ∧ r.orderId = x.orderId
  evidence : e ∈ db.bankEvidence ∧ e.requestId = r.id ∧ x.providerSettlementReference = some e.id
  exception : e.exceptionReason = none
  account : e.bankBin = r.bankBin ∧ e.accountNumber = r.accountNumber
  agrees : e.amountMinor = r.amountMinor ∧ e.transferContent = r.transferContent
  window : r.createdAt ≤ e.occurredAt ∧ e.occurredAt < r.expiresAt
  approvers : 2 ≤ (approversOf t e.id).dedup.length
  authority : ∀ actor ∈ approversOf t e.id, isActiveAdmin t actor = true

section Approvals

variable (deployment : Deployment) (now : Instant) (draw : BankDraw) (key : OperationKey) (db : CommerceDb)

theorem consumeBenefits_store (reservations : List CommercePromotionReservation) :
    Wlp (reservations.forM (consumeBenefit draw)) (fun _ t => ∃ rows, t = { db with reservations := rows }) db := by
  refine wlp_forM _ (fun _ t => ∃ rows, t = { db with reservations := rows }) reservations db ?_ ⟨db.reservations, rfl⟩
  rintro x rest t ⟨rows, rfl⟩
  unfold consumeBenefit
  rw [wlp_updateReservation]
  exact fun _ _ => ⟨_, rfl⟩

theorem approvers_nodup (keys : Keys db) (evidenceId : Uuid) : (approversOf db evidenceId).Nodup := by
  have approvals := keys.bank.approvals
  unfold UniqueKey at approvals
  rw [List.filterMap_some] at approvals
  unfold approversOf
  refine List.Nodup.map_on ?_ (approvals.filter _)
  intro p hp q hq same
  have first := of_decide_eq_true (List.mem_filter.mp hp).2
  have second := of_decide_eq_true (List.mem_filter.mp hq).2
  cases p
  cases q
  simp only at first second same
  rw [first, second, same]

theorem approversOf_dedup (keys : Keys db) (evidenceId : Uuid) : (approversOf db evidenceId).dedup = approversOf db evidenceId :=
  (approvers_nodup db keys evidenceId).dedup

-- An approval settles nothing, or settles the request of its statement under the eyes of all who approved it.
theorem approve_outcome (keys : Keys db) (evidenceId : Uuid) (input : BankApproval) :
    Wlp (approve deployment now draw key evidenceId input)
      (fun _ t => ∀ x ∈ t.settlements, x ∈ db.settlements ∨ ∃ r e, DualControl deployment now db t x r e) db := by
  simp only [approve, wlp_bind]
  refine wlp_mono _ db (requireOperator_reads deployment db key.actorId) ?_
  rintro _ s ⟨rfl, enabled, _⟩
  simp only [wlp_get, wlp_orThrow, wlp_require]
  intro e evidence _
  refine wlp_mono _ _ (bankIdempotency_store draw key _) ?_
  rintro _ t ⟨rows, rfl⟩
  intro r request
  obtain ⟨hr, named⟩ := find_some _ s.bankRequests r request
  rw [wlp_ite]
  refine ⟨fun _ => ?_, fun _ => ?_⟩
  · simp only [replayApproval, wlp_bind, wlp_get, wlp_orThrow, wlp_pure]
    exact fun _ _ x hx => .inl hx
  · simp only [approveEvidence, wlp_bind, wlp_require, wlp_get]
    rintro ⟨exception, classified, _, _⟩
    refine wlp_mono _ _ (wlp_and _ _ ((@addApproval_program .everything trivial e.id key.actorId).within _)
      (addApproval_store e.id key.actorId _)) ?_
    rintro _ u ⟨added, approvals, rfl⟩
    refine wlp_mono _ _ (requireOperators_reads deployment _ _) ?_
    rintro _ v ⟨rfl, operators⟩
    have approved := writes_keys _ _ (recorded_keys s keys rows) (writes_mono (fun _ _ w => routine_write _ _ w) _ _ added)
    rw [wlp_ite]
    refine ⟨fun _ => (wlp_pure _ _ _).mpr (fun x hx => .inl hx), fun enough => ?_⟩
    simp only [settleBank, wlp_bind, wlp_get, wlp_orThrow, wlp_require, wlp_insertEvent, wlp_insertSettlement, wlp_updateAttempt,
      wlp_updateBankRequest, wlp_updateOrder, wlp_pure]
    intro o found _ _ a' event o' settlement old attempt old' moved old'' moves
    refine wlp_mono _ _ (consumeBenefits_store draw _ _) ?_
    rintro _ w ⟨reservations, rfl⟩ x hx
    rcases List.mem_append.mp hx with old | new
    · exact .inl old
    · have agrees := (classifyBankEvidence_none now r e).mp classified
      rw [List.mem_singleton.mp new]
      refine .inr ⟨r, e, enabled, ⟨hr, (orderById_some _ _ o found).2.symm⟩, ⟨(find_some _ s.bankEvidence e evidence).1,
        (of_decide_eq_true named).symm, rfl⟩, exception, ⟨agrees.bankBin, agrees.accountNumber⟩,
        ⟨agrees.amount, agrees.transferContent⟩, ⟨agrees.created, agrees.window⟩, ?_,
        fun actor member => (operators actor member).2⟩
      have counted := approversOf_dedup _ approved e.id
      exact le_of_le_of_eq (not_lt.mp enough) (congrArg List.length counted.symm)

def approvalPasses (db : CommerceDb) (r : CommerceBankTransferRequest) (e : CommerceBankStatementEvidence) (o : CommerceOrder) :
    Bool :=
  e.exceptionReason = none ∧ classifyBankEvidence now r e = none ∧ now < r.expiresAt ∧ r.status = .underReview ∧
    (∀ actor ∈ approversOf db e.id, actor ∈ deployment.bankOperatorIds ∧ isActiveAdmin db actor) ∧
    2 ≤ (approversOf db e.id).length ∧ o.status = .pendingPayment ∧ o.payableAmountMinor = r.amountMinor ∧
    o.confirmedSettlementId = none

theorem provenance_accepts (whole : Whole db) (opened : BankOpen now db) (r : CommerceBankTransferRequest)
    (e : CommerceBankStatementEvidence) (o : CommerceOrder) (evidence : e ∈ db.bankEvidence)
    (request : bankRequestById db e.requestId = some r) (order : orderById db r.orderId = some o)
    (passes : approvalPasses deployment now db r e o = true) (a' : CommercePaymentAttempt)
    (event : EventFits db (bankEvent draw r e) a') :
    bankSettlementProven now { db with events := db.events ++ [bankEvent draw r e] } o (bankSettlement draw r e o) = true := by
  have backed := whole.delivered.backed
  have keys := backed.keys
  obtain ⟨exception, classified, unexpired, status, operators, enough, awaiting, payable, unsettled⟩ := of_decide_eq_true passes
  have agrees := (classifyBankEvidence_none now r e).mp classified
  obtain ⟨hr, named⟩ := find_some _ db.bankRequests r request
  obtain ⟨a, ha, attempt, pending⟩ := opened.pending r hr (by rw [status]; rfl)
  obtain ⟨b, hb, of⟩ := whole.requests r hr
  have same : a = b := attempt_same db keys a b ha hb (attempt.trans of.attempt.symm)
  subst same
  obtain ⟨_, currency, _⟩ := backed.attempts a ha
  obtain ⟨recorded, observed⟩ := opened.recorded e evidence
  have byAttempt : attemptById db r.paymentAttemptId = some a := by
    rw [← attempt]
    exact attemptById_of_mem db keys a ha
  have later : UniqueKey (fun e => some e.id) (db.events ++ [bankEvent draw r e]) :=
    unique_append _ _ _ keys.events.ids event.freshId
  have byEvent : (db.events ++ [bankEvent draw r e]).find? (fun x => x.id = draw.eventId) = some (bankEvent draw r e) :=
    find_unique (fun e => some e.id) _ _ later _ draw.eventId (List.mem_append_right _ (List.mem_singleton.mpr rfl))
      (by simp [bankEvent]) rfl (fun y _ hy => by simpa using hy)
  have active : (approversOf db e.id).filter (isActiveAdmin db) = approversOf db e.id :=
    List.filter_eq_self.mpr (fun actor member => (operators actor member).2)
  refine List.any_eq_true.mpr ⟨r, hr, decide_eq_true ⟨(orderById_some db _ o order).2.symm, rfl, status, unexpired, awaiting, payable,
    unsettled, rfl, rfl, rfl, rfl, List.any_eq_true.mpr ⟨e, evidence, decide_eq_true ⟨(of_decide_eq_true named).symm, rfl, exception,
    agrees.bankBin, agrees.accountNumber, agrees.amount, agrees.transferContent, agrees.created, agrees.window, observed exception,
    recorded, rfl, ?_, ?_, ?_⟩⟩⟩⟩
  · show (attemptById db r.paymentAttemptId).any _ = true
    rw [byAttempt, Option.any_some]
    exact decide_eq_true ⟨of.provider, of.order, pending, of.amount, currency⟩
  · show ((db.events ++ [bankEvent draw r e]).find? (fun x => x.id = draw.eventId)).any _ = true
    rw [byEvent, Option.any_some]
    exact decide_eq_true ⟨rfl, rfl, rfl, agrees.amount.symm, rfl, rfl⟩
  · show 2 ≤ ((approversOf db e.id).filter (isActiveAdmin db)).dedup.length
    rw [active, approversOf_dedup db keys e.id]
    exact enough

end Approvals

end EduAi.Payments
