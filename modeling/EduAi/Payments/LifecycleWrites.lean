import EduAi.Payments.FulfillmentWrites
import EduAi.Payments.WebhookWrites
import EduAi.Payments.Lifecycle

set_option autoImplicit false

namespace EduAi.Payments

open EduAi.Store EduAi.Gds EduAi.Commerce

variable {scope : Scope}

def ReviewOpen (db : CommerceDb) (attemptId : Uuid) : Prop :=
  ∃ c ∈ db.cases, c.paymentAttemptId = some attemptId ∧ c.settlementId = none ∧ c.status = .isOpen

theorem reviewOpen_kept (db t : CommerceDb) (kept : Kept db t) (attemptId : Uuid) (opened : ReviewOpen db attemptId) :
    ReviewOpen t attemptId := by
  obtain ⟨c, hc, attempt, none, isOpen⟩ := opened
  obtain ⟨c', hc', same⟩ := kept.cases c hc
  exact ⟨c', hc', by rw [same.paymentAttemptId, attempt], by rw [same.settlementId, none], same.unsettledOpen none isOpen⟩

theorem mismatchOpen_reviewOpen (db : CommerceDb) (attemptId : Uuid) (code : IdentityMismatchCode)
    (opened : MismatchOpen db attemptId code) : ReviewOpen db attemptId := by
  obtain ⟨c, hc, _, attempt, none, isOpen⟩ := opened
  exact ⟨c, hc, attempt, none, isOpen⟩

def Review.unsettled (r : Review) : Bool :=
  decide (CommerceReconciliationKind.text r.kind ∉ settledKinds)

section Flags

variable (deployment : Deployment) (now : Instant) (caseId : Uuid) (a : CommercePaymentAttempt) (r : Review)
  (seen : Option String)

theorem sourceKey_shape :
    ∃ rest, r.sourceKey deployment a.id seen = a.id :: CommerceReconciliationKind.text r.kind :: rest := by
  unfold Review.sourceKey Review.sourceKeyBase
  split
  · split
    · exact ⟨_, rfl⟩
    · exact ⟨_, rfl⟩
  · exact ⟨_, rfl⟩

theorem unsettled_unlinked (unsettled : r.unsettled = true) : r.linkedSettlementId = none := by
  unfold Review.linkedSettlementId
  split
  case isTrue kind =>
    simp [Review.unsettled, kind, CommerceReconciliationKind.text, settledKinds] at unsettled
  case isFalse => rfl

theorem flaggedCase_keyed : KeyedCase (flaggedCase deployment now caseId a r seen) := by
  obtain ⟨rest, key⟩ := sourceKey_shape deployment a r seen
  refine ⟨a.id, _, rest, key, rfl, ?_⟩
  by_cases linked : r.kind = .paidNotFulfilled
  · refine .inl ?_
    rw [linked]
    decide
  · refine .inr ?_
    show r.linkedSettlementId = none
    unfold Review.linkedSettlementId
    rw [if_neg linked]

theorem flagAttempt_program : Program (RoutineWrite scope) (flagAttempt deployment now caseId a r seen) := by
  refine program_get.bind (fun db => ?_)
  split
  · constructor
    intro s
    rw [wlp_updateCase]
    intro old moves
    exact writes_one _ _ (.recheckCase s _ now old moves)
  · constructor
    intro s
    rw [wlp_insertCase]
    intro fits
    exact writes_one _ _ (.openCase s _ fits (flaggedCase_keyed deployment now caseId a r seen))

theorem flagAttempt_opens (db : CommerceDb) (backed : Backed db) (unsettled : r.unsettled = true) :
    Wlp (flagAttempt deployment now caseId a r seen) (fun _ t => ReviewOpen t a.id) db := by
  simp only [flagAttempt, wlp_bind, wlp_get]
  split
  case h_1 c found =>
    obtain ⟨member, named⟩ := find_some _ db.cases c found
    obtain ⟨⟨attemptId, kind, tail, key, attempt, hangs⟩, opened⟩ := backed.cases c member
    obtain ⟨rest, shape⟩ := sourceKey_shape deployment a r seen
    rw [of_decide_eq_true named, shape] at key
    cases key
    have none := hangs.resolve_left (of_decide_eq_true unsettled)
    rw [wlp_updateCase]
    intro old moves
    refine ⟨(CasePatch.recheck now).apply c, (mem_updateWhere _ _ _ _).mpr ⟨c, member, by simp⟩, attempt, none, ?_⟩
    exact opened none
  case h_2 =>
    rw [wlp_insertCase]
    intro fits
    exact ⟨_, List.mem_append_right _ (List.mem_singleton.mpr rfl), rfl, unsettled_unlinked r unsettled, rfl⟩

end Flags

theorem reviewOf_unsettled (kind : CommerceReconciliationKind) (reasonCode : String)
    (hangs : CommerceReconciliationKind.text kind ∉ settledKinds) : (reviewOf kind reasonCode).unsettled = true :=
  decide_eq_true hangs

section Checks

-- The attempts a transaction may move: bank transfers' own where the scope has their tables.
def Unbanked (scope : Scope) (db : CommerceDb) (attemptId : Uuid) : Prop :=
  scope.banks ∨ ∀ a, attemptById db attemptId = some a → a.provider ≠ .bankTransfer

theorem updateAttempt_writes (db : CommerceDb) (id : Uuid) (patch : AttemptPatch) (unbanked : Unbanked scope db id) :
    Wlp (updateAttempt id patch) (fun _ t => Writes (RoutineWrite scope) db t) db := by
  rw [wlp_updateAttempt]
  intro old moves
  refine writes_one _ _ (.moveAttempt db id patch old moves (fun bank => ?_))
  rcases unbanked with allowed | apart
  · exact .inr (.inr allowed)
  · exact absurd bank (apart old moves.found)

def opensAttempt : AttemptPatch → Bool
  | .attach _ _ => true
  | .checked _ _ _ _ => true
  | .start => true
  | _ => false

theorem opens_status (patch : AttemptPatch) (opens : opensAttempt patch = true) (old : CommercePaymentAttempt)
    (status : attemptTransition old.status (patch.apply old).status = true) :
    old.status = .created ∨ (patch.apply old).status = old.status := by
  have pending : attemptTransition old.status .pending = true → old.status = .created ∨ CommercePaymentStatus.pending = old.status := by
    cases old.status <;> decide
  cases patch with
  | attach identity accountHash => exact pending status
  | checked now identity accountHash recovered =>
    cases recovered
    · exact .inr rfl
    · exact pending status
  | start => exact pending status
  | settle status => cases opens
  | close status now requested => cases opens
  | reject => cases opens

theorem updateAttempt_program (id : Uuid) (patch : AttemptPatch) (opens : opensAttempt patch = true) :
    Program (RoutineWrite scope) (updateAttempt id patch) := by
  constructor
  intro s
  rw [wlp_updateAttempt]
  intro old moves
  refine writes_one _ _ (.moveAttempt s id patch old moves (fun _ => ?_))
  rcases opens_status patch opens old moves.status with created | same
  · exact .inl created
  · exact .inr (.inl same)

theorem persistCheckedFacts_program (deployment : Deployment) (now : Instant) (attemptId : Uuid) (status : PaymentRequestStatus) :
    Program (RoutineWrite scope) (persistCheckedFacts deployment now attemptId status) :=
  program_get.bind (fun _ => (program_orThrow _ _).bind (fun _ => updateAttempt_program _ _ rfl))

theorem persistVnPayCheckedFacts_program (now : Instant) (attemptId : Uuid) (v : VnPayQueryDrObservation) :
    Program (RoutineWrite scope) (persistVnPayCheckedFacts now attemptId v) :=
  program_get.bind (fun _ => (program_orThrow _ _).bind (fun _ => (program_require _ _).bind
    (fun _ => updateAttempt_program _ _ rfl)))

theorem finalizeRetry_program (now : Instant) (actorId caseId : Uuid) (expectedUpdatedAt : Instant) :
    Program (RoutineWrite scope) (finalizeRetry now actorId caseId expectedUpdatedAt) := by
  constructor
  intro db
  simp only [finalizeRetry, loadOpenCase, wlp_bind, wlp_get, wlp_orThrow, wlp_require, wlp_pure, wlp_updateCase]
  intro c found _ _ _ proven old moves
  have same : old = c := by
    have named := moves.found
    rw [(caseById_some db caseId c found).2, found] at named
    exact (Option.some.inj named).symm
  refine writes_one _ _ (.resolveCase db c.id _ actorId now old moves ?_)
  intro none
  rw [same] at none
  simp [retryInvariant, none] at proven

end Checks

section Closing

variable (now : Instant) (operationId : Uuid → Uuid) (gives : scope.returns)

include gives

theorem closeOrder_program (o : CommerceOrder) (expired : Bool) : Program (RoutineWrite scope) (closeOrder operationId o expired) := by
  refine program_get.bind (fun db => Program.bind (program_forM _ _ (fun r => ?_)) (fun _ => Program.bind ?_
    (fun _ => program_get.bind (fun _ => program_orThrow _ _))))
  · constructor
    intro s
    rw [wlp_updateReservation]
    intro old moves
    refine writes_one _ _ (.returnReservation s r.id _ old moves ?_ gives)
    unfold returnedPatch
    cases expired <;> rfl
  · constructor
    intro s
    rw [wlp_updateOrder]
    intro old moves
    exact writes_one _ _ (.moveOrder s o.id _ old moves rfl)

omit gives in
theorem recordIdempotency_program (row : CommerceIdempotencyRecord) : Program (RoutineWrite scope) (recordIdempotency row) := by
  constructor
  intro s
  simp only [recordIdempotency, wlp_bind, wlp_get, wlp_require, wlp_modify]
  intro _
  exact writes_one _ _ (.beside s { s with idempotency := s.idempotency ++ [row] })

omit gives in
theorem recordCancellation_program (request : CancelRequest) (o : CommerceOrder) (attempt : Option CommercePaymentAttempt) :
    Program (RoutineWrite scope) (recordCancellation request o attempt) :=
  program_get.bind (fun _ => program_ite _ _ _ (recordIdempotency_program _) (program_pure _))

theorem prepare_program (request : CancelRequest) : Program (RoutineWrite scope) (prepare operationId request) := by
  refine program_get.bind (fun db => (program_require _ _).bind (fun _ => (program_orThrow _ _).bind (fun o => ?_)))
  refine program_ite _ _ _ (program_pure _) ((program_require _ _).bind (fun _ => Program.bind ?_
    (fun _ => (recordCancellation_program request o _).bind (fun _ => program_pure _))))
  unfold closeOrRefuse
  split
  · exact closeOrder_program operationId gives o false
  · exact (program_require _ _).bind (fun _ => program_pure _)

theorem closed_writes (db : CommerceDb) (a : CommercePaymentAttempt) (o : CommerceOrder) (status : PaymentProviderStatus)
    (requested expired : Bool) (unbanked : Unbanked scope db a.id) :
    Wlp (closeAttempt now a status requested >>= fun _ => closeOrder operationId o expired)
      (fun _ t => Writes (RoutineWrite scope) db t) db := by
  rw [wlp_bind]
  refine wlp_mono _ db (updateAttempt_writes db a.id _ unbanked) ?_
  intro _ s moved
  refine wlp_mono _ s ((closeOrder_program operationId gives o expired).within s) ?_
  intro _ t closed
  exact writes_trans _ _ _ moved closed

theorem finish_writes (db : CommerceDb) (learnerId attemptId : Uuid) (status : PaymentProviderStatus) (requested : Bool)
    (unbanked : Unbanked scope db attemptId) :
    Wlp (finish now operationId learnerId attemptId status requested) (fun _ t => Writes (RoutineWrite scope) db t) db := by
  simp only [finish, wlp_bind, wlp_get, wlp_orThrow, wlp_ite, wlp_require, wlp_pure]
  intro a found o _
  refine ⟨fun _ => writes_refl db, fun _ _ => ?_⟩
  have closed := @closed_writes scope now operationId gives db a o status requested (status = .expired) ?_
  · rw [wlp_bind] at closed
    exact closed
  · rw [(attemptById_some db attemptId a found).2]
    exact unbanked

theorem finishExpiry_writes (db : CommerceDb) (attemptId : Uuid) (status : PaymentProviderStatus) (requested : Bool)
    (unbanked : Unbanked scope db attemptId) :
    Wlp (finishExpiry now operationId attemptId status requested) (fun _ t => Writes (RoutineWrite scope) db t) db := by
  simp only [finishExpiry, wlp_bind, wlp_get, wlp_orThrow, wlp_ite, wlp_require, wlp_pure]
  intro a found o _
  refine ⟨fun _ => writes_refl db, fun _ _ _ => ?_⟩
  have closed := @closed_writes scope now operationId gives db a o status requested true ?_
  · rw [wlp_bind] at closed
    exact closed
  · rw [(attemptById_some db attemptId a found).2]
    exact unbanked

end Closing

end EduAi.Payments
