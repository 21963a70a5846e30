import EduAi.Payments.BankTransfers
import EduAi.Payments.RequestWrites

set_option autoImplicit false

namespace EduAi.Payments

open EduAi.Store EduAi.Gds EduAi.Commerce

variable {scope : Scope}

section Programs

theorem updateAttempt_allowed (allowed : scope.banks) (id : Uuid) (patch : AttemptPatch) :
    Program (RoutineWrite scope) (updateAttempt id patch) :=
  ⟨fun db => updateAttempt_writes db id patch (.inl allowed)⟩

theorem updateBankRequest_program (allowed : scope.banks) (id : Uuid) (status : BankRequestStatus) :
    Program (RoutineWrite scope) (updateBankRequest id status) := by
  constructor
  intro s
  rw [wlp_updateBankRequest]
  intro old moves
  exact writes_one _ _ (.moveBankRequest s id status old moves allowed)

theorem insertEvidence_program (allowed : scope.banks) (e : CommerceBankStatementEvidence) :
    Program (RoutineWrite scope) (insertEvidence e) := by
  constructor
  intro s
  rw [wlp_insertEvidence]
  intro r fits
  exact writes_one _ _ (.evidence s e r fits allowed)

theorem addApproval_program (allowed : scope.banks) (evidenceId actorId : Uuid) :
    Program (RoutineWrite scope) (addApproval evidenceId actorId) := by
  refine program_get.bind (fun db => program_ite _ _ _ (program_pure _) ?_)
  constructor
  intro s
  rw [wlp_insertApproval]
  intro e fits
  exact writes_one _ _ (.approval s _ e fits allowed)

theorem addApproval_store (evidenceId actorId : Uuid) (db : CommerceDb) :
    Wlp (addApproval evidenceId actorId) (fun _ t => ∃ rows, t = { db with bankApprovals := rows }) db := by
  simp only [addApproval, wlp_bind, wlp_get, wlp_ite, wlp_insertApproval, wlp_pure]
  exact ⟨fun _ => ⟨db.bankApprovals, rfl⟩, fun _ _ _ => ⟨_, rfl⟩⟩

theorem returnReservation_program (allowed : scope.returns) (id : Uuid) (patch : ReservationPatch) (returns : patch.returns = true) :
    Program (RoutineWrite scope) (updateReservation id patch) := by
  constructor
  intro s
  rw [wlp_updateReservation]
  intro old moves
  exact writes_one _ _ (.returnReservation s id patch old moves returns allowed)

theorem closeOrderRow_program (id : Uuid) (expired : Bool) : Program (RoutineWrite scope) (updateOrder id (.close expired)) := by
  constructor
  intro s
  rw [wlp_updateOrder]
  intro old moves
  exact writes_one _ _ (.moveOrder s id _ old moves rfl)

end Programs

section Services

variable (deployment : Deployment) (now : Instant) (draw : BankDraw) (key : OperationKey) (db : CommerceDb)

theorem requireOperator_reads (actorId : Uuid) : Wlp (requireOperator deployment actorId) (fun _ t => t = db ∧
    deployment.bankTransferEnabled = true ∧ actorId ∈ deployment.bankOperatorIds ∧ isActiveAdmin db actorId = true) db := by
  simp only [requireOperator, wlp_bind, wlp_require, wlp_get]
  exact fun enabled authorized => ⟨trivial, enabled, authorized⟩

theorem bankIdempotency_store : Wlp (bankIdempotency draw key) (fun _ t => ∃ rows, t = { db with idempotency := rows }) db := by
  simp only [bankIdempotency, wlp_bind, wlp_get]
  split
  · rw [wlp_require]
    exact fun _ => ⟨db.idempotency, rfl⟩
  · simp only [recordIdempotency, wlp_bind, wlp_get, wlp_require, wlp_modify]
    exact fun _ => ⟨_, rfl⟩

theorem bankIdempotency_program : Program (RoutineWrite scope) (bankIdempotency draw key) := by
  constructor
  intro s
  refine wlp_mono _ s (bankIdempotency_store draw key s) ?_
  rintro _ t ⟨rows, rfl⟩
  exact writes_one _ _ (.beside s { s with idempotency := rows })

theorem openBankRequest_writes (allowed : scope.banks) (o : CommerceOrder) (found : orderById db o.id = some o) :
    Wlp (openBankRequest deployment now draw o) (fun _ t => Writes (RoutineWrite scope) db t) db := by
  simp only [openBankRequest, wlp_bind, wlp_require, wlp_get, wlp_insertAttempt, wlp_updateAttempt, wlp_insertBankRequest]
  rintro ⟨awaiting, _⟩ _ _ _ o' fits old moves request
  have same : o' = o := by
    have named := fits.order
    rw [show (bankAttempt now draw o (paymentExpiry db now o)).orderId = o.id from rfl, found] at named
    exact (Option.some.inj named).symm
  exact ((writes_one _ _ (RoutineWrite.attempt db _ o' fits (by rw [same]; exact awaiting))).tail
    (.moveAttempt _ draw.attemptId .start old moves (fun _ => .inr (.inr allowed)))).tail (.bankRequest _ _ request allowed)

theorem createBankTransfer_writes (allowed : scope.banks) (orderId : Uuid) :
    Wlp (createBankTransfer deployment now draw key orderId) (fun _ t => Writes (RoutineWrite scope) db t) db := by
  simp only [createBankTransfer, requireOwnedOrder, wlp_bind, wlp_require, wlp_get, wlp_orThrow]
  intro _ o owned
  have byId := (ownedOrder_some db orderId key.actorId o owned).1
  refine wlp_mono _ db (bankIdempotency_store draw key db) ?_
  rintro _ s ⟨rows, rfl⟩
  have recorded : RoutineWrite scope db { db with idempotency := rows } := .beside db { db with idempotency := rows }
  rw [wlp_ite]
  refine ⟨fun _ => (wlp_pure _ _ _).mpr (writes_one _ _ recorded), fun _ => ?_⟩
  refine wlp_mono _ _ (openBankRequest_writes deployment now draw _ allowed o ?_) ?_
  · rw [(orderById_some db orderId o byId).2]
    exact byId
  · intro _ t opened
    exact writes_trans _ _ _ (writes_one _ _ recorded) opened

theorem supportBankTransfer_program (allowed : scope.banks) (orderId : Uuid) :
    Program (RoutineWrite scope) (supportBankTransfer deployment draw key orderId) :=
  (program_require _ _).bind (fun _ => (requireOwnedOrder_program _ _).bind (fun _ => program_get.bind (fun _ =>
    (bankIdempotency_program _ _).bind (fun _ => (program_orThrow _ _).bind (fun _ =>
      program_ite _ _ _ (updateBankRequest_program allowed _ _) (program_pure _))))))

theorem closeBankWindow_program (allowed : scope.banks) (gives : scope.returns) (expired : Bool) (o : CommerceOrder) (r : CommerceBankTransferRequest) :
    Program (RoutineWrite scope) (closeBankWindow now draw expired o r) := by
  refine (program_require _ _).bind (fun _ => (updateAttempt_allowed allowed _ _).bind (fun _ =>
    (updateBankRequest_program allowed _ _).bind (fun _ => (closeOrderRow_program _ _).bind (fun _ => program_get.bind (fun _ =>
      program_forM _ _ (fun x => returnReservation_program gives _ _ ?_))))))
  cases expired <;> rfl

theorem closeBankTransfer_program (allowed : scope.banks) (gives : scope.returns) (expired : Bool) (orderId : Uuid) :
    Program (RoutineWrite scope) (closeBankTransfer now draw expired key orderId) := by
  refine (requireOwnedOrder_program _ _).bind (fun _ => Program.bind ?_ (fun _ => program_get.bind (fun _ =>
    (program_orThrow _ _).bind (fun _ => program_ite _ _ _ (program_pure _) (closeBankWindow_program _ _ allowed gives _ _ _)))))
  exact program_ite _ _ _ (program_pure _) (bankIdempotency_program _ _)

theorem addStatement_program (allowed : scope.banks) (r : CommerceBankTransferRequest) (input : BankStatement) :
    Program (RoutineWrite scope) (addStatement now draw r input) :=
  (insertEvidence_program allowed _).bind (fun _ => program_ite _ _ _
    ((updateBankRequest_program allowed _ _).bind (fun _ => program_pure _)) (program_pure _))

theorem requireOperator_program (actorId : Uuid) : Program (RoutineWrite scope) (requireOperator deployment actorId) :=
  (program_require _ _).bind (fun _ => program_get.bind (fun _ => program_require _ _))

theorem recordStatement_program (allowed : scope.banks) (requestId : Uuid) (input : BankStatement) :
    Program (RoutineWrite scope) (recordStatement deployment now draw key requestId input) := by
  refine (program_require _ _).bind (fun _ => (requireOperator_program _ _).bind (fun _ => program_get.bind (fun s =>
    (program_orThrow _ _).bind (fun r => (bankIdempotency_program _ _).bind (fun _ => ?_)))))
  split
  · exact (program_require _ _).bind (fun _ => program_pure _)
  · exact addStatement_program _ _ allowed _ _

end Services

section Approval

variable (allow : Allowance) (deployment : Deployment) (now : Instant) (draw : BankDraw) (key : OperationKey)

theorem consumeBenefits_transitions (db : CommerceDb) (keys : Keys db) (reservations : List CommercePromotionReservation)
    (members : ∀ r ∈ reservations, r ∈ db.reservations)
    (allowed : ∀ r ∈ reservations, ∀ v, r.voucherId = some v → allow.bare v) (s : CommerceDb)
    (path : Writes (Transition allow) db s) :
    Wlp (reservations.forM (consumeBenefit draw)) (fun _ t => Writes (Transition allow) s t) s := by
  refine wlp_mono _ s (wlp_forM_each _ (fun _ _ => True) (fun _ _ _ _ _ => trivial) reservations s ?_)
    (fun _ t reached => reached.1)
  intro r member t reached
  have writes := transitions_writes allow db t (writes_trans _ _ _ path reached)
  obtain ⟨r', hr', kept⟩ := (writes_kept db t keys writes).reservations r (members r member)
  unfold consumeBenefit
  rw [wlp_updateReservation]
  intro old moves
  have same : old = r' := by
    obtain ⟨found, named⟩ := reservation_found t r.id old moves.found
    exact reservation_same t (writes_keys db t keys writes) old r' found hr' (named.trans kept.id.symm)
  refine ⟨writes_one _ _ (.consumed t r.id _ old moves ?_), trivial⟩
  intro v named
  rw [same, kept.voucherId] at named
  exact allowed r member v named

def BareOf (allow : Allowance) (db : CommerceDb) (orderId : Uuid) : Prop :=
  ∀ r ∈ reservedOf db orderId, ∀ v, r.voucherId = some v → allow.bare v

theorem settleBank_transitions (banks : allow.scope.banks) (db : CommerceDb) (whole : Whole db) (r : CommerceBankTransferRequest)
    (e : CommerceBankStatementEvidence) (member : r ∈ db.bankRequests) (allowed : BareOf allow db r.orderId) :
    Wlp (settleBank now draw r e) (fun _ t => Writes (Transition allow) db t) db := by
  have keys := whole.delivered.backed.keys
  obtain ⟨a, ha, of⟩ := whole.requests r member
  simp only [settleBank, wlp_bind, wlp_get, wlp_orThrow, wlp_require, wlp_insertEvent, wlp_insertSettlement, wlp_updateAttempt,
    wlp_updateBankRequest, wlp_updateOrder, wlp_pure]
  rintro o found ⟨awaiting, _⟩ _ a' event o' settlement old attempt old' request old'' moves
  have named := (orderById_some db r.orderId o found).2
  have byId : attemptById db r.paymentAttemptId = some a := by
    rw [← of.attempt]
    exact attemptById_of_mem db keys a ha
  have isAttempt : a' = a := by
    have same := event.attempt
    rw [show (bankEvent draw r e).paymentAttemptId = r.paymentAttemptId from rfl, byId] at same
    exact (Option.some.inj same).symm
  have recorded : RoutineWrite allow.scope db { db with events := db.events ++ [bankEvent draw r e] } :=
    .event db _ a' event (by rw [isAttempt]; exact of.identity)
  have later := write_keys db _ (.routine _ _ recorded) keys
  have sameOrder : ∀ x, orderById db o.id = some x → x = o := by
    intro x byOrder
    rw [named, found] at byOrder
    exact (Option.some.inj byOrder).symm
  have collected : Collected { db with events := db.events ++ [bankEvent draw r e] } (bankSettlement draw r e o) a
      (bankEvent draw r e) := by
    refine ⟨byId, eventById_of_mem _ later (bankEvent draw r e) (List.mem_append_right _ (by simp)), rfl, fun _ => rfl, ?_, ?_, ?_, ?_⟩
    · rw [of.provider]
      decide
    · rw [of.provider]
      exact fun gateway => absurd gateway (by decide)
    · rw [of.provider]
      exact fun gateway => absurd gateway (by decide)
    · rw [of.provider]
      exact fun gateway => absurd gateway (by decide)
  have requestFound : r = old' := by
    obtain ⟨hr, sameId⟩ := find_some _ db.bankRequests old' request.found
    exact unique_eq _ db.bankRequests keys.bank.ids r old' old'.id member hr (by rw [of_decide_eq_true sameId]) rfl
  have confirms : Confirmation allow.scope { db with events := db.events ++ [bankEvent draw r e] } now (bankSettlement draw r e o) o
      { db with
        events := db.events ++ [bankEvent draw r e]
        settlements := db.settlements ++ [bankSettlement draw r e o]
        attempts := updateWhere (fun x => x.id = r.paymentAttemptId) (AttemptPatch.settle .paid).apply db.attempts
        bankRequests := updateWhere (fun x => x.id = r.id) (fun x => { x with status := .paid }) db.bankRequests } := by
    refine ⟨?_, fun _ => ⟨a, _, collected⟩,
      (writes_one _ _ (.moveAttempt _ r.paymentAttemptId (.settle .paid) old attempt (fun _ => .inr (.inr banks)))).tail
        (.moveBankRequest _ r.id .paid old' request banks), ?_, awaiting, ?_⟩
    · rw [sameOrder o' settlement.order] at settlement
      exact settlement
    · rw [sameOrder old'' moves.found] at moves
      exact moves
    · intro _
      exact ⟨{ r with status := .paid }, (mem_updateWhere _ _ _ _).mpr ⟨r, member, by simp⟩, named.symm, rfl, rfl⟩
  have header := (writes_one _ _ (@Transition.routine allow _ _ recorded)).tail (.collected _ now _ o _ confirms rfl (fun _ => banks))
  refine wlp_mono _ _ (consumeBenefits_transitions allow draw db keys (reservedOf db o.id)
    (fun x hx => (List.mem_filter.mp hx).1) ?_ _ header) ?_
  · rw [named]
    exact allowed
  · intro _ t consumed
    exact writes_trans _ _ _ header consumed

theorem requireOperators_reads (db : CommerceDb) (actors : List Uuid) :
    Wlp (actors.forM (requireOperator deployment)) (fun _ t => t = db ∧
      ∀ actor ∈ actors, actor ∈ deployment.bankOperatorIds ∧ isActiveAdmin db actor = true) db := by
  induction actors with
  | nil =>
    rw [List.forM_eq_forM, List.forM_nil, wlp_pure]
    exact ⟨rfl, fun _ member => by cases member⟩
  | cons actor rest ih =>
    rw [List.forM_eq_forM, List.forM_cons, wlp_bind]
    refine wlp_mono _ db (requireOperator_reads deployment db actor) ?_
    rintro _ t ⟨rfl, _, operator⟩
    refine wlp_mono _ _ ih ?_
    rintro _ u ⟨rfl, others⟩
    refine ⟨rfl, ?_⟩
    intro x member
    rcases List.mem_cons.mp member with rfl | later
    · exact operator
    · exact others x later

theorem approveEvidence_transitions (banks : allow.scope.banks) (db : CommerceDb) (whole : Whole db) (actorId : Uuid)
    (r : CommerceBankTransferRequest)
    (e : CommerceBankStatementEvidence) (member : r ∈ db.bankRequests) (allowed : BareOf allow db r.orderId) :
    Wlp (approveEvidence deployment now draw actorId r e) (fun _ t => Writes (Transition allow) db t) db := by
  simp only [approveEvidence, wlp_bind, wlp_require, wlp_get]
  intro _
  refine wlp_mono _ db (wlp_and _ _ ((addApproval_program banks e.id actorId).within db) (addApproval_store e.id actorId db)) ?_
  rintro _ s ⟨added, rows, rfl⟩
  refine wlp_mono _ _ (requireOperators_reads deployment _ _) ?_
  rintro _ t ⟨rfl, _⟩
  have header := routine_transitions allow _ _ added
  rw [wlp_ite]
  refine ⟨fun _ => (wlp_pure _ _ _).mpr header, fun _ => ?_⟩
  refine wlp_mono _ _ (settleBank_transitions allow now draw banks _ (transitions_whole allow _ _ header whole) r e member allowed) ?_
  intro _ u settled
  exact writes_trans _ _ _ header settled

def ApprovesBare (allow : Allowance) (db : CommerceDb) (evidenceId : Uuid) : Prop :=
  ∀ e r, evidenceById db evidenceId = some e → bankRequestById db e.requestId = some r → BareOf allow db r.orderId

theorem approve_transitions (banks : allow.scope.banks) (db : CommerceDb) (whole : Whole db) (evidenceId : Uuid) (input : BankApproval)
    (allowed : ApprovesBare allow db evidenceId) :
    Wlp (approve deployment now draw key evidenceId input) (fun _ t => Writes (Transition allow) db t) db := by
  simp only [approve, wlp_bind]
  refine wlp_mono _ db (requireOperator_reads deployment db key.actorId) ?_
  rintro _ s ⟨rfl, _⟩
  simp only [wlp_get, wlp_orThrow, wlp_require]
  intro e evidence _
  refine wlp_mono _ _ (bankIdempotency_store draw key _) ?_
  rintro _ t ⟨rows, rfl⟩
  intro r request
  have recorded := writes_one _ _ (@Transition.routine allow _ _ (.beside s { s with idempotency := rows }))
  rw [wlp_ite]
  refine ⟨fun _ => ?_, fun _ => ?_⟩
  · simp only [replayApproval, wlp_bind, wlp_get, wlp_orThrow, wlp_pure]
    exact fun _ _ => recorded
  · refine wlp_mono _ _ (approveEvidence_transitions allow deployment now draw banks _ (transitions_whole allow _ _ recorded whole)
      key.actorId r e (find_some _ s.bankRequests r request).1 (allowed e r evidence request)) ?_
    intro _ u settled
    exact writes_trans _ _ _ recorded settled

end Approval

end EduAi.Payments
