import EduAi.Payments.LifecycleWrites
import EduAi.Payments.Requests
import EduAi.Payments.Transitions

set_option autoImplicit false

namespace EduAi.Payments

open EduAi.Store EduAi.Gds EduAi.Commerce

variable {scope : Scope}

section Programs

variable (allow : Allowance)

theorem Program.transitions {α : Type} {m : CommerceTxn α} (routine : Program (RoutineWrite allow.scope) m) : Program (Transition allow) m :=
  routine.mono (fun s t w => .routine s t w)

theorem ownedOrder_some (db : CommerceDb) (orderId learnerId : Uuid) (o : CommerceOrder)
    (found : (orderById db orderId).filter (fun o => o.buyerId = learnerId) = some o) :
    orderById db orderId = some o ∧ o.buyerId = learnerId := by
  obtain ⟨byId, owned⟩ := Option.filter_eq_some_iff.mp found
  exact ⟨byId, of_decide_eq_true owned⟩

theorem requireOwnedOrder_program (learnerId orderId : Uuid) : Program (RoutineWrite scope) (requireOwnedOrder learnerId orderId) :=
  program_get.bind (fun _ => program_orThrow _ _)

theorem completeIdempotency_program (request : PaymentRequest) (resourceType : String) (resourceId : Uuid) :
    Program (RoutineWrite scope) (completeIdempotency request resourceType resourceId) :=
  recordIdempotency_program _

theorem replayRequest_program (request : PaymentRequest) (existing : CommerceIdempotencyRecord) :
    Program (RoutineWrite scope) (replayRequest request existing) :=
  (program_require _ _).bind (fun _ => (requireOwnedOrder_program _ _).bind (fun _ => program_get.bind (fun _ => program_pure _)))

theorem reuseAttempt_program (request : PaymentRequest) (o : CommerceOrder) (a : CommercePaymentAttempt) :
    Program (RoutineWrite scope) (reuseAttempt request o a) :=
  (program_require _ _).bind (fun _ => (program_require _ _).bind (fun _ =>
    (completeIdempotency_program _ _ _).bind (fun _ => program_pure _)))

end Programs

section Grants

variable (allow : Allowance) (deployment : Deployment) (now : Instant) (access : AccessDraw) (db : CommerceDb)
  (delivered : Delivered db) (s : CommerceSettlement)

include delivered

theorem awaiting_notStarted (o : CommerceOrder) (ho : o ∈ db.orders) (awaiting : o.status = .pendingPayment) :
    o.fulfillmentStatus = .notStarted := by
  by_contra started
  have confirmed := (delivered.backed.orders o ho).2.2 started
  rw [awaiting] at confirmed
  cases confirmed

theorem fulfill_granted (o o' : CommerceOrder) (internal : s.disposition = .internal) (uncollected : s.kind ≠ .providerCollection)
    (unbanked : s.provider ≠ some .bankTransfer) (fits : SettlementFits now db s o')
    (moves : OrderMoves { db with settlements := db.settlements ++ [s] } s.orderId (.confirm s.id now) o)
    (awaiting : o.status = .pendingPayment) :
    Wlp (fulfillConfirmedOrder deployment now access s.orderId) (fun _ t => Transition allow db t)
      (confirmedStore now s { db with settlements := db.settlements ++ [s] }) := by
  have same : o' = o := by
    have found := moves.found
    rw [show orderById { db with settlements := db.settlements ++ [s] } s.orderId = orderById db s.orderId from rfl, fits.order]
      at found
    exact Option.some.inj found
  subst same
  have confirms : Confirmation allow.scope db now s o' { db with settlements := db.settlements ++ [s] } :=
    ⟨fits, fun collection => absurd collection uncollected, writes_refl _, moves, awaiting, fun bank => absurd bank unbanked⟩
  have writes := confirmation_writes db now s o' _ confirms
  refine wlp_mono _ _ (fulfillConfirmedOrder_outcome deployment now access s.orderId _
    (writes_delivered db _ delivered writes)) ?_
  intro _ t outcome
  cases outcome with
  | completed x t found confirmed unfulfilled done => exact .granted db now s o' _ t confirms internal done
  | already x found fulfilled =>
    obtain ⟨member, named⟩ := orderById_some _ s.orderId x found
    obtain ⟨y, hy, rfl⟩ := (mem_updateWhere _ _ _ _).mp member
    obtain ⟨ho, orderNamed⟩ := orderById_some db s.orderId o' fits.order
    have yNamed : y.id = s.orderId := by
      split at named
      · rw [orderPatch_id] at named
        exact named
      · exact named
    have isOrder : y = o' := order_same db delivered.backed.keys y o' hy ho (yNamed.trans orderNamed.symm)
    rw [isOrder, if_pos (by simp [orderNamed])] at fulfilled
    have started : o'.fulfillmentStatus = .fulfilled := fulfilled
    rw [awaiting_notStarted db delivered o' ho awaiting] at started
    cases started

end Grants

section Requests

variable (allow : Allowance) (deployment : Deployment) (now : Instant) (draw : PaymentRequestDraw) (request : PaymentRequest)
  (db : CommerceDb) (delivered : Delivered db)

include delivered in
theorem confirmNoPaymentRequired_transitions (o : CommerceOrder) (found : orderById db o.id = some o) :
    Wlp (confirmNoPaymentRequired deployment now draw request.learnerId o) (fun _ t => Writes (Transition allow) db t) db := by
  simp only [confirmNoPaymentRequired, wlp_ite, wlp_bind, wlp_get, wlp_require, wlp_insertSettlement, wlp_updateOrder, wlp_pure]
  refine ⟨fun _ => writes_refl db, ?_⟩
  rintro unconfirmed ⟨awaiting, _, _⟩ o' fits old moves
  have same : old = o := by
    have named := moves.found
    have byId : orderById { db with settlements := db.settlements ++ [waivedSettlement draw.settlementId o.id now] } o.id = some o :=
      found
    rw [byId] at named
    exact (Option.some.inj named).symm
  refine wlp_mono _ _ (fulfill_granted allow deployment now draw.access db delivered
    (waivedSettlement draw.settlementId o.id now) old o' rfl (by simp [waivedSettlement])
        (by simp [waivedSettlement]) fits moves (by rw [same]; exact awaiting)) ?_
  intro _ t granted
  refine wlp_mono _ _ ((Program.transitions allow (requireOwnedOrder_program request.learnerId o.id)).within t) ?_
  intro _ u read
  exact writes_trans _ _ _ (writes_one _ _ granted) read

include delivered in
theorem waivePayment_transitions (o : CommerceOrder) (found : orderById db o.id = some o) :
    Wlp (waivePayment deployment now draw request o) (fun _ t => Writes (Transition allow) db t) db := by
  simp only [waivePayment, wlp_bind, wlp_pure]
  refine wlp_mono _ db (confirmNoPaymentRequired_transitions allow deployment now draw request db delivered o found) ?_
  intro _ t reached
  refine wlp_mono _ t ((Program.transitions allow (completeIdempotency_program request _ _)).within t) ?_
  intro _ u recorded
  exact writes_trans _ _ _ reached recorded

theorem openRequest_writes (o : CommerceOrder) (found : orderById db o.id = some o) (awaiting : o.status = .pendingPayment) :
    Wlp (openRequest deployment now draw request o) (fun _ t => Writes (RoutineWrite scope) db t) db := by
  simp only [openRequest, wlp_bind, wlp_get, wlp_require, wlp_insertAttempt, wlp_pure]
  intro _ _ _ o' fits
  have same : o' = o := by
    have named := fits.order
    rw [show (requestedAttempt now draw request.defaultProvider o (paymentExpiry db now o)).orderId = o.id from rfl, found]
      at named
    exact (Option.some.inj named).symm
  refine wlp_mono _ _ ((@completeIdempotency_program scope request _ _).within _) ?_
  intro _ t recorded
  exact writes_trans _ _ _ (writes_one _ _ (.attempt db _ o' fits (by rw [same]; exact awaiting))) recorded

theorem preparePayment_writes (o : CommerceOrder) (found : orderById db o.id = some o) :
    Wlp (preparePayment deployment now draw request o) (fun _ t => Writes (RoutineWrite scope) db t) db := by
  simp only [preparePayment, wlp_bind, wlp_get, wlp_require]
  rintro ⟨awaiting, _, _⟩ _
  split
  · exact (reuseAttempt_program request o _).within db
  · exact openRequest_writes deployment now draw request db o found awaiting

include delivered in
theorem prepareRequest_transitions :
    Wlp (prepareRequest deployment now draw request) (fun _ t => Writes (Transition allow) db t) db := by
  simp only [prepareRequest, wlp_bind, wlp_get]
  split
  · exact (Program.transitions allow (replayRequest_program request _)).within db
  · simp only [requireOwnedOrder, wlp_bind, wlp_get, wlp_orThrow, wlp_ite]
    intro o owned
    obtain ⟨byId, _⟩ := ownedOrder_some db request.orderId request.learnerId o owned
    have found : orderById db o.id = some o := by rw [(orderById_some db _ o byId).2]; exact byId
    refine ⟨fun _ => waivePayment_transitions allow deployment now draw request db delivered o found, fun _ => ?_⟩
    exact wlp_mono _ db (preparePayment_writes deployment now draw request db o found)
      (fun _ t writes => routine_transitions allow db t writes)

theorem completeProviderRequest_program (a : CommercePaymentAttempt) (created : CreatedPaymentRequest) :
    Program (RoutineWrite scope) (completeProviderRequest deployment a created) :=
  updateAttempt_program _ _ rfl

theorem recordProviderFailure_program (attemptId : Uuid) :
    Program (RoutineWrite scope) (recordProviderFailure attemptId) := by
  constructor
  intro db
  simp only [recordProviderFailure, wlp_bind, wlp_get]
  split
  case h_1 => exact (wlp_pure _ _ _).mpr (writes_refl db)
  case h_2 a found =>
    simp only [wlp_ite, wlp_updateAttempt, wlp_pure]
    refine ⟨fun created old moves => ?_, fun _ => writes_refl db⟩
    have same : old = a := by
      have again := moves.found
      rw [found] at again
      exact (Option.some.inj again).symm
    refine writes_one _ _ (.moveAttempt db attemptId .reject old moves (fun _ => .inl ?_))
    rw [same]
    exact created

end Requests

end EduAi.Payments
