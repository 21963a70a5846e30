import EduAi.Payments.RequestWrites
import EduAi.Payments.WalletCheckout

set_option autoImplicit false

namespace EduAi.Payments

open EduAi.Store EduAi.Gds EduAi.Commerce

variable {scope : Scope}

section Wallets

variable (now : Instant)

theorem posting_store (j : JournalEntry) (db : CommerceDb) : Wlp (onWallet (insertJournal now j))
    (fun _ t => ∃ gds, execute now (.insertJournal j) db.gds = .ok ((), gds) ∧ t = { db with gds }) db := by
  rw [onWallet, wlp_zoom]
  intro _ gds ok
  exact ⟨gds, ok, rfl⟩

theorem posting_program (j : JournalEntry) : Program (RoutineWrite scope) (onWallet (insertJournal now j)) := by
  constructor
  intro db
  refine wlp_mono _ db (posting_store now j db) ?_
  rintro _ t ⟨gds, ok, rfl⟩
  exact writes_one _ _ (.wallet db now (.insertJournal j) gds ok)

theorem reserveOrder_program (w : Wallet) (o : CommerceOrder) (insufficient : String) :
    Program (RoutineWrite scope) (reserveOrder now w o insufficient) :=
  program_get.bind (fun _ => program_ite _ _ _ (program_pure _) ((program_require _ _).bind (fun _ => posting_program _ _)))

theorem reserveOrder_store (w : Wallet) (o : CommerceOrder) (insufficient : String) (db : CommerceDb) :
    Wlp (reserveOrder now w o insufficient) (fun _ t => ∃ gds, t = { db with gds }) db := by
  simp only [reserveOrder, wlp_bind, wlp_get, wlp_ite, wlp_require, wlp_pure]
  refine ⟨fun _ => ⟨db.gds, rfl⟩, fun _ _ => ?_⟩
  refine wlp_mono _ db (posting_store now _ db) ?_
  rintro _ t ⟨gds, _, rfl⟩
  exact ⟨gds, rfl⟩

variable (deployment : Deployment)

theorem assertSpendingAndIdentity_program (recovery : Bool) (buyerId orderId : Uuid) :
    Program (RoutineWrite scope) (assertSpendingAndIdentity deployment recovery buyerId orderId) :=
  (program_require _ _).bind (fun _ => program_require _ _)

theorem reserveForUnpaidCommerceOrder_program (buyerId orderId : Uuid) :
    Program (RoutineWrite scope) (reserveForUnpaidCommerceOrder deployment now buyerId orderId) := by
  refine (assertSpendingAndIdentity_program _ _ _ _).bind (fun _ => program_get.bind (fun db => (program_orThrow _ _).bind
    (fun o => (program_require _ _).bind (fun _ => (program_require _ _).bind (fun _ => (program_orThrow _ _).bind
      (fun w => program_get.bind (fun s => ?_)))))))
  split
  · exact program_require _ _
  · exact reserveOrder_program _ _ _ _

theorem releaseForFinalUnpaidOrder_program (buyerId orderId : Uuid) :
    Program (RoutineWrite scope) (releaseForFinalUnpaidOrder deployment now buyerId orderId) :=
  (assertSpendingAndIdentity_program _ _ _ _).bind (fun _ => program_get.bind (fun _ => (program_orThrow _ _).bind (fun _ =>
    (program_require _ _).bind (fun _ => (program_require _ _).bind (fun _ => (program_orThrow _ _).bind (fun _ =>
      (program_orThrow _ _).bind (fun _ => (program_require _ _).bind (fun _ =>
        program_ite _ _ _ (posting_program _ _) (program_require _ _)))))))))

end Wallets

section Captures

variable (allow : Allowance) (deployment : Deployment) (now : Instant) (draw : CheckoutDraw) (db : CommerceDb)
  (whole : Whole db)

theorem replayCapture_reads (buyerId : Uuid) (o : CommerceOrder) : Wlp (replayCapture buyerId o)
    (fun r t => t = db ∧ r = { orderId := o.id, amountMinor := o.payableAmountMinor } ∧ replayVerified db buyerId o = true)
    db := by
  simp only [replayCapture, wlp_bind, wlp_get, wlp_require, wlp_pure]
  exact fun verified => ⟨trivial, trivial, verified⟩

theorem prepareGdsCommerceCapture_plan (input : GdsCommerceCaptureInput) : Wlp (prepareGdsCommerceCapture input)
    (fun plan t => t = db ∧ plan = {
      journal := captureEntry input.wallet.id input.order.id input.order.payableAmountMinor
      reference := gdsOrderReference input.order.id
      amountMinor := input.order.payableAmountMinor }) db := by
  simp only [prepareGdsCommerceCapture, wlp_bind, wlp_require, wlp_pure]
  exact fun _ _ _ _ => ⟨trivial, trivial⟩

include whole

theorem captureOrder_transitions (buyerId : Uuid) (o : CommerceOrder) (found : orderById db o.id = some o) :
    Wlp (captureOrder deployment now draw buyerId o)
      (fun r t => Writes (Transition allow) db t ∧ r = { orderId := o.id, amountMinor := o.payableAmountMinor }) db := by
  simp only [captureOrder, wlp_bind, wlp_require, wlp_get, wlp_orThrow]
  rintro ⟨awaiting, _⟩ w _
  refine wlp_mono _ db (wlp_and _ _ ((@reserveOrder_program allow.scope now w o _).within db) (reserveOrder_store now w o _ db)) ?_
  rintro _ s ⟨reserved, gds, rfl⟩ current _ h _
  refine wlp_mono _ _ (prepareGdsCommerceCapture_plan _ _) ?_
  rintro plan _ ⟨rfl, rfl⟩
  refine wlp_mono _ _ (wlp_and _ _ ((@posting_program allow.scope now _).within _) (posting_store now _ _)) ?_
  rintro _ t ⟨captured, gds', _, rfl⟩
  simp only [wlp_insertSettlement, wlp_updateOrder]
  intro o' fits old moves
  have path := routine_transitions allow _ _ (writes_trans _ _ _ reserved captured)
  have same : old = o := by
    have byId := moves.found
    have sameRow : orderById db o.id = some old := byId
    rw [found] at sameRow
    exact (Option.some.inj sameRow).symm
  refine wlp_mono _ _ (fulfill_granted allow deployment now draw.access _ (transitions_whole allow _ _ path whole).delivered
    _ old o' rfl ?_ ?_ fits moves (by rw [same]; exact awaiting)) ?_
  · simp [captureSettlement]
  · simp [captureSettlement]
  · intro _ u granted
    rw [wlp_pure]
    exact ⟨path.tail granted, rfl⟩

theorem payOrder_transitions (buyerId orderId : Uuid) :
    Wlp (payOrder deployment now draw buyerId orderId) (fun _ t => Writes (Transition allow) db t) db := by
  simp only [payOrder, wlp_bind, wlp_require, wlp_get, wlp_orThrow, wlp_ite]
  intro _ _ o owned
  obtain ⟨byId, _⟩ := ownedOrder_some db orderId buyerId o owned
  refine ⟨fun _ => ?_, fun _ => ?_⟩
  · refine wlp_mono _ db (replayCapture_reads db buyerId o) ?_
    rintro _ t ⟨rfl, _⟩
    exact writes_refl _
  · refine wlp_mono _ db (captureOrder_transitions allow deployment now draw db whole buyerId o ?_) (fun _ t done => done.1)
    rw [(orderById_some db orderId o byId).2]
    exact byId

end Captures

end EduAi.Payments
