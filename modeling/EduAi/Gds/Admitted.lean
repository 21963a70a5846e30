import EduAi.Gds.TopupSystem

set_option autoImplicit false

namespace EduAi.Gds

open EduAi.Store EduAi.Payments

-- The later store is reached from the earlier one by statements the triggers admit.
def Admits (before after : GdsDb) : Prop :=
  ∃ inputs, run gdsStep before inputs = after

-- A program whose every successful execution is a sequence of admitted statements.
structure Admitted {α : Type} (m : GdsTxn α) : Prop where
  within : Within Admits m

theorem admits_refl (db : GdsDb) : Admits db db :=
  ⟨[], rfl⟩

theorem admits_trans (first second third : GdsDb) (left : Admits first second) (right : Admits second third) :
    Admits first third := by
  obtain ⟨inputs, rfl⟩ := left
  obtain ⟨more, rfl⟩ := right
  exact ⟨inputs ++ more, run_append gdsStep first inputs more⟩

theorem admits_invariant (P : GdsDb → Prop) (preserved : ∀ now s db, P db → Wlp (execute now s) (fun _ => P) db)
    (before after : GdsDb) (admits : Admits before after) (start : P before) : P after := by
  obtain ⟨inputs, rfl⟩ := admits
  refine run_invariant gdsStep P ?_ before inputs start
  intro db input holds
  exact commit_of_wlp _ _ db holds (preserved input.1 input.2 db holds)

theorem admitted_execute (now : Instant) (s : Statement) : Admitted (execute now s) :=
  ⟨fun _ _ _ ok => ⟨[(now, s)], commit_ok _ _ _ _ ok⟩⟩

section Programs

variable {α β : Type}

theorem admitted_pure (a : α) : Admitted (pure a : GdsTxn α) :=
  ⟨within_pure Admits admits_refl a⟩

theorem admitted_throw (fault : Fault) : Admitted (throw fault : GdsTxn α) :=
  ⟨within_throw Admits fault⟩

theorem Admitted.bind {m : GdsTxn α} {f : α → GdsTxn β} (hm : Admitted m) (hf : ∀ a, Admitted (f a)) :
    Admitted (m >>= f) :=
  ⟨within_bind Admits admits_trans m f hm.within (fun a => (hf a).within)⟩

theorem admitted_get : Admitted (get : GdsTxn GdsDb) := by
  constructor
  intro db
  rw [wlp_get]
  exact admits_refl db

theorem admitted_require (p : Prop) [Decidable p] (fault : Fault) : Admitted (require p fault : GdsTxn Unit) := by
  constructor
  intro db
  rw [wlp_require]
  intro _
  exact admits_refl db

theorem admitted_orThrow (o : Option α) (fault : Fault) : Admitted (orThrow o fault : GdsTxn α) := by
  constructor
  intro db
  rw [wlp_orThrow]
  intro a _
  exact admits_refl db

theorem admitted_raise (e : Except Fault α) : Admitted (raise e : GdsTxn α) := by
  cases e with
  | ok a => exact admitted_pure a
  | error fault => exact admitted_throw fault

theorem admitted_ite (p : Prop) [Decidable p] (m n : GdsTxn α) (hm : Admitted m) (hn : Admitted n) :
    Admitted (if p then m else n) := by
  split
  · exact hm
  · exact hn

end Programs

theorem admitted_createWallet (id buyerId : Uuid) : Admitted (createWallet id buyerId) :=
  admitted_execute 0 (.createWallet id buyerId)

theorem admitted_createTopup (now : Instant) (request : TopupRequest) : Admitted (createTopup now request) :=
  admitted_execute now (.createTopup request)

theorem admitted_updateTopup (new : Topup) : Admitted (updateTopup 1 new) :=
  admitted_execute 0 (.updateTopup new)

theorem admitted_createInbox (row : PayosInbox) : Admitted (createInbox row) :=
  admitted_execute 0 (.createInbox row)

theorem admitted_updateInbox (new : PayosInbox) : Admitted (updateInbox new) :=
  admitted_execute 0 (.updateInbox new)

theorem admitted_createReconciliation (row : PayosReconciliation) : Admitted (createReconciliation row) :=
  admitted_execute 0 (.createReconciliation row)

theorem admitted_insertJournal (now : Instant) (j : JournalEntry) : Admitted (insertJournal now j) :=
  admitted_execute now (.insertJournal j)

theorem postCredit_admitted (now : Instant) (t : Topup) (w : Wallet) (credit : GdsInternalTopupCredit) :
    Admitted (postCredit now t w credit) := by
  refine admitted_get.bind ?_
  intro db
  split
  · exact admitted_require _ _
  · exact (admitted_require _ _).bind fun _ => admitted_insertJournal now _

theorem creditVerifiedTopup_admitted (now : Instant) (claims : CrossLedger) (intent : GdsPayosTopupIntent)
    (settlement : GdsInternalPayosSettlement) : Admitted (creditVerifiedTopupInTransaction now claims intent settlement) :=
  (admitted_raise _).bind fun _ => admitted_get.bind fun _ => (admitted_orThrow _ _).bind fun _ =>
    (admitted_require _ _).bind fun _ => (admitted_require _ _).bind fun _ => (admitted_orThrow _ _).bind fun _ =>
      (admitted_require _ _).bind fun _ => postCredit_admitted now _ _ _

theorem ingestCommit_admitted (now : Instant) (id : Uuid) (claims : CrossLedger) (task : IngestTask) :
    Admitted (ingestCommit now id claims task) := by
  refine admitted_get.bind ?_
  intro db
  split
  · exact (admitted_require _ _).bind fun _ => admitted_pure _
  · exact (admitted_createInbox _).bind fun _ => admitted_pure _

theorem proveReconciliation_admitted (t : Topup) (inbox : PayosInbox) (physicalHash : String) (reconciledAt : Instant) :
    Admitted (proveReconciliation t inbox physicalHash reconciledAt) := by
  refine admitted_get.bind ?_
  intro db
  split
  · exact (admitted_require _ _).bind fun _ => admitted_pure _
  · exact (admitted_createReconciliation _).bind fun _ => admitted_pure _

theorem verifyPendingTopup_admitted (t : Topup) (inbox : PayosInbox) (physicalHash : String) (reconciledAt : Instant) :
    Admitted (verifyPendingTopup t inbox physicalHash reconciledAt) :=
  admitted_ite _ _ _ (admitted_updateTopup _) (admitted_pure _)

theorem creditFromInbox_admitted (now : Instant) (claims : CrossLedger) (t : Topup) (inbox : PayosInbox)
    (settlement : GdsInternalPayosSettlement) : Admitted (creditFromInbox now claims t inbox settlement) :=
  (admitted_require _ _).bind fun _ => (admitted_require _ _).bind fun _ => (admitted_orThrow _ _).bind fun _ =>
    (admitted_require _ _).bind fun _ => (proveReconciliation_admitted ..).bind fun _ =>
      (verifyPendingTopup_admitted ..).bind fun _ => creditVerifiedTopup_admitted ..

theorem settleInbox_admitted (now : Instant) (claims : CrossLedger) (t : Topup) (inbox : PayosInbox)
    (settlement : GdsInternalPayosSettlement) : Admitted (settleInbox now claims t inbox settlement) :=
  admitted_get.bind fun _ => admitted_ite _ _ _
    ((admitted_orThrow _ _).bind fun _ => admitted_require _ _) (creditFromInbox_admitted ..)

theorem acknowledgeInbox_admitted (now : Instant) (inbox : PayosInbox) : Admitted (acknowledgeInbox now inbox) :=
  admitted_ite _ _ _ (admitted_updateInbox _) (admitted_pure _)

theorem applyRecord_admitted (now : Instant) (claims : CrossLedger) (id : Uuid) (recovery : Bool)
    (settlement : GdsInternalPayosSettlement) : Admitted (applyRecord now claims id recovery settlement) :=
  admitted_get.bind fun _ => (admitted_orThrow _ _).bind fun _ => admitted_ite _ _ _
    ((admitted_orThrow _ _).bind fun _ => (settleInbox_admitted ..).bind fun _ =>
      (acknowledgeInbox_admitted ..).bind fun _ => admitted_pure _)
    (admitted_pure _)

theorem moveToReview_admitted (id : Uuid) (reason : String) : Admitted (moveToReview id reason) := by
  refine admitted_get.bind ?_
  intro db
  split
  · exact admitted_updateInbox _
  · exact admitted_pure _

theorem deferWrite_admitted (now : Instant) (id : Uuid) (attemptCount : Nat) : Admitted (deferWrite now id attemptCount) := by
  refine admitted_get.bind ?_
  intro db
  split
  · exact admitted_pure _
  · exact admitted_ite _ _ _ (admitted_updateInbox _) (admitted_updateInbox _)

theorem upsertWallet_admitted (walletId buyerId : Uuid) : Admitted (upsertWallet walletId buyerId) := by
  refine admitted_get.bind ?_
  intro db
  split
  · exact admitted_pure _
  · exact (admitted_createWallet walletId buyerId).bind fun _ => admitted_get.bind fun _ => admitted_orThrow _ _

variable (parseUrl : String → Option Url)

theorem createPreparedTopup_admitted (now : Instant) (claims : CrossLedger) (topupId walletId : Uuid) (codes : List Int)
    (input : PrepareGdsTopup) : Admitted (createPreparedTopup parseUrl now claims topupId walletId codes input) :=
  (upsertWallet_admitted walletId _).bind fun _ => (admitted_require _ _).bind fun _ => admitted_get.bind fun _ =>
    (admitted_orThrow _ _).bind fun _ => (admitted_raise _).bind fun _ => (admitted_createTopup now _).bind fun _ =>
      admitted_pure _

theorem prepareTopup_admitted (now : Instant) (claims : CrossLedger) (topupId walletId : Uuid) (codes : List Int)
    (input : PrepareGdsTopup) : Admitted (prepareTopup parseUrl now claims topupId walletId codes input) := by
  refine admitted_get.bind ?_
  intro db
  split
  · exact (admitted_require _ _).bind fun _ => (admitted_require _ _).bind fun _ => (admitted_raise _).bind fun _ =>
      admitted_pure _
  · exact createPreparedTopup_admitted ..

theorem attachCreatedLink_admitted (hashAccount : String → String) (claims : CrossLedger) (topupId : Uuid)
    (created : CreatedPaymentRequest) : Admitted (attachCreatedLink parseUrl hashAccount claims topupId created) :=
  (admitted_require _ _).bind fun _ => admitted_get.bind fun _ => (admitted_orThrow _ _).bind fun _ =>
    (admitted_require _ _).bind fun _ => (admitted_raise _).bind fun _ => (admitted_require _ _).bind fun _ =>
      admitted_ite _ _ _ (admitted_updateTopup _) (admitted_pure _)

theorem cancelWrite_admitted (snapshot : Topup) (before after : PaymentRequestStatus) :
    Admitted (cancelWrite snapshot before after) :=
  (admitted_require _ _).bind fun _ => (admitted_require _ _).bind fun _ => (admitted_require _ _).bind fun _ =>
    admitted_get.bind fun _ => (admitted_orThrow _ _).bind fun _ => admitted_updateTopup _

theorem admits_commit {α : Type} (m : GdsTxn α) (admitted : Admitted m) (db : GdsDb) : Admits db (commit m db) :=
  commit_of_wlp m (Admits db) db (admits_refl db) (admitted.within db)

theorem topupStep_admits (hashAccount : String → String) (sys : TopupSystem) (input : Instant × TopupStep) :
    Admits sys.db (topupStep parseUrl hashAccount sys input).db := by
  obtain ⟨now, step⟩ := input
  cases step with
  | statement s => exact admits_commit _ (admitted_execute now s) sys.db
  | prepare claims topupId walletId codes request => exact admits_commit _ (prepareTopup_admitted ..) sys.db
  | attachLink claims topupId created => exact admits_commit _ (attachCreatedLink_admitted ..) sys.db
  | ingestRead fact topupId => exact admits_refl sys.db
  | ingestCommit task id claims =>
      unfold topupStep
      dsimp only
      split
      · exact admits_commit _ (ingestCommit_admitted ..) sys.db
      · exact admits_refl sys.db
  | workRead id recovery => exact admits_refl sys.db
  | workReconcile task port queried reconciledAt => exact admits_refl sys.db
  | workApply task claims =>
      unfold topupStep
      dsimp only
      split
      · rw [attempt_snd]
        exact admits_commit _ (applyRecord_admitted ..) sys.db
      · exact admits_refl sys.db
  | workAbort task =>
      unfold topupStep
      dsimp only
      split <;> exact admits_refl sys.db
  | workFail task =>
      unfold topupStep
      dsimp only
      split
      · split
        · exact admits_refl sys.db
        · split
          · split <;> exact admits_refl sys.db
          · exact admits_commit _ (moveToReview_admitted ..) sys.db
      · exact admits_refl sys.db
  | workDefer task =>
      unfold topupStep
      dsimp only
      split
      · exact admits_commit _ (deferWrite_admitted ..) sys.db
      · exact admits_refl sys.db
  | creditVerified claims intent settlement => exact admits_commit _ (creditVerifiedTopup_admitted ..) sys.db
  | cancelRead buyerId topupId =>
      unfold topupStep
      dsimp only
      split <;> exact admits_refl sys.db
  | cancelWrite task before after =>
      unfold topupStep
      dsimp only
      split
      · exact admits_commit _ (cancelWrite_admitted ..) sys.db
      · exact admits_refl sys.db

theorem topupRun_admits (hashAccount : String → String) (sys : TopupSystem) (steps : List (Instant × TopupStep)) :
    Admits sys.db (run (topupStep parseUrl hashAccount) sys steps).db := by
  induction steps generalizing sys with
  | nil => exact admits_refl sys.db
  | cons step rest ih => exact admits_trans _ _ _ (topupStep_admits parseUrl hashAccount sys step) (ih _)

end EduAi.Gds
