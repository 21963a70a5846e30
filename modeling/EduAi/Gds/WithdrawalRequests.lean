import EduAi.Gds.Holds
import EduAi.Gds.WithdrawalService

set_option autoImplicit false

namespace EduAi.Gds.Withdrawals

open EduAi.Store EduAi.Gds

-- The calls of the owners and the administrators, and whatever else happens to the wallet's tables in between.
inductive Request where
  | verify (now clock : Instant) (id ownerId : Uuid) (bank : Bank) (accountNumber accountHolder : String)
  | verifyTransfer (now clock : Instant) (proofId actorId id : Uuid) (bank : Bank) (accountHolder : String)
  | create (now clock : Instant) (sync : OwnerSync) (draw : CreateDraw) (ownerId : Uuid) (input : CreateWithdrawal) (requestKey : Option String)
  | confirmRecipient (now clock : Instant) (sync : OwnerSync) (draw : ConfirmDraw) (actorId id : Uuid) (bank : Bank) (input : ConfirmRecipient)
  | prepareProcess (now clock : Instant) (proofId actorId id : Uuid) (bank : Bank) (accountHolder : String)
  | act (now clock : Instant) (sync : OwnerSync) (eventId actorId id : Uuid) (action : WithdrawalAction) (input : ActionInput) (ownerOnly : Bool)
  | updateSettings (now : Instant) (input : SettingsInput)
  | wallet (now : Instant) (statement : Statement)

def withdrawalKey (eventKey : String) : Bool :=
  "gds:withdrawal:".toList.isPrefixOf eventKey.toList

-- The rows of the withdrawals are written by their service alone, and the other writers of the journal have keys of their own.
def foreignStatement : Statement → Bool
  | .insertWithdrawal _ | .insertWithdrawalEvent _ => false
  | .insertJournal entry => !withdrawalKey entry.eventKey
  | _ => true

def step (svc : Service) (db : WithdrawalDb) : Request → WithdrawalDb
  | .verify now clock id ownerId bank accountNumber accountHolder =>
      commit (verify svc now clock id ownerId bank accountNumber accountHolder) db
  | .verifyTransfer now clock proofId actorId id bank accountHolder =>
      commit (verifyTransfer svc now clock proofId actorId id bank accountHolder) db
  | .create now clock sync draw ownerId input requestKey => commit (create svc now clock sync draw ownerId input requestKey) db
  | .confirmRecipient now clock sync draw actorId id bank input =>
      commit (confirmRecipient svc now clock sync draw actorId id bank input) db
  | .prepareProcess now clock proofId actorId id bank accountHolder =>
      commit (prepareProcess svc now clock proofId actorId id bank accountHolder) db
  | .act now clock sync eventId actorId id action input ownerOnly =>
      commit (actTransaction svc now clock sync eventId actorId id action input ownerOnly) db
  | .updateSettings now input => commit (updateSettings svc now input) db
  | .wallet now statement => if foreignStatement statement then commit (onLedger (execute now statement)) db else db

def ofOtherKeys (j : JournalEntry) : Prop :=
  ofOthers j ∧ withdrawalKey j.eventKey = false ∧ 0 < j.amountMinor

-- The wallet's tables move by admitted statements that leave the withdrawals alone.
structure Quiet (g t : GdsDb) : Prop where
  admits : Admits g t
  beside : Beside ofOtherKeys g t

section Sync

theorem quiet_refl (g : GdsDb) : Quiet g g :=
  ⟨admits_refl g, beside_refl g⟩

theorem quiet_trans (g t u : GdsDb) (first : Quiet g t) (second : Quiet t u) : Quiet g u :=
  ⟨admits_trans g t u first.admits second.admits, beside_trans g t u first.beside second.beside⟩

theorem writes_quiet (g t : GdsDb) (writes : Writes Quiet g t) : Quiet g t :=
  writes_relation Quiet quiet_refl quiet_trans (fun _ => True) (fun _ _ _ _ => trivial) (fun _ _ kept _ => kept) g t writes trivial

theorem revenuePosting_keys (w : Wallet) (e : RevenueEffect) (cash : Int) (checked : journalChecks (revenuePosting w e cash)) :
    ofOtherKeys (revenuePosting w e cash) := by
  refine ⟨revenuePosting_apart w e cash, ?_, checked.1⟩
  unfold withdrawalKey revenuePosting
  simp only [String.toList_append]
  rfl

theorem execute_quiet (now : Instant) (statement : Statement) (apart : statement.apart = true) : Program Quiet (execute now statement) := by
  constructor
  intro g
  have both := wlp_and _ g ((admitted_execute now statement).within g) ((execute_besides now revenuePosting_keys statement apart).within g)
  exact wlp_mono _ g both (fun _ t moved => writes_one _ _ ⟨moved.1, writes_beside g t moved.2⟩)

structure SyncWrites (R : GdsDb → GdsDb → Prop) : Prop where
  wallet : ∀ id buyerId, Program R (createWallet id buyerId)
  projection : ∀ row, Program R (createProjection row)
  entry : ∀ row, Program R (createLedgerEntry row)

theorem upsertWallet_sync {R : GdsDb → GdsDb → Prop} (writes : SyncWrites R) (walletId buyerId : Uuid) :
    Program R (upsertWallet walletId buyerId) := by
  refine program_get.bind (fun _ => ?_)
  split
  · exact program_pure _
  · exact (writes.wallet walletId buyerId).bind (fun _ => program_get.bind (fun _ => program_orThrow _ _))

theorem findOrCreateProjection_sync {R : GdsDb → GdsDb → Prop} (writes : SyncWrites R) (projectionId periodId walletId : Uuid)
    (reviewRequired : Bool) : Program R (findOrCreateProjection projectionId periodId walletId reviewRequired) := by
  refine program_get.bind (fun _ => ?_)
  split
  · exact program_pure _
  · exact (writes.projection _).bind (fun _ => program_pure _)

theorem applyNet_sync {R : GdsDb → GdsDb → Prop} (now : Instant) (effectId walletId : Uuid) (projection : RevenueProjection) (net : Int) :
    Program R (applyNet now effectId projection walletId net) := by
  refine (program_require _ _).bind (fun _ => program_ite _ _ _ (program_pure _)
      (program_get.bind (fun _ => (program_orThrow _ _).bind (fun _ => ?_))))
  constructor
  intro g a t ran
  exact absurd ran (createRevenueEffect_rejected now _ g a t)

theorem syncPeriod_sync {R : GdsDb → GdsDb → Prop} (writes : SyncWrites R) (verified : Bool) (now : Instant)
    (draw : SyncDraw) (periodId : Uuid) :
    Program R (syncPeriod verified now draw periodId) := by
  refine (program_require _ _).bind (fun _ => program_get.bind (fun _ => (program_orThrow _ _).bind (fun _ => ?_)))
  split
  · exact program_pure _
  · exact program_ite _ _ _ ((upsertWallet_sync writes _ _).bind (fun _ => (findOrCreateProjection_sync writes _ _ _ _).bind (fun _ =>
      program_ite _ _ _ (program_pure _) (applyNet_sync _ _ _ _ _)))) (program_pure _)

theorem syncOwner_sync {R : GdsDb → GdsDb → Prop} (writes : SyncWrites R) (now : Instant) (sync : OwnerSync) (ownerId : Uuid) :
    Program R (syncOwner now sync ownerId) :=
  program_get.bind (fun _ => program_ite _ _ _ (program_forM _ _ (fun _ =>
    (program_forM _ _ (fun entry => writes.entry entry)).bind (fun _ => syncPeriod_sync writes _ _ _ _))) (program_pure _))

theorem syncOwner_quiet (now : Instant) (sync : OwnerSync) (ownerId : Uuid) (g : GdsDb) :
    Wlp (syncOwner now sync ownerId) (fun _ t => Quiet g t) g := by
  have writes : SyncWrites Quiet := ⟨fun id buyerId => execute_quiet 0 (.createWallet id buyerId) rfl,
    fun row => execute_quiet 0 (.createProjection row) rfl, fun row => execute_quiet 0 (.createLedgerEntry row) rfl⟩
  exact wlp_mono _ g ((syncOwner_sync writes now sync ownerId).within g) (fun _ t writes => writes_quiet g t writes)

theorem modify_settings (f : GdsDb → GdsDb) (keeps : ∀ g, (f g).settings = g.settings) :
    Program (fun g t : GdsDb => t.settings = g.settings) (modify f : GdsTxn PUnit) := by
  constructor
  intro g
  rw [wlp_modify]
  exact writes_one _ _ (keeps g)

theorem syncOwner_settings (now : Instant) (sync : OwnerSync) (ownerId : Uuid) (g : GdsDb) :
    Wlp (syncOwner now sync ownerId) (fun _ t => t.settings = g.settings) g := by
  have writes : SyncWrites (fun g t => t.settings = g.settings) := by
    refine ⟨fun _ _ => ?_, fun _ => ?_, fun _ => ?_⟩
    · exact program_get.bind (fun _ => (program_require _ _).bind (fun _ => (program_require _ _).bind (fun _ =>
        modify_settings _ (by exact fun _ => rfl))))
    · exact program_get.bind (fun _ => (program_require _ _).bind (fun _ => (program_require _ _).bind (fun _ => (program_require _ _).bind
        (fun _ => modify_settings _ (by exact fun _ => rfl)))))
    · exact program_get.bind (fun _ => (program_require _ _).bind (fun _ => (program_require _ _).bind (fun _ => (program_require _ _).bind
        (fun _ => modify_settings _ (by exact fun _ => rfl)))))
  refine wlp_mono _ g ((syncOwner_sync writes now sync ownerId).within g) ?_
  exact fun _ t writes => writes_relation (fun g t : GdsDb => t.settings = g.settings) (fun _ => rfl)
      (fun _ _ _ first second => second.trans first)
    (fun _ => True) (fun _ _ _ _ => trivial) (fun _ _ kept _ => kept) g t writes trivial

end Sync

section Writes

variable (svc : Service)

structure Checks (v : AccountVerification) (r : Withdrawal) (p : Recipient) : Prop where
  withdrawal : v.withdrawalId = some r.id
  owner : v.ownerId = r.ownerId
  bankCode : v.bankCode = p.bankCode
  accountNumber : v.accountNumber = p.accountNumber
  normalized : v.normalizedAccountHolder = svc.names.gdsNormalizeBankName p.accountHolder
  holder : sameBankAccountName svc v.accountHolder p.accountHolder = true
  other : v.actorId ≠ r.ownerId

def Sourced (db : WithdrawalDb) (v : AccountVerification) : Prop :=
  ∃ r p, requestOf db r.id = some (r, p) ∧ Checks svc v r p

inductive ServiceWrite (db : WithdrawalDb) : WithdrawalDb → Prop where
  | ledger (gds : GdsDb) (quiet : Quiet db.gds gds) : ServiceWrite db { db with gds }
  | verification (v : AccountVerification) (sourced : v.purpose = .transfer → Sourced svc db v) :
      ServiceWrite db { db with verifications := db.verifications ++ [v] }
  | request (gds : GdsDb) (r : Withdrawal) (p : Recipient) (named : p.withdrawalId = r.id) (admits : Admits db.gds gds)
      (created : Created db.gds gds r) : ServiceWrite db { db with gds, recipients := db.recipients ++ [p] }
  | event (now : Instant) (e : WithdrawalEvent) (gds : GdsDb) (r : Withdrawal) (found : withdrawalById db.gds e.withdrawalId = some r)
      (admits : Admits db.gds gds) (effect : Recorded db.gds gds r e ∨ Moved db.gds gds r e)
      (proven : e.toStatus = .processing → transferProven svc.names db now e = true) : ServiceWrite db { db with gds }
  | policy (required : Bool) : ServiceWrite db { db with accountVerificationRequired := required }

theorem onLedger_writes {α : Type} (m : GdsTxn α) (db : WithdrawalDb) (quiet : Wlp m (fun _ t => Quiet db.gds t) db.gds) :
    Wlp (onLedger m) (fun _ t => ∃ gds, Quiet db.gds gds ∧ t = { db with gds }) db := by
  unfold onLedger
  rw [wlp_zoom]
  exact wlp_mono _ _ quiet (fun _ t moved => ⟨t, moved, rfl⟩)

theorem insertEventRow_writes (now : Instant) (e : WithdrawalEvent) : Program (ServiceWrite svc) (insertEventRow svc.names now e) := by
  constructor
  intro db
  simp only [insertEventRow, onLedger, wlp_bind, wlp_get, wlp_require, wlp_zoom]
  intro _ proven
  have both := wlp_and _ _ (insertWithdrawalEvent_moves now db.gds e) ((admitted_execute now (.insertWithdrawalEvent e)).within db.gds)
  refine wlp_mono _ _ both ?_
  rintro _ t ⟨⟨r, found, effect⟩, admits⟩
  exact writes_one _ _ (.event now e t r found admits effect proven)

theorem insertWithdrawalRow_writes (now : Instant) (r : Withdrawal) (p : Recipient) (named : p.withdrawalId = r.id) :
    Program (ServiceWrite svc) (insertWithdrawalRow now r p) := by
  have guards : Program (ServiceWrite svc) (gdsWithdrawalVerificationGuard now r p) := by
    refine program_get.bind (fun _ => ?_)
    split
    · exact (program_require _ _).bind (fun _ => program_require _ _)
    · exact (program_orThrow _ _).bind (fun _ => program_require _ _)
  refine guards.bind (fun _ => program_get.bind (fun _ => (program_require _ _).bind (fun _ => (program_require _ _).bind (fun _ => ?_))))
  constructor
  intro db
  simp only [onLedger, wlp_bind, wlp_zoom, wlp_modify]
  have both := wlp_and _ _ (insertWithdrawal_creates now db.gds r) ((admitted_execute now (.insertWithdrawal r)).within db.gds)
  refine wlp_mono _ _ both ?_
  rintro _ t ⟨created, admits⟩
  exact writes_one _ _ (.request t r p named admits created)

theorem verify_writes (now clock : Instant) (id ownerId : Uuid) (bank : Bank) (accountNumber accountHolder : String) :
    Program (ServiceWrite svc) (verify svc now clock id ownerId bank accountNumber accountHolder) := by
  refine (program_require _ _).bind (fun _ => (program_require _ _).bind (fun _ => program_get.bind (fun _ => (program_require _ _).bind
    (fun _ => (program_require _ _).bind (fun _ => (program_require _ _).bind (fun _ => (program_require _ _).bind (fun _ => ?_)))))))
  constructor
  intro db
  rw [wlp_modify]
  refine writes_one _ _ (.verification _ ?_)
  intro transfer
  cases transfer

theorem requestOf_parts (db : WithdrawalDb) (id : Uuid) (r : Withdrawal) (p : Recipient) (found : requestOf db id = some (r, p)) :
    r ∈ db.gds.withdrawals ∧ r.id = id ∧ recipientOf db id = some p := by
  unfold requestOf at found
  obtain ⟨r', inTable, mapped⟩ := Option.bind_eq_some_iff.mp found
  obtain ⟨p', inRecipients, pair⟩ := Option.map_eq_some_iff.mp mapped
  cases pair
  obtain ⟨member, same⟩ := find_some _ _ r inTable
  exact ⟨member, of_decide_eq_true same, inRecipients⟩

theorem insertVerification_writes (now : Instant) (db : WithdrawalDb) (v : AccountVerification) (r : Withdrawal) (p : Recipient)
    (found : requestOf db r.id = some (r, p)) (named : v.withdrawalId = some r.id) (other : v.actorId ≠ r.ownerId)
    (holder : sameBankAccountName svc v.accountHolder p.accountHolder = true) :
    Wlp (insertVerification svc.names now v) (fun _ t => ServiceWrite svc db t ∧ requestOf t r.id = some (r, p)) db := by
  simp only [insertVerification, wlp_bind, wlp_get, wlp_require, wlp_modify]
  intro _ source _ _
  refine ⟨.verification v ?_, found⟩
  intro transfer
  have sourced := source transfer
  unfold transferSource at sourced
  rw [named, Option.bind_some, found, Option.any_some] at sourced
  obtain ⟨owner, bankCode, accountNumber, normalized, _⟩ := of_decide_eq_true sourced
  exact ⟨r, p, found, named, owner.symm, bankCode.symm, accountNumber.symm, normalized.symm, holder, other⟩

theorem sameBankAccountName_symm (left right : String) (same : sameBankAccountName svc left right = true) :
    sameBankAccountName svc right left = true := by
  unfold sameBankAccountName at *
  obtain ⟨nonempty, equal⟩ := Bool.and_eq_true_iff.mp same
  have equal := beq_iff_eq.mp equal
  rw [← equal, nonempty, beq_self_eq_true, Bool.and_true]

theorem sameBankAccountName_trimmed (left right : String) (same : sameBankAccountName svc left right = true) :
    sameBankAccountName svc (jsTrim left) right = true := by
  unfold sameBankAccountName at *
  rw [normalizeBankAccountName_trimmed]
  exact same

theorem verifyTransfer_writes (now clock : Instant) (proofId actorId id : Uuid) (bank : Bank) (accountHolder : String) :
    Program (ServiceWrite svc) (verifyTransfer svc now clock proofId actorId id bank accountHolder) := by
  constructor
  intro db
  simp only [verifyTransfer, wlp_bind, wlp_get, wlp_orThrow, wlp_require]
  rintro ⟨r, p⟩ found other _ _ _ _ same
  obtain ⟨_, named, _⟩ := requestOf_parts db id r p found
  subst named
  refine wlp_mono _ _ (insertVerification_writes svc clock db _ r p found rfl (Ne.symm other) (sameBankAccountName_symm svc _ _ same)) ?_
  exact fun _ t wrote => writes_one _ _ wrote.1

end Writes

section Programs

variable (svc : Service) (now clock : Instant) (sync : OwnerSync)

theorem syncOwner_writes (ownerId : Uuid) (db : WithdrawalDb) :
    Wlp (onLedger (syncOwner now sync ownerId)) (fun _ t => ∃ gds, Quiet db.gds gds ∧ t = { db with gds }) db :=
  onLedger_writes _ db (syncOwner_quiet now sync ownerId db.gds)

theorem syncOwner_program (ownerId : Uuid) : Program (ServiceWrite svc) (onLedger (syncOwner now sync ownerId)) := by
  constructor
  intro db
  refine wlp_mono _ _ (syncOwner_writes now sync ownerId db) ?_
  rintro _ t ⟨gds, quiet, rfl⟩
  exact writes_one _ _ (.ledger gds quiet)

theorem resolve_program (ownerId : Uuid) (input : CreateWithdrawal) : Program (ServiceWrite svc) (resolve now ownerId input) := by
  refine program_get.bind (fun _ => ?_)
  split
  · exact program_pure _
  · exact (program_orThrow _ _).bind (fun _ => program_pure _)

theorem admit_writes (draw : CreateDraw) (ownerId : Uuid) (input : CreateWithdrawal) (keyHash : String) :
    Program (ServiceWrite svc) (admitNew svc now clock sync draw ownerId input keyHash) := by
  have amount (value : Units) (minimum maximum available : Int) : Program (ServiceWrite svc)
      (validateWithdrawalAmount value minimum maximum available) :=
    (program_require _ _).bind (fun _ => (program_require _ _).bind (fun _ => (program_require _ _).bind (fun _ => program_pure _)))
  exact (program_require _ _).bind (fun _ => program_get.bind (fun _ => (program_require _ _).bind (fun _ => (program_require _ _).bind
    (fun _ => (resolve_program svc now ownerId input).bind (fun _ => (program_orThrow _ _).bind (fun _ => (program_require _ _).bind
      (fun _ => (syncOwner_program svc now sync ownerId).bind (fun _ => program_get.bind (fun _ => (program_orThrow _ _).bind (fun _ =>
        (amount _ _ _ _).bind (fun _ => (insertWithdrawalRow_writes svc clock _ _ rfl).bind (fun _ =>
          (insertEventRow_writes svc clock _).bind (fun _ => program_pure _)))))))))))))

theorem create_writes (draw : CreateDraw) (ownerId : Uuid) (input : CreateWithdrawal) (requestKey : Option String) :
    Program (ServiceWrite svc) (create svc now clock sync draw ownerId input requestKey) := by
  refine (program_orThrow _ _).bind (fun key => program_get.bind (fun db => ?_))
  split
  · exact (program_require _ _).bind (fun _ => program_pure _)
  · exact admit_writes svc now clock sync draw ownerId input _

theorem requireTransferProof_program (actorId : Uuid) (request : Withdrawal × Recipient) (mandatory : Bool) :
    Program (ServiceWrite svc) (requireTransferProof svc now actorId request mandatory) :=
  program_get.bind (fun _ => program_require _ _)

theorem requireSettled_writes (request : Withdrawal × Recipient) (db : WithdrawalDb) :
    Wlp (requireSettled now sync request) (fun _ t => ∃ gds, Quiet db.gds gds ∧ t = { db with gds }) db := by
  unfold requireSettled
  rw [wlp_bind]
  refine wlp_mono _ _ (syncOwner_writes now sync request.1.ownerId db) ?_
  intro _ t settled
  simp only [wlp_bind, wlp_get, requireUnblocked, wlp_orThrow, wlp_pure]
  exact fun _ _ => settled

theorem settleBefore_writes (request : Withdrawal × Recipient) (db : WithdrawalDb) :
    Wlp (settleBefore now sync request) (fun _ t => ∃ gds, Quiet db.gds gds ∧ t = { db with gds }) db := by
  unfold settleBefore
  rw [wlp_ite]
  refine ⟨fun _ => ?_, fun _ => requireSettled_writes now sync request db⟩
  rw [wlp_pure]
  exact ⟨db.gds, quiet_refl db.gds, rfl⟩

theorem requestOf_quiet (db : WithdrawalDb) (gds : GdsDb) (quiet : Quiet db.gds gds) (id : Uuid) :
    requestOf { db with gds } id = requestOf db id := by
  unfold requestOf withdrawalById recipientOf
  rw [quiet.beside.withdrawals]

theorem checkRecipient_writes (draw : ConfirmDraw) (actorId : Uuid) (request : Withdrawal × Recipient) (bank : Bank) (required : Bool)
    (input : ConfirmRecipient) (other : request.1.ownerId ≠ actorId) (db : WithdrawalDb) (found : requestOf db request.1.id = some request) :
    Wlp (checkRecipient svc now clock draw actorId request bank required input) (fun _ t => Writes (ServiceWrite svc) db t) db := by
  unfold checkRecipient
  rw [wlp_ite]
  constructor
  · intro _
    exact (requireTransferProof_program svc now actorId request true).within db
  · intro _
    simp only [recordManual, wlp_bind, wlp_require]
    intro same
    refine wlp_mono _ _ (insertVerification_writes svc clock db _ request.1 request.2 found rfl (Ne.symm other) ?_) ?_
    · exact sameBankAccountName_trimmed svc _ _ (sameBankAccountName_symm svc _ _ same)
    · exact fun _ t wrote => writes_one _ _ wrote.1

theorem confirmRecipient_writes (draw : ConfirmDraw) (actorId id : Uuid) (bank : Bank) (input : ConfirmRecipient) :
    Program (ServiceWrite svc) (confirmRecipient svc now clock sync draw actorId id bank input) := by
  constructor
  intro db
  simp only [confirmRecipient, requireProcessing, wlp_bind, wlp_get, wlp_orThrow, wlp_require]
  rintro _ _ ⟨r, p⟩ found other _ _ _
  obtain ⟨_, named, _⟩ := requestOf_parts db id r p found
  subst named
  refine wlp_mono _ _ (settleBefore_writes now sync (r, p) db) ?_
  rintro _ t ⟨gds, quiet, rfl⟩
  have path : Writes (ServiceWrite svc) db { db with gds } := writes_one _ _ (.ledger gds quiet)
  have still : requestOf { db with gds } r.id = some (r, p) := (requestOf_quiet db gds quiet r.id).trans found
  refine wlp_mono _ _ (checkRecipient_writes svc now clock draw actorId (r, p) bank _ input other { db with gds } still) ?_
  intro _ u checked
  have approves : Program (ServiceWrite svc) (approvePending svc clock draw actorId (r, p) (confirmationReason input)) :=
    program_ite _ _ _ (insertEventRow_writes svc clock _) (program_pure _)
  refine wlp_mono _ _ (approves.within u) ?_
  intro _ v approved
  have claims : Program (ServiceWrite svc) (claimApproved svc clock draw actorId (r, p)) :=
    program_ite _ _ _ (program_pure _) (insertEventRow_writes svc clock _)
  refine wlp_mono _ _ (claims.within v) ?_
  exact fun _ w claimed _ _ => writes_trans _ _ _ path (writes_trans _ _ _ checked (writes_trans _ _ _ approved claimed))

theorem prepareProcess_writes (proofId actorId id : Uuid) (bank : Bank) (accountHolder : String) :
    Program (ServiceWrite svc) (prepareProcess svc now clock proofId actorId id bank accountHolder) :=
  program_get.bind (fun _ => (program_orThrow _ _).bind (fun _ => (program_require _ _).bind (fun _ => (program_require _ _).bind (fun _ =>
    program_ite _ _ _ (verifyTransfer_writes svc now clock proofId actorId id bank accountHolder) (program_pure _)))))

theorem act_writes (eventId actorId id : Uuid) (action : WithdrawalAction) (input : ActionInput) (ownerOnly : Bool) :
    Program (ServiceWrite svc) (actTransaction svc now clock sync eventId actorId id action input ownerOnly) := by
  have enabled : Program (ServiceWrite svc) (requireEnabled svc action) :=
    program_ite _ _ _ ((program_require _ _).bind (fun _ => program_get.bind (fun _ => program_require _ _))) (program_pure _)
  have settled (request : Withdrawal × Recipient) : Program (ServiceWrite svc) (requireSettled now sync request) :=
    (syncOwner_program svc now sync _).bind (fun _ => program_get.bind (fun _ => (program_orThrow _ _).bind (fun _ => program_pure _)))
  have claimable (request : Withdrawal × Recipient) : Program (ServiceWrite svc) (requireClaimable svc now sync actorId request action) :=
    program_ite _ _ _ (program_get.bind (fun _ => (requireTransferProof_program svc now actorId request _).bind (fun _ => settled request)))
      (program_pure _)
  have proof (r : Withdrawal) : Program (ServiceWrite svc) (requirePaymentProof svc now r action input) :=
    program_ite _ _ _ ((program_require _ _).bind (fun _ => program_require _ _)) (program_require _ _)
  exact (program_require _ _).bind (fun _ => program_get.bind (fun _ => (program_orThrow _ _).bind (fun request => (program_require _ _).bind
    (fun _ => (program_orThrow _ _).bind (fun _ => enabled.bind (fun _ => (claimable request).bind (fun _ => (program_require _ _).bind
      (fun _ => (proof request.1).bind (fun _ => (insertEventRow_writes svc clock _).bind (fun _ => program_get.bind
        (fun _ => program_orThrow _ _)))))))))))

theorem updateSettings_writes (input : SettingsInput) : Program (ServiceWrite svc) (updateSettings svc now input) := by
  refine (program_require _ _).bind (fun _ => (program_require _ _).bind (fun _ => program_get.bind (fun read => (program_require _ _).bind
    (fun _ => Program.bind ?_ (fun _ => ?_)))))
  · constructor
    intro db
    have program : Program Quiet (Gds.updateSettings now (newSettings read.gds.settings input)) := execute_quiet now (.updateSettings _) rfl
    have quiet := wlp_mono _ _ (program.within db.gds) (fun _ t writes => writes_quiet db.gds t writes)
    refine wlp_mono _ _ (onLedger_writes _ db quiet) ?_
    rintro _ t ⟨gds, moved, rfl⟩
    exact writes_one _ _ (.ledger gds moved)
  · constructor
    intro db
    rw [wlp_modify]
    exact writes_one _ _ (.policy _)

end Programs

structure Filed (j : JournalEntry) : Prop where
  positive : 0 < j.amountMinor
  keyed : withdrawalKey j.eventKey = true → j.kind.isWithdrawal = true

structure Served (svc : Service) (db : WithdrawalDb) : Prop where
  ledger : Ledger db.gds
  book : WithdrawalBook db.gds
  holds : HoldsPosted db.gds
  filed : ∀ j ∈ db.gds.journal, Filed j
  paired : db.recipients.map Recipient.withdrawalId = db.gds.withdrawals.map Withdrawal.id
  transfers : ∀ v ∈ db.verifications, v.purpose = .transfer → Sourced svc db v
  claims : ∀ r ∈ db.gds.withdrawals, ∀ admin, r.processingAdminId = some admin → ∃ v ∈ db.verifications, ∃ p,
    recipientOf db r.id = some p ∧ v.purpose = .transfer ∧ v.actorId = admin ∧ Checks svc v r p ∧
      (p.verificationId.isSome → v.provider = .vietqr)

section Invariant

variable {svc : Service} {db t : WithdrawalDb}

theorem ledger_admits (gds gds' : GdsDb) (admits : Admits gds gds') (ledger : Ledger gds) : Ledger gds' :=
  admits_invariant Ledger execute_ledger gds gds' admits ledger

theorem requestOf_found (ids : UniqueKey (fun r => some r.id) db.gds.withdrawals) (r : Withdrawal) (p : Recipient)
    (member : r ∈ db.gds.withdrawals) (found : recipientOf db r.id = some p) : requestOf db r.id = some (r, p) := by
  have inTable : withdrawalById db.gds r.id = some r :=
    find_unique _ _ _ ids r r.id member (decide_eq_true rfl) rfl (fun x _ same => congrArg some (of_decide_eq_true same))
  unfold requestOf
  rw [inTable, Option.bind_some, found, Option.map_some]

structure WithdrawalKept (r r' : Withdrawal) : Prop where
  id : r'.id = r.id
  owner : r'.ownerId = r.ownerId
  key : r'.requestKeyHash = r.requestKeyHash
  amount : r'.amountMinor = r.amountMinor

structure Carries (db t : WithdrawalDb) : Prop where
  withdrawals : ∀ r ∈ db.gds.withdrawals, ∃ r' ∈ t.gds.withdrawals, WithdrawalKept r r'
  recipients : ∀ id p, recipientOf db id = some p → recipientOf t id = some p
  verifications : ∀ v ∈ db.verifications, v ∈ t.verifications

theorem kept_refl (r : Withdrawal) : WithdrawalKept r r :=
  ⟨rfl, rfl, rfl, rfl⟩

theorem kept_trans (r r' r'' : Withdrawal) (first : WithdrawalKept r r') (second : WithdrawalKept r' r'') : WithdrawalKept r r'' :=
  ⟨second.id.trans first.id, second.owner.trans first.owner, second.key.trans first.key, second.amount.trans first.amount⟩

theorem carries_refl (db : WithdrawalDb) : Carries db db :=
  ⟨fun r member => ⟨r, member, kept_refl r⟩, fun _ _ found => found, fun _ member => member⟩

theorem carries_trans (db t u : WithdrawalDb) (first : Carries db t) (second : Carries t u) : Carries db u := by
  refine ⟨fun r member => ?_, fun id p found => second.recipients id p (first.recipients id p found),
    fun v member => second.verifications v (first.verifications v member)⟩
  obtain ⟨r', member', kept⟩ := first.withdrawals r member
  obtain ⟨r'', member'', kept'⟩ := second.withdrawals r' member'
  exact ⟨r'', member'', kept_trans r r' r'' kept kept'⟩

theorem write_carries (ids : UniqueKey (fun r => some r.id) db.gds.withdrawals) (write : ServiceWrite svc db t) : Carries db t := by
  have same (gds : GdsDb) (withdrawals : gds.withdrawals = db.gds.withdrawals) : Carries db { db with gds } := by
    refine ⟨fun r member => ⟨r, ?_, kept_refl r⟩, fun _ _ found => found, fun _ member => member⟩
    rw [withdrawals]
    exact member
  cases write with
  | ledger gds quiet => exact same gds quiet.beside.withdrawals
  | verification v _ =>
      exact ⟨fun r member => ⟨r, member, kept_refl r⟩, fun _ _ found => found, fun _ member => List.mem_append_left _ member⟩
  | request gds r p _ _ created =>
      refine ⟨fun x member => ⟨x, ?_, kept_refl x⟩, fun id q found => ?_, fun _ member => member⟩
      · rw [created.withdrawals]
        exact List.mem_append_left _ member
      · unfold recipientOf at *
        rw [List.find?_append, found]
        rfl
  | event now e gds r found _ effect _ =>
      rcases effect with recorded | moved
      · exact same gds recorded.withdrawals
      · refine ⟨fun x member => ?_, fun _ _ found => found, fun _ member => member⟩
        rw [moved.withdrawals]
        by_cases mine : x.id = r.id
        · have only : x = r := unique_eq _ _ ids x r x.id member moved.member rfl (congrArg some mine.symm)
          subst only
          exact ⟨x.after e, (mem_updateWhere _ _ _ _).mpr ⟨x, member, by simp⟩, rfl, rfl, rfl, rfl⟩
        · exact ⟨x, (mem_updateWhere _ _ _ _).mpr ⟨x, member, by simp [mine]⟩, kept_refl x⟩
  | policy required => exact ⟨fun r member => ⟨r, member, kept_refl r⟩, fun _ _ found => found, fun _ member => member⟩

theorem checks_same (v : AccountVerification) (r r' : Withdrawal) (p : Recipient) (checks : Checks svc v r p) (id : r'.id = r.id)
    (owner : r'.ownerId = r.ownerId) : Checks svc v r' p :=
  ⟨checks.withdrawal.trans (congrArg some id.symm), checks.owner.trans owner.symm, checks.bankCode, checks.accountNumber, checks.normalized,
    checks.holder, owner ▸ checks.other⟩

theorem sourced_carried (carries : Carries db t) (ids : UniqueKey (fun r => some r.id) t.gds.withdrawals) (v : AccountVerification)
    (sourced : Sourced svc db v) : Sourced svc t v := by
  obtain ⟨r, p, found, checks⟩ := sourced
  obtain ⟨member, _, recipient⟩ := requestOf_parts db r.id r p found
  obtain ⟨r', inTable, kept⟩ := carries.withdrawals r member
  have recipient' : recipientOf t r'.id = some p := by
    rw [kept.id]
    exact carries.recipients r.id p recipient
  exact ⟨r', p, requestOf_found ids r' p inTable recipient', checks_same v r r' p checks kept.id kept.owner⟩

theorem claims_carried (served : Served svc db) (carries : Carries db t) (r r' : Withdrawal) (member : r ∈ db.gds.withdrawals)
    (id : r'.id = r.id) (owner : r'.ownerId = r.ownerId) (admin : Uuid) (claimed : r.processingAdminId = some admin) :
    ∃ v ∈ t.verifications, ∃ p, recipientOf t r'.id = some p ∧ v.purpose = .transfer ∧ v.actorId = admin ∧ Checks svc v r' p ∧
      (p.verificationId.isSome → v.provider = .vietqr) := by
  obtain ⟨v, inProofs, p, recipient, transfer, actor, checks, provider⟩ := served.claims r member admin claimed
  refine ⟨v, carries.verifications v inProofs, p, ?_, transfer, actor, checks_same v r r' p checks id owner, provider⟩
  rw [id]
  exact carries.recipients r.id p recipient

theorem holds_admits (gds gds' : GdsDb) (admits : Admits gds gds') (holds : HoldsPosted gds) : HoldsPosted gds' := by
  refine admits_invariant HoldsPosted (fun now s db before => ?_) gds gds' admits holds
  refine wlp_mono _ db ((execute_holds now s).within db) ?_
  exact fun _ t writes => writes_invariant HoldsPosted (fun g u held kept => holdWrite_posted g u kept held) db t writes before

theorem filed_append {g t : GdsDb} {more : List JournalEntry} (filed : ∀ j ∈ g.journal, Filed j) (posted : t.journal = g.journal ++ more)
    (others : ∀ j ∈ more, Filed j) : ∀ j ∈ t.journal, Filed j := by
  intro j member
  rw [posted] at member
  rcases List.mem_append.mp member with old | new
  · exact filed j old
  · exact others j new

theorem served_ledger (served : Served svc db) (gds : GdsDb) (quiet : Quiet db.gds gds) : Served svc { db with gds } := by
  have same := quiet.beside.withdrawals
  have write : ServiceWrite svc db { db with gds } := .ledger gds quiet
  have carries := write_carries served.book.ids write
  have book := beside_book served.book (beside_mono _ _ quiet.beside (fun _ others => others.1))
  refine ⟨ledger_admits _ _ quiet.admits served.ledger, book, holds_admits _ _ quiet.admits served.holds, ?_, ?_, ?_, ?_⟩
  · obtain ⟨more, posted, others⟩ := quiet.beside.journal
    refine filed_append served.filed posted ?_
    intro j member
    refine ⟨(others j member).2.2, fun named => ?_⟩
    rw [(others j member).2.1] at named
    cases named
  · rw [same]
    exact served.paired
  · exact fun v member transfer => sourced_carried carries book.ids v (served.transfers v member transfer)
  · intro r member admin claimed
    rw [same] at member
    exact claims_carried served carries r r member rfl rfl admin claimed

theorem served_verification (served : Served svc db) (v : AccountVerification) (sourced : v.purpose = .transfer → Sourced svc db v) :
    Served svc { db with verifications := db.verifications ++ [v] } := by
  have carries := write_carries served.book.ids (.verification v sourced)
  refine ⟨served.ledger, served.book, served.holds, served.filed, served.paired, ?_, ?_⟩
  · intro x member transfer
    rcases (mem_append_one _ _ _).mp member with old | rfl
    · exact sourced_carried carries served.book.ids x (served.transfers x old transfer)
    · exact sourced_carried carries served.book.ids x (sourced transfer)
  · exact fun r member admin claimed => claims_carried served carries r r member rfl rfl admin claimed

theorem served_request (served : Served svc db) (gds : GdsDb) (r : Withdrawal) (p : Recipient) (named : p.withdrawalId = r.id)
    (admits : Admits db.gds gds) (created : Created db.gds gds r) : Served svc { db with gds, recipients := db.recipients ++ [p] } := by
  have write : ServiceWrite svc db { db with gds, recipients := db.recipients ++ [p] } := .request gds r p named admits created
  have carries := write_carries served.book.ids write
  have book := create_book served.book r created
  refine ⟨ledger_admits _ _ admits served.ledger, book, holds_admits _ _ admits served.holds, ?_, ?_, ?_, ?_⟩
  · refine filed_append served.filed created.journal ?_
    intro j member
    rw [List.mem_singleton.mp member]
    exact ⟨created.checked.1, fun _ => rfl⟩
  · rw [created.withdrawals, List.map_append, List.map_append, served.paired, List.map_singleton, List.map_singleton, named]
  · exact fun v member transfer => sourced_carried carries book.ids v (served.transfers v member transfer)
  · intro x member admin claimed
    rw [created.withdrawals] at member
    rcases (mem_append_one _ _ _).mp member with old | rfl
    · exact claims_carried served carries x x old rfl rfl admin claimed
    · rw [← created.opens] at claimed
      cases claimed

theorem proven_checks (served : Served svc db) (now : Instant) (e : WithdrawalEvent) (r : Withdrawal)
    (found : withdrawalById db.gds e.withdrawalId = some r) (proven : transferProven svc.names db now e = true) :
    ∃ v ∈ db.verifications, ∃ p, recipientOf db r.id = some p ∧ v.purpose = .transfer ∧ v.actorId = e.actorId ∧ Checks svc v r p ∧
      (p.verificationId.isSome → v.provider = .vietqr) := by
  unfold transferProven at proven
  obtain ⟨⟨r', p⟩, request, some'⟩ := (Option.any_eq_true _ _).mp proven
  obtain ⟨v, member, proves⟩ := List.any_eq_true.mp some'
  obtain ⟨named, transfer, actor, _, _, _, _, _, provider⟩ := of_decide_eq_true proves
  obtain ⟨inTable, id, recipient⟩ := requestOf_parts db _ r' p request
  have same : r' = r := by
    obtain ⟨inTable', id'⟩ := find_some _ _ r found
    exact unique_eq _ _ served.book.ids r' r r'.id inTable inTable' rfl (congrArg some ((of_decide_eq_true id').trans id.symm))
  subst same
  obtain ⟨r₁, p₁, found₁, checks⟩ := served.transfers v member transfer
  have sameId : r₁.id = r'.id := Option.some.inj (checks.withdrawal.symm.trans named)
  rw [sameId, id, request] at found₁
  cases found₁
  refine ⟨v, member, p, ?_, transfer, actor, checks, fun verified => ?_⟩
  · rw [id]
    exact recipient
  · rcases provider with vietqr | ⟨unverified, _⟩
    · exact vietqr
    · rw [unverified] at verified
      cases verified

theorem served_event (served : Served svc db) (now : Instant) (e : WithdrawalEvent) (gds : GdsDb) (r : Withdrawal)
    (found : withdrawalById db.gds e.withdrawalId = some r) (admits : Admits db.gds gds)
    (effect : Recorded db.gds gds r e ∨ Moved db.gds gds r e)
    (proven : e.toStatus = .processing → transferProven svc.names db now e = true) : Served svc { db with gds } := by
  have ledger := ledger_admits _ _ admits served.ledger
  have holds := holds_admits _ _ admits served.holds
  have carries := write_carries served.book.ids (.event now e gds r found admits effect proven)
  rcases effect with recorded | moved
  · have same := recorded.withdrawals
    have book := record_book served.book r e recorded
    refine ⟨ledger, book, holds, ?_, ?_, ?_, ?_⟩
    · rw [recorded.journal]
      exact served.filed
    · rw [same]
      exact served.paired
    · exact fun v member transfer => sourced_carried carries book.ids v (served.transfers v member transfer)
    · intro x member admin claimed
      rw [same] at member
      exact claims_carried served carries x x member rfl rfl admin claimed
  · have only : ∀ x ∈ db.gds.withdrawals, x.id = r.id → x = r := fun x inTable same =>
      unique_eq _ _ served.book.ids x r x.id inTable moved.member rfl (congrArg some same.symm)
    have book := move_book served.book r e moved
    refine ⟨ledger, book, holds, ?_, ?_, ?_, ?_⟩
    · refine filed_append served.filed moved.journal ?_
      intro j member
      obtain ⟨k, _, rfl⟩ := List.mem_map.mp member
      exact ⟨moved.checked.1, fun _ => terminal_withdrawal r e.toStatus _ member⟩
    · rw [moved.withdrawals, served.paired]
      unfold updateWhere
      rw [List.map_map]
      refine List.map_congr_left (fun x member => ?_)
      by_cases mine : x.id = r.id
      · simp [mine, Withdrawal.after]
      · simp [mine]
    · exact fun v member transfer => sourced_carried carries book.ids v (served.transfers v member transfer)
    · intro x member admin claimed
      rw [moved.withdrawals] at member
      obtain ⟨old, inTable, rfl⟩ := (mem_updateWhere _ _ _ _).mp member
      by_cases mine : old.id = r.id
      · have same := only old inTable mine
        subst same
        simp only [decide_true, if_true] at claimed ⊢
        by_cases claiming : e.toStatus = .processing
        · have actor : admin = e.actorId := by
            simp only [Withdrawal.after, if_pos claiming] at claimed
            exact (Option.some.inj claimed).symm
          obtain ⟨v, inProofs, p, recipient, transfer, by', checks, provider⟩ := proven_checks served now e old found (proven claiming)
          exact ⟨v, inProofs, p, recipient, transfer, by'.trans actor.symm, checks_same v old (old.after e) p checks rfl rfl, provider⟩
        · simp only [Withdrawal.after, if_neg claiming] at claimed
          exact claims_carried served carries old (old.after e) inTable rfl rfl admin claimed
      · simp only [mine, decide_false, Bool.false_eq_true, if_false] at claimed ⊢
        exact claims_carried served carries old old inTable rfl rfl admin claimed

theorem served_write (write : ServiceWrite svc db t) (served : Served svc db) : Served svc t := by
  cases write with
  | ledger gds quiet => exact served_ledger served gds quiet
  | verification v sourced => exact served_verification served v sourced
  | request gds r p named admits created => exact served_request served gds r p named admits created
  | event now e gds r found admits effect proven => exact served_event served now e gds r found admits effect proven
  | policy required => exact ⟨served.ledger, served.book, served.holds, served.filed, served.paired, served.transfers, served.claims⟩

end Invariant

section Runs

variable (svc : Service) (db : WithdrawalDb)

theorem execute_foreign (now : Instant) (statement : Statement) (foreign : foreignStatement statement = true) (g : GdsDb) (ledger : Ledger g) :
    Wlp (execute now statement) (fun _ t => Quiet g t) g := by
  have admitted := (admitted_execute now statement).within g
  cases apart : statement.apart with
  | true =>
      refine wlp_mono _ g (wlp_and _ g admitted ((execute_besides now revenuePosting_keys statement apart).within g)) ?_
      exact fun _ t both => ⟨both.1, writes_beside g t both.2⟩
  | false =>
      cases statement with
      | insertJournal entry =>
          have keyed : journalChecks entry → ofOthers entry → ofOtherKeys entry := by
            intro checked others
            refine ⟨others, ?_, checked.1⟩
            simpa [foreignStatement] using foreign
          refine wlp_mono _ g (wlp_and _ g admitted (insertJournal_withdrawals now entry g ledger keyed)) ?_
          exact fun _ t both => ⟨both.1, both.2⟩
      | insertWithdrawal row => cases foreign
      | insertWithdrawalEvent row => cases foreign
      | _ => cases apart

theorem step_writes (request : Request) (served : Served svc db) : Writes (ServiceWrite svc) db (step svc db request) := by
  cases request with
  | verify now clock id ownerId bank accountNumber accountHolder =>
      exact (verify_writes svc now clock id ownerId bank accountNumber accountHolder).commits db
  | verifyTransfer now clock proofId actorId id bank accountHolder =>
      exact (verifyTransfer_writes svc now clock proofId actorId id bank accountHolder).commits db
  | create now clock sync draw ownerId input requestKey => exact (create_writes svc now clock sync draw ownerId input requestKey).commits db
  | confirmRecipient now clock sync draw actorId id bank input =>
      exact (confirmRecipient_writes svc now clock sync draw actorId id bank input).commits db
  | prepareProcess now clock proofId actorId id bank accountHolder =>
      exact (prepareProcess_writes svc now clock proofId actorId id bank accountHolder).commits db
  | act now clock sync eventId actorId id action input ownerOnly =>
      exact (act_writes svc now clock sync eventId actorId id action input ownerOnly).commits db
  | updateSettings now input => exact (updateSettings_writes svc now input).commits db
  | wallet now statement =>
      show Writes _ db (if foreignStatement statement then commit (onLedger (execute now statement)) db else db)
      cases foreign : foreignStatement statement with
      | false => exact writes_refl db
      | true =>
          rw [if_pos rfl]
          refine commit_of_wlp _ (Writes (ServiceWrite svc) db) db (writes_refl db) ?_
          refine wlp_mono _ db (onLedger_writes _ db (execute_foreign now statement foreign db.gds served.ledger)) ?_
          rintro _ t ⟨gds, quiet, rfl⟩
          exact writes_one _ _ (.ledger gds quiet)

theorem step_served (request : Request) (served : Served svc db) : Served svc (step svc db request) :=
  writes_invariant (Served svc) (fun _ _ write before => served_write write before) db _ (step_writes svc db request served) served

theorem step_carries (request : Request) (served : Served svc db) : Carries db (step svc db request) :=
  writes_relation Carries carries_refl carries_trans (Served svc) (fun _ _ write before => served_write write before)
    (fun _ _ write before => write_carries before.book.ids write) db _ (step_writes svc db request served) served

theorem run_carries (requests : List Request) (served : Served svc db) : Carries db (run (step svc) db requests) := by
  induction requests generalizing db with
  | nil => exact carries_refl db
  | cons request rest ih =>
      exact carries_trans _ _ _ (step_carries svc db request served) (ih (step svc db request) (step_served svc db request served))

theorem run_served (createdAt : Instant) (requests : List Request) : Served svc (run (step svc) (emptyWithdrawals createdAt) requests) := by
  refine run_invariant (step svc) (Served svc) (fun db request => step_served svc db request) _ requests ?_
  refine ⟨emptyDb_ledger createdAt, emptyDb_book createdAt, emptyDb_posted createdAt, ?_, rfl, ?_, ?_⟩
  · intro j inEmpty
    cases inEmpty
  · intro v inEmpty
    cases inEmpty
  · intro r inEmpty
    cases inEmpty

theorem history_admin (r s : Withdrawal) (moves : List WithdrawalEvent) (history : History Moves Withdrawal.after r.opened moves s)
    (claimed : s.status = .processing ∨ s.status = .paid ∨ s.status = .failed) : s.processingAdminId.isSome = true := by
  have always : s.status = .processing ∨ s.status = .paid ∨ s.status = .failed → s.processingAdminId.isSome = true := by
    refine history_invariant (fun _ s => s.status = .processing ∨ s.status = .paid ∨ s.status = .failed → s.processingAdminId.isSome = true)
      history ?_ ?_
    · rintro (claimed | claimed | claimed) <;> cases claimed
    · intro es s e before allowed claimed
      by_cases claiming : e.toStatus = .processing
      · simp only [Withdrawal.after, if_pos claiming, Option.isSome_some]
      · simp only [Withdrawal.after, if_neg claiming]
        refine before (.inl ?_)
        have closes : e.toStatus = .paid ∨ e.toStatus = .failed := by
          rcases claimed with never | closed
          · exact absurd never claiming
          · exact closed
        have movable := allowed.moves
        revert movable
        rcases closes with paid | failed
        · rw [paid]
          cases s.status <;> simp [withdrawalMayMove]
        · rw [failed]
          cases s.status <;> simp [withdrawalMayMove]
  exact always claimed

/-- Whoever claimed a transfer had checked the account it goes to: the same bank, number and holder's name as the request's, at the bank
itself where the owner's request was verified there; and is not the owner. -/
theorem transfers_checked (createdAt : Instant) (requests : List Request) : let db := run (step svc) (emptyWithdrawals createdAt) requests
    ∀ r ∈ db.gds.withdrawals, r.status = .processing ∨ r.status = .paid ∨ r.status = .failed →
      ∃ admin p, r.processingAdminId = some admin ∧ admin ≠ r.ownerId ∧ recipientOf db r.id = some p ∧
        ∃ v ∈ db.verifications, v.purpose = .transfer ∧ v.withdrawalId = some r.id ∧ v.actorId = admin ∧ v.bankCode = p.bankCode ∧
          v.accountNumber = p.accountNumber ∧ sameBankAccountName svc v.accountHolder p.accountHolder = true ∧
          (p.verificationId.isSome → v.provider = .vietqr) := by
  intro db r member claimed
  have served : Served svc db := run_served svc createdAt requests
  obtain ⟨_, moves, _, _, _, history⟩ := (served.book.booked r member).log
  obtain ⟨admin, named⟩ := Option.isSome_iff_exists.mp (history_admin r r moves history claimed)
  obtain ⟨v, inProofs, p, recipient, transfer, actor, checks, provider⟩ := served.claims r member admin named
  exact ⟨admin, p, named, actor ▸ checks.other, recipient, v, inProofs, transfer, checks.withdrawal, actor, checks.bankCode,
    checks.accountNumber, checks.holder, provider⟩

end Runs

section Sample

def sampleNames : NameRules where
  nfd := id
  nfc := id
  toUpperCase := id
  upper := id
  isSqlSpace := isJsSpace
  nfd_ends := keepsEnds_id
  toUpperCase_ends := keepsEnds_id

def sampleService : Service where
  names := sampleNames
  hash := id
  parseDate := fun text => if text = "2026-11-04T10:00:00Z" then some 5 else none
  processingEnabled := true
  lookupAvailable := true

def sampleSync : OwnerSync where
  verified := fun _ => true
  entries := fun _ => []
  draw := fun id => { walletId := id, projectionId := id, effectId := id }

def sampleTopup : TopupRequest where
  id := "topup"
  buyerId := "owner"
  walletId := "wallet"
  requestKeyHash := "key"
  amountMinor := 80000
  payosOrderCode := 1
  transferMemo := "GDS1"
  receivingAccountHash := "account"
  expiresAt := 900000

def sampleLinked : Topup :=
  { sampleTopup.row 1 with status := .pendingPayos, paymentLinkId := some "link" }

def sampleVerified : Topup :=
  { sampleLinked with status := .payosVerified, collectionReference := some "collection", signatureVerifiedAt := some 2,
                      providerReconciledAt := some 3 }

def sampleCredit : JournalEntry where
  walletId := "wallet"
  eventKey := "gds:topup:topup"
  kind := .topupCredit
  amountMinor := 80000
  availableDeltaMinor := 80000
  heldDeltaMinor := 0
  clearingDeltaMinor := -80000
  topupId := some "topup"
  collectionReference := some "collection"

def sampleFunded : List Request :=
  [.wallet 1 (.createWallet "wallet" "owner"), .wallet 1 (.createTopup sampleTopup), .wallet 2 (.updateTopup sampleLinked),
    .wallet 3 (.updateTopup sampleVerified), .wallet 3 (.insertJournal sampleCredit),
    .updateSettings 3
      { minimumMinor := [0x31], maximumMinor := [0x39, 0x30, 0x30, 0x30, 0x30], version := 1,
        admissionEnabled := true, processingEnabled := true, accountVerificationRequired := none }]

def sampleBank : Bank where
  code := "VCB"
  bin := "970436"
  name := "Vietcombank"
  shortName := "VCB"
  lookupSupported := true

def sampleInput : CreateWithdrawal where
  amountMinor := [0x35, 0x30, 0x30, 0x30, 0x30]
  bankCode := "VCB"
  accountNumber := "0123456789"
  accountHolder := some "NGUYEN VAN A"
  verificationId := none

def sampleCreate (withdrawalId : Uuid) : Request :=
  .create 4 4 sampleSync { withdrawalId, eventId := withdrawalId } "owner" sampleInput (some "0123456789abcdef")

def samplePaidRequests : List Request :=
  sampleFunded ++ [sampleCreate "withdrawal", sampleCreate "again",
    .confirmRecipient 4 4 sampleSync { proofId := "proof", approvalId := "approval", claimId := "claim" } "admin" "withdrawal" sampleBank
      { confirmed := true, accountHolder := none, reason := none },
    .act 6 6 sampleSync "payment" "admin" "withdrawal" .pay
      { reason := none, bankTransactionRef := some "FT1", transferredAt := some "2026-11-04T10:00:00Z" } false]

-- A transfer that was paid, and who had checked its account.
theorem paid_transfer_checked : ∃ r ∈ (run (step sampleService) (emptyWithdrawals 0) samplePaidRequests).gds.withdrawals,
    r.status = .paid ∧ ∃ admin, r.processingAdminId = some admin ∧ admin ≠ r.ownerId := by
  have paid : (run (step sampleService) (emptyWithdrawals 0) samplePaidRequests).gds.withdrawals.any (fun r => r.status = .paid) = true := by
    decide +kernel
  obtain ⟨r, member, status⟩ := List.any_eq_true.mp paid
  have status := of_decide_eq_true status
  obtain ⟨admin, _, named, other, _⟩ := transfers_checked sampleService 0 samplePaidRequests r member (.inr (.inl status))
  exact ⟨r, member, status, admin, named, other⟩

end Sample

end EduAi.Gds.Withdrawals
