import EduAi.Gds.Journal

set_option autoImplicit false

namespace EduAi.Gds

open EduAi.Store

def sqlTrim (text : String) : List Char :=
  ((text.toList.dropWhile (· == ' ')).reverse.dropWhile (· == ' ')).reverse

def nonblank (text : Option String) : Bool :=
  match text with
  | some t => !(sqlTrim t).isEmpty
  | none => false

def WithdrawalStatus.isOpen : WithdrawalStatus → Bool
  | .pending | .approved | .processing => true
  | _ => false

def withdrawalChecks (r : Withdrawal) : Prop :=
  0 < r.amountMinor ∧ r.minimumMinor ≤ r.amountMinor ∧ r.amountMinor ≤ r.maximumMinor ∧
  r.processingAdminId ≠ some r.ownerId ∧
  (r.status = .paid → nonblank r.bankTransactionRef ∧ r.transferredAt.isSome)

instance (r : Withdrawal) : Decidable (withdrawalChecks r) := by
  unfold withdrawalChecks
  infer_instance

def withdrawalAdmitted (s : WithdrawalSettings) (w : Wallet) (r : Withdrawal) : Prop :=
  w.buyerId = r.ownerId ∧ w.status = .active ∧ w.debtMinor = 0 ∧ r.amountMinor ≤ w.availableMinor ∧
  s.admissionEnabled ∧ s.processingEnabled ∧ r.status = .pending ∧ r.processingAdminId = none ∧
  r.bankTransactionRef = none ∧ r.transferredAt = none ∧ r.settingsVersion = s.version ∧
  r.minimumMinor = s.minimumMinor ∧ r.maximumMinor = s.maximumMinor

instance (s : WithdrawalSettings) (w : Wallet) (r : Withdrawal) : Decidable (withdrawalAdmitted s w r) := by
  unfold withdrawalAdmitted
  infer_instance

def reservePosting (r : Withdrawal) : JournalEntry where
  walletId := r.walletId
  eventKey := "gds:withdrawal:reserve:" ++ r.id
  kind := .withdrawalReserve
  amountMinor := r.amountMinor
  availableDeltaMinor := -r.amountMinor
  heldDeltaMinor := r.amountMinor
  clearingDeltaMinor := 0
  orderRef := some r.id

def insertWithdrawal (now : Instant) (r : Withdrawal) : GdsTxn Unit := do
  let db ← get
  let w ← orThrow (walletById db r.walletId) (.raised "GDS withdrawal admission or balance invalid")
  require (withdrawalAdmitted db.settings w r) (.raised "GDS withdrawal admission or balance invalid")
  require (withdrawalChecks r) (.check "gds_withdrawals")
  require (free (fun x => some x.id) r db.withdrawals) (.unique "gds_withdrawals_pkey")
  require (free (fun x => some (x.ownerId, x.requestKeyHash)) r db.withdrawals)
    (.unique "gds_withdrawals_owner_id_request_key_hash_key")
  modify (fun db => { db with withdrawals := db.withdrawals ++ [r] })
  insertJournal now (reservePosting r)

def withdrawalMayMove : WithdrawalStatus → WithdrawalStatus → Bool
  | .pending, .approved | .pending, .rejected | .pending, .cancelled => true
  | .approved, .processing | .approved, .rejected => true
  | .processing, .paid | .processing, .failed => true
  | _, _ => false

def terminalKind : WithdrawalStatus → Option JournalKind
  | .paid => some .withdrawalPaid
  | .cancelled | .rejected | .failed => some .withdrawalRelease
  | _ => none

def terminalPosting (r : Withdrawal) (k : JournalKind) : JournalEntry where
  walletId := r.walletId
  eventKey := "gds:withdrawal:terminal:" ++ r.id
  kind := k
  amountMinor := r.amountMinor
  availableDeltaMinor := if k = .withdrawalRelease then r.amountMinor else 0
  heldDeltaMinor := -r.amountMinor
  clearingDeltaMinor := if k = .withdrawalPaid then r.amountMinor else 0
  orderRef := some r.id

def Withdrawal.after (r : Withdrawal) (e : WithdrawalEvent) : Withdrawal :=
  { r with
    status := e.toStatus
    processingAdminId := if e.toStatus = .processing then some e.actorId else r.processingAdminId
    bankTransactionRef := if e.toStatus = .paid then e.bankTransactionRef else r.bankTransactionRef
    transferredAt := if e.toStatus = .paid then e.transferredAt else r.transferredAt }

def creationEvent (db : GdsDb) (r : Withdrawal) (e : WithdrawalEvent) : Prop :=
  r.status = .pending ∧ e.toStatus = .pending ∧ e.actorId = r.ownerId ∧
  ¬ db.withdrawalEvents.any (fun x => x.withdrawalId = r.id ∧ x.id ≠ e.id)

instance (db : GdsDb) (r : Withdrawal) (e : WithdrawalEvent) : Decidable (creationEvent db r e) := by
  unfold creationEvent
  infer_instance

def transferProof (now : Instant) (r : Withdrawal) (e : WithdrawalEvent) : Bool :=
  nonblank e.bankTransactionRef &&
    match e.transferredAt with
    | some at_ => decide (r.createdAt ≤ at_ ∧ at_ ≤ now)
    | none => false

def replaceWithdrawal (new : Withdrawal) (db : GdsDb) : GdsDb :=
  { db with withdrawals := updateWhere (fun r => r.id = new.id) (fun _ => new) db.withdrawals }

def moveWithdrawal (now : Instant) (r : Withdrawal) (from_ : WithdrawalStatus) (e : WithdrawalEvent) : GdsTxn Unit := do
  let db ← get
  require (r.status = from_ ∧ withdrawalMayMove r.status e.toStatus) (.raised "GDS withdrawal invalid transition")
  require ((e.toStatus = .cancelled → e.actorId = r.ownerId) ∧ (e.toStatus ≠ .cancelled → e.actorId ≠ r.ownerId))
    (.raised "GDS withdrawal actor invalid")
  require (e.toStatus ∈ [.processing, .paid, .failed] → db.settings.processingEnabled)
    (.raised "GDS withdrawal processing disabled")
  require (e.toStatus = .processing → db.wallets.any (fun w => w.id = r.walletId ∧ w.status = .active ∧ w.debtMinor = 0))
    (.raised "GDS withdrawal blocked by wallet or debt")
  require (e.toStatus ∈ [.paid, .failed] → r.processingAdminId = some e.actorId)
    (.raised "GDS withdrawal claimed by another admin")
  require (e.toStatus = .paid → transferProof now r e) (.raised "GDS withdrawal payment proof or transfer time invalid")
  require (e.toStatus ≠ .paid → e.bankTransactionRef = none ∧ e.transferredAt = none)
    (.raised "GDS withdrawal unexpected payment proof")
  require (withdrawalChecks (r.after e)) (.check "gds_withdrawals")
  require (free (fun x => x.bankTransactionRef) (r.after e) (db.withdrawals.filter (fun x => x.id ≠ r.id)))
    (.unique "gds_withdrawals_bank_transaction_ref_key")
  modify (replaceWithdrawal (r.after e))
  match terminalKind e.toStatus with
  | some k => insertJournal now (terminalPosting r k)
  | none => pure ()

def insertWithdrawalEvent (now : Instant) (e : WithdrawalEvent) : GdsTxn Unit := do
  let db ← get
  require (1 ≤ (sqlTrim e.reason).length ∧ (sqlTrim e.reason).length ≤ 500) (.check "gds_withdrawal_events_reason_check")
  require (free (fun x => some x.id) e db.withdrawalEvents) (.unique "gds_withdrawal_events_pkey")
  modify (fun db => { db with withdrawalEvents := db.withdrawalEvents ++ [e] })
  let db ← get
  let r ← orThrow (withdrawalById db e.withdrawalId) (.raised "GDS withdrawal missing")
  match e.fromStatus with
  | none => require (creationEvent db r e) (.raised "GDS withdrawal invalid creation event")
  | some from_ => moveWithdrawal now r from_ e

def gdsWithdrawalSettingsGuard (now : Instant) (old new : WithdrawalSettings) : Option WithdrawalSettings :=
  if old.revenueActivatedAt.isSome then
    if new.revenueCutoffAt = old.revenueCutoffAt ∧ new.revenueActivatedAt = old.revenueActivatedAt then some new else none
  else if new.processingEnabled then
    some { new with revenueActivatedAt := some now, revenueCutoffAt := now }
  else if new.revenueCutoffAt = old.revenueCutoffAt ∧ new.revenueActivatedAt = none then some new else none

def updateSettings (now : Instant) (new : WithdrawalSettings) : GdsTxn Unit := do
  let db ← get
  let row ← orThrow (gdsWithdrawalSettingsGuard now db.settings new)
    (.raised (if db.settings.revenueActivatedAt.isSome then "GDS historical cutoff is immutable after activation"
      else "GDS cutoff requires first processing activation"))
  require (0 < row.minimumMinor ∧ row.minimumMinor ≤ row.maximumMinor ∧ row.maximumMinor ≤ maxSafeInteger ∧ 0 < row.version)
    (.check "gds_withdrawal_settings")
  modify (fun db => { db with settings := row })

end EduAi.Gds
