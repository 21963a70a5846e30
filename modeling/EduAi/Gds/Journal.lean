import EduAi.Gds.Topups

set_option autoImplicit false

namespace EduAi.Gds

open EduAi.Store

def bigintBound : Int := 9223372036854775808

-- Balances are signed 64-bit columns under the nonnegativity CHECK constraints.
def walletChecks (w : Wallet) : Prop :=
  (0 ≤ w.availableMinor ∧ w.availableMinor < bigintBound) ∧ (0 ≤ w.heldMinor ∧ w.heldMinor < bigintBound) ∧
  (0 ≤ w.debtMinor ∧ w.debtMinor < bigintBound)

instance (w : Wallet) : Decidable (walletChecks w) := by
  unfold walletChecks
  infer_instance

def replaceWallet (new : Wallet) (db : GdsDb) : GdsDb :=
  { db with wallets := updateWhere (fun w => w.id = new.id) (fun _ => new) db.wallets }

def Wallet.moved (w : Wallet) (available held : Int) : Wallet :=
  { w with availableMinor := w.availableMinor + available, heldMinor := w.heldMinor + held }

def moveWallet (onlyActive : Bool) (walletId : Uuid) (available held : Int) (unavailable : Fault) : GdsTxn Unit := do
  let db ← get
  let w ← orThrow (db.wallets.find? (fun w => w.id = walletId ∧ (onlyActive → w.status = .active))) unavailable
  require (walletChecks (w.moved available held)) (.check "gds_internal_wallets_nonnegative_check")
  modify (replaceWallet (w.moved available held))

def JournalKind.isWithdrawal : JournalKind → Bool
  | .withdrawalReserve | .withdrawalRelease | .withdrawalPaid => true
  | _ => false

def JournalKind.isOriginal : JournalKind → Bool
  | .topupCredit | .reserve | .capture | .release => true
  | _ => false

def postingCheck (j : JournalEntry) : Prop :=
  match j.kind with
  | .topupCredit => j.availableDeltaMinor = j.amountMinor ∧ j.heldDeltaMinor = 0 ∧ j.clearingDeltaMinor = -j.amountMinor ∧
      j.topupId.isSome ∧ j.collectionReference.isSome ∧ j.orderRef = none
  | .reserve | .withdrawalReserve => j.availableDeltaMinor = -j.amountMinor ∧ j.heldDeltaMinor = j.amountMinor ∧
      j.clearingDeltaMinor = 0 ∧ j.topupId = none ∧ j.collectionReference = none ∧ j.orderRef.isSome
  | .capture | .withdrawalPaid => j.availableDeltaMinor = 0 ∧ j.heldDeltaMinor = -j.amountMinor ∧
      j.clearingDeltaMinor = j.amountMinor ∧ j.topupId = none ∧ j.collectionReference = none ∧ j.orderRef.isSome
  | .release | .withdrawalRelease => j.availableDeltaMinor = j.amountMinor ∧ j.heldDeltaMinor = -j.amountMinor ∧
      j.clearingDeltaMinor = 0 ∧ j.topupId = none ∧ j.collectionReference = none ∧ j.orderRef.isSome
  | .revenueCredit => j.availableDeltaMinor = j.amountMinor ∧ j.heldDeltaMinor = 0 ∧ j.clearingDeltaMinor = -j.amountMinor ∧
      j.topupId = none ∧ j.collectionReference = none ∧ j.orderRef.isSome
  | .revenueReversal => j.availableDeltaMinor = -j.amountMinor ∧ j.heldDeltaMinor = 0 ∧ j.clearingDeltaMinor = j.amountMinor ∧
      j.topupId = none ∧ j.collectionReference = none ∧ j.orderRef.isSome

instance (j : JournalEntry) : Decidable (postingCheck j) := by
  unfold postingCheck
  split <;> infer_instance

def journalChecks (j : JournalEntry) : Prop :=
  0 < j.amountMinor ∧ j.availableDeltaMinor + j.heldDeltaMinor + j.clearingDeltaMinor = 0 ∧ postingCheck j

instance (j : JournalEntry) : Decidable (journalChecks j) := by
  unfold journalChecks
  infer_instance

-- The partial unique index over (order_ref, kind) of the withdrawal postings.
def withdrawalPosting (j : JournalEntry) : Option (String × JournalKind) :=
  if j.kind.isWithdrawal then j.orderRef.map (fun ref => (ref, j.kind)) else none

def creditSource (j : JournalEntry) (t : Topup) : Prop :=
  t.status = .payosVerified ∧ t.walletId = j.walletId ∧ t.amountMinor = j.amountMinor ∧
  t.collectionReference = j.collectionReference ∧ reconciledAfterSignature t

instance (j : JournalEntry) (t : Topup) : Decidable (creditSource j t) := by
  unfold creditSource
  infer_instance

def Topup.creditedRow (t : Topup) (now : Instant) : Topup :=
  { t with status := .credited, creditedAt := some now }

def holdMatches (j : JournalEntry) (h : Hold) : Prop :=
  h.walletId = j.walletId ∧ some h.orderRef = j.orderRef ∧ h.amountMinor = j.amountMinor ∧ h.status = .reserved

instance (j : JournalEntry) (h : Hold) : Decidable (holdMatches j h) := by
  unfold holdMatches
  infer_instance

def creditTopup (now : Instant) (j : JournalEntry) : GdsTxn Unit := do
  let db ← get
  let t ← orThrow (db.topups.find? (fun t => some t.id = j.topupId)) (.raised "GDS topup is not signed and reconciled")
  require (creditSource j t) (.raised "GDS topup is not signed and reconciled")
  updateTopup 2 (t.creditedRow now)

def createHold (j : JournalEntry) (orderRef : String) : GdsTxn Unit := do
  let db ← get
  let row : Hold := { walletId := j.walletId, orderRef, amountMinor := j.amountMinor, status := .reserved }
  require (free (fun h => some h.orderRef) row db.holds) (.unique "gds_internal_holds_order_ref_key")
  modify (fun db => { db with holds := db.holds ++ [row] })

def closeHold (j : JournalEntry) (status : HoldStatus) : GdsTxn Unit := do
  let db ← get
  require (db.holds.any (fun h => holdMatches j h)) (.raised "GDS hold is missing, mismatched or terminal")
  modify (fun db => { db with holds := updateWhere (fun h => holdMatches j h) (fun h => { h with status }) db.holds })

def applySource (now : Instant) (j : JournalEntry) : GdsTxn Unit :=
  match j.kind with
  | .topupCredit => creditTopup now j
  | .reserve => do
      let orderRef ← orThrow j.orderRef (.check "gds_internal_journal_posting_check")
      createHold j orderRef
  | .capture => closeHold j .captured
  | _ => closeHold j .released

def gdsInternalApplyJournal (now : Instant) (j : JournalEntry) : GdsTxn Unit := do
  applySource now j
  moveWallet true j.walletId j.availableDeltaMinor j.heldDeltaMinor (.raised "GDS wallet is unavailable")

def withdrawalSource (j : JournalEntry) (r : Withdrawal) : Prop :=
  r.walletId = j.walletId ∧ r.amountMinor = j.amountMinor ∧
  (j.kind = .withdrawalReserve → r.status = .pending) ∧
  (j.kind = .withdrawalRelease → r.status ∈ [.cancelled, .rejected, .failed]) ∧
  (j.kind = .withdrawalPaid → r.status = .paid)

instance (j : JournalEntry) (r : Withdrawal) : Decidable (withdrawalSource j r) := by
  unfold withdrawalSource
  infer_instance

def revenueSource (j : JournalEntry) (db : GdsDb) : Bool :=
  db.effects.any (fun e => db.projections.any (fun p => p.id = e.projectionId ∧ some e.id = j.orderRef ∧
    p.walletId = j.walletId ∧ e.availableDeltaMinor = j.availableDeltaMinor ∧ j.eventKey = "gds:revenue:" ++ e.id))

def extendedSource (j : JournalEntry) : GdsTxn Unit := do
  let db ← get
  if j.kind.isWithdrawal then
    let r ← orThrow (db.withdrawals.find? (fun r => some r.id = j.orderRef))
      (.raised "GDS withdrawal journal missing or mismatched source")
    require (withdrawalSource j r) (.raised "GDS withdrawal journal missing or mismatched source")
  else
    require (revenueSource j db) (.raised "GDS revenue journal missing or mismatched source")

def gdsExtendedJournalApply (j : JournalEntry) : GdsTxn Unit := do
  extendedSource j
  moveWallet false j.walletId j.availableDeltaMinor j.heldDeltaMinor (.raised "GDS wallet missing")

def insertJournal (now : Instant) (j : JournalEntry) : GdsTxn Unit := do
  let db ← get
  require (journalChecks j) (.check "gds_internal_journal_posting_check")
  require (db.wallets.any (fun w => w.id = j.walletId)) (.foreignKey "gds_internal_journal_wallet_fkey")
  require (j.topupId.isSome → db.topups.any (fun t => some t.id = j.topupId)) (.foreignKey "gds_internal_journal_topup_fkey")
  require (free (fun e => some e.eventKey) j db.journal) (.unique "gds_internal_journal_event_key_key")
  require (free (fun e => e.topupId) j db.journal) (.unique "gds_internal_journal_topup_id_key")
  require (free (fun e => e.collectionReference) j db.journal) (.unique "gds_internal_journal_collection_reference_key")
  require (free withdrawalPosting j db.journal) (.unique "gds_withdrawal_journal_once")
  modify (fun db => { db with journal := db.journal ++ [j] })
  if j.kind.isOriginal then gdsInternalApplyJournal now j else gdsExtendedJournalApply j

end EduAi.Gds
