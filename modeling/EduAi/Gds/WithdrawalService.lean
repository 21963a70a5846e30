import EduAi.Gds.Recipients
import EduAi.Gds.RevenueSync
import EduAi.Gds.Admitted
import Mathlib.Data.List.Sort

set_option autoImplicit false

namespace EduAi.Gds.Withdrawals

open EduAi.Store EduAi.Gds

inductive WithdrawalAction where
  | approve | reject | process | pay | fail | cancel
deriving DecidableEq, Repr

def nextWithdrawalStatus : WithdrawalStatus → WithdrawalAction → Option WithdrawalStatus
  | .pending, .approve => some .approved
  | .pending, .reject => some .rejected
  | .pending, .cancel => some .cancelled
  | .approved, .process => some .processing
  | .approved, .reject => some .rejected
  | .processing, .pay => some .paid
  | .processing, .fail => some .failed
  | _, _ => none

-- /^[1-9]\d{0,15}$/
def amountPattern (value : Units) : Bool :=
  value.length ≤ 16 && value.head?.any (fun c => c != 0x30) && value.all isDigit

def amountOf (value : Units) : Int :=
  (digitsValue value : Int)

def validateWithdrawalAmount (value : Units) (minimum maximum available : Int) : WithdrawalTxn Int := do
  require (amountPattern value) (.badRequest "GDS_WITHDRAWAL_INVALID_AMOUNT")
  require (0 < minimum ∧ minimum ≤ maximum ∧ minimum ≤ amountOf value ∧ amountOf value ≤ maximum) (.badRequest "GDS_WITHDRAWAL_LIMIT")
  require (amountOf value ≤ available) (.conflict "GDS_WITHDRAWAL_INSUFFICIENT_FUNDS")
  pure (amountOf value)

-- What the service is deployed with: the capabilities of the wallet, the bank lookup, the hash and the date reader of its runtime.
structure Service where
  names : NameRules
  hash : String → String
  parseDate : String → Option Instant
  processingEnabled : Bool
  lookupAvailable : Bool

structure Bank where
  code : String
  bin : String
  name : String
  shortName : String
  lookupSupported : Bool
deriving DecidableEq, Repr

structure CreateWithdrawal where
  amountMinor : Units
  bankCode : String
  accountNumber : String
  accountHolder : Option String
  verificationId : Option String
deriving DecidableEq, Repr

structure ActionInput where
  reason : Option String
  bankTransactionRef : Option String
  transferredAt : Option String
deriving DecidableEq, Repr

structure ConfirmRecipient where
  confirmed : Bool
  accountHolder : Option String
  reason : Option String
deriving DecidableEq, Repr

structure SettingsInput where
  minimumMinor : Units
  maximumMinor : Units
  version : Int
  admissionEnabled : Bool
  processingEnabled : Bool
  accountVerificationRequired : Option Bool
deriving DecidableEq, Repr

-- What the revenue service answers and brings up to date, period by period, while an owner is synchronised.
structure OwnerSync where
  verified : Uuid → Bool
  entries : Uuid → List RevenueLedgerEntry
  draw : Uuid → SyncDraw

def ownerPeriods (db : GdsDb) (ownerId : Uuid) : List RevenueEarningPeriod :=
  (db.periods.filter (fun p => p.sellerId = ownerId ∧ (recognizedEntry db p.id).isSome)).insertionSort (fun p q => p.id ≤ q.id)

def syncOwnerPeriod (now : Instant) (sync : OwnerSync) (p : RevenueEarningPeriod) : GdsTxn Unit := do
  (sync.entries p.id).forM createLedgerEntry
  syncPeriod (sync.verified p.id) now (sync.draw p.id) p.id

def syncOwner (now : Instant) (sync : OwnerSync) (ownerId : Uuid) : GdsTxn Unit := do
  let db ← get
  if db.settings.processingEnabled then (ownerPeriods db ownerId).forM (syncOwnerPeriod now sync) else pure ()

section Verification

-- The service reads its own clock, the guards of the tables read the database's.
variable (svc : Service) (now clock : Instant)

def sameBankAccountName (left right : String) : Bool :=
  svc.names.normalizeBankAccountName left != "" && svc.names.normalizeBankAccountName left == svc.names.normalizeBankAccountName right

def verificationMatches (v : AccountVerification) (ownerId : Uuid) (bankCode accountNumber : String) : Bool :=
  v.purpose = .create ∧ v.withdrawalId = none ∧ v.ownerId = ownerId ∧ v.bankCode = bankCode ∧ v.accountNumber = accountNumber ∧
    now < v.expiresAt

def resolve (ownerId : Uuid) (input : CreateWithdrawal) : WithdrawalTxn (Option AccountVerification) := do
  let db ← get
  match input.verificationId with
  | none => pure none
  | some id => do
      let proof ← orThrow ((verificationById db (canonicalUuid id)).filter
        (fun v => verificationMatches now v ownerId input.bankCode input.accountNumber))
            (.conflict "GDS_ACCOUNT_VERIFICATION_INVALID_OR_EXPIRED")
      pure (some proof)

def transferProofs (db : WithdrawalDb) (actorId : Uuid) (request : Withdrawal × Recipient) (mandatory : Bool) : List AccountVerification :=
  (db.verifications.filter (fun v => v.withdrawalId = some request.1.id ∧ v.actorId = actorId ∧ v.ownerId = request.1.ownerId ∧
    v.bankCode = request.2.bankCode ∧ v.accountNumber = request.2.accountNumber ∧ v.purpose = .transfer ∧ now < v.expiresAt ∧
    (mandatory = true ∨ request.2.verificationId.isSome → v.provider = .vietqr))).insertionSort
      (fun v w => w.verifiedAt < v.verifiedAt ∨ (v.verifiedAt = w.verifiedAt ∧ w.id ≤ v.id))

def requireTransferProof (actorId : Uuid) (request : Withdrawal × Recipient) (mandatory : Bool) : WithdrawalTxn Unit := do
  let db ← get
  require ((transferProofs now db actorId request mandatory).head?.any
    (fun v => sameBankAccountName svc v.accountHolder request.2.accountHolder)) (.conflict "GDS_ACCOUNT_VERIFICATION_REQUIRED")

def transferVerification (id actorId : Uuid) (request : Withdrawal × Recipient) (bank : Bank) (provider : VerificationProvider)
    (accountHolder normalized : String) : AccountVerification where
  id := id
  ownerId := request.1.ownerId
  actorId := actorId
  bankCode := request.2.bankCode
  bankBin := bank.bin
  bankName := bank.name
  bankShortName := bank.shortName
  accountNumber := request.2.accountNumber
  accountHolder := accountHolder
  normalizedAccountHolder := normalized
  provider := provider
  purpose := .transfer
  withdrawalId := some request.1.id
  verifiedAt := now
  expiresAt := now + verificationMinutes

def recordManual (id actorId : Uuid) (request : Withdrawal × Recipient) (bank : Bank) (observedHolder : String) : WithdrawalTxn Unit := do
  require (sameBankAccountName svc request.2.accountHolder observedHolder) (.conflict "GDS_ACCOUNT_HOLDER_MISMATCH")
  insertVerification svc.names clock (transferVerification now id actorId request bank .adminManual (jsTrim observedHolder)
    (svc.names.normalizeBankAccountName observedHolder))

-- /^[0-9]{6,19}$/
def qrAccount (accountNumber : String) : Bool :=
  6 ≤ accountNumber.toList.length ∧ accountNumber.toList.length ≤ 19 ∧ accountNumber.toList.all Char.isDigit

def verify (id ownerId : Uuid) (bank : Bank) (accountNumber accountHolder : String) : WithdrawalTxn Unit := do
  require (qrAccount accountNumber) (.badRequest "GDS_ACCOUNT_QR_UNSUPPORTED")
  require (svc.lookupAvailable ∧ bank.lookupSupported) (.unavailable "GDS_ACCOUNT_VERIFICATION_UNAVAILABLE")
  insertVerification svc.names clock
    { id, ownerId, actorId := ownerId, bankCode := bank.code, bankBin := bank.bin, bankName := bank.name, bankShortName := bank.shortName,
      accountNumber, accountHolder, normalizedAccountHolder := svc.names.normalizeBankAccountName accountHolder, provider := .vietqr,
      purpose := .create, withdrawalId := none, verifiedAt := now, expiresAt := now + verificationMinutes }

-- The administrator's look-up before a transfer; the insert stands behind the look-up and its guard checks the request again.
def verifyTransfer (proofId actorId id : Uuid) (bank : Bank) (accountHolder : String) : WithdrawalTxn Unit := do
  let db ← get
  let request ← orThrow (requestOf db id) (.notFound "GDS_WITHDRAWAL_NOT_FOUND")
  require (request.1.ownerId ≠ actorId) (.forbidden "GDS_WITHDRAWAL_SELF_PROCESSING_FORBIDDEN")
  require request.1.status.isOpen (.conflict "GDS_WITHDRAWAL_INVALID_TRANSITION")
  require (request.1.status = .processing → request.1.processingAdminId = some actorId) (.forbidden "GDS_WITHDRAWAL_CLAIMED_BY_ANOTHER_ADMIN")
  require (qrAccount request.2.accountNumber) (.badRequest "GDS_ACCOUNT_QR_UNSUPPORTED")
  require (svc.lookupAvailable ∧ bank.lookupSupported) (.unavailable "GDS_ACCOUNT_VERIFICATION_UNAVAILABLE")
  require (sameBankAccountName svc request.2.accountHolder accountHolder) (.conflict "GDS_ACCOUNT_HOLDER_MISMATCH")
  insertVerification svc.names clock (transferVerification now proofId actorId request bank .vietqr accountHolder
    (svc.names.normalizeBankAccountName accountHolder))

end Verification

section Requests

variable (svc : Service) (now clock : Instant) (sync : OwnerSync)

def requireProcessing : WithdrawalTxn Unit :=
  require svc.processingEnabled (.forbidden "GDS_WITHDRAWAL_UNAVAILABLE")

def withdrawalByKey (db : GdsDb) (ownerId : Uuid) (requestKeyHash : String) : Option Withdrawal :=
  db.withdrawals.find? (fun r => (r.ownerId, r.requestKeyHash) = (ownerId, requestKeyHash))

-- /^[A-Za-z0-9_-]{16,128}$/
def keyPattern (key : String) : Bool :=
  16 ≤ key.toList.length ∧ key.toList.length ≤ 128 ∧ key.toList.all (fun c => c.isAlphanum || c == '_' || c == '-')

-- /^[A-Z ]{2,160}$/
def plainHolder (holder : String) : Bool :=
  2 ≤ holder.toList.length ∧ holder.toList.length ≤ 160 ∧ holder.toList.all (fun c => c.isUpper || c == ' ')

def sameRequest (existing : Withdrawal × Recipient) (input : CreateWithdrawal) : Prop :=
  (decimal existing.1.amountMinor.toNat = input.amountMinor ∧ existing.2.bankCode = input.bankCode ∧
    existing.2.accountNumber = input.accountNumber) ∧
  (existing.2.verificationId.isSome → existing.2.verificationId = input.verificationId) ∧
  (existing.2.verificationId = none → some existing.2.accountHolder = input.accountHolder)

instance decidableSameRequest (existing : Withdrawal × Recipient) (input : CreateWithdrawal) : Decidable (sameRequest existing input) := by
  unfold sameRequest
  infer_instance

structure CreateDraw where
  withdrawalId : Uuid
  eventId : Uuid
deriving DecidableEq, Repr

def requestedRow (draw : CreateDraw) (ownerId : Uuid) (keyHash : String) (settings : WithdrawalSettings) (wallet : Wallet) (amount : Int) :
    Withdrawal where
  id := draw.withdrawalId
  walletId := wallet.id
  ownerId := ownerId
  requestKeyHash := keyHash
  amountMinor := amount
  settingsVersion := settings.version
  minimumMinor := settings.minimumMinor
  maximumMinor := settings.maximumMinor
  status := .pending
  processingAdminId := none
  bankTransactionRef := none
  transferredAt := none
  createdAt := now

def requestedRecipient (draw : CreateDraw) (input : CreateWithdrawal) (accountHolder : String)
    (proof : Option AccountVerification) : Recipient where
  withdrawalId := draw.withdrawalId
  bankCode := input.bankCode
  accountNumber := input.accountNumber
  accountHolder := accountHolder
  verificationId := proof.map AccountVerification.id
  bankBin := proof.map AccountVerification.bankBin
  bankName := proof.map AccountVerification.bankName
  bankShortName := proof.map AccountVerification.bankShortName
  accountVerifiedAt := proof.map AccountVerification.verifiedAt

def eventRow (id withdrawalId actorId : Uuid) (fromStatus : Option WithdrawalStatus) (toStatus : WithdrawalStatus) (reason : String) :
    WithdrawalEvent where
  id := id
  withdrawalId := withdrawalId
  actorId := actorId
  fromStatus := fromStatus
  toStatus := toStatus
  reason := reason
  bankTransactionRef := none
  transferredAt := none

def holderOf (input : CreateWithdrawal) (proof : Option AccountVerification) : Option String :=
  match proof with
  | some v => some v.accountHolder
  | none => input.accountHolder.map jsTrim

def requireUnblocked (wallet : Option Wallet) : WithdrawalTxn Wallet :=
  orThrow (wallet.filter (fun w => w.status = .active ∧ w.debtMinor = 0)) (.conflict "GDS_WITHDRAWAL_WALLET_OR_DEBT_BLOCKED")

def admitNew (draw : CreateDraw) (ownerId : Uuid) (input : CreateWithdrawal) (keyHash : String) : WithdrawalTxn (Withdrawal × Recipient) := do
  requireProcessing svc
  let db ← get
  require (db.gds.settings.admissionEnabled ∧ db.gds.settings.processingEnabled) (.forbidden "GDS_WITHDRAWAL_ADMISSION_DISABLED")
  require (db.accountVerificationRequired → input.verificationId.isSome ∧ svc.lookupAvailable) (.forbidden "GDS_ACCOUNT_VERIFICATION_REQUIRED")
  let proof ← resolve now ownerId input
  let accountHolder ← orThrow ((holderOf input proof).filter (fun h => h != "")) (.badRequest "GDS_ACCOUNT_HOLDER_REQUIRED")
  require (proof = none → plainHolder accountHolder) (.badRequest "GDS_ACCOUNT_HOLDER_INVALID")
  onLedger (syncOwner now sync ownerId)
  let synced ← get
  let wallet ← requireUnblocked (walletByBuyer synced.gds ownerId)
  let amount ← validateWithdrawalAmount input.amountMinor db.gds.settings.minimumMinor db.gds.settings.maximumMinor wallet.availableMinor
  let row := requestedRow now draw ownerId keyHash db.gds.settings wallet amount
  let recipient := requestedRecipient draw input accountHolder proof
  insertWithdrawalRow clock row recipient
  insertEventRow svc.names clock (eventRow draw.eventId draw.withdrawalId ownerId none .pending "Người dùng tạo yêu cầu rút tiền.")
  pure (row, recipient)

def create (draw : CreateDraw) (ownerId : Uuid) (input : CreateWithdrawal) (requestKey : Option String) :
    WithdrawalTxn (Withdrawal × Recipient) := do
  let key ← orThrow (requestKey.filter keyPattern) (.badRequest "GDS_WITHDRAWAL_IDEMPOTENCY_KEY_REQUIRED")
  let db ← get
  match (withdrawalByKey db.gds ownerId (svc.hash key)).bind (fun r => requestOf db r.id) with
  | some existing => do
      require (sameRequest existing input) (.conflict "GDS_WITHDRAWAL_IDEMPOTENCY_CONFLICT")
      pure existing
  | none => admitNew svc now clock sync draw ownerId input (svc.hash key)

def requireSettled (request : Withdrawal × Recipient) : WithdrawalTxn Unit := do
  onLedger (syncOwner now sync request.1.ownerId)
  let db ← get
  let _ ← requireUnblocked (walletById db.gds request.1.walletId)
  pure ()

structure ConfirmDraw where
  proofId : Uuid
  approvalId : Uuid
  claimId : Uuid
deriving DecidableEq, Repr

def confirmationReason (input : ConfirmRecipient) : String :=
  match (input.reason.map jsTrim).filter (fun r => r != "") with
  | some reason => reason
  | none => "Admin xác nhận đã đối chiếu đúng ngân hàng, số tài khoản và người nhận; duyệt chờ chuyển khoản."

def settleBefore (request : Withdrawal × Recipient) : WithdrawalTxn Unit :=
  if request.1.status = .processing then pure () else requireSettled now sync request

def checkRecipient (draw : ConfirmDraw) (actorId : Uuid) (request : Withdrawal × Recipient) (bank : Bank) (required : Bool)
    (input : ConfirmRecipient) : WithdrawalTxn Unit :=
  if required = true ∨ request.2.verificationId.isSome then requireTransferProof svc now actorId request true
  else recordManual svc now clock draw.proofId actorId request bank (input.accountHolder.getD request.2.accountHolder)

def approvePending (draw : ConfirmDraw) (actorId : Uuid) (request : Withdrawal × Recipient) (reason : String) : WithdrawalTxn Unit :=
  if request.1.status = .pending then
    insertEventRow svc.names clock (eventRow draw.approvalId request.1.id actorId (some .pending) .approved reason)
  else pure ()

def claimApproved (draw : ConfirmDraw) (actorId : Uuid) (request : Withdrawal × Recipient) : WithdrawalTxn Unit :=
  if request.1.status = .processing then pure ()
  else
    insertEventRow svc.names clock (eventRow draw.claimId request.1.id actorId (some .approved) .processing
      "Admin duyệt và nhận trách nhiệm chuyển khoản.")

-- The transaction of confirmRecipient; bank is what the catalogue answered before it.
def confirmRecipient (draw : ConfirmDraw) (actorId id : Uuid) (bank : Bank) (input : ConfirmRecipient) :
    WithdrawalTxn (Withdrawal × Recipient) := do
  requireProcessing svc
  require input.confirmed (.badRequest "GDS_MANUAL_CHECK_CONFIRMATION_REQUIRED")
  let db ← get
  let request ← orThrow (requestOf db id) (.notFound "GDS_WITHDRAWAL_NOT_FOUND")
  require (request.1.ownerId ≠ actorId) (.forbidden "GDS_WITHDRAWAL_SELF_PROCESSING_FORBIDDEN")
  require request.1.status.isOpen (.conflict "GDS_WITHDRAWAL_INVALID_TRANSITION")
  require (request.1.status = .processing → request.1.processingAdminId = some actorId) (.forbidden "GDS_WITHDRAWAL_CLAIMED_BY_ANOTHER_ADMIN")
  require db.gds.settings.processingEnabled (.forbidden "GDS_WITHDRAWAL_PROCESSING_DISABLED")
  settleBefore now sync request
  checkRecipient svc now clock draw actorId request bank db.accountVerificationRequired input
  approvePending svc clock draw actorId request (confirmationReason input)
  claimApproved svc clock draw actorId request
  let db ← get
  orThrow (requestOf db id) (.missingRow "gds_withdrawals")

def truthy (text : Option String) : Bool :=
  text.any (fun t => t != "")

def actionReason (input : ActionInput) : String :=
  match (input.reason.map jsTrim).filter (fun r => r != "") with
  | some reason => reason
  | none => "Admin xác nhận đã chuyển khoản."

def WithdrawalAction.transfers : WithdrawalAction → Bool
  | .process | .pay | .fail => true
  | _ => false

def requireEnabled (action : WithdrawalAction) : WithdrawalTxn Unit :=
  if action.transfers then do
    requireProcessing svc
    let db ← get
    require db.gds.settings.processingEnabled (.forbidden "GDS_WITHDRAWAL_PROCESSING_DISABLED")
  else pure ()

def requireClaimable (actorId : Uuid) (request : Withdrawal × Recipient) (action : WithdrawalAction) : WithdrawalTxn Unit :=
  if action = .process then do
    let db ← get
    requireTransferProof svc now actorId request db.accountVerificationRequired
    requireSettled now sync request
  else pure ()

def transferTime (r : Withdrawal) (text : Option String) : Option Instant :=
  (text.bind svc.parseDate).filter (fun moment => r.createdAt ≤ moment ∧ moment ≤ now)

def requirePaymentProof (r : Withdrawal) (action : WithdrawalAction) (input : ActionInput) : WithdrawalTxn Unit :=
  if action = .pay then do
    require (truthy (input.bankTransactionRef.map jsTrim) ∧ truthy input.transferredAt) (.badRequest "GDS_WITHDRAWAL_PAYMENT_PROOF_REQUIRED")
    require (transferTime svc now r input.transferredAt).isSome (.badRequest "GDS_WITHDRAWAL_INVALID_TRANSFER_TIME")
  else
    require (!truthy input.bankTransactionRef ∧ !truthy input.transferredAt) (.badRequest "GDS_WITHDRAWAL_UNEXPECTED_PAYMENT_PROOF")

def actionEvent (eventId actorId : Uuid) (r : Withdrawal) (status : WithdrawalStatus) (action : WithdrawalAction) (input : ActionInput) :
    WithdrawalEvent :=
  { eventRow eventId r.id actorId (some r.status) status (actionReason input) with
    bankTransactionRef := if action = .pay then input.bankTransactionRef.map jsTrim else none
    transferredAt := if action = .pay then input.transferredAt.bind svc.parseDate else none }

-- The look-up that a call to act with 'process' makes before its transaction, in a write of its own.
def prepareProcess (proofId actorId id : Uuid) (bank : Bank) (accountHolder : String) : WithdrawalTxn Unit := do
  let db ← get
  let request ← orThrow (requestOf db id) (.notFound "GDS_WITHDRAWAL_NOT_FOUND")
  require (request.1.ownerId ≠ actorId) (.forbidden "GDS_WITHDRAWAL_SELF_PROCESSING_FORBIDDEN")
  require (request.1.status = .approved) (.conflict "GDS_WITHDRAWAL_INVALID_TRANSITION")
  if db.accountVerificationRequired = true ∨ request.2.verificationId.isSome then
    verifyTransfer svc now clock proofId actorId id bank accountHolder
  else pure ()

def actTransaction (eventId actorId id : Uuid) (action : WithdrawalAction) (input : ActionInput) (ownerOnly : Bool) :
    WithdrawalTxn (Withdrawal × Recipient) := do
  require (action ≠ .pay → truthy (input.reason.map jsTrim)) (.badRequest "GDS_WITHDRAWAL_REASON_REQUIRED")
  let db ← get
  let request ← orThrow ((requestOf db id).filter (fun request => ownerOnly → request.1.ownerId = actorId))
      (.notFound "GDS_WITHDRAWAL_NOT_FOUND")
  require (if ownerOnly then action = .cancel else request.1.ownerId ≠ actorId) (.forbidden "GDS_WITHDRAWAL_SELF_PROCESSING_FORBIDDEN")
  let status ← orThrow (nextWithdrawalStatus request.1.status action) (.conflict "GDS_WITHDRAWAL_INVALID_TRANSITION")
  requireEnabled svc action
  requireClaimable svc now sync actorId request action
  require (action = .pay ∨ action = .fail → request.1.processingAdminId = some actorId) (.forbidden "GDS_WITHDRAWAL_CLAIMED_BY_ANOTHER_ADMIN")
  requirePaymentProof svc now request.1 action input
  insertEventRow svc.names clock (actionEvent svc eventId actorId request.1 status action input)
  let db ← get
  orThrow (requestOf db id) (.missingRow "gds_withdrawals")

def newSettings (old : WithdrawalSettings) (input : SettingsInput) : WithdrawalSettings :=
  { old with
    minimumMinor := amountOf input.minimumMinor
    maximumMinor := amountOf input.maximumMinor
    version := old.version + 1
    admissionEnabled := input.admissionEnabled
    processingEnabled := input.processingEnabled }

def updateSettings (input : SettingsInput) : WithdrawalTxn Unit := do
  require (input.accountVerificationRequired = some true → svc.lookupAvailable) (.forbidden "GDS_ACCOUNT_VERIFICATION_UNAVAILABLE")
  require (0 < amountOf input.minimumMinor ∧ amountOf input.minimumMinor ≤ amountOf input.maximumMinor ∧
    amountOf input.maximumMinor ≤ maxSafeInteger) (.badRequest "GDS_WITHDRAWAL_INVALID_LIMITS")
  let db ← get
  require (db.gds.settings.version = input.version) (.conflict "GDS_WITHDRAWAL_SETTINGS_CHANGED")
  onLedger (Gds.updateSettings now (newSettings db.gds.settings input))
  modify (fun db => { db with accountVerificationRequired := input.accountVerificationRequired.getD db.accountVerificationRequired })

end Requests

end EduAi.Gds.Withdrawals
