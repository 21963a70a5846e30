import EduAi.Gds.BankNames
import EduAi.Gds.WithdrawalRuns
import EduAi.Store.Outcomes
import EduAi.Store.Decimal

set_option autoImplicit false

namespace EduAi.Gds

open EduAi.Store

section Trimming

variable (text : String)

theorem sqlTrim_jsTrim : sqlTrim (jsTrim text) = (jsTrim text).toList := by
  obtain ⟨head, last⟩ := jsTrim_ends text (· == ' ') (fun c blank => by rw [beq_iff_eq.mp blank]; decide)
  show ((jsTrim text).toList.dropWhile (· == ' ')).rdropWhile (· == ' ') = (jsTrim text).toList
  rw [head, last]

theorem nonblank_jsTrim (some' : jsTrim text ≠ "") : nonblank (some (jsTrim text)) = true := by
  show (!(sqlTrim (jsTrim text)).isEmpty) = true
  rw [sqlTrim_jsTrim]
  cases whole : (jsTrim text).toList with
  | nil => exact absurd (String.toList_eq_nil_iff.mp whole) some'
  | cons c rest => rfl

end Trimming

inductive VerificationPurpose where
  | create | transfer
deriving DecidableEq, Repr

inductive VerificationProvider where
  | vietqr | adminManual
deriving DecidableEq, Repr

structure AccountVerification where
  id : Uuid
  ownerId : Uuid
  actorId : Uuid
  bankCode : String
  bankBin : String
  bankName : String
  bankShortName : String
  accountNumber : String
  accountHolder : String
  normalizedAccountHolder : String
  provider : VerificationProvider
  purpose : VerificationPurpose
  withdrawalId : Option Uuid
  verifiedAt : Instant
  expiresAt : Instant
deriving DecidableEq, Repr

structure Recipient where
  withdrawalId : Uuid
  bankCode : String
  accountNumber : String
  accountHolder : String
  verificationId : Option Uuid
  bankBin : Option String
  bankName : Option String
  bankShortName : Option String
  accountVerifiedAt : Option Instant
deriving DecidableEq, Repr

structure WithdrawalDb where
  gds : GdsDb
  recipients : List Recipient
  verifications : List AccountVerification
  accountVerificationRequired : Bool
deriving DecidableEq, Repr

def emptyWithdrawals (createdAt : Instant) : WithdrawalDb where
  gds := emptyDb createdAt
  recipients := []
  verifications := []
  accountVerificationRequired := false

abbrev WithdrawalTxn := Txn WithdrawalDb Fault

def onLedger {α : Type} (m : GdsTxn α) : WithdrawalTxn α :=
  zoom WithdrawalDb.gds (fun gds db => { db with gds }) m

def recipientOf (db : WithdrawalDb) (id : Uuid) : Option Recipient :=
  db.recipients.find? (fun p => p.withdrawalId = id)

def requestOf (db : WithdrawalDb) (id : Uuid) : Option (Withdrawal × Recipient) :=
  (withdrawalById db.gds id).bind (fun r => (recipientOf db id).map (fun p => (r, p)))

def canonicalUuid (text : String) : Uuid :=
  String.ofList (text.toList.map Char.toLower)

def verificationById (db : WithdrawalDb) (id : Uuid) : Option AccountVerification :=
  db.verifications.find? (fun v => v.id = id)

def verificationMinutes : Int := 15 * 60000

section Guards

variable (names : NameRules)

def verificationChecks (v : AccountVerification) : Prop :=
  (v.verifiedAt < v.expiresAt ∧ v.expiresAt ≤ v.verifiedAt + verificationMinutes) ∧
  (v.provider = .vietqr ∨ v.purpose = .transfer) ∧
  (v.purpose = .create → v.withdrawalId = none ∧ v.ownerId = v.actorId) ∧
  (v.purpose = .transfer → v.withdrawalId.isSome ∧ v.actorId ≠ v.ownerId) ∧
  (2 ≤ (sqlTrim v.accountHolder).length ∧ v.accountHolder.toList.length ≤ 160) ∧ v.normalizedAccountHolder ≠ ""

instance decidableVerificationChecks (v : AccountVerification) : Decidable (verificationChecks v) := by
  unfold verificationChecks
  infer_instance

def requestMatches (required : Bool) (v : AccountVerification) (request : Withdrawal × Recipient) : Prop :=
  request.1.ownerId = v.ownerId ∧ request.2.bankCode = v.bankCode ∧ request.2.accountNumber = v.accountNumber ∧
  names.gdsNormalizeBankName request.2.accountHolder = v.normalizedAccountHolder ∧ request.1.status.isOpen = true ∧
  (request.1.status = .processing → request.1.processingAdminId = some v.actorId) ∧
  (v.provider = .adminManual → request.2.verificationId = none ∧ required = false)

instance decidableRequestMatches (required : Bool) (v : AccountVerification) (request : Withdrawal × Recipient) :
    Decidable (requestMatches names required v request) := by
  unfold requestMatches
  infer_instance

def transferSource (db : WithdrawalDb) (v : AccountVerification) : Bool :=
  (v.withdrawalId.bind (requestOf db)).any (fun request => requestMatches names db.accountVerificationRequired v request)

def insertVerification (now : Instant) (v : AccountVerification) : WithdrawalTxn Unit := do
  let db ← get
  require (v.verifiedAt ≤ now + 1000 ∧ now < v.expiresAt ∧ v.normalizedAccountHolder = names.gdsNormalizeBankName v.accountHolder)
    (.raised "GDS verification time or name invalid")
  require (v.purpose = .transfer → transferSource names db v = true) (.raised "GDS verification request mismatch")
  require (verificationChecks v) (.check "gds_account_verifications")
  require (free (fun x => some x.id) v db.verifications) (.unique "gds_account_verifications_pkey")
  modify (fun db => { db with verifications := db.verifications ++ [v] })

def verificationBound (now : Instant) (r : Withdrawal) (p : Recipient) (proof : AccountVerification) : Prop :=
  proof.purpose = .create ∧ proof.ownerId = r.ownerId ∧ proof.actorId = r.ownerId ∧ proof.bankCode = p.bankCode ∧
  proof.accountNumber = p.accountNumber ∧ proof.accountHolder = p.accountHolder ∧ now < proof.expiresAt ∧ p.bankBin = some proof.bankBin ∧
  p.bankName = some proof.bankName ∧ p.bankShortName = some proof.bankShortName ∧ p.accountVerifiedAt = some proof.verifiedAt

instance decidableVerificationBound (now : Instant) (r : Withdrawal) (p : Recipient) (proof : AccountVerification) :
    Decidable (verificationBound now r p proof) := by
  unfold verificationBound
  infer_instance

def gdsWithdrawalVerificationGuard (now : Instant) (r : Withdrawal) (p : Recipient) : WithdrawalTxn Unit := do
  let db ← get
  match p.verificationId with
  | none => do
      require (db.accountVerificationRequired = false) (.raised "GDS recipient verification required")
      require (p.bankBin = none ∧ p.bankName = none ∧ p.bankShortName = none ∧ p.accountVerifiedAt = none)
        (.raised "GDS verification snapshot without proof")
  | some id => do
      let proof ← orThrow (verificationById db id) (.raised "GDS recipient verification binding invalid")
      require (verificationBound now r p proof) (.raised "GDS recipient verification binding invalid")

-- The row of a withdrawal with its bank columns, under the guards of both migrations.
def insertWithdrawalRow (now : Instant) (r : Withdrawal) (p : Recipient) : WithdrawalTxn Unit := do
  gdsWithdrawalVerificationGuard now r p
  let db ← get
  require (2 ≤ (sqlTrim p.accountHolder).length ∧ p.accountHolder.toList.length ≤ 160) (.check "gds_withdrawals_account_holder_check")
  require (free (fun x => x.verificationId) p db.recipients) (.unique "gds_withdrawals_verification_id_key")
  onLedger (insertWithdrawal now r)
  modify (fun db => { db with recipients := db.recipients ++ [p] })

def provesTransfer (required : Bool) (now : Instant) (actorId : Uuid) (request : Withdrawal × Recipient) (v : AccountVerification) : Prop :=
  v.withdrawalId = some request.1.id ∧ v.purpose = .transfer ∧ v.actorId = actorId ∧ v.ownerId = request.1.ownerId ∧
  v.bankCode = request.2.bankCode ∧ v.accountNumber = request.2.accountNumber ∧ now < v.expiresAt ∧
  v.normalizedAccountHolder = names.gdsNormalizeBankName request.2.accountHolder ∧
  (v.provider = .vietqr ∨ (request.2.verificationId = none ∧ required = false))

instance decidableProvesTransfer (required : Bool) (now : Instant) (actorId : Uuid) (request : Withdrawal × Recipient)
    (v : AccountVerification) : Decidable (provesTransfer names required now actorId request v) := by
  unfold provesTransfer
  infer_instance

def transferProven (db : WithdrawalDb) (now : Instant) (e : WithdrawalEvent) : Bool :=
  (requestOf db e.withdrawalId).any (fun request =>
    db.verifications.any (fun v => provesTransfer names db.accountVerificationRequired now e.actorId request v))

-- VARCHAR(500) and VARCHAR(160)
def eventWidths (e : WithdrawalEvent) : Prop :=
  e.reason.toList.length ≤ 500 ∧ e.bankTransactionRef.all (fun ref => ref.toList.length ≤ 160) = true

instance decidableEventWidths (e : WithdrawalEvent) : Decidable (eventWidths e) := by
  unfold eventWidths
  infer_instance

def insertEventRow (now : Instant) (e : WithdrawalEvent) : WithdrawalTxn Unit := do
  let db ← get
  require (eventWidths e) (.raised "value too long for type character varying")
  require (e.toStatus = .processing → transferProven names db now e = true)
    (.raised "GDS transfer recipient requires fresh matching verification")
  onLedger (insertWithdrawalEvent now e)

end Guards

end EduAi.Gds
