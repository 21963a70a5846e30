import EduAi.Store.Txn
import EduAi.Store.Table

set_option autoImplicit false

namespace EduAi.Gds

open EduAi.Store

abbrev Uuid := String

-- Milliseconds since the epoch.
abbrev Instant := Int

def maxSafeInteger : Int := 9007199254740991

inductive Fault where
  | raised (message : String)
  | check (constraint : String)
  | unique (index : String)
  | serialization
  | foreignKey (constraint : String)
  | missingRow (table : String)
  | invariant (code : String)
  | conflict (message : String)
  | notFound (message : String)
  | forbidden (message : String)
  | badRequest (message : String)
  | unavailable (message : String)
  | provider (code : String) (retryable : Bool)
  | recovery (phase code : String)
deriving DecidableEq, Repr

inductive WalletStatus where
  | active | suspended
deriving DecidableEq, Repr

structure Wallet where
  id : Uuid
  buyerId : Uuid
  status : WalletStatus
  availableMinor : Int
  heldMinor : Int
  debtMinor : Int
deriving DecidableEq, Repr

inductive TopupStatus where
  | created | pendingPayos | payosVerified | credited | cancelled | review
deriving DecidableEq, Repr

structure Topup where
  id : Uuid
  buyerId : Uuid
  walletId : Uuid
  requestKeyHash : String
  amountMinor : Int
  currency : String
  payosOrderCode : Int
  transferMemo : String
  receivingAccountHash : String
  settlementReceivingAccountHash : Option String
  paymentLinkId : Option String
  collectionReference : Option String
  status : TopupStatus
  expiresAt : Instant
  signatureVerifiedAt : Option Instant
  providerReconciledAt : Option Instant
  creditedAt : Option Instant
  createdAt : Instant
deriving DecidableEq, Repr

inductive HoldStatus where
  | reserved | captured | released
deriving DecidableEq, Repr

structure Hold where
  walletId : Uuid
  orderRef : String
  amountMinor : Int
  status : HoldStatus
deriving DecidableEq, Repr

inductive JournalKind where
  | topupCredit | reserve | capture | release
  | withdrawalReserve | withdrawalRelease | withdrawalPaid
  | revenueCredit | revenueReversal
deriving DecidableEq, Repr

structure JournalEntry where
  walletId : Uuid
  eventKey : String
  kind : JournalKind
  amountMinor : Int
  availableDeltaMinor : Int
  heldDeltaMinor : Int
  clearingDeltaMinor : Int
  topupId : Option Uuid := none
  collectionReference : Option String := none
  orderRef : Option String := none
deriving DecidableEq, Repr

inductive InboxStatus where
  | received | processed | review
deriving DecidableEq, Repr

structure PayosInbox where
  id : Uuid
  topupId : Uuid
  providerEventIdentity : String
  payosOrderCode : Int
  paymentLinkId : String
  amountMinor : Int
  currency : String
  receivingAccount : String
  receivingAccountHash : String
  virtualReceivingAccountHash : Option String
  occurredAt : Instant
  signatureVerifiedAt : Instant
  status : InboxStatus
  attemptCount : Nat
  nextAttemptAt : Instant
  reviewReason : Option String
  processedAt : Option Instant
deriving DecidableEq, Repr

structure PayosReconciliation where
  topupId : Uuid
  inboxId : Uuid
  providerEventIdentity : String
  payosOrderCode : Int
  paymentLinkId : String
  amountMinor : Int
  currency : String
  qrReceivingAccountHash : String
  settlementReceivingAccountHash : String
  occurredAt : Instant
  signatureVerifiedAt : Instant
  providerReconciledAt : Instant
deriving DecidableEq, Repr

inductive WithdrawalStatus where
  | pending | approved | processing | paid | cancelled | rejected | failed
deriving DecidableEq, Repr

structure WithdrawalSettings where
  minimumMinor : Int
  maximumMinor : Int
  version : Int
  admissionEnabled : Bool
  processingEnabled : Bool
  revenueCutoffAt : Instant
  revenueActivatedAt : Option Instant
deriving DecidableEq, Repr

structure Withdrawal where
  id : Uuid
  walletId : Uuid
  ownerId : Uuid
  requestKeyHash : String
  amountMinor : Int
  settingsVersion : Int
  minimumMinor : Int
  maximumMinor : Int
  status : WithdrawalStatus
  processingAdminId : Option Uuid
  bankTransactionRef : Option String
  transferredAt : Option Instant
  createdAt : Instant
deriving DecidableEq, Repr

structure WithdrawalEvent where
  id : Uuid
  withdrawalId : Uuid
  actorId : Uuid
  fromStatus : Option WithdrawalStatus
  toStatus : WithdrawalStatus
  reason : String
  bankTransactionRef : Option String
  transferredAt : Option Instant
deriving DecidableEq, Repr

inductive RevenueLedgerKind where
  | recognized | refundPending | refundRecognized
deriving DecidableEq, Repr

structure RevenueEarningPeriod where
  id : Uuid
  sellerId : Uuid
  dueAt : Instant
  amountMinor : Int
deriving DecidableEq, Repr

structure RevenueLedgerEntry where
  periodId : Uuid
  sourceKey : String
  kind : RevenueLedgerKind
  amountMinor : Int
  createdAt : Instant
deriving DecidableEq, Repr

structure RevenueProjection where
  id : Uuid
  periodId : Uuid
  walletId : Uuid
  appliedNetMinor : Int
  historicalPaidMinor : Int
  reviewRequired : Bool
  reviewedById : Option Uuid
  reviewedAt : Option Instant
  reviewReason : Option String
  revision : Nat
deriving DecidableEq, Repr

structure RevenueEffect where
  id : Uuid
  projectionId : Uuid
  revision : Nat
  deltaMinor : Int
  availableDeltaMinor : Int
  debtDeltaMinor : Int
deriving DecidableEq, Repr

structure GdsDb where
  wallets : List Wallet
  topups : List Topup
  holds : List Hold
  journal : List JournalEntry
  payosInbox : List PayosInbox
  reconciliations : List PayosReconciliation
  settings : WithdrawalSettings
  withdrawals : List Withdrawal
  withdrawalEvents : List WithdrawalEvent
  periods : List RevenueEarningPeriod
  ledgerEntries : List RevenueLedgerEntry
  projections : List RevenueProjection
  effects : List RevenueEffect
deriving DecidableEq, Repr

def emptyDb (createdAt : Instant) : GdsDb where
  wallets := []
  topups := []
  holds := []
  journal := []
  payosInbox := []
  reconciliations := []
  settings :=
    { minimumMinor := 50000, maximumMinor := 10000000, version := 1, admissionEnabled := false,
      processingEnabled := false, revenueCutoffAt := createdAt, revenueActivatedAt := none }
  withdrawals := []
  withdrawalEvents := []
  periods := []
  ledgerEntries := []
  projections := []
  effects := []

abbrev GdsTxn := Txn GdsDb Fault

def walletById (db : GdsDb) (id : Uuid) : Option Wallet :=
  db.wallets.find? (fun w => w.id = id)

def walletByBuyer (db : GdsDb) (buyerId : Uuid) : Option Wallet :=
  db.wallets.find? (fun w => w.buyerId = buyerId)

def topupById (db : GdsDb) (id : Uuid) : Option Topup :=
  db.topups.find? (fun t => t.id = id)

def inboxById (db : GdsDb) (id : Uuid) : Option PayosInbox :=
  db.payosInbox.find? (fun i => i.id = id)

def withdrawalById (db : GdsDb) (id : Uuid) : Option Withdrawal :=
  db.withdrawals.find? (fun r => r.id = id)

def projectionById (db : GdsDb) (id : Uuid) : Option RevenueProjection :=
  db.projections.find? (fun p => p.id = id)

end EduAi.Gds
