import EduAi.Gds.Revenue
import EduAi.Store.Runs

set_option autoImplicit false

namespace EduAi.Gds

open EduAi.Store

def createWallet (id buyerId : Uuid) : GdsTxn Unit := do
  let db ← get
  let row : Wallet := { id, buyerId, status := .active, availableMinor := 0, heldMinor := 0, debtMinor := 0 }
  require (free (fun w => some w.id) row db.wallets) (.unique "gds_internal_wallets_pkey")
  require (free (fun w => some w.buyerId) row db.wallets) (.unique "gds_internal_wallets_buyer_id_key")
  modify (fun db => { db with wallets := db.wallets ++ [row] })

def setWalletStatus (id : Uuid) (status : WalletStatus) : GdsTxn Unit := do
  let db ← get
  let w ← orThrow (walletById db id) (.missingRow "gds_internal_wallets")
  modify (replaceWallet { w with status })

-- Every statement the triggers let through at the application's trigger depth, for any row it may carry.
inductive Statement where
  | createWallet (id buyerId : Uuid)
  | setWalletStatus (id : Uuid) (status : WalletStatus)
  | createTopup (request : TopupRequest)
  | updateTopup (new : Topup)
  | createInbox (row : PayosInbox)
  | updateInbox (new : PayosInbox)
  | createReconciliation (row : PayosReconciliation)
  | insertJournal (entry : JournalEntry)
  | updateSettings (new : WithdrawalSettings)
  | insertWithdrawal (row : Withdrawal)
  | insertWithdrawalEvent (row : WithdrawalEvent)
  | createEarningPeriod (row : RevenueEarningPeriod)
  | createLedgerEntry (row : RevenueLedgerEntry)
  | createProjection (row : RevenueProjection)
  | updateProjection (new : RevenueProjection)
  | insertEffect (settled : Bool) (row : RevenueEffect)
deriving DecidableEq, Repr

def execute (now : Instant) : Statement → GdsTxn Unit
  | .createWallet id buyerId => createWallet id buyerId
  | .setWalletStatus id status => setWalletStatus id status
  | .createTopup request => createTopup now request
  | .updateTopup new => updateTopup 1 new
  | .createInbox row => createInbox row
  | .updateInbox new => updateInbox new
  | .createReconciliation row => createReconciliation row
  | .insertJournal entry => insertJournal now entry
  | .updateSettings new => updateSettings now new
  | .insertWithdrawal row => insertWithdrawal now row
  | .insertWithdrawalEvent row => insertWithdrawalEvent now row
  | .createEarningPeriod row => createEarningPeriod row
  | .createLedgerEntry row => createLedgerEntry row
  | .createProjection row => createProjection row
  | .updateProjection new => updateProjection new
  | .insertEffect settled row => insertEffect now settled row

def gdsStep (db : GdsDb) (input : Instant × Statement) : GdsDb :=
  commit (execute input.1 input.2) db

end EduAi.Gds
