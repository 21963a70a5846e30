import EduAi.Gds.Statements

set_option autoImplicit false

namespace EduAi.Gds

open EduAi.Store

def reservedHolds (db : GdsDb) (walletId : Uuid) : Int :=
  total (fun h => if h.walletId = walletId ∧ h.status = .reserved then h.amountMinor else 0) db.holds

def capturedHolds (db : GdsDb) (walletId : Uuid) : Int :=
  total (fun h => if h.walletId = walletId ∧ h.status = .captured then h.amountMinor else 0) db.holds

def openWithdrawals (db : GdsDb) (walletId : Uuid) : Int :=
  total (fun r => if r.walletId = walletId ∧ r.status.isOpen then r.amountMinor else 0) db.withdrawals

def paidWithdrawals (db : GdsDb) (walletId : Uuid) : Int :=
  total (fun r => if r.walletId = walletId ∧ r.status = .paid then r.amountMinor else 0) db.withdrawals

def creditedTopups (db : GdsDb) (walletId : Uuid) : Int :=
  total (fun t => if t.walletId = walletId ∧ t.status = .credited then t.amountMinor else 0) db.topups

def appliedNet (db : GdsDb) (walletId : Uuid) : Int :=
  total (fun p => if p.walletId = walletId then p.appliedNetMinor else 0) db.projections

def heldOwed (db : GdsDb) (walletId : Uuid) : Int :=
  reservedHolds db walletId + openWithdrawals db walletId

def netOwed (db : GdsDb) (walletId : Uuid) : Int :=
  creditedTopups db walletId - capturedHolds db walletId - paidWithdrawals db walletId + appliedNet db walletId

def Wallet.net (w : Wallet) : Int :=
  w.availableMinor + w.heldMinor - w.debtMinor

-- The two totals of walletTotalsQuery that the summary compares with the wallet's held balance.
def paymentHeldMinor (db : GdsDb) (walletId : Uuid) : Int :=
  reservedHolds db walletId

def withdrawalHeldMinor (db : GdsDb) (walletId ownerId : Uuid) : Int :=
  total (fun r => if (r.walletId = walletId ∧ r.ownerId = ownerId) ∧ r.status.isOpen then r.amountMinor else 0) db.withdrawals

def heldCheckFires (db : GdsDb) (w : Wallet) : Bool :=
  paymentHeldMinor db w.id + withdrawalHeldMinor db w.id w.buyerId != w.heldMinor

structure WalletConserved (db : GdsDb) (w : Wallet) : Prop where
  available : 0 ≤ w.availableMinor
  held : 0 ≤ w.heldMinor
  debt : 0 ≤ w.debtMinor
  heldMatches : w.heldMinor = reservedHolds db w.id + openWithdrawals db w.id
  summaryAgrees : heldCheckFires db w = false
  netMatches : w.availableMinor + w.heldMinor - w.debtMinor =
    creditedTopups db w.id - capturedHolds db w.id - paidWithdrawals db w.id + appliedNet db w.id

def walletKeys (db : GdsDb) : List (Uuid × Uuid) :=
  db.wallets.map (fun w => (w.id, w.buyerId))

def posted (db : GdsDb) (ref : String) (kind : JournalKind) : Prop :=
  ∃ j ∈ db.journal, j.orderRef = some ref ∧ j.kind = kind

-- The ledger between the statements of one trigger cascade: the wallet named by id is still short of held and net,
-- which the journal entry about to be posted moves.
structure LedgerShort (db : GdsDb) (id : Uuid) (held net : Int) : Prop where
  walletIds : UniqueKey (fun w => some w.id) db.wallets
  topupIds : UniqueKey (fun t => some t.id) db.topups
  holdRefs : UniqueKey (fun h => some h.orderRef) db.holds
  withdrawalIds : UniqueKey (fun r => some r.id) db.withdrawals
  projectionIds : UniqueKey (fun p => some p.id) db.projections
  holdWallets : ∀ h ∈ db.holds, ∃ owner, (h.walletId, owner) ∈ walletKeys db
  topupWallets : ∀ t ∈ db.topups, (t.walletId, t.buyerId) ∈ walletKeys db
  withdrawalWallets : ∀ r ∈ db.withdrawals, (r.walletId, r.ownerId) ∈ walletKeys db
  projectionWallets : ∀ p ∈ db.projections, ∃ owner, (p.walletId, owner) ∈ walletKeys db
  reservePosted : ∀ r ∈ db.withdrawals, posted db r.id .withdrawalReserve
  terminalPosted : ∀ r ∈ db.withdrawals, ∀ k, terminalKind r.status = some k → posted db r.id k
  effectPosted : ∀ e ∈ db.effects, e.availableDeltaMinor ≠ 0 → ∃ j ∈ db.journal, j.eventKey = "gds:revenue:" ++ e.id
  checks : ∀ w ∈ db.wallets, walletChecks w
  heldShort : ∀ w ∈ db.wallets, w.heldMinor + (if w.id = id then held else 0) = heldOwed db w.id
  netShort : ∀ w ∈ db.wallets, w.net + (if w.id = id then net else 0) = netOwed db w.id

def Ledger (db : GdsDb) : Prop :=
  ∀ id, LedgerShort db id 0 0

theorem ledger_of_short (db : GdsDb) (id : Uuid) (short : LedgerShort db id 0 0) : Ledger db := by
  intro other
  refine { short with heldShort := ?_, netShort := ?_ }
  · intro w hw
    simpa using short.heldShort w hw
  · intro w hw
    simpa using short.netShort w hw

theorem walletKeys_updateWhere (p : Wallet → Bool) (f : Wallet → Wallet) (rows : List Wallet)
    (keeps : ∀ w ∈ rows, p w = true → (f w).id = w.id ∧ (f w).buyerId = w.buyerId) :
    (updateWhere p f rows).map (fun w => (w.id, w.buyerId)) = rows.map (fun w => (w.id, w.buyerId)) := by
  unfold updateWhere
  rw [List.map_map]
  apply List.map_congr_left
  intro w hw
  by_cases hp : p w = true
  · simp [hp, keeps w hw hp]
  · simp [hp]

@[simp] theorem heldOwed_replaceWallet (w : Wallet) (db : GdsDb) (id : Uuid) :
    heldOwed (replaceWallet w db) id = heldOwed db id := rfl

@[simp] theorem netOwed_replaceWallet (w : Wallet) (db : GdsDb) (id : Uuid) :
    netOwed (replaceWallet w db) id = netOwed db id := rfl

theorem replaceWallet_short (db : GdsDb) (w new : Wallet) (held net held' net' : Int) (short : LedgerShort db w.id held net)
    (hw : w ∈ db.wallets) (sameId : new.id = w.id) (sameBuyer : new.buyerId = w.buyerId) (checked : walletChecks new)
    (heldMoved : new.heldMinor + held' = w.heldMinor + held) (netMoved : new.net + net' = w.net + net) :
    LedgerShort (replaceWallet new db) w.id held' net' := by
  have only : ∀ x ∈ db.wallets, (decide (x.id = new.id)) = true → x = w := by
    intro x hx same
    have keyed : x.id = w.id := by simpa [sameId] using same
    exact unique_eq _ db.wallets short.walletIds x w w.id hx hw (by rw [keyed]) rfl
  have keys : walletKeys (replaceWallet new db) = walletKeys db := by
    apply walletKeys_updateWhere
    intro x hx same
    rw [only x hx same]
    exact ⟨sameId, sameBuyer⟩
  have rows : ∀ x ∈ (replaceWallet new db).wallets, x = new ∨ (x ∈ db.wallets ∧ x.id ≠ w.id) := by
    intro x hx
    obtain ⟨old, hold, rfl⟩ := (mem_updateWhere _ _ _ _).mp hx
    by_cases same : old.id = new.id
    · left
      simp [same]
    · right
      simp only [same, decide_false, Bool.false_eq_true, if_false]
      exact ⟨hold, fun eq => same (eq.trans sameId.symm)⟩
  refine { short with
    walletIds := ?_, holdWallets := ?_, topupWallets := ?_, withdrawalWallets := ?_, projectionWallets := ?_,
    checks := ?_, heldShort := ?_, netShort := ?_ }
  · apply unique_updateWhere _ _ _ _ short.walletIds
    intro x hx same
    rw [only x hx same, sameId]
  · rw [keys]
    exact short.holdWallets
  · rw [keys]
    exact short.topupWallets
  · rw [keys]
    exact short.withdrawalWallets
  · rw [keys]
    exact short.projectionWallets
  · intro x hx
    rcases rows x hx with rfl | ⟨old, _⟩
    · exact checked
    · exact short.checks x old
  · intro x hx
    rcases rows x hx with rfl | ⟨old, other⟩
    · have before := short.heldShort w hw
      simp only [if_true, sameId] at before ⊢
      rw [heldMoved]
      exact before
    · have before := short.heldShort x old
      simpa [other] using before
  · intro x hx
    rcases rows x hx with rfl | ⟨old, other⟩
    · have before := short.netShort w hw
      simp only [if_true, sameId] at before ⊢
      rw [netMoved]
      exact before
    · have before := short.netShort x old
      simpa [other] using before

theorem moveWallet_settles (db : GdsDb) (onlyActive : Bool) (id : Uuid) (available held : Int) (unavailable : Fault)
    (short : LedgerShort db id held (available + held)) :
    Wlp (moveWallet onlyActive id available held unavailable) (fun _ => Ledger) db := by
  unfold moveWallet
  simp only [wlp_bind, wlp_get, wlp_orThrow, wlp_require, wlp_modify]
  intro w found checked
  obtain ⟨hw, matched⟩ := find_some _ _ _ found
  have mine : w.id = id := by simpa using (of_decide_eq_true matched).1
  subst mine
  apply ledger_of_short _ w.id
  exact replaceWallet_short db w (w.moved available held) held (available + held) 0 0 short hw rfl rfl checked
    (by simp [Wallet.moved]) (by simp only [Wallet.moved, Wallet.net]; ring)

def postEntry (j : JournalEntry) (db : GdsDb) : GdsDb :=
  { db with journal := db.journal ++ [j] }

theorem posted_postEntry (db : GdsDb) (j : JournalEntry) (ref : String) (kind : JournalKind) (before : posted db ref kind) :
    posted (postEntry j db) ref kind := by
  obtain ⟨e, he, matched⟩ := before
  exact ⟨e, List.mem_append_left _ he, matched⟩

theorem postEntry_short (db : GdsDb) (j : JournalEntry) (id : Uuid) (held net : Int) (short : LedgerShort db id held net) :
    LedgerShort (postEntry j db) id held net := by
  refine { short with reservePosted := ?_, terminalPosted := ?_, effectPosted := ?_ }
  · intro r hr
    exact posted_postEntry db j _ _ (short.reservePosted r hr)
  · intro r hr k terminal
    exact posted_postEntry db j _ _ (short.terminalPosted r hr k terminal)
  · intro e he moved
    obtain ⟨x, hx, keyed⟩ := short.effectPosted e he moved
    exact ⟨x, List.mem_append_left _ hx, keyed⟩

theorem mem_walletKeys (db : GdsDb) (id : Uuid) (found : db.wallets.any (fun w => w.id = id) = true) :
    ∃ owner, (id, owner) ∈ walletKeys db := by
  obtain ⟨w, hw, same⟩ := List.any_eq_true.mp found
  exact ⟨w.buyerId, List.mem_map.mpr ⟨w, hw, by simp [of_decide_eq_true same]⟩⟩

theorem createHold_short (db : GdsDb) (j : JournalEntry) (orderRef : String) (ledger : Ledger db)
    (wallet : ∃ owner, (j.walletId, owner) ∈ walletKeys db) :
    Wlp (createHold j orderRef) (fun _ db' => LedgerShort db' j.walletId j.amountMinor 0) db := by
  unfold createHold
  simp only [wlp_bind, wlp_get, wlp_require, wlp_modify]
  intro fresh
  have short := ledger j.walletId
  refine { short with holdRefs := ?_, holdWallets := ?_, heldShort := ?_, netShort := ?_ }
  · exact unique_append _ _ _ short.holdRefs fresh
  · intro h hh
    rcases List.mem_append.mp hh with old | new
    · exact short.holdWallets h old
    · rw [List.mem_singleton.mp new]
      exact wallet
  · intro w hw
    have before := short.heldShort w hw
    by_cases mine : w.id = j.walletId
    · simp only [heldOwed, reservedHolds, openWithdrawals, total_append_one, mine] at before ⊢
      simp only [if_true, and_self] at before ⊢
      omega
    · have other : ¬ j.walletId = w.id := fun eq => mine eq.symm
      simp only [heldOwed, reservedHolds, openWithdrawals, total_append_one, mine, other] at before ⊢
      simpa using before
  · intro w hw
    have before := short.netShort w hw
    simpa [netOwed, creditedTopups, capturedHolds, paidWithdrawals, appliedNet] using before

theorem closeHold_short (db : GdsDb) (j : JournalEntry) (status : HoldStatus) (ledger : Ledger db)
    (closed : status = .captured ∨ status = .released) :
    Wlp (closeHold j status)
      (fun _ db' => LedgerShort db' j.walletId (-j.amountMinor) (if status = .captured then -j.amountMinor else 0)) db := by
  unfold closeHold
  simp only [wlp_bind, wlp_get, wlp_require, wlp_modify]
  intro found
  obtain ⟨h, hh, matched⟩ := List.any_eq_true.mp found
  have matched : holdMatches j h := by simpa using matched
  obtain ⟨wallet, ref, amount, reserved⟩ := matched
  have short := ledger j.walletId
  have moved : ∀ g : Hold → Int, total g (updateWhere (fun h => decide (holdMatches j h)) (fun h => { h with status }) db.holds) =
      total g db.holds + (g { h with status } - g h) := by
    intro g
    refine total_updateWhere_one g (fun h => some h.orderRef) _ _ _ short.holdRefs h h.orderRef hh ?_ rfl ?_
    · simp [holdMatches, wallet, ref, amount, reserved]
    · intro x hx same
      have same : holdMatches j x := by simpa using same
      rw [same.2.1, ref]
  refine { short with holdRefs := ?_, holdWallets := ?_, heldShort := ?_, netShort := ?_ }
  · exact unique_updateWhere _ _ _ _ short.holdRefs (fun _ _ _ => rfl)
  · intro x hx
    obtain ⟨old, hold, rfl⟩ := (mem_updateWhere _ _ _ _).mp hx
    have before := short.holdWallets old hold
    split <;> exact before
  · intro w hw
    have before := short.heldShort w hw
    simp only [heldOwed, reservedHolds, openWithdrawals, moved] at before ⊢
    by_cases mine : w.id = j.walletId
    · have target : h.walletId = w.id := by rw [wallet, mine]
      rcases closed with rfl | rfl <;> simp only [mine, target, reserved, if_true, and_true, reduceCtorEq, and_false,
          if_false] at before ⊢ <;> omega
    · have other : ¬ h.walletId = w.id := fun eq => mine (by rw [← eq, wallet])
      simpa [mine, other] using before
  · intro w hw
    have before := short.netShort w hw
    simp only [netOwed, creditedTopups, capturedHolds, paidWithdrawals, appliedNet, moved] at before ⊢
    by_cases mine : w.id = j.walletId
    · have target : h.walletId = w.id := by rw [wallet, mine]
      rcases closed with rfl | rfl <;> simp only [mine, target, reserved, if_true, and_true, reduceCtorEq, and_false,
          if_false] at before ⊢ <;> omega
    · have other : ¬ h.walletId = w.id := fun eq => mine (by rw [← eq, wallet])
      simpa [mine, other] using before

theorem creditTopup_short (now : Instant) (db : GdsDb) (j : JournalEntry) (ledger : Ledger db) :
    Wlp (creditTopup now j) (fun _ db' => LedgerShort db' j.walletId 0 j.amountMinor) db := by
  unfold creditTopup updateTopup gdsInternalTopupSettlementGuard gdsInternalTopupGuard
  simp only [wlp_bind, wlp_get, wlp_orThrow, wlp_require, wlp_modify]
  intro t found source old foundOld _ _ _ _ _ _ _ _ _ _
  have short := ledger j.walletId
  obtain ⟨ht, _⟩ := find_some _ _ _ found
  obtain ⟨verified, wallet, amount, _⟩ := source
  have only : ∀ x ∈ db.topups, decide (x.id = (t.creditedRow now).id) = true → x = t := by
    intro x hx same
    exact unique_eq _ db.topups short.topupIds x t t.id hx ht (by rw [of_decide_eq_true same]; rfl) rfl
  have moved : ∀ g : Topup → Int, total g (replaceTopup (t.creditedRow now) db).topups =
      total g db.topups + (g (t.creditedRow now) - g t) := by
    intro g
    refine total_updateWhere_one g (fun t => some t.id) _ _ _ short.topupIds t t.id ht ?_ rfl ?_
    · simp [Topup.creditedRow]
    · intro x hx same
      rw [only x hx same]
  refine { short with topupIds := ?_, topupWallets := ?_, heldShort := ?_, netShort := ?_ }
  · apply unique_updateWhere _ _ _ _ short.topupIds
    intro x hx same
    rw [only x hx same]
    rfl
  · intro x hx
    obtain ⟨old, hold, rfl⟩ := (mem_updateWhere _ _ _ _).mp hx
    split
    · exact short.topupWallets t ht
    · exact short.topupWallets old hold
  · intro w hw
    have before := short.heldShort w hw
    simpa [heldOwed, reservedHolds, openWithdrawals, replaceTopup] using before
  · intro w hw
    have before := short.netShort w hw
    simp only [netOwed, creditedTopups, moved] at before ⊢
    simp only [capturedHolds, paidWithdrawals, appliedNet, replaceTopup, Topup.creditedRow] at before ⊢
    by_cases mine : w.id = j.walletId
    · have target : t.walletId = w.id := by rw [wallet, mine]
      simp only [mine, target, verified, if_true, and_true, reduceCtorEq, and_false, if_false] at before ⊢
      omega
    · have other : ¬ t.walletId = w.id := fun eq => mine (by rw [← eq, wallet])
      simpa [mine, other] using before

theorem gdsInternalApplyJournal_settles (now : Instant) (db : GdsDb) (j : JournalEntry) (ledger : Ledger db)
    (checked : postingCheck j) (original : j.kind.isOriginal = true) (wallet : ∃ owner, (j.walletId, owner) ∈ walletKeys db) :
    Wlp (gdsInternalApplyJournal now j) (fun _ => Ledger) db := by
  unfold gdsInternalApplyJournal applySource
  rw [wlp_bind]
  unfold postingCheck at checked
  cases kind : j.kind with
  | topupCredit =>
      simp only [kind] at checked ⊢
      refine wlp_mono _ _ (creditTopup_short now db j ledger) ?_
      intro _ db' short
      apply moveWallet_settles
      simpa [checked.1, checked.2.1] using short
  | reserve =>
      simp only [kind] at checked ⊢
      simp only [wlp_bind, wlp_orThrow]
      intro orderRef _
      refine wlp_mono _ _ (createHold_short db j orderRef ledger wallet) ?_
      intro _ db' short
      apply moveWallet_settles
      simpa [checked.1, checked.2.1] using short
  | capture =>
      simp only [kind] at checked ⊢
      refine wlp_mono _ _ (closeHold_short db j .captured ledger (Or.inl rfl)) ?_
      intro _ db' short
      apply moveWallet_settles
      simpa [checked.1, checked.2.1] using short
  | release =>
      simp only [kind] at checked ⊢
      refine wlp_mono _ _ (closeHold_short db j .released ledger (Or.inr rfl)) ?_
      intro _ db' short
      apply moveWallet_settles
      simpa [checked.1, checked.2.1] using short
  | withdrawalReserve => simp [kind, JournalKind.isOriginal] at original
  | withdrawalRelease => simp [kind, JournalKind.isOriginal] at original
  | withdrawalPaid => simp [kind, JournalKind.isOriginal] at original
  | revenueCredit => simp [kind, JournalKind.isOriginal] at original
  | revenueReversal => simp [kind, JournalKind.isOriginal] at original

theorem gdsExtendedJournalApply_settles (db : GdsDb) (j : JournalEntry)
    (short : LedgerShort db j.walletId j.heldDeltaMinor (j.availableDeltaMinor + j.heldDeltaMinor)) :
    Wlp (gdsExtendedJournalApply j) (fun _ => Ledger) db := by
  unfold gdsExtendedJournalApply extendedSource
  simp only [wlp_bind, wlp_get, wlp_ite, wlp_orThrow, wlp_require]
  refine ⟨?_, ?_⟩
  · intro _ r _ _
    exact moveWallet_settles db false j.walletId _ _ _ short
  · intro _ _
    exact moveWallet_settles db false j.walletId _ _ _ short

theorem insertJournal_settles (now : Instant) (db : GdsDb) (j : JournalEntry) (extended : j.kind.isOriginal = false)
    (short : LedgerShort (postEntry j db) j.walletId j.heldDeltaMinor (j.availableDeltaMinor + j.heldDeltaMinor)) :
    Wlp (insertJournal now j) (fun _ => Ledger) db := by
  unfold insertJournal
  simp only [wlp_bind, wlp_get, wlp_require, wlp_modify, extended, Bool.false_eq_true, if_false]
  intro _ _ _ _ _ _ _
  exact gdsExtendedJournalApply_settles (postEntry j db) j short

-- A statement of the application cannot post a withdrawal or revenue entry of its own: the entry that the
-- withdrawal or the effect posted already holds its unique key.
theorem extended_entry_taken (db : GdsDb) (j : JournalEntry) (ledger : Ledger db) (checked : journalChecks j)
    (extended : j.kind.isOriginal = false) (freshKey : free (fun e => some e.eventKey) j db.journal = true)
    (freshPosting : free withdrawalPosting j db.journal = true) (Q : Unit → GdsDb → Prop) :
    Wlp (gdsExtendedJournalApply j) Q (postEntry j db) := by
  have short := ledger j.walletId
  unfold gdsExtendedJournalApply extendedSource
  simp only [wlp_bind, wlp_get, wlp_ite, wlp_orThrow, wlp_require]
  refine ⟨?_, ?_⟩
  · intro withdrawal r found source
    exfalso
    obtain ⟨hr, ref⟩ := find_some _ _ _ found
    have hr : r ∈ db.withdrawals := hr
    have ref : some r.id = j.orderRef := by simpa using ref
    have taken : posted db r.id j.kind := by
      obtain ⟨_, _, pending, released, paid⟩ := source
      cases kind : j.kind with
      | withdrawalReserve => exact short.reservePosted r hr
      | withdrawalRelease =>
          have closed := released kind
          simp only [List.mem_cons, List.not_mem_nil, or_false] at closed
          apply short.terminalPosted r hr
          rcases closed with status | status | status <;> rw [status] <;> rfl
      | withdrawalPaid =>
          apply short.terminalPosted r hr
          rw [paid kind]
          rfl
      | topupCredit => simp [kind, JournalKind.isWithdrawal] at withdrawal
      | reserve => simp [kind, JournalKind.isWithdrawal] at withdrawal
      | capture => simp [kind, JournalKind.isWithdrawal] at withdrawal
      | release => simp [kind, JournalKind.isWithdrawal] at withdrawal
      | revenueCredit => simp [kind, JournalKind.isWithdrawal] at withdrawal
      | revenueReversal => simp [kind, JournalKind.isWithdrawal] at withdrawal
    obtain ⟨e, he, sameRef, sameKind⟩ := taken
    refine (free_iff _ _ _).mp freshPosting e he (r.id, j.kind) ?_ ?_
    · simp [withdrawalPosting, withdrawal, ← ref]
    · simp [withdrawalPosting, sameKind, withdrawal, sameRef]
  · intro revenue source
    exfalso
    obtain ⟨e, he, projected⟩ := List.any_eq_true.mp source
    obtain ⟨p, _, matched⟩ := List.any_eq_true.mp projected
    have matched := of_decide_eq_true matched
    obtain ⟨_, _, _, available, key⟩ := matched
    have moved : j.availableDeltaMinor ≠ 0 := by
      obtain ⟨positive, _, posting⟩ := checked
      unfold postingCheck at posting
      cases kind : j.kind <;> simp only [kind, JournalKind.isOriginal, JournalKind.isWithdrawal, not_true_eq_false,
          Bool.true_eq_false] at posting extended revenue <;> omega
    obtain ⟨x, hx, sameKey⟩ := short.effectPosted e he (by rw [available]; exact moved)
    exact (free_iff _ _ _).mp freshKey x hx j.eventKey rfl (by rw [sameKey, key])

theorem insertJournal_ledger (now : Instant) (db : GdsDb) (j : JournalEntry) (ledger : Ledger db) :
    Wlp (insertJournal now j) (fun _ => Ledger) db := by
  unfold insertJournal
  simp only [wlp_bind, wlp_get, wlp_require, wlp_modify, wlp_ite]
  intro checked wallet _ freshKey _ _ freshPosting
  refine ⟨?_, ?_⟩
  · intro original
    refine gdsInternalApplyJournal_settles now (postEntry j db) j ?_ checked.2.2 original (mem_walletKeys db _ wallet)
    intro id
    exact postEntry_short db j id 0 0 (ledger id)
  · intro extended
    exact extended_entry_taken db j ledger checked (by simpa using extended) freshKey freshPosting _

def openShare (r : Withdrawal) : Int :=
  if r.status.isOpen then r.amountMinor else 0

def paidShare (r : Withdrawal) : Int :=
  if r.status = .paid then r.amountMinor else 0

theorem openWithdrawals_eq (db : GdsDb) (id : Uuid) :
    openWithdrawals db id = total (fun r => if r.walletId = id then openShare r else 0) db.withdrawals := by
  apply total_congr
  intro r _
  by_cases mine : r.walletId = id <;> simp [openShare, mine]

theorem paidWithdrawals_eq (db : GdsDb) (id : Uuid) :
    paidWithdrawals db id = total (fun r => if r.walletId = id then paidShare r else 0) db.withdrawals := by
  apply total_congr
  intro r _
  by_cases mine : r.walletId = id <;> simp [paidShare, mine]

theorem replaceWithdrawal_short (db : GdsDb) (r new : Withdrawal) (ledger : Ledger db) (hr : r ∈ db.withdrawals)
    (sameId : new.id = r.id) (sameWallet : new.walletId = r.walletId) (sameOwner : new.ownerId = r.ownerId)
    (terminal : ∀ k, terminalKind new.status = some k → posted db new.id k) :
    LedgerShort (replaceWithdrawal new db) r.walletId (openShare new - openShare r) (paidShare r - paidShare new) := by
  have short := ledger r.walletId
  have only : ∀ x ∈ db.withdrawals, decide (x.id = new.id) = true → x = r := by
    intro x hx same
    exact unique_eq _ db.withdrawals short.withdrawalIds x r r.id hx hr (by rw [of_decide_eq_true same, sameId]) rfl
  have moved : ∀ g : Withdrawal → Int, total g (replaceWithdrawal new db).withdrawals = total g db.withdrawals + (g new - g r) := by
    intro g
    refine total_updateWhere_one g (fun r => some r.id) _ _ _ short.withdrawalIds r r.id hr ?_ rfl ?_
    · simp [sameId]
    · intro x hx same
      rw [only x hx same]
  have rows : ∀ x ∈ (replaceWithdrawal new db).withdrawals, x = new ∨ x ∈ db.withdrawals := by
    intro x hx
    obtain ⟨old, hold, rfl⟩ := (mem_updateWhere _ _ _ _).mp hx
    split
    · exact Or.inl rfl
    · exact Or.inr hold
  refine { short with
    withdrawalIds := ?_, withdrawalWallets := ?_, reservePosted := ?_, terminalPosted := ?_, heldShort := ?_, netShort := ?_ }
  · apply unique_updateWhere _ _ _ _ short.withdrawalIds
    intro x hx same
    rw [only x hx same, sameId]
  · intro x hx
    rcases rows x hx with rfl | old
    · rw [sameWallet, sameOwner]
      exact short.withdrawalWallets r hr
    · exact short.withdrawalWallets x old
  · intro x hx
    rcases rows x hx with rfl | old
    · rw [sameId]
      exact short.reservePosted r hr
    · exact short.reservePosted x old
  · intro x hx
    rcases rows x hx with rfl | old
    · exact terminal
    · exact short.terminalPosted x old
  · intro w hw
    have before := short.heldShort w hw
    simp only [heldOwed, openWithdrawals_eq, moved, sameWallet] at before ⊢
    simp only [reservedHolds, replaceWithdrawal] at before ⊢
    by_cases mine : w.id = r.walletId
    · simp only [mine, if_true] at before ⊢
      omega
    · have other : ¬ r.walletId = w.id := fun eq => mine eq.symm
      simpa [mine, other] using before
  · intro w hw
    have before := short.netShort w hw
    simp only [netOwed, paidWithdrawals_eq, moved, sameWallet] at before ⊢
    simp only [creditedTopups, capturedHolds, appliedNet, replaceWithdrawal] at before ⊢
    by_cases mine : w.id = r.walletId
    · simp only [mine, if_true] at before ⊢
      omega
    · have other : ¬ r.walletId = w.id := fun eq => mine eq.symm
      simpa [mine, other] using before

theorem postEntry_replaceWithdrawal (db : GdsDb) (j : JournalEntry) (r : Withdrawal) :
    postEntry j (replaceWithdrawal r db) = replaceWithdrawal r (postEntry j db) := rfl

theorem insertWithdrawal_ledger (now : Instant) (db : GdsDb) (r : Withdrawal) (ledger : Ledger db) :
    Wlp (insertWithdrawal now r) (fun _ => Ledger) db := by
  unfold insertWithdrawal
  simp only [wlp_bind, wlp_get, wlp_orThrow, wlp_require, wlp_modify]
  intro w found admitted _ fresh _
  obtain ⟨hw, same⟩ := find_some _ _ _ found
  have same : w.id = r.walletId := of_decide_eq_true same
  obtain ⟨owner, _, _, _, _, _, pending, _⟩ := admitted
  have opened : openShare r = r.amountMinor := by simp [openShare, pending, WithdrawalStatus.isOpen]
  have unpaid : paidShare r = 0 := by simp [paidShare, pending]
  apply insertJournal_settles now _ (reservePosting r) rfl
  have short := ledger r.walletId
  refine { short with
    withdrawalIds := ?_, withdrawalWallets := ?_, reservePosted := ?_, terminalPosted := ?_, effectPosted := ?_,
    heldShort := ?_, netShort := ?_ }
  · exact unique_append _ _ _ short.withdrawalIds fresh
  · intro x hx
    rcases List.mem_append.mp hx with old | new
    · exact short.withdrawalWallets x old
    · rw [List.mem_singleton.mp new]
      exact List.mem_map.mpr ⟨w, hw, by rw [same, owner]⟩
  · intro x hx
    rcases List.mem_append.mp hx with old | new
    · exact posted_postEntry db _ _ _ (short.reservePosted x old)
    · rw [List.mem_singleton.mp new]
      exact ⟨reservePosting r, List.mem_append_right _ (List.mem_singleton.mpr rfl), rfl, rfl⟩
  · intro x hx k terminal
    rcases List.mem_append.mp hx with old | new
    · exact posted_postEntry db _ _ _ (short.terminalPosted x old k terminal)
    · rw [List.mem_singleton.mp new, pending] at terminal
      cases terminal
  · intro e he moved
    obtain ⟨x, hx, keyed⟩ := short.effectPosted e he moved
    exact ⟨x, List.mem_append_left _ hx, keyed⟩
  · intro w hw
    have before := short.heldShort w hw
    simp only [heldOwed, openWithdrawals_eq, postEntry, total_append_one, opened] at before ⊢
    simp only [reservedHolds, reservePosting] at before ⊢
    by_cases mine : w.id = r.walletId
    · simp only [mine, if_true] at before ⊢
      omega
    · have other : ¬ r.walletId = w.id := fun eq => mine eq.symm
      simpa [mine, other] using before
  · intro w hw
    have before := short.netShort w hw
    simp only [netOwed, paidWithdrawals_eq, postEntry, total_append_one, unpaid] at before ⊢
    simp only [creditedTopups, capturedHolds, appliedNet, reservePosting] at before ⊢
    by_cases mine : w.id = r.walletId
    · simp only [mine, if_true] at before ⊢
      omega
    · have other : ¬ r.walletId = w.id := fun eq => mine eq.symm
      simpa [mine, other] using before

theorem moveWithdrawal_ledger (now : Instant) (db : GdsDb) (r : Withdrawal) (from_ : WithdrawalStatus) (e : WithdrawalEvent)
    (ledger : Ledger db) (hr : r ∈ db.withdrawals) : Wlp (moveWithdrawal now r from_ e) (fun _ => Ledger) db := by
  unfold moveWithdrawal
  simp only [wlp_bind, wlp_get, wlp_require, wlp_modify]
  intro moves _ _ _ _ _ _ _ _
  have opened : openShare r = r.amountMinor ∧ paidShare r = 0 := by
    obtain ⟨_, allowed⟩ := moves
    unfold openShare paidShare
    cases status : r.status <;> simp [status, withdrawalMayMove, WithdrawalStatus.isOpen] at allowed ⊢
  cases terminal : terminalKind e.toStatus with
  | none =>
      rw [wlp_pure]
      have stays : openShare (r.after e) = r.amountMinor ∧ paidShare (r.after e) = 0 := by
        unfold openShare paidShare Withdrawal.after
        cases status : e.toStatus <;> simp [status, terminalKind, WithdrawalStatus.isOpen] at terminal ⊢
      apply ledger_of_short _ r.walletId
      have short := replaceWithdrawal_short db r (r.after e) ledger hr rfl rfl rfl (by
        intro k some
        rw [show (r.after e).status = e.toStatus from rfl, terminal] at some
        cases some)
      simpa [opened.1, opened.2, stays.1, stays.2] using short
  | some k =>
      have closed : openShare (r.after e) = 0 ∧ paidShare (r.after e) = (if k = .withdrawalPaid then r.amountMinor else 0) ∧
          (k = .withdrawalPaid ∨ k = .withdrawalRelease) := by
        unfold openShare paidShare Withdrawal.after
        cases status : e.toStatus <;> simp [status, terminalKind, WithdrawalStatus.isOpen] at terminal ⊢ <;> simp [← terminal]
      obtain ⟨closed, paid, kind⟩ := closed
      have postedLedger : Ledger (postEntry (terminalPosting r k) db) :=
        fun id => postEntry_short db _ id 0 0 (ledger id)
      apply insertJournal_settles now _ (terminalPosting r k) (by rcases kind with rfl | rfl <;> rfl)
      have short := replaceWithdrawal_short (postEntry (terminalPosting r k) db) r (r.after e) postedLedger hr rfl rfl rfl (by
        intro k' same
        rw [show (r.after e).status = e.toStatus from rfl, terminal] at same
        cases same
        exact ⟨terminalPosting r k, List.mem_append_right _ (List.mem_singleton.mpr rfl), rfl, rfl⟩)
      rw [opened.1, opened.2, closed, paid] at short
      rw [postEntry_replaceWithdrawal]
      rcases kind with rfl | rfl <;> simpa [terminalPosting] using short

theorem insertWithdrawalEvent_ledger (now : Instant) (db : GdsDb) (e : WithdrawalEvent) (ledger : Ledger db) :
    Wlp (insertWithdrawalEvent now e) (fun _ => Ledger) db := by
  unfold insertWithdrawalEvent
  simp only [wlp_bind, wlp_get, wlp_require, wlp_modify, wlp_orThrow]
  intro _ _ r found
  obtain ⟨hr, _⟩ := find_some _ _ _ found
  have kept : Ledger { db with withdrawalEvents := db.withdrawalEvents ++ [e] } := fun id => { ledger id with }
  cases e.fromStatus with
  | none =>
      simp only [wlp_require]
      intro _
      exact kept
  | some from_ => exact moveWithdrawal_ledger now _ r from_ e kept hr

theorem split_balanced (target : Int) (p : RevenueProjection) (w : Wallet) :
    (revenueSplit target p w).cash - (revenueSplit target p w).debt = target - p.historicalPaidMinor - p.appliedNetMinor := by
  unfold revenueSplit
  dsimp only
  split <;> dsimp only <;> ring

theorem replaceProjection_short (db : GdsDb) (p new : RevenueProjection) (ledger : Ledger db) (hp : p ∈ db.projections)
    (sameId : new.id = p.id) (sameWallet : new.walletId = p.walletId) :
    LedgerShort (replaceProjection new db) p.walletId 0 (new.appliedNetMinor - p.appliedNetMinor) := by
  have short := ledger p.walletId
  have only : ∀ x ∈ db.projections, decide (x.id = new.id) = true → x = p := by
    intro x hx same
    exact unique_eq _ db.projections short.projectionIds x p p.id hx hp (by rw [of_decide_eq_true same, sameId]) rfl
  have moved : ∀ g : RevenueProjection → Int,
      total g (replaceProjection new db).projections = total g db.projections + (g new - g p) := by
    intro g
    refine total_updateWhere_one g (fun p => some p.id) _ _ _ short.projectionIds p p.id hp ?_ rfl ?_
    · simp [sameId]
    · intro x hx same
      rw [only x hx same]
  refine { short with projectionIds := ?_, projectionWallets := ?_, heldShort := ?_, netShort := ?_ }
  · apply unique_updateWhere _ _ _ _ short.projectionIds
    intro x hx same
    rw [only x hx same, sameId]
  · intro x hx
    obtain ⟨old, hold, rfl⟩ := (mem_updateWhere _ _ _ _).mp hx
    split
    · rw [sameWallet]
      exact short.projectionWallets p hp
    · exact short.projectionWallets old hold
  · intro w hw
    have before := short.heldShort w hw
    simpa [heldOwed, reservedHolds, openWithdrawals, replaceProjection] using before
  · intro w hw
    have before := short.netShort w hw
    simp only [netOwed, appliedNet, moved, sameWallet] at before ⊢
    simp only [creditedTopups, capturedHolds, paidWithdrawals, replaceProjection] at before ⊢
    by_cases mine : w.id = p.walletId
    · simp only [mine, if_true] at before ⊢
      omega
    · have other : ¬ p.walletId = w.id := fun eq => mine eq.symm
      simpa [mine, other] using before

theorem recordEffect_short (db : GdsDb) (e : RevenueEffect) (id : Uuid) (held net : Int) (short : LedgerShort db id held net)
    (covered : e.availableDeltaMinor ≠ 0 → ∃ j ∈ db.journal, j.eventKey = "gds:revenue:" ++ e.id) :
    LedgerShort (recordEffect e db) id held net := by
  refine { short with effectPosted := ?_ }
  intro x hx moved
  rcases List.mem_append.mp hx with old | new
  · exact short.effectPosted x old moved
  · rw [List.mem_singleton.mp new] at moved ⊢
    exact covered moved

theorem revenuePosting_extended (w : Wallet) (e : RevenueEffect) (cash : Int) :
    (revenuePosting w e cash).kind.isOriginal = false := by
  unfold revenuePosting
  simp only
  split <;> rfl

theorem postRevenueSplit_ledger (now : Instant) (db : GdsDb) (e : RevenueEffect) (p : RevenueProjection) (w : Wallet)
    (target : Int) (ledger : Ledger db) (hp : p ∈ db.projections) (hw : w ∈ db.wallets) (sameWallet : w.id = p.walletId) :
    Wlp (postRevenueSplit now e p w target) (fun _ => Ledger) (recordEffect e db) := by
  unfold postRevenueSplit
  simp only [wlp_bind, wlp_require, wlp_modify, wlp_ite]
  have balanced := split_balanced target p w
  generalize revenueSplit target p w = s at *
  intro matched checked
  -- The projection takes the whole delta, the debt its share; what is left short is the cash of the entry.
  have short : LedgerShort (replaceWallet (w.owing s.debt) (replaceProjection (p.applied (target - p.historicalPaidMinor) e.revision) db))
      w.id 0 s.cash := by
    refine replaceWallet_short _ w (w.owing s.debt) 0 (target - p.historicalPaidMinor - p.appliedNetMinor) 0 s.cash ?_ hw rfl
      rfl checked rfl ?_
    · rw [sameWallet]
      exact replaceProjection_short db p _ ledger hp rfl rfl
    · simp only [Wallet.owing, Wallet.net]
      omega
  refine ⟨?_, ?_⟩
  · intro moves
    apply insertJournal_settles now _ (revenuePosting w e s.cash) (revenuePosting_extended w e s.cash)
    have postedShort := postEntry_short _ (revenuePosting w e s.cash) w.id 0 s.cash short
    have recorded := recordEffect_short _ e w.id 0 s.cash postedShort (fun _ =>
      ⟨revenuePosting w e s.cash, List.mem_append_right _ (List.mem_singleton.mpr rfl), rfl⟩)
    have cashOnly : (revenuePosting w e s.cash).availableDeltaMinor + (revenuePosting w e s.cash).heldDeltaMinor = s.cash :=
      Int.add_zero s.cash
    rw [cashOnly]
    exact recorded
  · intro still
    have still : s.cash = 0 := by simpa using still
    rw [wlp_pure]
    apply ledger_of_short _ w.id
    refine recordEffect_short _ e w.id 0 0 (still ▸ short) ?_
    intro moved
    exact absurd (matched.2.1.trans still) moved

theorem insertEffect_ledger (now : Instant) (settled : Bool) (db : GdsDb) (e : RevenueEffect) (ledger : Ledger db) :
    Wlp (insertEffect now settled e) (fun _ => Ledger) db := by
  unfold insertEffect gdsRevenueEffectApply
  simp only [wlp_bind, wlp_get, wlp_require, wlp_modify, wlp_orThrow]
  intro _ _ _ p foundP _ w foundW _
  obtain ⟨hp, _⟩ := find_some _ _ _ foundP
  obtain ⟨hw, sameWallet⟩ := find_some _ _ _ foundW
  exact postRevenueSplit_ledger now db e p w _ ledger hp hw (of_decide_eq_true sameWallet)

theorem createWallet_ledger (db : GdsDb) (id buyerId : Uuid) (ledger : Ledger db) :
    Wlp (createWallet id buyerId) (fun _ => Ledger) db := by
  unfold createWallet
  simp only [wlp_bind, wlp_get, wlp_require, wlp_modify]
  intro fresh _
  have short := ledger id
  have unreferenced : ∀ owner, (id, owner) ∉ walletKeys db := by
    intro owner referenced
    obtain ⟨w, hw, same⟩ := List.mem_map.mp referenced
    exact (free_iff _ _ _).mp fresh w hw id rfl (by rw [(Prod.mk.inj same).1])
  have keys : ∀ key ∈ walletKeys db, ∀ row : Wallet, key ∈ walletKeys { db with wallets := db.wallets ++ [row] } := by
    intro key hkey row
    simp only [walletKeys, List.map_append, List.mem_append]
    exact Or.inl hkey
  have heldNothing : heldOwed db id = 0 := by
    unfold heldOwed reservedHolds openWithdrawals
    rw [total_zero, total_zero]
    · rfl
    · intro r hr
      have other : ¬ r.walletId = id := fun same => unreferenced r.ownerId (same ▸ short.withdrawalWallets r hr)
      simp [other]
    · intro h hh
      obtain ⟨owner, referenced⟩ := short.holdWallets h hh
      have other : ¬ h.walletId = id := fun same => unreferenced owner (same ▸ referenced)
      simp [other]
  have netNothing : netOwed db id = 0 := by
    unfold netOwed creditedTopups capturedHolds paidWithdrawals appliedNet
    rw [total_zero, total_zero, total_zero, total_zero]
    · rfl
    · intro p hp
      obtain ⟨owner, referenced⟩ := short.projectionWallets p hp
      have other : ¬ p.walletId = id := fun same => unreferenced owner (same ▸ referenced)
      simp [other]
    · intro r hr
      have other : ¬ r.walletId = id := fun same => unreferenced r.ownerId (same ▸ short.withdrawalWallets r hr)
      simp [other]
    · intro h hh
      obtain ⟨owner, referenced⟩ := short.holdWallets h hh
      have other : ¬ h.walletId = id := fun same => unreferenced owner (same ▸ referenced)
      simp [other]
    · intro t ht
      have other : ¬ t.walletId = id := fun same => unreferenced t.buyerId (same ▸ short.topupWallets t ht)
      simp [other]
  apply ledger_of_short _ id
  refine { short with
    walletIds := ?_, holdWallets := ?_, topupWallets := ?_, withdrawalWallets := ?_, projectionWallets := ?_,
    checks := ?_, heldShort := ?_, netShort := ?_ }
  · exact unique_append _ _ _ short.walletIds fresh
  · intro h hh
    obtain ⟨owner, referenced⟩ := short.holdWallets h hh
    exact ⟨owner, keys _ referenced _⟩
  · intro t ht
    exact keys _ (short.topupWallets t ht) _
  · intro r hr
    exact keys _ (short.withdrawalWallets r hr) _
  · intro p hp
    obtain ⟨owner, referenced⟩ := short.projectionWallets p hp
    exact ⟨owner, keys _ referenced _⟩
  · intro w hw
    rcases List.mem_append.mp hw with old | new
    · exact short.checks w old
    · rw [List.mem_singleton.mp new]
      simp [walletChecks, bigintBound]
  · intro w hw
    rcases List.mem_append.mp hw with old | new
    · exact short.heldShort w old
    · rw [List.mem_singleton.mp new]
      rw [if_pos rfl]
      exact heldNothing.symm
  · intro w hw
    rcases List.mem_append.mp hw with old | new
    · exact short.netShort w old
    · rw [List.mem_singleton.mp new]
      rw [if_pos rfl]
      exact netNothing.symm

theorem setWalletStatus_ledger (db : GdsDb) (id : Uuid) (status : WalletStatus) (ledger : Ledger db) :
    Wlp (setWalletStatus id status) (fun _ => Ledger) db := by
  unfold setWalletStatus
  simp only [wlp_bind, wlp_get, wlp_orThrow, wlp_modify]
  intro w found
  obtain ⟨hw, _⟩ := find_some _ _ _ found
  have short := ledger w.id
  apply ledger_of_short _ w.id
  exact replaceWallet_short db w { w with status } 0 0 0 0 short hw rfl rfl (short.checks w hw) rfl rfl

theorem createTopup_ledger (now : Instant) (db : GdsDb) (request : TopupRequest) (ledger : Ledger db) :
    Wlp (createTopup now request) (fun _ => Ledger) db := by
  unfold createTopup
  simp only [wlp_bind, wlp_get, wlp_require, wlp_modify]
  intro owned _ fresh _ _ id
  have short := ledger id
  refine { short with topupIds := ?_, topupWallets := ?_, netShort := ?_ }
  · exact unique_append _ _ _ short.topupIds fresh
  · intro t ht
    rcases List.mem_append.mp ht with old | new
    · exact short.topupWallets t old
    · rw [List.mem_singleton.mp new]
      obtain ⟨w, hw, same⟩ := List.any_eq_true.mp owned
      have same : w.id = request.walletId ∧ w.buyerId = request.buyerId := of_decide_eq_true same
      exact List.mem_map.mpr ⟨w, hw, by rw [same.1, same.2]; rfl⟩
  · intro w hw
    have before := short.netShort w hw
    simpa [netOwed, creditedTopups, capturedHolds, paidWithdrawals, appliedNet, TopupRequest.row] using before

theorem updateTopup_ledger (db : GdsDb) (new : Topup) (ledger : Ledger db) :
    Wlp (updateTopup 1 new) (fun _ => Ledger) db := by
  unfold updateTopup gdsInternalTopupSettlementGuard gdsInternalTopupGuard
  simp only [wlp_bind, wlp_get, wlp_orThrow, wlp_require, wlp_modify]
  intro old found _ _ _ _ kept moves notCredited _ _ _ id
  have short := ledger id
  obtain ⟨hold, sameId⟩ := find_some _ _ _ found
  have sameId : old.id = new.id := of_decide_eq_true sameId
  have newOpen : new.status ≠ .credited := fun credited => absurd (notCredited credited) (by decide)
  have oldOpen : old.status ≠ .credited := by
    intro credited
    rcases moves with same | allowed
    · exact newOpen (same.trans credited)
    · rw [credited] at allowed
      cases status : new.status <;> simp [topupMayMove] at allowed
  have only : ∀ x ∈ db.topups, decide (x.id = new.id) = true → x = old := by
    intro x hx same
    exact unique_eq _ db.topups short.topupIds x old old.id hx hold (by rw [of_decide_eq_true same, sameId]) rfl
  have credited : ∀ walletId, creditedTopups (replaceTopup new db) walletId = creditedTopups db walletId := by
    intro walletId
    unfold creditedTopups replaceTopup
    rw [total_updateWhere_one _ (fun t => some t.id) _ _ _ short.topupIds old old.id hold (by simp [sameId]) rfl
      (fun x hx same => by rw [only x hx same])]
    simp [newOpen, oldOpen]
  refine { short with topupIds := ?_, topupWallets := ?_, netShort := ?_ }
  · apply unique_updateWhere _ _ _ _ short.topupIds
    intro x hx same
    rw [only x hx same, sameId]
  · intro x hx
    obtain ⟨row, hrow, rfl⟩ := (mem_updateWhere _ _ _ _).mp hx
    split
    · rw [kept.1, kept.2.1]
      exact short.topupWallets old hold
    · exact short.topupWallets row hrow
  · intro w hw
    have before := short.netShort w hw
    unfold netOwed at before ⊢
    rw [credited]
    exact before

theorem createProjection_ledger (db : GdsDb) (row : RevenueProjection) (ledger : Ledger db) :
    Wlp (createProjection row) (fun _ => Ledger) db := by
  unfold createProjection
  simp only [wlp_bind, wlp_get, wlp_require, wlp_modify]
  intro source fresh _ id
  have short := ledger id
  obtain ⟨owned, unapplied, _⟩ := source
  refine { short with projectionIds := ?_, projectionWallets := ?_, netShort := ?_ }
  · exact unique_append _ _ _ short.projectionIds fresh
  · intro p hp
    rcases List.mem_append.mp hp with old | new
    · exact short.projectionWallets p old
    · rw [List.mem_singleton.mp new]
      obtain ⟨period, _, matched⟩ := List.any_eq_true.mp owned
      obtain ⟨w, hw, same⟩ := List.any_eq_true.mp (of_decide_eq_true matched).2
      have same : w.id = row.walletId ∧ w.buyerId = period.sellerId := of_decide_eq_true same
      exact ⟨w.buyerId, List.mem_map.mpr ⟨w, hw, by rw [same.1]⟩⟩
  · intro w hw
    have before := short.netShort w hw
    simpa [netOwed, creditedTopups, capturedHolds, paidWithdrawals, appliedNet, unapplied] using before

theorem updateProjection_ledger (db : GdsDb) (new : RevenueProjection) (ledger : Ledger db) :
    Wlp (updateProjection new) (fun _ => Ledger) db := by
  unfold updateProjection
  simp only [wlp_bind, wlp_get, wlp_require, wlp_modify, wlp_orThrow, wlp_ite]
  intro old found kept _
  obtain ⟨hold, sameId⟩ := find_some _ _ _ found
  have sameId : old.id = new.id := of_decide_eq_true sameId
  have replaced : Ledger (replaceProjection new db) := by
    apply ledger_of_short _ old.walletId
    have short := replaceProjection_short db old new ledger hold sameId.symm kept.2.1
    simpa [kept.2.2.1] using short
  exact ⟨fun _ _ _ => replaced, fun _ _ _ => replaced⟩

theorem execute_ledger (now : Instant) (statement : Statement) (db : GdsDb) (ledger : Ledger db) :
    Wlp (execute now statement) (fun _ => Ledger) db := by
  cases statement with
  | createWallet id buyerId => exact createWallet_ledger db id buyerId ledger
  | setWalletStatus id status => exact setWalletStatus_ledger db id status ledger
  | createTopup request => exact createTopup_ledger now db request ledger
  | updateTopup new => exact updateTopup_ledger db new ledger
  | createInbox row =>
      simp only [execute, createInbox, wlp_bind, wlp_get, wlp_require, wlp_modify]
      intro _ _ _ _ id
      exact { ledger id with }
  | updateInbox new =>
      simp only [execute, updateInbox, wlp_bind, wlp_get, wlp_require, wlp_modify, wlp_orThrow]
      intro _ _ _ _ id
      exact { ledger id with }
  | createReconciliation row =>
      simp only [execute, createReconciliation, wlp_bind, wlp_get, wlp_require, wlp_modify, wlp_orThrow]
      intro _ _ _ _ _ _ _ _ _ id
      exact { ledger id with }
  | insertJournal entry => exact insertJournal_ledger now db entry ledger
  | updateSettings new =>
      simp only [execute, updateSettings, wlp_bind, wlp_get, wlp_require, wlp_modify, wlp_orThrow]
      intro _ _ _ id
      exact { ledger id with }
  | insertWithdrawal row => exact insertWithdrawal_ledger now db row ledger
  | insertWithdrawalEvent row => exact insertWithdrawalEvent_ledger now db row ledger
  | createEarningPeriod row =>
      simp only [execute, createEarningPeriod, wlp_bind, wlp_get, wlp_require, wlp_modify]
      intro _ _ id
      exact { ledger id with }
  | createLedgerEntry row =>
      simp only [execute, createLedgerEntry, wlp_bind, wlp_get, wlp_require, wlp_modify]
      intro _ _ _ id
      exact { ledger id with }
  | createProjection row => exact createProjection_ledger db row ledger
  | updateProjection new => exact updateProjection_ledger db new ledger
  | insertEffect settled row => exact insertEffect_ledger now settled db row ledger

theorem emptyDb_ledger (createdAt : Instant) : Ledger (emptyDb createdAt) := by
  intro id
  constructor <;> simp [emptyDb, UniqueKey]

theorem run_ledger (createdAt : Instant) (inputs : List (Instant × Statement)) :
    Ledger (run gdsStep (emptyDb createdAt) inputs) := by
  refine run_invariant gdsStep Ledger ?_ _ inputs (emptyDb_ledger createdAt)
  intro db input ledger
  exact commit_of_wlp _ _ db ledger (execute_ledger input.1 input.2 db ledger)

theorem withdrawalHeld_eq (db : GdsDb) (ledger : Ledger db) (w : Wallet) (hw : w ∈ db.wallets) :
    withdrawalHeldMinor db w.id w.buyerId = openWithdrawals db w.id := by
  have short := ledger w.id
  apply total_congr
  intro r hr
  by_cases mine : r.walletId = w.id
  · obtain ⟨x, hx, same⟩ := List.mem_map.mp (short.withdrawalWallets r hr)
    obtain ⟨sameId, sameOwner⟩ := Prod.mk.inj same
    have keyed : x = w := unique_eq _ db.wallets short.walletIds x w w.id hx hw (by rw [sameId, mine]) rfl
    have owner : r.ownerId = w.buyerId := by rw [← sameOwner, keyed]
    simp [mine, owner]
  · simp [mine]

theorem wallet_conserved (db : GdsDb) (ledger : Ledger db) (w : Wallet) (hw : w ∈ db.wallets) : WalletConserved db w := by
  have short := ledger w.id
  have held : w.heldMinor = reservedHolds db w.id + openWithdrawals db w.id := by
    simpa [heldOwed] using short.heldShort w hw
  refine ⟨(short.checks w hw).1.1, (short.checks w hw).2.1.1, (short.checks w hw).2.2.1, held, ?_, ?_⟩
  · unfold heldCheckFires paymentHeldMinor
    rw [withdrawalHeld_eq db ledger w hw, held]
    simp
  · simpa [netOwed, Wallet.net] using short.netShort w hw

-- Every finite run of statements the database admits, from no wallets, conserves every wallet.
def Conserved (db : GdsDb) : Prop :=
  ∀ w ∈ db.wallets, WalletConserved db w

/-- Every run of admitted statements from the empty store conserves the money of the ledger. -/
theorem ledger_conservation (createdAt : Instant) (inputs : List (Instant × Statement)) :
    Conserved (run gdsStep (emptyDb createdAt) inputs) :=
  wallet_conserved _ (run_ledger createdAt inputs)

end EduAi.Gds
