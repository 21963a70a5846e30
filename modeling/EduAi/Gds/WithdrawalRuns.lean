import EduAi.Gds.Conservation
import EduAi.Store.Histories
import EduAi.Store.Keyed
import EduAi.Store.Programs

set_option autoImplicit false

namespace EduAi.Gds

open EduAi.Store

def withdrawalJournal (db : GdsDb) : List JournalEntry :=
  db.journal.filter (fun j => j.kind.isWithdrawal)

def postingsOf (db : GdsDb) (id : Uuid) : List JournalEntry :=
  (withdrawalJournal db).filter (fun j => j.orderRef = some id)

def eventsOf (db : GdsDb) (id : Uuid) : List WithdrawalEvent :=
  db.withdrawalEvents.filter (fun e => e.withdrawalId = id)

def Withdrawal.opened (r : Withdrawal) : Withdrawal :=
  { r with status := .pending, processingAdminId := none, bankTransactionRef := none, transferredAt := none }

structure Moves (r : Withdrawal) (e : WithdrawalEvent) : Prop where
  starts : e.fromStatus = some r.status
  moves : withdrawalMayMove r.status e.toStatus = true
  actor : e.toStatus = .cancelled ↔ e.actorId = r.ownerId
  claimed : e.toStatus = .paid ∨ e.toStatus = .failed → r.processingAdminId = some e.actorId
  proof : e.toStatus = .paid → nonblank e.bankTransactionRef = true ∧ ∃ moment, e.transferredAt = some moment ∧ r.createdAt ≤ moment
  unproven : e.toStatus ≠ .paid → e.bankTransactionRef = none ∧ e.transferredAt = none

structure OpensLog (r : Withdrawal) (e : WithdrawalEvent) : Prop where
  source : e.fromStatus = none
  target : e.toStatus = .pending
  actor : e.actorId = r.ownerId

structure Beside (P : JournalEntry → Prop) (g t : GdsDb) : Prop where
  withdrawals : t.withdrawals = g.withdrawals
  events : t.withdrawalEvents = g.withdrawalEvents
  journal : ∃ more, t.journal = g.journal ++ more ∧ ∀ j ∈ more, P j

def ofOthers (j : JournalEntry) : Prop :=
  j.kind.isWithdrawal = false

structure Created (db t : GdsDb) (r : Withdrawal) : Prop where
  opens : r.opened = r
  checked : withdrawalChecks r
  fresh : free (fun x => some x.id) r db.withdrawals = true
  once : free (fun x => some (x.ownerId, x.requestKeyHash)) r db.withdrawals = true
  withdrawals : t.withdrawals = db.withdrawals ++ [r]
  events : t.withdrawalEvents = db.withdrawalEvents
  journal : t.journal = db.journal ++ [reservePosting r]

structure Recorded (db t : GdsDb) (r : Withdrawal) (e : WithdrawalEvent) : Prop where
  member : r ∈ db.withdrawals
  named : e.withdrawalId = r.id
  opens : OpensLog r e
  first : eventsOf db r.id = []
  withdrawals : t.withdrawals = db.withdrawals
  events : t.withdrawalEvents = db.withdrawalEvents ++ [e]
  journal : t.journal = db.journal

structure Moved (db t : GdsDb) (r : Withdrawal) (e : WithdrawalEvent) : Prop where
  member : r ∈ db.withdrawals
  named : e.withdrawalId = r.id
  moves : Moves r e
  checked : withdrawalChecks (r.after e)
  reference : free (fun x => x.bankTransactionRef) (r.after e) (db.withdrawals.filter (fun x => x.id ≠ r.id)) = true
  withdrawals : t.withdrawals = updateWhere (fun x => x.id = r.id) (fun _ => r.after e) db.withdrawals
  events : t.withdrawalEvents = db.withdrawalEvents ++ [e]
  journal : t.journal = db.journal ++ (terminalKind e.toStatus).toList.map (terminalPosting r)

inductive WithdrawalStep (db t : GdsDb) : Prop where
  | beside (kept : Beside ofOthers db t)
  | create (r : Withdrawal) (created : Created db t r)
  | record (r : Withdrawal) (e : WithdrawalEvent) (recorded : Recorded db t r e)
  | move (r : Withdrawal) (e : WithdrawalEvent) (moved : Moved db t r e)

section Statements

variable {P : JournalEntry → Prop}

theorem beside_same {g t : GdsDb} (withdrawals : t.withdrawals = g.withdrawals) (events : t.withdrawalEvents = g.withdrawalEvents)
    (journal : t.journal = g.journal) : Beside P g t :=
  ⟨withdrawals, events, [], by rw [journal, List.append_nil], fun j inEmpty => by cases inEmpty⟩

theorem beside_refl (g : GdsDb) : Beside P g g :=
  beside_same rfl rfl rfl

theorem beside_trans (g t u : GdsDb) (first : Beside P g t) (second : Beside P t u) : Beside P g u := by
  obtain ⟨some, posted, kinds⟩ := first.journal
  obtain ⟨more, posted', kinds'⟩ := second.journal
  refine ⟨second.withdrawals.trans first.withdrawals, second.events.trans first.events, some ++ more, ?_, ?_⟩
  · rw [posted', posted, List.append_assoc]
  · intro j member
    rcases List.mem_append.mp member with old | new
    · exact kinds j old
    · exact kinds' j new

theorem beside_mono {Q : JournalEntry → Prop} (g t : GdsDb) (kept : Beside P g t) (weaker : ∀ j, P j → Q j) : Beside Q g t := by
  obtain ⟨more, posted, kinds⟩ := kept.journal
  exact ⟨kept.withdrawals, kept.events, more, posted, fun j member => weaker j (kinds j member)⟩

theorem beside_postings (g t : GdsDb) (kept : Beside ofOthers g t) : withdrawalJournal t = withdrawalJournal g := by
  obtain ⟨more, posted, kinds⟩ := kept.journal
  have none : more.filter (fun j => j.kind.isWithdrawal) = [] := by
    rw [List.filter_eq_nil_iff]
    intro j member chosen
    rw [kinds j member] at chosen
    cases chosen
  unfold withdrawalJournal
  rw [posted, List.filter_append, none, List.append_nil]

theorem writes_beside (g t : GdsDb) (writes : Writes (Beside P) g t) : Beside P g t :=
  writes_relation (Beside P) beside_refl beside_trans (fun _ => True) (fun _ _ _ _ => trivial) (fun _ _ kept _ => kept) g t writes trivial

theorem modify_besides (f : GdsDb → GdsDb) (apart : ∀ g, Beside P g (f g)) : Program (Beside P) (modify f : GdsTxn PUnit) := by
  constructor
  intro g
  rw [wlp_modify]
  exact writes_one _ _ (apart g)

theorem moveWallet_besides (onlyActive : Bool) (walletId : Uuid) (available held : Int) (unavailable : Fault) :
    Program (Beside P) (moveWallet onlyActive walletId available held unavailable) :=
  program_get.bind (fun _ => (program_orThrow _ _).bind (fun _ => (program_require _ _).bind (fun _ =>
    modify_besides _ (by exact fun _ => beside_same rfl rfl rfl))))

theorem updateTopup_besides (depth : Nat) (new : Topup) : Program (Beside P) (updateTopup depth new) :=
  program_get.bind (fun _ => (program_orThrow _ _).bind (fun _ =>
    (program_get.bind (fun _ => (program_require _ _).bind (fun _ => (program_require _ _).bind (fun _ =>
      (program_require _ _).bind (fun _ => program_require _ _))))).bind (fun _ =>
    ((program_require _ _).bind (fun _ => (program_require _ _).bind (fun _ => program_require _ _))).bind (fun _ =>
      (program_require _ _).bind (fun _ => (program_require _ _).bind (fun _ => (program_require _ _).bind (fun _ =>
        modify_besides _ (by exact fun _ => beside_same rfl rfl rfl))))))))

theorem applySource_besides (now : Instant) (j : JournalEntry) : Program (Beside P) (applySource now j) := by
  have closes (status : HoldStatus) : Program (Beside P) (closeHold j status) :=
    program_get.bind (fun _ => (program_require _ _).bind (fun _ => modify_besides _ (by exact fun _ => beside_same rfl rfl rfl)))
  have reserves (orderRef : String) : Program (Beside P) (createHold j orderRef) :=
    program_get.bind (fun _ => (program_require _ _).bind (fun _ => modify_besides _ (by exact fun _ => beside_same rfl rfl rfl)))
  unfold applySource
  split
  · exact program_get.bind (fun _ => (program_orThrow _ _).bind (fun _ => (program_require _ _).bind (fun _ => updateTopup_besides _ _)))
  · exact (program_orThrow _ _).bind (fun _ => reserves _)
  · exact closes _
  · exact closes _

theorem applyJournal_besides (now : Instant) (j : JournalEntry) :
    Program (Beside P) (if j.kind.isOriginal then gdsInternalApplyJournal now j else gdsExtendedJournalApply j) :=
  program_ite _ _ _ ((applySource_besides now j).bind (fun _ => moveWallet_besides _ _ _ _ _))
    ((program_get.bind (fun _ => program_ite _ _ _ ((program_orThrow _ _).bind (fun _ => program_require _ _)) (program_require _ _))).bind
      (fun _ => moveWallet_besides _ _ _ _ _))

structure Posted (j : JournalEntry) (g t : GdsDb) : Prop where
  checked : journalChecks j
  withdrawals : t.withdrawals = g.withdrawals
  events : t.withdrawalEvents = g.withdrawalEvents
  journal : t.journal = g.journal ++ [j]

theorem insertJournal_posts (now : Instant) (j : JournalEntry) (g : GdsDb) : Wlp (insertJournal now j) (fun _ t => Posted j g t) g := by
  simp only [insertJournal, wlp_bind, wlp_get, wlp_require, wlp_modify]
  intro checked _ _ _ _ _ _
  have applies : Program (Beside (fun _ => False)) (if j.kind.isOriginal then gdsInternalApplyJournal now j else gdsExtendedJournalApply j) :=
    applyJournal_besides now j
  refine wlp_mono _ _ (applies.within _) ?_
  intro _ t writes
  have kept := writes_beside _ t writes
  obtain ⟨more, posted, none⟩ := kept.journal
  have nothing : more = [] := List.eq_nil_iff_forall_not_mem.mpr none
  refine ⟨checked, kept.withdrawals, kept.events, ?_⟩
  rw [posted, nothing, List.append_nil]

theorem insertJournal_besides (now : Instant) (j : JournalEntry) (allowed : journalChecks j → P j) :
    Program (Beside P) (insertJournal now j) := by
  constructor
  intro g
  refine wlp_mono _ _ (insertJournal_posts now j g) ?_
  intro _ t posted
  refine writes_one _ _ ⟨posted.withdrawals, posted.events, [j], posted.journal, ?_⟩
  intro x member
  rw [List.mem_singleton.mp member]
  exact allowed posted.checked

theorem insertEffect_besides (now : Instant) (settled : Bool) (e : RevenueEffect)
    (revenue : ∀ w e cash, journalChecks (revenuePosting w e cash) → P (revenuePosting w e cash)) :
    Program (Beside P) (insertEffect now settled e) :=
  program_get.bind (fun _ => (program_require _ _).bind (fun _ => (program_require _ _).bind (fun _ => (program_require _ _).bind (fun _ =>
    (modify_besides _ (by exact fun _ => beside_same rfl rfl rfl)).bind (fun _ => program_get.bind (fun _ => (program_orThrow _ _).bind (fun _ =>
      (program_require _ _).bind (fun _ => (program_orThrow _ _).bind (fun _ => (program_require _ _).bind (fun _ =>
        (program_require _ _).bind (fun _ => (modify_besides _ (by exact fun _ => beside_same rfl rfl rfl)).bind (fun _ =>
          (program_require _ _).bind (fun _ => (modify_besides _ (by exact fun _ => beside_same rfl rfl rfl)).bind (fun _ =>
            program_ite _ _ _ (insertJournal_besides now _ (revenue _ _ _)) (program_pure _)))))))))))))))

theorem revenuePosting_apart (w : Wallet) (e : RevenueEffect) (cash : Int) : ofOthers (revenuePosting w e cash) := by
  unfold ofOthers revenuePosting
  simp only
  split <;> rfl

theorem insertJournal_withdrawals (now : Instant) (j : JournalEntry) (db : GdsDb) (ledger : Ledger db)
    (allowed : journalChecks j → ofOthers j → P j) :
    Wlp (insertJournal now j) (fun _ t => Beside P db t) db := by
  cases kind : j.kind.isWithdrawal with
  | false =>
      refine wlp_mono _ _ ((insertJournal_besides now j (fun checked => allowed checked kind)).within db) ?_
      exact fun _ t writes => writes_beside db t writes
  | true =>
      have extended : j.kind.isOriginal = false := by
        revert kind
        cases j.kind <;> decide
      simp only [insertJournal, wlp_bind, wlp_get, wlp_require, wlp_modify]
      intro checked _ _ freshKey _ _ freshPosting
      rw [if_neg (by rw [extended]; exact Bool.noConfusion)]
      exact extended_entry_taken db j ledger checked extended freshKey freshPosting _

end Statements

section Statements

variable (now : Instant) (db : GdsDb)

theorem insertWithdrawal_creates (r : Withdrawal) : Wlp (insertWithdrawal now r) (fun _ t => Created db t r) db := by
  simp only [insertWithdrawal, wlp_bind, wlp_get, wlp_orThrow, wlp_require, wlp_modify]
  intro w _ admitted checked fresh once
  obtain ⟨_, _, _, _, _, _, pending, unclaimed, unreferenced, untransferred, _⟩ := admitted
  have opens : r.opened = r := by
    cases r
    cases pending
    cases unclaimed
    cases unreferenced
    cases untransferred
    rfl
  refine wlp_mono _ _ (insertJournal_posts now (reservePosting r) _) ?_
  exact fun _ t posted => ⟨opens, checked, fresh, once, posted.withdrawals, posted.events, posted.journal⟩

theorem moveWithdrawal_moves (r : Withdrawal) (from_ : WithdrawalStatus) (e : WithdrawalEvent) (member : r ∈ db.withdrawals)
    (named : e.withdrawalId = r.id) (source : e.fromStatus = some from_) :
    Wlp (moveWithdrawal now r from_ e) (fun _ t => Moved db t r e) { db with withdrawalEvents := db.withdrawalEvents ++ [e] } := by
  simp only [moveWithdrawal, wlp_bind, wlp_get, wlp_require, wlp_modify]
  intro begins actor _ _ claimed proof unproven checked reference
  have moves : Moves r e := by
    refine ⟨by rw [source, begins.1], begins.2, ⟨actor.1, ?_⟩, ?_, ?_, unproven⟩
    · intro owner
      by_contra other
      exact actor.2 other owner
    · rintro (paid | failed)
      · exact claimed (by rw [paid]; decide)
      · exact claimed (by rw [failed]; decide)
    · intro paid
      have shown := proof paid
      unfold transferProof at shown
      obtain ⟨referenced, timed⟩ := Bool.and_eq_true_iff.mp shown
      refine ⟨referenced, ?_⟩
      cases moment : e.transferredAt with
      | none =>
          rw [moment] at timed
          cases timed
      | some m =>
          rw [moment] at timed
          exact ⟨m, rfl, (of_decide_eq_true timed).1⟩
  cases terminal : terminalKind e.toStatus with
  | none =>
      rw [wlp_pure]
      refine ⟨member, named, moves, checked, reference, rfl, rfl, ?_⟩
      rw [terminal]
      exact (List.append_nil _).symm
  | some k =>
      refine wlp_mono _ _ (insertJournal_posts now (terminalPosting r k) _) ?_
      intro _ t posted
      refine ⟨member, named, moves, checked, reference, posted.withdrawals, posted.events, ?_⟩
      rw [posted.journal, terminal]
      rfl

theorem insertWithdrawalEvent_moves (e : WithdrawalEvent) :
    Wlp (insertWithdrawalEvent now e) (fun _ t => ∃ r, withdrawalById db e.withdrawalId = some r ∧ (Recorded db t r e ∨ Moved db t r e)) db := by
  simp only [insertWithdrawalEvent, wlp_bind, wlp_get, wlp_require, wlp_modify, wlp_orThrow]
  intro _ fresh r found
  obtain ⟨member, same⟩ := find_some _ _ r found
  have named : e.withdrawalId = r.id := (of_decide_eq_true same).symm
  cases source : e.fromStatus with
  | some from_ =>
      exact wlp_mono _ _ (moveWithdrawal_moves now db r from_ e member named source) (fun _ t moved => ⟨r, found, .inr moved⟩)
  | none =>
      simp only [wlp_require]
      rintro ⟨_, target, actor, first⟩
      refine ⟨r, found, .inl ⟨member, named, ⟨source, target, actor⟩, ?_, rfl, rfl, rfl⟩⟩
      unfold eventsOf
      rw [List.filter_eq_nil_iff]
      intro x old mine
      refine first (List.any_eq_true.mpr ⟨x, List.mem_append_left _ old, decide_eq_true ⟨of_decide_eq_true mine, ?_⟩⟩)
      exact free_key (fun y : WithdrawalEvent => y.id) _ e fresh x old

def Statement.apart : Statement → Bool
  | .insertJournal _ | .insertWithdrawal _ | .insertWithdrawalEvent _ => false
  | _ => true

theorem execute_besides {P : JournalEntry → Prop} (revenue : ∀ w e cash, journalChecks (revenuePosting w e cash) → P (revenuePosting w e cash))
    (statement : Statement) (apart : statement.apart = true) : Program (Beside P) (execute now statement) := by
  cases statement with
  | createWallet id buyerId => exact program_get.bind (fun _ => (program_require _ _).bind (fun _ => (program_require _ _).bind
      (fun _ => modify_besides _ (by exact fun _ => beside_same rfl rfl rfl))))
  | setWalletStatus id status => exact program_get.bind (fun _ => (program_orThrow _ _).bind
      (fun _ => modify_besides _ (by exact fun _ => beside_same rfl rfl rfl)))
  | createTopup request => exact program_get.bind (fun _ => (program_require _ _).bind (fun _ => (program_require _ _).bind
      (fun _ => (program_require _ _).bind (fun _ => (program_require _ _).bind (fun _ => (program_require _ _).bind
        (fun _ => modify_besides _ (by exact fun _ => beside_same rfl rfl rfl)))))))
  | updateTopup new => exact updateTopup_besides 1 new
  | createInbox row => exact program_get.bind (fun _ => (program_require _ _).bind (fun _ => (program_require _ _).bind
      (fun _ => (program_require _ _).bind (fun _ => (program_require _ _).bind
        (fun _ => modify_besides _ (by exact fun _ => beside_same rfl rfl rfl))))))
  | updateInbox new => exact program_get.bind (fun _ => (program_orThrow _ _).bind (fun _ => (program_require _ _).bind
      (fun _ => (program_require _ _).bind (fun _ => modify_besides _ (by exact fun _ => beside_same rfl rfl rfl)))))
  | createReconciliation row => exact program_get.bind (fun _ => (program_orThrow _ _).bind (fun _ =>
      (program_orThrow _ _).bind (fun _ => (program_require _ _).bind (fun _ => (program_require _ _).bind (fun _ =>
        (program_require _ _).bind (fun _ => (program_require _ _).bind (fun _ => (program_require _ _).bind (fun _ =>
          modify_besides _ (by exact fun _ => beside_same rfl rfl rfl)))))))))
  | insertJournal entry => cases apart
  | updateSettings new => exact program_get.bind (fun _ => (program_orThrow _ _).bind (fun _ => (program_require _ _).bind
      (fun _ => modify_besides _ (by exact fun _ => beside_same rfl rfl rfl))))
  | insertWithdrawal row => cases apart
  | insertWithdrawalEvent row => cases apart
  | createEarningPeriod row => exact program_get.bind (fun _ => (program_require _ _).bind (fun _ => (program_require _ _).bind
      (fun _ => modify_besides _ (by exact fun _ => beside_same rfl rfl rfl))))
  | createLedgerEntry row => exact program_get.bind (fun _ => (program_require _ _).bind (fun _ => (program_require _ _).bind
      (fun _ => (program_require _ _).bind (fun _ => modify_besides _ (by exact fun _ => beside_same rfl rfl rfl)))))
  | createProjection row => exact program_get.bind (fun _ => (program_require _ _).bind (fun _ => (program_require _ _).bind
      (fun _ => (program_require _ _).bind (fun _ => modify_besides _ (by exact fun _ => beside_same rfl rfl rfl)))))
  | updateProjection new =>
      have reviewed : ∀ (p : Prop) [Decidable p] (fault : Fault), Program (Beside P) (do
          require p fault
          require (0 ≤ new.historicalPaidMinor) (.check "gds_revenue_projections_historical_paid_minor_check")
          modify (replaceProjection new)) := fun _ _ _ => (program_require _ _).bind (fun _ => (program_require _ _).bind
        (fun _ => modify_besides _ (by exact fun _ => beside_same rfl rfl rfl)))
      exact program_get.bind (fun _ => (program_orThrow _ _).bind (fun _ => (program_require _ _).bind
        (fun _ => (program_require _ _).bind (fun _ => program_ite _ _ _ (reviewed _ _) (reviewed _ _)))))
  | insertEffect settled row => exact insertEffect_besides now settled row revenue

theorem execute_withdrawals (statement : Statement) (ledger : Ledger db) :
    Wlp (execute now statement) (fun _ t => WithdrawalStep db t) db := by
  cases apart : statement.apart with
  | true =>
      refine wlp_mono _ _ ((execute_besides now (fun w e cash _ => revenuePosting_apart w e cash) statement apart).within db) ?_
      exact fun _ t writes => .beside (writes_beside db t writes)
  | false =>
      cases statement with
      | insertJournal entry =>
        exact wlp_mono _ _ (insertJournal_withdrawals now entry db ledger (fun _ others => others))
          (fun _ _ kept => .beside kept)
      | insertWithdrawal row => exact wlp_mono _ _ (insertWithdrawal_creates now db row) (fun _ t created => .create row created)
      | insertWithdrawalEvent row =>
          refine wlp_mono _ _ (insertWithdrawalEvent_moves now db row) ?_
          rintro _ t ⟨r, _, recorded | moved⟩
          · exact .record r row recorded
          · exact .move r row moved
      | _ => cases apart

end Statements

structure Booked (db : GdsDb) (r : Withdrawal) : Prop where
  checked : withdrawalChecks r
  postings : postingsOf db r.id = reservePosting r :: (terminalKind r.status).toList.map (terminalPosting r)
  log : ∃ opening moves, eventsOf db r.id = opening ++ moves ∧ opening.length ≤ 1 ∧ (∀ e ∈ opening, OpensLog r e) ∧
    History Moves Withdrawal.after r.opened moves r

structure WithdrawalBook (db : GdsDb) : Prop where
  ids : UniqueKey (fun r => some r.id) db.withdrawals
  keys : UniqueKey (fun r => some (r.ownerId, r.requestKeyHash)) db.withdrawals
  references : UniqueKey (fun r => r.bankTransactionRef) db.withdrawals
  postingSource : ∀ j ∈ withdrawalJournal db, ∃ r ∈ db.withdrawals, j.orderRef = some r.id
  eventSource : ∀ e ∈ db.withdrawalEvents, ∃ r ∈ db.withdrawals, e.withdrawalId = r.id
  booked : ∀ r ∈ db.withdrawals, Booked db r

section Book

variable {db t : GdsDb}

theorem postingsOf_append (more : List JournalEntry) (postings : withdrawalJournal t = withdrawalJournal db ++ more) (id : Uuid) :
    postingsOf t id = postingsOf db id ++ more.filter (fun j => j.orderRef = some id) := by
  unfold postingsOf
  rw [postings, List.filter_append]

theorem eventsOf_append (e : WithdrawalEvent) (events : t.withdrawalEvents = db.withdrawalEvents ++ [e]) (id : Uuid) :
    eventsOf t id = eventsOf db id ++ if e.withdrawalId = id then [e] else [] := by
  unfold eventsOf
  rw [events, List.filter_append]
  by_cases mine : e.withdrawalId = id
  · simp [mine]
  · simp [mine]

theorem booked_same {r : Withdrawal} (booked : Booked db r) (postings : postingsOf t r.id = postingsOf db r.id)
    (events : eventsOf t r.id = eventsOf db r.id) : Booked t r :=
  ⟨booked.checked, postings.trans booked.postings, events ▸ booked.log⟩

theorem beside_book (book : WithdrawalBook db) (kept : Beside ofOthers db t) : WithdrawalBook t := by
  have postings := beside_postings db t kept
  obtain ⟨withdrawals, events, _⟩ := kept
  have sameEvents (id : Uuid) : eventsOf t id = eventsOf db id := by rw [eventsOf, events, eventsOf]
  have samePostings (id : Uuid) : postingsOf t id = postingsOf db id := by rw [postingsOf, postings, postingsOf]
  constructor
  · rw [withdrawals]
    exact book.ids
  · rw [withdrawals]
    exact book.keys
  · rw [withdrawals]
    exact book.references
  · rw [postings, withdrawals]
    exact book.postingSource
  · rw [events, withdrawals]
    exact book.eventSource
  · rw [withdrawals]
    exact fun r member => booked_same (book.booked r member) (samePostings r.id) (sameEvents r.id)

theorem create_book (book : WithdrawalBook db) (r : Withdrawal) (created : Created db t r) : WithdrawalBook t := by
  obtain ⟨opens, checked, fresh, once, withdrawals, events, journal⟩ := created
  have postings : withdrawalJournal t = withdrawalJournal db ++ [reservePosting r] := by
    unfold withdrawalJournal
    rw [journal, List.filter_append]
    rfl
  have other : ∀ x ∈ db.withdrawals, x.id ≠ r.id := free_key (fun x : Withdrawal => x.id) _ r fresh
  have widened (key : Uuid → Prop) (source : ∃ x ∈ db.withdrawals, key x.id) : ∃ x ∈ t.withdrawals, key x.id := by
    obtain ⟨x, member, named⟩ := source
    exact ⟨x, by rw [withdrawals]; exact List.mem_append_left _ member, named⟩
  have unreferenced : r.bankTransactionRef = none := by
    rw [← opens]
    rfl
  constructor
  · rw [withdrawals]
    exact unique_append _ _ _ book.ids fresh
  · rw [withdrawals]
    exact unique_append _ _ _ book.keys once
  · rw [withdrawals]
    refine unique_append _ _ _ book.references ?_
    rw [free_iff]
    intro x _ k referenced
    rw [unreferenced] at referenced
    cases referenced
  · intro j member
    rw [postings] at member
    rcases (mem_append_one _ _ _).mp member with old | rfl
    · exact widened (fun id => j.orderRef = some id) (book.postingSource j old)
    · exact ⟨r, by rw [withdrawals]; exact List.mem_append_right _ List.mem_cons_self, rfl⟩
  · intro e member
    rw [events] at member
    exact widened (fun id => e.withdrawalId = id) (book.eventSource e member)
  · intro x member
    rw [withdrawals] at member
    have sameEvents (id : Uuid) : eventsOf t id = eventsOf db id := by rw [eventsOf, events, eventsOf]
    rcases (mem_append_one _ _ _).mp member with old | rfl
    · refine booked_same (book.booked x old) ?_ (sameEvents x.id)
      have apart : r.id ≠ x.id := (other x old).symm
      rw [postingsOf_append _ postings]
      simp [reservePosting, apart]
    · have noPostings : postingsOf db x.id = [] := by
        unfold postingsOf
        rw [List.filter_eq_nil_iff]
        intro j inJournal mine
        obtain ⟨y, inTable, named⟩ := book.postingSource j inJournal
        exact other y inTable (Option.some.inj (named.symm.trans (of_decide_eq_true mine)))
      have noEvents : eventsOf db x.id = [] := by
        unfold eventsOf
        rw [List.filter_eq_nil_iff]
        intro e inLog mine
        obtain ⟨y, inTable, named⟩ := book.eventSource e inLog
        exact other y inTable (named.symm.trans (of_decide_eq_true mine))
      have pending : x.status = .pending := by
        rw [← opens]
        rfl
      refine ⟨checked, ?_, [], [], ?_, Nat.zero_le 1, (fun e inEmpty => by cases inEmpty), ?_⟩
      · rw [postingsOf_append _ postings, noPostings, pending]
        simp [reservePosting, terminalKind]
      · rw [sameEvents, noEvents]
        rfl
      · rw [opens]
        exact .opened

theorem record_book (book : WithdrawalBook db) (r : Withdrawal) (e : WithdrawalEvent) (recorded : Recorded db t r e) : WithdrawalBook t := by
  obtain ⟨member, named, opens, first, withdrawals, events, journal⟩ := recorded
  have postings : withdrawalJournal t = withdrawalJournal db := by rw [withdrawalJournal, journal, withdrawalJournal]
  have samePostings (id : Uuid) : postingsOf t id = postingsOf db id := by rw [postingsOf, postings, postingsOf]
  constructor
  · rw [withdrawals]
    exact book.ids
  · rw [withdrawals]
    exact book.keys
  · rw [withdrawals]
    exact book.references
  · rw [postings, withdrawals]
    exact book.postingSource
  · intro x inLog
    rw [events] at inLog
    rw [withdrawals]
    rcases (mem_append_one _ _ _).mp inLog with old | rfl
    · exact book.eventSource x old
    · exact ⟨r, member, named⟩
  · intro x inTable
    rw [withdrawals] at inTable
    have before := book.booked x inTable
    by_cases mine : x = r
    · subst mine
      obtain ⟨opening, moves, split, _, _, history⟩ := before.log
      rw [first] at split
      obtain ⟨noOpening, noMoves⟩ := List.append_eq_nil_iff.mp split.symm
      subst noMoves
      refine ⟨before.checked, (samePostings x.id).trans before.postings, [e], [], ?_, Nat.le_refl 1, ?_, history⟩
      · rw [eventsOf_append e events, first, if_pos named]
        rfl
      · intro y only
        rw [List.mem_singleton.mp only]
        exact opens
    · have apart : e.withdrawalId ≠ x.id := by
        intro same
        exact mine (unique_eq _ _ book.ids x r x.id inTable member rfl (congrArg some (named.symm.trans same)))
      refine booked_same before (samePostings x.id) ?_
      rw [eventsOf_append e events, if_neg apart, List.append_nil]

theorem move_open (r : Withdrawal) (e : WithdrawalEvent) (moves : Moves r e) : terminalKind r.status = none := by
  have allowed := moves.moves
  revert allowed
  cases r.status with
  | pending => exact fun _ => rfl
  | approved => exact fun _ => rfl
  | processing => exact fun _ => rfl
  | paid => exact fun never => by cases never
  | cancelled => exact fun never => by cases never
  | rejected => exact fun never => by cases never
  | failed => exact fun never => by cases never

theorem terminal_withdrawal (r : Withdrawal) (status : WithdrawalStatus) :
    ∀ j ∈ (terminalKind status).toList.map (terminalPosting r), j.kind.isWithdrawal = true := by
  intro j posting
  obtain ⟨k, closing, rfl⟩ := List.mem_map.mp posting
  have named := Option.mem_toList.mp closing
  revert named
  cases status <;> rintro ⟨⟩ <;> rfl

theorem terminal_postings (r : Withdrawal) (status : WithdrawalStatus)
    (journal : t.journal = db.journal ++ (terminalKind status).toList.map (terminalPosting r)) :
    withdrawalJournal t = withdrawalJournal db ++ (terminalKind status).toList.map (terminalPosting r) := by
  unfold withdrawalJournal
  rw [journal, List.filter_append]
  congr 1
  exact List.filter_eq_self.mpr (terminal_withdrawal r status)

theorem move_book (book : WithdrawalBook db) (r : Withdrawal) (e : WithdrawalEvent) (moved : Moved db t r e) : WithdrawalBook t := by
  obtain ⟨member, named, moves, checked, reference, withdrawals, events, journal⟩ := moved
  have postings := terminal_postings r e.toStatus journal
  have only : ∀ x ∈ db.withdrawals, x.id = r.id → x = r := fun x inTable same =>
    unique_eq _ _ book.ids x r x.id inTable member rfl (congrArg some same.symm)
  have rows : ∀ x ∈ t.withdrawals, x = r.after e ∨ (x ∈ db.withdrawals ∧ x.id ≠ r.id) := by
    intro x inTable
    rw [withdrawals] at inTable
    obtain ⟨old, inOld, rfl⟩ := (mem_updateWhere _ _ _ _).mp inTable
    by_cases mine : old.id = r.id
    · simp [mine]
    · simp [mine, inOld]
  have inAfter : ∀ x ∈ db.withdrawals, ∃ y ∈ t.withdrawals, y.id = x.id := by
    intro x inTable
    by_cases mine : x.id = r.id
    · exact ⟨r.after e, by rw [withdrawals, mem_updateWhere]; exact ⟨r, member, by simp⟩, mine.symm⟩
    · exact ⟨x, by rw [withdrawals, mem_updateWhere]; exact ⟨x, inTable, by simp [mine]⟩, rfl⟩
  have terminalRefs : ∀ id, id ≠ r.id → ((terminalKind e.toStatus).toList.map (terminalPosting r)).filter
      (fun j => j.orderRef = some id) = [] := by
    intro id apart
    rw [List.filter_eq_nil_iff]
    intro j posting mine
    obtain ⟨k, _, rfl⟩ := List.mem_map.mp posting
    exact apart (Option.some.inj (of_decide_eq_true mine)).symm
  constructor
  · rw [withdrawals]
    exact unique_updateWhere _ _ _ _ book.ids (fun x inTable mine => by rw [only x inTable (of_decide_eq_true mine)]; rfl)
  · rw [withdrawals]
    exact unique_updateWhere _ _ _ _ book.keys (fun x inTable mine => by rw [only x inTable (of_decide_eq_true mine)]; rfl)
  · rw [withdrawals]
    refine unique_updateWhere_fresh (fun x => some x.id) _ _ _ _ book.ids book.references r r.id member ?_ rfl ?_
    · intro x _
      simp
    · have others : db.withdrawals.filter (fun x => !decide (x.id = r.id)) = db.withdrawals.filter (fun x => x.id ≠ r.id) := by
        refine List.filter_congr (fun x _ => ?_)
        rw [decide_not]
      rw [others]
      exact reference
  · intro j inJournal
    rw [postings] at inJournal
    rcases List.mem_append.mp inJournal with old | new
    · obtain ⟨x, inTable, source⟩ := book.postingSource j old
      obtain ⟨y, inAfter', same⟩ := inAfter x inTable
      exact ⟨y, inAfter', same ▸ source⟩
    · obtain ⟨k, _, rfl⟩ := List.mem_map.mp new
      obtain ⟨y, inAfter', same⟩ := inAfter r member
      exact ⟨y, inAfter', congrArg some same.symm⟩
  · intro x inLog
    rw [events] at inLog
    rcases (mem_append_one _ _ _).mp inLog with old | rfl
    · obtain ⟨y, inTable, source⟩ := book.eventSource x old
      obtain ⟨z, inAfter', same⟩ := inAfter y inTable
      exact ⟨z, inAfter', source.trans same.symm⟩
    · obtain ⟨y, inAfter', same⟩ := inAfter r member
      exact ⟨y, inAfter', named.trans same.symm⟩
  · intro x inTable
    rcases rows x inTable with rfl | ⟨old, apart⟩
    · obtain ⟨_, posted, opening, past, split, single, opens, history⟩ := book.booked r member
      refine ⟨checked, ?_, opening, past ++ [e], ?_, single, ?_, .moved past r e history moves⟩
      · have whole : ∀ ks : List JournalKind, (ks.map (terminalPosting r)).filter
          (fun j => j.orderRef = some r.id) = ks.map (terminalPosting r) := by
          intro ks
          rw [List.filter_eq_self]
          intro j posting
          obtain ⟨k, _, rfl⟩ := List.mem_map.mp posting
          exact decide_eq_true rfl
        show postingsOf t r.id = reservePosting r :: (terminalKind e.toStatus).toList.map (terminalPosting r)
        rw [postingsOf_append _ postings, posted, move_open r e moves, whole]
        rfl
      · show eventsOf t r.id = _
        rw [eventsOf_append e events, split, if_pos named, List.append_assoc]
      · exact fun y inOpening => ⟨(opens y inOpening).source, (opens y inOpening).target, (opens y inOpening).actor⟩
    · refine booked_same (book.booked x old) ?_ ?_
      · rw [postingsOf_append _ postings, terminalRefs x.id apart, List.append_nil]
      · have elsewhere : e.withdrawalId ≠ x.id := fun same => apart (same.symm.trans named)
        rw [eventsOf_append e events, if_neg elsewhere, List.append_nil]

theorem step_book (book : WithdrawalBook db) (step : WithdrawalStep db t) : WithdrawalBook t := by
  cases step with
  | beside kept => exact beside_book book kept
  | create r created => exact create_book book r created
  | record r e recorded => exact record_book book r e recorded
  | move r e moved => exact move_book book r e moved

end Book

theorem emptyDb_book (createdAt : Instant) : WithdrawalBook (emptyDb createdAt) := by
  constructor
  · exact unique_nil _
  · exact unique_nil _
  · exact unique_nil _
  · exact fun j inEmpty => by cases inEmpty
  · exact fun e inEmpty => by cases inEmpty
  · exact fun r inEmpty => by cases inEmpty

theorem run_book (createdAt : Instant) (inputs : List (Instant × Statement)) :
    WithdrawalBook (run gdsStep (emptyDb createdAt) inputs) := by
  have both : Ledger (run gdsStep (emptyDb createdAt) inputs) ∧ WithdrawalBook (run gdsStep (emptyDb createdAt) inputs) := by
    refine run_invariant gdsStep (fun db => Ledger db ∧ WithdrawalBook db) ?_ _ inputs ⟨emptyDb_ledger createdAt, emptyDb_book createdAt⟩
    intro db input held
    refine commit_of_wlp _ (fun t => Ledger t ∧ WithdrawalBook t) db held (wlp_and _ _ (execute_ledger input.1 input.2 db held.1) ?_)
    exact wlp_mono _ _ (execute_withdrawals input.1 db input.2 held.1) (fun _ t step => step_book held.2 step)
  exact both.2

section Runs

theorem closed_balance (r : Withdrawal) : let postings := reservePosting r :: (terminalKind r.status).toList.map (terminalPosting r)
    total JournalEntry.heldDeltaMinor postings = (if r.status.isOpen then r.amountMinor else 0) ∧
      total JournalEntry.availableDeltaMinor postings = -(if r.status.isOpen ∨ r.status = .paid then r.amountMinor else 0) ∧
      total JournalEntry.clearingDeltaMinor postings = (if r.status = .paid then r.amountMinor else 0) := by
  cases r.status with
  | pending => simp [terminalKind, WithdrawalStatus.isOpen, total_cons, reservePosting]
  | approved => simp [terminalKind, WithdrawalStatus.isOpen, total_cons, reservePosting]
  | processing => simp [terminalKind, WithdrawalStatus.isOpen, total_cons, reservePosting]
  | paid => simp [terminalKind, WithdrawalStatus.isOpen, total_cons, reservePosting, terminalPosting]
  | cancelled => simp [terminalKind, WithdrawalStatus.isOpen, total_cons, reservePosting, terminalPosting]
  | rejected => simp [terminalKind, WithdrawalStatus.isOpen, total_cons, reservePosting, terminalPosting]
  | failed => simp [terminalKind, WithdrawalStatus.isOpen, total_cons, reservePosting, terminalPosting]

/-- The postings of a withdrawal are its reserve and, once it is closed, the one posting that closed it. They hold the amount while it
is open, give it back when it is not paid and pass it on when it is; and no other posting names a withdrawal. -/
theorem withdrawals_posted_once (createdAt : Instant) (inputs : List (Instant × Statement)) : let db := run gdsStep (emptyDb createdAt) inputs
    (∀ r ∈ db.withdrawals, postingsOf db r.id = reservePosting r :: (terminalKind r.status).toList.map (terminalPosting r) ∧
      total JournalEntry.heldDeltaMinor (postingsOf db r.id) = (if r.status.isOpen then r.amountMinor else 0) ∧
      total JournalEntry.availableDeltaMinor (postingsOf db r.id) = -(if r.status.isOpen ∨ r.status = .paid then r.amountMinor else 0) ∧
      total JournalEntry.clearingDeltaMinor (postingsOf db r.id) = (if r.status = .paid then r.amountMinor else 0)) ∧
    ∀ j ∈ db.journal, j.kind.isWithdrawal = true → ∃ r ∈ db.withdrawals, j ∈ postingsOf db r.id := by
  intro db
  have book : WithdrawalBook db := run_book createdAt inputs
  constructor
  · intro r member
    rw [(book.booked r member).postings]
    exact ⟨rfl, closed_balance r⟩
  · intro j member kind
    have inJournal : j ∈ withdrawalJournal db := List.mem_filter.mpr ⟨member, kind⟩
    obtain ⟨r, inTable, source⟩ := book.postingSource j inJournal
    exact ⟨r, inTable, List.mem_filter.mpr ⟨inJournal, decide_eq_true source⟩⟩

theorem history_claimed (r s : Withdrawal) (moves : List WithdrawalEvent) (history : History Moves Withdrawal.after r.opened moves s) :
    (∀ admin, s.processingAdminId = some admin → ∃ c ∈ moves, c.toStatus = .processing ∧ c.actorId = admin) ∧
      ∀ e ∈ moves, e.toStatus = .paid ∨ e.toStatus = .failed → ∃ c ∈ moves, c.toStatus = .processing ∧ c.actorId = e.actorId := by
  refine history_invariant (fun es s => (∀ admin, s.processingAdminId = some admin → ∃ c ∈ es, c.toStatus = .processing ∧ c.actorId = admin) ∧
    ∀ e ∈ es, e.toStatus = .paid ∨ e.toStatus = .failed → ∃ c ∈ es, c.toStatus = .processing ∧ c.actorId = e.actorId) history ?_ ?_
  · constructor
    · intro admin named
      cases named
    · intro e inEmpty
      cases inEmpty
  · intro es s e before allowed
    obtain ⟨claims, closes⟩ := before
    have widen {actor : Uuid} (claim : ∃ c ∈ es, c.toStatus = .processing ∧ c.actorId = actor) :
        ∃ c ∈ es ++ [e], c.toStatus = .processing ∧ c.actorId = actor := by
      obtain ⟨c, member, claimed⟩ := claim
      exact ⟨c, List.mem_append_left _ member, claimed⟩
    constructor
    · intro admin named
      by_cases claiming : e.toStatus = .processing
      · refine ⟨e, List.mem_append_right _ List.mem_cons_self, claiming, ?_⟩
        unfold Withdrawal.after at named
        simp only [if_pos claiming] at named
        exact Option.some.inj named
      · unfold Withdrawal.after at named
        simp only [if_neg claiming] at named
        exact widen (claims admin named)
    · intro x member closed
      rcases (mem_append_one _ _ _).mp member with old | rfl
      · exact widen (closes x old closed)
      · exact widen (claims x.actorId (allowed.claimed closed))

theorem history_actors (r s : Withdrawal) (moves : List WithdrawalEvent) (history : History Moves Withdrawal.after r.opened moves s) :
    ∀ e ∈ moves, e.toStatus = .cancelled ↔ e.actorId = r.ownerId := by
  refine history_each _ (fun s => s.ownerId = r.ownerId) history rfl ?_
  intro s e owner allowed
  exact ⟨owner, owner ▸ allowed.actor⟩

theorem history_reference (r s : Withdrawal) (moves : List WithdrawalEvent) (history : History Moves Withdrawal.after r.opened moves s) :
    s.status = .paid ↔ s.bankTransactionRef.isSome = true := by
  refine history_invariant (fun _ s => s.status = .paid ↔ s.bankTransactionRef.isSome = true) history ?_ ?_
  · constructor
    · intro paid
      cases paid
    · intro referenced
      cases referenced
  · intro es s e before allowed
    unfold Withdrawal.after
    by_cases paid : e.toStatus = .paid
    · simp only [true_iff, paid]
      have shown := (allowed.proof paid).1
      cases reference : e.bankTransactionRef with
      | none =>
          rw [reference] at shown
          cases shown
      | some text => rfl
    · simp only [paid, false_iff]
      intro referenced
      have stillPaid := before.mpr referenced
      have movable := allowed.moves
      rw [stillPaid] at movable
      cases movable

/-- A withdrawal is what its log of events made of it: the owner acts by cancelling alone, who pays or fails it is an admin who claimed
it before, and no bank transfer pays two of them. -/
theorem withdrawals_follow_log (createdAt : Instant) (inputs : List (Instant × Statement)) : let db := run gdsStep (emptyDb createdAt) inputs
    (∀ r ∈ db.withdrawals, ∃ opening moves, eventsOf db r.id = opening ++ moves ∧ opening.length ≤ 1 ∧ (∀ e ∈ opening, OpensLog r e) ∧
      History Moves Withdrawal.after r.opened moves r ∧ r = moves.foldl Withdrawal.after r.opened ∧
      (∀ e ∈ moves, e.toStatus = .cancelled ↔ e.actorId = r.ownerId) ∧
      (∀ e ∈ moves, e.toStatus = .paid ∨ e.toStatus = .failed → ∃ c ∈ moves, c.toStatus = .processing ∧ c.actorId = e.actorId) ∧
      (r.status = .paid ↔ r.bankTransactionRef.isSome = true)) ∧
    ∀ r ∈ db.withdrawals, ∀ s ∈ db.withdrawals, r.bankTransactionRef.isSome = true → r.bankTransactionRef = s.bankTransactionRef → r = s := by
  intro db
  have book : WithdrawalBook db := run_book createdAt inputs
  constructor
  · intro r member
    obtain ⟨opening, moves, split, single, opens, history⟩ := (book.booked r member).log
    exact ⟨opening, moves, split, single, opens, history, history_foldl history, history_actors r r moves history,
      (history_claimed r r moves history).2, history_reference r r moves history⟩
  · intro r inTable s inTable' referenced same
    obtain ⟨text, named⟩ := Option.isSome_iff_exists.mp referenced
    exact unique_eq _ _ book.references r s text inTable inTable' named (same ▸ named)

end Runs

end EduAi.Gds
