import EduAi.Gds.Admitted
import EduAi.Gds.Conservation

set_option autoImplicit false

namespace EduAi.Gds

open EduAi.Store EduAi.Payments

def credits (j : JournalEntry) (t : Topup) : Prop :=
  j.kind = .topupCredit ∧ j.topupId = some t.id

instance (j : JournalEntry) (t : Topup) : Decidable (credits j t) := by
  unfold credits
  infer_instance

structure CreditLinked (db : GdsDb) : Prop where
  topupIds : UniqueKey (fun t => some t.id) db.topups
  journalTopups : UniqueKey (fun j => j.topupId) db.journal
  journalReferences : UniqueKey (fun j => j.collectionReference) db.journal
  onlyCredits : ∀ j ∈ db.journal, j.topupId.isSome → j.kind = .topupCredit
  shaped : ∀ j ∈ db.journal, postingCheck j
  backed : ∀ j ∈ db.journal, j.kind = .topupCredit → ∃ t ∈ db.topups, j.topupId = some t.id ∧ t.status = .credited ∧
    j.amountMinor = t.amountMinor ∧ j.walletId = t.walletId ∧ j.collectionReference = t.collectionReference
  posted : ∀ t ∈ db.topups, t.status = .credited → t.creditedAt.isSome ∧ ∃ j ∈ db.journal, credits j t

-- Where a top-up may still go: a credited one stays credited, a cancelled one never becomes anything but REVIEW.
def topupKept (before after : Topup) : Prop :=
  after.id = before.id ∧ after.amountMinor = before.amountMinor ∧ (before.status = .credited → after.status = .credited) ∧
  (before.status ∈ [.cancelled, .review] → after.status ∈ [.cancelled, .review])

def TopupsKept (before after : GdsDb) : Prop :=
  ∀ t ∈ before.topups, ∃ t' ∈ after.topups, topupKept t t'

theorem topupKept_refl (t : Topup) : topupKept t t :=
  ⟨rfl, rfl, id, id⟩

theorem topupsKept_refl (db : GdsDb) : TopupsKept db db :=
  fun t ht => ⟨t, ht, topupKept_refl t⟩

theorem topupsKept_trans (first second third : GdsDb) (left : TopupsKept first second) (right : TopupsKept second third) :
    TopupsKept first third := by
  intro t ht
  obtain ⟨mid, hmid, sameId, sameAmount, credited, closed⟩ := left t ht
  obtain ⟨last, hlast, sameId', sameAmount', credited', closed'⟩ := right mid hmid
  exact ⟨last, hlast, sameId'.trans sameId, sameAmount'.trans sameAmount, fun h => credited' (credited h),
    fun h => closed' (closed h)⟩

-- What one statement keeps: the links between credits and their top-ups, and where each top-up may go.
def CreditStep (before after : GdsDb) : Prop :=
  CreditLinked after ∧ TopupsKept before after

theorem creditStep_same (before after : GdsDb) (linked : CreditLinked before) (topups : after.topups = before.topups)
    (journal : after.journal = before.journal) : CreditStep before after := by
  refine ⟨⟨?_, ?_, ?_, ?_, ?_, ?_, ?_⟩, ?_⟩
  · rw [topups]
    exact linked.topupIds
  · rw [journal]
    exact linked.journalTopups
  · rw [journal]
    exact linked.journalReferences
  · rw [journal]
    exact linked.onlyCredits
  · rw [journal]
    exact linked.shaped
  · rw [journal, topups]
    exact linked.backed
  · rw [journal, topups]
    exact linked.posted
  · intro t ht
    exact ⟨t, topups ▸ ht, topupKept_refl t⟩

theorem topupMayMove_keeps (old new : TopupStatus) (allowed : new = old ∨ topupMayMove old new = true) :
    (old = .credited → new = .credited) ∧ (old ∈ [.cancelled, .review] → new ∈ [.cancelled, .review]) := by
  rcases allowed with rfl | allowed
  · exact ⟨id, id⟩
  · cases old <;> cases new <;> simp_all [topupMayMove]

theorem replaceTopup_kept (db : GdsDb) (old new : Topup) (sameId : new.id = old.id)
    (unique : UniqueKey (fun t => some t.id) db.topups) (hold : old ∈ db.topups) (kept : topupKept old new) :
    TopupsKept db (replaceTopup new db) := by
  intro t ht
  by_cases same : t.id = new.id
  · have row : t = old := unique_eq _ db.topups unique t old old.id ht hold (by rw [same, sameId]) rfl
    refine ⟨new, ?_, row ▸ kept⟩
    exact (mem_updateWhere _ _ _ _).mpr ⟨t, ht, by simp [same]⟩
  · refine ⟨t, ?_, topupKept_refl t⟩
    exact (mem_updateWhere _ _ _ _).mpr ⟨t, ht, by simp [same]⟩

theorem wlp_updateTopup (depth : Nat) (new : Topup) (db : GdsDb) (Q : Unit → GdsDb → Prop)
    (done : ∀ old ∈ db.topups, old.id = new.id → topupIdentityKept old new →
      (new.status = old.status ∨ topupMayMove old.status new.status = true) → (new.status = .credited → 2 ≤ depth) →
      topupChecks new → Q () (replaceTopup new db)) : Wlp (updateTopup depth new) Q db := by
  unfold updateTopup gdsInternalTopupSettlementGuard gdsInternalTopupGuard
  simp only [wlp_bind, wlp_get, wlp_orThrow, wlp_require, wlp_modify]
  intro old found _ _ _ _ kept moves depthEnough checked _ _
  obtain ⟨hold, sameId⟩ := find_some _ _ _ found
  exact done old hold (of_decide_eq_true sameId) kept moves depthEnough checked

theorem updateTopup_credit (db : GdsDb) (new : Topup) (linked : CreditLinked db) :
    Wlp (updateTopup 1 new) (fun _ => CreditStep db) db := by
  refine wlp_updateTopup 1 new db _ ?_
  intro old hold sameId kept moves depth _
  have newOpen : new.status ≠ .credited := fun credited => absurd (depth credited) (by decide)
  have stays := topupMayMove_keeps old.status new.status moves
  have oldOpen : old.status ≠ .credited := fun credited => newOpen (stays.1 credited)
  have only : ∀ x ∈ db.topups, x.id = new.id → x = old := fun x hx same =>
    unique_eq _ db.topups linked.topupIds x old old.id hx hold (by rw [same, sameId]) rfl
  have keptRow : topupKept old new := ⟨sameId.symm, kept.2.2.2.1, stays.1, stays.2⟩
  refine ⟨{ linked with topupIds := ?_, backed := ?_, posted := ?_ },
    replaceTopup_kept db old new sameId.symm linked.topupIds hold keptRow⟩
  · apply unique_updateWhere _ _ _ _ linked.topupIds
    intro x _ same
    rw [of_decide_eq_true same]
  · intro j hj credit
    obtain ⟨t, ht, named, credited, rest⟩ := linked.backed j hj credit
    have other : t.id ≠ new.id := fun same => oldOpen ((only t ht same) ▸ credited)
    exact ⟨t, (mem_updateWhere _ _ _ _).mpr ⟨t, ht, by simp [other]⟩, named, credited, rest⟩
  · intro t ht credited
    obtain ⟨row, hrow, rfl⟩ := (mem_updateWhere _ _ _ _).mp ht
    by_cases same : row.id = new.id
    · simp only [same, decide_true, if_true] at credited
      exact absurd credited newOpen
    · simp only [same, decide_false, Bool.false_eq_true, if_false] at credited ⊢
      exact linked.posted row hrow credited

theorem createTopup_credit (now : Instant) (db : GdsDb) (request : TopupRequest) (linked : CreditLinked db) :
    Wlp (createTopup now request) (fun _ => CreditStep db) db := by
  unfold createTopup
  simp only [wlp_bind, wlp_get, wlp_require, wlp_modify]
  intro _ _ fresh _ _
  refine ⟨{ linked with topupIds := ?_, backed := ?_, posted := ?_ }, ?_⟩
  · exact unique_append _ _ _ linked.topupIds fresh
  · intro j hj credit
    obtain ⟨t, ht, rest⟩ := linked.backed j hj credit
    exact ⟨t, List.mem_append_left _ ht, rest⟩
  · intro t ht credited
    rcases List.mem_append.mp ht with old | new
    · exact linked.posted t old credited
    · rw [List.mem_singleton.mp new] at credited
      cases credited
  · intro t ht
    exact ⟨t, List.mem_append_left _ ht, topupKept_refl t⟩

theorem postEntry_credit (db : GdsDb) (j : JournalEntry) (linked : CreditLinked db) (checked : postingCheck j)
    (freshTopup : free (fun e => e.topupId) j db.journal = true)
    (freshReference : free (fun e => e.collectionReference) j db.journal = true) (other : j.kind ≠ .topupCredit) :
    CreditLinked (postEntry j db) := by
  have unnamed : j.topupId = none := by
    unfold postingCheck at checked
    cases kind : j.kind <;> simp only [kind] at checked other <;> first | exact absurd rfl other | exact checked.2.2.2.1
  refine { linked with
    journalTopups := ?_, journalReferences := ?_, onlyCredits := ?_, shaped := ?_, backed := ?_, posted := ?_ }
  · exact unique_append _ _ _ linked.journalTopups freshTopup
  · exact unique_append _ _ _ linked.journalReferences freshReference
  · intro e he named
    rcases List.mem_append.mp he with old | new
    · exact linked.onlyCredits e old named
    · rw [List.mem_singleton.mp new, unnamed] at named
      cases named
  · intro e he
    rcases List.mem_append.mp he with old | new
    · exact linked.shaped e old
    · rw [List.mem_singleton.mp new]
      exact checked
  · intro e he credit
    rcases List.mem_append.mp he with old | new
    · exact linked.backed e old credit
    · rw [List.mem_singleton.mp new] at credit
      exact absurd credit other
  · intro t ht credited
    obtain ⟨at_, e, he, named⟩ := linked.posted t ht credited
    exact ⟨at_, e, List.mem_append_left _ he, named⟩

theorem moveWallet_credit (db before : GdsDb) (onlyActive : Bool) (id : Uuid) (available held : Int) (fault : Fault)
    (step : CreditStep before db) : Wlp (moveWallet onlyActive id available held fault) (fun _ => CreditStep before) db := by
  unfold moveWallet
  simp only [wlp_bind, wlp_get, wlp_orThrow, wlp_require, wlp_modify]
  intro w _ _
  have same := creditStep_same db (replaceWallet (w.moved available held) db) step.1 rfl rfl
  exact ⟨same.1, topupsKept_trans _ _ _ step.2 same.2⟩

theorem creditTopup_credit (now : Instant) (db : GdsDb) (j : JournalEntry) (linked : CreditLinked db)
    (checked : postingCheck j) (kind : j.kind = .topupCredit)
    (freshTopup : free (fun e => e.topupId) j db.journal = true)
    (freshReference : free (fun e => e.collectionReference) j db.journal = true) :
    Wlp (creditTopup now j) (fun _ => CreditStep db) (postEntry j db) := by
  unfold creditTopup
  simp only [wlp_bind, wlp_get, wlp_orThrow, wlp_require]
  intro t found source
  obtain ⟨ht, named⟩ := find_some _ _ _ found
  have ht : t ∈ db.topups := ht
  have named : some t.id = j.topupId := of_decide_eq_true named
  obtain ⟨verified, wallet, amount, reference, _⟩ := source
  refine wlp_updateTopup 2 (t.creditedRow now) (postEntry j db) _ ?_
  intro _ _ _ _ _ _ _
  have only : ∀ x ∈ db.topups, x.id = t.id → x = t := fun x hx same =>
    unique_eq _ db.topups linked.topupIds x t t.id hx ht (by rw [same]) rfl
  have row : t.creditedRow now ∈ (replaceTopup (t.creditedRow now) db).topups :=
    (mem_updateWhere _ _ _ _).mpr ⟨t, ht, by simp [Topup.creditedRow]⟩
  have keptRow : topupKept t (t.creditedRow now) := by
    refine ⟨rfl, rfl, fun _ => rfl, ?_⟩
    intro closed
    rw [verified] at closed
    simp at closed
  refine ⟨{ linked with
    topupIds := ?_, journalTopups := ?_, journalReferences := ?_, onlyCredits := ?_, shaped := ?_, backed := ?_, posted := ?_ },
    replaceTopup_kept db t (t.creditedRow now) rfl linked.topupIds ht keptRow⟩
  · apply unique_updateWhere _ _ _ _ linked.topupIds
    intro x _ same
    rw [of_decide_eq_true same]
  · exact unique_append _ _ _ linked.journalTopups freshTopup
  · exact unique_append _ _ _ linked.journalReferences freshReference
  · intro e he named
    rcases List.mem_append.mp he with old | new
    · exact linked.onlyCredits e old named
    · rw [List.mem_singleton.mp new]
      exact kind
  · intro e he
    rcases List.mem_append.mp he with old | new
    · exact linked.shaped e old
    · rw [List.mem_singleton.mp new]
      exact checked
  · intro e he credit
    rcases List.mem_append.mp he with old | new
    · obtain ⟨x, hx, xNamed, credited, rest⟩ := linked.backed e old credit
      have other : x.id ≠ t.id := by
        intro same
        rw [only x hx same, verified] at credited
        cases credited
      exact ⟨x, (mem_updateWhere _ _ _ _).mpr ⟨x, hx, by simp [other, Topup.creditedRow]⟩, xNamed, credited, rest⟩
    · rw [List.mem_singleton.mp new]
      exact ⟨t.creditedRow now, row, named.symm, rfl, amount.symm, wallet.symm, reference.symm⟩
  · intro x hx credited
    obtain ⟨old, hold, rfl⟩ := (mem_updateWhere _ _ _ _).mp hx
    by_cases same : old.id = (t.creditedRow now).id
    · simp only [same, decide_true, if_true]
      exact ⟨rfl, j, List.mem_append_right _ (List.mem_singleton.mpr rfl), kind, named.symm⟩
    · simp only [same, decide_false, Bool.false_eq_true, if_false] at credited ⊢
      obtain ⟨at_, e, he, eNamed⟩ := linked.posted old hold credited
      exact ⟨at_, e, List.mem_append_left _ he, eNamed⟩

theorem holds_credit (before db : GdsDb) (holds : List Hold) (step : CreditStep before db) :
    CreditStep before { db with holds } := by
  have same := creditStep_same db { db with holds } step.1 rfl rfl
  exact ⟨same.1, topupsKept_trans _ _ _ step.2 same.2⟩

theorem insertJournal_credit (now : Instant) (db : GdsDb) (j : JournalEntry) (linked : CreditLinked db) :
    Wlp (insertJournal now j) (fun _ => CreditStep db) db := by
  unfold insertJournal
  simp only [wlp_bind, wlp_get, wlp_require, wlp_modify, wlp_ite]
  intro checked _ _ _ freshTopup freshReference _
  have checked := checked.2.2
  by_cases credit : j.kind = .topupCredit
  · refine ⟨?_, fun extended => absurd (by rw [credit]; rfl) extended⟩
    intro _
    unfold gdsInternalApplyJournal applySource
    simp only [credit, wlp_bind]
    refine wlp_mono _ _ (creditTopup_credit now db j linked checked credit freshTopup freshReference) ?_
    intro _ after step
    exact moveWallet_credit after db true _ _ _ _ step
  · have posted : CreditStep db (postEntry j db) :=
      ⟨postEntry_credit db j linked checked freshTopup freshReference credit, fun t ht => ⟨t, ht, topupKept_refl t⟩⟩
    refine ⟨?_, ?_⟩
    · intro original
      unfold gdsInternalApplyJournal applySource createHold closeHold
      cases kind : j.kind <;> simp only [kind, JournalKind.isOriginal, Bool.false_eq_true] at credit original ⊢
      · exact absurd trivial credit
      · simp only [wlp_bind, wlp_get, wlp_orThrow, wlp_require, wlp_modify]
        intro _ _ _
        exact moveWallet_credit _ db true _ _ _ _ (holds_credit db (postEntry j db) _ posted)
      · simp only [wlp_bind, wlp_get, wlp_require, wlp_modify]
        intro _
        exact moveWallet_credit _ db true _ _ _ _ (holds_credit db (postEntry j db) _ posted)
      · simp only [wlp_bind, wlp_get, wlp_require, wlp_modify]
        intro _
        exact moveWallet_credit _ db true _ _ _ _ (holds_credit db (postEntry j db) _ posted)
    · intro _
      unfold gdsExtendedJournalApply extendedSource
      simp only [wlp_bind, wlp_get, wlp_ite, wlp_orThrow, wlp_require]
      refine ⟨?_, ?_⟩
      · intro _ _ _ _
        exact moveWallet_credit _ db false _ _ _ _ posted
      · intro _ _
        exact moveWallet_credit _ db false _ _ _ _ posted

theorem insertJournal_after (now : Instant) (before db : GdsDb) (j : JournalEntry) (step : CreditStep before db) :
    Wlp (insertJournal now j) (fun _ => CreditStep before) db := by
  refine wlp_mono _ _ (insertJournal_credit now db j step.1) ?_
  intro _ after posted
  exact ⟨posted.1, topupsKept_trans _ _ _ step.2 posted.2⟩

theorem execute_credit (now : Instant) (statement : Statement) (db : GdsDb) (linked : CreditLinked db) :
    Wlp (execute now statement) (fun _ => CreditStep db) db := by
  cases statement with
  | createWallet id buyerId =>
      simp only [execute, createWallet, wlp_bind, wlp_get, wlp_require, wlp_modify]
      intro _ _
      exact creditStep_same db _ linked rfl rfl
  | setWalletStatus id status =>
      simp only [execute, setWalletStatus, wlp_bind, wlp_get, wlp_orThrow, wlp_modify]
      intro _ _
      exact creditStep_same db _ linked rfl rfl
  | createTopup request => exact createTopup_credit now db request linked
  | updateTopup new => exact updateTopup_credit db new linked
  | createInbox row =>
      simp only [execute, createInbox, wlp_bind, wlp_get, wlp_require, wlp_modify]
      intro _ _ _ _
      exact creditStep_same db _ linked rfl rfl
  | updateInbox new =>
      simp only [execute, updateInbox, wlp_bind, wlp_get, wlp_require, wlp_modify, wlp_orThrow]
      intro _ _ _ _
      exact creditStep_same db _ linked rfl rfl
  | createReconciliation row =>
      simp only [execute, createReconciliation, wlp_bind, wlp_get, wlp_require, wlp_modify, wlp_orThrow]
      intro _ _ _ _ _ _ _ _ _
      exact creditStep_same db _ linked rfl rfl
  | insertJournal entry => exact insertJournal_credit now db entry linked
  | updateSettings new =>
      simp only [execute, updateSettings, wlp_bind, wlp_get, wlp_require, wlp_modify, wlp_orThrow]
      intro _ _ _
      exact creditStep_same db _ linked rfl rfl
  | insertWithdrawal row =>
      simp only [execute, insertWithdrawal, wlp_bind, wlp_get, wlp_require, wlp_modify, wlp_orThrow]
      intro _ _ _ _ _ _
      exact insertJournal_after now db _ _ (creditStep_same db _ linked rfl rfl)
  | insertWithdrawalEvent row =>
      simp only [execute, insertWithdrawalEvent, wlp_bind, wlp_get, wlp_require, wlp_modify, wlp_orThrow]
      intro _ _ r _
      cases row.fromStatus with
      | none =>
          simp only [wlp_require]
          intro _
          exact creditStep_same db _ linked rfl rfl
      | some from_ =>
          simp only [moveWithdrawal, wlp_bind, wlp_get, wlp_require, wlp_modify]
          intro _ _ _ _ _ _ _ _ _
          cases terminalKind row.toStatus with
          | none =>
              simp only [wlp_pure]
              exact creditStep_same db _ linked rfl rfl
          | some k => exact insertJournal_after now db _ _ (creditStep_same db _ linked rfl rfl)
  | createEarningPeriod row =>
      simp only [execute, createEarningPeriod, wlp_bind, wlp_get, wlp_require, wlp_modify]
      intro _ _
      exact creditStep_same db _ linked rfl rfl
  | createLedgerEntry row =>
      simp only [execute, createLedgerEntry, wlp_bind, wlp_get, wlp_require, wlp_modify]
      intro _ _ _
      exact creditStep_same db _ linked rfl rfl
  | createProjection row =>
      simp only [execute, createProjection, wlp_bind, wlp_get, wlp_require, wlp_modify]
      intro _ _ _
      exact creditStep_same db _ linked rfl rfl
  | updateProjection new =>
      simp only [execute, updateProjection, wlp_bind, wlp_get, wlp_require, wlp_modify, wlp_orThrow, wlp_ite]
      intro _ _ _ _
      exact ⟨fun _ _ _ => creditStep_same db _ linked rfl rfl, fun _ _ _ => creditStep_same db _ linked rfl rfl⟩
  | insertEffect settled row =>
      simp only [execute, insertEffect, gdsRevenueEffectApply, postRevenueSplit, wlp_bind, wlp_get, wlp_require, wlp_modify,
        wlp_orThrow, wlp_ite, wlp_pure]
      intro _ _ _ _ _ _ _ _ _ _ _
      exact ⟨fun _ => insertJournal_after now db _ _ (creditStep_same db _ linked rfl rfl),
        fun _ => creditStep_same db _ linked rfl rfl⟩

theorem emptyDb_linked (createdAt : Instant) : CreditLinked (emptyDb createdAt) := by
  constructor <;> simp [emptyDb, UniqueKey]

theorem admits_linked (before after : GdsDb) (admits : Admits before after) (linked : CreditLinked before) :
    CreditLinked after :=
  admits_invariant CreditLinked
    (fun now s db holds => wlp_mono _ _ (execute_credit now s db holds) (fun _ _ step => step.1)) before after admits linked

theorem admits_kept (before after : GdsDb) (admits : Admits before after) (linked : CreditLinked before) :
    TopupsKept before after := by
  obtain ⟨inputs, rfl⟩ := admits
  refine run_relation gdsStep TopupsKept topupsKept_refl topupsKept_trans CreditLinked ?_ ?_ before inputs linked
  · intro db input holds
    exact commit_of_wlp _ _ db holds (wlp_mono _ _ (execute_credit input.1 input.2 db holds) (fun _ _ step => step.1))
  · intro db input holds
    exact commit_of_wlp _ (TopupsKept db) db (topupsKept_refl db)
      (wlp_mono _ _ (execute_credit input.1 input.2 db holds) (fun _ _ step => step.2))

structure CreditedOnce (db : GdsDb) : Prop where
  oneJournal : ∀ t ∈ db.topups, db.journal.countP (fun j => credits j t) ≤ 1
  oneCollection : ∀ reference, db.journal.countP (fun j => j.kind = .topupCredit ∧ j.collectionReference = some reference) ≤ 1
  ownAmount : ∀ t ∈ db.topups, ∀ j ∈ db.journal, credits j t →
    j.amountMinor = t.amountMinor ∧ j.availableDeltaMinor = t.amountMinor ∧ j.walletId = t.walletId
  creditedIff : ∀ t ∈ db.topups, t.status = .credited ↔ ∃ j ∈ db.journal, credits j t
  neverBoth : ∀ t ∈ db.topups, (∃ j ∈ db.journal, credits j t) →
    t.status ≠ .cancelled ∧ ∀ now, topupStatus now db t ≠ .cancelled ∧ topupStatus now db t ≠ .expired

theorem countP_le_of_imp {α : Type} (p q : α → Bool) (rows : List α) (weaker : ∀ r ∈ rows, p r = true → q r = true) (n : Nat)
    (bound : rows.countP q ≤ n) : rows.countP p ≤ n :=
  Nat.le_trans (List.countP_mono_left weaker) bound

theorem linked_creditedIff (db : GdsDb) (linked : CreditLinked db) (t : Topup) (ht : t ∈ db.topups) :
    t.status = .credited ↔ ∃ j ∈ db.journal, credits j t := by
  constructor
  · intro credited
    exact (linked.posted t ht credited).2
  · rintro ⟨j, hj, kind, named⟩
    obtain ⟨x, hx, xNamed, credited, _⟩ := linked.backed j hj kind
    have same : x = t := unique_eq _ db.topups linked.topupIds x t t.id hx ht (by rw [← xNamed, named]) rfl
    exact same ▸ credited

theorem linked_once (db : GdsDb) (linked : CreditLinked db) : CreditedOnce db := by
  refine ⟨?_, ?_, ?_, linked_creditedIff db linked, ?_⟩
  · intro t _
    refine countP_le_of_imp _ _ _ ?_ 1 (unique_count_le_one _ _ linked.journalTopups t.id)
    intro j _ credit
    simpa using (of_decide_eq_true credit).2
  · intro reference
    refine countP_le_of_imp _ _ _ ?_ 1 (unique_count_le_one _ _ linked.journalReferences reference)
    intro j _ credit
    simpa using (of_decide_eq_true credit).2
  · intro t ht j hj credit
    obtain ⟨x, hx, xNamed, _, amount, wallet, _⟩ := linked.backed j hj credit.1
    have same : x = t := unique_eq _ db.topups linked.topupIds x t t.id hx ht (by rw [← xNamed, credit.2]) rfl
    have posting := linked.shaped j hj
    unfold postingCheck at posting
    rw [credit.1] at posting
    subst same
    exact ⟨amount, posting.1.trans amount, wallet⟩
  · intro t ht credit
    have credited := (linked_creditedIff db linked t ht).mpr credit
    refine ⟨by rw [credited]; decide, ?_⟩
    intro now
    unfold topupStatus
    rw [if_pos credited]
    split <;> exact ⟨by decide, by decide⟩

-- A top-up that is cancelled in one state is credited in no later one, and one that is credited is never cancelled later.
def NeverCrosses (earlier later : GdsDb) : Prop :=
  ∀ t ∈ earlier.topups, ∀ t' ∈ later.topups, t'.id = t.id →
    (t.status = .cancelled → t'.status ≠ .credited) ∧ (t.status = .credited → t'.status = .credited)

theorem kept_never_crosses (earlier later : GdsDb) (linked : CreditLinked later) (kept : TopupsKept earlier later) :
    NeverCrosses earlier later := by
  intro t ht t' ht' sameId
  obtain ⟨after, hafter, id, _, credited, closed⟩ := kept t ht
  have same : after = t' :=
    unique_eq _ later.topups linked.topupIds after t' t.id hafter ht' (by rw [id]) (by rw [sameId])
  subst same
  refine ⟨?_, credited⟩
  intro cancelled still
  have := closed (by rw [cancelled]; decide)
  rw [still] at this
  simp at this

/-- For every interleaving of the steps of every caller, at its end and between any two of its states. -/
theorem topup_credited_exactly_once (parseUrl : String → Option Url) (hashAccount : String → String) (createdAt : Instant)
    (first second : List (Instant × TopupStep)) :
    CreditedOnce (run (topupStep parseUrl hashAccount) (emptySystem createdAt) (first ++ second)).db ∧
      NeverCrosses (run (topupStep parseUrl hashAccount) (emptySystem createdAt) first).db
        (run (topupStep parseUrl hashAccount) (emptySystem createdAt) (first ++ second)).db := by
  have linkedFirst := admits_linked _ _ (topupRun_admits parseUrl hashAccount (emptySystem createdAt) first) (emptyDb_linked createdAt)
  have between := topupRun_admits parseUrl hashAccount (run (topupStep parseUrl hashAccount) (emptySystem createdAt) first) second
  have linkedSecond := admits_linked _ _ between linkedFirst
  rw [run_append]
  exact ⟨linked_once _ linkedSecond, kept_never_crosses _ _ linkedSecond (admits_kept _ _ between linkedFirst)⟩

theorem topup_services_conserve (parseUrl : String → Option Url) (hashAccount : String → String) (createdAt : Instant)
    (steps : List (Instant × TopupStep)) :
    Conserved (run (topupStep parseUrl hashAccount) (emptySystem createdAt) steps).db :=
  wallet_conserved _ (admits_invariant Ledger execute_ledger _ _
    (topupRun_admits parseUrl hashAccount (emptySystem createdAt) steps) (emptyDb_ledger createdAt))

end EduAi.Gds
