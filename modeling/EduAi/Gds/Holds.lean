import EduAi.Gds.Conservation
import EduAi.Store.Programs

set_option autoImplicit false

namespace EduAi.Gds

open EduAi.Store

def JournalKind.isPayment : JournalKind → Bool
  | .reserve | .capture | .release => true
  | _ => false

def heldFor (j : JournalEntry) (orderRef : String) : Hold where
  walletId := j.walletId
  orderRef := orderRef
  amountMinor := j.amountMinor
  status := .reserved

def closedAs (kind : JournalKind) : HoldStatus :=
  if kind = .capture then .captured else .released

def closeHolds (j : JournalEntry) (holds : List Hold) : List Hold :=
  updateWhere (fun h => holdMatches j h) (fun h => { h with status := closedAs j.kind }) holds

-- What a statement can do to the wallets, the journal and the holds, one write at a time.
inductive HoldWrite : GdsDb → GdsDb → Prop where
  | beside (g t : GdsDb) (wallets : t.wallets = g.wallets) (journal : t.journal = g.journal) (holds : t.holds = g.holds) :
      HoldWrite g t
  | openWallet (g : GdsDb) (row : Wallet) (fresh : free (fun w => some w.id) row g.wallets = true) :
      HoldWrite g { g with wallets := g.wallets ++ [row] }
  | moveWallet (g : GdsDb) (old new : Wallet) (member : old ∈ g.wallets) (id : new.id = old.id) (buyer : new.buyerId = old.buyerId) :
      HoldWrite g (replaceWallet new g)
  | post (g : GdsDb) (j : JournalEntry) (fresh : free (fun e => some e.eventKey) j g.journal = true)
      (apart : j.kind.isPayment = false) : HoldWrite g { g with journal := g.journal ++ [j] }
  | reserve (g : GdsDb) (j : JournalEntry) (orderRef : String) (fresh : free (fun e => some e.eventKey) j g.journal = true)
      (kind : j.kind = .reserve) (named : j.orderRef = some orderRef)
      (unheld : free (fun h => some h.orderRef) (heldFor j orderRef) g.holds = true) :
      HoldWrite g { g with journal := g.journal ++ [j], holds := g.holds ++ [heldFor j orderRef] }
  | close (g : GdsDb) (j : JournalEntry) (h : Hold) (fresh : free (fun e => some e.eventKey) j g.journal = true)
      (kind : j.kind = .capture ∨ j.kind = .release) (member : h ∈ g.holds) (held : holdMatches j h) :
      HoldWrite g { g with journal := g.journal ++ [j], holds := closeHolds j g.holds }

section Statements

theorem modify_beside (f : GdsDb → GdsDb)
    (apart : ∀ g, (f g).wallets = g.wallets ∧ (f g).journal = g.journal ∧ (f g).holds = g.holds) :
    Program HoldWrite (modify f : GdsTxn PUnit) := by
  constructor
  intro g
  obtain ⟨wallets, journal, holds⟩ := apart g
  rw [wlp_modify]
  exact writes_one _ _ (.beside g (f g) wallets journal holds)

theorem moveWallet_holds (onlyActive : Bool) (walletId : Uuid) (available held : Int) (unavailable : Fault) :
    Program HoldWrite (moveWallet onlyActive walletId available held unavailable) := by
  constructor
  intro g
  simp only [moveWallet, wlp_bind, wlp_get, wlp_orThrow, wlp_require, wlp_modify]
  intro w found _
  exact writes_one _ _ (.moveWallet g w _ (find_some _ g.wallets w found).1 rfl rfl)

theorem updateTopup_holds (depth : Nat) (new : Topup) : Program HoldWrite (updateTopup depth new) :=
  program_get.bind (fun _ => (program_orThrow _ _).bind (fun _ =>
    (program_get.bind (fun _ => (program_require _ _).bind (fun _ => (program_require _ _).bind (fun _ =>
      (program_require _ _).bind (fun _ => program_require _ _))))).bind (fun _ =>
    ((program_require _ _).bind (fun _ => (program_require _ _).bind (fun _ => program_require _ _))).bind (fun _ =>
      (program_require _ _).bind (fun _ => (program_require _ _).bind (fun _ => (program_require _ _).bind (fun _ =>
        modify_beside _ (by exact fun _ => ⟨rfl, rfl, rfl⟩))))))))

theorem payment_holds (now : Instant) (j : JournalEntry) (g : GdsDb) (fresh : free (fun e => some e.eventKey) j g.journal = true)
    (payment : j.kind.isPayment = true) :
    Wlp (applySource now j) (fun _ t => HoldWrite g t) { g with journal := g.journal ++ [j] } := by
  have closes : j.kind = .capture ∨ j.kind = .release →
      Wlp (closeHold j (closedAs j.kind)) (fun _ t => HoldWrite g t) { g with journal := g.journal ++ [j] } := by
    intro kind
    simp only [closeHold, wlp_bind, wlp_get, wlp_require, wlp_modify]
    intro held
    obtain ⟨h, hh, matched⟩ := List.any_eq_true.mp held
    exact .close g j h fresh kind hh (of_decide_eq_true matched)
  unfold applySource
  cases kind : j.kind <;> rw [kind] at payment closes <;> try cases payment
  · simp only [wlp_bind, wlp_orThrow, createHold, wlp_get, wlp_require, wlp_modify]
    exact fun orderRef named unheld => .reserve g j orderRef fresh kind named unheld
  · exact closes (.inl rfl)
  · exact closes (.inr rfl)

theorem insertJournal_holds (now : Instant) (j : JournalEntry) : Program HoldWrite (insertJournal now j) := by
  constructor
  intro g
  simp only [insertJournal, wlp_bind, wlp_get, wlp_require, wlp_modify]
  intro _ _ _ fresh _ _ _
  by_cases payment : j.kind.isPayment = true
  · have original : j.kind.isOriginal = true := by
      revert payment
      cases j.kind <;> decide
    rw [if_pos original, gdsInternalApplyJournal, wlp_bind]
    refine wlp_mono _ _ (payment_holds now j g fresh payment) ?_
    intro _ s held
    refine wlp_mono _ _ ((moveWallet_holds _ _ _ _ _).within s) ?_
    exact fun _ t moved => writes_trans _ _ _ (writes_one _ _ held) moved
  · have posted := writes_one _ _ (HoldWrite.post g j fresh (by simpa using payment))
    have continues : Program HoldWrite
        (if j.kind.isOriginal then gdsInternalApplyJournal now j else gdsExtendedJournalApply j) := by
      by_cases original : j.kind.isOriginal = true
      · have credit : j.kind = .topupCredit := by
          revert payment original
          cases j.kind <;> decide
        rw [if_pos original, gdsInternalApplyJournal]
        refine Program.bind ?_ (fun _ => moveWallet_holds _ _ _ _ _)
        rw [applySource, credit]
        exact program_get.bind (fun _ => (program_orThrow _ _).bind (fun _ => (program_require _ _).bind
          (fun _ => updateTopup_holds _ _)))
      · rw [if_neg original]
        exact (program_get.bind (fun _ => program_ite _ _ _ ((program_orThrow _ _).bind (fun _ => program_require _ _))
          (program_require _ _))).bind (fun _ => moveWallet_holds _ _ _ _ _)
    refine wlp_mono _ _ (continues.within _) ?_
    exact fun _ t moved => writes_trans _ _ _ posted moved

theorem insertWithdrawal_holds (now : Instant) (r : Withdrawal) : Program HoldWrite (insertWithdrawal now r) :=
  program_get.bind (fun _ => (program_orThrow _ _).bind (fun _ => (program_require _ _).bind (fun _ =>
    (program_require _ _).bind (fun _ => (program_require _ _).bind (fun _ => (program_require _ _).bind (fun _ =>
      (modify_beside _ (by exact fun _ => ⟨rfl, rfl, rfl⟩)).bind (fun _ => insertJournal_holds _ _)))))))

theorem moveWithdrawal_holds (now : Instant) (r : Withdrawal) (from_ : WithdrawalStatus) (e : WithdrawalEvent) :
    Program HoldWrite (moveWithdrawal now r from_ e) := by
  refine program_get.bind (fun _ => (program_require _ _).bind (fun _ => (program_require _ _).bind (fun _ =>
    (program_require _ _).bind (fun _ => (program_require _ _).bind (fun _ => (program_require _ _).bind (fun _ =>
      (program_require _ _).bind (fun _ => (program_require _ _).bind (fun _ => (program_require _ _).bind (fun _ =>
        (program_require _ _).bind (fun _ => (modify_beside _ (by exact fun _ => ⟨rfl, rfl, rfl⟩)).bind
          (fun _ => ?_)))))))))))
  split
  · exact insertJournal_holds _ _
  · exact program_pure _

theorem insertWithdrawalEvent_holds (now : Instant) (e : WithdrawalEvent) : Program HoldWrite (insertWithdrawalEvent now e) := by
  refine program_get.bind (fun _ => (program_require _ _).bind (fun _ => (program_require _ _).bind (fun _ =>
    (modify_beside _ (by exact fun _ => ⟨rfl, rfl, rfl⟩)).bind (fun _ => program_get.bind (fun _ =>
      (program_orThrow _ _).bind (fun r => ?_))))))
  split
  · exact program_require _ _
  · exact moveWithdrawal_holds _ _ _ _

theorem postRevenueSplit_holds (now : Instant) (e : RevenueEffect) (p : RevenueProjection) (w : Wallet) (target : Int)
    (g : GdsDb) (member : w ∈ g.wallets) :
    Wlp (postRevenueSplit now e p w target) (fun _ t => Writes HoldWrite g t) g := by
  simp only [postRevenueSplit, wlp_bind, wlp_require, wlp_modify]
  intro _ _
  have applied := HoldWrite.beside g (replaceProjection (p.applied (target - p.historicalPaidMinor) e.revision) g) rfl rfl rfl
  have owing := HoldWrite.moveWallet (replaceProjection (p.applied (target - p.historicalPaidMinor) e.revision) g) w
    (w.owing (revenueSplit target p w).debt) member rfl rfl
  have path := (writes_one _ _ applied).tail owing
  refine wlp_mono _ _ ((program_ite _ _ _ (insertJournal_holds now _) (program_pure _)).within _) ?_
  exact fun _ t posted => writes_trans _ _ _ path posted

theorem insertEffect_holds (now : Instant) (settled : Bool) (e : RevenueEffect) : Program HoldWrite (insertEffect now settled e) := by
  constructor
  intro g
  simp only [insertEffect, gdsRevenueEffectApply, wlp_bind, wlp_get, wlp_require, wlp_modify, wlp_orThrow]
  intro _ _ _ p _ _ w found _
  have recorded := HoldWrite.beside g (recordEffect e g) rfl rfl rfl
  refine wlp_mono _ _ (postRevenueSplit_holds now e p w _ _ (find_some _ _ w found).1) ?_
  exact fun _ t posted => writes_trans _ _ _ (writes_one _ _ recorded) posted

theorem createWallet_holds (id buyerId : Uuid) : Program HoldWrite (createWallet id buyerId) := by
  constructor
  intro g
  simp only [createWallet, wlp_bind, wlp_get, wlp_require, wlp_modify]
  exact fun fresh _ => writes_one _ _ (.openWallet g _ fresh)

theorem setWalletStatus_holds (id : Uuid) (status : WalletStatus) : Program HoldWrite (setWalletStatus id status) := by
  constructor
  intro g
  simp only [setWalletStatus, wlp_bind, wlp_get, wlp_orThrow, wlp_modify]
  exact fun w found => writes_one _ _ (.moveWallet g w _ (find_some _ _ w found).1 rfl rfl)

theorem execute_holds (now : Instant) (statement : Statement) : Program HoldWrite (execute now statement) := by
  cases statement with
  | createWallet id buyerId => exact createWallet_holds id buyerId
  | setWalletStatus id status => exact setWalletStatus_holds id status
  | createTopup request => exact program_get.bind (fun _ => (program_require _ _).bind (fun _ => (program_require _ _).bind
      (fun _ => (program_require _ _).bind (fun _ => (program_require _ _).bind (fun _ => (program_require _ _).bind
        (fun _ => modify_beside _ (by exact fun _ => ⟨rfl, rfl, rfl⟩)))))))
  | updateTopup new => exact updateTopup_holds 1 new
  | createInbox row => exact program_get.bind (fun _ => (program_require _ _).bind (fun _ => (program_require _ _).bind
      (fun _ => (program_require _ _).bind (fun _ => (program_require _ _).bind
        (fun _ => modify_beside _ (by exact fun _ => ⟨rfl, rfl, rfl⟩))))))
  | updateInbox new => exact program_get.bind (fun _ => (program_orThrow _ _).bind (fun _ => (program_require _ _).bind
      (fun _ => (program_require _ _).bind (fun _ => modify_beside _ (by exact fun _ => ⟨rfl, rfl, rfl⟩)))))
  | createReconciliation row => exact program_get.bind (fun _ => (program_orThrow _ _).bind (fun _ =>
      (program_orThrow _ _).bind (fun _ => (program_require _ _).bind (fun _ => (program_require _ _).bind (fun _ =>
        (program_require _ _).bind (fun _ => (program_require _ _).bind (fun _ => (program_require _ _).bind (fun _ =>
          modify_beside _ (by exact fun _ => ⟨rfl, rfl, rfl⟩)))))))))
  | insertJournal entry => exact insertJournal_holds now entry
  | updateSettings new => exact program_get.bind (fun _ => (program_orThrow _ _).bind (fun _ => (program_require _ _).bind
      (fun _ => modify_beside _ (by exact fun _ => ⟨rfl, rfl, rfl⟩))))
  | insertWithdrawal row => exact insertWithdrawal_holds now row
  | insertWithdrawalEvent row => exact insertWithdrawalEvent_holds now row
  | createEarningPeriod row => exact program_get.bind (fun _ => (program_require _ _).bind (fun _ => (program_require _ _).bind
      (fun _ => modify_beside _ (by exact fun _ => ⟨rfl, rfl, rfl⟩))))
  | createLedgerEntry row => exact program_get.bind (fun _ => (program_require _ _).bind (fun _ => (program_require _ _).bind
      (fun _ => (program_require _ _).bind (fun _ => modify_beside _ (by exact fun _ => ⟨rfl, rfl, rfl⟩)))))
  | createProjection row => exact program_get.bind (fun _ => (program_require _ _).bind (fun _ => (program_require _ _).bind
      (fun _ => (program_require _ _).bind (fun _ => modify_beside _ (by exact fun _ => ⟨rfl, rfl, rfl⟩)))))
  | updateProjection new =>
    have reviewed : ∀ (p : Prop) [Decidable p] (fault : Fault), Program HoldWrite (do
        require p fault
        require (0 ≤ new.historicalPaidMinor) (.check "gds_revenue_projections_historical_paid_minor_check")
        modify (replaceProjection new)) := fun _ _ _ => (program_require _ _).bind (fun _ => (program_require _ _).bind
      (fun _ => modify_beside _ (by exact fun _ => ⟨rfl, rfl, rfl⟩)))
    exact program_get.bind (fun _ => (program_orThrow _ _).bind (fun _ => (program_require _ _).bind
      (fun _ => (program_require _ _).bind (fun _ => program_ite _ _ _ (reviewed _ _) (reviewed _ _)))))
  | insertEffect settled row => exact insertEffect_holds now settled row

end Statements

structure HoldsPosted (g : GdsDb) : Prop where
  wallets : UniqueKey (fun w => some w.id) g.wallets
  keys : UniqueKey (fun j => some j.eventKey) g.journal
  refs : UniqueKey (fun h => some h.orderRef) g.holds
  reserves : ∀ ref, g.journal.countP (fun j => j.kind = .reserve ∧ j.orderRef = some ref) =
    g.holds.countP (fun h => h.orderRef = ref)
  captures : ∀ ref, g.journal.countP (fun j => j.kind = .capture ∧ j.orderRef = some ref) =
    g.holds.countP (fun h => h.orderRef = ref ∧ h.status = .captured)
  posted : ∀ j ∈ g.journal, j.kind = .reserve ∨ j.kind = .capture → ∃ h ∈ g.holds, j.orderRef = some h.orderRef ∧
    j.walletId = h.walletId ∧ j.amountMinor = h.amountMinor

structure HoldKept (h h' : Hold) : Prop where
  walletId : h'.walletId = h.walletId
  orderRef : h'.orderRef = h.orderRef
  amount : h'.amountMinor = h.amountMinor
  ended : h.status ≠ .reserved → h'.status = h.status

structure WalletKept (w w' : Wallet) : Prop where
  id : w'.id = w.id
  buyer : w'.buyerId = w.buyerId

structure GdsKept (g t : GdsDb) : Prop where
  wallets : Carried WalletKept g.wallets t.wallets
  journal : g.journal <+: t.journal
  holds : Carried HoldKept g.holds t.holds

theorem holdKept_refl (h : Hold) : HoldKept h h :=
  ⟨rfl, rfl, rfl, fun _ => rfl⟩

theorem holdKept_trans (a b c : Hold) (first : HoldKept a b) (second : HoldKept b c) : HoldKept a c := by
  refine ⟨second.walletId.trans first.walletId, second.orderRef.trans first.orderRef, second.amount.trans first.amount, ?_⟩
  intro ended
  have same := first.ended ended
  exact (second.ended (by rw [same]; exact ended)).trans same

theorem walletKept_refl (w : Wallet) : WalletKept w w :=
  ⟨rfl, rfl⟩

theorem walletKept_trans (a b c : Wallet) (first : WalletKept a b) (second : WalletKept b c) : WalletKept a c :=
  ⟨second.id.trans first.id, second.buyer.trans first.buyer⟩

theorem gdsKept_refl (g : GdsDb) : GdsKept g g :=
  ⟨carried_refl _ walletKept_refl _, List.prefix_refl _, carried_refl _ holdKept_refl _⟩

theorem gdsKept_trans (a b c : GdsDb) (first : GdsKept a b) (second : GdsKept b c) : GdsKept a c :=
  ⟨carried_trans _ walletKept_trans _ _ _ first.wallets second.wallets, first.journal.trans second.journal,
    carried_trans _ holdKept_trans _ _ _ first.holds second.holds⟩

theorem emptyDb_posted (createdAt : Instant) : HoldsPosted (emptyDb createdAt) := by
  refine ⟨unique_nil _, unique_nil _, unique_nil _, fun _ => rfl, fun _ => rfl, ?_⟩
  intro j member
  cases member

section Kept

variable (g t : GdsDb) (posted : HoldsPosted g)

theorem closeHolds_kept (j : JournalEntry) : Carried HoldKept g.holds (closeHolds j g.holds) := by
  refine carried_updateWhere _ holdKept_refl _ _ _ ?_
  intro h _ selected
  exact ⟨rfl, rfl, rfl, fun ended => absurd (of_decide_eq_true selected).2.2.2 ended⟩

include posted

theorem holdWrite_kept (w : HoldWrite g t) : GdsKept g t := by
  cases w with
  | beside t wallets journal holds =>
    refine ⟨?_, ?_, ?_⟩
    · rw [wallets]
      exact carried_refl _ walletKept_refl _
    · exact ⟨[], by rw [List.append_nil, journal]⟩
    · rw [holds]
      exact carried_refl _ holdKept_refl _
  | openWallet row fresh =>
    exact ⟨carried_append _ walletKept_refl _ _, List.prefix_refl _, carried_refl _ holdKept_refl _⟩
  | moveWallet old new member id buyer =>
    refine ⟨?_, List.prefix_refl _, carried_refl _ holdKept_refl _⟩
    refine carried_updateWhere _ walletKept_refl _ _ _ ?_
    intro w hw selected
    have same : w = old :=
      unique_eq _ g.wallets posted.wallets w old old.id hw member (by rw [of_decide_eq_true selected, id]) rfl
    rw [same]
    exact ⟨id, buyer⟩
  | post j fresh apart => exact ⟨carried_refl _ walletKept_refl _, List.prefix_append _ _, carried_refl _ holdKept_refl _⟩
  | reserve j orderRef fresh kind named unheld =>
    exact ⟨carried_refl _ walletKept_refl _, List.prefix_append _ _, carried_append _ holdKept_refl _ _⟩
  | close j h fresh kind member held =>
    exact ⟨carried_refl _ walletKept_refl _, List.prefix_append _ _, closeHolds_kept g j⟩

end Kept

section Preserved

variable (g t : GdsDb) (posted : HoldsPosted g)

include posted

theorem closeHolds_captured (j : JournalEntry) (h : Hold) (member : h ∈ g.holds) (held : holdMatches j h) (ref : String) :
    (closeHolds j g.holds).countP (fun h => h.orderRef = ref ∧ h.status = .captured) =
      g.holds.countP (fun h => h.orderRef = ref ∧ h.status = .captured) +
        if j.kind = .capture ∧ h.orderRef = ref then 1 else 0 := by
  have only : ∀ x ∈ g.holds, x.orderRef = h.orderRef → x = h := fun x hx same =>
    unique_eq _ g.holds posted.refs x h h.orderRef hx member (by rw [same]) rfl
  by_cases named : h.orderRef = ref
  · subst named
    have before : g.holds.countP (fun x => x.orderRef = h.orderRef ∧ x.status = .captured) = 0 := by
      refine List.countP_eq_zero.mpr ?_
      intro x hx selected
      obtain ⟨same, captured⟩ := of_decide_eq_true selected
      rw [only x hx same, held.2.2.2] at captured
      cases captured
    have closed : { h with status := closedAs j.kind } ∈ closeHolds j g.holds :=
      (mem_updateWhere _ _ _ _).mpr ⟨h, member, by simp [held]⟩
    have refs : UniqueKey (fun x => some x.orderRef) (closeHolds j g.holds) :=
      unique_updateWhere _ _ _ _ posted.refs (fun x _ _ => rfl)
    rw [before]
    by_cases kind : j.kind = .capture
    · rw [if_pos ⟨kind, rfl⟩]
      refine le_antisymm ?_ (List.countP_pos_iff.mpr ⟨_, closed, by simp [closedAs, kind]⟩)
      refine le_trans (List.countP_mono_left ?_) (unique_count_le_one _ _ refs h.orderRef)
      intro x _ selected
      simp [(of_decide_eq_true selected).1]
    · rw [if_neg (by simp [kind])]
      refine List.countP_eq_zero.mpr ?_
      intro x hx selected
      obtain ⟨same, captured⟩ := of_decide_eq_true selected
      have one := unique_eq _ _ refs x _ h.orderRef hx closed (by rw [same]) rfl
      rw [one] at captured
      simp [closedAs, kind] at captured
  · rw [if_neg (by simp [named]), Nat.add_zero]
    unfold closeHolds updateWhere
    rw [List.countP_map]
    apply List.countP_congr
    intro x hx
    by_cases selected : holdMatches j x
    · have same : x.orderRef = h.orderRef := Option.some.inj (selected.2.1.trans held.2.1.symm)
      simp [selected, same, named]
    · simp [selected]

theorem holdWrite_posted (w : HoldWrite g t) : HoldsPosted t := by
  cases w with
  | beside t wallets journal holds =>
    refine ⟨by rw [wallets]; exact posted.wallets, by rw [journal]; exact posted.keys, by rw [holds]; exact posted.refs, ?_, ?_, ?_⟩
    · rw [journal, holds]
      exact posted.reserves
    · rw [journal, holds]
      exact posted.captures
    · rw [journal, holds]
      exact posted.posted
  | openWallet row fresh => exact { posted with wallets := unique_append _ _ _ posted.wallets fresh }
  | moveWallet old new member id buyer =>
    refine { posted with wallets := unique_updateWhere _ _ _ _ posted.wallets ?_ }
    intro w _ selected
    rw [of_decide_eq_true selected]
  | post j fresh apart =>
    have reserve : j.kind ≠ .reserve := fun kind => by rw [kind] at apart; cases apart
    have capture : j.kind ≠ .capture := fun kind => by rw [kind] at apart; cases apart
    refine { posted with keys := unique_append _ _ _ posted.keys fresh, reserves := ?_, captures := ?_, posted := ?_ }
    · intro ref
      simpa [List.countP_append, reserve] using posted.reserves ref
    · intro ref
      simpa [List.countP_append, capture] using posted.captures ref
    · intro x hx payment
      rcases List.mem_append.mp hx with old | new
      · exact posted.posted x old payment
      · rw [List.mem_singleton.mp new] at payment
        rcases payment with kind | kind
        · exact absurd kind reserve
        · exact absurd kind capture
  | reserve j orderRef fresh kind named unheld =>
    refine ⟨posted.wallets, unique_append _ _ _ posted.keys fresh, unique_append _ _ _ posted.refs unheld, ?_, ?_, ?_⟩
    · intro ref
      rw [List.countP_append, List.countP_append, posted.reserves ref]
      simp [kind, named, heldFor]
    · intro ref
      rw [List.countP_append, List.countP_append, posted.captures ref]
      simp [kind, heldFor]
    · intro x hx payment
      rcases List.mem_append.mp hx with old | new
      · obtain ⟨h, hh, facts⟩ := posted.posted x old payment
        exact ⟨h, List.mem_append_left _ hh, facts⟩
      · rw [List.mem_singleton.mp new]
        exact ⟨_, List.mem_append_right _ (List.mem_singleton.mpr rfl), named, rfl, rfl⟩
  | close j h fresh kind member held =>
    have kept := closeHolds_kept g j
    have refs : ∀ ref, (closeHolds j g.holds).countP (fun h => h.orderRef = ref) = g.holds.countP (fun h => h.orderRef = ref) := by
      intro ref
      unfold closeHolds updateWhere
      rw [List.countP_map]
      apply List.countP_congr
      intro x _
      by_cases selected : holdMatches j x <;> simp [selected]
    have reserve : j.kind ≠ .reserve := by
      rcases kind with kind | kind <;> rw [kind] <;> decide
    refine ⟨posted.wallets, unique_append _ _ _ posted.keys fresh, ?_, ?_, ?_, ?_⟩
    · exact unique_updateWhere _ _ _ _ posted.refs (fun x _ _ => rfl)
    · intro ref
      have before := posted.reserves ref
      rw [refs ref, ← before]
      simp [List.countP_append, reserve]
    · intro ref
      have before := posted.captures ref
      have named : j.orderRef = some h.orderRef := held.2.1.symm
      rw [closeHolds_captured g posted j h member held ref, ← before, List.countP_append]
      simp [named, List.countP_cons]
    · intro x hx payment
      rcases List.mem_append.mp hx with old | new
      · obtain ⟨y, hy, facts⟩ := posted.posted x old payment
        obtain ⟨y', hy', same⟩ := kept y hy
        exact ⟨y', hy', by rw [same.orderRef, same.walletId, same.amount]; exact facts⟩
      · rw [List.mem_singleton.mp new]
        obtain ⟨h', hh', same⟩ := kept h member
        refine ⟨h', hh', ?_, ?_, ?_⟩
        · rw [same.orderRef, held.2.1]
        · rw [same.walletId, held.1]
        · rw [same.amount, held.2.2.1]

end Preserved

end EduAi.Gds
