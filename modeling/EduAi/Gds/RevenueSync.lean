import EduAi.Gds.Revenue
import EduAi.Gds.TopupServices
import EduAi.Store.Runs
import EduAi.Store.Total

set_option autoImplicit false

namespace EduAi.Gds

open EduAi.Store

structure SyncDraw where
  walletId : Uuid
  projectionId : Uuid
  effectId : Uuid
deriving DecidableEq, Repr

def syncEffect (effectId : Uuid) (projection : RevenueProjection) (wallet : Wallet) (delta : Int) : RevenueEffect :=
  let debtDelta := if 0 < delta then -min delta wallet.debtMinor else -delta - min (-delta) wallet.availableMinor
  { id := effectId, projectionId := projection.id, revision := projection.revision + 1, deltaMinor := delta,
    availableDeltaMinor := delta + debtDelta, debtDeltaMinor := debtDelta }

-- The guard joins the period to its settlement through revenue_order_snapshots.id. The table's key is order_line_id
-- and it has no column id, so PostgreSQL refuses the query itself, whatever the rows are.
def settlementJoin : GdsTxn Bool :=
  throw (.raised "column s.id does not exist")

-- The insert of an effect with its trigger, for a join that answers or fails.
def joinedEffect (join : GdsTxn Bool) (now : Instant) (e : RevenueEffect) : GdsTxn Unit := do
  let db ← get
  require (e.deltaMinor ≠ 0 ∧ e.availableDeltaMinor - e.debtDeltaMinor = e.deltaMinor) (.check "gds_revenue_effects")
  require (free (fun x => some x.id) e db.effects) (.unique "gds_revenue_effects_pkey")
  require (free (fun x => some (x.projectionId, x.revision)) e db.effects) (.unique "gds_revenue_effects_projection_id_revision_key")
  let p ← orThrow (projectionById db e.projectionId) (.raised "GDS revenue requires review or revision mismatch")
  require (!p.reviewRequired ∧ e.revision = p.revision + 1) (.raised "GDS revenue requires review or revision mismatch")
  modify (recordEffect e)
  let settled ← join
  gdsRevenueEffectApply now settled e

def createRevenueEffect (now : Instant) (e : RevenueEffect) : GdsTxn Unit :=
  joinedEffect settlementJoin now e

def projectionByPeriod (db : GdsDb) (periodId : Uuid) : Option RevenueProjection :=
  db.projections.find? (fun p => p.periodId = periodId)

def newProjection (projectionId periodId walletId : Uuid) (reviewRequired : Bool) : RevenueProjection where
  id := projectionId
  periodId := periodId
  walletId := walletId
  appliedNetMinor := 0
  historicalPaidMinor := 0
  reviewRequired := reviewRequired
  reviewedById := none
  reviewedAt := none
  reviewReason := none
  revision := 0

def findOrCreateProjection (projectionId periodId walletId : Uuid) (reviewRequired : Bool) : GdsTxn RevenueProjection := do
  let db ← get
  match projectionByPeriod db periodId with
  | some p => pure p
  | none =>
      createProjection (newProjection projectionId periodId walletId reviewRequired)
      pure (newProjection projectionId periodId walletId reviewRequired)

def recognizedEntry (db : GdsDb) (periodId : Uuid) : Option RevenueLedgerEntry :=
  db.ledgerEntries.find? (fun e => e.periodId = periodId ∧ e.kind = .recognized)

def applyNet (now : Instant) (effectId : Uuid) (projection : RevenueProjection) (walletId : Uuid) (net : Int) : GdsTxn Unit := do
  require (0 ≤ net) (.conflict "GDS_REVENUE_NEGATIVE_SOURCE")
  let delta := net - projection.historicalPaidMinor - projection.appliedNetMinor
  if delta = 0 then pure ()
  else
    let db ← get
    let fresh ← orThrow (walletById db walletId) (.missingRow "gds_internal_wallets")
    createRevenueEffect now (syncEffect effectId projection fresh delta)

-- verified is the answer of the revenue service, which has brought the period's ledger up to date before.
def syncPeriod (verified : Bool) (now : Instant) (draw : SyncDraw) (periodId : Uuid) : GdsTxn Unit := do
  require verified (.conflict "GDS_REVENUE_UNVERIFIED_SOURCE")
  let db ← get
  let period ← orThrow (db.periods.find? (fun p => p.id = periodId)) (.missingRow "revenue_earning_periods")
  match recognizedEntry db periodId with
  | none => pure ()
  | some recognized =>
      if db.settings.processingEnabled then
        let wallet ← upsertWallet draw.walletId period.sellerId
        let projection ← findOrCreateProjection draw.projectionId periodId wallet.id (recognized.createdAt ≤ db.settings.revenueCutoffAt)
        if projection.reviewRequired then pure ()
        else applyNet now draw.effectId projection wallet.id (recognizedNetMinor db periodId)
      else pure ()

structure GdsRevenueReview where
  paidMinor : Int
  reason : String
deriving DecidableEq, Repr

def approveReview (now : Instant) (actorId id : Uuid) (input : GdsRevenueReview) : GdsTxn Unit := do
  let db ← get
  let projection ← orThrow (projectionById db id) (.notFound "GDS_REVENUE_REVIEW_NOT_FOUND")
  require projection.reviewRequired (.conflict "GDS_REVENUE_ALREADY_REVIEWED")
  let wallet ← orThrow (walletById db projection.walletId) (.missingRow "gds_internal_wallets")
  require (wallet.buyerId ≠ actorId) (.forbidden "GDS_SELF_REVIEW_FORBIDDEN")
  require (input.paidMinor ≤ recognizedMinor db projection.periodId) (.conflict "GDS_REVENUE_REVIEW_EXCEEDS_RECOGNIZED")
  updateProjection
    { projection with
      reviewRequired := false
      historicalPaidMinor := input.paidMinor
      reviewedById := some actorId
      reviewedAt := some now
      reviewReason := some input.reason }

-- The service computes the split that the guard computes again, debt first on a credit and available first on a reversal.
theorem syncEffect_split (effectId : Uuid) (projection : RevenueProjection) (wallet : Wallet) (target : Int) :
    let e := syncEffect effectId projection wallet (target - projection.historicalPaidMinor - projection.appliedNetMinor)
    let split := revenueSplit target projection wallet
    e.deltaMinor = split.delta ∧ e.availableDeltaMinor = split.cash ∧ e.debtDeltaMinor = split.debt := by
  unfold syncEffect revenueSplit
  by_cases credit : 0 < target - projection.historicalPaidMinor - projection.appliedNetMinor
  · simp only [if_pos credit, and_self]
  · simp only [if_neg credit, true_and]
    constructor
    · omega
    · omega

theorem revenueSplit_whole (target : Int) (projection : RevenueProjection) (wallet : Wallet) (available : 0 ≤ wallet.availableMinor)
    (debt : 0 ≤ wallet.debtMinor) :
    0 ≤ wallet.availableMinor + (revenueSplit target projection wallet).cash ∧
      0 ≤ wallet.debtMinor + (revenueSplit target projection wallet).debt := by
  unfold revenueSplit
  by_cases credit : 0 < target - projection.historicalPaidMinor - projection.appliedNetMinor
  · simp only [if_pos credit]
    constructor
    · omega
    · omega
  · simp only [if_neg credit]
    constructor
    · omega
    · omega

theorem joinedEffect_answered (settled : Bool) (now : Instant) (e : RevenueEffect) (Q : Unit → GdsDb → Prop) (db : GdsDb) :
    Wlp (joinedEffect (pure settled) now e) Q db ↔ Wlp (insertEffect now settled e) Q db := by
  simp only [joinedEffect, insertEffect, gdsRevenueEffectApply, wlp_bind, wlp_get, wlp_require, wlp_orThrow, wlp_modify, wlp_pure]
  constructor
  · intro joined whole id revision p found reviewed
    exact joined whole id revision p found reviewed p found reviewed
  · intro direct whole id revision p found reviewed p' found' reviewed'
    exact direct whole id revision p' found' reviewed'

theorem createRevenueEffect_rejected (now : Instant) (e : RevenueEffect) (db : GdsDb) :
    Wlp (createRevenueEffect now e) (fun _ _ => False) db := by
  simp only [createRevenueEffect, joinedEffect, settlementJoin, wlp_bind, wlp_get, wlp_require, wlp_orThrow, wlp_modify]
  intro _ _ _ _ _ _
  exact wlp_throw _ _ _

structure Unapplied (db : GdsDb) : Prop where
  effects : db.effects = []
  ids : UniqueKey (fun p : RevenueProjection => some p.id) db.projections
  periods : UniqueKey (fun p : RevenueProjection => some p.periodId) db.projections
  applied : ∀ p ∈ db.projections, p.appliedNetMinor = 0

theorem emptyDb_unapplied (createdAt : Instant) : Unapplied (emptyDb createdAt) :=
  ⟨rfl, unique_nil _, unique_nil _, fun _ member => by cases member⟩

section Statements

variable (db : GdsDb)

structure Opened (t : GdsDb) : Prop where
  effects : t.effects = db.effects
  projections : t.projections = db.projections
  entries : t.ledgerEntries = db.ledgerEntries
  periods : t.periods = db.periods
  settings : t.settings = db.settings
  wallets : (∀ w ∈ db.wallets, walletChecks w) → ∀ w ∈ t.wallets, walletChecks w

theorem opened_refl : Opened db db :=
  ⟨rfl, rfl, rfl, rfl, rfl, fun whole => whole⟩

theorem createWallet_opened (id buyerId : Uuid) : Wlp (createWallet id buyerId) (fun _ t => Opened db t) db := by
  simp only [createWallet, wlp_bind, wlp_get, wlp_require, wlp_modify]
  intro _ _
  refine ⟨rfl, rfl, rfl, rfl, rfl, ?_⟩
  intro whole w member
  rcases List.mem_append.mp member with old | new
  · exact whole w old
  · have empty : 0 ≤ (0 : Int) ∧ (0 : Int) < bigintBound := by decide
    rw [List.mem_singleton.mp new]
    exact ⟨empty, empty, empty⟩

theorem upsertWallet_opened (walletId buyerId : Uuid) : Wlp (upsertWallet walletId buyerId) (fun _ t => Opened db t) db := by
  unfold upsertWallet
  rw [wlp_bind, wlp_get]
  split
  · rw [wlp_pure]
    exact opened_refl db
  · rw [wlp_bind]
    refine wlp_mono _ _ (createWallet_opened db walletId buyerId) ?_
    intro _ t opened
    simp only [wlp_bind, wlp_get, wlp_orThrow]
    exact fun _ _ => opened

theorem createProjection_unapplied (row : RevenueProjection) (unapplied : Unapplied db) :
    Wlp (createProjection row) (fun _ t => Unapplied t ∧ t.projections = db.projections ++ [row] ∧
      t.ledgerEntries = db.ledgerEntries ∧ t.wallets = db.wallets) db := by
  simp only [createProjection, wlp_bind, wlp_get, wlp_require, wlp_modify]
  intro source freshId freshPeriod
  refine ⟨⟨unapplied.effects, unique_append _ row _ unapplied.ids freshId, unique_append _ row _ unapplied.periods freshPeriod, ?_⟩,
    trivial, trivial, trivial⟩
  intro p member
  rcases List.mem_append.mp member with old | new
  · exact unapplied.applied p old
  · rw [List.mem_singleton.mp new]
    exact source.2.1

theorem updateProjection_unapplied (new : RevenueProjection) (unapplied : Unapplied db) :
    Wlp (updateProjection new) (fun _ t => Unapplied t) db := by
  have replaced (old : RevenueProjection) (found : projectionById db new.id = some old) (same : new.periodId = old.periodId)
      (applied : new.appliedNetMinor = old.appliedNetMinor) : Unapplied (replaceProjection new db) := by
    obtain ⟨listed, sameId⟩ := find_some _ _ _ found
    have sameId : old.id = new.id := by simpa using sameId
    have only (p : RevenueProjection) (member : p ∈ db.projections) (chosen : decide (p.id = new.id) = true) : p = old :=
      unique_eq _ db.projections unapplied.ids p old old.id member listed (congrArg some ((of_decide_eq_true chosen).trans sameId.symm)) rfl
    refine ⟨unapplied.effects, unique_updateWhere _ _ _ _ unapplied.ids ?_, unique_updateWhere _ _ _ _ unapplied.periods ?_, ?_⟩
    · intro p member chosen
      rw [only p member chosen, sameId]
    · intro p member chosen
      rw [only p member chosen, same]
    · intro p member
      obtain ⟨row, listed', made⟩ := (mem_updateWhere _ _ _ _).mp member
      by_cases chosen : decide (row.id = new.id) = true
      · rw [made, if_pos chosen, applied]
        exact unapplied.applied old listed
      · rw [made, if_neg chosen]
        exact unapplied.applied row listed'
  simp only [updateProjection, wlp_bind, wlp_get, wlp_require, wlp_orThrow, wlp_ite, wlp_modify]
  intro old found kept _
  constructor
  · intro _ _ _
    exact replaced old found kept.1 kept.2.2.1
  · intro _ _ _
    exact replaced old found kept.1 kept.2.2.1

end Statements

def awaitsReview (db : GdsDb) (periodId : Uuid) : Bool :=
  match projectionByPeriod db periodId with
  | some p => p.reviewRequired
  | none => historicPeriod db periodId

def dueNet (db : GdsDb) (periodId : Uuid) : Int :=
  match projectionByPeriod db periodId with
  | some p => recognizedNetMinor db periodId - p.historicalPaidMinor - p.appliedNetMinor
  | none => recognizedNetMinor db periodId

def EffectDue (db : GdsDb) (periodId : Uuid) : Prop :=
  awaitsReview db periodId = false ∧ dueNet db periodId ≠ 0

def effectsTotal (db : GdsDb) (projectionId : Uuid) : Int :=
  total (fun e => if e.projectionId = projectionId then e.deltaMinor else 0) db.effects

structure Syncable (db : GdsDb) (draw : SyncDraw) (period : RevenueEarningPeriod) (recognized : RevenueLedgerEntry) : Prop where
  found : db.periods.find? (fun p => p.id = period.id) = some period
  entry : recognizedEntry db period.id = some recognized
  once : ∀ e ∈ db.ledgerEntries, e.periodId = period.id → e.kind = .recognized → e = recognized
  bounded : 0 ≤ recognizedNetMinor db period.id ∧ recognizedNetMinor db period.id ≤ period.amountMinor
  enabled : db.settings.processingEnabled = true
  whole : ∀ w ∈ db.wallets, walletChecks w
  freshWallet : ∀ w ∈ db.wallets, w.id ≠ draw.walletId
  freshProjection : ∀ p ∈ db.projections, p.id ≠ draw.projectionId

-- The synchronisation commits: its effect follows the wallet's debt and balance, the effects of the period's projection come
-- to the net less what was paid before, no balance falls below zero, and repeated at once it adds nothing.
structure SyncAgrees (now : Instant) (draw : SyncDraw) (period : RevenueEarningPeriod) (db : GdsDb) : Prop where
  committed : ∃ db', syncPeriod true now draw period.id db = .ok ((), db') ∧
    (∀ w ∈ db'.wallets, 0 ≤ w.availableMinor ∧ 0 ≤ w.debtMinor) ∧
    (∀ p ∈ db'.projections, p.periodId = period.id → p.reviewRequired = false →
      effectsTotal db' p.id = recognizedNetMinor db' period.id - p.historicalPaidMinor) ∧
    (∀ e ∈ db'.effects, e ∉ db.effects → ∃ p ∈ db.projections, ∃ w ∈ db.wallets, w.id = p.walletId ∧
      e = syncEffect e.id p w (dueNet db period.id)) ∧
    ∀ later again db'', syncPeriod true later again period.id db' = .ok ((), db'') → db''.effects = db'.effects

theorem historic_recognized (db : GdsDb) (draw : SyncDraw) (period : RevenueEarningPeriod) (recognized : RevenueLedgerEntry)
    (syncable : Syncable db draw period recognized) :
    historicPeriod db period.id = decide (recognized.createdAt ≤ db.settings.revenueCutoffAt) := by
  obtain ⟨listed, chosen⟩ := find_some _ _ _ syncable.entry
  have about : recognized.periodId = period.id ∧ recognized.kind = .recognized := by simpa using chosen
  unfold historicPeriod
  rw [Bool.eq_iff_iff, List.any_eq_true, decide_eq_true_iff]
  constructor
  · rintro ⟨e, member, historic⟩
    have historic := of_decide_eq_true historic
    rw [← syncable.once e member historic.1 historic.2.1]
    exact historic.2.2
  · intro early
    exact ⟨recognized, listed, decide_eq_true ⟨about.1, about.2, early⟩⟩

section Sync

variable (now : Instant) (draw : SyncDraw) (periodId : Uuid) (db : GdsDb)

theorem applyNet_nothing (effectId walletId : Uuid) (projection : RevenueProjection) (net : Int) :
    Wlp (applyNet now effectId projection walletId net)
      (fun _ t => t = db ∧ net - projection.historicalPaidMinor - projection.appliedNetMinor = 0) db := by
  simp only [applyNet, wlp_bind, wlp_require]
  intro _
  by_cases nothing : net - projection.historicalPaidMinor - projection.appliedNetMinor = 0
  · rw [if_pos nothing, wlp_pure]
    exact ⟨rfl, nothing⟩
  · rw [if_neg nothing, wlp_bind, wlp_get, wlp_bind, wlp_orThrow]
    intro fresh _
    exact wlp_mono _ _ (createRevenueEffect_rejected now _ db) (fun _ _ never => never.elim)

theorem findOrCreateProjection_unapplied (projectionId walletId : Uuid) (reviewRequired : Bool) (unapplied : Unapplied db) :
    Wlp (findOrCreateProjection projectionId periodId walletId reviewRequired)
      (fun p t => Unapplied t ∧ t.ledgerEntries = db.ledgerEntries ∧ t.wallets = db.wallets ∧ p ∈ t.projections ∧ p.periodId = periodId ∧
        p = (projectionByPeriod db periodId).getD (newProjection projectionId periodId walletId reviewRequired)) db := by
  unfold findOrCreateProjection
  rw [wlp_bind, wlp_get]
  split
  case h_1 p found =>
    obtain ⟨listed, same⟩ := find_some _ _ _ found
    rw [wlp_pure, found]
    exact ⟨unapplied, rfl, rfl, listed, by simpa using same, rfl⟩
  case h_2 none =>
    rw [wlp_bind]
    refine wlp_mono _ _ (createProjection_unapplied db _ unapplied) ?_
    rintro _ t ⟨unapplied', appended, entries, wallets⟩
    rw [wlp_pure, appended, none]
    exact ⟨unapplied', entries, wallets, List.mem_append_right _ (List.mem_singleton.mpr rfl), rfl, rfl⟩

theorem unapplied_same (t : GdsDb) (effects : t.effects = db.effects) (projections : t.projections = db.projections)
    (unapplied : Unapplied db) : Unapplied t := by
  obtain ⟨none, ids, periods, applied⟩ := unapplied
  rw [← effects] at none
  rw [← projections] at ids periods applied
  exact ⟨none, ids, periods, applied⟩

theorem syncPeriod_unapplied (verified : Bool) (unapplied : Unapplied db) :
    Wlp (syncPeriod verified now draw periodId) (fun _ t => Unapplied t) db := by
  unfold syncPeriod
  simp only [wlp_bind, wlp_get, wlp_require, wlp_orThrow]
  intro _ period _
  split
  · rw [wlp_pure]
    exact unapplied
  · rw [wlp_ite]
    constructor
    · intro _
      rw [wlp_bind]
      refine wlp_mono _ _ (upsertWallet_opened db draw.walletId period.sellerId) ?_
      intro wallet t opened
      rw [wlp_bind]
      refine wlp_mono _ _ (findOrCreateProjection_unapplied periodId t draw.projectionId wallet.id _
        (unapplied_same db t opened.effects opened.projections unapplied)) ?_
      rintro projection u ⟨unapplied', -⟩
      rw [wlp_ite]
      constructor
      · intro _
        rw [wlp_pure]
        exact unapplied'
      · intro _
        refine wlp_mono _ _ (applyNet_nothing now u draw.effectId wallet.id projection _) ?_
        rintro _ v ⟨rfl, -⟩
        exact unapplied'
    · intro _
      rw [wlp_pure]
      exact unapplied

end Sync

def emptyWallet (walletId buyerId : Uuid) : Wallet where
  id := walletId
  buyerId := buyerId
  status := .active
  availableMinor := 0
  heldMinor := 0
  debtMinor := 0

theorem upsertWallet_runs (db : GdsDb) (walletId sellerId : Uuid) (fresh : ∀ w ∈ db.wallets, w.id ≠ walletId) :
    Wp (upsertWallet walletId sellerId) (fun w t => w ∈ t.wallets ∧ w.buyerId = sellerId) db := by
  unfold upsertWallet
  rw [wp_bind, wp_get]
  split
  case h_1 w found =>
    obtain ⟨listed, same⟩ := find_some _ _ _ found
    rw [wp_pure]
    exact ⟨listed, by simpa using same⟩
  case h_2 none =>
    have unheld := find_none _ _ none
    have freshId : free (fun w : Wallet => some w.id) (emptyWallet walletId sellerId) db.wallets = true := by
      rw [free_iff]
      intro w member k same taken
      exact fresh w member (Option.some.inj (taken.trans same.symm))
    have freshBuyer : free (fun w : Wallet => some w.buyerId) (emptyWallet walletId sellerId) db.wallets = true := by
      rw [free_iff]
      intro w member k same taken
      have other := unheld w member
      rw [Option.some.inj (taken.trans same.symm)] at other
      simp [emptyWallet] at other
    have found := find_append_fresh (fun w : Wallet => w.buyerId = sellerId) db.wallets (emptyWallet walletId sellerId) unheld
      (decide_eq_true rfl)
    simp only [createWallet, wp_bind, wp_get, wp_require, wp_modify, wp_orThrow, walletByBuyer]
    refine ⟨freshId, freshBuyer, _, found, ?_⟩
    exact ⟨List.mem_append_right _ (List.mem_singleton.mpr rfl), rfl⟩

section Agreement

variable (now : Instant) (draw : SyncDraw) (db : GdsDb) (period : RevenueEarningPeriod) (recognized : RevenueLedgerEntry)
  (unapplied : Unapplied db) (syncable : Syncable db draw period recognized)

include syncable

theorem syncPeriod_runs (idle : ¬EffectDue db period.id) : Wp (syncPeriod true now draw period.id) (fun _ _ => True) db := by
  unfold syncPeriod
  simp only [wp_bind, wp_get, wp_require, wp_orThrow]
  refine ⟨trivial, period, syncable.found, ?_⟩
  rw [syncable.entry]
  dsimp only
  rw [if_pos syncable.enabled, wp_bind]
  obtain ⟨wallet, t, ran, held, owned⟩ := upsertWallet_runs db draw.walletId period.sellerId syncable.freshWallet
  have opened := upsertWallet_opened db draw.walletId period.sellerId wallet t ran
  refine ⟨wallet, t, ran, ?_⟩
  have ends (p : RevenueProjection) (u : GdsDb) (due : p.reviewRequired = false →
      recognizedNetMinor db period.id - p.historicalPaidMinor - p.appliedNetMinor = 0) :
      Wp (if p.reviewRequired then pure () else applyNet now draw.effectId p wallet.id (recognizedNetMinor db period.id))
        (fun _ _ => True) u := by
    rw [wp_ite]
    constructor
    · intro _
      rw [wp_pure]
      trivial
    · intro open_
      simp only [applyNet, wp_bind, wp_require]
      refine ⟨syncable.bounded.1, ?_⟩
      rw [if_pos (due (by simpa using open_)), wp_pure]
      trivial
  have same : projectionByPeriod t period.id = projectionByPeriod db period.id := by
    unfold projectionByPeriod
    rw [opened.projections]
  have due (reviewed : awaitsReview db period.id = false) : dueNet db period.id = 0 := by
    by_contra nothing
    exact idle ⟨reviewed, nothing⟩
  unfold findOrCreateProjection
  beta_reduce
  rw [wp_bind, wp_bind, wp_get, same]
  unfold awaitsReview dueNet at due
  cases found : projectionByPeriod db period.id with
  | some p =>
      rw [found] at due
      dsimp only
      rw [wp_pure]
      exact ends p t due
  | none =>
      rw [found] at due
      have row : Wp (createProjection (newProjection draw.projectionId period.id wallet.id
          (decide (recognized.createdAt ≤ db.settings.revenueCutoffAt)))) (fun _ _ => True) t := by
        simp only [createProjection, wp_bind, wp_get, wp_require, wp_modify]
        obtain ⟨listed, -⟩ := find_some _ _ _ syncable.found
        refine ⟨⟨?_, rfl, rfl, rfl, ?_, rfl, rfl⟩, ?_, ?_, trivial⟩
        · rw [opened.periods, List.any_eq_true]
          refine ⟨period, listed, decide_eq_true ⟨rfl, ?_⟩⟩
          exact List.any_eq_true.mpr ⟨wallet, held, decide_eq_true ⟨rfl, owned⟩⟩
        · have historic := historic_recognized db draw period recognized syncable
          unfold historicPeriod at historic ⊢
          rw [opened.entries, opened.settings]
          exact historic.symm
        · rw [free_iff, opened.projections]
          intro p member k same taken
          exact syncable.freshProjection p member (Option.some.inj (taken.trans same.symm))
        · rw [free_iff, opened.projections]
          intro p member k same taken
          have other := find_none _ _ found p member
          rw [Option.some.inj (taken.trans same.symm)] at other
          simp [newProjection] at other
      obtain ⟨u, v, created, -⟩ := row
      dsimp only
      rw [wp_bind]
      refine ⟨u, v, created, ?_⟩
      beta_reduce
      rw [wp_pure]
      refine ends _ v ?_
      intro reviewed
      have historic := historic_recognized db draw period recognized syncable
      have nothing := due (historic.trans reviewed)
      simpa [newProjection] using nothing

include unapplied

theorem syncPeriod_commits :
    Wlp (syncPeriod true now draw period.id) (fun _ t => Unapplied t ∧ t.ledgerEntries = db.ledgerEntries ∧
      (∀ w ∈ t.wallets, walletChecks w) ∧ ∃ p ∈ t.projections, p.periodId = period.id ∧ p.reviewRequired = awaitsReview db period.id ∧
        recognizedNetMinor db period.id - p.historicalPaidMinor - p.appliedNetMinor = dueNet db period.id ∧
        (p.reviewRequired = false → dueNet db period.id = 0)) db := by
  unfold syncPeriod
  simp only [wlp_bind, wlp_get, wlp_require, wlp_orThrow]
  intro _ period' found
  obtain rfl := Option.some.inj (syncable.found.symm.trans found)
  rw [syncable.entry]
  dsimp only
  rw [if_pos syncable.enabled, wlp_bind]
  refine wlp_mono _ _ (upsertWallet_opened db draw.walletId period.sellerId) ?_
  intro wallet t opened
  rw [wlp_bind]
  refine wlp_mono _ _ (findOrCreateProjection_unapplied period.id t draw.projectionId wallet.id _
    (unapplied_same db t opened.effects opened.projections unapplied)) ?_
  rintro p u ⟨unapplied', entries, wallets, listed, about, chosen⟩
  have whole : ∀ w ∈ u.wallets, walletChecks w := by
    rw [wallets]
    exact opened.wallets syncable.whole
  have shown : p.reviewRequired = awaitsReview db period.id ∧
      recognizedNetMinor db period.id - p.historicalPaidMinor - p.appliedNetMinor = dueNet db period.id := by
    have same : projectionByPeriod t period.id = projectionByPeriod db period.id := by
      unfold projectionByPeriod
      rw [opened.projections]
    rw [chosen, same]
    unfold awaitsReview dueNet
    cases projectionByPeriod db period.id with
    | some q => exact ⟨rfl, rfl⟩
    | none =>
        refine ⟨(historic_recognized db draw period recognized syncable).symm, ?_⟩
        simp [newProjection]
  obtain ⟨review, due⟩ := shown
  rw [wlp_ite]
  constructor
  · intro reviewed
    rw [wlp_pure]
    exact ⟨unapplied', entries.trans opened.entries, whole, p, listed, about, review, due,
      fun open_ => by rw [reviewed] at open_; cases open_⟩
  · intro _
    refine wlp_mono _ _ (applyNet_nothing now u draw.effectId wallet.id p _) ?_
    rintro _ v ⟨rfl, nothing⟩
    exact ⟨unapplied', entries.trans opened.entries, whole, p, listed, about, review, due, fun _ => due.symm.trans nothing⟩

theorem sync_agrees_iff : SyncAgrees now draw period db ↔ ¬EffectDue db period.id := by
  have commits := syncPeriod_commits now draw db period recognized unapplied syncable
  constructor
  · rintro ⟨db', committed, -⟩ ⟨reviewed, due⟩
    obtain ⟨-, -, -, p, -, -, review, -, nothing⟩ := commits () db' committed
    exact due (nothing (review.trans reviewed))
  · intro idle
    obtain ⟨u, db', committed, -⟩ := syncPeriod_runs now draw db period recognized syncable idle
    obtain ⟨unapplied', entries, whole, p, listed, about, review, due, nothing⟩ := commits u db' committed
    have net : recognizedNetMinor db' period.id = recognizedNetMinor db period.id := by
      unfold recognizedNetMinor
      rw [entries]
    refine ⟨db', committed, ?_, ?_, ?_, ?_⟩
    · intro w member
      have checks := whole w member
      exact ⟨checks.1.1, checks.2.2.1⟩
    · intro q member same reviewed
      have one : q = p := unique_eq _ db'.projections unapplied'.periods q p period.id member listed (congrArg some same) (congrArg some about)
      rw [one] at reviewed ⊢
      have none : effectsTotal db' p.id = 0 := by
        unfold effectsTotal
        rw [unapplied'.effects, total_nil]
      have applied := unapplied'.applied p listed
      have idleNow := nothing reviewed
      rw [none, net]
      omega
    · intro e member
      rw [unapplied'.effects] at member
      cases member
    · intro later again db'' repeated
      have unapplied'' := syncPeriod_unapplied later again period.id db' true unapplied' () db'' repeated
      rw [unapplied''.effects, unapplied'.effects]

end Agreement

inductive RevenueInput where
  | sync (verified : Bool) (now : Instant) (draw : SyncDraw) (periodId : Uuid)
  | approveReview (now : Instant) (actorId id : Uuid) (review : GdsRevenueReview)
  | environment (t : GdsDb)
deriving DecidableEq, Repr

-- Only the two calls write projections and effects; everything else in the wallet's tables may change in between.
def revenueStep (db : GdsDb) : RevenueInput → GdsDb
  | .sync verified now draw periodId => commit (syncPeriod verified now draw periodId) db
  | .approveReview now actorId id review => commit (EduAi.Gds.approveReview now actorId id review) db
  | .environment t => { t with projections := db.projections, effects := db.effects }

theorem revenueStep_unapplied (db : GdsDb) (input : RevenueInput) (unapplied : Unapplied db) : Unapplied (revenueStep db input) := by
  cases input with
  | sync verified now draw periodId =>
      exact commit_of_wlp _ Unapplied db unapplied (syncPeriod_unapplied now draw periodId db verified unapplied)
  | approveReview now actorId id review =>
      refine commit_of_wlp _ Unapplied db unapplied ?_
      simp only [approveReview, wlp_bind, wlp_get, wlp_orThrow, wlp_require]
      intro projection _ _ wallet _ _ _
      exact updateProjection_unapplied db _ unapplied
  | environment t => exact ⟨unapplied.effects, unapplied.ids, unapplied.periods, unapplied.applied⟩

/-- A synchronisation leaves the wallet in agreement with the recognized revenue exactly when no effect is due. -/
theorem revenue_sync_agrees (createdAt : Instant) (inputs : List RevenueInput) (now : Instant) (draw : SyncDraw)
    (period : RevenueEarningPeriod) (recognized : RevenueLedgerEntry)
    (syncable : Syncable (run revenueStep (emptyDb createdAt) inputs) draw period recognized) :
    SyncAgrees now draw period (run revenueStep (emptyDb createdAt) inputs) ↔
      ¬EffectDue (run revenueStep (emptyDb createdAt) inputs) period.id :=
  sync_agrees_iff now draw _ period recognized
    (run_invariant revenueStep Unapplied revenueStep_unapplied _ inputs (emptyDb_unapplied createdAt)) syncable

def samplePeriod : RevenueEarningPeriod where
  id := "period"
  sellerId := "seller"
  dueAt := 10
  amountMinor := 100

def sampleRecognition : RevenueLedgerEntry where
  periodId := "period"
  sourceKey := "recognize:period"
  kind := .recognized
  amountMinor := 100
  createdAt := 20

def sampleSyncDraw : SyncDraw where
  walletId := "wallet"
  projectionId := "projection"
  effectId := "effect"

def sampleRecognized (amountMinor : Int) : GdsDb :=
  { emptyDb 0 with
    settings := { (emptyDb 0).settings with processingEnabled := true }
    periods := [samplePeriod]
    ledgerEntries := [{ sampleRecognition with amountMinor }] }

theorem sampleRecognized_syncable (amountMinor : Int) (bounded : 0 ≤ amountMinor ∧ amountMinor ≤ 100) :
    Syncable (run revenueStep (emptyDb 0) [.environment (sampleRecognized amountMinor)]) sampleSyncDraw samplePeriod
      { sampleRecognition with amountMinor } where
  found := rfl
  entry := rfl
  once := fun e member _ _ => List.mem_singleton.mp member
  bounded := by
    have net : recognizedNetMinor (run revenueStep (emptyDb 0) [.environment (sampleRecognized amountMinor)]) samplePeriod.id =
        amountMinor := by
      simp [recognizedNetMinor, run, revenueStep, sampleRecognized, sampleRecognition, samplePeriod, total]
    rw [net]
    exact bounded
  enabled := rfl
  whole := fun w member => by cases member
  freshWallet := fun w member => by cases member
  freshProjection := fun p member => by cases member

theorem revenue_sync_agrees_sample :
    SyncAgrees 30 sampleSyncDraw samplePeriod (run revenueStep (emptyDb 0) [.environment (sampleRecognized 0)]) :=
  (revenue_sync_agrees 0 [.environment (sampleRecognized 0)] 30 sampleSyncDraw samplePeriod _
    (sampleRecognized_syncable 0 (by decide))).mpr (fun due => due.2 (by decide +kernel))

-- The first credit of a verified period is refused.
theorem verified_credit_refused :
    ¬SyncAgrees 30 sampleSyncDraw samplePeriod (run revenueStep (emptyDb 0) [.environment (sampleRecognized 100)]) := by
  rintro ⟨db', committed, -⟩
  have refused : (attempt (syncPeriod true 30 sampleSyncDraw "period") (run revenueStep (emptyDb 0) [.environment (sampleRecognized 100)])).1 =
      .error (.raised "column s.id does not exist") := by decide +kernel
  unfold attempt at refused
  rw [show syncPeriod true 30 sampleSyncDraw "period" _ = .ok ((), db') from committed] at refused
  cases refused

end EduAi.Gds
