import EduAi.Store.Editing
import EduAi.Tmi.Ledger

set_option autoImplicit false

namespace EduAi.Tmi

open EduAi.Store EduAi.Gds EduAi.Commerce

structure TmiRewardInput where
  title : String
  kind : TmiRewardKind
  cost : Int
  startsAt : Instant
  endsAt : Instant
  quota : Option Int
  inventoryMetadata : Metadata
deriving DecidableEq, Repr

structure UpdateTmiRewardDto where
  title : Option String := none
  kind : Option TmiRewardKind := none
  cost : Option Int := none
  startsAt : Option Instant := none
  endsAt : Option Instant := none
  quota : Option (Option Int) := none
  inventoryMetadata : Option Metadata := none
  status : Option TmiRewardStatus := none
deriving DecidableEq, Repr

def normalizeCreate (input : TmiRewardInput) : TmiRewardInput :=
  { input with title := trim input.title }

def normalizeUpdate (current : TmiReward) (input : UpdateTmiRewardDto) : TmiRewardInput where
  title := (input.title.map trim).getD current.title
  kind := input.kind.getD current.kind
  cost := input.cost.getD current.cost
  startsAt := input.startsAt.getD current.startsAt
  endsAt := input.endsAt.getD current.endsAt
  quota := input.quota.getD current.quota
  inventoryMetadata := input.inventoryMetadata.getD current.inventoryMetadata

def assertPolicy (input : TmiRewardInput) : TmiTxn Unit := do
  require (input.title ≠ "") (.badRequest "Reward title is required")
  require (input.startsAt < input.endsAt) (.badRequest "Reward dates must be valid and ordered")
  require (0 < input.cost) (.badRequest "Reward cost must be positive")
  require (∀ quota ∈ input.quota, 1 ≤ quota) (.badRequest "Reward quota must be positive")

def TmiRewardInput.reward (input : TmiRewardInput) (id : Uuid) (status : TmiRewardStatus) (redeemedCount : Int) : TmiReward where
  id := id
  title := input.title
  kind := input.kind
  cost := input.cost
  status := status
  quota := input.quota
  redeemedCount := redeemedCount
  startsAt := input.startsAt
  endsAt := input.endsAt
  inventoryMetadata := input.inventoryMetadata

def createReward (id : Uuid) (input : TmiRewardInput) : TmiTxn Unit := do
  let normalized := normalizeCreate input
  assertPolicy normalized
  let db ← get
  let row := normalized.reward id .draft 0
  require (free (fun r => some r.id) row db.rewards) (.unique "tmi_rewards_pkey")
  modify (fun db => { db with rewards := db.rewards ++ [row] })

def changesPolicy (input : UpdateTmiRewardDto) : Bool :=
  input.kind.isSome || input.cost.isSome || input.startsAt.isSome || input.endsAt.isSome || input.quota.isSome ||
    input.inventoryMetadata.isSome

structure RewardUpdate where
  current : TmiReward
  input : UpdateTmiRewardDto
deriving DecidableEq, Repr

def decideUpdate (id : Uuid) (input : UpdateTmiRewardDto) : TmiTxn RewardUpdate := do
  let db ← get
  let current ← orThrow (rewardById db id) (.notFound "TMI reward not found")
  assertPolicy (normalizeUpdate current input)
  require (¬ (0 < current.redeemedCount ∧ changesPolicy input))
    (.conflict "Reward policy cannot change after redemption; disable it instead")
  return { current, input }

-- The columns that an update writes: all of them but the count of redemptions.
def RewardUpdate.onto (u : RewardUpdate) (row : TmiReward) : TmiReward :=
  (normalizeUpdate u.current u.input).reward row.id (u.input.status.getD u.current.status) row.redeemedCount

def writeUpdate (db : TmiDb) (u : RewardUpdate) : TmiDb :=
  { db with rewards := updateWhere (fun r => r.id = u.current.id) u.onto db.rewards }

inductive RewardCall where
  | create (id : Uuid) (input : TmiRewardInput)
  | wallet (r : TmiRequest)

def rewardStep (db : TmiDb) : RewardCall → TmiDb
  | .create id input => commit (createReward id input) db
  | .wallet r => tmiStep db r

def readUpdate (db : TmiDb) (k : Uuid × UpdateTmiRewardDto) : Option RewardUpdate :=
  returned (decideUpdate k.1 k.2) db

structure RewardTerms where
  kind : TmiRewardKind
  cost : Int
  startsAt : Instant
  endsAt : Instant
  quota : Option Int
  inventoryMetadata : Metadata
deriving DecidableEq, Repr

def TmiReward.terms (r : TmiReward) : RewardTerms where
  kind := r.kind
  cost := r.cost
  startsAt := r.startsAt
  endsAt := r.endsAt
  quota := r.quota
  inventoryMetadata := r.inventoryMetadata

def redeemedOf (db : TmiDb) (r : TmiReward) : Prop :=
  ∃ x ∈ db.redemptions, x.rewardId = r.id

instance (db : TmiDb) (r : TmiReward) : Decidable (redeemedOf db r) := by
  unfold redeemedOf
  infer_instance

-- Where the reward is redeemed by now, the update has read its terms as they are, and knew that it is redeemed or names
-- none of them.
def UpdateStands (db : TmiDb) (u : RewardUpdate) : Prop :=
  ∀ row ∈ rewardById db u.current.id, redeemedOf db row →
    u.current.terms = row.terms ∧ (0 < u.current.redeemedCount ∨ changesPolicy u.input = false)

instance (db : TmiDb) (u : RewardUpdate) : Decidable (UpdateStands db u) := by
  unfold UpdateStands
  infer_instance

abbrev RewardsFrozen : TmiDb → TmiDb → Prop :=
  TermsFrozen TmiDb.rewards TmiReward.id redeemedOf TmiReward.terms

structure UpdateMade (u : RewardUpdate) : Prop where
  cost : 0 < (normalizeUpdate u.current u.input).cost
  quota : ∀ q ∈ (normalizeUpdate u.current u.input).quota, 1 ≤ q
  refused : 0 < u.current.redeemedCount → changesPolicy u.input = false

theorem assertPolicy_checks (input : TmiRewardInput) (db : TmiDb) :
    Wlp (assertPolicy input) (fun _ t => t = db ∧ 0 < input.cost ∧ ∀ q ∈ input.quota, 1 ≤ q) db := by
  simp only [assertPolicy, wlp_bind, wlp_require]
  intro _ _ cost quota
  exact ⟨trivial, cost, quota⟩

theorem readUpdate_made (db : TmiDb) (k : Uuid × UpdateTmiRewardDto) (u : RewardUpdate) (read : readUpdate db k = some u) :
    UpdateMade u := by
  refine (returned_wlp (decideUpdate k.1 k.2) (fun u _ => UpdateMade u) db u read ?_).elim (fun _ made => made)
  simp only [decideUpdate, wlp_bind, wlp_get, wlp_orThrow]
  intro current _
  refine wlp_mono _ db (assertPolicy_checks _ db) ?_
  intro _ t checked
  obtain ⟨_, cost, quota⟩ := checked
  rw [wlp_require]
  intro guard
  rw [wlp_pure]
  refine ⟨cost, quota, fun redeemed => ?_⟩
  by_contra changes
  exact guard ⟨redeemed, by simpa using changes⟩

theorem onto_terms (u : RewardUpdate) (row : TmiReward) (unchanged : changesPolicy u.input = false) :
    (u.onto row).terms = u.current.terms := by
  simp only [changesPolicy, Bool.or_eq_false_iff, Option.isSome_eq_false_iff, Option.isNone_iff_eq_none] at unchanged
  obtain ⟨⟨⟨⟨⟨kind, cost⟩, startsAt⟩, endsAt⟩, quota⟩, metadata⟩ := unchanged
  simp [RewardUpdate.onto, TmiRewardInput.reward, normalizeUpdate, TmiReward.terms, kind, cost, startsAt, endsAt, quota, metadata]

section Written

variable (db : TmiDb) (sound : TmiSound db)

include sound

theorem redeemedOf_counted (r : TmiReward) (member : r ∈ db.rewards) : redeemedOf db r ↔ 0 < r.redeemedCount := by
  have counted := sound.counted r member
  have rows : redeemedOf db r ↔ redemptionsOf db.redemptions r.id ≠ [] := by
    unfold redeemedOf redemptionsOf
    rw [ne_eq, List.filter_eq_nil_iff]
    simp
  rw [rows, ← List.length_pos_iff]
  omega

variable (u : RewardUpdate) (made : UpdateMade u) (stands : UpdateStands db u)

include made stands

theorem written_terms (row : TmiReward) (member : row ∈ db.rewards) (named : row.id = u.current.id) (redeemed : redeemedOf db row) :
    (u.onto row).terms = row.terms := by
  have found : rewardById db u.current.id = some row := by
    refine find_unique (fun r => some r.id) _ db.rewards sound.rewards row u.current.id member (decide_eq_true named) (by rw [named]) ?_
    intro x _ own
    rw [of_decide_eq_true own]
  obtain ⟨same, known⟩ := stands row found redeemed
  have unchanged : changesPolicy u.input = false := by
    rcases known with seen | none
    · exact made.refused seen
    · exact none
  rw [onto_terms u row unchanged, same]

theorem written_sound : TmiSound (writeUpdate db u) where
  solvent := sound.solvent
  refundedOnce := sound.refundedOnce
  refundedExactly := sound.refundedExactly
  counted := by
    intro r member
    obtain ⟨row, listed, rfl⟩ := (mem_updateWhere _ _ _ r).mp member
    split
    · exact sound.counted row listed
    · exact sound.counted row listed
  stocked := by
    intro r member q limit
    obtain ⟨row, listed, rfl⟩ := (mem_updateWhere _ _ _ r).mp member
    by_cases own : decide (row.id = u.current.id) = true
    · rw [if_pos own] at limit ⊢
      show row.redeemedCount ≤ q
      by_cases redeemed : 0 < row.redeemedCount
      · have used := (redeemedOf_counted db sound row listed).mpr redeemed
        have kept : (u.onto row).quota = row.quota :=
          congrArg RewardTerms.quota (written_terms db sound u made stands row listed (of_decide_eq_true own) used)
        rw [kept] at limit
        exact sound.stocked row listed q limit
      · have least := made.quota q limit
        omega
    · rw [if_neg own] at limit ⊢
      exact sound.stocked row listed q limit
  rewards := unique_updateWhere _ _ _ _ sound.rewards (fun _ _ _ => rfl)
  prices := by
    intro r member
    obtain ⟨row, listed, rfl⟩ := (mem_updateWhere _ _ _ r).mp member
    by_cases own : decide (row.id = u.current.id) = true
    · rw [if_pos own]
      exact made.cost
    · rw [if_neg own]
      exact sound.prices row listed
  redemptions := sound.redemptions
  costs := sound.costs
  keys := sound.keys
  amounts := sound.amounts
  debited := sound.debited

theorem written_frozen : RewardsFrozen db (writeUpdate db u) := by
  intro row listed redeemed
  refine ⟨_, (mem_updateWhere _ _ _ _).mpr ⟨row, listed, rfl⟩, ?_⟩
  by_cases own : decide (row.id = u.current.id) = true
  · rw [if_pos own]
    exact ⟨rfl, redeemed, written_terms db sound u made stands row listed (of_decide_eq_true own) redeemed⟩
  · rw [if_neg own]
    exact ⟨rfl, redeemed, rfl⟩

end Written

def RewardsKnown (db : TmiDb) : Prop :=
  ∀ x ∈ db.redemptions, ∃ r ∈ db.rewards, r.id = x.rewardId

section Used

variable (db : TmiDb) (sound : TmiSound db) (known : RewardsKnown db)

include sound known

theorem created_sound (row : TmiReward) (fresh : free (fun r => some r.id) row db.rewards = true) (price : 0 < row.cost)
    (unused : row.redeemedCount = 0) (quota : ∀ q ∈ row.quota, 1 ≤ q) : TmiSound { db with rewards := db.rewards ++ [row] } where
  solvent := sound.solvent
  refundedOnce := sound.refundedOnce
  refundedExactly := sound.refundedExactly
  counted := by
    intro r member
    rcases List.mem_append.mp member with old | new
    · exact sound.counted r old
    · obtain rfl := List.mem_singleton.mp new
      have none : redemptionsOf db.redemptions r.id = [] := by
        refine List.filter_eq_nil_iff.mpr (fun x listed own => ?_)
        obtain ⟨y, inRewards, same⟩ := known x listed
        exact (free_iff _ _ _).mp fresh y inRewards r.id rfl (by rw [same, of_decide_eq_true own])
      rw [unused, none]
      rfl
  stocked := by
    intro r member q limit
    rcases List.mem_append.mp member with old | new
    · exact sound.stocked r old q limit
    · obtain rfl := List.mem_singleton.mp new
      have least := quota q limit
      omega
  rewards := unique_append _ _ _ sound.rewards fresh
  prices := by
    intro r member
    rcases List.mem_append.mp member with old | new
    · exact sound.prices r old
    · obtain rfl := List.mem_singleton.mp new
      exact price
  redemptions := sound.redemptions
  costs := sound.costs
  keys := sound.keys
  amounts := sound.amounts
  debited := sound.debited

omit sound known in
theorem increment_frozen (rewardId : Uuid) (t : TmiDb) (rewards : t.rewards = incrementRedeemed rewardId db.rewards)
    (rows : List TmiRedemption) (redemptions : t.redemptions = db.redemptions ++ rows) : RewardsFrozen db t := by
  intro row listed redeemed
  have still : ∃ x ∈ t.redemptions, x.rewardId = row.id := by
    obtain ⟨x, old, same⟩ := redeemed
    rw [redemptions]
    exact ⟨x, List.mem_append_left _ old, same⟩
  rw [rewards]
  refine ⟨_, (mem_updateWhere _ _ _ _).mpr ⟨row, listed, rfl⟩, ?_⟩
  split
  · exact ⟨rfl, still, rfl⟩
  · exact ⟨rfl, still, rfl⟩

omit sound in
theorem move_known (r : TmiRequest) (response : TmiResponse) (t : TmiDb) (move : TmiMove r db response t) :
    RewardsKnown t ∧ RewardsFrozen db t := by
  have same (t : TmiDb) (rewards : t.rewards = db.rewards) (redemptions : t.redemptions = db.redemptions) :
      RewardsKnown t ∧ RewardsFrozen db t := by
    refine ⟨?_, ?_⟩
    · unfold RewardsKnown
      rw [rewards, redemptions]
      exact known
    · intro row listed redeemed
      refine ⟨row, rewards ▸ listed, rfl, ?_, rfl⟩
      unfold redeemedOf at redeemed ⊢
      rw [redemptions]
      exact redeemed
  cases move with
  | redeemed draw userId reward key call found stock funds freshId freshKey t rewards redemptions ledger =>
      refine ⟨?_, increment_frozen db reward.id t rewards _ redemptions⟩
      have carried (id : Uuid) (row : TmiReward) (listed : row ∈ db.rewards) (named : row.id = id) : ∃ r ∈ t.rewards, r.id = id := by
        rw [rewards]
        refine ⟨_, (mem_updateWhere _ _ _ _).mpr ⟨row, listed, rfl⟩, ?_⟩
        split
        · exact named
        · exact named
      intro x member
      rw [redemptions] at member
      rcases List.mem_append.mp member with old | new
      · obtain ⟨row, listed, named⟩ := known x old
        exact carried x.rewardId row listed named
      · rw [List.mem_singleton.mp new]
        exact carried reward.id reward (find_some _ _ reward found).1 rfl
  | redeemedBefore => exact same db rfl rfl
  | refunded ledgerId actorId x reason call member absent freshKey t rewards redemptions ledger => exact same t rewards redemptions
  | refundedBefore => exact same db rfl rfl
  | adjusted => exact same _ rfl rfl
  | adjustedBefore => exact same db rfl rfl

theorem rewardStep_kept (call : RewardCall) :
    (TmiSound (rewardStep db call) ∧ RewardsKnown (rewardStep db call)) ∧ RewardsFrozen db (rewardStep db call) := by
  have nothing : (TmiSound db ∧ RewardsKnown db) ∧ RewardsFrozen db db := ⟨⟨sound, known⟩, termsFrozen_refl _ _ _ _ db⟩
  cases call with
  | create id input =>
      refine commit_of_wlp (createReward id input) (fun t => (TmiSound t ∧ RewardsKnown t) ∧ RewardsFrozen db t) db nothing ?_
      rw [createReward, wlp_bind]
      refine wlp_mono _ db (assertPolicy_checks (normalizeCreate input) db) ?_
      intro _ t checked
      obtain ⟨rfl, cost, quota⟩ := checked
      simp only [wlp_bind, wlp_get, wlp_require, wlp_modify]
      intro fresh
      refine ⟨⟨created_sound _ sound known _ fresh cost rfl quota, ?_⟩, ?_⟩
      · intro x member
        obtain ⟨r, listed, named⟩ := known x member
        exact ⟨r, List.mem_append_left _ listed, named⟩
      · intro row listed redeemed
        exact ⟨row, List.mem_append_left _ listed, rfl, redeemed, rfl⟩
  | wallet r =>
      refine commit_of_wlp (tmiCall r) (fun t => (TmiSound t ∧ RewardsKnown t) ∧ RewardsFrozen db t) db nothing ?_
      refine wlp_mono _ db (tmiCall_move db r) ?_
      intro response t move
      obtain ⟨still, frozen⟩ := move_known db known r response t move
      exact ⟨⟨tmiSound_move r db t response sound move, still⟩, frozen⟩

end Used

abbrev rewardEdits : Editing TmiDb RewardUpdate → EditInput RewardCall (Uuid × UpdateTmiRewardDto) → Editing TmiDb RewardUpdate :=
  editStep rewardStep readUpdate writeUpdate

def rewardMeets : Editing TmiDb RewardUpdate → EditInput RewardCall (Uuid × UpdateTmiRewardDto) → Prop :=
  onEdits (fun _ _ => True) UpdateStands

instance (e : Editing TmiDb RewardUpdate) (i : EditInput RewardCall (Uuid × UpdateTmiRewardDto)) : Decidable (rewardMeets e i) := by
  unfold rewardMeets
  infer_instance

theorem reward_terms_frozen (db : TmiDb) (new : NewProgramme db) (inputs : List (EditInput RewardCall (Uuid × UpdateTmiRewardDto)))
    (stands : AllMeet rewardEdits rewardMeets (opened db) inputs) :
    TmiSound (run rewardEdits (opened db) inputs).store ∧ FrozenThroughout rewardEdits RewardsFrozen db inputs := by
  have start : TmiSound db ∧ RewardsKnown db := ⟨newProgramme_sound db new, fun x member => by rw [new.unused] at member; cases member⟩
  have written (s : TmiDb) (u : RewardUpdate) (sound : TmiSound s ∧ RewardsKnown s) (made : UpdateMade u) (holds : UpdateStands s u) :
      (TmiSound (writeUpdate s u) ∧ RewardsKnown (writeUpdate s u)) ∧ RewardsFrozen s (writeUpdate s u) := by
    refine ⟨⟨written_sound s sound.1 u made holds, ?_⟩, written_frozen s sound.1 u made holds⟩
    intro x member
    obtain ⟨row, listed, named⟩ := sound.2 x member
    refine ⟨_, (mem_updateWhere _ _ _ _).mpr ⟨row, listed, rfl⟩, ?_⟩
    split
    · exact named
    · exact named
  obtain ⟨kept, frozen⟩ := editRun_kept rewardStep readUpdate writeUpdate (fun _ _ => True) UpdateStands
    (fun s => TmiSound s ∧ RewardsKnown s) UpdateMade RewardsFrozen (fun s k u _ read => readUpdate_made s k u read)
    (fun s _ => termsFrozen_refl _ _ _ _ s) (fun s call sound _ => rewardStep_kept s sound.1 sound.2 call) written
    (fun s t u => termsFrozen_trans _ _ _ _ s t u) db inputs start stands
  exact ⟨kept.1, frozen⟩

end EduAi.Tmi
