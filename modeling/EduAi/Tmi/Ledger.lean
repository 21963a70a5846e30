import EduAi.Tmi.Redemption

set_option autoImplicit false

namespace EduAi.Tmi

open EduAi.Store EduAi.Gds EduAi.Commerce

def entryValue (e : TmiLedgerEntry) : Int :=
  match e.kind with
  | .earn | .refund => e.amount
  | .redeem | .expiry => -e.amount
  | .adjustment =>
      match e.adjustmentDirection with
      | some .credit => e.amount
      | some .debit => -e.amount
      | none => 0

def unclampedBalance (ledger : List TmiLedgerEntry) (userId : Uuid) : Int :=
  total entryValue (entriesOf ledger userId)

def balanceAfter (ledger : List TmiLedgerEntry) (e : TmiLedgerEntry) : Int :=
  unclampedBalance (ledger.takeWhile (fun x => x ≠ e) ++ [e]) e.userId

inductive TmiMove (r : TmiRequest) (db : TmiDb) : TmiResponse → TmiDb → Prop where
  | redeemed (draw : RedemptionDraw) (userId : Uuid) (reward : TmiReward) (key : String)
      (call : r.call = .redeem draw userId reward.id key) (found : rewardById db reward.id = some reward)
      (stock : ∀ q ∈ reward.quota, reward.redeemedCount < q) (funds : reward.cost ≤ currentBalance db userId)
      (freshId : free (fun x => some x.id) (redemptionRow draw r.now userId reward key) db.redemptions = true)
      (freshKey : free (fun e => some (ledgerKey e)) (redeemEntry draw (redemptionRow draw r.now userId reward key)) db.ledger = true)
      (t : TmiDb) (rewards : t.rewards = incrementRedeemed reward.id db.rewards)
      (redemptions : t.redemptions = db.redemptions ++ [redemptionRow draw r.now userId reward key])
      (ledger : t.ledger = db.ledger ++ [redeemEntry draw (redemptionRow draw r.now userId reward key)]) :
      TmiMove r db (.redeemed { redemption := redemptionRow draw r.now userId reward key, idempotent := false }) t
  | redeemedBefore (draw : RedemptionDraw) (existing : TmiRedemption)
      (call : r.call = .redeem draw existing.userId existing.rewardId existing.idempotencyKey) (member : existing ∈ db.redemptions) :
      TmiMove r db (.redeemed { redemption := existing, idempotent := true }) db
  | refunded (ledgerId actorId : Uuid) (x : TmiRedemption) (reason : Option String)
      (call : r.call = .refund ledgerId actorId x.id reason) (member : x ∈ db.redemptions)
      (absent : ledgerEntryOf db x.userId .refund "tmi_redemption" x.id = none)
      (freshKey : free (fun e => some (ledgerKey e)) (refundEntry ledgerId actorId x) db.ledger = true)
      (t : TmiDb) (rewards : t.rewards = db.rewards) (redemptions : t.redemptions = db.redemptions)
      (ledger : t.ledger = db.ledger ++ [refundEntry ledgerId actorId x]) :
      TmiMove r db (.refunded { redemptionId := x.id, amount := x.cost, idempotent := false }) t
  | refundedBefore (ledgerId actorId : Uuid) (x : TmiRedemption) (reason : Option String) (e : TmiLedgerEntry)
      (call : r.call = .refund ledgerId actorId x.id reason) (member : x ∈ db.redemptions)
      (found : ledgerEntryOf db x.userId .refund "tmi_redemption" x.id = some e) :
      TmiMove r db (.refunded { redemptionId := x.id, amount := x.cost, idempotent := true }) db
  | adjusted (ledgerId actorId : Uuid) (input : AdjustTmiBalanceDto) (call : r.call = .adjustBalance ledgerId actorId input)
      (positive : 1 ≤ input.amount) (funds : input.direction = .debit → input.amount ≤ currentBalance db input.userId)
      (freshKey : free (fun e => some (ledgerKey e)) (adjustmentEntry ledgerId actorId input) db.ledger = true) :
      TmiMove r db
        (.adjusted {
          userId := input.userId
          amount := input.amount
          direction := input.direction
          balance :=
            if input.direction = .credit then currentBalance db input.userId + input.amount
            else currentBalance db input.userId - input.amount
          idempotent := false })
        { db with ledger := db.ledger ++ [adjustmentEntry ledgerId actorId input] }
  | adjustedBefore (ledgerId actorId : Uuid) (input : AdjustTmiBalanceDto) (call : r.call = .adjustBalance ledgerId actorId input)
      (live : liveUser db input.userId) (least : 1 ≤ input.amount) (most : input.amount ≤ 2147483647) (e : TmiLedgerEntry)
      (found : ledgerEntryOf db input.userId .adjustment "tmi_adjustment" input.adjustmentKey = some e) :
      TmiMove r db
        (.adjusted {
          userId := input.userId
          amount := input.amount
          direction := input.direction
          balance := currentBalance db input.userId
          idempotent := true })
        db

section Calls

variable (db : TmiDb) (r : TmiRequest)

theorem grantCourse_frame (draw : AccessDraw) (reward : TmiReward) (x : TmiRedemption) :
    Wlp (grantCourse draw reward x) (fun _ t => t.rewards = db.rewards ∧ t.redemptions = db.redemptions ∧
      t.ledger = db.ledger) db := by
  simp only [grantCourse, courseIdFromMetadata, wlp_ite, wlp_bind, wlp_orThrow, wlp_require, wlp_pure, onCommerce, wlp_zoom]
  exact ⟨fun _ _ _ _ _ _ _ => ⟨trivial, trivial, trivial⟩, fun _ => ⟨trivial, trivial, trivial⟩⟩

theorem revokeCourse_frame (e : TmiEntitlement) (x : TmiRedemption) (reason : Option String) :
    Wlp (revokeCourse e x reason) (fun _ t => t.rewards = db.rewards ∧ t.redemptions = db.redemptions ∧
      t.ledger = db.ledger) db := by
  simp only [revokeCourse, courseIdFromMetadata, wlp_ite, wlp_bind, wlp_orThrow, wlp_require, wlp_pure, onCommerce, wlp_zoom]
  exact ⟨fun _ _ _ _ _ _ _ => ⟨trivial, trivial, trivial⟩, fun _ => ⟨trivial, trivial, trivial⟩⟩

theorem redeem_move (draw : RedemptionDraw) (userId rewardId : Uuid) (key : String)
    (call : r.call = .redeem draw userId rewardId key) :
    Wlp (redeem draw r.now userId rewardId key) (fun x t => TmiMove r db (.redeemed x) t) db := by
  simp only [redeem, lockUser, wlp_bind, wlp_get, wlp_require]
  intro _
  cases replayed : redemptionOf db userId key with
  | some existing =>
      simp only [wlp_bind, wlp_require, wlp_pure]
      intro same
      obtain ⟨member, selected⟩ := find_some _ _ existing replayed
      simp only [decide_eq_true_eq] at selected
      refine .redeemedBefore draw existing ?_ member
      rw [call, selected.1, selected.2, same]
  | none =>
      simp only [lockReward, assertRewardRedeemable, wlp_bind, wlp_get, wlp_orThrow, wlp_require]
      intro reward found _ _ stock funds
      have named : reward.id = rewardId := of_decide_eq_true (find_some _ _ reward found).2
      subst named
      simp only [createRedemption, createEntitlement, wlp_bind, wlp_get, wlp_require, wlp_modify]
      intro freshId _ _ _
      refine wlp_mono _ _ (grantCourse_frame _ draw.access reward _) ?_
      intro _ t kept
      obtain ⟨rewards, redemptions, ledger⟩ := kept
      simp only [createLedgerEntry, wlp_bind, wlp_get, wlp_require, wlp_modify, wlp_pure]
      intro _ freshKey
      rw [ledger] at freshKey
      refine .redeemed draw userId reward key call found stock funds freshId freshKey _ ?_ redemptions ?_
      · rw [rewards]
      · rw [ledger]

theorem refund_move (ledgerId actorId redemptionId : Uuid) (reason : Option String)
    (call : r.call = .refund ledgerId actorId redemptionId reason) :
    Wlp (refund ledgerId actorId redemptionId reason) (fun x t => TmiMove r db (.refunded x) t) db := by
  simp only [refund, lockUser, wlp_bind, wlp_get, wlp_orThrow, wlp_require]
  intro x found _
  obtain ⟨member, selected⟩ := find_some _ _ x found
  have named : x.id = redemptionId := of_decide_eq_true selected
  subst named
  cases replayed : ledgerEntryOf db x.userId .refund "tmi_redemption" x.id with
  | some e =>
      simp only [wlp_pure]
      exact .refundedBefore ledgerId actorId x reason e call member replayed
  | none =>
      simp only [createLedgerEntry, wlp_bind, wlp_get, wlp_require, wlp_modify, wlp_orThrow]
      intro _ freshKey entitlement _
      refine wlp_mono _ _ (revokeCourse_frame _ entitlement x reason) ?_
      intro _ t kept
      obtain ⟨rewards, redemptions, ledger⟩ := kept
      rw [wlp_pure]
      exact .refunded ledgerId actorId x reason call member replayed freshKey t rewards redemptions ledger

theorem adjustBalance_move (ledgerId actorId : Uuid) (input : AdjustTmiBalanceDto)
    (call : r.call = .adjustBalance ledgerId actorId input) (least : 1 ≤ input.amount) (most : input.amount ≤ 2147483647) :
    Wlp (adjustBalance ledgerId actorId input) (fun x t => TmiMove r db (.adjusted x) t) db := by
  simp only [adjustBalance, lockUser, wlp_bind, wlp_get, wlp_require]
  intro live
  cases replayed : ledgerEntryOf db input.userId .adjustment "tmi_adjustment" input.adjustmentKey with
  | some e =>
      simp only [wlp_pure]
      exact .adjustedBefore ledgerId actorId input call live least most e replayed
  | none =>
      simp only [createLedgerEntry, wlp_bind, wlp_get, wlp_require, wlp_modify, wlp_pure]
      intro funds _ freshKey
      exact .adjusted ledgerId actorId input call least funds freshKey

theorem tmiCall_move : Wlp (tmiCall r) (fun response t => TmiMove r db response t) db := by
  unfold tmiCall
  cases call : r.call with
  | redeem draw userId rewardId key =>
      simp only [wlp_map]
      exact redeem_move db r draw userId rewardId key call
  | refund ledgerId actorId redemptionId reason =>
      simp only [wlp_map]
      exact refund_move db r ledgerId actorId redemptionId reason call
  | adjustBalance ledgerId actorId input =>
      simp only [validateAdjustment, wlp_map, wlp_bind, wlp_require]
      exact fun least most => adjustBalance_move db r ledgerId actorId input call least most

end Calls

structure EntryOf (kind : TmiLedgerKind) (x : TmiRedemption) (e : TmiLedgerEntry) : Prop where
  kind : e.kind = kind
  user : e.userId = x.userId
  redemption : e.redemptionId = some x.id
  source : e.sourceType = "tmi_redemption" ∧ e.sourceId = x.id
  amount : e.amount = x.cost

instance (kind : TmiLedgerKind) (x : TmiRedemption) (e : TmiLedgerEntry) : Decidable (EntryOf kind x e) :=
  decidable_of_iff (e.kind = kind ∧ e.userId = x.userId ∧ e.redemptionId = some x.id ∧
    (e.sourceType = "tmi_redemption" ∧ e.sourceId = x.id) ∧ e.amount = x.cost)
    ⟨fun h => ⟨h.1, h.2.1, h.2.2.1, h.2.2.2.1, h.2.2.2.2⟩, fun h => ⟨h.kind, h.user, h.redemption, h.source, h.amount⟩⟩

def refundKey (e : TmiLedgerEntry) : Option Uuid :=
  if e.kind = .refund then e.redemptionId else none

def redemptionsOf (redemptions : List TmiRedemption) (rewardId : Uuid) : List TmiRedemption :=
  redemptions.filter (fun x => x.rewardId = rewardId)

-- No wallet is overdrawn, a redemption is refunded once and for its cost, and no reward is redeemed beyond its stock.
structure LedgerKept (db : TmiDb) : Prop where
  solvent : ∀ userId, 0 ≤ unclampedBalance db.ledger userId
  refundedOnce : UniqueKey refundKey db.ledger
  refundedExactly : ∀ e ∈ db.ledger, e.kind = .refund → ∃ x ∈ db.redemptions, EntryOf .refund x e
  counted : ∀ reward ∈ db.rewards, reward.redeemedCount = (redemptionsOf db.redemptions reward.id).length
  stocked : ∀ reward ∈ db.rewards, ∀ q ∈ reward.quota, reward.redeemedCount ≤ q

structure TmiSound (db : TmiDb) : Prop extends LedgerKept db where
  rewards : UniqueKey (fun reward => some reward.id) db.rewards
  prices : ∀ reward ∈ db.rewards, 0 < reward.cost
  redemptions : UniqueKey (fun x => some x.id) db.redemptions
  costs : ∀ x ∈ db.redemptions, 0 < x.cost
  keys : UniqueKey (fun e => some (ledgerKey e)) db.ledger
  amounts : ∀ e ∈ db.ledger, 0 < e.amount
  debited : ∀ x ∈ db.redemptions, ∃ e ∈ db.ledger, EntryOf .redeem x e

theorem addEntry_value (t : TmiTotals) (e : TmiLedgerEntry) (positive : 0 < e.amount) :
    (addEntry t e).earned - (addEntry t e).spent = t.earned - t.spent + entryValue e := by
  have counted : ¬ e.amount ≤ 0 := by omega
  rw [addEntry, if_neg counted]
  cases kind : e.kind with
  | earn | refund =>
      simp [isCredit, isDebit, entryValue, kind]
      omega
  | redeem | expiry =>
      simp [isCredit, isDebit, entryValue, kind]
      omega
  | adjustment =>
      cases direction : e.adjustmentDirection with
      | none => simp [isCredit, isDebit, entryValue, kind, direction]
      | some direction' =>
          cases direction' with
          | credit =>
              simp [isCredit, isDebit, entryValue, kind, direction]
              omega
          | debit =>
              simp [isCredit, isDebit, entryValue, kind, direction]
              omega

theorem totals_value (entries : List TmiLedgerEntry) (t : TmiTotals) (positive : ∀ e ∈ entries, 0 < e.amount) :
    (entries.foldl addEntry t).earned - (entries.foldl addEntry t).spent = t.earned - t.spent + total entryValue entries := by
  induction entries generalizing t with
  | nil => simp
  | cons e rest ih =>
      have first := addEntry_value t e (positive e (List.mem_cons_self ..))
      have others := ih (addEntry t e) (fun x member => positive x (List.mem_cons_of_mem e member))
      rw [List.foldl_cons, others, first, total_cons]
      omega

section Balances

variable (db : TmiDb) (sound : TmiSound db)

include sound

theorem currentBalance_unclamped (userId : Uuid) : currentBalance db userId = unclampedBalance db.ledger userId := by
  have solvent := sound.solvent userId
  have value := totals_value (entriesOf db.ledger userId) { earned := 0, spent := 0, expired := 0 }
    (fun e member => sound.amounts e (List.mem_of_mem_filter member))
  unfold currentBalance summarizeWallet
  unfold unclampedBalance at solvent ⊢
  simp only at value ⊢
  omega

end Balances

theorem unclampedBalance_appended (ledger : List TmiLedgerEntry) (e : TmiLedgerEntry) (userId : Uuid) :
    unclampedBalance (ledger ++ [e]) userId = unclampedBalance ledger userId + if e.userId = userId then entryValue e else 0 := by
  unfold unclampedBalance entriesOf
  by_cases own : e.userId = userId
  · simp [own, List.filter_append]
  · simp [own, List.filter_append]

theorem solvent_appended (ledger : List TmiLedgerEntry) (e : TmiLedgerEntry) (solvent : ∀ userId, 0 ≤ unclampedBalance ledger userId)
    (covered : 0 ≤ unclampedBalance ledger e.userId + entryValue e) (userId : Uuid) :
    0 ≤ unclampedBalance (ledger ++ [e]) userId := by
  rw [unclampedBalance_appended]
  by_cases own : e.userId = userId
  · rw [if_pos own, ← own]
    exact covered
  · rw [if_neg own]
    have before_ := solvent userId
    omega

section Preserved

variable (r : TmiRequest) (db : TmiDb) (sound : TmiSound db)

include sound

theorem tmiSound_redeemed (draw : RedemptionDraw) (userId : Uuid) (reward : TmiReward) (key : String)
    (found : rewardById db reward.id = some reward) (stock : ∀ q ∈ reward.quota, reward.redeemedCount < q)
    (funds : reward.cost ≤ currentBalance db userId)
    (freshId : free (fun x => some x.id) (redemptionRow draw r.now userId reward key) db.redemptions = true)
    (freshKey : free (fun e => some (ledgerKey e)) (redeemEntry draw (redemptionRow draw r.now userId reward key)) db.ledger = true) :
    TmiSound { db with
      rewards := incrementRedeemed reward.id db.rewards
      redemptions := db.redemptions ++ [redemptionRow draw r.now userId reward key]
      ledger := db.ledger ++ [redeemEntry draw (redemptionRow draw r.now userId reward key)] } where
  solvent := by
    refine solvent_appended _ _ sound.solvent ?_
    rw [currentBalance_unclamped db sound] at funds
    simp only [redeemEntry, redemptionRow, entryValue]
    omega
  refundedOnce := unique_append _ _ _ sound.refundedOnce ((free_iff _ _ _).mpr (by intro _ _ _ own; cases own))
  refundedExactly := by
    intro e member kind
    rcases List.mem_append.mp member with old | new
    · obtain ⟨x, listed, entry⟩ := sound.refundedExactly e old kind
      exact ⟨x, List.mem_append_left _ listed, entry⟩
    · obtain rfl := List.mem_singleton.mp new
      cases kind
  counted := by
    intro c member
    obtain ⟨old, listed, rfl⟩ := (mem_updateWhere _ _ _ c).mp member
    have before_ := sound.counted old listed
    unfold redemptionsOf at before_ ⊢
    simp only [List.filter_append, List.length_append]
    by_cases own : decide (old.id = reward.id) = true
    · have named : reward.id = old.id := (of_decide_eq_true own).symm
      rw [if_pos own]
      simp [redemptionRow, named, before_]
    · have other : ¬ reward.id = old.id := fun same => own (decide_eq_true same.symm)
      rw [if_neg own]
      simp [redemptionRow, other, before_]
  stocked := by
    intro c member q limit
    obtain ⟨old, listed, rfl⟩ := (mem_updateWhere _ _ _ c).mp member
    by_cases own : decide (old.id = reward.id) = true
    · rw [if_pos own] at limit ⊢
      have same : old = reward := unique_eq _ _ sound.rewards old reward reward.id listed (find_some _ _ reward found).1
        (by rw [of_decide_eq_true own]) rfl
      subst same
      have below := stock q limit
      show old.redeemedCount + 1 ≤ q
      omega
    · rw [if_neg own] at limit ⊢
      exact sound.stocked old listed q limit
  rewards := unique_updateWhere _ _ _ _ sound.rewards (fun _ _ _ => rfl)
  prices := by
    intro c member
    obtain ⟨old, listed, rfl⟩ := (mem_updateWhere _ _ _ c).mp member
    have price := sound.prices old listed
    split
    · exact price
    · exact price
  redemptions := unique_append _ _ _ sound.redemptions freshId
  costs := by
    intro x member
    rcases List.mem_append.mp member with old | new
    · exact sound.costs x old
    · obtain rfl := List.mem_singleton.mp new
      exact sound.prices reward (find_some _ _ reward found).1
  keys := unique_append _ _ _ sound.keys freshKey
  amounts := by
    intro e member
    rcases List.mem_append.mp member with old | new
    · exact sound.amounts e old
    · obtain rfl := List.mem_singleton.mp new
      exact sound.prices reward (find_some _ _ reward found).1
  debited := by
    intro x member
    rcases List.mem_append.mp member with old | new
    · obtain ⟨e, listed, entry⟩ := sound.debited x old
      exact ⟨e, List.mem_append_left _ listed, entry⟩
    · obtain rfl := List.mem_singleton.mp new
      exact ⟨_, List.mem_append_right _ (List.mem_singleton.mpr rfl), rfl, rfl, rfl, ⟨rfl, rfl⟩, rfl⟩

theorem refund_fresh (ledgerId actorId : Uuid) (x : TmiRedemption) (member : x ∈ db.redemptions)
    (absent : ledgerEntryOf db x.userId .refund "tmi_redemption" x.id = none) :
    free refundKey (refundEntry ledgerId actorId x) db.ledger = true := by
  rw [free_iff]
  intro e listed k own same
  obtain rfl : x.id = k := Option.some.inj own
  have kind : e.kind = .refund := by
    by_contra other
    rw [refundKey, if_neg other] at same
    cases same
  obtain ⟨y, known, entry⟩ := sound.refundedExactly e listed kind
  have named : y.id = x.id := by
    rw [refundKey, if_pos kind, entry.redemption] at same
    exact Option.some.inj same
  obtain rfl : y = x := unique_eq _ _ sound.redemptions y x x.id known member (by rw [named]) rfl
  have missed := find_none _ _ absent e listed
  simp [entry.user, kind, entry.source] at missed

theorem tmiSound_refunded (ledgerId actorId : Uuid) (x : TmiRedemption) (member : x ∈ db.redemptions)
    (absent : ledgerEntryOf db x.userId .refund "tmi_redemption" x.id = none)
    (freshKey : free (fun e => some (ledgerKey e)) (refundEntry ledgerId actorId x) db.ledger = true) :
    TmiSound { db with ledger := db.ledger ++ [refundEntry ledgerId actorId x] } where
  solvent := by
    refine solvent_appended _ _ sound.solvent ?_
    have before_ := sound.solvent x.userId
    have cost := sound.costs x member
    simp only [refundEntry, entryValue]
    omega
  refundedOnce := unique_append _ _ _ sound.refundedOnce (refund_fresh db sound ledgerId actorId x member absent)
  refundedExactly := by
    intro e listed kind
    rcases List.mem_append.mp listed with old | new
    · exact sound.refundedExactly e old kind
    · obtain rfl := List.mem_singleton.mp new
      exact ⟨x, member, rfl, rfl, rfl, ⟨rfl, rfl⟩, rfl⟩
  counted := sound.counted
  stocked := sound.stocked
  rewards := sound.rewards
  prices := sound.prices
  redemptions := sound.redemptions
  costs := sound.costs
  keys := unique_append _ _ _ sound.keys freshKey
  amounts := by
    intro e listed
    rcases List.mem_append.mp listed with old | new
    · exact sound.amounts e old
    · obtain rfl := List.mem_singleton.mp new
      exact sound.costs x member
  debited := by
    intro y listed
    obtain ⟨e, known, entry⟩ := sound.debited y listed
    exact ⟨e, List.mem_append_left _ known, entry⟩

theorem tmiSound_adjusted (ledgerId actorId : Uuid) (input : AdjustTmiBalanceDto) (positive : 1 ≤ input.amount)
    (funds : input.direction = .debit → input.amount ≤ currentBalance db input.userId)
    (freshKey : free (fun e => some (ledgerKey e)) (adjustmentEntry ledgerId actorId input) db.ledger = true) :
    TmiSound { db with ledger := db.ledger ++ [adjustmentEntry ledgerId actorId input] } where
  solvent := by
    refine solvent_appended _ _ sound.solvent ?_
    have before_ := sound.solvent input.userId
    rw [currentBalance_unclamped db sound] at funds
    simp only [adjustmentEntry, entryValue]
    cases direction : input.direction with
    | credit => simp only; omega
    | debit =>
        have enough := funds direction
        simp only
        omega
  refundedOnce := unique_append _ _ _ sound.refundedOnce ((free_iff _ _ _).mpr (by intro _ _ _ own; cases own))
  refundedExactly := by
    intro e listed kind
    rcases List.mem_append.mp listed with old | new
    · exact sound.refundedExactly e old kind
    · obtain rfl := List.mem_singleton.mp new
      cases kind
  counted := sound.counted
  stocked := sound.stocked
  rewards := sound.rewards
  prices := sound.prices
  redemptions := sound.redemptions
  costs := sound.costs
  keys := unique_append _ _ _ sound.keys freshKey
  amounts := by
    intro e listed
    rcases List.mem_append.mp listed with old | new
    · exact sound.amounts e old
    · obtain rfl := List.mem_singleton.mp new
      show 0 < input.amount
      omega
  debited := by
    intro y listed
    obtain ⟨e, known, entry⟩ := sound.debited y listed
    exact ⟨e, List.mem_append_left _ known, entry⟩

end Preserved

theorem tmiSound_same (s t : TmiDb) (sound : TmiSound s) (rewards : t.rewards = s.rewards) (redemptions : t.redemptions = s.redemptions)
    (ledger : t.ledger = s.ledger) : TmiSound t := by
  obtain ⟨kept, a, b, c, d, e, f, g⟩ := sound
  obtain ⟨solvent, once, exactly, counted, stocked⟩ := kept
  rw [← rewards] at a b counted stocked
  rw [← redemptions] at c d g exactly counted
  rw [← ledger] at e f g solvent once exactly
  exact ⟨⟨solvent, once, exactly, counted, stocked⟩, a, b, c, d, e, f, g⟩

theorem tmiSound_move (r : TmiRequest) (db t : TmiDb) (response : TmiResponse) (sound : TmiSound db)
    (move : TmiMove r db response t) : TmiSound t := by
  cases move with
  | redeemed draw userId reward key call found stock funds freshId freshKey t rewards redemptions ledger =>
      exact tmiSound_same _ t (tmiSound_redeemed r db sound draw userId reward key found stock funds freshId freshKey) rewards
        redemptions ledger
  | redeemedBefore => exact sound
  | refunded ledgerId actorId x reason call member absent freshKey t rewards redemptions ledger =>
      exact tmiSound_same _ t (tmiSound_refunded db sound ledgerId actorId x member absent freshKey) rewards redemptions ledger
  | refundedBefore => exact sound
  | adjusted ledgerId actorId input call positive funds freshKey =>
      exact tmiSound_adjusted db sound ledgerId actorId input positive funds freshKey
  | adjustedBefore => exact sound

theorem tmiSound_step (db : TmiDb) (r : TmiRequest) (sound : TmiSound db) : TmiSound (tmiStep db r) :=
  commit_of_wlp _ _ db sound
    (wlp_mono _ db (tmiCall_move db r) (fun response t move => tmiSound_move r db t response sound move))

def tmiAnswer (db : TmiDb) (r : TmiRequest) : Except Fault TmiResponse :=
  (attempt (tmiCall r) db).1

def TmiResponse.idempotent : TmiResponse → Bool
  | .redeemed x => x.idempotent
  | .refunded x => x.idempotent
  | .adjusted x => x.idempotent

def adjustmentKeyOf (input : AdjustTmiBalanceDto) : Uuid × TmiLedgerKind × String × String :=
  (input.userId, .adjustment, "tmi_adjustment", input.adjustmentKey)

def Stored (r : TmiRequest) (db : TmiDb) (response : TmiResponse) : Prop :=
  match r.call, response with
  | .redeem _ userId rewardId key, .redeemed x =>
      x.redemption ∈ db.redemptions ∧ x.redemption.userId = userId ∧ x.redemption.rewardId = rewardId ∧
        x.redemption.idempotencyKey = key ∧ ∃ e ∈ db.ledger, EntryOf .redeem x.redemption e
  | .refund _ _ redemptionId _, .refunded x =>
      x.redemptionId = redemptionId ∧
        ∃ e ∈ db.ledger, e.kind = .refund ∧ e.redemptionId = some redemptionId ∧ e.amount = x.amount
  | .adjustBalance _ _ input, .adjusted x =>
      x.userId = input.userId ∧
        ∃ e ∈ db.ledger, ledgerKey e = adjustmentKeyOf input ∧ e.amount = x.amount ∧
          e.adjustmentDirection = some x.direction ∧ balanceAfter db.ledger e = x.balance
  | _, _ => False

instance (r : TmiRequest) (db : TmiDb) (response : TmiResponse) : Decidable (Stored r db response) := by
  unfold Stored
  split <;> infer_instance

def ReportedAsStored (db : TmiDb) (r : TmiRequest) : Prop :=
  match tmiAnswer db r with
  | .ok response => Stored r (tmiStep db r) response ∧ (response.idempotent = true → tmiStep db r = db)
  | .error _ => True

instance (db : TmiDb) (r : TmiRequest) : Decidable (ReportedAsStored db r) := by
  unfold ReportedAsStored
  split <;> infer_instance

def ReplayAgrees (db : TmiDb) (r : TmiRequest) : Prop :=
  match r.call with
  | .adjustBalance _ _ input =>
      liveUser db input.userId → 1 ≤ input.amount → input.amount ≤ 2147483647 →
        ∀ e ∈ ledgerEntryOf db input.userId .adjustment "tmi_adjustment" input.adjustmentKey,
          e.amount = input.amount ∧ e.adjustmentDirection = some input.direction ∧
            balanceAfter db.ledger e = unclampedBalance db.ledger input.userId
  | _ => True

instance (db : TmiDb) (r : TmiRequest) : Decidable (ReplayAgrees db r) := by
  unfold ReplayAgrees
  split <;> infer_instance

theorem tmi_answered (db : TmiDb) (r : TmiRequest) (response : TmiResponse) (answered : tmiAnswer db r = .ok response) :
    TmiMove r db response (tmiStep db r) := by
  have move := tmiCall_move db r
  unfold tmiAnswer attempt at answered
  unfold tmiStep commit
  cases called : tmiCall r db with
  | error e =>
      rw [called] at answered
      cases answered
  | ok result =>
      rw [called] at answered
      obtain rfl := Except.ok.inj answered
      exact move result.1 result.2 called

theorem balanceAfter_new (ledger : List TmiLedgerEntry) (e : TmiLedgerEntry) (fresh : e ∉ ledger) :
    balanceAfter (ledger ++ [e]) e = unclampedBalance ledger e.userId + entryValue e := by
  have before_ : (ledger ++ [e]).takeWhile (fun x => x ≠ e) = ledger := by
    rw [List.takeWhile_append_of_pos]
    · simp
    · intro x member
      simp only [ne_eq, decide_eq_true_eq]
      intro same
      exact fresh (same ▸ member)
  rw [balanceAfter, before_, unclampedBalance_appended, if_pos rfl]

theorem ledgerEntryOf_some (db : TmiDb) (userId : Uuid) (kind : TmiLedgerKind) (sourceType sourceId : String) (e : TmiLedgerEntry)
    (found : ledgerEntryOf db userId kind sourceType sourceId = some e) :
    e ∈ db.ledger ∧ ledgerKey e = (userId, kind, sourceType, sourceId) := by
  obtain ⟨member, selected⟩ := find_some _ _ e found
  simp only [decide_eq_true_eq] at selected
  obtain ⟨user, same, source, id⟩ := selected
  exact ⟨member, by rw [ledgerKey, user, same, source, id]⟩

theorem adjustment_replayed (r : TmiRequest) (db : TmiDb) (ledgerId actorId : Uuid) (input : AdjustTmiBalanceDto)
    (call : r.call = .adjustBalance ledgerId actorId input) (live : liveUser db input.userId) (least : 1 ≤ input.amount)
    (most : input.amount ≤ 2147483647) (e : TmiLedgerEntry)
    (found : ledgerEntryOf db input.userId .adjustment "tmi_adjustment" input.adjustmentKey = some e) :
    tmiCall r db = .ok (.adjusted {
      userId := input.userId
      amount := input.amount
      direction := input.direction
      balance := currentBalance db input.userId
      idempotent := true }, db) := by
  have validated : validateAdjustment input db = .ok ((), db) := by
    rw [validateAdjustment, require_bind_run _ _ _ _ least, require, if_pos most]
    rfl
  have locked : lockUser input.userId db = .ok ((), db) := by
    rw [lockUser, get_bind_run, require, if_pos live]
    rfl
  have answered : adjustBalance ledgerId actorId input db = .ok ({
      userId := input.userId
      amount := input.amount
      direction := input.direction
      balance := currentBalance db input.userId
      idempotent := true }, db) := by
    rw [adjustBalance, bind_run _ _ _ _ _ locked, get_bind_run, found]
    rfl
  unfold tmiCall
  rw [call]
  show (validateAdjustment input >>= fun _ => TmiResponse.adjusted <$> adjustBalance ledgerId actorId input) db = _
  rw [bind_run _ _ _ _ _ validated, map_eq_pure_bind, bind_run _ _ _ _ _ answered]
  rfl

section Answers

variable (r : TmiRequest) (db : TmiDb) (sound : TmiSound db)

include sound

theorem adjustment_stored (ledgerId actorId : Uuid) (input : AdjustTmiBalanceDto)
    (freshKey : free (fun e => some (ledgerKey e)) (adjustmentEntry ledgerId actorId input) db.ledger = true) :
    balanceAfter (db.ledger ++ [adjustmentEntry ledgerId actorId input]) (adjustmentEntry ledgerId actorId input) =
      if input.direction = .credit then currentBalance db input.userId + input.amount
      else currentBalance db input.userId - input.amount := by
  have fresh : adjustmentEntry ledgerId actorId input ∉ db.ledger :=
    fun member => (free_iff _ _ _).mp freshKey _ member _ rfl rfl
  rw [balanceAfter_new _ _ fresh, currentBalance_unclamped db sound]
  cases direction : input.direction with
  | credit => simp [adjustmentEntry, entryValue, direction]
  | debit =>
      simp [adjustmentEntry, entryValue, direction]
      omega

theorem reported_of_agrees (agrees : ReplayAgrees db r) : ReportedAsStored db r := by
  unfold ReportedAsStored
  cases answered : tmiAnswer db r with
  | error e => trivial
  | ok response =>
      have move := tmi_answered db r response answered
      generalize tmiStep db r = t at move
      unfold Stored
      cases move with
      | redeemed draw userId reward key call found stock funds freshId freshKey t rewards redemptions ledger =>
          refine ⟨?_, fun replayed => by cases replayed⟩
          rw [call]
          refine ⟨?_, rfl, rfl, rfl, redeemEntry draw (redemptionRow draw r.now userId reward key), ?_, rfl, rfl, rfl, ⟨rfl, rfl⟩, rfl⟩
          · rw [redemptions]
            exact List.mem_append_right _ (List.mem_singleton.mpr rfl)
          · rw [ledger]
            exact List.mem_append_right _ (List.mem_singleton.mpr rfl)
      | redeemedBefore draw existing call member =>
          refine ⟨?_, fun _ => rfl⟩
          rw [call]
          exact ⟨member, rfl, rfl, rfl, sound.debited existing member⟩
      | refunded ledgerId actorId x reason call member absent freshKey t rewards redemptions ledger =>
          refine ⟨?_, fun replayed => by cases replayed⟩
          rw [call]
          refine ⟨rfl, refundEntry ledgerId actorId x, ?_, rfl, rfl, rfl⟩
          rw [ledger]
          exact List.mem_append_right _ (List.mem_singleton.mpr rfl)
      | refundedBefore ledgerId actorId x reason e call member found =>
          refine ⟨?_, fun _ => rfl⟩
          rw [call]
          obtain ⟨listed, key⟩ := ledgerEntryOf_some _ _ _ _ _ e found
          have kind : e.kind = .refund := congrArg (fun k => k.2.1) key
          obtain ⟨y, known, entry⟩ := sound.refundedExactly e listed kind
          have named : y.id = x.id := entry.source.2.symm.trans (congrArg (fun k => k.2.2.2) key)
          obtain rfl : y = x := unique_eq _ _ sound.redemptions y x x.id known member (by rw [named]) rfl
          exact ⟨rfl, e, listed, kind, entry.redemption, entry.amount⟩
      | adjusted ledgerId actorId input call positive funds freshKey =>
          refine ⟨?_, fun replayed => by cases replayed⟩
          rw [call]
          exact ⟨rfl, adjustmentEntry ledgerId actorId input, List.mem_append_right _ (List.mem_singleton.mpr rfl), rfl, rfl, rfl,
            adjustment_stored db sound ledgerId actorId input freshKey⟩
      | adjustedBefore ledgerId actorId input call live least most e found =>
          refine ⟨?_, fun _ => rfl⟩
          unfold ReplayAgrees at agrees
          rw [call] at agrees ⊢
          obtain ⟨amount, direction, balance⟩ := agrees live least most e found
          obtain ⟨listed, key⟩ := ledgerEntryOf_some _ _ _ _ _ e found
          exact ⟨rfl, e, listed, key, amount, direction, balance.trans (currentBalance_unclamped db sound _).symm⟩

theorem agrees_of_reported (reported : ReportedAsStored db r) : ReplayAgrees db r := by
  unfold ReplayAgrees
  cases call : r.call with
  | redeem draw userId rewardId key => trivial
  | refund ledgerId actorId redemptionId reason => trivial
  | adjustBalance ledgerId actorId input =>
      intro live least most e found
      have called := adjustment_replayed r db ledgerId actorId input call live least most e found
      unfold ReportedAsStored tmiAnswer tmiStep attempt commit at reported
      rw [called] at reported
      obtain ⟨stored, _⟩ := reported
      unfold Stored at stored
      rw [call] at stored
      obtain ⟨_, e', listed', key', amount, direction, balance⟩ := stored
      obtain ⟨listed, key⟩ := ledgerEntryOf_some _ _ _ _ _ e found
      obtain rfl : e' = e := unique_eq _ _ sound.keys e' e (adjustmentKeyOf input) listed' listed (by rw [key'])
        (by rw [key]; rfl)
      exact ⟨amount, direction, balance.trans (currentBalance_unclamped db sound _)⟩

end Answers

structure NewProgramme (db : TmiDb) : Prop where
  rewards : UniqueKey (fun reward => some reward.id) db.rewards
  priced : ∀ reward ∈ db.rewards, 0 < reward.cost ∧ reward.redeemedCount = 0 ∧ ∀ q ∈ reward.quota, 1 ≤ q
  unused : db.redemptions = []
  keys : UniqueKey (fun e => some (ledgerKey e)) db.ledger
  earned : ∀ e ∈ db.ledger, e.kind = .earn ∧ 0 < e.amount

theorem newProgramme_sound (db : TmiDb) (new : NewProgramme db) : TmiSound db where
  solvent := by
    intro userId
    refine total_nonneg _ _ (fun e member => ?_)
    obtain ⟨kind, positive⟩ := new.earned e (List.mem_of_mem_filter member)
    rw [entryValue, kind]
    exact positive.le
  refundedOnce := by
    unfold UniqueKey
    rw [List.filterMap_eq_nil_iff.mpr]
    · exact List.nodup_nil
    · intro e member
      rw [refundKey, if_neg (by rw [(new.earned e member).1]; decide)]
  refundedExactly := by
    intro e member kind
    rw [(new.earned e member).1] at kind
    cases kind
  counted := by
    intro reward member
    rw [(new.priced reward member).2.1, new.unused]
    rfl
  stocked := by
    intro reward member q limit
    obtain ⟨_, unused, least⟩ := new.priced reward member
    have positive := least q limit
    omega
  rewards := new.rewards
  prices := fun reward member => (new.priced reward member).1
  redemptions := by
    rw [new.unused]
    exact unique_nil _
  costs := by simp [new.unused]
  keys := new.keys
  amounts := fun e member => (new.earned e member).2
  debited := by simp [new.unused]

def TmiCorrect (db : TmiDb) (r : TmiRequest) : Prop :=
  LedgerKept (tmiStep db r) ∧ ReportedAsStored db r

/-- The ledger is right in every run, and its answers are right exactly where each replayed adjustment agrees with the stored one. -/
theorem tmi_ledger_correct (db : TmiDb) (new : NewProgramme db) (requests : List TmiRequest) :
    LedgerKept (run tmiStep db requests) ∧
    (AllMeet tmiStep TmiCorrect db requests ↔ AllMeet tmiStep ReplayAgrees db requests) := by
  have start := newProgramme_sound db new
  refine ⟨(run_invariant tmiStep TmiSound tmiSound_step db requests start).toLedgerKept, ?_, ?_⟩
  · exact allMeet_shows tmiStep TmiCorrect ReplayAgrees TmiSound (fun s r sound _ => tmiSound_step s r sound)
      (fun s r sound correct => agrees_of_reported r s sound correct.2) db requests start
  · exact allMeet_shows tmiStep ReplayAgrees TmiCorrect TmiSound (fun s r sound _ => tmiSound_step s r sound)
      (fun s r sound agrees => ⟨(tmiSound_step s r sound).toLedgerKept, reported_of_agrees r s sound agrees⟩) db requests start

def sampleReward : TmiReward where
  id := "reward-1"
  title := "Study week"
  kind := .courseAccess
  cost := 40
  status := .active
  quota := some 1
  redeemedCount := 0
  startsAt := 0
  endsAt := 100
  inventoryMetadata := some [("courseId", some "0a1b2c3d-0000-4000-8000-00000000000a")]

def sampleTmi : TmiDb where
  rewards := [sampleReward]
  redemptions := []
  entitlements := []
  ledger := []
  commerce := sampleAccess

def sampleAdjustment (ledgerId : Uuid) (amount : Int) (direction : TmiAdjustmentDirection) (adjustmentKey : String) : TmiRequest where
  now := 10
  call := .adjustBalance ledgerId "admin-1" { userId := "student-1", amount, direction, adjustmentKey }

def sampleRedemption (rewardId : Uuid) : TmiRequest where
  now := 20
  call := .redeem { access := sampleDraw, redemptionId := "redemption-1", entitlementId := "entitlement-1", ledgerId := "entry-2" }
    "student-1" rewardId "redeem-001"

def sampleRefund (ledgerId : Uuid) : TmiRequest where
  now := 30
  call := .refund ledgerId "admin-1" "redemption-1" none

theorem newProgramme_sample : NewProgramme sampleTmi where
  rewards := by
    unfold UniqueKey
    decide
  priced := by decide
  unused := rfl
  keys := unique_nil _
  earned := by simp [sampleTmi]

-- A course is redeemed, refunded and asked for again under the used key.
theorem tmi_ledger_correct_sample :
    AllMeet tmiStep TmiCorrect sampleTmi
      [sampleAdjustment "entry-1" 100 .credit "adjust-001", sampleAdjustment "entry-9" 100 .credit "adjust-001",
        sampleRedemption "reward-1", sampleRedemption "reward-1", sampleRefund "entry-3", sampleRefund "entry-4",
        sampleRedemption "reward-2", sampleAdjustment "entry-5" 101 .debit "adjust-002"] := by
  refine (tmi_ledger_correct sampleTmi newProgramme_sample _).2.mpr ⟨?_, ?_, trivial, trivial, trivial, trivial, trivial, ?_, trivial⟩
  · decide +kernel
  · decide +kernel
  · decide +kernel

-- The key of a credit of 100 is sent again with a debit of 30: it is answered as applied, and is not.
theorem adjustment_misreported :
    tmiAnswer (tmiStep sampleTmi (sampleAdjustment "entry-1" 100 .credit "adjust-001"))
      (sampleAdjustment "entry-2" 30 .debit "adjust-001") =
        .ok (.adjusted { userId := "student-1", amount := 30, direction := .debit, balance := 100, idempotent := true }) ∧
    ¬ AllMeet tmiStep TmiCorrect sampleTmi
      [sampleAdjustment "entry-1" 100 .credit "adjust-001", sampleAdjustment "entry-2" 30 .debit "adjust-001"] := by
  refine ⟨by decide +kernel, ?_⟩
  intro correct
  have reported := correct.2.1.2
  revert reported
  decide +kernel

end EduAi.Tmi
