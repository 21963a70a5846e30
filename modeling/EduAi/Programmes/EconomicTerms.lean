import EduAi.Payments.VoucherTerms
import EduAi.Scholarships.Updates
import EduAi.Tmi.Rewards

set_option autoImplicit false

namespace EduAi.Programmes

open EduAi.Store EduAi.Gds EduAi.Commerce EduAi.Payments EduAi.Scholarships EduAi.Tmi

abbrev VoucherInput :=
  EditInput Input (Uuid × UpdateVoucherDto)

abbrev CampaignInput :=
  EditInput ScholarshipRequest (Uuid × UpdateScholarshipDto)

abbrev RewardInput :=
  EditInput RewardCall (Uuid × UpdateTmiRewardDto)

/-- Where every update still stands when it writes, and orders are confirmed while they hold their vouchers, what has been
used keeps its terms, and the uses stay within the limits in force. -/
theorem economic_terms_frozen (deployment : Deployment) (createdAt : Instant) (vouchers : List VoucherInput)
    (scholarships : ScholarshipDb) (campaigns : List CampaignInput) (tmi : TmiDb) (rewards : List RewardInput) :
    (AllMeet (voucherEdits deployment) voucherMeets (opened (System.start createdAt)) vouchers →
      FrozenThroughout (voucherEdits deployment) VouchersFrozen (System.start createdAt) vouchers ∧
      let s := (run (voucherEdits deployment) (opened (System.start createdAt)) vouchers).store
      ∀ v ∈ s.db.vouchers, ∀ who limit, Limits v who limit → 0 ≤ limit → (grantedUses s.db v.id who : Int) ≤ limit) ∧
    (AwardsSound scholarships → AllMeet campaignEdits campaignMeets (opened scholarships) campaigns →
      FrozenThroughout campaignEdits CampaignsFrozen scholarships campaigns ∧
      let t := (run campaignEdits (opened scholarships) campaigns).store
      ∀ c ∈ t.campaigns, ∀ q ∈ c.quota, ((awardsOf t c.id).length : Int) ≤ q) ∧
    (NewProgramme tmi → AllMeet rewardEdits rewardMeets (opened tmi) rewards →
      FrozenThroughout rewardEdits RewardsFrozen tmi rewards ∧
      let t := (run rewardEdits (opened tmi) rewards).store
      ∀ r ∈ t.rewards, ∀ q ∈ r.quota, ((redemptionsOf t.redemptions r.id).length : Int) ≤ q) := by
  refine ⟨?vouchers, ?campaigns, ?rewards⟩
  case vouchers =>
    intro meet
    obtain ⟨kept, frozen⟩ := voucher_terms_frozen deployment createdAt vouchers meet
    exact ⟨frozen, fun v member who limit limits bounded => grantedUses_within _ _ kept.2 v member who limit limits bounded⟩
  case campaigns =>
    intro sound meet
    obtain ⟨kept, frozen⟩ := campaign_terms_frozen scholarships sound campaigns meet
    exact ⟨frozen, fun c member q limit => (kept.counted c member).symm.trans_le (kept.quota c member q limit)⟩
  case rewards =>
    intro new meet
    obtain ⟨kept, frozen⟩ := reward_terms_frozen tmi new rewards meet
    exact ⟨frozen, fun r member q limit => (kept.counted r member).symm.trans_le (kept.stocked r member q limit)⟩

def sampleEdit : UpdateVoucherDto :=
  { value := some (some 30000) }

def sampleEdited : List VoucherInput :=
  sampleHeld.map .use ++ [.read ("voucher-1", sampleEdit)]

theorem sampleEdit_pending : (run (voucherEdits sampleDeployment) (opened (System.start 0)) sampleEdited).pending =
    [{ current := sampleLastUse, input := sampleEdit }] := by
  decide +kernel

theorem sampleEdit_stands : UpdateStands (run (voucherEdits sampleDeployment) (opened (System.start 0)) sampleEdited).store
    { current := sampleLastUse, input := sampleEdit } where
  terms := by decide +kernel
  room := by
    have held : countedUses (run (voucherEdits sampleDeployment) (opened (System.start 0)) sampleEdited).store.db
        (run (voucherEdits sampleDeployment) (opened (System.start 0)) sampleEdited).store.now "voucher-1" everyone ≤ 1 := by
      decide +kernel
    intro who limit limits _
    cases limits with
    | usage limit set =>
        obtain rfl : 1 = limit := Option.some.inj set
        exact Int.ofNat_le.mpr held
    | perUser userId limit set =>
        obtain rfl : 1 = limit := Option.some.inj set
        exact Int.ofNat_le.mpr (le_trans (countedUses_only _ _ _ userId) held)

theorem economic_terms_frozen_sample :
    FrozenThroughout (voucherEdits sampleDeployment) VouchersFrozen (System.start 0) (sampleEdited ++ [.write 0, .use sampleUsePaid]) ∧
    FrozenThroughout campaignEdits CampaignsFrozen sampleScholarships
      (sampleOpening.map .use ++ [.read ("campaign-1", { quota := some (some 1) }), .write 0, .use (sampleApplication "course-1"),
        .read ("campaign-1", { quota := some (some 9) }), .write 0]) ∧
    FrozenThroughout rewardEdits RewardsFrozen sampleTmi
      [.use (.wallet (sampleAdjustment "entry-1" 100 .credit "adjust-001")), .read ("reward-1", { cost := some 5 }), .write 0,
        .use (.wallet (sampleRedemption "reward-1"))] := by
  obtain ⟨vouchers, campaigns, rewards⟩ := economic_terms_frozen sampleDeployment 0
    (sampleEdited ++ [.write 0, .use sampleUsePaid]) sampleScholarships
    (sampleOpening.map .use ++ [.read ("campaign-1", { quota := some (some 1) }), .write 0, .use (sampleApplication "course-1"),
      .read ("campaign-1", { quota := some (some 9) }), .write 0]) sampleTmi
    [.use (.wallet (sampleAdjustment "entry-1" 100 .credit "adjust-001")), .read ("reward-1", { cost := some 5 }), .write 0,
      .use (.wallet (sampleRedemption "reward-1"))]
  refine ⟨(vouchers ?vouchers).1, (campaigns awardsSound_sample ?campaigns).1, (rewards newProgramme_sample ?rewards).1⟩
  case vouchers =>
    have written : voucherMeets (run (voucherEdits sampleDeployment) (opened (System.start 0)) sampleEdited) (.write 0) := by
      intro u found
      rw [sampleEdit_pending] at found
      obtain rfl := Option.some.inj found
      exact sampleEdit_stands
    have paid : PaidInTime (run (voucherEdits sampleDeployment) (opened (System.start 0)) (sampleEdited ++ [.write 0])).store.now
        (run (voucherEdits sampleDeployment) (opened (System.start 0)) (sampleEdited ++ [.write 0])).store.db
        { sampleWebhook "1" "R1" with amountMinor := 60000 } := by
      decide +kernel
    exact ⟨trivial, trivial, trivial, trivial, trivial, trivial, written, paid, trivial⟩
  case campaigns => decide +kernel
  case rewards => decide +kernel

def voucherRace : List VoucherInput :=
  sampleHeld.map .use ++ [.read ("voucher-1", { value := some (some 90000) }), .use sampleUsePaid]

def campaignRace : List CampaignInput :=
  sampleOpening.map .use ++ [.read ("campaign-1", { benefitValue := some 5 }), .use (sampleApplication "course-1")]

def rewardRace : List RewardInput :=
  [.use (.wallet (sampleAdjustment "entry-1" 100 .credit "adjust-001")), .read ("reward-1", { cost := some 5 }),
    .use (.wallet (sampleRedemption "reward-1"))]

theorem used_terms_changed :
    ¬ FrozenThroughout (voucherEdits sampleDeployment) VouchersFrozen (System.start 0) (voucherRace ++ [.write 0]) ∧
    ¬ FrozenThroughout campaignEdits CampaignsFrozen sampleScholarships (campaignRace ++ [.write 0]) ∧
    ¬ FrozenThroughout rewardEdits RewardsFrozen sampleTmi (rewardRace ++ [.write 0]) := by
  refine ⟨fun frozen => ?voucher, fun frozen => ?campaign, fun frozen => ?reward⟩
  case voucher =>
    have kept := frozen voucherRace [.write 0] rfl
    revert kept
    decide +kernel
  case campaign =>
    have kept := frozen campaignRace [.write 0] rfl
    revert kept
    decide +kernel
  case reward =>
    have kept := frozen rewardRace [.write 0] rfl
    revert kept
    decide +kernel

end EduAi.Programmes
