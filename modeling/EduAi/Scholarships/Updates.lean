import EduAi.Scholarships.Awards
import EduAi.Store.Editing

set_option autoImplicit false

namespace EduAi.Scholarships

open EduAi.Store EduAi.Gds EduAi.Commerce

structure ScholarshipUpdate where
  current : ScholarshipCampaign
  input : UpdateScholarshipDto
deriving DecidableEq, Repr

def decideUpdate (id : Uuid) (input : UpdateScholarshipDto) : ScholarshipTxn ScholarshipUpdate := do
  let db ← get
  let current ← orThrow (campaignById db id) (.notFound "Scholarship campaign not found")
  let normalized := normalizeUpdateInput current input
  assertPolicy normalized
  require (¬ (0 < current.awardedCount ∧ changesEconomicPolicy input))
    (.conflict "Economic scholarship policy cannot change after awards; pause or close it instead")
  assertScopeTargets normalized.courseIds normalized.eligibleUserIds
  return { current, input }

def ScholarshipUpdate.onto (u : ScholarshipUpdate) (row : ScholarshipCampaign) : ScholarshipCampaign :=
  (normalizeUpdateInput u.current u.input).onto (u.input.status.getD u.current.status) row

def writeUpdate (db : ScholarshipDb) (u : ScholarshipUpdate) : ScholarshipDb :=
  { db with campaigns := updateWhere (fun c => c.id = u.current.id) u.onto db.campaigns }

def readUpdate (db : ScholarshipDb) (k : Uuid × UpdateScholarshipDto) : Option ScholarshipUpdate :=
  returned (decideUpdate k.1 k.2) db

structure CampaignTerms where
  applicationMode : ScholarshipApplicationMode
  benefitKind : ScholarshipBenefitKind
  benefitValue : Int
  currency : Option String
  startsAt : Instant
  endsAt : Instant
  quota : Option Int
  courseIds : List Uuid
  categorySlugs : List String
  eligibleUserIds : List Uuid
deriving DecidableEq, Repr

def ScholarshipCampaign.terms (c : ScholarshipCampaign) : CampaignTerms where
  applicationMode := c.applicationMode
  benefitKind := c.benefitKind
  benefitValue := c.benefitValue
  currency := c.currency
  startsAt := c.startsAt
  endsAt := c.endsAt
  quota := c.quota
  courseIds := c.courseIds
  categorySlugs := c.categorySlugs
  eligibleUserIds := c.eligibleUserIds

def awardedOf (db : ScholarshipDb) (c : ScholarshipCampaign) : Prop :=
  ∃ a ∈ db.awards, a.scholarshipId = c.id

instance (db : ScholarshipDb) (c : ScholarshipCampaign) : Decidable (awardedOf db c) := by
  unfold awardedOf
  infer_instance

-- Where the campaign has an award by now, the update has read its terms as they are, and knew of an award or names none
-- of them.
def UpdateStands (db : ScholarshipDb) (u : ScholarshipUpdate) : Prop :=
  ∀ row ∈ campaignById db u.current.id, awardedOf db row →
    u.current.terms = row.terms ∧ (0 < u.current.awardedCount ∨ changesEconomicPolicy u.input = false)

instance (db : ScholarshipDb) (u : ScholarshipUpdate) : Decidable (UpdateStands db u) := by
  unfold UpdateStands
  infer_instance

abbrev CampaignsFrozen : ScholarshipDb → ScholarshipDb → Prop :=
  TermsFrozen ScholarshipDb.campaigns ScholarshipCampaign.id awardedOf ScholarshipCampaign.terms

structure UpdateMade (u : ScholarshipUpdate) : Prop where
  quota : ∀ q ∈ (normalizeUpdateInput u.current u.input).quota, 1 ≤ q
  refused : 0 < u.current.awardedCount → changesEconomicPolicy u.input = false

theorem readUpdate_made (db : ScholarshipDb) (k : Uuid × UpdateScholarshipDto) (u : ScholarshipUpdate) (read : readUpdate db k = some u) :
    UpdateMade u := by
  refine (returned_wlp (decideUpdate k.1 k.2) (fun u _ => UpdateMade u) db u read ?_).elim (fun _ made => made)
  simp only [decideUpdate, wlp_bind, wlp_get, wlp_orThrow]
  intro current _
  refine wlp_mono _ db (assertPolicy_checks db _) ?_
  intro _ t checked
  obtain ⟨_, quota⟩ := checked
  rw [wlp_require]
  intro guard
  refine wlp_mono _ t (assertScopeTargets_reads t _ _) ?_
  intro _ _ _
  rw [wlp_pure]
  refine ⟨quota, fun awarded => ?_⟩
  by_contra changes
  exact guard ⟨awarded, by simpa using changes⟩

theorem onto_terms (u : ScholarshipUpdate) (row : ScholarshipCampaign) (unchanged : changesEconomicPolicy u.input = false) :
    (u.onto row).terms = u.current.terms := by
  simp only [changesEconomicPolicy, Bool.or_eq_false_iff, Option.isSome_eq_false_iff, Option.isNone_iff_eq_none] at unchanged
  obtain ⟨⟨⟨⟨⟨⟨⟨⟨⟨mode, kind⟩, value⟩, currency⟩, startsAt⟩, endsAt⟩, quota⟩, courses⟩, categories⟩, users⟩ := unchanged
  simp [ScholarshipUpdate.onto, ScholarshipInput.onto, ScholarshipInput.campaign, normalizeUpdateInput, ScholarshipCampaign.terms,
    mode, kind, value, currency, startsAt, endsAt, quota, courses, categories, users]

section Written

variable (db : ScholarshipDb) (sound : AwardsSound db)

include sound

theorem awardedOf_counted (c : ScholarshipCampaign) (member : c ∈ db.campaigns) : awardedOf db c ↔ 0 < c.awardedCount := by
  have counted := sound.counted c member
  have rows : awardedOf db c ↔ awardsOf db c.id ≠ [] := by
    unfold awardedOf awardsOf
    rw [ne_eq, List.filter_eq_nil_iff]
    simp
  rw [rows, ← List.length_pos_iff]
  omega

variable (u : ScholarshipUpdate) (made : UpdateMade u) (stands : UpdateStands db u)

include made stands

theorem written_terms (row : ScholarshipCampaign) (member : row ∈ db.campaigns) (named : row.id = u.current.id) (awarded : awardedOf db row) :
    (u.onto row).terms = row.terms := by
  have found : campaignById db u.current.id = some row := by
    refine find_unique (fun c => some c.id) _ db.campaigns sound.campaigns row u.current.id member (decide_eq_true named) (by rw [named]) ?_
    intro x _ own
    rw [of_decide_eq_true own]
  obtain ⟨same, known⟩ := stands row found awarded
  have unchanged : changesEconomicPolicy u.input = false := by
    rcases known with seen | none
    · exact made.refused seen
    · exact none
  rw [onto_terms u row unchanged, same]

theorem written_sound : AwardsSound (writeUpdate db u) where
  campaigns := unique_updateWhere _ _ _ _ sound.campaigns (fun _ _ _ => rfl)
  counted := by
    intro c member
    obtain ⟨row, listed, rfl⟩ := (mem_updateWhere _ _ _ c).mp member
    split
    · exact sound.counted row listed
    · exact sound.counted row listed
  quota := by
    intro c member q limit
    obtain ⟨row, listed, rfl⟩ := (mem_updateWhere _ _ _ c).mp member
    by_cases own : decide (row.id = u.current.id) = true
    · rw [if_pos own] at limit ⊢
      show row.awardedCount ≤ q
      by_cases awarded : 0 < row.awardedCount
      · have used := (awardedOf_counted db sound row listed).mpr awarded
        have kept : (u.onto row).quota = row.quota :=
          congrArg CampaignTerms.quota (written_terms db sound u made stands row listed (of_decide_eq_true own) used)
        rw [kept] at limit
        exact sound.quota row listed q limit
      · have least := made.quota q limit
        omega
    · rw [if_neg own] at limit ⊢
      exact sound.quota row listed q limit
  applied := sound.applied
  known := by
    intro a member
    obtain ⟨c, listed, same⟩ := sound.known a member
    refine ⟨_, (mem_updateWhere _ _ _ _).mpr ⟨c, listed, rfl⟩, ?_⟩
    split
    · exact same
    · exact same
  single := sound.single

theorem written_frozen : CampaignsFrozen db (writeUpdate db u) := by
  intro row listed awarded
  refine ⟨_, (mem_updateWhere _ _ _ _).mpr ⟨row, listed, rfl⟩, ?_⟩
  by_cases own : decide (row.id = u.current.id) = true
  · rw [if_pos own]
    exact ⟨rfl, awarded, written_terms db sound u made stands row listed (of_decide_eq_true own) awarded⟩
  · rw [if_neg own]
    exact ⟨rfl, awarded, rfl⟩

end Written

theorem scholarship_move_frozen (r : ScholarshipRequest) (db t : ScholarshipDb) (sound : AwardsSound db)
    (move : ScholarshipMove r db t) : CampaignsFrozen db t := by
  cases move with
  | kept campaigns applications awards =>
      intro row listed awarded
      refine ⟨row, campaigns ▸ listed, rfl, ?_, rfl⟩
      unfold awardedOf at awarded ⊢
      rw [awards]
      exact awarded
  | created row input call fresh unused quota campaigns applications awards =>
      intro old listed awarded
      refine ⟨old, ?_, rfl, ?_, rfl⟩
      · rw [campaigns]
        exact List.mem_append_left _ listed
      · unfold awardedOf at awarded ⊢
        rw [awards]
        exact awarded
  | updated current input call found quota refused campaigns applications awards =>
      have made : UpdateMade { current, input } := ⟨quota, refused⟩
      have stands : UpdateStands db { current, input } := by
        intro row same awarded
        obtain rfl : current = row := Option.some.inj (found.symm.trans same)
        exact ⟨rfl, .inl ((awardedOf_counted db sound current (find_some _ _ current found).1).mp awarded)⟩
      have frozen := written_frozen db sound { current, input } made stands
      intro row listed awarded
      obtain ⟨row', member, same, still, kept⟩ := frozen row listed awarded
      refine ⟨row', campaigns ▸ member, same, ?_, kept⟩
      unfold awardedOf at still ⊢
      rw [awards]
      exact still
  | awarded draw userId scholarship course call found absent listed eligible campaigns applications awards =>
      intro row member awarded
      have still (id : Uuid) (some_ : ∃ a ∈ db.awards, a.scholarshipId = id) : ∃ a ∈ t.awards, a.scholarshipId = id := by
        obtain ⟨a, old, same⟩ := some_
        rw [awards]
        exact ⟨a, List.mem_append_left _ old, same⟩
      rw [campaigns]
      refine ⟨_, (mem_updateWhere _ _ _ _).mpr ⟨row, member, rfl⟩, ?_⟩
      split
      · exact ⟨rfl, still row.id awarded, rfl⟩
      · exact ⟨rfl, still row.id awarded, rfl⟩

abbrev campaignEdits : Editing ScholarshipDb ScholarshipUpdate → EditInput ScholarshipRequest (Uuid × UpdateScholarshipDto) →
    Editing ScholarshipDb ScholarshipUpdate :=
  editStep scholarshipStep readUpdate writeUpdate

def campaignMeets : Editing ScholarshipDb ScholarshipUpdate → EditInput ScholarshipRequest (Uuid × UpdateScholarshipDto) → Prop :=
  onEdits (fun _ _ => True) UpdateStands

instance (e : Editing ScholarshipDb ScholarshipUpdate) (i : EditInput ScholarshipRequest (Uuid × UpdateScholarshipDto)) :
    Decidable (campaignMeets e i) := by
  unfold campaignMeets
  infer_instance

theorem campaign_terms_frozen (db : ScholarshipDb) (sound : AwardsSound db)
    (inputs : List (EditInput ScholarshipRequest (Uuid × UpdateScholarshipDto)))
    (stands : AllMeet campaignEdits campaignMeets (opened db) inputs) :
    AwardsSound (run campaignEdits (opened db) inputs).store ∧ FrozenThroughout campaignEdits CampaignsFrozen db inputs := by
  refine editRun_kept scholarshipStep readUpdate writeUpdate (fun _ _ => True) UpdateStands AwardsSound UpdateMade CampaignsFrozen
    (fun s k u _ read => readUpdate_made s k u read) (fun s _ => termsFrozen_refl _ _ _ _ s) ?used ?written
    (fun s t u => termsFrozen_trans _ _ _ _ s t u) db inputs sound stands
  case used =>
    intro s r kept _
    have move := scholarship_step_move s r
    exact ⟨awardsSound_move r s _ kept move, scholarship_move_frozen r s _ kept move⟩
  case written =>
    intro s u kept made holds
    exact ⟨written_sound s kept u made holds, written_frozen s kept u made holds⟩

end EduAi.Scholarships
