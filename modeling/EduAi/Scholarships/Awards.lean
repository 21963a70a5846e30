import EduAi.Scholarships.Campaigns

set_option autoImplicit false

namespace EduAi.Scholarships

open EduAi.Store EduAi.Gds EduAi.Commerce

def applicant (now : Instant) (userId : Uuid) (course : Course) : ScholarshipEligibilityContext where
  now := now
  userId := userId
  courseId := course.id
  categorySlug := course.categorySlug
  alreadyApplied := false

inductive ScholarshipMove (r : ScholarshipRequest) (db t : ScholarshipDb) : Prop where
  | kept (campaigns : t.campaigns = db.campaigns) (applications : t.applications = db.applications) (awards : t.awards = db.awards)
  | created (row : ScholarshipCampaign) (input : ScholarshipInput) (call : r.call = .create row.id input)
      (fresh : free (fun c => some c.id) row db.campaigns = true) (unused : row.awardedCount = 0)
      (quota : ∀ q ∈ row.quota, 1 ≤ q) (campaigns : t.campaigns = db.campaigns ++ [row])
      (applications : t.applications = db.applications) (awards : t.awards = db.awards)
  | updated (current : ScholarshipCampaign) (input : UpdateScholarshipDto) (call : r.call = .update current.id input)
      (found : campaignById db current.id = some current)
      (quota : ∀ q ∈ (normalizeUpdateInput current input).quota, 1 ≤ q)
      (frozen : 0 < current.awardedCount → changesEconomicPolicy input = false)
      (campaigns : t.campaigns = updateWhere (fun c => c.id = current.id)
        ((normalizeUpdateInput current input).onto (input.status.getD current.status)) db.campaigns)
      (applications : t.applications = db.applications) (awards : t.awards = db.awards)
  | awarded (draw : ApplicationDraw) (userId : Uuid) (scholarship : ScholarshipCampaign) (course : Course)
      (call : r.call = .apply draw userId scholarship.id course.id) (found : campaignById db scholarship.id = some scholarship)
      (absent : applicationOf db scholarship.id userId course.id = none) (listed : course ∈ db.commerce.courses)
      (eligible : (evaluateScholarshipEligibility scholarship (applicant r.now userId course)).eligible = true)
      (campaigns : t.campaigns = (incrementAwarded scholarship.id db).campaigns)
      (applications : t.applications = db.applications ++ [applicationRow draw scholarship.id userId course.id])
      (awards : t.awards = db.awards ++ [awardRow draw r.now scholarship userId course.id])

section Calls

variable (db : ScholarshipDb)

theorem assertPolicy_checks (input : ScholarshipInput) :
    Wlp (assertPolicy input) (fun _ t => t = db ∧ ∀ q ∈ input.quota, 1 ≤ q) db := by
  simp only [assertPolicy, wlp_bind, wlp_require]
  intro _ _ quota _ _ _ _
  exact ⟨trivial, quota⟩

theorem assertScopeTargets_reads (courseIds eligibleUserIds : List Uuid) :
    Wlp (assertScopeTargets courseIds eligibleUserIds) (fun _ t => t = db) db := by
  simp only [assertScopeTargets, wlp_bind, wlp_get, wlp_require]
  exact fun _ _ => trivial

theorem createScholarship_move (r : ScholarshipRequest) (id : Uuid) (input : ScholarshipInput) (call : r.call = .create id input) :
    Wlp (createScholarship id input) (fun _ t => ScholarshipMove r db t) db := by
  rw [createScholarship, wlp_bind]
  refine wlp_mono _ db (assertPolicy_checks db (normalizeCreateInput input)) ?_
  rintro _ _ ⟨rfl, quota⟩
  rw [wlp_bind]
  refine wlp_mono _ _ (assertScopeTargets_reads _ _ _) ?_
  rintro _ _ rfl
  simp only [wlp_bind, wlp_get, wlp_require, wlp_modify]
  exact fun fresh => .created _ input call fresh rfl quota rfl rfl rfl

theorem updateScholarship_move (r : ScholarshipRequest) (id : Uuid) (input : UpdateScholarshipDto) (call : r.call = .update id input) :
    Wlp (updateScholarship id input) (fun _ t => ScholarshipMove r db t) db := by
  simp only [updateScholarship, wlp_bind, wlp_get, wlp_orThrow]
  intro current found
  have same : current.id = id := of_decide_eq_true (find_some _ _ current found).2
  subst same
  refine wlp_mono _ db (assertPolicy_checks db (normalizeUpdateInput current input)) ?_
  rintro _ _ ⟨rfl, quota⟩
  rw [wlp_require]
  intro guard
  refine wlp_mono _ _ (assertScopeTargets_reads _ _ _) ?_
  rintro _ _ rfl
  rw [wlp_modify]
  refine .updated current input call found quota (fun used => ?_) rfl rfl rfl
  by_contra economic
  exact guard ⟨used, by simpa using economic⟩

theorem ensureCourseAccessAward_frame (draw : AccessDraw) (application : ScholarshipApplication) (award : Option ScholarshipAward) :
    Wlp (ensureCourseAccessAward draw application award) (fun _ t => t.campaigns = db.campaigns ∧
      t.applications = db.applications ∧ t.awards = db.awards) db := by
  unfold ensureCourseAccessAward
  cases award with
  | none =>
      simp only [wlp_pure]
      exact ⟨trivial, trivial, trivial⟩
  | some award =>
      simp only [wlp_ite, wlp_bind, wlp_pure, onCommerce, wlp_zoom]
      exact ⟨fun _ _ _ _ => ⟨trivial, trivial, trivial⟩, fun _ => ⟨trivial, trivial, trivial⟩⟩

theorem apply_move (r : ScholarshipRequest) (draw : ApplicationDraw) (userId scholarshipId courseId : Uuid)
    (call : r.call = .apply draw userId scholarshipId courseId) :
    Wlp (apply draw r.now userId scholarshipId courseId) (fun _ t => ScholarshipMove r db t) db := by
  simp only [apply, wlp_bind, wlp_get, wlp_orThrow]
  intro scholarship found
  have same : scholarship.id = scholarshipId := of_decide_eq_true (find_some _ _ scholarship found).2
  subst same
  cases absent : applicationOf db scholarship.id userId courseId with
  | some existing =>
      rw [wlp_bind]
      refine wlp_mono _ db (ensureCourseAccessAward_frame db draw.access existing _) ?_
      rintro _ t ⟨campaigns, applications, awards⟩
      rw [wlp_pure]
      exact .kept campaigns applications awards
  | none =>
      simp only [wlp_bind, findEligibleCourse, wlp_get, wlp_orThrow, wlp_require]
      intro course listed eligible
      obtain ⟨member, selected⟩ := find_some _ _ course listed
      have named : course.id = courseId := by
        simp only [decide_eq_true_eq] at selected
        exact selected.1
      subst named
      simp only [createApplication, wlp_bind, wlp_get, wlp_require, wlp_modify]
      intro _ _ _ _
      refine wlp_mono _ _ (ensureCourseAccessAward_frame _ draw.access _ _) ?_
      rintro _ t ⟨campaigns, applications, awards⟩
      rw [wlp_pure]
      refine .awarded draw userId scholarship course call found absent member eligible ?_ applications awards
      rw [incrementAwarded, campaigns]
      rfl

theorem scholarship_step_move (r : ScholarshipRequest) : ScholarshipMove r db (scholarshipStep db r) := by
  unfold scholarshipStep
  cases call : r.call with
  | create id input => exact commit_of_wlp _ _ db (.kept rfl rfl rfl) (createScholarship_move db r id input call)
  | update id input => exact commit_of_wlp _ _ db (.kept rfl rfl rfl) (updateScholarship_move db r id input call)
  | apply draw userId scholarshipId courseId =>
      exact commit_of_wlp _ _ db (.kept rfl rfl rfl) (apply_move db r draw userId scholarshipId courseId call)

end Calls

def awardKey (a : ScholarshipAward) : Option (Uuid × Uuid × Uuid) :=
  some (a.scholarshipId, a.userId, a.courseId)

def awardsOf (db : ScholarshipDb) (scholarshipId : Uuid) : List ScholarshipAward :=
  db.awards.filter (fun a => a.scholarshipId = scholarshipId)

structure AwardsSound (db : ScholarshipDb) : Prop where
  campaigns : UniqueKey (fun c => some c.id) db.campaigns
  counted : ∀ c ∈ db.campaigns, c.awardedCount = (awardsOf db c.id).length
  quota : ∀ c ∈ db.campaigns, ∀ q ∈ c.quota, c.awardedCount ≤ q
  applied : ∀ a ∈ db.awards, (applicationOf db a.scholarshipId a.userId a.courseId).isSome
  known : ∀ a ∈ db.awards, ∃ c ∈ db.campaigns, c.id = a.scholarshipId
  single : UniqueKey awardKey db.awards

theorem eligible_checked (scholarship : ScholarshipCampaign) (context : ScholarshipEligibilityContext)
    (eligible : (evaluateScholarshipEligibility scholarship context).eligible = true) :
    scholarship.status = .active ∧ scholarship.startsAt ≤ context.now ∧ context.now < scholarship.endsAt ∧
      (∀ q ∈ scholarship.quota, scholarship.awardedCount < q) ∧
      (scholarship.eligibleUserIds ≠ [] → context.userId ∈ scholarship.eligibleUserIds) ∧
      (scholarship.courseIds ≠ [] → context.courseId ∈ scholarship.courseIds ∨
        inCategories context.categorySlug scholarship.categorySlugs) := by
  unfold evaluateScholarshipEligibility at eligible
  by_cases active : scholarship.status ≠ .active
  · rw [if_pos active] at eligible
    cases eligible
  rw [if_neg active] at eligible
  by_cases early : context.now < scholarship.startsAt
  · rw [if_pos early] at eligible
    cases eligible
  rw [if_neg early] at eligible
  by_cases late : scholarship.endsAt ≤ context.now
  · rw [if_pos late] at eligible
    cases eligible
  rw [if_neg late] at eligible
  by_cases full : ∃ quota ∈ scholarship.quota, quota ≤ scholarship.awardedCount
  · rw [if_pos full] at eligible
    cases eligible
  rw [if_neg full] at eligible
  by_cases applied : context.alreadyApplied = true
  · rw [if_pos applied] at eligible
    cases eligible
  rw [if_neg applied] at eligible
  by_cases user : scholarship.eligibleUserIds ≠ [] ∧ context.userId ∉ scholarship.eligibleUserIds
  · rw [if_pos user] at eligible
    cases eligible
  rw [if_neg user] at eligible
  by_cases scope : scholarship.courseIds ≠ [] ∧ context.courseId ∉ scholarship.courseIds ∧
      ¬ inCategories context.categorySlug scholarship.categorySlugs
  · rw [if_pos scope] at eligible
    cases eligible
  refine ⟨by simpa using active, not_lt.mp early, not_le.mp late, ?_, ?_, ?_⟩
  · intro q member
    by_contra above
    exact full ⟨q, member, not_lt.mp above⟩
  · intro restricted
    by_contra outside
    exact user ⟨restricted, outside⟩
  · intro restricted
    by_contra outside
    obtain ⟨course, category⟩ := not_or.mp outside
    exact scope ⟨restricted, course, category⟩

theorem awardsOf_fresh (db : ScholarshipDb) (sound : AwardsSound db) (id : Uuid) (fresh : ∀ c ∈ db.campaigns, c.id ≠ id) :
    awardsOf db id = [] := by
  refine List.filter_eq_nil_iff.mpr (fun a member own => ?_)
  obtain ⟨c, listed, same⟩ := sound.known a member
  exact fresh c listed (same.trans (of_decide_eq_true own))

theorem applicationOf_appended (db : ScholarshipDb) (rows : List ScholarshipApplication) (scholarshipId userId courseId : Uuid)
    (applied : (applicationOf db scholarshipId userId courseId).isSome) :
    (applicationOf { db with applications := db.applications ++ rows } scholarshipId userId courseId).isSome := by
  obtain ⟨a, found⟩ := Option.isSome_iff_exists.mp applied
  unfold applicationOf at found ⊢
  rw [List.find?_append, found]
  rfl

section Preserved

variable (r : ScholarshipRequest) (db t : ScholarshipDb) (sound : AwardsSound db)

include sound

theorem awardsSound_same (campaigns : t.campaigns = db.campaigns) (applications : t.applications = db.applications)
    (awards : t.awards = db.awards) : AwardsSound t where
  campaigns := by
    rw [campaigns]
    exact sound.campaigns
  counted := by
    unfold awardsOf
    rw [campaigns, awards]
    exact sound.counted
  quota := by
    rw [campaigns]
    exact sound.quota
  applied := by
    unfold applicationOf
    rw [awards, applications]
    exact sound.applied
  known := by
    rw [awards, campaigns]
    exact sound.known
  single := by
    rw [awards]
    exact sound.single

theorem awardsSound_created (row : ScholarshipCampaign) (fresh : free (fun c => some c.id) row db.campaigns = true)
    (unused : row.awardedCount = 0) (quota : ∀ q ∈ row.quota, 1 ≤ q) :
    AwardsSound { db with campaigns := db.campaigns ++ [row] } where
  campaigns := unique_append _ row db.campaigns sound.campaigns fresh
  counted := by
    intro c member
    rcases List.mem_append.mp member with old | new
    · exact sound.counted c old
    · obtain rfl := List.mem_singleton.mp new
      have none := awardsOf_fresh db sound c.id (fun x listed same =>
        (free_iff _ _ _).mp fresh x listed c.id rfl (by rw [same]))
      unfold awardsOf at none ⊢
      rw [none, unused]
      rfl
  quota := by
    intro c member q limit
    rcases List.mem_append.mp member with old | new
    · exact sound.quota c old q limit
    · obtain rfl := List.mem_singleton.mp new
      have positive := quota q limit
      omega
  applied := sound.applied
  known := by
    intro a member
    obtain ⟨c, listed, same⟩ := sound.known a member
    exact ⟨c, List.mem_append_left _ listed, same⟩
  single := sound.single

theorem awardsSound_updated (current : ScholarshipCampaign) (input : UpdateScholarshipDto)
    (found : campaignById db current.id = some current) (quota : ∀ q ∈ (normalizeUpdateInput current input).quota, 1 ≤ q)
    (frozen : 0 < current.awardedCount → changesEconomicPolicy input = false) :
    AwardsSound { db with
      campaigns := updateWhere (fun c => c.id = current.id)
        ((normalizeUpdateInput current input).onto (input.status.getD current.status)) db.campaigns } where
  campaigns := unique_updateWhere _ _ _ _ sound.campaigns (fun _ _ _ => rfl)
  counted := by
    intro c member
    obtain ⟨old, listed, rfl⟩ := (mem_updateWhere _ _ _ c).mp member
    by_cases own : decide (old.id = current.id) = true
    · rw [if_pos own]
      exact sound.counted old listed
    · rw [if_neg own]
      exact sound.counted old listed
  quota := by
    intro c member q limit
    obtain ⟨old, listed, rfl⟩ := (mem_updateWhere _ _ _ c).mp member
    by_cases own : decide (old.id = current.id) = true
    · rw [if_pos own] at limit ⊢
      have same : old = current := unique_eq _ _ sound.campaigns old current current.id listed (find_some _ _ current found).1
        (by rw [of_decide_eq_true own]) rfl
      subst same
      show old.awardedCount ≤ q
      by_cases used : 0 < old.awardedCount
      · have untouched : input.quota = none := by
          have unchanged := frozen used
          simp only [changesEconomicPolicy, Bool.or_eq_false_iff] at unchanged
          simpa using unchanged.1.1.1.2
        refine sound.quota old listed q ?_
        have kept : (normalizeUpdateInput old input).quota = old.quota := by
          rw [normalizeUpdateInput, untouched]
          rfl
        rw [← kept]
        exact limit
      · have positive := quota q limit
        omega
    · rw [if_neg own] at limit ⊢
      exact sound.quota old listed q limit
  applied := sound.applied
  known := by
    intro a member
    obtain ⟨c, listed, same⟩ := sound.known a member
    refine ⟨_, (mem_updateWhere _ _ _ _).mpr ⟨c, listed, rfl⟩, ?_⟩
    split
    · exact same
    · exact same
  single := sound.single

theorem awardsSound_awarded (draw : ApplicationDraw) (now : Instant) (userId : Uuid) (scholarship : ScholarshipCampaign) (course : Course)
    (found : campaignById db scholarship.id = some scholarship) (absent : applicationOf db scholarship.id userId course.id = none)
    (within : ∀ q ∈ scholarship.quota, scholarship.awardedCount < q) :
    AwardsSound { db with
      campaigns := (incrementAwarded scholarship.id db).campaigns
      applications := db.applications ++ [applicationRow draw scholarship.id userId course.id]
      awards := db.awards ++ [awardRow draw now scholarship userId course.id] } where
  campaigns := unique_updateWhere _ _ _ _ sound.campaigns (fun _ _ _ => rfl)
  counted := by
    intro c member
    obtain ⟨old, listed, rfl⟩ := (mem_updateWhere _ _ _ c).mp member
    have before_ := sound.counted old listed
    unfold awardsOf at before_ ⊢
    simp only [List.filter_append, List.length_append]
    by_cases own : decide (old.id = scholarship.id) = true
    · have named : scholarship.id = old.id := (of_decide_eq_true own).symm
      rw [if_pos own]
      simp [awardRow, named, before_]
    · have other : ¬ scholarship.id = old.id := fun same => own (decide_eq_true same.symm)
      rw [if_neg own]
      simp [awardRow, other, before_]
  quota := by
    intro c member q limit
    obtain ⟨old, listed, rfl⟩ := (mem_updateWhere _ _ _ c).mp member
    by_cases own : decide (old.id = scholarship.id) = true
    · rw [if_pos own] at limit ⊢
      have same : old = scholarship := unique_eq _ _ sound.campaigns old scholarship scholarship.id listed
        (find_some _ _ scholarship found).1 (by rw [of_decide_eq_true own]) rfl
      subst same
      have below := within q limit
      show old.awardedCount + 1 ≤ q
      omega
    · rw [if_neg own] at limit ⊢
      exact sound.quota old listed q limit
  applied := by
    intro a member
    rcases List.mem_append.mp member with old | new
    · exact applicationOf_appended db _ _ _ _ (sound.applied a old)
    · obtain rfl := List.mem_singleton.mp new
      unfold applicationOf
      rw [List.find?_isSome]
      exact ⟨applicationRow draw scholarship.id userId course.id, by simp, by simp [applicationRow, awardRow]⟩
  known := by
    intro a member
    have carried (id : Uuid) (c : ScholarshipCampaign) (listed : c ∈ db.campaigns) (same : c.id = id) :
        ∃ c ∈ (incrementAwarded scholarship.id db).campaigns, c.id = id := by
      refine ⟨_, (mem_updateWhere _ _ _ _).mpr ⟨c, listed, rfl⟩, ?_⟩
      split
      · exact same
      · exact same
    rcases List.mem_append.mp member with old | new
    · obtain ⟨c, listed, same⟩ := sound.known a old
      exact carried a.scholarshipId c listed same
    · obtain rfl := List.mem_singleton.mp new
      exact carried scholarship.id scholarship (find_some _ _ scholarship found).1 rfl
  single := by
    refine unique_append awardKey _ _ sound.single ((free_iff _ _ _).mpr ?_)
    intro a member k own same
    have applied := sound.applied a member
    have key : (a.scholarshipId, a.userId, a.courseId) = (scholarship.id, userId, course.id) :=
      Option.some.inj (same.trans own.symm)
    rw [show a.scholarshipId = scholarship.id from congrArg (fun k => k.1) key,
      show a.userId = userId from congrArg (fun k => k.2.1) key,
      show a.courseId = course.id from congrArg (fun k => k.2.2) key, absent] at applied
    cases applied

theorem awardsSound_move (move : ScholarshipMove r db t) : AwardsSound t := by
  cases move with
  | kept campaigns applications awards => exact awardsSound_same db t sound campaigns applications awards
  | created row input call fresh unused quota campaigns applications awards =>
      exact awardsSound_same _ t (awardsSound_created db sound row fresh unused quota) campaigns applications awards
  | updated current input call found quota frozen campaigns applications awards =>
      exact awardsSound_same _ t (awardsSound_updated db sound current input found quota frozen) campaigns applications awards
  | awarded draw userId scholarship course call found absent listed eligible campaigns applications awards =>
      obtain ⟨_, _, _, within, _⟩ := eligible_checked scholarship _ eligible
      exact awardsSound_same _ t (awardsSound_awarded db sound draw r.now userId scholarship course found absent within) campaigns
        applications awards

end Preserved

def AwardProper (db : ScholarshipDb) (now : Instant) (a : ScholarshipAward) : Prop :=
  ∃ c ∈ db.campaigns, c.id = a.scholarshipId ∧ c.status = .active ∧ c.startsAt ≤ now ∧ now < c.endsAt ∧
    (c.eligibleUserIds ≠ [] → a.userId ∈ c.eligibleUserIds) ∧
    (c.courseIds ≠ [] ∨ c.categorySlugs ≠ [] → a.courseId ∈ c.courseIds ∨
      ∃ course ∈ db.commerce.courses, course.id = a.courseId ∧ inCategories course.categorySlug c.categorySlugs) ∧
    a.benefitKind = c.benefitKind ∧ a.benefitValue = c.benefitValue ∧ a.currency = c.currency

instance (db : ScholarshipDb) (now : Instant) (a : ScholarshipAward) : Decidable (AwardProper db now a) := by
  unfold AwardProper
  infer_instance

structure PolicyKept (r : ScholarshipRequest) (db t : ScholarshipDb) : Prop where
  made : ∀ a ∈ t.awards, a ∈ db.awards ∨ AwardProper db r.now a
  replayed : ∀ draw userId scholarshipId courseId, r.call = .apply draw userId scholarshipId courseId →
    (applicationOf db scholarshipId userId courseId).isSome → t.awards = db.awards ∧ t.campaigns = db.campaigns

def ScopeListed (db : ScholarshipDb) (r : ScholarshipRequest) : Prop :=
  match r.call with
  | .apply _ userId scholarshipId courseId =>
      ∀ c ∈ campaignById db scholarshipId, applicationOf db scholarshipId userId courseId = none → c.courseIds = [] →
        c.categorySlugs ≠ [] → ∀ course ∈ db.commerce.courses, course.id = courseId →
        inCategories course.categorySlug c.categorySlugs
  | _ => True

instance (db : ScholarshipDb) (r : ScholarshipRequest) : Decidable (ScopeListed db r) := by
  unfold ScopeListed
  split <;> infer_instance

theorem policyKept_move (r : ScholarshipRequest) (db t : ScholarshipDb) (listedOnly : ScopeListed db r)
    (move : ScholarshipMove r db t) : PolicyKept r db t := by
  cases move with
  | kept campaigns applications awards =>
      exact ⟨fun a member => .inl (awards ▸ member), fun _ _ _ _ _ _ => ⟨awards, campaigns⟩⟩
  | created row input call fresh unused quota campaigns applications awards =>
      refine ⟨fun a member => .inl (awards ▸ member), fun _ _ _ _ same => ?_⟩
      rw [call] at same
      cases same
  | updated current input call found quota frozen campaigns applications awards =>
      refine ⟨fun a member => .inl (awards ▸ member), fun _ _ _ _ same => ?_⟩
      rw [call] at same
      cases same
  | awarded draw userId scholarship course call found absent listed eligible campaigns applications awards =>
      obtain ⟨active, started, running, _, user, courses⟩ := eligible_checked scholarship _ eligible
      refine ⟨?_, ?_⟩
      · intro a member
        rw [awards] at member
        rcases List.mem_append.mp member with old | new
        · exact .inl old
        · obtain rfl := List.mem_singleton.mp new
          refine .inr ⟨scholarship, (find_some _ _ scholarship found).1, rfl, active, started, running, user, ?_, rfl, rfl, rfl⟩
          intro restricted
          by_cases named : scholarship.courseIds = []
          · have categories : scholarship.categorySlugs ≠ [] := restricted.resolve_left (fun some_ => some_ named)
            unfold ScopeListed at listedOnly
            rw [call] at listedOnly
            exact .inr ⟨course, listed, rfl, listedOnly scholarship found absent named categories course listed rfl⟩
          · rcases courses named with inList | category
            · exact .inl inList
            · exact .inr ⟨course, listed, rfl, category⟩
      · intro draw' userId' scholarshipId courseId same applied
        rw [call] at same
        obtain ⟨_, rfl, rfl, rfl⟩ := ScholarshipCall.apply.inj same
        rw [absent] at applied
        cases applied

/-- The counts, the quotas and the uniqueness hold in every run; each award follows the policy of its campaign where a
campaign with categories only is applied to for a course of its categories. -/
theorem scholarship_policy_kept (db : ScholarshipDb) (sound : AwardsSound db) (requests : List ScholarshipRequest) :
    AwardsSound (run scholarshipStep db requests) ∧
    (AllMeet scholarshipStep ScopeListed db requests →
      AllMeet scholarshipStep (fun s r => PolicyKept r s (scholarshipStep s r)) db requests) := by
  have step : ∀ s r, AwardsSound s → AwardsSound (scholarshipStep s r) :=
    fun s r kept => awardsSound_move r s _ kept (scholarship_step_move s r)
  refine ⟨run_invariant scholarshipStep AwardsSound step db requests sound, ?_⟩
  intro listedOnly
  exact allMeet_shows scholarshipStep ScopeListed _ AwardsSound (fun s r kept _ => step s r kept)
    (fun s r _ meets => policyKept_move r s _ meets (scholarship_step_move s r)) db requests sound listedOnly

def sampleInput : ScholarshipInput where
  title := "Design week"
  applicationMode := .application
  benefitKind := .fixedCredit
  benefitValue := 100
  currency := some "VND"
  startsAt := 0
  endsAt := 100
  quota := some 2
  courseIds := []
  categorySlugs := ["design"]
  eligibleUserIds := []

def sampleCourseIn (id : Uuid) (categorySlug : String) : Course :=
  { sampleCourse with id, categorySlug := some categorySlug }

def sampleScholarships : ScholarshipDb where
  campaigns := []
  applications := []
  awards := []
  commerce := { sampleAccess with courses := [sampleCourseIn "course-1" "design", sampleCourseIn "course-2" "math"] }

def sampleApplication (courseId : Uuid) : ScholarshipRequest where
  now := 10
  call := .apply { access := sampleDraw, applicationId := "application-1", awardId := "award-1" } "student-1" "campaign-1" courseId

def sampleOpening : List ScholarshipRequest :=
  [{ now := 1, call := .create "campaign-1" sampleInput }, { now := 2, call := .update "campaign-1" { status := some .active } }]

theorem awardsSound_sample : AwardsSound sampleScholarships where
  campaigns := unique_nil _
  counted := by simp [sampleScholarships]
  quota := by simp [sampleScholarships]
  applied := by simp [sampleScholarships]
  known := by simp [sampleScholarships]
  single := unique_nil _

theorem scholarship_policy_kept_sample :
    AllMeet scholarshipStep (fun s r => PolicyKept r s (scholarshipStep s r)) sampleScholarships
      (sampleOpening ++ [sampleApplication "course-1", sampleApplication "course-1"]) := by
  refine (scholarship_policy_kept sampleScholarships awardsSound_sample _).2 ⟨trivial, trivial, ?_, ?_, trivial⟩
  · decide +kernel
  · decide +kernel

-- The campaign is for design courses, and a course of mathematics wins the award.
theorem category_scope_ignored :
    ¬ AllMeet scholarshipStep (fun s r => PolicyKept r s (scholarshipStep s r)) sampleScholarships
      (sampleOpening ++ [sampleApplication "course-2"]) := by
  rintro ⟨_, _, third, _⟩
  have either := third.made (awardRow { access := sampleDraw, applicationId := "application-1", awardId := "award-1" } 10
    ((normalizeCreateInput sampleInput).campaign "campaign-1" .active 0) "student-1" "course-2") (by decide +kernel)
  revert either
  decide +kernel

end EduAi.Scholarships
