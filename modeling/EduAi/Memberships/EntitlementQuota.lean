import EduAi.Memberships.Entitlements
import EduAi.Store.Keyed
import EduAi.Store.Runs

set_option autoImplicit false

namespace EduAi.Memberships.Entitlements

open EduAi.Store

structure Sound (db : EntitlementDb) : Prop where
  grantKey : Keyed (fun g : ServiceEntitlementGrant => g.id) db.grants
  poolKey : Keyed (fun p : ServiceEntitlementQuotaPool => p.id) db.pools
  usageKey : Keyed (fun u : ServiceEntitlementUsage => (u.userId, u.operationKeyHash)) db.usage
  valued : ∀ g ∈ db.grants, valueMatches g.value = true
  bounded : ∀ g ∈ db.grants, quotaFits g.value = true
  lasting : ∀ g ∈ db.grants, windowChecks g.startsAt g.endsAt = true
  poolValued : ∀ p ∈ db.pools, valueMatches p.value = true
  pooled : ∀ g ∈ db.grants, ∀ id, g.quotaPoolId = some id →
    ∃ p ∈ db.pools, p.id = id ∧ g.value = p.value ∧ g.startsAt = p.startsAt ∧ g.endsAt = p.endsAt
  owned : ∀ u ∈ db.usage, 0 < u.quantity ∧ ∃ g ∈ db.grants, g.id = u.grantId ∧
    u.period = expectedWindow g.value.resetPeriod g.startsAt g.endsAt u.createdAt
  spentGrant : ∀ g ∈ db.grants, g.value.valueType = .metered → g.quotaPoolId = none → ∀ w, grantUsed db g.id w ≤ g.value.quota.getD 0
  spentPool : ∀ p ∈ db.pools, p.value.valueType = .metered → ∀ w, poolUsed db p.id w ≤ p.value.quota.getD 0

section Values

theorem metered_quota (v : EntitlementValue) (valid : valueMatches v = true) (metered : v.valueType = .metered) :
    ∃ quota, v.quota = some quota ∧ 0 < quota := by
  unfold valueMatches at valid
  rw [metered] at valid
  cases quota : v.quota with
  | none => simp [quota] at valid
  | some q =>
      refine ⟨q, rfl, ?_⟩
      simp only [quota] at valid
      simp at valid
      exact valid.2

end Values

section Sums

variable (db : EntitlementDb)

theorem grantUsed_append (u : ServiceEntitlementUsage) (id : Uuid) (w : UsageWindow) :
    grantUsed { db with usage := db.usage ++ [u] } id w = grantUsed db id w + if u.grantId = id ∧ u.period = w then u.quantity else 0 := by
  unfold grantUsed
  rw [List.filter_append, total_append]
  by_cases same : u.grantId = id ∧ u.period = w
  · simp [same, total]
  · simp [same]

theorem poolUsed_append (u : ServiceEntitlementUsage) (id : Uuid) (w : UsageWindow) :
    poolUsed { db with usage := db.usage ++ [u] } id w =
      poolUsed db id w + if inPool db id u = true ∧ u.period = w then u.quantity else 0 := by
  unfold poolUsed
  have same (x : ServiceEntitlementUsage) : inPool { db with usage := db.usage ++ [u] } id x = inPool db id x := rfl
  simp only [same]
  rw [List.filter_append, total_append]
  by_cases own : inPool db id u = true ∧ u.period = w
  · simp [own, total]
  · simp [own]

theorem inPool_iff (id : Uuid) (u : ServiceEntitlementUsage) :
    inPool db id u = true ↔ ∃ g ∈ db.grants, g.id = u.grantId ∧ g.quotaPoolId = some id := by
  simp [inPool]

theorem poolUsed_grant (g : ServiceEntitlementGrant) (owned : ∀ u ∈ db.usage, u.grantId ≠ g.id) (id : Uuid) (w : UsageWindow) :
    poolUsed { db with grants := db.grants ++ [g] } id w = poolUsed db id w := by
  unfold poolUsed
  congr 1
  refine List.filter_congr (fun u member => ?_)
  have same : inPool { db with grants := db.grants ++ [g] } id u = inPool db id u := by
    unfold inPool
    rw [List.any_append]
    have other : g.id ≠ u.grantId := fun named => owned u member named.symm
    simp [other]
  rw [same]

theorem poolUsed_revoked (p : ServiceEntitlementGrant → Bool) (id : Uuid) (w : UsageWindow) :
    poolUsed { db with grants := updateWhere (fun g => p g && g.active) (fun g => { g with active := false }) db.grants } id w =
      poolUsed db id w := by
  unfold poolUsed
  congr 1
  refine List.filter_congr (fun u _ => ?_)
  have same : inPool { db with grants := updateWhere (fun g => p g && g.active) (fun g => { g with active := false }) db.grants } id u =
      inPool db id u := by
    unfold inPool updateWhere
    rw [List.any_map]
    refine congrArg (fun q => db.grants.any q) (funext fun g => ?_)
    by_cases chosen : (p g && g.active) = true
    · simp only [Function.comp_apply]
      rw [if_pos chosen]
    · simp only [Function.comp_apply]
      rw [if_neg chosen]
  rw [same]

theorem used_none (rows : List ServiceEntitlementUsage) (p : ServiceEntitlementUsage → Bool) (none : ∀ u ∈ rows, p u = false) :
    total (fun u => u.quantity) (rows.filter p) = 0 := by
  have empty : rows.filter p = [] := List.filter_eq_nil_iff.mpr (fun u member => by simp [none u member])
  rw [empty, total_nil]

end Sums

-- What the trigger and the constraints have checked of a usage row that goes in.
structure UsageFits (db : EntitlementDb) (u : ServiceEntitlementUsage) (g : ServiceEntitlementGrant) : Prop where
  found : grantById db u.grantId = some g
  period : u.period = expectedWindow g.value.resetPeriod g.startsAt g.endsAt u.createdAt
  room : g.value.valueType = .metered → ∀ quota, g.value.quota = some quota → alreadyUsed db g u.period + u.quantity ≤ quota
  positive : 0 < u.quantity
  fresh : ∀ x ∈ db.usage, (x.userId, x.operationKeyHash) ≠ (u.userId, u.operationKeyHash)

theorem insertUsage_fits (db : EntitlementDb) (u : ServiceEntitlementUsage) :
    Wlp (insertUsage u) (fun _ t => t = { db with usage := db.usage ++ [u] } ∧ ∃ g, UsageFits db u g) db := by
  simp only [insertUsage, wlp_bind, wlp_get, wlp_orThrow, wlp_require, wlp_modify]
  intro g found owner _ _ room _ _ positive _ _ fresh
  refine ⟨trivial, g, found, owner.2.2.2.2, ?_, positive, free_key _ _ u fresh⟩
  intro metered quota limit
  have checked := room metered
  rw [limit] at checked
  simpa using checked

theorem spendFirst_outcome (h : EntitlementHashes) (call : ConsumeCall) (operationKeyHash : String) (db : EntitlementDb)
    (gs : List ServiceEntitlementGrant) :
    Wlp (spendFirst h call operationKeyHash db gs) (fun _ t => ∃ u g, t = { db with usage := db.usage ++ [u] } ∧ UsageFits db u g) db := by
  induction gs with
  | nil => exact wlp_throw _ _ _
  | cons g rest ih =>
      rw [spendFirst, wlp_bind, wlp_orThrow]
      intro decision _
      rw [wlp_ite]
      refine ⟨fun _ => ih, fun _ => ?_⟩
      rw [wlp_bind]
      refine wlp_mono _ db (insertUsage_fits db _) ?_
      rintro _ t ⟨grown, g', fits⟩
      rw [wlp_pure]
      exact ⟨_, g', grown, fits⟩

theorem consume_outcome (h : EntitlementHashes) (call : ConsumeCall) (db : EntitlementDb) :
    Wlp (consume h call) (fun _ t => t = db ∨ ∃ u g, t = { db with usage := db.usage ++ [u] } ∧ UsageFits db u g) db := by
  simp only [consume, wlp_bind, wlp_get, wlp_orThrow, wlp_require]
  intro _ _ operationKeyHash _
  split
  · simp only [wlp_bind, wlp_require, wlp_pure]
    exact fun _ => .inl trivial
  · exact wlp_mono _ db (spendFirst_outcome h call operationKeyHash db _) (fun _ t outcome => .inr outcome)

inductive Event where
  | define (d : ServiceEntitlementDefinition)
  | pool (p : ServiceEntitlementQuotaPool)
  | grant (g : ServiceEntitlementGrant)
  | revoke (p : ServiceEntitlementGrant → Bool)
  | receipts (effects : List CommerceReceiptAccessEffect)
  | consume (call : ConsumeCall)

def step (h : EntitlementHashes) (db : EntitlementDb) : Event → EntitlementDb
  | .define d => commit (insertDefinition d) db
  | .pool p => commit (insertPool p) db
  | .grant g => commit (insertGrant g) db
  | .revoke p => commit (revokeGrants p) db
  | .receipts effects => { db with receiptEffects := effects }
  | .consume call => commit (consume h call) db

def emptyDb : EntitlementDb where
  definitions := []
  pools := []
  grants := []
  usage := []
  receiptEffects := []

section Steps

variable {db : EntitlementDb}

theorem sound_pool (sound : Sound db) (p : ServiceEntitlementQuotaPool) : Sound (commit (insertPool p) db) := by
  refine commit_of_wlp _ Sound db sound ?_
  simp only [insertPool, wlp_bind, wlp_get, wlp_require, wlp_modify]
  intro _ _ valid freshId _
  have fresh := free_key (fun p : ServiceEntitlementQuotaPool => p.id) db.pools p freshId
  constructor
  case poolKey => exact keyed_append _ _ p sound.poolKey fresh
  case grantKey => exact sound.grantKey
  case usageKey => exact sound.usageKey
  case valued => exact sound.valued
  case bounded => exact sound.bounded
  case lasting => exact sound.lasting
  case owned => exact sound.owned
  case spentGrant => exact sound.spentGrant
  case poolValued =>
    intro x member
    rcases (mem_append_one _ _ x).mp member with old | rfl
    · exact sound.poolValued x old
    · exact valid
  case pooled =>
    intro g member id named
    obtain ⟨x, inPools, same⟩ := sound.pooled g member id named
    exact ⟨x, List.mem_append_left _ inPools, same⟩
  case spentPool =>
    intro x member metered w
    rcases (mem_append_one _ _ x).mp member with old | rfl
    · exact sound.spentPool x old metered w
    · obtain ⟨quota, limit, positive⟩ := metered_quota _ valid metered
      have unused : poolUsed db x.id w = 0 := by
        refine used_none _ _ (fun u _ => ?_)
        rw [decide_eq_false_iff_not]
        rintro ⟨own, _⟩
        obtain ⟨g, inGrants, _, named⟩ := (inPool_iff db x.id u).mp own
        obtain ⟨y, inPools, isId, _⟩ := sound.pooled g inGrants x.id named
        exact fresh y inPools isId
      show poolUsed db x.id w ≤ _
      rw [unused, limit]
      exact le_of_lt positive

theorem quotaGrant_pool (g : ServiceEntitlementGrant) (valid : quotaGrantValid db g = true) (id : Uuid) (named : g.quotaPoolId = some id) :
    ∃ p ∈ db.pools, p.id = id ∧ poolMatches g p = true := by
  unfold quotaGrantValid at valid
  rw [named] at valid
  obtain ⟨p, found, same⟩ := (Option.any_eq_true _ _).mp valid
  obtain ⟨inPools, isId⟩ := find_some _ _ p found
  exact ⟨p, inPools, of_decide_eq_true isId, same⟩

theorem sound_grant (sound : Sound db) (g : ServiceEntitlementGrant) : Sound (commit (insertGrant g) db) := by
  refine commit_of_wlp _ Sound db sound ?_
  simp only [insertGrant, wlp_bind, wlp_get, wlp_require, wlp_modify]
  intro bounded _ quotaValid valid lasting freshId _
  have fresh := free_key (fun g : ServiceEntitlementGrant => g.id) db.grants g freshId
  have unowned : ∀ u ∈ db.usage, u.grantId ≠ g.id := by
    intro u member same
    obtain ⟨_, x, inGrants, isId, _⟩ := sound.owned u member
    exact fresh x inGrants (isId.trans same)
  constructor
  case grantKey => exact keyed_append _ _ g sound.grantKey fresh
  case poolKey => exact sound.poolKey
  case usageKey => exact sound.usageKey
  case poolValued => exact sound.poolValued
  case valued =>
    intro x member
    rcases (mem_append_one _ _ x).mp member with old | rfl
    · exact sound.valued x old
    · exact valid
  case bounded =>
    intro x member
    rcases (mem_append_one _ _ x).mp member with old | rfl
    · exact sound.bounded x old
    · exact bounded
  case lasting =>
    intro x member
    rcases (mem_append_one _ _ x).mp member with old | rfl
    · exact sound.lasting x old
    · exact lasting
  case pooled =>
    intro x member id named
    rcases (mem_append_one _ _ x).mp member with old | rfl
    · exact sound.pooled x old id named
    · obtain ⟨p, inPools, isId, same⟩ := quotaGrant_pool x quotaValid id named
      have matched := of_decide_eq_true same
      exact ⟨p, inPools, isId, matched.2.2.1, matched.2.2.2.1, matched.2.2.2.2.1⟩
  case owned =>
    intro u member
    obtain ⟨positive, x, inGrants, same⟩ := sound.owned u member
    exact ⟨positive, x, List.mem_append_left _ inGrants, same⟩
  case spentGrant =>
    intro x member metered alone w
    rcases (mem_append_one _ _ x).mp member with old | rfl
    · exact sound.spentGrant x old metered alone w
    · obtain ⟨quota, limit, positive⟩ := metered_quota _ valid metered
      have unused : grantUsed db x.id w = 0 := by
        refine used_none _ _ (fun u inUsage => ?_)
        rw [decide_eq_false_iff_not]
        exact fun own => unowned u inUsage own.1
      show grantUsed db x.id w ≤ _
      rw [unused, limit]
      exact le_of_lt positive
  case spentPool =>
    intro p member metered w
    rw [poolUsed_grant db g unowned]
    exact sound.spentPool p member metered w

theorem sound_revoke (sound : Sound db) (p : ServiceEntitlementGrant → Bool) : Sound (commit (revokeGrants p) db) := by
  refine commit_of_wlp _ Sound db sound ?_
  rw [revokeGrants, wlp_modify]
  have before (g : ServiceEntitlementGrant)
      (member : g ∈ updateWhere (fun g => p g && g.active) (fun g => { g with active := false }) db.grants) :
      ∃ old ∈ db.grants, g.id = old.id ∧ g.value = old.value ∧ g.startsAt = old.startsAt ∧ g.endsAt = old.endsAt ∧
        g.quotaPoolId = old.quotaPoolId := by
    obtain ⟨old, inTable, rfl⟩ := (mem_updateWhere _ _ _ _).mp member
    by_cases chosen : (p old && old.active) = true
    · rw [if_pos chosen]
      exact ⟨old, inTable, rfl, rfl, rfl, rfl, rfl⟩
    · rw [if_neg chosen]
      exact ⟨old, inTable, rfl, rfl, rfl, rfl, rfl⟩
  constructor
  case grantKey => exact keyed_updateWhere (fun g : ServiceEntitlementGrant => g.id) _ _ _ (fun _ _ => rfl) sound.grantKey
  case poolKey => exact sound.poolKey
  case usageKey => exact sound.usageKey
  case poolValued => exact sound.poolValued
  case valued =>
    intro g member
    obtain ⟨old, inTable, _, value, _⟩ := before g member
    rw [value]
    exact sound.valued old inTable
  case bounded =>
    intro g member
    obtain ⟨old, inTable, _, value, _⟩ := before g member
    rw [value]
    exact sound.bounded old inTable
  case lasting =>
    intro g member
    obtain ⟨old, inTable, _, _, starts, ends, _⟩ := before g member
    rw [starts, ends]
    exact sound.lasting old inTable
  case pooled =>
    intro g member id named
    obtain ⟨old, inTable, _, value, starts, ends, pool⟩ := before g member
    rw [value, starts, ends]
    exact sound.pooled old inTable id (pool.symm.trans named)
  case owned =>
    intro u member
    obtain ⟨positive, g, inGrants, isId, period⟩ := sound.owned u member
    refine ⟨positive, _, (mem_updateWhere _ _ _ _).mpr ⟨g, inGrants, rfl⟩, ?_⟩
    by_cases chosen : (p g && g.active) = true
    · rw [if_pos chosen]
      exact ⟨isId, period⟩
    · rw [if_neg chosen]
      exact ⟨isId, period⟩
  case spentGrant =>
    intro g member metered alone w
    obtain ⟨old, inTable, isId, value, _, _, pool⟩ := before g member
    rw [value] at metered ⊢
    rw [isId]
    exact sound.spentGrant old inTable metered (pool.symm.trans alone) w
  case spentPool =>
    intro x member metered w
    rw [poolUsed_revoked]
    exact sound.spentPool x member metered w

theorem sound_usage (sound : Sound db) (u : ServiceEntitlementUsage) (g : ServiceEntitlementGrant) (fits : UsageFits db u g) :
    Sound { db with usage := db.usage ++ [u] } := by
  obtain ⟨inGrants, named⟩ := find_some _ _ g fits.found
  have own : g.id = u.grantId := of_decide_eq_true named
  constructor
  case grantKey => exact sound.grantKey
  case poolKey => exact sound.poolKey
  case usageKey => exact keyed_append _ _ u sound.usageKey fits.fresh
  case poolValued => exact sound.poolValued
  case valued => exact sound.valued
  case bounded => exact sound.bounded
  case lasting => exact sound.lasting
  case pooled => exact sound.pooled
  case owned =>
    intro x member
    rcases (mem_append_one _ _ x).mp member with old | rfl
    · exact sound.owned x old
    · exact ⟨fits.positive, g, inGrants, own, fits.period⟩
  case spentGrant =>
    intro x member metered alone w
    rw [grantUsed_append]
    by_cases mine : u.grantId = x.id ∧ u.period = w
    · rw [if_pos mine]
      obtain rfl := sound.grantKey x member g inGrants (mine.1.symm.trans own.symm)
      obtain ⟨quota, limit, _⟩ := metered_quota _ (sound.valued x member) metered
      have room := fits.room metered quota limit
      rw [limit, Option.getD_some, ← mine.2]
      rw [alreadyUsed, alone] at room
      exact room
    · rw [if_neg mine, add_zero]
      exact sound.spentGrant x member metered alone w
  case spentPool =>
    intro p member metered w
    rw [poolUsed_append]
    by_cases mine : inPool db p.id u = true ∧ u.period = w
    · rw [if_pos mine]
      obtain ⟨x, inGrants', isId, pool⟩ := (inPool_iff db p.id u).mp mine.1
      obtain rfl := sound.grantKey x inGrants' g inGrants (isId.trans own.symm)
      obtain ⟨p', inPools, sameId, value, _⟩ := sound.pooled x inGrants p.id pool
      obtain rfl := sound.poolKey p' inPools p member sameId
      obtain ⟨quota, limit, _⟩ := metered_quota _ (sound.poolValued p' member) metered
      have room := fits.room (value ▸ metered) quota (value ▸ limit)
      rw [limit, Option.getD_some, ← mine.2]
      rw [alreadyUsed, pool] at room
      exact room
    · rw [if_neg mine, add_zero]
      exact sound.spentPool p member metered w

theorem step_sound (h : EntitlementHashes) (db : EntitlementDb) (e : Event) (sound : Sound db) : Sound (step h db e) := by
  cases e with
  | define d =>
      refine commit_of_wlp _ Sound db sound ?_
      simp only [insertDefinition, wlp_bind, wlp_get, wlp_require, wlp_modify]
      intro _ _ _
      exact ⟨sound.1, sound.2, sound.3, sound.4, sound.5, sound.6, sound.7, sound.8, sound.9, sound.10, sound.11⟩
  | pool p => exact sound_pool sound p
  | grant g => exact sound_grant sound g
  | revoke p => exact sound_revoke sound p
  | receipts effects => exact ⟨sound.1, sound.2, sound.3, sound.4, sound.5, sound.6, sound.7, sound.8, sound.9, sound.10, sound.11⟩
  | consume call =>
      refine commit_of_wlp _ Sound db sound (wlp_mono _ db (consume_outcome h call db) ?_)
      rintro _ t (rfl | ⟨u, g, rfl, fits⟩)
      · exact sound
      · exact sound_usage sound u g fits

end Steps

theorem empty_sound : Sound emptyDb := by
  constructor
  case grantKey | poolKey | usageKey =>
    intro x member
    cases member
  case valued | bounded | lasting | poolValued | pooled | owned | spentGrant | spentPool =>
    intro x member
    cases member

theorem run_sound (h : EntitlementHashes) (events : List Event) : Sound (run (step h) emptyDb events) :=
  run_invariant (step h) Sound (step_sound h) emptyDb events empty_sound

end EduAi.Memberships.Entitlements
