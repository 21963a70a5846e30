import EduAi.Memberships.EntitlementConsume

set_option autoImplicit false

namespace EduAi.Memberships.Entitlements

open EduAi.Store

section Agreement

-- The errors of the service itself. The others come from the database or from an invalid Date.
def Fault.ofService : Fault → Prop
  | .badRequest _ | .forbidden _ | .conflict _ | .unavailable _ => True
  | .invalidDate | .raised _ | .range _ | .check _ | .unique _ => False

variable (h : EntitlementHashes) (db : EntitlementDb) (call : ConsumeCall)

structure NewKey (operationKeyHash : String) : Prop where
  quantity : 0 < call.quantity ∧ call.quantity ≤ maxBigint
  key : keyPattern call.idempotencyKey = true
  hashed : h.operationKeyHash call.idempotencyKey = some operationKeyHash
  unseen : usageByKey db call.userId operationKeyHash = none

-- What consume asks of a grant before it writes the row.
structure Accepts (g : ServiceEntitlementGrant) (decision : GrantDecision) : Prop where
  active : g ∈ activeGrants call.earlyAccess db call.userId (h.normalizeCode call.code) call.moment
  decided : grantDecision db call.moment g = some decision
  allowed : decision.allowed = true
  covered : decision.remaining.all (fun remaining => call.quantity ≤ remaining) = true

structure QuotasKept : Prop where
  grants : ∀ g ∈ db.grants, g.value.valueType = .metered → ∀ moment,
    chargedWithin db (fun u => u.grantId = g.id) (g.window moment) ≤ g.value.quota.getD 0
  pools : ∀ p ∈ db.pools, p.value.valueType = .metered → ∀ moment, chargedWithin db (inPool db p.id) (p.window moment) ≤ p.value.quota.getD 0
  windows : ∀ g ∈ db.grants, ∀ moment moment', Dated moment → Dated moment' → Within g.startsAt g.endsAt moment →
    Within g.startsAt g.endsAt moment' → ∃ w w', entitlementUsageWindow g.value.resetPeriod g.startsAt g.endsAt moment = some w ∧
      entitlementUsageWindow g.value.resetPeriod g.startsAt g.endsAt moment' = some w' ∧ w.Contains moment ∧
      (w = w' ∨ ∀ t, ¬ (w.Contains t ∧ w'.Contains t))
  written : ∀ call operationKeyHash, Dated call.moment → NewKey h db call operationKeyHash → ∀ g decision, Accepts h db call g decision →
    insertUsage (usageRow h call operationKeyHash g decision) db =
      .ok ((), { db with usage := db.usage ++ [usageRow h call operationKeyHash g decision] })
  spends : ∀ call operationKeyHash, Dated call.moment → NewKey h db call operationKeyHash → (∃ g decision, Accepts h db call g decision) →
    ∃ g decision, Accepts h db call g decision ∧ consume h call db =
      .ok (usageResult (usageRow h call operationKeyHash g decision) false,
        { db with usage := db.usage ++ [usageRow h call operationKeyHash g decision] })
  faults : ∀ call fault, Dated call.moment → consume h call db = .error fault → fault.ofService

theorem before_disjoint (w w' : UsageWindow) (before : w.Before w') (t : Int) : ¬ (w.Contains t ∧ w'.Contains t) := by
  rintro ⟨inside, inside'⟩
  obtain ⟨e, ends, earlier⟩ := before
  exact absurd (lt_of_lt_of_le (inside.2 e ends) earlier) (not_lt.mpr inside'.1)

theorem windows_disjoint (g : ServiceEntitlementGrant) (moment moment' : Int) (dated : Dated moment) (dated' : Dated moment')
    (granted : Within g.startsAt g.endsAt moment) :
    ∃ w w', entitlementUsageWindow g.value.resetPeriod g.startsAt g.endsAt moment = some w ∧
      entitlementUsageWindow g.value.resetPeriod g.startsAt g.endsAt moment' = some w' ∧ w.Contains moment ∧
      (w = w' ∨ ∀ t, ¬ (w.Contains t ∧ w'.Contains t)) := by
  refine ⟨g.window moment, g.window moment', usageWindow_expected _ _ _ moment dated, usageWindow_expected _ _ _ moment' dated',
    expected_contains moment granted, ?_⟩
  by_cases same : g.window moment = g.window moment'
  · exact .inl same
  · right
    intro t both
    rcases le_total moment moment' with earlier | later
    · exact before_disjoint _ _ (expected_apart moment moment' earlier same) t both
    · exact before_disjoint _ _ (expected_apart moment' moment later (Ne.symm same)) t both.symm

variable {h db call}

theorem accepts_paid (sound : Sound db) (dated : Dated call.moment) (positive : 0 < call.quantity) (g : ServiceEntitlementGrant)
    (decision : GrantDecision) (accepts : Accepts h db call g decision) (operationKeyHash : String) :
    pays call db g = true ∧ usageRow h call operationKeyHash g decision = paidRow h call db operationKeyHash g := by
  have inGrants := (activeGrants_running _ _ _ _ g accepts.active).1
  obtain ⟨decision', decided, period, refuses, remaining⟩ := @grantDecision_pays call db g (sound.valued g inGrants) positive dated
  obtain rfl := Option.some.inj (decided.symm.trans accepts.decided)
  have enough : pays call db g = true := by
    by_contra refused
    rcases refuses.mpr (Bool.eq_false_iff.mpr refused) with denied | short
    · exact Bool.noConfusion (denied.symm.trans accepts.allowed)
    · obtain ⟨left, given, less⟩ := (Option.any_eq_true _ _).mp short
      have covered := accepts.covered
      rw [given, Option.all_some, decide_eq_true_eq] at covered
      exact absurd (of_decide_eq_true less) (not_lt.mpr covered)
  refine ⟨enough, ?_⟩
  unfold usageRow paidRow
  rw [remaining enough, period]

theorem paid_accepts (sound : Sound db) (dated : Dated call.moment) (positive : 0 < call.quantity) (g : ServiceEntitlementGrant)
    (active : g ∈ activeGrants call.earlyAccess db call.userId (h.normalizeCode call.code) call.moment) (enough : pays call db g = true) :
    ∃ decision, Accepts h db call g decision := by
  have inGrants := (activeGrants_running _ _ _ _ g active).1
  obtain ⟨decision, decided, _, refuses, _⟩ := @grantDecision_pays call db g (sound.valued g inGrants) positive dated
  have stays : ¬ (decision.allowed = false ∨ decision.remaining.any (fun remaining => remaining < call.quantity) = true) := by
    rw [refuses, enough]
    exact Bool.noConfusion
  obtain ⟨allowed, covered⟩ := not_or.mp stays
  refine ⟨decision, active, decided, Bool.eq_true_of_not_eq_false allowed, ?_⟩
  cases left : decision.remaining with
  | none => rfl
  | some remaining =>
      rw [left, Option.any_some, decide_eq_true_eq] at covered
      exact decide_eq_true (not_lt.mp covered)

theorem consume_newKey (operationKeyHash : String) (newKey : NewKey h db call operationKeyHash) : consume h call db =
    spendFirst h call operationKeyHash db (activeGrants call.earlyAccess db call.userId (h.normalizeCode call.code) call.moment) db := by
  unfold consume
  rw [require_bind_run _ _ _ _ newKey.quantity, require_bind_run _ _ _ _ newKey.key, newKey.hashed,
    bind_run _ _ db db operationKeyHash rfl, get_bind_run, newKey.unseen]

theorem accepted_written (sound : Sound db) (operationKeyHash : String) (dated : Dated call.moment)
    (newKey : NewKey h db call operationKeyHash) (g : ServiceEntitlementGrant) (decision : GrantDecision)
    (accepts : Accepts h db call g decision) : insertUsage (usageRow h call operationKeyHash g decision) db =
      .ok ((), { db with usage := db.usage ++ [usageRow h call operationKeyHash g decision] }) := by
  obtain ⟨enough, row⟩ := accepts_paid sound dated newKey.quantity.1 g decision accepts operationKeyHash
  obtain ⟨inGrants, owner, active, granted⟩ := activeGrants_running _ _ _ _ g accepts.active
  rw [row]
  exact insertUsage_paid sound operationKeyHash g inGrants owner active granted newKey.quantity.1 newKey.unseen enough

theorem accepted_spends (sound : Sound db) (operationKeyHash : String) (dated : Dated call.moment)
    (newKey : NewKey h db call operationKeyHash) (accepted : ∃ g decision, Accepts h db call g decision) :
    ∃ g decision, Accepts h db call g decision ∧ consume h call db =
      .ok (usageResult (usageRow h call operationKeyHash g decision) false,
        { db with usage := db.usage ++ [usageRow h call operationKeyHash g decision] }) := by
  obtain ⟨g, decision, accepts⟩ := accepted
  have positive := newKey.quantity.1
  rw [consume_newKey operationKeyHash newKey,
    spendFirst_first sound operationKeyHash newKey.unseen positive dated _ (activeGrants_running _ _ _ _)]
  cases first : (activeGrants call.earlyAccess db call.userId (h.normalizeCode call.code) call.moment).find? (pays call db) with
  | none =>
      have refused := List.find?_eq_none.mp first g accepts.active
      exact absurd (accepts_paid sound dated positive g decision accepts operationKeyHash).1 refused
  | some g' =>
      obtain ⟨decision', accepts'⟩ := paid_accepts sound dated positive g' (List.mem_of_find?_eq_some first) (List.find?_some first)
      refine ⟨g', decision', accepts', ?_⟩
      rw [(accepts_paid sound dated positive g' decision' accepts' operationKeyHash).2]

theorem consume_faults (sound : Sound db) (fault : Fault) (dated : Dated call.moment) (refused : consume h call db = .error fault) :
    fault.ofService := by
  by_cases quantity : 0 < call.quantity ∧ call.quantity ≤ maxBigint
  case neg =>
    rw [consume, require_bind_fails _ _ _ _ quantity] at refused
    cases refused
    trivial
  by_cases key : keyPattern call.idempotencyKey = true
  case neg =>
    rw [consume, require_bind_run _ _ _ _ quantity, require_bind_fails _ _ _ _ key] at refused
    cases refused
    trivial
  cases hashed : h.operationKeyHash call.idempotencyKey with
  | none =>
      rw [consume, require_bind_run _ _ _ _ quantity, require_bind_run _ _ _ _ key, hashed] at refused
      cases refused
      trivial
  | some operationKeyHash =>
      cases known : usageByKey db call.userId operationKeyHash with
      | none =>
          rw [consume_newKey operationKeyHash ⟨quantity, key, hashed, known⟩,
            spendFirst_first sound operationKeyHash known quantity.1 dated _ (activeGrants_running _ _ _ _)] at refused
          split at refused
          · cases refused
            trivial
          · cases refused
      | some existing =>
          rw [consume, require_bind_run _ _ _ _ quantity, require_bind_run _ _ _ _ key, hashed, bind_run _ _ db db operationKeyHash rfl,
            get_bind_run, known] at refused
          by_cases request : existing.requestHash = h.requestHash (h.normalizeCode call.code) call.quantity
          · simp only [require_bind_run _ _ _ _ request] at refused
            cases refused
          · simp only [require_bind_fails _ _ _ _ request] at refused
            cases refused
            trivial

/-- Over any run no quota is exceeded, the windows of a grant are apart, and a row that the service accepts is never refused by the database. -/
theorem entitlement_quotas_kept (h : EntitlementHashes) (events : List Event) : QuotasKept h (run (step h) emptyDb events) := by
  have sound := run_sound h events
  constructor
  case grants => exact grant_charged sound
  case pools => exact pool_charged sound
  case windows =>
    intro g _ moment moment' dated dated' granted _
    exact windows_disjoint g moment moment' dated dated' granted
  case written =>
    intro call operationKeyHash dated newKey g decision accepts
    exact accepted_written sound operationKeyHash dated newKey g decision accepts
  case spends =>
    intro call operationKeyHash dated newKey accepted
    exact accepted_spends sound operationKeyHash dated newKey accepted
  case faults =>
    intro call fault dated refused
    exact consume_faults sound fault dated refused

theorem march_spent : ∃ g decision, Accepts sampleHashes (run (step sampleHashes) emptyDb sampleEvents)
    (sampleCall "key-0002" 1709251200000) g decision ∧
      consume sampleHashes (sampleCall "key-0002" 1709251200000) (run (step sampleHashes) emptyDb sampleEvents) =
        .ok (usageResult (usageRow sampleHashes (sampleCall "key-0002" 1709251200000) "key-0002" g decision) false,
          { run (step sampleHashes) emptyDb sampleEvents with
            usage := (run (step sampleHashes) emptyDb sampleEvents).usage ++
              [usageRow sampleHashes (sampleCall "key-0002" 1709251200000) "key-0002" g decision] }) := by
  refine (entitlement_quotas_kept sampleHashes sampleEvents).spends (sampleCall "key-0002" 1709251200000) "key-0002"
    (by unfold Dated; decide) ?_ ⟨sampleGrant, ⟨true, some 3, ⟨1709251200000, some 1711929600000⟩⟩, ?_⟩
  · exact ⟨by decide, by decide +kernel, rfl, by decide +kernel⟩
  · exact ⟨by decide +kernel, by decide +kernel, rfl, rfl⟩

-- A grant from the first of January in the year 50. Date.UTC reads the year 50 as 1950.
def earlyGrant : ServiceEntitlementGrant :=
  { sampleGrant with startsAt := -60589296000000, createdAt := -60589296000000 }

def earlyEvents : List Event :=
  [.define { id := "tutor", code := "TUTOR", valueType := .metered, resetPeriod := .calendarMonth }, .grant earlyGrant]

theorem early_year_refused :
    (∃ w, entitlementUsageWindow .calendarMonth earlyGrant.startsAt earlyGrant.endsAt (-60589295999999) = some w ∧
      ¬ w.Contains (-60589295999999)) ∧
    consume sampleHashes (sampleCall "key-0001" (-60589295999999)) (run (step sampleHashes) emptyDb earlyEvents) =
      .error (.raised "service entitlement usage must match its owning grant") := by
  refine ⟨⟨⟨-631152000000, some (-628473600000)⟩, by decide +kernel, by decide +kernel⟩, by decide +kernel⟩

end Agreement

end EduAi.Memberships.Entitlements
