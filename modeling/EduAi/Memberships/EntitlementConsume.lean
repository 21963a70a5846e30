import EduAi.Memberships.EntitlementQuota

set_option autoImplicit false

namespace EduAi.Memberships.Entitlements

open EduAi.Store

section Quotas

variable {db : EntitlementDb}

def ServiceEntitlementGrant.window (g : ServiceEntitlementGrant) (moment : Int) : UsageWindow :=
  expectedWindow g.value.resetPeriod g.startsAt g.endsAt moment

def ServiceEntitlementQuotaPool.window (p : ServiceEntitlementQuotaPool) (moment : Int) : UsageWindow :=
  expectedWindow p.value.resetPeriod p.startsAt p.endsAt moment

def chargedWithin (db : EntitlementDb) (mine : ServiceEntitlementUsage → Bool) (w : UsageWindow) : Int :=
  total (fun u => u.quantity) (db.usage.filter (fun u => mine u ∧ w.Contains u.createdAt))

theorem used_mono (rows : List ServiceEntitlementUsage) (positive : ∀ u ∈ rows, 0 < u.quantity) (p q : ServiceEntitlementUsage → Bool)
    (within : ∀ u ∈ rows, p u = true → q u = true) :
    total (fun u => u.quantity) (rows.filter p) ≤ total (fun u => u.quantity) (rows.filter q) := by
  rw [total_filter, total_filter]
  refine total_mono _ _ rows (fun u member => ?_)
  by_cases own : p u = true
  · rw [if_pos own, if_pos (within u member own)]
  · rw [if_neg own]
    by_cases other : q u = true
    · rw [if_pos other]
      exact le_of_lt (positive u member)
    · rw [if_neg other]

theorem usage_window (sound : Sound db) (u : ServiceEntitlementUsage) (member : u ∈ db.usage) (g : ServiceEntitlementGrant)
    (inGrants : g ∈ db.grants) (named : g.id = u.grantId) (moment : Int) (inside : (g.window moment).Contains u.createdAt) :
    u.period = g.window moment := by
  obtain ⟨_, x, inTable, isId, period⟩ := sound.owned u member
  obtain rfl := sound.grantKey x inTable g inGrants (isId.trans named.symm)
  rw [period]
  exact expected_same moment u.createdAt inside

theorem pool_charged (sound : Sound db) (p : ServiceEntitlementQuotaPool) (inPools : p ∈ db.pools) (metered : p.value.valueType = .metered)
    (moment : Int) : chargedWithin db (inPool db p.id) (p.window moment) ≤ p.value.quota.getD 0 := by
  refine le_trans (used_mono db.usage (fun u member => (sound.owned u member).1) _ _ ?_) (sound.spentPool p inPools metered (p.window moment))
  intro u member both
  obtain ⟨mine, inside⟩ := of_decide_eq_true both
  obtain ⟨g, inGrants, named, pool⟩ := (inPool_iff db p.id u).mp mine
  obtain ⟨p', inTable, sameId, value, starts, ends⟩ := sound.pooled g inGrants p.id pool
  obtain rfl := sound.poolKey p' inTable p inPools sameId
  have same : p'.window moment = g.window moment := by
    unfold ServiceEntitlementQuotaPool.window ServiceEntitlementGrant.window
    rw [value, starts, ends]
  rw [same] at inside ⊢
  exact decide_eq_true ⟨mine, usage_window sound u member g inGrants named moment inside⟩

theorem grant_charged (sound : Sound db) (g : ServiceEntitlementGrant) (inGrants : g ∈ db.grants) (metered : g.value.valueType = .metered)
    (moment : Int) : chargedWithin db (fun u => u.grantId = g.id) (g.window moment) ≤ g.value.quota.getD 0 := by
  have positive : ∀ u ∈ db.usage, 0 < u.quantity := fun u member => (sound.owned u member).1
  cases pool : g.quotaPoolId with
  | none =>
      refine le_trans (used_mono db.usage positive _ _ ?_) (sound.spentGrant g inGrants metered pool (g.window moment))
      intro u member both
      obtain ⟨mine, inside⟩ := of_decide_eq_true both
      have own : u.grantId = g.id := of_decide_eq_true mine
      exact decide_eq_true ⟨own, usage_window sound u member g inGrants own.symm moment inside⟩
  | some id =>
      obtain ⟨p, inPools, rfl, value, starts, ends⟩ := sound.pooled g inGrants id pool
      have same : p.window moment = g.window moment := by
        unfold ServiceEntitlementQuotaPool.window ServiceEntitlementGrant.window
        rw [value, starts, ends]
      rw [value, ← same]
      refine le_trans (used_mono db.usage positive _ _ ?_) (pool_charged sound p inPools (value ▸ metered) moment)
      intro u member both
      obtain ⟨mine, inside⟩ := of_decide_eq_true both
      have own : u.grantId = g.id := of_decide_eq_true mine
      exact decide_eq_true ⟨(inPool_iff db p.id u).mpr ⟨g, inGrants, own.symm, pool⟩, inside⟩

/-- Over any run, no grant and no pool is charged for more than its quota within one window. -/
theorem quotas_never_exceeded (h : EntitlementHashes) (events : List Event) : let db := run (step h) emptyDb events
    (∀ g ∈ db.grants, g.value.valueType = .metered → ∀ moment,
      chargedWithin db (fun u => u.grantId = g.id) (g.window moment) ≤ g.value.quota.getD 0) ∧
    (∀ p ∈ db.pools, p.value.valueType = .metered → ∀ moment, chargedWithin db (inPool db p.id) (p.window moment) ≤ p.value.quota.getD 0) :=
  ⟨grant_charged (run_sound h events), pool_charged (run_sound h events)⟩

end Quotas

section Consume

variable (h : EntitlementHashes) (call : ConsumeCall) (db : EntitlementDb)

def pays (g : ServiceEntitlementGrant) : Bool :=
  match g.value.valueType with
  | .boolean => g.value.booleanValue = some true
  | .unlimited => true
  | .metered => g.value.quota.any (fun quota => alreadyUsed db g (g.window call.moment) + call.quantity ≤ quota)

def remainingAfter (g : ServiceEntitlementGrant) : Option Int :=
  match g.value.valueType with
  | .metered => g.value.quota.map (fun quota => quota - alreadyUsed db g (g.window call.moment) - call.quantity)
  | _ => none

def paidRow (operationKeyHash : String) (g : ServiceEntitlementGrant) : ServiceEntitlementUsage where
  grantId := g.id
  userId := call.userId
  operationKeyHash := operationKeyHash
  requestHash := h.requestHash (h.normalizeCode call.code) call.quantity
  quantity := call.quantity
  remainingAfter := remainingAfter call db g
  period := g.window call.moment
  createdAt := call.moment

variable {h call db}

theorem grantDecision_pays (g : ServiceEntitlementGrant) (valid : valueMatches g.value = true) (positive : 0 < call.quantity)
    (dated : Dated call.moment) : ∃ decision, grantDecision db call.moment g = some decision ∧ decision.period = g.window call.moment ∧
      ((decision.allowed = false ∨ decision.remaining.any (fun remaining => remaining < call.quantity) = true) ↔ pays call db g = false) ∧
      (pays call db g = true → decision.remaining.map (fun remaining => remaining - call.quantity) = remainingAfter call db g) := by
  have window := usageWindow_expected g.value.resetPeriod g.startsAt g.endsAt call.moment dated
  cases kind : g.value.valueType with
  | metered =>
      obtain ⟨quota, limit, _⟩ := metered_quota _ valid kind
      refine ⟨⟨0 < quota - alreadyUsed db g (g.window call.moment), some (if 0 < quota - alreadyUsed db g (g.window call.moment) then
        quota - alreadyUsed db g (g.window call.moment) else 0), g.window call.moment⟩, ?_, rfl, ?_, ?_⟩
      · unfold grantDecision
        simp only [Option.bind_eq_bind]
        rw [window, Option.bind_some, if_pos kind, limit, Option.bind_some]
        rfl
      · unfold pays
        rw [kind, limit]
        simp only [Option.any_some, decide_eq_false_iff_not, decide_eq_true_eq]
        split <;> omega
      · unfold pays remainingAfter
        rw [kind, limit]
        intro enough
        have room : 0 < quota - alreadyUsed db g (g.window call.moment) := by
          simp only [Option.any_some, decide_eq_true_eq] at enough
          omega
        simp only [if_pos room]
        rfl
  | boolean =>
      refine ⟨⟨g.value.booleanValue = some true, none, g.window call.moment⟩, ?_, rfl, ?_, ?_⟩
      · unfold grantDecision
        simp only [Option.bind_eq_bind]
        rw [window, Option.bind_some, if_neg (by simp [kind])]
        simp [kind, ServiceEntitlementGrant.window]
      · unfold pays
        rw [kind]
        simp
      · unfold remainingAfter
        rw [kind]
        intro _
        rfl
  | unlimited =>
      refine ⟨⟨true, none, g.window call.moment⟩, ?_, rfl, ?_, ?_⟩
      · unfold grantDecision
        simp only [Option.bind_eq_bind]
        rw [window, Option.bind_some, if_neg (by simp [kind])]
        simp [kind, ServiceEntitlementGrant.window]
      · unfold pays
        rw [kind]
        simp
      · unfold remainingAfter
        rw [kind]
        intro _
        rfl

theorem insertUsage_paid (sound : Sound db) (operationKeyHash : String) (g : ServiceEntitlementGrant) (inGrants : g ∈ db.grants)
    (owner : g.userId = call.userId) (active : g.active = true) (granted : Within g.startsAt g.endsAt call.moment)
    (positive : 0 < call.quantity) (fresh : usageByKey db call.userId operationKeyHash = none) (enough : pays call db g = true) :
    insertUsage (paidRow h call db operationKeyHash g) db =
      .ok ((), { db with usage := db.usage ++ [paidRow h call db operationKeyHash g] }) := by
  have written : Wp (insertUsage (paidRow h call db operationKeyHash g))
      (fun _ t => t = { db with usage := db.usage ++ [paidRow h call db operationKeyHash g] }) db := by
    have found : grantById db g.id = some g := keyed_find (fun g : ServiceEntitlementGrant => g.id) _ g sound.grantKey inGrants g.id rfl
    have contains := @expected_contains g.value.resetPeriod _ _ call.moment granted
    have lasts : windowChecks (g.window call.moment).startsAt (g.window call.moment).endsAt = true := by
      unfold windowChecks
      cases ends : (g.window call.moment).endsAt with
      | none => rfl
      | some e => exact decide_eq_true (lt_of_le_of_lt contains.1 (contains.2 e ends))
    have unused : free (fun u => some (u.userId, u.operationKeyHash)) (paidRow h call db operationKeyHash g) db.usage = true := by
      rw [free_iff]
      intro u member k named same
      have other := find_none _ _ fresh u member
      have both := Option.some.inj (same.trans named.symm)
      simp only [paidRow, Prod.mk.injEq] at both
      simp [both.1, both.2] at other
    have metered (kind : g.value.valueType = .metered) : ∃ quota, g.value.quota = some quota ∧ quota ≤ maxBigint ∧
        alreadyUsed db g (g.window call.moment) + call.quantity ≤ quota := by
      obtain ⟨quota, limit, _⟩ := metered_quota _ (sound.valued g inGrants) kind
      have bounded := sound.bounded g inGrants
      unfold quotaFits at bounded
      unfold pays at enough
      rw [kind, limit] at enough
      rw [limit] at bounded
      exact ⟨quota, limit, by simpa using bounded, by simpa using enough⟩
    simp only [insertUsage, wp_bind, wp_get, wp_orThrow, wp_require, wp_modify]
    refine ⟨g, found, ⟨owner, active, granted.1, ?_, rfl⟩, ?_, ?_, ?_, ?_, ?_, positive, ?_, lasts, unused, trivial⟩
    · rw [Option.all_eq_true]
      intro e ends
      exact decide_eq_true (granted.2 e ends)
    · intro kind
      unfold pays at enough
      rw [kind] at enough
      exact of_decide_eq_true enough
    · intro kind
      obtain ⟨quota, _, bounded, room⟩ := metered kind
      show alreadyUsed db g (g.window call.moment) ≤ maxBigint ∧ alreadyUsed db g (g.window call.moment) + call.quantity ≤ maxBigint
      omega
    · intro kind
      obtain ⟨quota, limit, _, room⟩ := metered kind
      rw [limit]
      exact decide_eq_true room
    · intro kind
      show remainingAfter call db g = _
      unfold remainingAfter
      rw [kind]
      rfl
    · intro kind
      show remainingAfter call db g = none
      unfold remainingAfter
      cases other : g.value.valueType with
      | metered => exact absurd other kind
      | boolean | unlimited => rfl
    · show (remainingAfter call db g).all (fun r => decide (0 ≤ r)) = true
      unfold remainingAfter
      cases kind : g.value.valueType with
      | metered =>
          obtain ⟨quota, limit, _, room⟩ := metered kind
          simp only [limit, Option.map_some, Option.all_some, decide_eq_true_eq]
          omega
      | boolean | unlimited => rfl
  obtain ⟨_, t, ran, rfl⟩ := written
  exact ran

theorem spendFirst_first (sound : Sound db) (operationKeyHash : String) (fresh : usageByKey db call.userId operationKeyHash = none)
    (positive : 0 < call.quantity) (dated : Dated call.moment) (gs : List ServiceEntitlementGrant)
    (running : ∀ g ∈ gs, g ∈ db.grants ∧ g.userId = call.userId ∧ g.active = true ∧ Within g.startsAt g.endsAt call.moment) :
    spendFirst h call operationKeyHash db gs db =
      match gs.find? (pays call db) with
      | none => .error (.forbidden "ENTITLEMENT_EXHAUSTED_OR_UNAVAILABLE")
      | some g => .ok (usageResult (paidRow h call db operationKeyHash g) false,
          { db with usage := db.usage ++ [paidRow h call db operationKeyHash g] }) := by
  induction gs with
  | nil => rfl
  | cons g rest ih =>
      obtain ⟨inGrants, owner, active, granted⟩ := running g List.mem_cons_self
      obtain ⟨decision, decided, period, refuses, remaining⟩ := @grantDecision_pays call db g (sound.valued g inGrants) positive dated
      have later := ih (fun x member => running x (List.mem_cons_of_mem _ member))
      rw [spendFirst, decided, bind_run _ _ db db decision rfl, List.find?_cons]
      cases enough : pays call db g with
      | false =>
          rw [if_pos (refuses.mpr enough)]
          exact later
      | true =>
          have stays : ¬ (decision.allowed = false ∨ decision.remaining.any (fun remaining => remaining < call.quantity) = true) := by
            rw [refuses, enough]
            exact Bool.noConfusion
          rw [if_neg stays]
          have row : usageRow h call operationKeyHash g decision = paidRow h call db operationKeyHash g := by
            unfold usageRow paidRow
            rw [remaining enough, period]
          rw [row, bind_run _ _ db _ () (insertUsage_paid sound operationKeyHash g inGrants owner active granted positive fresh enough)]
          rfl

theorem activeGrants_running (earlyAccess : Bool) (userId : Uuid) (code : String) (moment : Int) (g : ServiceEntitlementGrant)
    (member : g ∈ activeGrants earlyAccess db userId code moment) :
    g ∈ db.grants ∧ g.userId = userId ∧ g.active = true ∧ Within g.startsAt g.endsAt moment := by
  have inside : g ∈ runningGrants db userId code moment := by
    unfold activeGrants at member
    cases earlyAccess with
    | true => exact (List.mem_filter.mp member).1
    | false => exact (List.mem_filter.mp member).1
  unfold runningGrants at inside
  have chosen := (List.perm_insertionSort _ _).mem_iff.mp inside
  obtain ⟨inGrants, matched⟩ := List.mem_filter.mp chosen
  obtain ⟨owner, active, starts, ends, _⟩ := of_decide_eq_true matched
  refine ⟨inGrants, owner, active, starts, ?_⟩
  intro e last
  rw [last] at ends
  exact of_decide_eq_true ends

/-- In every state of a run, a call with a new key spends from the first active grant that can pay, and the database refuses it nothing. -/
theorem consume_spends_first (h : EntitlementHashes) (events : List Event) (call : ConsumeCall) (operationKeyHash : String)
    (dated : Dated call.moment) (quantity : 0 < call.quantity ∧ call.quantity ≤ maxBigint) (key : keyPattern call.idempotencyKey = true)
    (hashed : h.operationKeyHash call.idempotencyKey = some operationKeyHash) : let db := run (step h) emptyDb events
    usageByKey db call.userId operationKeyHash = none →
      consume h call db =
        match (activeGrants call.earlyAccess db call.userId (h.normalizeCode call.code) call.moment).find? (pays call db) with
        | none => .error (.forbidden "ENTITLEMENT_EXHAUSTED_OR_UNAVAILABLE")
        | some g => .ok (usageResult (paidRow h call db operationKeyHash g) false,
            { db with usage := db.usage ++ [paidRow h call db operationKeyHash g] }) := by
  intro db fresh
  have sound := run_sound h events
  unfold consume
  rw [require_bind_run _ _ _ _ quantity, require_bind_run _ _ _ _ key, hashed, bind_run _ _ db db operationKeyHash rfl, get_bind_run,
    fresh]
  exact spendFirst_first sound operationKeyHash fresh quantity.1 dated _ (activeGrants_running _ _ _ _)

end Consume

section Retries

variable {h : EntitlementHashes} {call : ConsumeCall} {db : EntitlementDb}

structure Answers (h : EntitlementHashes) (call : ConsumeCall) (r : ConsumeResult) (t : EntitlementDb) (u : ServiceEntitlementUsage) : Prop where
  member : u ∈ t.usage
  owner : u.userId = call.userId
  key : h.operationKeyHash call.idempotencyKey = some u.operationKeyHash
  request : u.requestHash = h.requestHash (h.normalizeCode call.code) call.quantity
  answer : usageResult u true = { r with idempotent := true }

theorem spendFirst_answers (operationKeyHash : String) (hashed : h.operationKeyHash call.idempotencyKey = some operationKeyHash)
    (gs : List ServiceEntitlementGrant) :
    Wlp (spendFirst h call operationKeyHash db gs) (fun r t => ∃ u, Answers h call r t u) db := by
  induction gs with
  | nil => exact wlp_throw _ _ _
  | cons g rest ih =>
      rw [spendFirst, wlp_bind, wlp_orThrow]
      intro decision _
      rw [wlp_ite]
      refine ⟨fun _ => ih, fun _ => ?_⟩
      rw [wlp_bind]
      refine wlp_mono _ db (insertUsage_fits db _) ?_
      rintro _ t ⟨grown, _⟩
      rw [wlp_pure]
      exact ⟨_, grown ▸ List.mem_append_right _ List.mem_cons_self, rfl, hashed, rfl, rfl⟩

theorem consume_answers : Wlp (consume h call) (fun r t => (0 < call.quantity ∧ call.quantity ≤ maxBigint) ∧
    keyPattern call.idempotencyKey = true ∧ ∃ u, Answers h call r t u) db := by
  simp only [consume, wlp_bind, wlp_get, wlp_orThrow, wlp_require]
  intro quantity key operationKeyHash hashed
  cases known : usageByKey db call.userId operationKeyHash with
  | none => exact wlp_mono _ db (spendFirst_answers operationKeyHash hashed _) (fun _ t answers => ⟨quantity, key, answers⟩)
  | some existing =>
      simp only [wlp_bind, wlp_require, wlp_pure]
      intro request
      obtain ⟨member, matched⟩ := find_some _ _ existing known
      obtain ⟨owner, sameKey⟩ := of_decide_eq_true matched
      exact ⟨quantity, key, existing, member, owner, sameKey ▸ hashed, request, rfl⟩

theorem step_usage (h : EntitlementHashes) (db : EntitlementDb) (e : Event) (u : ServiceEntitlementUsage) (member : u ∈ db.usage) :
    u ∈ (step h db e).usage := by
  have beside (m : EntitlementTxn Unit) (kept : Wlp m (fun _ t => t.usage = db.usage) db) : u ∈ (commit m db).usage :=
    commit_of_wlp m (fun t => u ∈ t.usage) db member (wlp_mono m db kept (fun _ _ same => same ▸ member))
  cases e with
  | define d =>
      refine beside _ ?_
      simp [insertDefinition]
  | pool p =>
      refine beside _ ?_
      simp [insertPool]
  | grant g =>
      refine beside _ ?_
      simp [insertGrant]
  | revoke p =>
      refine beside _ ?_
      simp [revokeGrants]
  | receipts effects => exact member
  | consume call =>
      refine commit_of_wlp _ (fun t => u ∈ t.usage) db member (wlp_mono _ db (consume_outcome h call db) ?_)
      rintro _ t (rfl | ⟨row, _, rfl, _⟩)
      · exact member
      · exact List.mem_append_left _ member

theorem usageByKey_found (sound : Sound db) (u : ServiceEntitlementUsage) (member : u ∈ db.usage) :
    usageByKey db u.userId u.operationKeyHash = some u := by
  have pairs : usageByKey db u.userId u.operationKeyHash =
      db.usage.find? (fun x => decide ((x.userId, x.operationKeyHash) = (u.userId, u.operationKeyHash))) := by
    unfold usageByKey
    congr 1
    funext x
    simp
  rw [pairs]
  exact keyed_find (fun u : ServiceEntitlementUsage => (u.userId, u.operationKeyHash)) _ u sound.usageKey member _ rfl

/-- A call that was answered is answered alike at any later time, whatever has happened in between, and spends nothing again. -/
theorem consume_retried (h : EntitlementHashes) (before later : List Event) (call : ConsumeCall) (r : ConsumeResult) (t : EntitlementDb)
    (ran : consume h call (run (step h) emptyDb before) = .ok (r, t)) (moment : Int) (earlyAccess : Bool) :
    consume h { call with moment, earlyAccess } (run (step h) t later) = .ok ({ r with idempotent := true }, run (step h) t later) := by
  obtain ⟨quantity, key, u, answers⟩ := consume_answers _ _ ran
  have stepped : t = run (step h) emptyDb (before ++ [.consume call]) := by
    rw [run_append, run_cons, run_nil]
    show t = commit (consume h call) _
    rw [commit, ran]
  have sound : Sound (run (step h) t later) := by
    rw [stepped, ← run_append]
    exact run_sound h _
  have there : u ∈ (run (step h) t later).usage :=
    run_invariant (step h) (fun db => u ∈ db.usage) (fun db e => step_usage h db e u) t later answers.member
  have known := usageByKey_found sound u there
  rw [answers.owner] at known
  have retried : Wp (consume h { call with moment, earlyAccess })
      (fun x s => x = { r with idempotent := true } ∧ s = run (step h) t later) (run (step h) t later) := by
    simp only [consume, wp_bind, wp_get, wp_orThrow, wp_require]
    refine ⟨quantity, key, u.operationKeyHash, answers.key, ?_⟩
    rw [known]
    simp only [wp_bind, wp_require, wp_pure]
    exact ⟨answers.request, answers.answer, trivial⟩
  obtain ⟨_, _, done, rfl, rfl⟩ := retried
  exact done

end Retries

section Sample

def sampleHashes : EntitlementHashes where
  toUpperCase := String.toUpper
  operationKeyHash := fun key => some key
  requestHash := fun code quantity => code ++ ":" ++ toString quantity

def sampleGrant : ServiceEntitlementGrant where
  id := "grant-1"
  userId := "learner-1"
  definitionId := "tutor"
  sourceType := "membership"
  sourceId := "line-1"
  value := { valueType := .metered, resetPeriod := .calendarMonth, booleanValue := none, quota := some 3 }
  active := true
  startsAt := 1707000000000
  endsAt := none
  createdAt := 1707000000000
  quotaPoolId := none

def sampleCall (key : String) (moment : Int) : ConsumeCall where
  userId := "learner-1"
  code := "TUTOR"
  quantity := 2
  idempotencyKey := key
  moment := moment
  earlyAccess := false

def sampleEvents : List Event :=
  [.define { id := "tutor", code := "TUTOR", valueType := .metered, resetPeriod := .calendarMonth }, .grant sampleGrant,
    .consume (sampleCall "key-0001" 1707000000001)]

theorem february_charged : chargedWithin (run (step sampleHashes) emptyDb sampleEvents) (fun u => u.grantId = sampleGrant.id)
    (sampleGrant.window 1707000000000) = 2 ∧
      chargedWithin (run (step sampleHashes) emptyDb sampleEvents) (fun u => u.grantId = sampleGrant.id)
        (sampleGrant.window 1707000000000) ≤ 3 :=
  ⟨by decide +kernel, (quotas_never_exceeded sampleHashes sampleEvents).1 sampleGrant (by decide +kernel) rfl 1707000000000⟩

theorem february_exhausted : consume sampleHashes (sampleCall "key-0002" 1709251199999) (run (step sampleHashes) emptyDb sampleEvents) =
    .error (.forbidden "ENTITLEMENT_EXHAUSTED_OR_UNAVAILABLE") := by
  refine (consume_spends_first sampleHashes sampleEvents (sampleCall "key-0002" 1709251199999) "key-0002" (by unfold Dated; decide)
    (by decide) (by decide +kernel) rfl (by decide +kernel)).trans ?_
  decide +kernel

theorem february_retried : ∃ r t, consume sampleHashes (sampleCall "key-0002" 1709251200000) (run (step sampleHashes) emptyDb sampleEvents) =
    .ok (r, t) ∧ consume sampleHashes (sampleCall "key-0002" 0) (run (step sampleHashes) t [.revoke (fun _ => true)]) =
      .ok ({ r with idempotent := true }, run (step sampleHashes) t [.revoke (fun _ => true)]) := by
  have ran : consume sampleHashes (sampleCall "key-0002" 1709251200000) (run (step sampleHashes) emptyDb sampleEvents) =
      .ok ({ consumed := 2, remaining := some 1, idempotent := false, period := ⟨1709251200000, some 1711929600000⟩ },
        commit (consume sampleHashes (sampleCall "key-0002" 1709251200000)) (run (step sampleHashes) emptyDb sampleEvents)) := by
    decide +kernel
  exact ⟨_, _, ran, consume_retried sampleHashes sampleEvents [.revoke (fun _ => true)] _ _ _ ran 0 false⟩

end Sample

end EduAi.Memberships.Entitlements
