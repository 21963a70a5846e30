import EduAi.Memberships.EntitlementWindow
import EduAi.Store.Quotas
import EduAi.Store.Total
import EduAi.Store.Trim
import Mathlib.Data.List.Sort

set_option autoImplicit false

namespace EduAi.Memberships.Entitlements

open EduAi.Store

abbrev Uuid := String

inductive Fault where
  | badRequest (error : String)
  | forbidden (error : String)
  | conflict (error : String)
  | unavailable (message : String)
  | invalidDate
  | raised (message : String)
  | range (message : String)
  | check (constraint : String)
  | unique (index : String)
deriving DecidableEq, Repr

structure EntitlementValue where
  valueType : EntitlementValueType
  resetPeriod : EntitlementResetPeriod
  booleanValue : Option Bool
  quota : Option Int
deriving DecidableEq, Repr

structure ServiceEntitlementDefinition where
  id : Uuid
  code : String
  valueType : EntitlementValueType
  resetPeriod : EntitlementResetPeriod
deriving DecidableEq, Repr

structure ServiceEntitlementQuotaPool where
  id : Uuid
  orderLineId : Uuid
  userId : Uuid
  definitionId : Uuid
  value : EntitlementValue
  startsAt : Int
  endsAt : Option Int
deriving DecidableEq, Repr

structure ServiceEntitlementGrant where
  id : Uuid
  userId : Uuid
  definitionId : Uuid
  sourceType : String
  sourceId : String
  value : EntitlementValue
  active : Bool
  startsAt : Int
  endsAt : Option Int
  createdAt : Int
  quotaPoolId : Option Uuid
deriving DecidableEq, Repr

structure ServiceEntitlementUsage where
  grantId : Uuid
  userId : Uuid
  operationKeyHash : String
  requestHash : String
  quantity : Int
  remainingAfter : Option Int
  period : UsageWindow
  createdAt : Int
deriving DecidableEq, Repr

structure CommerceReceiptAccessEffect where
  generationId : Uuid
  buyerId : Uuid
  accessUnverified : Bool
  orderLineId : Uuid
  resourceType : String
  resourceId : Uuid
deriving DecidableEq, Repr

structure EntitlementDb where
  definitions : List ServiceEntitlementDefinition
  pools : List ServiceEntitlementQuotaPool
  grants : List ServiceEntitlementGrant
  usage : List ServiceEntitlementUsage
  receiptEffects : List CommerceReceiptAccessEffect
deriving DecidableEq, Repr

abbrev EntitlementTxn := Txn EntitlementDb Fault

-- The condition of normalizeEntitlementValue. The checks of the tables would also let a metered row without a quota through.
def valueMatches (v : EntitlementValue) : Bool :=
  (v.valueType = .boolean ∧ v.resetPeriod = .none ∧ v.booleanValue.isSome ∧ v.quota = none) ∨
    (v.valueType = .metered ∧ v.booleanValue = none ∧ v.quota.any (fun quota => 0 < quota)) ∨
    (v.valueType = .unlimited ∧ v.resetPeriod = .none ∧ v.booleanValue = none ∧ v.quota = none)

def maxBigint : Int :=
  9223372036854775807

def quotaFits (v : EntitlementValue) : Bool :=
  v.quota.all (fun quota => quota ≤ maxBigint)

def windowChecks (startsAt : Int) (endsAt : Option Int) : Bool :=
  endsAt.all (fun e => startsAt < e)

def grantById (db : EntitlementDb) (id : Uuid) : Option ServiceEntitlementGrant :=
  db.grants.find? (fun g => g.id = id)

def poolById (db : EntitlementDb) (id : Uuid) : Option ServiceEntitlementQuotaPool :=
  db.pools.find? (fun p => p.id = id)

def definitionById (db : EntitlementDb) (id : Uuid) : Option ServiceEntitlementDefinition :=
  db.definitions.find? (fun d => d.id = id)

section Grants

def insertDefinition (d : ServiceEntitlementDefinition) : EntitlementTxn Unit := do
  let db ← get
  require (d.valueType = .metered ∨ d.resetPeriod = .none) (.check "service_entitlement_definitions_reset_check")
  require (free (fun d => some d.id) d db.definitions) (.unique "service_entitlement_definitions_pkey")
  require (free (fun d => some d.code) d db.definitions) (.unique "service_entitlement_definitions_code_key")
  modify (fun db => { db with definitions := db.definitions ++ [d] })

def insertPool (p : ServiceEntitlementQuotaPool) : EntitlementTxn Unit := do
  let db ← get
  require (quotaFits p.value) (.range "bigint out of range")
  require (windowChecks p.startsAt p.endsAt) (.check "service_entitlement_quota_pools_window_check")
  require (valueMatches p.value) (.check "service_entitlement_quota_pools_value_check")
  require (free (fun p => some p.id) p db.pools) (.unique "service_entitlement_quota_pools_pkey")
  require (free (fun p => some (p.orderLineId, p.definitionId)) p db.pools)
    (.unique "service_entitlement_quota_pools_line_definition_key")
  modify (fun db => { db with pools := db.pools ++ [p] })

-- The pattern '^[0-9a-fA-F-]{36}:' before the id of the order line.
def receiptSource (sourceId orderLineId : String) : Bool :=
  (sourceId.toList.take 36).length = 36 ∧
    (sourceId.toList.take 36).all (fun c => c.isDigit || ('a' ≤ c && c ≤ 'f') || ('A' ≤ c && c ≤ 'F') || c = '-') ∧
    sourceId.toList.drop 36 = ':' :: orderLineId.toList

def poolMatches (g : ServiceEntitlementGrant) (p : ServiceEntitlementQuotaPool) : Bool :=
  g.userId = p.userId ∧ g.definitionId = p.definitionId ∧ g.value = p.value ∧ g.startsAt = p.startsAt ∧ g.endsAt = p.endsAt ∧
    ((g.sourceType = "membership" ∧ g.sourceId = p.orderLineId) ∨
      (g.sourceType = "UNVERIFIED_RECEIPT_ACCESS" ∧ receiptSource g.sourceId p.orderLineId))

-- receipt_quota_grant_validate, for a row that is inserted.
def quotaGrantValid (db : EntitlementDb) (g : ServiceEntitlementGrant) : Bool :=
  match g.quotaPoolId with
  | none => g.sourceType ≠ "UNVERIFIED_RECEIPT_ACCESS" ∧
      ¬ (g.sourceType = "membership" ∧ db.pools.any (fun p => p.orderLineId = g.sourceId ∧ p.definitionId = g.definitionId))
  | some id => (poolById db id).any (poolMatches g)

def insertGrant (g : ServiceEntitlementGrant) : EntitlementTxn Unit := do
  let db ← get
  require (quotaFits g.value) (.range "bigint out of range")
  require ((definitionById db g.definitionId).any (fun d => d.valueType = g.value.valueType ∧ d.resetPeriod = g.value.resetPeriod))
    (.raised "service entitlement grant semantics must match its stable definition")
  require (quotaGrantValid db g) (.raised "receipt service grant must match its quota pool snapshot and order line")
  require (valueMatches g.value) (.check "service_entitlement_grants_value_check")
  require (windowChecks g.startsAt g.endsAt) (.check "service_entitlement_grants_window_check")
  require (free (fun g => some g.id) g db.grants) (.unique "service_entitlement_grants_pkey")
  require (free (fun g => some (g.userId, g.definitionId, g.sourceType, g.sourceId)) g db.grants)
    (.unique "service_entitlement_grants_source_key")
  modify (fun db => { db with grants := db.grants ++ [g] })

-- updateMany to revoked, over active grants; a revoked one never comes back.
def revokeGrants (p : ServiceEntitlementGrant → Bool) : EntitlementTxn Unit :=
  modify (fun db => { db with grants := updateWhere (fun g => p g && g.active) (fun g => { g with active := false }) db.grants })

end Grants

section Usage

def grantUsed (db : EntitlementDb) (grantId : Uuid) (window : UsageWindow) : Int :=
  total (fun u => u.quantity) (db.usage.filter (fun u => u.grantId = grantId ∧ u.period = window))

def inPool (db : EntitlementDb) (poolId : Uuid) (u : ServiceEntitlementUsage) : Bool :=
  db.grants.any (fun g => g.id = u.grantId ∧ g.quotaPoolId = some poolId)

def poolUsed (db : EntitlementDb) (poolId : Uuid) (window : UsageWindow) : Int :=
  total (fun u => u.quantity) (db.usage.filter (fun u => inPool db poolId u ∧ u.period = window))

def alreadyUsed (db : EntitlementDb) (g : ServiceEntitlementGrant) (window : UsageWindow) : Int :=
  match g.quotaPoolId with
  | none => grantUsed db g.id window
  | some poolId => poolUsed db poolId window

-- service_entitlement_validate_usage and the constraints of the table.
def insertUsage (u : ServiceEntitlementUsage) : EntitlementTxn Unit := do
  let db ← get
  let g ← orThrow (grantById db u.grantId) (.raised "service entitlement usage must match its owning grant")
  require (g.userId = u.userId ∧ g.active ∧ g.startsAt ≤ u.createdAt ∧ g.endsAt.all (fun e => u.createdAt < e) ∧
      u.period = expectedWindow g.value.resetPeriod g.startsAt g.endsAt u.createdAt)
    (.raised "service entitlement usage must match its owning grant")
  require (g.value.valueType = .boolean → g.value.booleanValue = some true) (.raised "disabled service entitlement cannot be consumed")
  require (g.value.valueType = .metered → alreadyUsed db g u.period ≤ maxBigint ∧ alreadyUsed db g u.period + u.quantity ≤ maxBigint)
    (.range "bigint out of range")
  require (g.value.valueType = .metered → g.value.quota.all (fun quota => alreadyUsed db g u.period + u.quantity ≤ quota))
    (.raised "service entitlement quota exhausted")
  require (g.value.valueType = .metered → u.remainingAfter = g.value.quota.map (fun quota => quota - alreadyUsed db g u.period - u.quantity))
    (.raised "service entitlement remaining snapshot is inconsistent")
  require (g.value.valueType ≠ .metered → u.remainingAfter = none)
    (.raised "unmetered service entitlement cannot store a remaining quota")
  require (0 < u.quantity) (.check "service_entitlement_usage_quantity_check")
  require (u.remainingAfter.all (fun r => 0 ≤ r)) (.check "service_entitlement_usage_remaining_check")
  require (windowChecks u.period.startsAt u.period.endsAt) (.check "service_entitlement_usage_period_check")
  require (free (fun u => some (u.userId, u.operationKeyHash)) u db.usage)
    (.unique "service_entitlement_usage_user_id_operation_key_hash_key")
  modify (fun db => { db with usage := db.usage ++ [u] })

end Usage

section Decisions

def endsBefore : Option Int → Option Int → Bool
  | some e, some e' => e < e'
  | some _, none => true
  | none, _ => false

-- orderBy endsAt with nulls last, then createdAt, then id.
def grantBefore (g g' : ServiceEntitlementGrant) : Prop :=
  endsBefore g.endsAt g'.endsAt = true ∨
    (g.endsAt = g'.endsAt ∧ (g.createdAt < g'.createdAt ∨ (g.createdAt = g'.createdAt ∧ g.id ≤ g'.id)))

instance decidableGrantBefore : DecidableRel grantBefore := fun g g' =>
  inferInstanceAs (Decidable (endsBefore g.endsAt g'.endsAt = true ∨
    (g.endsAt = g'.endsAt ∧ (g.createdAt < g'.createdAt ∨ (g.createdAt = g'.createdAt ∧ g.id ≤ g'.id)))))

def isEarly (g : ServiceEntitlementGrant) : Bool :=
  g.sourceType = "UNVERIFIED_RECEIPT_ACCESS"

-- The source that the receipt access of a grant names: the last effect of an unverified generation that points to it.
def effectSource (db : EntitlementDb) (userId : Uuid) (grantId : Uuid) : Option String :=
  ((db.receiptEffects.filter (fun e => e.resourceType = "service_entitlement_grant" ∧ e.resourceId = grantId ∧ e.buyerId = userId ∧
    e.accessUnverified)).getLast?).map (fun e => e.generationId ++ ":" ++ e.orderLineId)

variable (earlyAccess : Bool) (db : EntitlementDb) (userId : Uuid) (code : String) (moment : Int)

def codeMatches (g : ServiceEntitlementGrant) : Bool :=
  code = "" ∨ (definitionById db g.definitionId).any (fun d => d.code = code)

def runningGrants : List ServiceEntitlementGrant :=
  (db.grants.filter (fun g => g.userId = userId ∧ g.active ∧ g.startsAt ≤ moment ∧ g.endsAt.all (fun e => moment < e) ∧
    codeMatches db code g)).insertionSort grantBefore

def activeGrants : List ServiceEntitlementGrant :=
  if earlyAccess then (runningGrants db userId code moment).filter (fun g => isEarly g = false ∨
    (g.quotaPoolId.isSome ∧ effectSource db userId g.id = some g.sourceId))
  else (runningGrants db userId code moment).filter (fun g => isEarly g = false)

structure GrantDecision where
  allowed : Bool
  remaining : Option Int
  period : UsageWindow
deriving DecidableEq, Repr

def grantDecision (g : ServiceEntitlementGrant) : Option GrantDecision := do
  let window ← entitlementUsageWindow g.value.resetPeriod g.startsAt g.endsAt moment
  if g.value.valueType = .metered then do
    let quota ← g.value.quota
    let available := quota - alreadyUsed db g window
    some { allowed := 0 < available, remaining := some (if 0 < available then available else 0), period := window }
  else some { allowed := g.value.valueType ≠ .boolean || g.value.booleanValue = some true, remaining := none, period := window }

end Decisions

-- The runtime's toUpperCase, the keyed hash of an operation and the hash of a request.
structure EntitlementHashes where
  toUpperCase : String → String
  operationKeyHash : String → Option String
  requestHash : String → Int → String

def EntitlementHashes.normalizeCode (h : EntitlementHashes) (code : String) : String :=
  h.toUpperCase (jsTrim code)

structure ConsumeCall where
  userId : Uuid
  code : String
  quantity : Int
  idempotencyKey : String
  moment : Int
  earlyAccess : Bool
deriving DecidableEq, Repr

structure ConsumeResult where
  consumed : Int
  remaining : Option Int
  idempotent : Bool
  period : UsageWindow
deriving DecidableEq, Repr

-- /^[A-Za-z0-9._:-]{8,128}$/
def keyPattern (key : String) : Bool :=
  8 ≤ key.length ∧ key.length ≤ 128 ∧ key.toList.all (fun c => c.isAlphanum || c = '.' || c = '_' || c = ':' || c = '-')

section Consume

variable (h : EntitlementHashes) (call : ConsumeCall)

def usageByKey (db : EntitlementDb) (userId : Uuid) (operationKeyHash : String) : Option ServiceEntitlementUsage :=
  db.usage.find? (fun u => u.userId = userId ∧ u.operationKeyHash = operationKeyHash)

def usageRow (operationKeyHash : String) (g : ServiceEntitlementGrant) (decision : GrantDecision) : ServiceEntitlementUsage where
  grantId := g.id
  userId := call.userId
  operationKeyHash := operationKeyHash
  requestHash := h.requestHash (h.normalizeCode call.code) call.quantity
  quantity := call.quantity
  remainingAfter := decision.remaining.map (fun remaining => remaining - call.quantity)
  period := decision.period
  createdAt := call.moment

def usageResult (u : ServiceEntitlementUsage) (idempotent : Bool) : ConsumeResult where
  consumed := u.quantity
  remaining := u.remainingAfter
  idempotent := idempotent
  period := u.period

def spendFirst (operationKeyHash : String) (db : EntitlementDb) : List ServiceEntitlementGrant → EntitlementTxn ConsumeResult
  | [] => throw (.forbidden "ENTITLEMENT_EXHAUSTED_OR_UNAVAILABLE")
  | g :: rest => do
      let decision ← orThrow (grantDecision db call.moment g) .invalidDate
      if decision.allowed = false ∨ decision.remaining.any (fun remaining => remaining < call.quantity) then
        spendFirst operationKeyHash db rest
      else do
        insertUsage (usageRow h call operationKeyHash g decision)
        pure (usageResult (usageRow h call operationKeyHash g decision) false)

def consume : EntitlementTxn ConsumeResult := do
  require (0 < call.quantity ∧ call.quantity ≤ maxBigint) (.badRequest "INVALID_ENTITLEMENT_QUANTITY")
  require (keyPattern call.idempotencyKey) (.badRequest "INVALID_IDEMPOTENCY_KEY")
  let operationKeyHash ← orThrow (h.operationKeyHash call.idempotencyKey) (.unavailable "Service entitlement quota is unavailable.")
  let db ← get
  match usageByKey db call.userId operationKeyHash with
  | some existing => do
      require (existing.requestHash = h.requestHash (h.normalizeCode call.code) call.quantity) (.conflict "IDEMPOTENCY_KEY_REUSED")
      pure (usageResult existing true)
  | none =>
      spendFirst h call operationKeyHash db (activeGrants call.earlyAccess db call.userId (h.normalizeCode call.code) call.moment)

end Consume

end EduAi.Memberships.Entitlements
