import EduAi.Commerce.FreeEnrolment

set_option autoImplicit false

namespace EduAi.Tmi

open EduAi.Store EduAi.Gds EduAi.Commerce

inductive TmiRewardKind where
  | courseAccess | voucher | gift
deriving DecidableEq, Repr

inductive TmiRewardStatus where
  | draft | active | disabled | expired
deriving DecidableEq, Repr

inductive TmiLedgerKind where
  | earn | redeem | refund | adjustment | expiry
deriving DecidableEq, Repr

inductive TmiAdjustmentDirection where
  | credit | debit
deriving DecidableEq, Repr

inductive TmiEntitlementStatus where
  | active | revoked
deriving DecidableEq, Repr

-- The object of a JSON column by its keys; a value that is no text is none.
abbrev Metadata := Option (List (String × Option String))

structure TmiReward where
  id : Uuid
  title : String
  kind : TmiRewardKind
  cost : Int
  status : TmiRewardStatus
  quota : Option Int
  redeemedCount : Int
  startsAt : Instant
  endsAt : Instant
  inventoryMetadata : Metadata
deriving DecidableEq, Repr

structure TmiRedemption where
  id : Uuid
  userId : Uuid
  rewardId : Uuid
  idempotencyKey : String
  cost : Int
  createdAt : Instant
deriving DecidableEq, Repr

structure TmiEntitlement where
  id : Uuid
  userId : Uuid
  redemptionId : Uuid
  kind : TmiRewardKind
  status : TmiEntitlementStatus
  benefitMetadata : Metadata
deriving DecidableEq, Repr

structure TmiLedgerEntry where
  id : Uuid
  userId : Uuid
  redemptionId : Option Uuid
  kind : TmiLedgerKind
  amount : Int
  adjustmentDirection : Option TmiAdjustmentDirection
  sourceType : String
  sourceId : String
  actorId : Uuid
deriving DecidableEq, Repr

structure TmiDb where
  rewards : List TmiReward
  redemptions : List TmiRedemption
  entitlements : List TmiEntitlement
  ledger : List TmiLedgerEntry
  commerce : CommerceDb
deriving DecidableEq, Repr

abbrev TmiTxn := Txn TmiDb Fault

structure TmiWallet where
  current : Int
  earned : Int
  spent : Int
  expired : Int
deriving DecidableEq, Repr

def isCredit (e : TmiLedgerEntry) : Bool :=
  e.kind = .earn ∨ e.kind = .refund ∨ (e.kind = .adjustment ∧ e.adjustmentDirection = some .credit)

def isDebit (e : TmiLedgerEntry) : Bool :=
  e.kind = .redeem ∨ (e.kind = .adjustment ∧ e.adjustmentDirection = some .debit)

structure TmiTotals where
  earned : Int
  spent : Int
  expired : Int

def addEntry (t : TmiTotals) (e : TmiLedgerEntry) : TmiTotals :=
  if e.amount ≤ 0 then t
  else
    { earned := if isCredit e then t.earned + e.amount else t.earned
      spent := if isDebit e ∨ e.kind = .expiry then t.spent + e.amount else t.spent
      expired := if e.kind = .expiry then t.expired + e.amount else t.expired }

def summarizeWallet (entries : List TmiLedgerEntry) : TmiWallet :=
  let t := entries.foldl addEntry { earned := 0, spent := 0, expired := 0 }
  { current := max 0 (t.earned - t.spent), earned := t.earned, spent := t.spent, expired := t.expired }

def entriesOf (ledger : List TmiLedgerEntry) (userId : Uuid) : List TmiLedgerEntry :=
  ledger.filter (fun e => e.userId = userId)

def currentBalance (db : TmiDb) (userId : Uuid) : Int :=
  (summarizeWallet (entriesOf db.ledger userId)).current

def liveUser (db : TmiDb) (userId : Uuid) : Prop :=
  ∃ u ∈ db.commerce.users, u.id = userId ∧ u.deleted = false

instance (db : TmiDb) (userId : Uuid) : Decidable (liveUser db userId) := by
  unfold liveUser
  infer_instance

def lockUser (userId : Uuid) : TmiTxn Unit := do
  let db ← get
  require (liveUser db userId) (.notFound "TMI user not found")

def rewardById (db : TmiDb) (id : Uuid) : Option TmiReward :=
  db.rewards.find? (fun r => r.id = id)

def lockReward (rewardId : Uuid) : TmiTxn TmiReward := do
  let db ← get
  orThrow (rewardById db rewardId) (.notFound "TMI reward not found")

def assertRewardRedeemable (now : Instant) (reward : TmiReward) : TmiTxn Unit := do
  require (reward.status = .active) (.badRequest "TMI reward is not active")
  require (reward.startsAt ≤ now ∧ now < reward.endsAt) (.badRequest "TMI reward is outside its redemption window")
  require (∀ quota ∈ reward.quota, reward.redeemedCount < quota) (.badRequest "TMI reward quota is exhausted")

-- /[0-9a-f]/i
def isHexDigit (c : Char) : Bool :=
  (48 ≤ c.toNat ∧ c.toNat ≤ 57) ∨ (97 ≤ c.toNat ∧ c.toNat ≤ 102) ∨ (65 ≤ c.toNat ∧ c.toNat ≤ 70)

-- /^[0-9a-f]{8}-[0-9a-f]{4}-4[0-9a-f]{3}-[89ab][0-9a-f]{3}-[0-9a-f]{12}$/i
def isUuidV4 (text : String) : Bool :=
  text.toList.length = 36 ∧ ∀ place ∈ text.toList.zipIdx,
    if place.2 ∈ [8, 13, 18, 23] then place.1 = '-'
    else if place.2 = 14 then place.1 = '4'
    else if place.2 = 19 then place.1 ∈ ['8', '9', 'a', 'b', 'A', 'B']
    else isHexDigit place.1

def courseIdFromMetadata (metadata : Metadata) : TmiTxn Uuid := do
  let courseId ← orThrow ((metadata.bind (fun fields => fields.lookup "courseId")).bind id)
    (.badRequest "Course-access reward requires a valid course target")
  require (isUuidV4 courseId) (.badRequest "Course-access reward requires a valid course target")
  return courseId

def onCommerce {α : Type} (m : CommerceTxn α) : TmiTxn α :=
  zoom TmiDb.commerce (fun commerce db => { db with commerce }) m

def redemptionKey (r : TmiRedemption) : Uuid × String :=
  (r.userId, r.idempotencyKey)

def ledgerKey (e : TmiLedgerEntry) : Uuid × TmiLedgerKind × String × String :=
  (e.userId, e.kind, e.sourceType, e.sourceId)

def createRedemption (r : TmiRedemption) : TmiTxn Unit := do
  let db ← get
  require (free (fun r => some r.id) r db.redemptions) (.unique "tmi_redemptions_pkey")
  require (free (fun r => some (redemptionKey r)) r db.redemptions) (.unique "tmi_redemptions_user_id_idempotency_key_key")
  modify (fun db => { db with redemptions := db.redemptions ++ [r] })

def createEntitlement (e : TmiEntitlement) : TmiTxn Unit := do
  let db ← get
  require (free (fun e => some e.id) e db.entitlements) (.unique "tmi_entitlements_pkey")
  require (free (fun e => some e.redemptionId) e db.entitlements) (.unique "tmi_entitlements_redemption_id_key")
  modify (fun db => { db with entitlements := db.entitlements ++ [e] })

def createLedgerEntry (e : TmiLedgerEntry) : TmiTxn Unit := do
  let db ← get
  require (free (fun e => some e.id) e db.ledger) (.unique "tmi_ledger_entries_pkey")
  require (free (fun e => some (ledgerKey e)) e db.ledger) (.unique "tmi_ledger_entries_user_id_kind_source_type_source_id_key")
  modify (fun db => { db with ledger := db.ledger ++ [e] })

structure RedemptionDraw where
  access : AccessDraw
  redemptionId : Uuid
  entitlementId : Uuid
  ledgerId : Uuid

structure TmiRedemptionResponse where
  redemption : TmiRedemption
  idempotent : Bool
deriving DecidableEq, Repr

def redemptionOf (db : TmiDb) (userId : Uuid) (idempotencyKey : String) : Option TmiRedemption :=
  db.redemptions.find? (fun r => r.userId = userId ∧ r.idempotencyKey = idempotencyKey)

def redemptionRow (draw : RedemptionDraw) (now : Instant) (userId : Uuid) (reward : TmiReward) (idempotencyKey : String) :
    TmiRedemption where
  id := draw.redemptionId
  userId := userId
  rewardId := reward.id
  idempotencyKey := idempotencyKey
  cost := reward.cost
  createdAt := now

def entitlementRow (draw : RedemptionDraw) (userId : Uuid) (reward : TmiReward) : TmiEntitlement where
  id := draw.entitlementId
  userId := userId
  redemptionId := draw.redemptionId
  kind := reward.kind
  status := .active
  benefitMetadata := reward.inventoryMetadata

def redeemEntry (draw : RedemptionDraw) (r : TmiRedemption) : TmiLedgerEntry where
  id := draw.ledgerId
  userId := r.userId
  redemptionId := some r.id
  kind := .redeem
  amount := r.cost
  adjustmentDirection := none
  sourceType := "tmi_redemption"
  sourceId := r.id
  actorId := r.userId

def grantOfRedemption (r : TmiRedemption) (courseId : Uuid) : EnsureCourseAccessGrantInput where
  userId := r.userId
  courseId := courseId
  sourceType := .tmiReward
  sourceId := r.id
  startsAt := r.createdAt
  endsAt := none
  graceEndsAt := none

def grantCourse (draw : AccessDraw) (reward : TmiReward) (r : TmiRedemption) : TmiTxn Unit :=
  if reward.kind = .courseAccess then do
    let courseId ← courseIdFromMetadata reward.inventoryMetadata
    let _ ← onCommerce (ensureGrant draw (grantOfRedemption r courseId))
  else pure ()

def incrementRedeemed (id : Uuid) (rewards : List TmiReward) : List TmiReward :=
  updateWhere (fun r => r.id = id) (fun r => { r with redeemedCount := r.redeemedCount + 1 }) rewards

def redeem (draw : RedemptionDraw) (now : Instant) (userId rewardId : Uuid) (idempotencyKey : String) :
    TmiTxn TmiRedemptionResponse := do
  lockUser userId
  let db ← get
  match redemptionOf db userId idempotencyKey with
  | some existing =>
      require (existing.rewardId = rewardId) (.conflict "Idempotency key was already used for another reward")
      return { redemption := existing, idempotent := true }
  | none =>
      let reward ← lockReward rewardId
      assertRewardRedeemable now reward
      require (reward.cost ≤ currentBalance db userId) (.badRequest "Insufficient TMI balance")
      let redemption := redemptionRow draw now userId reward idempotencyKey
      createRedemption redemption
      createEntitlement (entitlementRow draw userId reward)
      grantCourse draw.access reward redemption
      createLedgerEntry (redeemEntry draw redemption)
      modify (fun db => { db with rewards := incrementRedeemed rewardId db.rewards })
      return { redemption, idempotent := false }

structure TmiRefundResponse where
  redemptionId : Uuid
  amount : Int
  idempotent : Bool
deriving DecidableEq, Repr

def ledgerEntryOf (db : TmiDb) (userId : Uuid) (kind : TmiLedgerKind) (sourceType sourceId : String) : Option TmiLedgerEntry :=
  db.ledger.find? (fun e => e.userId = userId ∧ e.kind = kind ∧ e.sourceType = sourceType ∧ e.sourceId = sourceId)

def refundEntry (ledgerId actorId : Uuid) (r : TmiRedemption) : TmiLedgerEntry where
  id := ledgerId
  userId := r.userId
  redemptionId := some r.id
  kind := .refund
  amount := r.cost
  adjustmentDirection := none
  sourceType := "tmi_redemption"
  sourceId := r.id
  actorId := actorId

def isSpace (c : Char) : Bool :=
  (9 ≤ c.toNat ∧ c.toNat ≤ 13) ∨ (8192 ≤ c.toNat ∧ c.toNat ≤ 8202) ∨
    c.toNat ∈ [32, 160, 5760, 8232, 8233, 8239, 8287, 12288, 65279]

def trim (text : String) : String :=
  String.ofList ((text.toList.dropWhile isSpace).reverse.dropWhile isSpace).reverse

-- input.reason?.trim() || 'TMI_REWARD_REFUNDED'
def refundReason (reason : Option String) : String :=
  match reason with
  | none => "TMI_REWARD_REFUNDED"
  | some text => if trim text = "" then "TMI_REWARD_REFUNDED" else trim text

def revokeCourse (e : TmiEntitlement) (r : TmiRedemption) (reason : Option String) : TmiTxn Unit :=
  if e.kind = .courseAccess then do
    let courseId ← courseIdFromMetadata e.benefitMetadata
    onCommerce (revokeGrant r.userId courseId .tmiReward r.id (refundReason reason))
  else pure ()

def refund (ledgerId actorId redemptionId : Uuid) (reason : Option String) : TmiTxn TmiRefundResponse := do
  let db ← get
  let redemption ← orThrow (db.redemptions.find? (fun r => r.id = redemptionId)) (.notFound "TMI redemption not found")
  lockUser redemption.userId
  match ledgerEntryOf db redemption.userId .refund "tmi_redemption" redemptionId with
  | some _ => return { redemptionId, amount := redemption.cost, idempotent := true }
  | none =>
      createLedgerEntry (refundEntry ledgerId actorId redemption)
      let entitlement ← orThrow (db.entitlements.find? (fun e => e.redemptionId = redemptionId)) (.missingRow "tmi_entitlements")
      modify (fun db => { db with
        entitlements := updateWhere (fun e => e.redemptionId = redemptionId) (fun e => { e with status := .revoked }) db.entitlements })
      revokeCourse entitlement redemption reason
      return { redemptionId, amount := redemption.cost, idempotent := false }

structure AdjustTmiBalanceDto where
  userId : Uuid
  amount : Int
  direction : TmiAdjustmentDirection
  adjustmentKey : String
deriving DecidableEq, Repr

structure TmiBalanceAdjustmentResponse where
  userId : Uuid
  amount : Int
  direction : TmiAdjustmentDirection
  balance : Int
  idempotent : Bool
deriving DecidableEq, Repr

-- @Min(1) @Max(2147483647)
def validateAdjustment (input : AdjustTmiBalanceDto) : TmiTxn Unit := do
  require (1 ≤ input.amount) (.badRequest "amount must not be less than 1")
  require (input.amount ≤ 2147483647) (.badRequest "amount must not be greater than 2147483647")

def adjustmentEntry (ledgerId actorId : Uuid) (input : AdjustTmiBalanceDto) : TmiLedgerEntry where
  id := ledgerId
  userId := input.userId
  redemptionId := none
  kind := .adjustment
  amount := input.amount
  adjustmentDirection := some input.direction
  sourceType := "tmi_adjustment"
  sourceId := input.adjustmentKey
  actorId := actorId

def adjustBalance (ledgerId actorId : Uuid) (input : AdjustTmiBalanceDto) : TmiTxn TmiBalanceAdjustmentResponse := do
  lockUser input.userId
  let db ← get
  let balance := currentBalance db input.userId
  match ledgerEntryOf db input.userId .adjustment "tmi_adjustment" input.adjustmentKey with
  | some _ =>
      return { userId := input.userId, amount := input.amount, direction := input.direction, balance, idempotent := true }
  | none =>
      require (input.direction = .debit → input.amount ≤ balance)
        (.badRequest "TMI adjustment cannot create a negative balance")
      createLedgerEntry (adjustmentEntry ledgerId actorId input)
      return {
        userId := input.userId
        amount := input.amount
        direction := input.direction
        balance := if input.direction = .credit then balance + input.amount else balance - input.amount
        idempotent := false }

inductive TmiCall where
  | redeem (draw : RedemptionDraw) (userId rewardId : Uuid) (idempotencyKey : String)
  | refund (ledgerId actorId redemptionId : Uuid) (reason : Option String)
  | adjustBalance (ledgerId actorId : Uuid) (input : AdjustTmiBalanceDto)

structure TmiRequest where
  now : Instant
  call : TmiCall

inductive TmiResponse where
  | redeemed (response : TmiRedemptionResponse)
  | refunded (response : TmiRefundResponse)
  | adjusted (response : TmiBalanceAdjustmentResponse)
deriving DecidableEq, Repr

def tmiCall (r : TmiRequest) : TmiTxn TmiResponse :=
  match r.call with
  | .redeem draw userId rewardId idempotencyKey => .redeemed <$> redeem draw r.now userId rewardId idempotencyKey
  | .refund ledgerId actorId redemptionId reason => .refunded <$> refund ledgerId actorId redemptionId reason
  | .adjustBalance ledgerId actorId input => do
      validateAdjustment input
      .adjusted <$> adjustBalance ledgerId actorId input

def tmiStep (db : TmiDb) (r : TmiRequest) : TmiDb :=
  commit (tmiCall r) db

end EduAi.Tmi
