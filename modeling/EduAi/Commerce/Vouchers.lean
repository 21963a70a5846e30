import EduAi.Commerce.Orders
import EduAi.Store.Trim

set_option autoImplicit false

namespace EduAi.Commerce

open EduAi.Store EduAi.Gds

inductive VoucherDecisionReason where
  | eligible | codeInvalid | voucherDisabled | voucherNotStarted | voucherExpired | invalidVoucherPolicy
  | invalidCoursePrice | currencyMismatch | minimumCoursePriceNotMet | usageLimitReached | perUserLimitReached
  | userNotEligible | courseScopeNotEligible
deriving DecidableEq, Repr

def VoucherDecisionReason.text : VoucherDecisionReason → String
  | .eligible => "eligible"
  | .codeInvalid => "code_invalid"
  | .voucherDisabled => "voucher_disabled"
  | .voucherNotStarted => "voucher_not_started"
  | .voucherExpired => "voucher_expired"
  | .invalidVoucherPolicy => "invalid_voucher_policy"
  | .invalidCoursePrice => "invalid_course_price"
  | .currencyMismatch => "currency_mismatch"
  | .minimumCoursePriceNotMet => "minimum_course_price_not_met"
  | .usageLimitReached => "usage_limit_reached"
  | .perUserLimitReached => "per_user_limit_reached"
  | .userNotEligible => "user_not_eligible"
  | .courseScopeNotEligible => "course_scope_not_eligible"

structure VoucherEligibilityContext where
  now : Instant
  submittedCode : String
  userId : Uuid
  courseId : Uuid
  categorySlug : Option String
  amountMinor : Int
  currency : String
deriving DecidableEq, Repr

structure VoucherDecision where
  reason : VoucherDecisionReason
  discountAmountMinor : Int
  finalAmountMinor : Int
deriving DecidableEq, Repr

def VoucherDecision.eligible (d : VoucherDecision) : Bool :=
  d.reason = .eligible

def normalizeCode (code : String) : String :=
  (jsTrim code).toUpper

def isCurrencyCode (text : String) : Bool :=
  text.toList.length = 3 ∧ text.toList.all (fun c => ('A' ≤ c && c ≤ 'Z') || ('a' ≤ c && c ≤ 'z'))

def isVoucherCode (text : String) : Bool :=
  3 ≤ text.toList.length && text.toList.length ≤ 64 &&
    text.toList.all (fun c => ('A' ≤ c && c ≤ 'Z') || ('a' ≤ c && c ≤ 'z') || ('0' ≤ c && c ≤ '9') || c == '_' || c == '-')

def isValidPolicy (v : Voucher) : Bool :=
  isVoucherCode (jsTrim v.code) ∧ isCurrencyCode v.currency ∧ v.startsAt ≤ v.endsAt ∧
    (if v.kind = .percentage then 1 ≤ v.value ∧ v.value ≤ 100 else 0 < v.value) ∧
    (∀ limit ∈ [v.minimumCoursePriceMinor, v.maximumDiscountMinor, v.usageLimit, v.perUserLimit],
      ∀ value, limit = some value → 0 ≤ value)

def scopeAdmits (v : Voucher) (context : VoucherEligibilityContext) : Bool :=
  (v.courseIds = [] ∧ v.categorySlugs = []) ∨ context.courseId ∈ v.courseIds ∨
    context.categorySlug.any (fun slug => slug ≠ "" ∧ slug ∈ v.categorySlugs)

-- The checks in their order, each with the reason it refuses for. The counts are natural numbers, so their own checks
-- always pass.
def voucherChecks (v : Voucher) (redeemedCount userRedemptionCount : Nat) (context : VoucherEligibilityContext) :
    List (Bool × VoucherDecisionReason) :=
  [(normalizeCode context.submittedCode ≠ normalizeCode v.code, .codeInvalid),
    (v.status = .disabled, .voucherDisabled),
    (v.status ≠ .active, .invalidVoucherPolicy),
    (¬ (0 ≤ context.amountMinor ∧ isCurrencyCode context.currency), .invalidCoursePrice),
    (¬ isValidPolicy v, .invalidVoucherPolicy),
    (v.currency.toUpper ≠ context.currency.toUpper, .currencyMismatch),
    (context.now < v.startsAt, .voucherNotStarted),
    (v.endsAt ≤ context.now, .voucherExpired),
    (∃ minimum ∈ v.minimumCoursePriceMinor, context.amountMinor < minimum, .minimumCoursePriceNotMet),
    (∃ limit ∈ v.usageLimit, limit ≤ (redeemedCount : Int), .usageLimitReached),
    (∃ limit ∈ v.perUserLimit, limit ≤ (userRedemptionCount : Int), .perUserLimitReached),
    (v.eligibleUserIds ≠ [] ∧ context.userId ∉ v.eligibleUserIds, .userNotEligible),
    (¬ scopeAdmits v context, .courseScopeNotEligible)]

def decisionReason (v : Voucher) (redeemedCount userRedemptionCount : Nat) (context : VoucherEligibilityContext) :
    VoucherDecisionReason :=
  (((voucherChecks v redeemedCount userRedemptionCount context).find? (fun check => check.1)).map
    (fun check => check.2)).getD .eligible

def rawDiscount (v : Voucher) (amountMinor : Int) : Int :=
  if v.kind = .percentage then amountMinor * v.value / 100 else v.value

def cappedDiscount (v : Voucher) (amountMinor : Int) : Int :=
  min amountMinor (match v.maximumDiscountMinor with
    | none => rawDiscount v amountMinor
    | some maximum => min (rawDiscount v amountMinor) maximum)

def evaluateVoucherEligibility (v : Voucher) (redeemedCount userRedemptionCount : Nat) (context : VoucherEligibilityContext) :
    VoucherDecision :=
  let reason := decisionReason v redeemedCount userRedemptionCount context
  let discount := if reason = .eligible then cappedDiscount v context.amountMinor else 0
  { reason, discountAmountMinor := discount, finalAmountMinor := context.amountMinor - discount }

def redemptionCount (db : CommerceDb) (voucherId : Uuid) : Nat :=
  db.redemptions.countP (fun r => r.voucherId = voucherId)

def userRedemptionCount (db : CommerceDb) (voucherId userId : Uuid) : Nat :=
  db.redemptions.countP (fun r => r.voucherId = voucherId ∧ r.userId = userId)

def holdsUse (now : Instant) (voucherId : Uuid) (r : CommercePromotionReservation) : Bool :=
  r.voucherId = some voucherId ∧ r.status = .reserved ∧ now < r.expiresAt

def reservationCount (db : CommerceDb) (now : Instant) (voucherId : Uuid) : Nat :=
  db.reservations.countP (holdsUse now voucherId)

def userReservationCount (db : CommerceDb) (now : Instant) (voucherId userId : Uuid) : Nat :=
  db.reservations.countP (fun r => holdsUse now voucherId r ∧ r.buyerId = userId)

def evaluate (db : CommerceDb) (now : Instant) (v : Voucher) (userId code : String) (courseId : Uuid)
    (categorySlug : Option String) (amountMinor : Int) (currency : String) : VoucherDecision :=
  evaluateVoucherEligibility v (redemptionCount db v.id + reservationCount db now v.id)
    (userRedemptionCount db v.id userId + userReservationCount db now v.id userId)
    { now, submittedCode := code, userId, courseId, categorySlug, amountMinor, currency }

def voucherByCode (db : CommerceDb) (code : String) : Option Voucher :=
  db.vouchers.find? (fun v => v.code = normalizeCode code)

structure CommerceVoucherDecision where
  voucherId : Uuid
  discountAmountMinor : Int
deriving DecidableEq, Repr

def evaluateForCommerce (now : Instant) (userId : Uuid) (c : Course) (code : String) (amountMinor : Int) (currency : String) :
    CommerceTxn CommerceVoucherDecision := do
  let db ← get
  let v ← orThrow (voucherByCode db code) (.badRequest "code_invalid")
  let decision := evaluate db now v userId code c.id c.categorySlug amountMinor currency
  require decision.eligible (.badRequest decision.reason.text)
  pure { voucherId := v.id, discountAmountMinor := decision.discountAmountMinor }

def purchasableCourse (db : CommerceDb) (courseId : Uuid) : Option Course :=
  (courseById db courseId).filter (fun c => c.status = .published ∧ c.isPublic ∧ c.moderationClear ∧ ¬ c.deleted)

structure RedeemRequest where
  userId : Uuid
  courseId : Uuid
  code : String
  redemptionKey : String
deriving DecidableEq, Repr

def directRedemption (request : RedeemRequest) (v : Voucher) (decision : VoucherDecision) (amountMinor : Int)
    (currency : String) : VoucherRedemption where
  voucherId := v.id
  userId := request.userId
  courseId := request.courseId
  redemptionKey := request.redemptionKey
  originalAmountMinor := amountMinor
  discountAmountMinor := decision.discountAmountMinor
  finalAmountMinor := decision.finalAmountMinor
  currency := currency

def redeemFresh (now : Instant) (request : RedeemRequest) (v : Voucher) : CommerceTxn VoucherRedemption := do
  let db ← get
  let c ← orThrow (purchasableCourse db request.courseId) (.notFound "Published course not found")
  let decision := evaluate db now v request.userId request.code c.id c.categorySlug (c.priceAmountMinor.getD (-1))
    (c.priceCurrency.getD "")
  require decision.eligible (.badRequest decision.reason.text)
  let row := directRedemption request v decision (c.priceAmountMinor.getD (-1)) (c.priceCurrency.getD "")
  insertRedemption row
  incrementRedeemed v.id
  pure row

def redeem (now : Instant) (request : RedeemRequest) : CommerceTxn (VoucherRedemption × Bool) := do
  let db ← get
  let v ← orThrow (voucherByCode db request.code) (.badRequest "code_invalid")
  match db.redemptions.find? (fun r => r.voucherId = v.id ∧ r.userId = request.userId ∧
      r.redemptionKey = request.redemptionKey) with
  | some existing =>
      require (existing.courseId = request.courseId) (.conflict "Redemption key was already used for another course")
      pure (existing, true)
  | none =>
      let row ← redeemFresh now request v
      pure (row, false)

theorem decisionReason_eligible (v : Voucher) (redeemedCount userRedemptionCount : Nat) (context : VoucherEligibilityContext)
    (eligible : decisionReason v redeemedCount userRedemptionCount context = .eligible) :
    ∀ check ∈ voucherChecks v redeemedCount userRedemptionCount context, check.1 = false := by
  have named : ∀ check ∈ voucherChecks v redeemedCount userRedemptionCount context, check.2 ≠ .eligible := by
    simp [voucherChecks]
  unfold decisionReason at eligible
  cases found : (voucherChecks v redeemedCount userRedemptionCount context).find? (fun check => check.1) with
  | none =>
    intro check member
    exact Bool.eq_false_iff.mpr (List.find?_eq_none.mp found check member)
  | some check =>
    rw [found] at eligible
    exact absurd eligible (named check (List.mem_of_find?_eq_some found))

theorem evaluate_eligible (db : CommerceDb) (now : Instant) (v : Voucher) (userId code : String) (courseId : Uuid)
    (categorySlug : Option String) (amountMinor : Int) (currency : String)
    (eligible : (evaluate db now v userId code courseId categorySlug amountMinor currency).eligible = true) :
    (∀ limit, v.usageLimit = some limit → (redemptionCount db v.id + reservationCount db now v.id : Int) < limit) ∧
      ∀ limit, v.perUserLimit = some limit →
        (userRedemptionCount db v.id userId + userReservationCount db now v.id userId : Int) < limit := by
  have passed := decisionReason_eligible v _ _ _ (of_decide_eq_true eligible)
  constructor
  · intro limit named
    by_contra reached
    have check := passed (_, .usageLimitReached) (by simp [voucherChecks]; rfl)
    have refused := of_decide_eq_false check
    exact refused ⟨limit, named, by omega⟩
  · intro limit named
    by_contra reached
    have check := passed (_, .perUserLimitReached) (by simp [voucherChecks]; rfl)
    have refused := of_decide_eq_false check
    exact refused ⟨limit, named, by omega⟩

end EduAi.Commerce
