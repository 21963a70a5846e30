import EduAi.Commerce.Checkout
import EduAi.Commerce.Keys

set_option autoImplicit false

namespace EduAi.Commerce

open EduAi.Store EduAi.Gds EduAi.Payments

section Discounts

variable (v : Voucher)

theorem rawDiscount_nonneg (valid : isValidPolicy v = true) (amountMinor : Int) (positive : 0 ≤ amountMinor) :
    0 ≤ rawDiscount v amountMinor := by
  obtain ⟨_, _, _, value, _⟩ := of_decide_eq_true valid
  unfold rawDiscount
  split
  case isTrue percentage =>
    rw [if_pos percentage] at value
    have product : 0 ≤ amountMinor * v.value := Int.mul_nonneg positive (by omega)
    exact Int.ediv_nonneg product (by decide)
  case isFalse fixed =>
    rw [if_neg fixed] at value
    omega

theorem cappedDiscount_bounds (valid : isValidPolicy v = true) (amountMinor : Int) (positive : 0 ≤ amountMinor) :
    0 ≤ cappedDiscount v amountMinor ∧ cappedDiscount v amountMinor ≤ amountMinor := by
  have raw := rawDiscount_nonneg v valid amountMinor positive
  obtain ⟨_, _, _, _, limits⟩ := of_decide_eq_true valid
  unfold cappedDiscount
  split
  case h_1 none => omega
  case h_2 maximum named =>
    have bound := limits v.maximumDiscountMinor (by simp) maximum named
    omega

theorem eligible_valid (redeemedCount userRedemptionCount : Nat) (context : VoucherEligibilityContext)
    (eligible : decisionReason v redeemedCount userRedemptionCount context = .eligible) : isValidPolicy v = true := by
  have passed := decisionReason_eligible v _ _ context eligible (_, .invalidVoucherPolicy)
    (List.mem_cons_of_mem _ (List.mem_cons_of_mem _ (List.mem_cons_of_mem _ (List.mem_cons_of_mem _ List.mem_cons_self))))
  simpa using passed

theorem eligible_active (redeemedCount userRedemptionCount : Nat) (context : VoucherEligibilityContext)
    (eligible : decisionReason v redeemedCount userRedemptionCount context = .eligible) :
    v.status = .active ∧ v.currency.toUpper = context.currency.toUpper ∧ v.startsAt ≤ context.now ∧ context.now < v.endsAt := by
  have passed := decisionReason_eligible v _ _ context eligible
  simp only [voucherChecks, List.forall_mem_cons, decide_eq_false_iff_not] at passed
  obtain ⟨_, _, status, _, _, currency, started, ended, _⟩ := passed
  exact ⟨by simpa using status, by simpa using currency, not_lt.mp started, not_le.mp ended⟩

end Discounts

structure WithinLimits (db : CommerceDb) (now : Instant) (userId : Uuid) (v : Voucher) : Prop where
  usage : ∀ limit, v.usageLimit = some limit → (redemptionCount db v.id + reservationCount db now v.id : Int) < limit
  perUser : ∀ limit, v.perUserLimit = some limit →
    (userRedemptionCount db v.id userId + userReservationCount db now v.id userId : Int) < limit

structure Priced (db : CommerceDb) (now : Instant) (learnerId : Uuid) (l : PricedLine) : Prop where
  price : 0 < l.listPrice
  discount : 0 ≤ l.discount ∧ l.discount ≤ l.listPrice
  unapplied : l.voucherId = none → l.discount = 0
  applied : ∀ id, l.voucherId = some id → ∃ v ∈ db.vouchers, v.id = id ∧ v.status = .active ∧
    v.currency.toUpper = "VND".toUpper ∧ v.startsAt ≤ now ∧ now < v.endsAt ∧ WithinLimits db now learnerId v

section Reading

variable (db : CommerceDb) (now : Instant) (request : CheckoutRequest) (cart : CommerceCart)

theorem applyVoucher_reads (c : Course) (price : Int) (currency : String) (positive : 0 < price) :
    Wlp (applyVoucher now request c price currency) (fun decision t => t = db ∧
      (decision.map (fun d => d.discountAmountMinor)).getD 0 ≤ price ∧ 0 ≤ (decision.map (fun d => d.discountAmountMinor)).getD 0 ∧
      ∀ d, decision = some d → ∃ v ∈ db.vouchers, v.id = d.voucherId ∧ v.status = .active ∧
        v.currency.toUpper = currency.toUpper ∧ v.startsAt ≤ now ∧ now < v.endsAt ∧
        WithinLimits db now request.learnerId v) db := by
  unfold applyVoucher
  split
  · rw [wlp_pure]
    exact ⟨rfl, by simp; omega, by simp, fun d none => by cases none⟩
  · simp only [evaluateForCommerce, wlp_bind, wlp_get, wlp_orThrow, wlp_require, wlp_pure]
    intro v found eligible
    obtain ⟨limits, perUser⟩ := evaluate_eligible db now v _ _ _ _ _ _ eligible
    have reason := of_decide_eq_true eligible
    have valid := eligible_valid v _ _ _ reason
    obtain ⟨active, sameCurrency, started, ended⟩ := eligible_active v _ _ _ reason
    have bounds := cappedDiscount_bounds v valid price (by omega)
    have amount : (evaluate db now v request.learnerId _ c.id c.categorySlug price currency).discountAmountMinor =
        cappedDiscount v price := if_pos reason
    refine ⟨trivial, ?_, ?_, ?_⟩
    · simp only [Option.map_some, Option.getD_some, amount]
      exact bounds.2
    · simp only [Option.map_some, Option.getD_some, amount]
      exact bounds.1
    · rintro d ⟨⟩
      exact ⟨v, (find_some _ db.vouchers v found).1, rfl, active, sameCurrency, started, ended, limits, perUser⟩

theorem priceLine_reads (l : CommerceCartLine) : Wlp (priceLine now request cart l)
    (fun priced t => t = db ∧ priced.id = l.id ∧ Priced db now request.learnerId priced) db := by
  simp only [priceLine, wlp_bind, wlp_get, wlp_orThrow, wlp_require, wlp_pure]
  rintro p _ c _ _ price _ ⟨positive, _⟩ _
  refine wlp_mono _ db (applyVoucher_reads db now request c price "VND" positive) ?_
  rintro decision t ⟨same, upper, lower, applied⟩
  refine ⟨same, rfl, positive, ⟨lower, upper⟩, ?_, ?_⟩
  · intro none
    cases decision with
    | none => rfl
    | some d => cases none
  · intro id named
    cases decision with
    | none => cases named
    | some d =>
      cases named
      exact applied d rfl

theorem priceLines_reads (lines : List CommerceCartLine) : Wlp (priceLines now request cart lines)
    (fun priced t => t = db ∧ priced.map (fun l => l.id) = lines.map (fun l => l.id) ∧
      ∀ l ∈ priced, Priced db now request.learnerId l) db := by
  induction lines with
  | nil =>
    unfold priceLines
    rw [wlp_pure]
    exact ⟨rfl, rfl, fun _ member => by cases member⟩
  | cons l rest ih =>
    simp only [priceLines, wlp_bind]
    refine wlp_mono _ db (priceLine_reads db now request cart l) ?_
    rintro head t ⟨rfl, sameId, priced⟩
    refine wlp_mono _ _ ih ?_
    rintro others t ⟨rfl, ids, each⟩
    rw [wlp_pure]
    refine ⟨rfl, by simp [sameId, ids], ?_⟩
    intro x member
    rcases List.mem_cons.mp member with rfl | later
    · exact priced
    · exact each x later

end Reading

end EduAi.Commerce
