import EduAi.Memberships.Pricing

set_option autoImplicit false

namespace EduAi.Memberships

open EduAi.Store EduAi.Gds EduAi.Commerce EduAi.Payments

section Admission

structure AdmittedDuration (d : NormalizedDuration) : Prop where
  months : 1 ≤ d.months ∧ d.months ≤ 120
  single : d.priceAmountMinor.isSome ≠ d.discountPercent.isSome
  price : ∀ price ∈ d.priceAmountMinor, 0 ≤ price ∧ price ≤ postgresBigintMax
  discount : ∀ discount ∈ d.discountPercent, 0 ≤ discount ∧ discount ≤ 100

theorem parseAmountMinor_range (text : String) (amount : Int) (parsed : parseAmountMinor text = .ok amount) :
    0 ≤ amount ∧ amount ≤ postgresBigintMax := by
  unfold parseAmountMinor at parsed
  obtain ⟨fits, ok⟩ := (answered_refused _ _ _ _).mp parsed
  obtain rfl := Except.ok.inj ok
  exact ⟨Int.natCast_nonneg _, not_lt.mp fits⟩

theorem parsedPrice_range (text : Option String) (parsed : Option Int) (ok : parsedPrice text = .ok parsed) :
    ∀ price ∈ parsed, 0 ≤ price ∧ price ≤ postgresBigintMax := by
  intro price member
  obtain rfl := member
  cases text with
  | none => cases ok
  | some text =>
      have mapped : (parseAmountMinor text).map some = .ok (some price) := ok
      cases amount : parseAmountMinor text with
      | error e =>
          rw [amount] at mapped
          cases mapped
      | ok value =>
          rw [amount] at mapped
          cases mapped
          exact parseAmountMinor_range text price amount

theorem calculateDurationPrice_ok (input : MembershipDurationPricing) (amount : Int) :
    calculateDurationPrice input = .ok amount ↔
      0 ≤ input.baseMonthlyPriceAmountMinor ∧ 0 < input.months ∧
        input.priceAmountMinor.isSome ≠ input.discountPercent.isSome ∧ durationPrice input = .ok amount := by
  unfold calculateDurationPrice
  rw [answered_refused, answered_refused, answered_refused, not_lt, not_le]

theorem normalizeDuration_admits (input : MembershipDurationInputDto) (d : NormalizedDuration) (valid : input.valid = true)
    (normalized : normalizeDuration input = .ok d) : AdmittedDuration d := by
  unfold normalizeDuration at normalized
  obtain ⟨price, parsed, normalized⟩ := (answered_bind _ _ _).mp normalized
  obtain ⟨amount, priced, normalized⟩ := (answered_bind _ _ _).mp normalized
  obtain rfl := (answered_pure _ _).mp normalized
  obtain ⟨_, _, single, _⟩ := (calculateDurationPrice_ok _ _).mp priced
  unfold MembershipDurationInputDto.valid at valid
  obtain ⟨least, most, _, percent, _⟩ := of_decide_eq_true valid
  exact {
    months := ⟨least, most⟩
    single := single
    price := parsedPrice_range _ price parsed
    discount := percent }

structure AdmittedVersion (n : NormalizedVersion) : Prop where
  base : 0 ≤ n.baseMonthlyPriceAmountMinor ∧ n.baseMonthlyPriceAmountMinor ≤ postgresBigintMax
  currency : n.currency = "VND"
  durations : ∀ d ∈ n.durations, AdmittedDuration d

theorem admitVersion_admits (input : CreateMembershipPlanVersionDto) (n : NormalizedVersion) (admitted : admitVersion input = .ok n) :
    AdmittedVersion n := by
  unfold admitVersion normalizeVersion at admitted
  obtain ⟨_, valid, admitted⟩ := (answered_bind _ _ _).mp admitted
  obtain ⟨_, _, admitted⟩ := (answered_bind _ _ _).mp admitted
  obtain ⟨durations, mapped, admitted⟩ := (answered_bind _ _ _).mp admitted
  obtain ⟨_, _, admitted⟩ := (answered_bind _ _ _).mp admitted
  obtain ⟨base, parsed, admitted⟩ := (answered_bind _ _ _).mp admitted
  obtain rfl := (answered_pure _ _).mp admitted
  have checked := (answered_ensure _ _ _).mp valid
  unfold CreateMembershipPlanVersionDto.valid at checked
  obtain ⟨_, _, _, _, _, _, each⟩ := of_decide_eq_true checked
  refine { base := parseAmountMinor_range _ base parsed, currency := rfl, durations := ?_ }
  intro d member
  have stored : d ∈ durations := (List.perm_insertionSort _ durations).mem_iff.mp member
  obtain ⟨input', given, normalized⟩ := answered_mapM normalizeDuration input.durations durations mapped d stored
  exact normalizeDuration_admits input' d (each input' given) normalized

end Admission

section Amounts

variable (version : MembershipPlanVersion) (duration : MembershipDurationOption)
variable (base : 0 ≤ version.baseMonthlyPriceAmountMinor) (admitted : AdmittedDuration duration.toNormalizedDuration)

def FitsBigint : Prop :=
  ∀ discount ∈ duration.discountPercent,
    version.baseMonthlyPriceAmountMinor * duration.months * (100 - discount) ≤ postgresBigintMax

instance : Decidable (FitsBigint version duration) := by
  unfold FitsBigint
  infer_instance

theorem percent_within (amount percent : Int) (nonneg : 0 ≤ amount) (least : 0 ≤ percent) (most : percent ≤ 100) :
    0 ≤ (amount * percent).tdiv 100 ∧ (amount * percent).tdiv 100 ≤ amount := by
  have product : 0 ≤ amount * percent := mul_nonneg nonneg least
  have whole : amount * percent ≤ amount * 100 := mul_le_mul_of_nonneg_left most nonneg
  rw [Int.tdiv_eq_ediv_of_nonneg product]
  omega

include base admitted in
theorem duration_priced : ∃ amount, calculateDurationPrice (pricing version duration) = .ok amount ∧
    0 ≤ amount ∧ amount ≤ listAmount version duration amount := by
  have months : 0 < duration.months := by
    have := admitted.months
    omega
  have gross : 0 ≤ version.baseMonthlyPriceAmountMinor * duration.months := mul_nonneg base months.le
  cases fixed : duration.priceAmountMinor with
  | some price =>
      cases discount : duration.discountPercent with
      | some k =>
          have := admitted.single
          simp [fixed, discount] at this
      | none =>
          have range := (admitted.price price fixed).1
          refine ⟨price, (calculateDurationPrice_ok _ _).mpr ⟨base, months, admitted.single, ?_⟩, range, ?_⟩
          · unfold durationPrice
            simp only [pricing, fixed]
            exact if_neg (not_lt.mpr range)
          · unfold listAmount
            rw [if_pos discount]
  | none =>
      cases discount : duration.discountPercent with
      | none =>
          have := admitted.single
          simp [fixed, discount] at this
      | some k =>
          obtain ⟨least, most⟩ := admitted.discount k discount
          obtain ⟨nonneg, within⟩ := percent_within _ (100 - k) gross (by omega) (by omega)
          refine ⟨_, (calculateDurationPrice_ok _ _).mpr ⟨base, months, admitted.single, ?_⟩, nonneg, ?_⟩
          · unfold durationPrice
            simp only [pricing, fixed, discount, Option.getD_some]
            exact if_neg (by omega)
          · unfold listAmount
            rw [if_neg (by simp [discount])]
            exact within

theorem wp_bigint (value : Int) (nonneg : 0 ≤ value) (Q : Int → MembershipDb → Prop) (db : MembershipDb) :
    Wp (bigint value) Q db ↔ value ≤ postgresBigintMax ∧ Q value db := by
  unfold bigint
  rw [wp_bind, wp_require, wp_pure]
  have low : -postgresBigintMax - 1 ≤ value := by
    unfold postgresBigintMax
    omega
  constructor
  · rintro ⟨⟨_, fits⟩, held⟩
    exact ⟨fits, held⟩
  · rintro ⟨fits, held⟩
    exact ⟨⟨low, fits⟩, held⟩

include base admitted in
theorem recomputed_agrees (amount : Int) (priced : calculateDurationPrice (pricing version duration) = .ok amount)
    (listed : listAmount version duration amount ≤ postgresBigintMax) (Q : Int × Int → MembershipDb → Prop) (db : MembershipDb) :
    Wp (recomputed version duration) Q db ↔ FitsBigint version duration ∧ Q (listAmount version duration amount, amount) db := by
  obtain ⟨_, _, _, price⟩ := (calculateDurationPrice_ok _ _).mp priced
  have months : 0 ≤ duration.months := by
    have := admitted.months
    omega
  have gross : 0 ≤ version.baseMonthlyPriceAmountMinor * duration.months := mul_nonneg base months
  unfold recomputed membershipFinalPrice membershipListPrice FitsBigint
  unfold durationPrice at price
  cases fixed : duration.priceAmountMinor with
  | some p =>
      have nodiscount : duration.discountPercent = none := by
        have := admitted.single
        rw [fixed] at this
        simpa using this
      simp only [pricing, fixed] at price
      obtain ⟨_, paid⟩ := (answered_refused _ _ _ _).mp price
      obtain rfl := Except.ok.inj paid
      simp [nodiscount, listAmount]
  | none =>
      cases discount : duration.discountPercent with
      | none =>
          have := admitted.single
          simp [fixed, discount] at this
      | some k =>
          obtain ⟨least, most⟩ := admitted.discount k discount
          simp only [pricing, fixed, discount, Option.getD_some] at price
          obtain ⟨_, paid⟩ := (answered_refused _ _ _ _).mp price
          obtain rfl := Except.ok.inj paid
          have whole : listAmount version duration ((version.baseMonthlyPriceAmountMinor * duration.months * (100 - k)).tdiv 100) =
              version.baseMonthlyPriceAmountMinor * duration.months := if_neg (by simp [discount])
          rw [whole] at listed ⊢
          simp only [Option.getD_some]
          rw [wp_bind, wp_bind, wp_bigint _ gross, wp_bind, wp_bigint _ (mul_nonneg gross (by omega)), wp_pure, wp_bind,
            wp_bigint _ gross, wp_pure]
          constructor
          · rintro ⟨_, fits, _, held⟩
            refine ⟨?_, held⟩
            intro k' member
            obtain rfl := Option.some.inj member
            exact fits
          · rintro ⟨fits, held⟩
            exact ⟨listed, fits k rfl, listed, held⟩

end Amounts

end EduAi.Memberships
