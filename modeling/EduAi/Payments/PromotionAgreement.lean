import EduAi.Payments.DualControl
import EduAi.Payments.PromotionEffects
import EduAi.Payments.VoucherLimits
import EduAi.Payments.WalletPayment

set_option autoImplicit false

namespace EduAi.Payments

open EduAi.Store EduAi.Gds EduAi.Commerce

inductive ConfirmingPath where
  | webhook (draw : WebhookDraw) (v : VerifiedPaymentWebhook)
  | bankTransfer (draw : BankDraw) (key : OperationKey) (evidenceId : Uuid) (input : BankApproval)
  | wallet (draw : CheckoutDraw) (buyerId orderId : Uuid)
  | zeroPayable (draw : OrderDraw) (request : CheckoutRequest) (owned : Uuid → Bool)

def ConfirmingPath.input : ConfirmingPath → Input
  | .webhook draw v => .deliver draw v
  | .bankTransfer draw key evidenceId input => .approveBank draw key evidenceId input
  | .wallet draw buyerId orderId => .payWallet draw buyerId orderId
  | .zeroPayable draw request owned => .createOrder draw request owned

-- A bank approval redeems no voucher, and the wallet leaves every reservation as it is.
def ConfirmingPath.carries (db : CommerceDb) (orderId : Uuid) : ConfirmingPath → Bool
  | .webhook _ _ => true
  | .bankTransfer _ _ _ _ => (reservationsOf db orderId).all (fun r => r.voucherId = none)
  | .wallet _ _ _ => (reservationsOf db orderId).isEmpty
  | .zeroPayable _ _ _ => true

-- The statements of the path ran and confirmed the order; the deferred checks are still to come.
structure Confirming (deployment : Deployment) (s : System) (path : ConfirmingPath) (orderId : Uuid) (t : CommerceDb) : Prop where
  ran : body deployment s path.input s.db = .ok ((), t)
  awaiting : ∀ o ∈ s.db.orders, o.id = orderId → o.status = .pendingPayment
  confirmed : ∃ o ∈ t.orders, o.id = orderId ∧ o.status = .confirmed

section Paths

variable (deployment : Deployment) (s : System) (whole : Whole s.db) (held : PromotionsHeld s.db) (orderId : Uuid) (t : CommerceDb)

include whole held in
theorem webhook_consumed (draw : WebhookDraw) (v : VerifiedPaymentWebhook)
    (done : Confirming deployment s (.webhook draw v) orderId t) : Consumes draw.operationId (reservationsOf s.db orderId) s.db t := by
  have consumed : Wlp (body deployment s (.deliver draw v)) (fun _ t => (∃ o ∈ t.orders, o.id = orderId ∧ o.status = .confirmed) →
      Consumes draw.operationId (reservationsOf s.db orderId) s.db t) s.db := by
    simp only [body, wlp_bind, wlp_require]
    rintro ⟨_, shaped⟩
    exact discard_wlp _ _ s.db (webhook_consumes s.db whole held orderId done.awaiting s.now draw v shaped)
  exact consumed _ _ done.ran done.confirmed

include whole held in
theorem bank_consumed (draw : BankDraw) (key : OperationKey) (evidenceId : Uuid) (input : BankApproval)
    (done : Confirming deployment s (.bankTransfer draw key evidenceId input) orderId t) :
    t.vouchers = s.db.vouchers ∧ t.redemptions = s.db.redemptions ∧
      t.reservations = consumedRows draw.operationId (reservationsOf s.db orderId) s.db.reservations := by
  have approved : Wlp (body deployment s (.approveBank draw key evidenceId input)) (fun _ t => BankTables draw s.db t) s.db :=
    discard_wlp _ _ s.db (approve_tables draw deployment s.now key evidenceId input s.db whole.delivered.backed.keys.reservations.ids)
  have tables := approved _ _ done.ran
  refine ⟨tables.vouchers, tables.redemptions, ?_⟩
  rcases tables.settled with same | ⟨id, settlementId, now, orders, reservations⟩
  · exact (unconfirmed_same s.db orderId done.awaiting t same done.confirmed).elim
  · have named := confirmed_moved s.db orderId done.awaiting t id settlementId now orders done.confirmed
    rw [reservations, ← named, awaiting_reservations s.db whole held orderId done.awaiting]

include whole in
theorem wallet_apart (draw : CheckoutDraw) (buyerId paidId : Uuid)
    (done : Confirming deployment s (.wallet draw buyerId paidId) orderId t) : PromotionsApart s.db t := by
  have paid : Wlp (body deployment s (.payWallet draw buyerId paidId)) (fun _ t => PromotionsApart s.db t) s.db :=
    discard_wlp _ _ s.db (payOrder_apart deployment s.now draw s.db whole buyerId paidId)
  exact paid _ _ done.ran

include whole in
theorem zero_consumed (draw : OrderDraw) (request : CheckoutRequest) (owned : Uuid → Bool)
    (done : Confirming deployment s (.zeroPayable draw request owned) orderId t) : ConsumesNew draw s.db orderId t := by
  have created : Wlp (body deployment s (.createOrder draw request owned))
      (fun _ t => (∃ o ∈ t.orders, o.id = orderId ∧ o.status = .confirmed) → ConsumesNew draw s.db orderId t) s.db :=
    discard_wlp _ _ s.db (createOrder_consumes s.now draw s.db whole orderId done.awaiting request owned)
  exact created _ _ done.ran done.confirmed

-- What a path that carries its order leaves: the promotions of an order that stood, or of one that the path itself created.
inductive Carried (db : CommerceDb) (orderId : Uuid) (t : CommerceDb) : Prop where
  | standing (operationId : Uuid → Uuid) (consumes : Consumes operationId (reservationsOf db orderId) db t)
  | created (draw : OrderDraw) (consumes : ConsumesNew draw db orderId t)

include whole held in
theorem path_carried (path : ConfirmingPath) (done : Confirming deployment s path orderId t)
    (carries : path.carries s.db orderId = true) : Carried s.db orderId t := by
  cases path with
  | webhook draw v => exact .standing _ (webhook_consumed deployment s whole held orderId t draw v done)
  | bankTransfer draw key evidenceId input =>
    obtain ⟨vouchers, redemptions, reservations⟩ := bank_consumed deployment s whole held orderId t draw key evidenceId input done
    have bare : ∀ r ∈ reservationsOf s.db orderId, r.voucherId = none :=
      fun r member => of_decide_eq_true (List.all_eq_true.mp carries r member)
    refine .standing draw.operationId ⟨reservations, ⟨[], ?_, ?_⟩, ?_⟩
    · rw [redemptions, List.append_nil]
    · rw [owedKeys_bare draw.operationId _ bare]
      rfl
    · rw [vouchers, countedVouchers_bare _ bare]
  | wallet draw buyerId paidId =>
    have apart := wallet_apart deployment s whole orderId t draw buyerId paidId done
    have empty : reservationsOf s.db orderId = [] := List.isEmpty_iff.mp carries
    refine .standing id ⟨?_, ⟨[], ?_, ?_⟩, ?_⟩
    · rw [empty, consumedRows_nil, apart.reservations]
    · rw [apart.redemptions, List.append_nil]
    · rw [empty]
      rfl
    · rw [empty, countedVouchers_nil, apart.vouchers]
  | zeroPayable draw request owned => exact .created draw (zero_consumed deployment s whole orderId t draw request owned done)

include whole held in
theorem bank_leaves_uncounted (draw : BankDraw) (key : OperationKey) (evidenceId : Uuid) (input : BankApproval)
    (done : Confirming deployment s (.bankTransfer draw key evidenceId input) orderId t)
    (settled : PromotionsSettled s.db t orderId) : ∀ r ∈ reservationsOf s.db orderId, r.voucherId = none := by
  obtain ⟨vouchers, _, reservations⟩ := bank_consumed deployment s whole held orderId t draw key evidenceId input done
  intro r member
  cases applied : r.voucherId with
  | none => rfl
  | some voucherId =>
    have counted := settled.counted voucherId
    have same : redeemedCountOf t voucherId = redeemedCountOf s.db voucherId := by
      unfold redeemedCountOf voucherById
      rw [vouchers]
    rw [consumedRows_uses _ _ s.db t orderId voucherId reservations, same] at counted
    have used : 0 < usesOf voucherId (reservationsOf s.db orderId) :=
      List.countP_pos_iff.mpr ⟨r, member, decide_eq_true applied⟩
    omega

include whole held in
theorem wallet_leaves_reserved (draw : CheckoutDraw) (buyerId paidId : Uuid)
    (done : Confirming deployment s (.wallet draw buyerId paidId) orderId t)
    (settled : PromotionsSettled s.db t orderId) : reservationsOf s.db orderId = [] := by
  have apart := wallet_apart deployment s whole orderId t draw buyerId paidId done
  refine List.eq_nil_iff_forall_not_mem.mpr (fun r member => ?_)
  obtain ⟨hr, own⟩ := List.mem_filter.mp member
  obtain ⟨o, order, named, _⟩ := (whole.delivered.backed.reservations r hr).order
  have awaiting := done.awaiting o order (named.trans (of_decide_eq_true own))
  have reserved := awaiting_reserved s.db whole.delivered.backed held r hr o order named awaiting
  have after : r ∈ reservationsOf t orderId := by
    rw [reservationsOf, apart.reservations]
    exact member
  rw [settled.consumed r after] at reserved
  cases reserved

include whole held in
theorem settled_carries (path : ConfirmingPath) (done : Confirming deployment s path orderId t)
    (settled : PromotionsSettled s.db t orderId) : path.carries s.db orderId = true := by
  cases path with
  | webhook draw v => rfl
  | bankTransfer draw key evidenceId input =>
    have bare := bank_leaves_uncounted deployment s whole held orderId t draw key evidenceId input done settled
    exact List.all_eq_true.mpr (fun r member => decide_eq_true (bare r member))
  | wallet draw buyerId paidId =>
    exact List.isEmpty_iff.mpr (wallet_leaves_reserved deployment s whole held orderId t draw buyerId paidId done settled)
  | zeroPayable draw request owned => rfl

include whole held in
theorem carried_settles (path : ConfirmingPath) (done : Confirming deployment s path orderId t) (carried : Carried s.db orderId t) :
    BenefitCheckPasses t orderId ∧ PromotionsSettled s.db t orderId := by
  have steps := body_transitions unrestricted deployment s path.input whole (unrestricted_admits s path.input) _ _ done.ran
  have later := transitions_whole unrestricted _ _ steps whole
  have backed := later.delivered.backed
  obtain ⟨benefits, named⟩ := writes_benefits_named _ _ whole.delivered.backed.keys (transitions_writes unrestricted _ _ steps)
    held.benefits held.vouchers
  have settled : PromotionsSettled s.db t orderId := by
    cases carried with
    | standing operationId consumes => exact settled_of_consumes operationId s.db t s.db orderId backed.keys rfl rfl named consumes
    | created draw consumes =>
      obtain ⟨_, u, vouchers, redemptions, consumes⟩ := consumes
      exact settled_of_consumes draw.operationId u t s.db orderId backed.keys vouchers redemptions named consumes
  exact ⟨benefitCheck_passes t orderId backed benefits settled.consumed, settled⟩

theorem carried_alike (u : CommerceDb) (stands : ∃ o ∈ s.db.orders, o.id = orderId) (carried : Carried s.db orderId t)
    (other : Carried s.db orderId u) : SameEligibility t u := by
  obtain ⟨o, member, named⟩ := stands
  cases carried with
  | created draw consumes => exact absurd named (consumes.1 o member)
  | standing first done =>
    cases other with
    | created draw consumes => exact absurd named (consumes.1 o member)
    | standing second done' => exact consumes_alike _ s.db t first second u done done'

theorem deferredChecks_benefits (before after s : CommerceDb) : Wlp (deferredChecks before after)
    (fun _ _ => ∀ o ∈ after.orders, o ∉ before.orders → benefitsConsumed after o = true) s := by
  simp only [deferredChecks, wlp_bind, wlp_require]
  exact fun _ _ _ _ _ _ _ _ consumed => consumed

theorem unpassed_refused (path : ConfirmingPath) (done : Confirming deployment s path orderId t)
    (fails : ¬ BenefitCheckPasses t orderId) : (step deployment s path.input).db = s.db := by
  unfold step
  cases outcome : transaction (body deployment s path.input) s.db with
  | error fault => exact commit_error _ s.db fault outcome
  | ok result =>
    obtain ⟨_, u⟩ := result
    obtain ⟨ran, checked⟩ := transaction_ok _ s.db u _ outcome
    have same : u = t := by
      rw [done.ran] at ran
      exact (congrArg Prod.snd (Except.ok.inj ran)).symm
    subst same
    refine absurd (fun o member named => ?_) fails
    by_cases before : o ∈ s.db.orders
    · refine decide_eq_true (fun confirmed => ?_)
      rw [done.awaiting o before named] at confirmed
      cases confirmed
    · exact deferredChecks_benefits s.db u u _ _ checked o member before

theorem passed_committed (path : ConfirmingPath) (done : Confirming deployment s path orderId t)
    (passes : (deferredChecks s.db t t).toOption.isSome = true) : (step deployment s path.input).db = t := by
  obtain ⟨⟨_, u⟩, checked⟩ := Option.isSome_iff_exists.mp passes
  have ok : deferredChecks s.db t t = .ok ((), u) := by
    cases outcome : deferredChecks s.db t t with
    | error fault =>
      rw [outcome] at checked
      cases checked
    | ok result =>
      rw [outcome] at checked
      exact congrArg Except.ok (Option.some.inj checked)
  have same := deferredChecks_reads s.db t t _ u ok
  rw [same] at ok
  unfold step
  exact commit_ok _ s.db t () (transaction_of _ s.db t () done.ran ok)

end Paths

/-- In every reachable state a path settles the promotions of the order it confirms exactly when it carries them, and any two paths
that carry an order leave the same eligibility behind. -/
theorem confirmations_settle_promotions (deployment : Deployment) (createdAt : Instant) (inputs : List Input) :
    let s := run (step deployment) (System.start createdAt) inputs
    (∀ path orderId t, Confirming deployment s path orderId t →
      (BenefitCheckPasses t orderId ∧ PromotionsSettled s.db t orderId ↔ path.carries s.db orderId = true)) ∧
    ∀ path other orderId t u, Confirming deployment s path orderId t → Confirming deployment s other orderId u →
      (∃ o ∈ s.db.orders, o.id = orderId) → path.carries s.db orderId = true → other.carries s.db orderId = true →
      SameEligibility t u := by
  intro s
  obtain ⟨sound, held⟩ := run_promotionsHeld deployment (System.start createdAt) inputs (start_sound createdAt)
    (emptyCommerceDb_promotionsHeld createdAt)
  have whole := sound.whole
  refine ⟨?_, ?_⟩
  · intro path orderId t done
    refine ⟨fun settled => settled_carries deployment s whole held orderId t path done settled.2, fun carries => ?_⟩
    exact carried_settles deployment s whole held orderId t path done (path_carried deployment s whole held orderId t path done carries)
  · intro path other orderId t u done done' stands carries carries'
    exact carried_alike s orderId t u stands (path_carried deployment s whole held orderId t path done carries)
      (path_carried deployment s whole held orderId u other done' carries')

theorem confirming_of_answer {β : Type} (deployment : Deployment) (s : System) (path : ConfirmingPath) (orderId : Uuid)
    (f : CommerceDb → β) (b : β) (awaiting : s.db.orders.all (fun o => o.id = orderId → o.status = .pendingPayment) = true)
    (answered : (body deployment s path.input s.db).toOption.map (fun outcome =>
      (outcome.2.orders.any (fun o => o.id = orderId ∧ o.status = .confirmed), f outcome.2)) = some (true, b)) :
    ∃ t, Confirming deployment s path orderId t ∧ f t = b := by
  obtain ⟨⟨_, t⟩, ran, facts⟩ := ok_of_answer _ _ _ answered
  obtain ⟨any, same⟩ := Prod.mk.inj facts
  obtain ⟨o, member, confirmed⟩ := List.any_eq_true.mp any
  refine ⟨t, ⟨ran, fun o member => ?_, o, member, of_decide_eq_true confirmed⟩, same⟩
  exact of_decide_eq_true (List.all_eq_true.mp awaiting o member)

def samplePaidBy (reference : String) : ConfirmingPath :=
  .webhook (sampleWebhookDraw "1") { sampleWebhook "1" reference with amountMinor := 60000 }

theorem webhook_settles_voucher : let s := run (step sampleDeployment) (System.start 0) sampleHeld
    ∃ t u, Confirming sampleDeployment s (samplePaidBy "R1") "order-1" t ∧
      Confirming sampleDeployment s (samplePaidBy "R2") "order-1" u ∧ BenefitCheckPasses t "order-1" ∧
      PromotionsSettled s.db t "order-1" ∧ redeemedCountOf t "voucher-1" = 1 ∧ SameEligibility t u := by
  intro s
  have awaiting : s.db.orders.all (fun o => o.id = "order-1" → o.status = .pendingPayment) = true := by decide +kernel
  have stands : ∃ o ∈ s.db.orders, o.id = "order-1" := by decide +kernel
  obtain ⟨t, paid, counted⟩ := confirming_of_answer sampleDeployment s (samplePaidBy "R1") "order-1"
    (fun t => redeemedCountOf t "voucher-1") 1 awaiting (by decide +kernel)
  obtain ⟨u, other, _⟩ := confirming_of_answer sampleDeployment s (samplePaidBy "R2") "order-1" (fun _ => ()) () awaiting
    (by decide +kernel)
  have agreement := confirmations_settle_promotions sampleDeployment 0 sampleHeld
  obtain ⟨passes, settled⟩ := (agreement.1 _ "order-1" t paid).mpr rfl
  exact ⟨t, u, paid, other, passes, settled, counted, agreement.2 _ _ "order-1" t u paid other stands rfl rfl⟩

-- The same order, under a transfer that its statement matches and one operator has seen.
def sampleHeldByBank : List Input :=
  [.environment sampleShop, .createVoucher sampleLastUse,
    .createOrder (sampleOrderDraw "1") (sampleCheckout "1" [("course-1", "LAST")]) (fun _ => false),
    .createBank sampleBankDraw (sampleKey "learner-1" "create") "order-1",
    .recordStatement sampleBankDraw (sampleKey "admin-1" "record") "request-1" { sampleStatement with amountMinor := 60000 },
    .approveBank sampleBankDraw (sampleKey "admin-1" "approve") "evidence-1" { sampleReview with amountMinor := 60000 }]

def sampleApprovedBy : ConfirmingPath :=
  .bankTransfer sampleBankDraw (sampleKey "admin-2" "approve") "evidence-1" { sampleReview with amountMinor := 60000 }

def sampleHeldByWallet : List Input :=
  [.environment { sampleShop with carts := [sampleCart "cart-1" sampleBuyer [⟨"item-1", "product-1"⟩]] },
    .createVoucher sampleLastUse, .walletStatement (.createWallet sampleWalletId sampleBuyer),
    .walletStatement (.createTopup sampleTopup), .walletStatement (.updateTopup sampleLinked),
    .walletStatement (.updateTopup sampleVerified), .walletStatement (.insertJournal sampleCredit),
    .createOrder { sampleOrderDraw "1" with orderId := sampleOrderId }
      { sampleCheckout "1" [("course-1", "LAST")] with learnerId := sampleBuyer } (fun _ => false)]

def samplePaidByWallet : ConfirmingPath :=
  .wallet samplePayment sampleBuyer sampleOrderId

-- The bank confirms the order and leaves its voucher unredeemed; the check refuses what the wallet did for such an order.
theorem confirmations_disagree :
    (let s := run (step sampleDeployment) (System.start 0) sampleHeldByBank
      ∃ t, Confirming sampleDeployment s sampleApprovedBy "order-1" t ∧ (step sampleDeployment s sampleApprovedBy.input).db = t ∧
        t.redemptions = [] ∧ ¬ PromotionsSettled s.db t "order-1") ∧
    (let s := run (step sampleDeployment) (System.start 0) sampleHeldByWallet
      ∃ t, Confirming sampleDeployment s samplePaidByWallet sampleOrderId t ∧
        (step sampleDeployment s samplePaidByWallet.input).db = s.db ∧ ¬ BenefitCheckPasses t sampleOrderId) := by
  refine ⟨?_, ?_⟩
  · intro s
    have awaiting : s.db.orders.all (fun o => o.id = "order-1" → o.status = .pendingPayment) = true := by decide +kernel
    have unredeemed : redeemedCountOf s.db "voucher-1" = 0 := by decide +kernel
    obtain ⟨t, approved, facts⟩ := confirming_of_answer sampleDeployment s sampleApprovedBy "order-1"
      (fun t => ((deferredChecks s.db t t).toOption.isSome, t.redemptions.isEmpty, redeemedCountOf t "voucher-1",
        usesOf "voucher-1" (reservationsOf t "order-1"))) (true, true, 0, 1) awaiting (by decide +kernel)
    simp only [Prod.mk.injEq] at facts
    obtain ⟨passes, empty, uncounted, uses⟩ := facts
    refine ⟨t, approved, passed_committed sampleDeployment s "order-1" t sampleApprovedBy approved passes,
      List.isEmpty_iff.mp empty, ?_⟩
    intro settled
    have counted := settled.counted "voucher-1"
    rw [uncounted, unredeemed, uses] at counted
    cases counted
  · intro s
    have awaiting : s.db.orders.all (fun o => o.id = sampleOrderId → o.status = .pendingPayment) = true := by decide +kernel
    obtain ⟨t, paid, unconsumed⟩ := confirming_of_answer sampleDeployment s samplePaidByWallet sampleOrderId
      (fun t => t.orders.any (fun o => o.id = sampleOrderId ∧ benefitsConsumed t o = false)) true awaiting (by decide +kernel)
    have fails : ¬ BenefitCheckPasses t sampleOrderId := by
      intro passes
      obtain ⟨o, member, found⟩ := List.any_eq_true.mp unconsumed
      obtain ⟨named, refused⟩ := of_decide_eq_true found
      rw [passes o member named] at refused
      cases refused
    exact ⟨t, paid, unpassed_refused sampleDeployment s sampleOrderId t samplePaidByWallet paid fails, fails⟩

end EduAi.Payments
