import EduAi.Payments.CommerceSystem
import EduAi.Payments.VnPayIpn

set_option autoImplicit false

namespace EduAi.Payments

open EduAi.Store EduAi.Gds EduAi.Commerce

def applied (s : System) (draw : WebhookDraw) (v : VerifiedPaymentWebhook) : Except Fault PaymentWebhookProcessingResult :=
  (transaction (applyVerified s.now draw v) s.db).map (fun outcome => outcome.1)

def processVerified (s : System) (draw : WebhookDraw) (v : VerifiedPaymentWebhook) (fulfilled : Except Fault Unit) :
    Except Fault PaymentWebhookProcessingResult :=
  if settledNotification v then processVerifiedAnswer (applied s draw v) fulfilled
  else .error (.badRequest "WEBHOOK_NOT_SETTLED")

def handle (config : VnPayConfig) (hash : String → String) (s : System) (draw : WebhookDraw)
    (query : Option (List (String × Option String))) (fulfilled : Except Fault Unit) : IpnRspCode :=
  match ipnAction config hash s.now query with
  | .respond code => code
  | .classify v => mapClassification (classifyVerified s.db v)
  | .process v => mapProcessingResult (processVerified s draw v fulfilled)

instance (v : VerifiedPaymentWebhook) (x : CommerceSettlement) : Decidable (RecordsEvent v x) :=
  inferInstanceAs (Decidable (_ ∧ _ ∧ _))

instance (db : CommerceDb) (attemptId : Uuid) : Decidable (ReviewOpen db attemptId) :=
  inferInstanceAs (Decidable (∃ c ∈ db.cases, _ ∧ _ ∧ _))

def Traced (db : CommerceDb) (v : VerifiedPaymentWebhook) (attemptId : Uuid) : Prop :=
  (∃ x ∈ db.settlements, RecordsEvent v x) ∨ ReviewOpen db attemptId

instance (db : CommerceDb) (v : VerifiedPaymentWebhook) (attemptId : Uuid) : Decidable (Traced db v attemptId) :=
  inferInstanceAs (Decidable (_ ∨ _))

theorem traced_kept (db t : CommerceDb) (kept : Kept db t) (v : VerifiedPaymentWebhook) (attemptId : Uuid)
    (traced : Traced db v attemptId) : Traced t v attemptId := by
  rcases traced with ⟨x, hx, records⟩ | opened
  · exact .inl ⟨x, kept.appends.settlements.subset hx, records⟩
  · exact .inr (reviewOpen_kept db t kept attemptId opened)

section Answers

variable (deployment : Deployment) (s : System) (draw : WebhookDraw) (v : VerifiedPaymentWebhook)

theorem applied_ok (r : PaymentWebhookProcessingResult) (answered : applied s draw v = .ok r) :
    ∃ t, transaction (applyVerified s.now draw v) s.db = .ok (r, t) := by
  unfold applied at answered
  cases ran : transaction (applyVerified s.now draw v) s.db with
  | error fault =>
    rw [ran] at answered
    cases answered
  | ok outcome =>
    rw [ran] at answered
    cases answered
    exact ⟨outcome.2, rfl⟩

theorem processVerified_applied (fulfilled : Except Fault Unit) (r : PaymentWebhookProcessingResult)
    (answered : processVerified s draw v fulfilled = .ok r) : settledNotification v = true ∧ ∃ r', applied s draw v = .ok r' := by
  unfold processVerified at answered
  split at answered
  case isFalse => cases answered
  case isTrue settled =>
    refine ⟨settled, ?_⟩
    cases ran : applied s draw v with
    | ok r' => exact ⟨r', rfl⟩
    | error fault =>
      rw [ran] at answered
      cases answered

theorem transaction_required {α : Type} (p : Prop) [Decidable p] (fault : Fault) (m : CommerceTxn α) (db : CommerceDb) (holds : p) :
    transaction (do require p fault; m) db = transaction m db := by
  have same : (do require p fault; m : CommerceTxn α) = m := by
    unfold require
    rw [if_pos holds]
    rfl
  rw [same]

theorem deliver_db (settled : settledNotification v = true) (shaped : deliverable v = true) (r : PaymentWebhookProcessingResult)
    (t : CommerceDb) (ran : transaction (applyVerified s.now draw v) s.db = .ok (r, t)) :
    (step deployment s (.deliver draw v)).db = t := by
  have body := transaction_discard _ _ _ _ ran
  show commit (transaction (do require _ _; discard _)) s.db = t
  rw [← transaction_required (settledNotification v ∧ deliverable v) (.badRequest "WEBHOOK_NOT_SETTLED") _ _ ⟨settled, shaped⟩] at body
  exact commit_ok _ _ _ _ body

end Answers

section Traces

variable (s : System) (draw : WebhookDraw) (v : VerifiedPaymentWebhook)

-- An event whose order reference names an attempt leaves its settlement, or it is refused for a case of that attempt or,
-- where an earlier event had the same identity, of the attempt of that event.
theorem outcome_left (db t : CommerceDb) (r : PaymentWebhookProcessingResult) (outcome : VerifiedOutcome s.now draw v db r t)
    (code : Int) (a : CommercePaymentAttempt) (parsed : providerOrderCode v = some code)
    (found : attemptByOrderCode db (.ofName v.provider) code = some a) :
    (∃ x ∈ t.settlements, RecordsEvent v x) ∨ ∃ n, r = .rejected n ∧
      (ReviewOpen t a.id ∨ ∃ prior, attemptOfPriorEvent db v = some prior ∧ ReviewOpen t prior.id) := by
  have byEvent : ∀ n b, providerOrderCode v = some n → attemptOfEvent db v n = some b → b = a := by
    intro n b parsed' named
    rw [parsed] at parsed'
    cases parsed'
    unfold attemptOfEvent at named
    rw [found] at named
    exact (Option.some.inj named).symm
  cases outcome with
  | unknown n parsed' noAttempt =>
    rw [parsed] at parsed'
    cases parsed'
    unfold attemptOfEvent at noAttempt
    rw [found] at noAttempt
    cases noAttempt
  | replayed x member records => exact .inl ⟨x, member, records⟩
  | mismatch b n t source writes opened =>
    have reviewed := mismatchOpen_reviewOpen t b.id n opened
    refine .inr ⟨n, rfl, ?_⟩
    rcases source with prior | ⟨m, parsed', named⟩
    · exact .inr ⟨b, prior, reviewed⟩
    · rw [byEvent m b parsed' named] at reviewed
      exact .inl reviewed
  | duplicate t x member records writes => exact .inl ⟨x, member, records⟩
  | late t x member records writes => exact .inl ⟨x, member, records⟩
  | confirmed b o member named order pending awaiting facts steps =>
    refine .inl ⟨collectionSettlement draw.settlementId draw.eventId b v .matched, ?_, rfl, rfl, rfl⟩
    exact List.mem_append_right _ (List.mem_singleton.mpr rfl)

theorem outcome_traced (db t : CommerceDb) (r : PaymentWebhookProcessingResult) (outcome : VerifiedOutcome s.now draw v db r t)
    (code : Int) (a : CommercePaymentAttempt) (parsed : providerOrderCode v = some code)
    (found : attemptByOrderCode db (.ofName v.provider) code = some a) :
    Traced t v a.id ∨ ∃ prior, attemptOfPriorEvent db v = some prior ∧ ReviewOpen t prior.id := by
  rcases outcome_left s draw v db t r outcome code a parsed found with settled | ⟨_, _, own | charged⟩
  · exact .inl (.inl settled)
  · exact .inl (.inr own)
  · exact .inr charged

theorem outcome_acknowledged (db t : CommerceDb) (r : PaymentWebhookProcessingResult)
    (outcome : VerifiedOutcome s.now draw v db r t) (accepted : ∀ error, r ≠ .rejected error)
    (known : r ≠ .unknownPaymentAcknowledged) : ∃ x ∈ t.settlements, RecordsEvent v x := by
  cases outcome with
  | unknown n parsed' noAttempt => exact absurd rfl known
  | replayed x member records => exact ⟨x, member, records⟩
  | mismatch b n t source writes opened => exact absurd rfl (accepted n)
  | duplicate t x member records writes => exact ⟨x, member, records⟩
  | late t x member records writes => exact ⟨x, member, records⟩
  | confirmed b o member named order pending awaiting facts steps =>
    refine ⟨collectionSettlement draw.settlementId draw.eventId b v .matched, ?_, rfl, rfl, rfl⟩
    exact List.mem_append_right _ (List.mem_singleton.mpr rfl)

end Traces

section Runs

variable (deployment : Deployment) (createdAt : Instant)

theorem reached_sound (inputs : List Input) : Sound (run (step deployment) (System.start createdAt) inputs) :=
  run_sound deployment _ inputs (start_sound createdAt)

theorem applied_outcome (s : System) (sound : Sound s) (draw : WebhookDraw) (v : VerifiedPaymentWebhook)
    (shaped : deliverable v = true) (settled : settledNotification v = true) (r : PaymentWebhookProcessingResult)
    (answered : applied s draw v = .ok r) : VerifiedOutcome s.now draw v s.db r (step deployment s (.deliver draw v)).db := by
  obtain ⟨t, ran⟩ := applied_ok s draw v r answered
  rw [deliver_db deployment s draw v settled shaped r t ran]
  exact applyVerified_outcome s.db sound.whole.delivered.backed s.now draw v shaped r t (transaction_ok _ _ _ _ ran).1

/-- A verified event that was accepted stays on record in every later state, as a settlement or as an open case. -/
theorem verified_money_traced (before after : List Input) :
    let s := run (step deployment) (System.start createdAt) before
    (∀ draw v fulfilled r code a, deliverable v = true → providerOrderCode v = some code →
      attemptByOrderCode s.db (.ofName v.provider) code = some a → processVerified s draw v fulfilled = .ok r →
      let t := (run (step deployment) (step deployment s (.deliver draw v)) after).db
      Traced t v a.id ∨ ∃ prior, attemptOfPriorEvent s.db v = some prior ∧ ReviewOpen t prior.id) ∧
    ∀ config hash query draw v fulfilled, ipnAction config hash s.now query = .process v →
      (handle config hash s draw query fulfilled).text = "00" ∨ (handle config hash s draw query fulfilled).text = "02" →
      ∃ x ∈ (run (step deployment) (step deployment s (.deliver draw v)) after).db.settlements, RecordsEvent v x := by
  intro s
  have sound : Sound s := reached_sound deployment createdAt before
  have delivered : ∀ draw v, Kept (step deployment s (.deliver draw v)).db
      (run (step deployment) (step deployment s (.deliver draw v)) after).db := fun draw v =>
    run_kept deployment _ after (step_sound deployment s (.deliver draw v) sound)
  constructor
  · intro draw v fulfilled r code a shaped parsed found answered t
    obtain ⟨settled, r', answer⟩ := processVerified_applied s draw v fulfilled r answered
    have outcome := applied_outcome deployment s sound draw v shaped settled r' answer
    rcases outcome_traced s draw v _ _ r' outcome code a parsed found with traced | ⟨prior, charged, opened⟩
    · exact .inl (traced_kept _ _ (delivered draw v) v a.id traced)
    · exact .inr ⟨prior, charged, reviewOpen_kept _ _ (delivered draw v) prior.id opened⟩
  · intro config hash query draw v fulfilled processed acknowledged
    obtain ⟨params, parsed, normalized, settled⟩ := ipnAction_process config hash s.now query v processed
    have codes : mapProcessingResult (processVerifiedAnswer (applied s draw v) fulfilled) = .confirmSuccess ∨
        mapProcessingResult (processVerifiedAnswer (applied s draw v) fulfilled) = .orderAlreadyConfirmed := by
      have text := acknowledged
      simp only [handle, processed, processVerified, settled, if_true] at text
      generalize mapProcessingResult (processVerifiedAnswer (applied s draw v) fulfilled) = answer at text ⊢
      revert text
      cases answer <;> decide
    obtain ⟨r, answer, accepted, known⟩ := mapProcessingResult_acknowledged _ fulfilled codes
    have outcome := applied_outcome deployment s sound draw v (normalized_deliverable config params v normalized) settled r answer
    obtain ⟨x, hx, records⟩ := outcome_acknowledged s draw v _ _ r outcome accepted known
    exact ⟨x, (delivered draw v).appends.settlements.subset hx, records⟩

end Runs

def sampleDeployment : Deployment where
  bankTransferEnabled := true
  bankOperatorIds := ["admin-1", "admin-2"]
  enabledProviders := [.payos, .vnpay]
  gdsProduction := false
  gdsReadEnabled := true
  gdsCheckoutEnabled := true
  gdsProcessingEnabled := true
  gdsSandbox := false
  hashAccount := fun account => account
  hashReason := fun reason => reason
  hashEvent := fun event => event

def sampleCourse (id : Uuid) : Course where
  id := id
  categorySlug := none
  status := .published
  isPublic := true
  moderationClear := true
  deleted := false
  priceAmountMinor := some 100000
  priceCurrency := some "VND"

def sampleCart (id buyerId : Uuid) (lines : List CommerceCartLine) : CommerceCart where
  id := id
  buyerId := buyerId
  status := .active
  currency := "VND"
  lines := lines

def sampleShop : CommerceDb :=
  { emptyCommerceDb 0 with
    users := [⟨"admin-1", true, false, true⟩, ⟨"admin-2", true, false, true⟩]
    courses := [sampleCourse "course-1", sampleCourse "course-2"]
    products := [⟨"product-1", some "course-1", "seller", true⟩, ⟨"product-2", some "course-2", "seller", true⟩]
    carts := [sampleCart "cart-1" "learner-1" [⟨"item-1", "product-1"⟩], sampleCart "cart-2" "learner-2" [⟨"item-2", "product-2"⟩]] }

def sampleOrderDraw (n : String) : OrderDraw where
  orderId := "order-" ++ n
  settlementId := "settlement-" ++ n
  cartId := "cart-next-" ++ n
  cartLineId := fun id => id ++ "-next"
  lineId := fun id => "line-" ++ id
  reservationId := fun id => "reservation-" ++ id
  operationId := fun id => "operation-" ++ id

def sampleCheckout (n : String) (applications : List (Uuid × String)) : CheckoutRequest where
  learnerId := "learner-" ++ n
  keyHash := "key"
  requestHash := "request"
  courseIds := none
  applications := applications

def sampleAccess : AccessDraw where
  subscriptionId := fun id => "subscription-" ++ id
  grantId := fun key => "grant-" ++ key.2.2.2
  entitlementId := fun id _ => "entitlement-" ++ id

def samplePaymentDraw (n : String) (identity : Uuid) : PaymentRequestDraw where
  attemptId := "attempt-" ++ n
  settlementId := "waived-" ++ n
  localRequestIdentity := identity
  access := sampleAccess

def sampleRequest (n : String) (provider : PaymentProviderName) : PaymentRequest where
  learnerId := "learner-" ++ n
  orderId := "order-" ++ n
  keyHash := "key"
  requestHash := "request"
  defaultProvider := provider
  requestedProvider := some provider

def sampleOrder (n : String) : CommerceOrder :=
  pricedOrder (sampleOrderDraw n) (sampleCart ("cart-" ++ n) ("learner-" ++ n) []) (sampleCheckout n []) []

def sampleAttempt (n : String) (identity : Uuid) : CommercePaymentAttempt :=
  { requestedAttempt 0 (samplePaymentDraw n identity) .payos { sampleOrder n with payableAmountMinor := 100000 } 900000 with
    status := .created }

def sampleCreated (n : String) : CreatedPaymentRequest where
  providerPaymentIdentity := "link-" ++ n
  providerOrderReference := n
  localOrderReference := none
  amountMinor := 100000
  currency := "VND"
  status := .pending
  checkoutUrl := ""
  qrPayload := none
  receivingAccount := some "account"
  expiresAt := none

-- One learner's order with a PayOS request open at the provider.
def sampleRequested (n : String) (identity : Uuid) : List Input :=
  [.createOrder (sampleOrderDraw n) (sampleCheckout n []) (fun _ => false),
    .requestPayment (samplePaymentDraw n identity) (sampleRequest n .payos),
    .attachRequest (sampleAttempt n identity) (sampleCreated n)]

-- The adapter takes the bank's reference for the identity of the event as well.
def sampleWebhook (n reference : String) : VerifiedPaymentWebhook where
  provider := .payos
  providerOrderReference := n
  providerEventIdentity := reference
  providerPaymentIdentity := "link-" ++ n
  providerSettlementReference := reference
  localOrderReference := 0
  amountMinor := 100000
  currency := "VND"
  occurredAt := 10
  occurredAtSource := none
  providerCode := "00"
  responseCode := none
  transactionStatus := none
  receivingAccount := none
  virtualReceivingAccount := none
  verifiedVirtualAccountHash := none

def sampleWebhookDraw (n : String) : WebhookDraw where
  eventId := "event-" ++ n
  settlementId := "collected-" ++ n
  caseId := "case-" ++ n
  operationId := fun id => "use-" ++ n ++ id

def sampleCollected : List Input :=
  .environment sampleShop :: sampleRequested "1" "0000000000001-a" ++ [.deliver (sampleWebhookDraw "1") (sampleWebhook "1" "R1")]

-- Two open orders; the first is paid under a reference that a second collection, of another amount, then repeats.
def sampleOpened : List Input :=
  .environment sampleShop :: (sampleRequested "1" "0000000000001-a" ++ sampleRequested "2" "0000000000002-b") ++
    [.deliver (sampleWebhookDraw "1") (sampleWebhook "1" "R1")]

def samplePaid : System :=
  run (step sampleDeployment) (System.start 0) sampleOpened

def sampleRepeated : VerifiedPaymentWebhook :=
  { sampleWebhook "2" "R1" with amountMinor := 200000 }

theorem repeated_reference_untraced :
    deliverable sampleRepeated = true ∧ providerOrderCode sampleRepeated = some 2 ∧
      (attemptByOrderCode samplePaid.db .payos 2).map (fun a => a.id) = some "attempt-2" ∧
      processVerified samplePaid (sampleWebhookDraw "2") sampleRepeated (.ok ()) = .ok (.rejected .eventIdentity) ∧
      ¬ Traced (step sampleDeployment samplePaid (.deliver (sampleWebhookDraw "2") sampleRepeated)).db sampleRepeated "attempt-2" := by
  decide +kernel

theorem second_order_traced : ∃ a, attemptByOrderCode samplePaid.db .payos 2 = some a ∧
    (Traced (run (step sampleDeployment) (step sampleDeployment samplePaid (.deliver (sampleWebhookDraw "2") (sampleWebhook "2" "R2")))
        []).db (sampleWebhook "2" "R2") a.id ∨
      ∃ prior, attemptOfPriorEvent samplePaid.db (sampleWebhook "2" "R2") = some prior ∧
        ReviewOpen (run (step sampleDeployment)
          (step sampleDeployment samplePaid (.deliver (sampleWebhookDraw "2") (sampleWebhook "2" "R2"))) []).db prior.id) := by
  have named : ∃ a, attemptByOrderCode samplePaid.db .payos 2 = some a := Option.isSome_iff_exists.mp (by decide +kernel)
  obtain ⟨a, found⟩ := named
  have traced := (verified_money_traced sampleDeployment 0 sampleOpened []).1 (sampleWebhookDraw "2") (sampleWebhook "2" "R2")
    (.ok ()) (.confirmed "order-2" "collected-2" false) 2 a (by decide) (by decide) found (by decide +kernel)
  exact ⟨a, found, traced⟩

end EduAi.Payments
