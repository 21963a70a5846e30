import EduAi.Gds.TopupIntent

set_option autoImplicit false

namespace EduAi.Gds

open EduAi.Store EduAi.Payments

section Runs

variable (parseUrl : String → Option Url)

structure Requested (intent : GdsPayosTopupIntent) : Prop where
  built : ∃ urls request, PayosTopup.buildGdsPayosTopupRequest parseUrl intent urls = .ok request
  unlinked : intent.paymentLinkId = none
  uncollected : intent.collectionReference = none
  uncredited : intent.partnerCreditEventId = none

section Standing

variable (start : GdsPayosTopupIntent)

structure Standing (i : GdsPayosTopupIntent) : Prop where
  terms : i = { start with
    status := i.status, paymentLinkId := i.paymentLinkId, collectionReference := i.collectionReference,
    partnerCreditEventId := i.partnerCreditEventId }
  named : ∀ r, i.collectionReference = some r → r ≠ ""
  unlinked : i.status = .created → i.paymentLinkId = none
  uncollected : i.status = .created ∨ i.status = .pendingPayos ∨ i.status = .cancelled → i.collectionReference = none
  collected : Funded i ∨ i.status = .review → ∃ r, i.collectionReference = some r

theorem standing_requested (requested : Requested parseUrl start) : Standing start start where
  terms := rfl
  named r collected := by
    rw [requested.uncollected] at collected
    cases collected
  unlinked _ := requested.unlinked
  uncollected _ := requested.uncollected
  collected funded := by
    obtain ⟨urls, request, built⟩ := requested.built
    unfold PayosTopup.buildGdsPayosTopupRequest at built
    obtain ⟨_, _, built⟩ := (answered_bind _ _ _).mp built
    obtain ⟨_, status, _⟩ := (answered_bind _ _ _).mp built
    have created := (answered_ensure _ _ _).mp status
    unfold Funded at funded
    rw [created] at funded
    rcases funded with (funded | funded | funded) | funded <;> cases funded

variable {start} (i next : GdsPayosTopupIntent)

theorem standing_present (standing : Standing start i) (r : String) (collected : i.collectionReference = some r) :
    present i.collectionReference = true := by
  rw [collected]
  exact bne_iff_ne.mpr (standing.named r collected)

theorem standing_answer (call : TopupCall) (standing : Standing start i) (answer : Answer i call next) : Standing start next := by
  cases answer with
  | relinked | recollected | recredited | awaited | stayed => exact standing
  | linked link own created =>
      exact {
        terms := by rw [standing.terms]
        named := standing.named
        unlinked := fun status => by cases status
        uncollected := fun _ => standing.uncollected (.inl created)
        collected := fun status => by rcases status with (status | status | status) | status <;> cases status }
  | reviewed fact own fresh late =>
      exact {
        terms := by rw [standing.terms]
        named := fun r same => Option.some.inj same ▸ own.named
        unlinked := fun status => by cases status
        uncollected := fun status => by rcases status with status | status | status <;> cases status
        collected := fun _ => ⟨_, rfl⟩ }
  | collected fact own fresh early pending =>
      exact {
        terms := by rw [standing.terms]
        named := fun r same => Option.some.inj same ▸ own.named
        unlinked := fun status => by cases status
        uncollected := fun status => by rcases status with status | status | status <;> cases status
        collected := fun _ => ⟨_, rfl⟩ }
  | credited fact own eligible =>
      exact {
        terms := by rw [standing.terms]
        named := standing.named
        unlinked := fun status => by cases status
        uncollected := fun status => by rcases status with status | status | status <;> cases status
        collected := fun _ => ⟨_, own.source⟩ }
  | awaiting verified =>
      exact {
        terms := by rw [standing.terms]
        named := standing.named
        unlinked := fun status => by cases status
        uncollected := fun status => by rcases status with status | status | status <;> cases status
        collected := fun _ => standing.collected (.inl (.inl verified)) }
  | cancelled open_ =>
      exact {
        terms := by rw [standing.terms]
        named := standing.named
        unlinked := fun status => by cases status
        uncollected := fun _ => standing.uncollected (open_.imp id .inl)
        collected := fun status => by rcases status with (status | status | status) | status <;> cases status }

theorem standing_step (call : TopupCall) (standing : Standing start i) : Standing start (intentStep parseUrl i call) := by
  rcases step_answers parseUrl i call with same | answer
  · rw [same]
    exact standing
  · exact standing_answer i _ call standing answer

theorem standing_run (calls : List TopupCall) (standing : Standing start start) :
    Standing start (run (intentStep parseUrl) start calls) :=
  run_invariant (intentStep parseUrl) (Standing start) (fun i call h => standing_step parseUrl i call h) start calls standing

end Standing

section Follows

structure Follows (i next : GdsPayosTopupIntent) : Prop where
  link : ∀ l, i.paymentLinkId = some l → next.paymentLinkId = some l
  collection : ∀ r, i.collectionReference = some r → next.collectionReference = some r
  credited : i.status = .credited → next = i
  cancelled : i.status = .cancelled → next.status = .cancelled ∨ next.status = .review
  review : i.status = .review → next.status = .review

theorem follows_refl (i : GdsPayosTopupIntent) : Follows i i where
  link _ same := same
  collection _ same := same
  credited _ := rfl
  cancelled same := .inl same
  review same := same

theorem follows_trans (i j k : GdsPayosTopupIntent) (first : Follows i j) (second : Follows j k) : Follows i k where
  link l same := second.link l (first.link l same)
  collection r same := second.collection r (first.collection r same)
  credited same := by
    have stays := first.credited same
    rw [← stays]
    exact second.credited (by rw [stays]; exact same)
  cancelled same := by
    rcases first.cancelled same with still | reviewed
    · exact second.cancelled still
    · exact .inr (second.review reviewed)
  review same := second.review (first.review same)

variable {start : GdsPayosTopupIntent} (i : GdsPayosTopupIntent) (standing : Standing start i)

include standing in
theorem uncollected_fresh (fresh : present i.collectionReference = false) : i.collectionReference = none := by
  cases collected : i.collectionReference with
  | none => rfl
  | some r =>
      rw [standing_present i standing r collected] at fresh
      cases fresh

include standing in
theorem follows_answer (call : TopupCall) (next : GdsPayosTopupIntent) (answer : Answer i call next) : Follows i next := by
  have statuses : ∀ s, i.status = s → s ≠ .credited → s ≠ .cancelled → s ≠ .review →
      (i.status = .credited → next = i) ∧ (i.status = .cancelled → next.status = .cancelled ∨ next.status = .review) ∧
        (i.status = .review → next.status = .review) := by
    intro s same notCredited notCancelled notReview
    exact ⟨fun h => absurd (same.symm.trans h) notCredited, fun h => absurd (same.symm.trans h) notCancelled,
      fun h => absurd (same.symm.trans h) notReview⟩
  cases answer with
  | relinked | recollected | recredited | awaited | stayed => exact follows_refl i
  | linked link own created =>
      obtain ⟨credited, cancelled, review⟩ := statuses _ created (by decide) (by decide) (by decide)
      refine { link := ?_, collection := fun _ same => same, credited, cancelled, review }
      intro l same
      rw [standing.unlinked created] at same
      cases same
  | reviewed fact own fresh late =>
      have none := uncollected_fresh i standing fresh
      refine { link := fun _ same => same, collection := ?_, credited := ?_, cancelled := fun _ => .inr rfl, review := fun _ => rfl }
      · intro r same
        rw [none] at same
        cases same
      · intro credited
        obtain ⟨r, collected⟩ := standing.collected (.inl (.inr (.inr credited)))
        rw [none] at collected
        cases collected
  | collected fact own fresh early pending =>
      have none := uncollected_fresh i standing fresh
      obtain ⟨credited, cancelled, review⟩ := statuses _ pending (by decide) (by decide) (by decide)
      refine { link := fun _ same => same, collection := ?_, credited, cancelled, review }
      intro r same
      rw [none] at same
      cases same
  | credited fact own eligible =>
      rcases eligible with verified | waiting
      · obtain ⟨credited, cancelled, review⟩ := statuses _ verified (by decide) (by decide) (by decide)
        exact { link := fun _ same => same, collection := fun _ same => same, credited, cancelled, review }
      · obtain ⟨credited, cancelled, review⟩ := statuses _ waiting (by decide) (by decide) (by decide)
        exact { link := fun _ same => same, collection := fun _ same => same, credited, cancelled, review }
  | awaiting verified =>
      obtain ⟨credited, cancelled, review⟩ := statuses _ verified (by decide) (by decide) (by decide)
      exact { link := fun _ same => same, collection := fun _ same => same, credited, cancelled, review }
  | cancelled open_ =>
      rcases open_ with created | pending
      · obtain ⟨credited, cancelled, review⟩ := statuses _ created (by decide) (by decide) (by decide)
        exact { link := fun _ same => same, collection := fun _ same => same, credited, cancelled, review }
      · obtain ⟨credited, cancelled, review⟩ := statuses _ pending (by decide) (by decide) (by decide)
        exact { link := fun _ same => same, collection := fun _ same => same, credited, cancelled, review }

include standing in
theorem follows_run (calls : List TopupCall) : Follows i (run (intentStep parseUrl) i calls) := by
  refine run_relation (intentStep parseUrl) Follows follows_refl follows_trans (Standing start)
    (fun j call h => standing_step parseUrl j call h) ?_ i calls standing
  intro j call h
  rcases step_answers parseUrl j call with same | answer
  · rw [same]
    exact follows_refl j
  · exact follows_answer j h call _ answer

end Follows

section Intents

-- The collection an intent was verified by: its own amount, currency, order and link, in time, while it waited for PayOS.
structure VerifiedBy (start waiting : GdsPayosTopupIntent) (fact : GdsPayosVerifiedCollection) : Prop where
  awaited : waiting.status = .pendingPayos
  amount : fact.amountMinor = start.amountMinor
  currency : fact.currency = start.currency
  order : fact.orderCode = start.payosOrderCode
  link : waiting.paymentLinkId = some fact.paymentLinkId
  inTime : fact.occurredAt ≤ start.expiresAt

structure Replays (i : GdsPayosTopupIntent) : Prop where
  link : ∀ link next l, i.paymentLinkId = some l → attachGdsPayosLink parseUrl i link = .ok next →
    next = i ∧ LinkOf i link ∧ link.paymentLinkId = l
  collection : ∀ fact next r, i.collectionReference = some r → acceptGdsPayosCollection i fact = .ok next →
    next = i ∧ CollectionOf i fact ∧ fact.collectionReference = r
  credit : ∀ fact next, i.status = .credited → acceptGdsPartnerCredit i fact = .ok next →
    next = i ∧ CreditOf i fact ∧ i.partnerCreditEventId = some fact.eventId

variable {start : GdsPayosTopupIntent} (i : GdsPayosTopupIntent) (standing : Standing start i)

include standing in
theorem replays_standing : Replays parseUrl i where
  link link next l linked ok := by
    have answer := attach_answers parseUrl i next link ok
    cases answer with
    | linked _ own created =>
        rw [standing.unlinked created] at linked
        cases linked
    | relinked _ own pending same => exact ⟨rfl, own, Option.some.inj (same.symm.trans linked)⟩
  collection fact next r collected ok := by
    have known := standing_present i standing r collected
    have answer := collect_answers i next fact ok
    cases answer with
    | recollected _ own same => exact ⟨rfl, own, Option.some.inj (same.symm.trans collected)⟩
    | reviewed _ own fresh late =>
        rw [known] at fresh
        cases fresh
    | collected _ own fresh early pending =>
        rw [known] at fresh
        cases fresh
  credit fact next credited ok := by
    have answer := credit_answers i next fact ok
    cases answer with
    | recredited _ own _ same => exact ⟨rfl, own, same⟩
    | credited _ own eligible =>
        rw [credited] at eligible
        rcases eligible with eligible | eligible <;> cases eligible

include standing in
theorem late_reviewed (fact : GdsPayosVerifiedCollection) (next : GdsPayosTopupIntent) (first : i.collectionReference = none)
    (late : TooLate i fact) (ok : acceptGdsPayosCollection i fact = .ok next) (after : List TopupCall) :
    (run (intentStep parseUrl) next after).status = .review := by
  have answer := collect_answers i next fact ok
  have standing' := standing_answer i next (.collect fact) standing answer
  refine (follows_run parseUrl next standing' after).review ?_
  cases answer with
  | recollected _ own same =>
      rw [first] at same
      cases same
  | reviewed => rfl
  | collected _ own fresh early pending => exact absurd late early

theorem funded_by (call : TopupCall) (next : GdsPayosTopupIntent) (unfunded : ¬ Funded i) (answer : Answer i call next)
    (funded : Funded next) : ∃ fact, call = .collect fact ∧ CollectionOf i fact ∧ ¬ TooLate i fact ∧ i.status = .pendingPayos := by
  cases answer with
  | collected fact own fresh early pending => exact ⟨fact, rfl, own, early, pending⟩
  | relinked | recollected | recredited | awaited | stayed => exact absurd funded unfunded
  | linked | reviewed | cancelled => rcases funded with funded | funded | funded <;> cases funded
  | credited fact own eligible => exact absurd (eligible.imp id .inl) unfunded
  | awaiting verified => exact absurd (.inl verified) unfunded

theorem requested_created (requested : Requested parseUrl start) :
    start.status = .created ∧ start.currency = "VND" := by
  obtain ⟨urls, request, built⟩ := requested.built
  unfold PayosTopup.buildGdsPayosTopupRequest at built
  obtain ⟨_, valid, built⟩ := (answered_bind _ _ _).mp built
  obtain ⟨_, status, _⟩ := (answered_bind _ _ _).mp built
  refine ⟨(answered_ensure _ _ _).mp status, ?_⟩
  have checked := (answered_ensure _ _ _).mp valid
  simp only [validTopup, Bool.and_eq_true, beq_iff_eq] at checked
  exact checked.1.1.2

theorem funded_collected (requested : Requested parseUrl start) (calls : List TopupCall)
    (funded : Funded (run (intentStep parseUrl) start calls)) :
    ∃ before fact after, calls = before ++ .collect fact :: after ∧
      VerifiedBy start (run (intentStep parseUrl) start before) fact := by
  obtain ⟨created, dong⟩ := requested_created parseUrl requested
  have unfunded : ¬ Funded start := by
    unfold Funded
    rw [created]
    rintro (verified | waiting | credited)
    · cases verified
    · cases waiting
    · cases credited
  obtain ⟨before, call, after, split, open_, now⟩ := run_became (intentStep parseUrl) Funded start calls unfunded funded
  rcases step_answers parseUrl (run (intentStep parseUrl) start before) call with same | answer
  · rw [same] at now
    exact absurd now open_
  · obtain ⟨fact, rfl, own, early, pending⟩ := funded_by _ call _ open_ answer now
    have terms := (standing_run parseUrl before (standing_requested parseUrl start requested)).terms
    have expiry := congrArg GdsPayosTopupIntent.expiresAt terms
    refine ⟨before, fact, after, split, { awaited := pending, link := own.link, amount := ?_, currency := ?_, order := ?_, inTime := ?_ }⟩
    · rw [own.amount, terms]
    · rw [own.currency, dong]
    · rw [own.order, terms]
    · rw [← show (run (intentStep parseUrl) start before).expiresAt = start.expiresAt from expiry]
      exact not_lt.mp (fun late => early (.inr late))

/-- Over every run from an intent a request is built from, with the calls that follow. -/
theorem topup_intents_sound (start : GdsPayosTopupIntent) (requested : Requested parseUrl start) (calls more : List TopupCall) :
    Follows (run (intentStep parseUrl) start calls) (run (intentStep parseUrl) start (calls ++ more)) ∧
    Replays parseUrl (run (intentStep parseUrl) start calls) ∧
    ((run (intentStep parseUrl) start calls).status = .credited →
      ∃ before fact after, calls = before ++ .collect fact :: after ∧
        VerifiedBy start (run (intentStep parseUrl) start before) fact) ∧
    (∀ fact next, (run (intentStep parseUrl) start calls).collectionReference = none →
      TooLate (run (intentStep parseUrl) start calls) fact →
      acceptGdsPayosCollection (run (intentStep parseUrl) start calls) fact = .ok next →
      (run (intentStep parseUrl) next more).status = .review) ∧
    ∀ fact event, toGdsWalletFundingEvent (run (intentStep parseUrl) start calls) fact = .ok event →
      event = { providerEventId := fact.eventId, kind := .fundsCredited, amountMinor := start.amountMinor, currency := start.currency,
                providerTransactionId := fact.partnerTransactionId, orderId := none } := by
  have standing := standing_run parseUrl calls (standing_requested parseUrl start requested)
  refine ⟨?_, replays_standing parseUrl _ standing, ?_, ?_, ?_⟩
  · rw [run_append]
    exact follows_run parseUrl _ standing more
  · intro credited
    exact funded_collected parseUrl requested calls (.inr (.inr credited))
  · intro fact next first late ok
    exact late_reviewed parseUrl _ standing fact next first late ok more
  · intro fact event built
    unfold toGdsWalletFundingEvent at built
    obtain ⟨_, _, built⟩ := (answered_bind _ _ _).mp built
    obtain ⟨_, _, built⟩ := (answered_bind _ _ _).mp built
    obtain rfl := (answered_pure _ _).mp built
    have amount : (run (intentStep parseUrl) start calls).amountMinor = start.amountMinor := by rw [standing.terms]
    rw [amount, (requested_created parseUrl requested).2]

end Intents

end Runs

def sampleAccountHash : String :=
  "aaaaaaaaaaaaaaaaaaaaaaaaaaaaaaaaaaaaaaaaaaaaaaaaaaaaaaaaaaaaaaaa"

def sampleIntent : GdsPayosTopupIntent where
  id := "topup-1"
  buyerId := "buyer-1"
  amountMinor := 100000
  currency := "VND"
  payosOrderCode := 900000012345
  receivingAccountHash := sampleAccountHash
  settlementReceivingAccountHash := none
  createdAt := none
  expiresAt := 1793628900000
  status := .created
  paymentLinkId := none
  collectionReference := none
  partnerCreditEventId := none

def sampleRedirects : RedirectUrls where
  returnUrl := "https://eduai.example.test/wallet/topup/return"
  cancelUrl := "https://eduai.example.test/wallet/topup/cancel"

def sampleCheckoutUrl : String :=
  "https://pay.payos.vn/web/payos-link-123"

def sampleParseUrl (text : String) : Option Url :=
  if text = sampleRedirects.returnUrl ∨ text = sampleRedirects.cancelUrl then
    some { protocol := "https:", hostname := "eduai.example.test", port := "", origin := "https://eduai.example.test",
           username := "", password := "", hash := "" }
  else if text = sampleCheckoutUrl then
    some { protocol := "https:", hostname := "pay.payos.vn", port := "", origin := "https://pay.payos.vn",
           username := "", password := "", hash := "" }
  else none

theorem sampleIntent_requested : Requested sampleParseUrl sampleIntent where
  built := ⟨sampleRedirects, {
    orderCode := 900000012345
    amount := 100000
    description := "GBHGCRPYX"
    returnUrl := sampleRedirects.returnUrl
    cancelUrl := sampleRedirects.cancelUrl
    expiredAt := 1793628900 }, by decide +kernel⟩
  unlinked := rfl
  uncollected := rfl
  uncredited := rfl

def sampleLink : GdsPayosCreatedLink where
  orderCode := 900000012345
  amountMinor := 100000
  currency := "VND"
  paymentLinkId := "payos-link-123"
  checkoutUrl := sampleCheckoutUrl
  receivingAccountHash := sampleAccountHash

def sampleCollection : GdsPayosVerifiedCollection where
  orderCode := 900000012345
  amountMinor := 100000
  currency := "VND"
  paymentLinkId := "payos-link-123"
  collectionReference := "payos-bank-transfer-1"
  receivingAccountHash := sampleAccountHash
  occurredAt := 1793620800000
  providerCode := "00"

def samplePartnerCredit (partnerTransactionId : String) : GdsPartnerVerifiedCredit where
  eventId := "partner:event-1"
  partnerTransactionId := partnerTransactionId
  amountMinor := 100000
  currency := "VND"
  sourceCollectionReference := "payos-bank-transfer-1"

def sampleCredited : List TopupCall :=
  [.attach sampleLink, .collect sampleCollection, .awaitPartner, .credit (samplePartnerCredit "partner:tx-1")]

theorem topup_intents_sound_sample :
    Follows (run (intentStep sampleParseUrl) sampleIntent sampleCredited)
      (run (intentStep sampleParseUrl) sampleIntent (sampleCredited ++ [.cancel])) ∧
    Replays sampleParseUrl (run (intentStep sampleParseUrl) sampleIntent sampleCredited) := by
  have sound := topup_intents_sound sampleParseUrl sampleIntent sampleIntent_requested sampleCredited [.cancel]
  exact ⟨sound.1, sound.2.1⟩

-- A transfer that arrives for a cancelled intent takes it to review, and a credit is repeated under another transaction id.
theorem cancelled_not_final :
    Requested sampleParseUrl sampleIntent ∧
    (run (intentStep sampleParseUrl) sampleIntent [.attach sampleLink, .cancel]).status = .cancelled ∧
    (run (intentStep sampleParseUrl) sampleIntent [.attach sampleLink, .cancel, .collect sampleCollection]).status = .review ∧
    acceptGdsPartnerCredit (run (intentStep sampleParseUrl) sampleIntent sampleCredited) (samplePartnerCredit "partner:tx-2") =
      .ok (run (intentStep sampleParseUrl) sampleIntent sampleCredited) := by
  refine ⟨sampleIntent_requested, by decide +kernel, by decide +kernel, by decide +kernel⟩

end EduAi.Gds
