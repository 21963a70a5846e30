import EduAi.Gds.PayosTopup
import EduAi.Gds.WalletProjection
import EduAi.Store.Runs

set_option autoImplicit false

namespace EduAi.Gds

open EduAi.Store EduAi.Payments

structure GdsPartnerVerifiedCredit where
  eventId : String
  partnerTransactionId : String
  amountMinor : Int
  currency : String
  sourceCollectionReference : String
deriving DecidableEq, Repr

def acceptGdsPartnerCredit (intent : GdsPayosTopupIntent) (fact : GdsPartnerVerifiedCredit) : Except Fault GdsPayosTopupIntent :=
  if !validTopup intent then .error (.invariant "WALLET_TOPUP_INVALID_INTENT")
  else if fact.eventId = "" ∨ fact.partnerTransactionId = "" ∨ fact.amountMinor ≠ intent.amountMinor ∨ fact.currency ≠ "VND" ∨
      !present intent.collectionReference ∨ some fact.sourceCollectionReference ≠ intent.collectionReference then
    .error (.invariant "WALLET_TOPUP_PARTNER_MISMATCH")
  else if intent.status = .credited ∧ intent.partnerCreditEventId = some fact.eventId then .ok intent
  else if intent.status ≠ .payosVerified ∧ intent.status ≠ .pendingPartner then .error (.invariant "WALLET_TOPUP_INVALID_TRANSITION")
  else .ok { intent with status := .credited, partnerCreditEventId := some fact.eventId }

def toGdsWalletFundingEvent (intent : GdsPayosTopupIntent) (fact : GdsPartnerVerifiedCredit) : Except Fault GdsWalletVerifiedEvent := do
  ensure (intent.status = .credited ∧ intent.partnerCreditEventId = some fact.eventId) (.invariant "WALLET_TOPUP_NOT_CREDITED")
  let _ ← acceptGdsPartnerCredit intent fact
  return {
    providerEventId := fact.eventId
    kind := .fundsCredited
    amountMinor := intent.amountMinor
    currency := "VND"
    providerTransactionId := fact.partnerTransactionId
    orderId := none }

def markGdsTopupAwaitingPartner (intent : GdsPayosTopupIntent) : Except Fault GdsPayosTopupIntent :=
  if intent.status = .pendingPartner then .ok intent
  else if intent.status ≠ .payosVerified then .error (.invariant "WALLET_TOPUP_INVALID_TRANSITION")
  else .ok { intent with status := .pendingPartner }

def cancelGdsTopup (intent : GdsPayosTopupIntent) : Except Fault GdsPayosTopupIntent :=
  if intent.status = .cancelled then .ok intent
  else if intent.status ≠ .created ∧ intent.status ≠ .pendingPayos then .error (.invariant "WALLET_TOPUP_INVALID_TRANSITION")
  else .ok { intent with status := .cancelled }

inductive TopupCall where
  | attach (link : GdsPayosCreatedLink)
  | collect (fact : GdsPayosVerifiedCollection)
  | credit (fact : GdsPartnerVerifiedCredit)
  | awaitPartner
  | cancel
deriving DecidableEq, Repr

section Calls

variable (parseUrl : String → Option Url)

def intentCall (intent : GdsPayosTopupIntent) : TopupCall → Except Fault GdsPayosTopupIntent
  | .attach link => attachGdsPayosLink parseUrl intent link
  | .collect fact => acceptGdsPayosCollection intent fact
  | .credit fact => acceptGdsPartnerCredit intent fact
  | .awaitPartner => markGdsTopupAwaitingPartner intent
  | .cancel => cancelGdsTopup intent

def intentStep (intent : GdsPayosTopupIntent) (call : TopupCall) : GdsPayosTopupIntent :=
  match intentCall parseUrl intent call with
  | .ok next => next
  | .error _ => intent

variable (intent next : GdsPayosTopupIntent)

structure LinkOf (link : GdsPayosCreatedLink) : Prop where
  named : link.paymentLinkId ≠ ""
  order : link.orderCode = intent.payosOrderCode
  amount : link.amountMinor = intent.amountMinor
  currency : link.currency = "VND"
  account : link.receivingAccountHash = intent.receivingAccountHash

structure CollectionOf (fact : GdsPayosVerifiedCollection) : Prop where
  order : fact.orderCode = intent.payosOrderCode
  amount : fact.amountMinor = intent.amountMinor
  currency : fact.currency = "VND"
  named : fact.collectionReference ≠ ""
  link : intent.paymentLinkId = some fact.paymentLinkId
  account : fact.receivingAccountHash = intent.receivingAccountHash

structure CreditOf (fact : GdsPartnerVerifiedCredit) : Prop where
  event : fact.eventId ≠ ""
  amount : fact.amountMinor = intent.amountMinor
  currency : fact.currency = "VND"
  source : intent.collectionReference = some fact.sourceCollectionReference

def TooLate (fact : GdsPayosVerifiedCollection) : Prop :=
  intent.status = .cancelled ∨ intent.expiresAt < fact.occurredAt

def Funded : Prop :=
  intent.status = .payosVerified ∨ intent.status = .pendingPartner ∨ intent.status = .credited

inductive Answer : TopupCall → GdsPayosTopupIntent → Prop where
  | linked (link : GdsPayosCreatedLink) : LinkOf intent link → intent.status = .created →
      Answer (.attach link) { intent with status := .pendingPayos, paymentLinkId := some link.paymentLinkId }
  | relinked (link : GdsPayosCreatedLink) : LinkOf intent link → intent.status = .pendingPayos →
      intent.paymentLinkId = some link.paymentLinkId → Answer (.attach link) intent
  | recollected (fact : GdsPayosVerifiedCollection) : CollectionOf intent fact →
      intent.collectionReference = some fact.collectionReference → Answer (.collect fact) intent
  | reviewed (fact : GdsPayosVerifiedCollection) : CollectionOf intent fact → present intent.collectionReference = false →
      TooLate intent fact →
      Answer (.collect fact) { intent with status := .review, collectionReference := some fact.collectionReference }
  | collected (fact : GdsPayosVerifiedCollection) : CollectionOf intent fact → present intent.collectionReference = false →
      ¬ TooLate intent fact → intent.status = .pendingPayos →
      Answer (.collect fact) { intent with status := .payosVerified, collectionReference := some fact.collectionReference }
  | recredited (fact : GdsPartnerVerifiedCredit) : CreditOf intent fact → intent.status = .credited →
      intent.partnerCreditEventId = some fact.eventId → Answer (.credit fact) intent
  | credited (fact : GdsPartnerVerifiedCredit) : CreditOf intent fact →
      intent.status = .payosVerified ∨ intent.status = .pendingPartner →
      Answer (.credit fact) { intent with status := .credited, partnerCreditEventId := some fact.eventId }
  | awaited : intent.status = .pendingPartner → Answer .awaitPartner intent
  | awaiting : intent.status = .payosVerified → Answer .awaitPartner { intent with status := .pendingPartner }
  | stayed : intent.status = .cancelled → Answer .cancel intent
  | cancelled : intent.status = .created ∨ intent.status = .pendingPayos → Answer .cancel { intent with status := .cancelled }

theorem attach_answers (link : GdsPayosCreatedLink) (ok : attachGdsPayosLink parseUrl intent link = .ok next) :
    Answer intent (.attach link) next := by
  unfold attachGdsPayosLink at ok
  rw [answered_refused, answered_refused, answered_refused] at ok
  obtain ⟨_, _, matched, ok⟩ := ok
  simp only [not_or, not_not] at matched
  obtain ⟨named, order, amount, currency, account⟩ := matched
  have own : LinkOf intent link := { named, order, amount, currency, account }
  by_cases repeated : intent.status = .pendingPayos ∧ intent.paymentLinkId = some link.paymentLinkId
  · rw [if_pos repeated] at ok
    obtain rfl := Except.ok.inj ok
    exact .relinked link own repeated.1 repeated.2
  · rw [if_neg repeated, answered_refused, not_not] at ok
    obtain ⟨created, ok⟩ := ok
    obtain rfl := Except.ok.inj ok
    exact .linked link own created

theorem collect_answers (fact : GdsPayosVerifiedCollection) (ok : acceptGdsPayosCollection intent fact = .ok next) :
    Answer intent (.collect fact) next := by
  unfold acceptGdsPayosCollection at ok
  rw [answered_refused, answered_refused] at ok
  obtain ⟨_, matched, ok⟩ := ok
  simp only [not_or, not_not] at matched
  obtain ⟨order, amount, currency, _, named, _, link, account⟩ := matched
  have own : CollectionOf intent fact := { order, amount, currency, named, link := link.symm, account }
  by_cases known : present intent.collectionReference = true
  · rw [if_pos known] at ok
    by_cases same : intent.collectionReference = some fact.collectionReference
    · rw [if_pos same] at ok
      obtain rfl := Except.ok.inj ok
      exact .recollected fact own same
    · rw [if_neg same] at ok
      cases ok
  · rw [if_neg known] at ok
    have fresh : present intent.collectionReference = false := Bool.eq_false_of_not_eq_true known
    by_cases late : intent.status = .cancelled ∨ intent.expiresAt < fact.occurredAt
    · rw [if_pos late] at ok
      obtain rfl := Except.ok.inj ok
      exact .reviewed fact own fresh late
    · rw [if_neg late, answered_refused, not_not] at ok
      obtain ⟨pending, ok⟩ := ok
      obtain rfl := Except.ok.inj ok
      exact .collected fact own fresh late pending

theorem credit_answers (fact : GdsPartnerVerifiedCredit) (ok : acceptGdsPartnerCredit intent fact = .ok next) :
    Answer intent (.credit fact) next := by
  unfold acceptGdsPartnerCredit at ok
  rw [answered_refused, answered_refused] at ok
  obtain ⟨_, matched, ok⟩ := ok
  simp only [not_or, not_not] at matched
  obtain ⟨event, _, amount, currency, _, source⟩ := matched
  have own : CreditOf intent fact := { event, amount, currency, source := source.symm }
  by_cases repeated : intent.status = .credited ∧ intent.partnerCreditEventId = some fact.eventId
  · rw [if_pos repeated] at ok
    obtain rfl := Except.ok.inj ok
    exact .recredited fact own repeated.1 repeated.2
  · rw [if_neg repeated, answered_refused, not_and_or, not_not, not_not] at ok
    obtain ⟨eligible, ok⟩ := ok
    obtain rfl := Except.ok.inj ok
    exact .credited fact own eligible

theorem await_answers (ok : markGdsTopupAwaitingPartner intent = .ok next) : Answer intent .awaitPartner next := by
  unfold markGdsTopupAwaitingPartner at ok
  by_cases awaiting : intent.status = .pendingPartner
  · rw [if_pos awaiting] at ok
    obtain rfl := Except.ok.inj ok
    exact .awaited awaiting
  · rw [if_neg awaiting, answered_refused, not_not] at ok
    obtain ⟨verified, ok⟩ := ok
    obtain rfl := Except.ok.inj ok
    exact .awaiting verified

theorem cancel_answers (ok : cancelGdsTopup intent = .ok next) : Answer intent .cancel next := by
  unfold cancelGdsTopup at ok
  by_cases cancelled : intent.status = .cancelled
  · rw [if_pos cancelled] at ok
    obtain rfl := Except.ok.inj ok
    exact .stayed cancelled
  · rw [if_neg cancelled, answered_refused, not_and_or, not_not, not_not] at ok
    obtain ⟨open_, ok⟩ := ok
    obtain rfl := Except.ok.inj ok
    exact .cancelled open_

theorem call_answers (call : TopupCall) (ok : intentCall parseUrl intent call = .ok next) : Answer intent call next := by
  cases call with
  | attach link => exact attach_answers parseUrl intent next link ok
  | collect fact => exact collect_answers intent next fact ok
  | credit fact => exact credit_answers intent next fact ok
  | awaitPartner => exact await_answers intent next ok
  | cancel => exact cancel_answers intent next ok

theorem step_answers (call : TopupCall) :
    intentStep parseUrl intent call = intent ∨ Answer intent call (intentStep parseUrl intent call) := by
  unfold intentStep
  cases answered : intentCall parseUrl intent call with
  | error e => exact .inl rfl
  | ok next => exact .inr (call_answers parseUrl intent next call answered)

end Calls

end EduAi.Gds
