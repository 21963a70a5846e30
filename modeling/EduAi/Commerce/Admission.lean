import EduAi.Commerce.Writes

set_option autoImplicit false

namespace EduAi.Commerce

open EduAi.Store EduAi.Gds EduAi.Payments

def beside (db t : CommerceDb) : CommerceDb :=
  { t with
    versions := db.versions
    vouchers := db.vouchers
    redemptions := db.redemptions
    orders := db.orders
    lines := db.lines
    benefits := db.benefits
    reservations := db.reservations
    intents := db.intents
    attempts := db.attempts
    events := db.events
    settlements := db.settlements
    cases := db.cases
    refunds := db.refunds
    bankRequests := db.bankRequests
    bankEvidence := db.bankEvidence
    bankApprovals := db.bankApprovals
    effects := db.effects
    subscriptions := db.subscriptions
    grants := db.grants
    gds := db.gds }

-- Confirming an order and completing its fulfilment belong to few transactions; the other patches are routine.
def OrderPatch.routine : OrderPatch → Bool
  | .confirm _ _ => false
  | .fulfill status => status ≠ .fulfilled
  | _ => true

def ReservationPatch.returns : ReservationPatch → Bool
  | .consume _ => false
  | _ => true

structure EditsVoucher (old new : Voucher) : Prop where
  id : new.id = old.id
  redeemedCount : new.redeemedCount = old.redeemedCount

-- What the services put into a collection's settlement, next to the facts the triggers compare.
structure Collected (db : CommerceDb) (s : CommerceSettlement) (a : CommercePaymentAttempt) (e : CommercePaymentEvent) : Prop where
  attempt : attemptOfSettlement db s = some a
  event : eventOfSettlement db s = some e
  occurredAt : s.settledAt = e.providerOccurredAt
  nextStatus : s.disposition = .matched → e.nextStatus = .paid
  collector : a.provider ≠ .gds
  orderCode : isPaymentProviderName a.provider = true → a.providerOrderCode.isSome
  identity : isPaymentProviderName a.provider = true → e.providerPaymentIdentity ≠ ""
  reference : isPaymentProviderName a.provider = true → e.providerSettlementReference ≠ ""

def settledKinds : List String :=
  ["duplicate_collection", "late_payment", "paid_not_fulfilled"]

def KeyedCase (c : CommerceReconciliationCase) : Prop :=
  ∃ attemptId kind rest, c.sourceKey = attemptId :: kind :: rest ∧ c.paymentAttemptId = some attemptId ∧
    (kind ∈ settledKinds ∨ c.settlementId = none)

-- What the routine writes of one transaction may do to the rows of bank transfers, to the reservations it gives back and to
-- the rows that give access.
structure Scope where
  banks : Prop
  returns : Prop
  grants : CourseAccessGrant → Prop
  subscriptions : MembershipSubscription → Prop
  edits : CommerceDb → Voucher → Voucher → Prop

def Scope.everything : Scope where
  banks := True
  returns := True
  grants := fun _ => True
  subscriptions := fun _ => True
  edits := fun _ _ _ => True

def Scope.nothing : Scope where
  banks := False
  returns := False
  grants := fun _ => False
  subscriptions := fun _ => False
  edits := fun _ _ _ => False

-- The writes of every transaction that confirms no order, takes no promotion and fulfils nothing, with what the services
-- have checked on top of the triggers.
inductive RoutineWrite (scope : Scope) : CommerceDb → CommerceDb → Prop where
  | beside (db t : CommerceDb) : RoutineWrite scope db (beside db t)
  | version (db : CommerceDb) (v : MembershipPlanVersion) (fresh : free (fun v => some v.id) v db.versions = true) :
      RoutineWrite scope db { db with versions := db.versions ++ [v] }
  | voucher (db : CommerceDb) (v : Voucher) (fresh : free (fun v => some v.id) v db.vouchers = true)
      (unused : v.redeemedCount = 0) : RoutineWrite scope db { db with vouchers := db.vouchers ++ [v] }
  | editVoucher (db : CommerceDb) (old new : Voucher) (found : voucherById db old.id = some old) (edits : EditsVoucher old new)
      (allowed : scope.edits db old new) :
      RoutineWrite scope db { db with vouchers := updateWhere (fun v => v.id = old.id) (fun _ => new) db.vouchers }
  | order (db : CommerceDb) (o : CommerceOrder) (fits : OrderFits db o) :
      RoutineWrite scope db { db with orders := db.orders ++ [o] }
  | moveOrder (db : CommerceDb) (id : Uuid) (patch : OrderPatch) (old : CommerceOrder) (moves : OrderMoves db id patch old)
      (routine : patch.routine = true) :
      RoutineWrite scope db { db with orders := updateWhere (fun o => o.id = id) patch.apply db.orders }
  | line (db : CommerceDb) (l : CommerceOrderLine) (o : CommerceOrder) (fits : LineFits db l o)
      (awaiting : o.status = .pendingPayment) : RoutineWrite scope db { db with lines := db.lines ++ [l] }
  | intent (db : CommerceDb) (i : MembershipCheckoutIntent) (o : CommerceOrder) (fits : IntentFits db i o)
      (awaiting : o.status = .pendingPayment) : RoutineWrite scope db { db with intents := db.intents ++ [i] }
  | benefit (db : CommerceDb) (b : CommerceOrderLineBenefit) (r : CommercePromotionReservation) (fits : BenefitFits db b r) :
      RoutineWrite scope db { db with benefits := db.benefits ++ [b] }
  | returnReservation (db : CommerceDb) (id : Uuid) (patch : ReservationPatch) (old : CommercePromotionReservation)
      (moves : ReservationMoves db id patch old) (returns : patch.returns = true) (allowed : scope.returns) :
      RoutineWrite scope db { db with reservations := updateWhere (fun r => r.id = id) patch.apply db.reservations }
  | attempt (db : CommerceDb) (a : CommercePaymentAttempt) (o : CommerceOrder) (fits : AttemptFits db a o)
      (awaiting : o.status = .pendingPayment) : RoutineWrite scope db { db with attempts := db.attempts ++ [a] }
  | moveAttempt (db : CommerceDb) (id : Uuid) (patch : AttemptPatch) (old : CommercePaymentAttempt)
      (moves : AttemptMoves db id patch old)
      (own : old.provider = .bankTransfer → old.status = .created ∨ (patch.apply old).status = old.status ∨ scope.banks) :
      RoutineWrite scope db { db with attempts := updateWhere (fun a => a.id = id) patch.apply db.attempts }
  | event (db : CommerceDb) (e : CommercePaymentEvent) (a : CommercePaymentAttempt) (fits : EventFits db e a)
      (identified : a.providerPaymentIdentity = some e.providerPaymentIdentity) :
      RoutineWrite scope db { db with events := db.events ++ [e] }
  | surplus (db : CommerceDb) (now : Instant) (s : CommerceSettlement) (o : CommerceOrder) (fits : SettlementFits now db s o)
      (disposition : s.disposition = .duplicateCollection ∨ s.disposition = .lateCollection)
      (collected : s.kind = .providerCollection → ∃ a e, Collected db s a e) :
      RoutineWrite scope db { db with settlements := db.settlements ++ [s] }
  | openCase (db : CommerceDb) (c : CommerceReconciliationCase) (fits : CaseFits db c) (keyed : KeyedCase c) :
      RoutineWrite scope db { db with cases := db.cases ++ [c] }
  | recheckCase (db : CommerceDb) (id : Uuid) (now : Instant) (old : CommerceReconciliationCase)
      (moves : CaseMoves db id (.recheck now) old) :
      RoutineWrite scope db { db with cases := updateWhere (fun c => c.id = id) (CasePatch.recheck now).apply db.cases }
  | resolveCase (db : CommerceDb) (id : Uuid) (resolution : CommerceReconciliationResolution) (actorId : Uuid) (now : Instant)
      (old : CommerceReconciliationCase) (moves : CaseMoves db id (.resolve resolution actorId now) old)
      (settled : old.settlementId ≠ none) : RoutineWrite scope db { db with
        cases := updateWhere (fun c => c.id = id) (CasePatch.resolve resolution actorId now).apply db.cases }
  | refund (db : CommerceDb) (r : CommerceRefund) (s : CommerceSettlement) (fits : RefundFits db r s)
      (totals : total (fun a => a.amountMinor) r.allocations = r.amountMinor) (linked : ∀ id, r.reconciliationCaseId = some id →
      ∃ c ∈ db.cases, c.id = id ∧ c.settlementId ≠ none) : RoutineWrite scope db { db with refunds := db.refunds ++ [r] }
  | moveRefund (db : CommerceDb) (id : Uuid) (patch : RefundPatch) (old : CommerceRefund) (moves : RefundMoves db id patch old) :
      RoutineWrite scope db { db with refunds := updateWhere (fun r => r.id = id) patch.apply db.refunds }
  | bankRequest (db : CommerceDb) (r : CommerceBankTransferRequest) (fits : BankRequestFits db r)
      (allowed : scope.banks) :
      RoutineWrite scope db { db with bankRequests := db.bankRequests ++ [r] }
  | moveBankRequest (db : CommerceDb) (id : Uuid) (status : BankRequestStatus) (old : CommerceBankTransferRequest)
      (moves : BankRequestMoves db id status old) (allowed : scope.banks) : RoutineWrite scope db { db with
        bankRequests := updateWhere (fun r => r.id = id) (fun r => { r with status }) db.bankRequests }
  | evidence (db : CommerceDb) (e : CommerceBankStatementEvidence) (r : CommerceBankTransferRequest) (fits : EvidenceFits db e r)
      (allowed : scope.banks) :
      RoutineWrite scope db { db with bankEvidence := db.bankEvidence ++ [e] }
  | approval (db : CommerceDb) (p : CommerceBankApproval) (e : CommerceBankStatementEvidence) (fits : ApprovalFits db p e)
      (allowed : scope.banks) :
      RoutineWrite scope db { db with bankApprovals := db.bankApprovals ++ [p] }
  | subscription (db : CommerceDb) (s : MembershipSubscription) (fits : SubscriptionFits db s)
      (allowed : scope.subscriptions s) :
      RoutineWrite scope db { db with subscriptions := db.subscriptions ++ [s] }
  | cancelSubscriptions (db : CommerceDb) (p : MembershipSubscription → Bool) :
      RoutineWrite scope db { db with
        subscriptions := updateWhere (fun s => p s && s.active) (fun s => { s with active := false }) db.subscriptions }
  | grant (db : CommerceDb) (g : CourseAccessGrant) (fits : GrantFits db g) (allowed : scope.grants g) :
      RoutineWrite scope db { db with grants := db.grants ++ [g] }
  | revokeGrant (db : CommerceDb) (id : Uuid) (reason : String) (old : CourseAccessGrant) (moves : GrantMoves db id old) :
      RoutineWrite scope db { db with
        grants := updateWhere (fun g => g.id = id) (fun g => { g with active := false, revocationReason := some reason })
          db.grants }
  | wallet (db : CommerceDb) (now : Instant) (s : Statement) (gds : GdsDb) (ok : execute now s db.gds = .ok ((), gds)) :
      RoutineWrite scope db { db with gds }

-- The fulfilment rows an order line asks for: its effect types and the source each of them names.
def expectedEffects (db : CommerceDb) (l : CommerceOrderLine) : List (String × String) :=
  match l.productType with
  | .course => [("COURSE_ACCESS", l.productReferenceId)]
  | .membership =>
      match intentOf db l.orderId with
      | none => []
      | some intent =>
          match versionById db intent.versionId with
          | none => []
          | some version =>
              [("MEMBERSHIP_TERM", intent.versionId)] ++
                version.includedCourses.map (fun courseId => ("MEMBERSHIP_COURSE_ACCESS", courseId)) ++
                (intent.removedCourses.filter (fun removed => removed.graceStartsAt.isSome ∧ removed.graceEndsAt.isSome)).map
                  (fun removed => ("MEMBERSHIP_GRACE_ACCESS", removed.courseId)) ++
                version.serviceEntitlements.map (fun policy => ("MEMBERSHIP_SERVICE_ACCESS", policy.definitionId))

structure EffectExpected (db : CommerceDb) (e : CommerceFulfillmentEffect) (l : CommerceOrderLine) : Prop where
  line : l ∈ db.lines
  named : l.id = e.orderLineId
  order : l.orderId = e.orderId
  expected : (e.effectType, e.sourceId) ∈ expectedEffects db l

def Covered (db : CommerceDb) (l : CommerceOrderLine) (expected : String × String) : Prop :=
  ∃ e ∈ db.effects, e.orderId = l.orderId ∧ effectKey e = (l.id, expected.1, expected.2)

structure LineDelivered (db : CommerceDb) (l : CommerceOrderLine) : Prop where
  snapshot : l.productType = .membership →
    ∃ intent version, intentOf db l.orderId = some intent ∧ versionById db intent.versionId = some version
  covered : ∀ expected ∈ expectedEffects db l, Covered db l expected

def EffectsComplete (db : CommerceDb) (orderId : Uuid) : Prop :=
  ∀ l ∈ db.lines, l.orderId = orderId → LineDelivered db l

inductive Write : CommerceDb → CommerceDb → Prop where
  | routine (db : CommerceDb) {scope : Scope} (t : CommerceDb) (w : RoutineWrite scope db t) : Write db t
  | settle (db : CommerceDb) (now : Instant) (s : CommerceSettlement) (o : CommerceOrder) (fits : SettlementFits now db s o)
      (collected : s.kind = .providerCollection → ∃ a e, Collected db s a e) :
      Write db { db with settlements := db.settlements ++ [s] }
  | confirm (db : CommerceDb) (id settlementId : Uuid) (now : Instant) (old : CommerceOrder)
      (moves : OrderMoves db id (.confirm settlementId now) old) (awaiting : old.status = .pendingPayment) :
      Write db { db with orders := updateWhere (fun o => o.id = id) (OrderPatch.confirm settlementId now).apply db.orders }
  | effect (db : CommerceDb) (e : CommerceFulfillmentEffect) (l : CommerceOrderLine) (fits : EffectFits db e)
      (expected : EffectExpected db e l) : Write db { db with effects := db.effects ++ [e] }
  | fulfilled (db : CommerceDb) (id : Uuid) (old : CommerceOrder) (moves : OrderMoves db id (.fulfill .fulfilled) old)
      (complete : EffectsComplete db id) : Write db { db with
        orders := updateWhere (fun o => o.id = id) (OrderPatch.fulfill .fulfilled).apply db.orders }
  | reserve (db : CommerceDb) (r : CommercePromotionReservation) (o : CommerceOrder) (l : CommerceOrderLine)
      (fits : ReservationFits db r o l) : Write db { db with reservations := db.reservations ++ [r] }
  | consume (db : CommerceDb) (id operationId : Uuid) (old : CommercePromotionReservation)
      (moves : ReservationMoves db id (.consume operationId) old) : Write db { db with
        reservations := updateWhere (fun r => r.id = id) (ReservationPatch.consume operationId).apply db.reservations }
  | redeem (db : CommerceDb) (r : VoucherRedemption) (v : Voucher) (fits : RedemptionFits db r v) :
      Write db { db with redemptions := db.redemptions ++ [r] }
  | countRedeemed (db : CommerceDb) (id : Uuid) (v : Voucher) (found : voucherById db id = some v) :
      Write db { db with vouchers := updateWhere (fun v => v.id = id) countRedeemed db.vouchers }

theorem routine_anywhere (scope : Scope) (db t : CommerceDb) (w : RoutineWrite .nothing db t) : RoutineWrite scope db t := by
  cases w with
  | moveAttempt id patch old moves own =>
    refine .moveAttempt db id patch old moves (fun bank => ?_)
    rcases own bank with created | same | never
    · exact .inl created
    · exact .inr (.inl same)
    · exact never.elim
  | bankRequest r fits allowed => exact allowed.elim
  | moveBankRequest id status old moves allowed => exact allowed.elim
  | evidence e r fits allowed => exact allowed.elim
  | approval p e fits allowed => exact allowed.elim
  | editVoucher old new found edits allowed => exact allowed.elim
  | subscription s fits allowed => exact allowed.elim
  | grant g fits allowed => exact allowed.elim
  | beside t => exact .beside db t
  | version v fresh => exact .version db v fresh
  | voucher v fresh unused => exact .voucher db v fresh unused
  | order o fits => exact .order db o fits
  | moveOrder id patch old moves routine => exact .moveOrder db id patch old moves routine
  | line l o fits awaiting => exact .line db l o fits awaiting
  | intent i o fits awaiting => exact .intent db i o fits awaiting
  | benefit b r fits => exact .benefit db b r fits
  | returnReservation id patch old moves returns allowed => exact allowed.elim
  | attempt a o fits awaiting => exact .attempt db a o fits awaiting
  | event e a fits identified => exact .event db e a fits identified
  | surplus now s o fits disposition collected => exact .surplus db now s o fits disposition collected
  | openCase c fits keyed => exact .openCase db c fits keyed
  | recheckCase id now old moves => exact .recheckCase db id now old moves
  | resolveCase id resolution actorId now old moves settled => exact .resolveCase db id resolution actorId now old moves settled
  | refund r s fits totals linked => exact .refund db r s fits totals linked
  | moveRefund id patch old moves => exact .moveRefund db id patch old moves
  | cancelSubscriptions p => exact .cancelSubscriptions db p
  | revokeGrant id reason old moves => exact .revokeGrant db id reason old moves
  | wallet now s gds ok => exact .wallet db now s gds ok

theorem routine_write (db t : CommerceDb) (w : RoutineWrite .everything db t) : Write db t :=
  .routine db t w

end EduAi.Commerce
