import EduAi.Payments.MoneyTrace

set_option autoImplicit false

namespace EduAi.Payments

open EduAi.Store EduAi.Gds EduAi.Commerce

def lineAmount (lineId : Uuid) (r : CommerceRefund) : Int :=
  total (fun a => a.amountMinor) (r.allocations.filter (fun a => a.orderLineId = lineId))

def refundedBy (settlementId lineId : Uuid) (r : CommerceRefund) : Int :=
  if r.status = .recorded ∧ r.settlementId = settlementId then lineAmount lineId r else 0

def refundedAgainst (db : CommerceDb) (settlementId lineId : Uuid) : Int :=
  total (refundedBy settlementId lineId) db.refunds

def coversLine (db : CommerceDb) (l : CommerceOrderLine) (settlementId : Uuid) : Bool :=
  0 < refundedAgainst db settlementId l.id ∧ l.finalAmountMinor ≤ refundedAgainst db settlementId l.id

def refundedInFull (db : CommerceDb) (l : CommerceOrderLine) : Bool :=
  ((orderById db l.orderId).bind (fun o => o.confirmedSettlementId)).any (coversLine db l)

def RefundsPositive (db : CommerceDb) : Prop :=
  ∀ r ∈ db.refunds, ∀ a ∈ r.allocations, 0 < a.amountMinor

theorem lineAmount_nonneg (lineId : Uuid) (r : CommerceRefund) (positive : ∀ a ∈ r.allocations, 0 < a.amountMinor) :
    0 ≤ lineAmount lineId r :=
  total_nonneg _ _ (fun a ha => (positive a (List.mem_filter.mp ha).1).le)

theorem refundedBy_nonneg (settlementId lineId : Uuid) (r : CommerceRefund) (positive : ∀ a ∈ r.allocations, 0 < a.amountMinor) :
    0 ≤ refundedBy settlementId lineId r := by
  unfold refundedBy
  split
  · exact lineAmount_nonneg lineId r positive
  · exact Int.le_refl 0

theorem refundedBy_requested (settlementId lineId : Uuid) (r : CommerceRefund) (requested : r.status = .requested) :
    refundedBy settlementId lineId r = 0 := by
  simp [refundedBy, requested]

section Refunds

variable (db t : CommerceDb)

theorem write_refundsPositive (w : Write db t) (positive : RefundsPositive db) : RefundsPositive t := by
  cases w with
  | routine _ w =>
    cases w with
    | refund r s fits totals linked =>
      intro r' member a ha
      rcases List.mem_append.mp member with old | new
      · exact positive r' old a ha
      · rw [List.mem_singleton.mp new] at ha
        exact fits.positive.2 a ha
    | moveRefund id patch old moves =>
      intro r' member a ha
      obtain ⟨r, before, rfl⟩ := (mem_updateWhere _ _ _ _).mp member
      refine positive r before a ?_
      split at ha
      · cases patch <;> exact ha
      · exact ha
    | _ => exact positive
  | _ => exact positive

theorem refundById_some (id : Uuid) (r : CommerceRefund) (found : refundById db id = some r) : r ∈ db.refunds ∧ r.id = id := by
  obtain ⟨member, same⟩ := find_some _ db.refunds r found
  exact ⟨member, of_decide_eq_true same⟩

theorem refunds_moved (g : CommerceRefund → Int) (requested : ∀ r, r.status = .requested → g r = 0) (keys : Keys db) (id : Uuid)
    (patch : RefundPatch) (old : CommerceRefund) (moves : RefundMoves db id patch old) :
    total g (updateWhere (fun r => r.id = id) patch.apply db.refunds) = total g db.refunds + g (patch.apply old) := by
  obtain ⟨member, named⟩ := refundById_some db id old moves.found
  have sum := total_updateWhere_one g (fun r => some r.id) (fun r => r.id = id) patch.apply db.refunds keys.refunds old id member
    (by simp [named]) (by simp [named]) (fun r _ selected => by simpa using selected)
  rw [requested old moves.requested, Int.sub_zero] at sum
  exact sum

theorem patched_allocations (patch : RefundPatch) (r : CommerceRefund) : (patch.apply r).allocations = r.allocations := by
  cases patch <;> rfl

theorem write_refundedAgainst (w : Write db t) (keys : Keys db) (positive : RefundsPositive db) (settlementId lineId : Uuid) :
    refundedAgainst db settlementId lineId ≤ refundedAgainst t settlementId lineId := by
  cases w with
  | routine _ w =>
    cases w with
    | refund r s fits totals linked =>
      have added : refundedAgainst { db with refunds := db.refunds ++ [r] } settlementId lineId =
          refundedAgainst db settlementId lineId + refundedBy settlementId lineId r := total_append_one _ _ _
      rw [added, refundedBy_requested settlementId lineId r fits.initial.1]
      omega
    | moveRefund id patch old moves =>
      have moved : refundedAgainst { db with refunds := updateWhere (fun r => r.id = id) patch.apply db.refunds } settlementId lineId =
          refundedAgainst db settlementId lineId + refundedBy settlementId lineId (patch.apply old) :=
        refunds_moved db _ (refundedBy_requested settlementId lineId) keys id patch old moves
      obtain ⟨member, _⟩ := refundById_some db id old moves.found
      have gained := refundedBy_nonneg settlementId lineId (patch.apply old)
        (fun a ha => positive old member a (by rw [← patched_allocations patch old]; exact ha))
      omega
    | _ => exact Int.le_refl _
  | _ => exact Int.le_refl _

theorem writes_refundedAgainst (writes : Writes Write db t) (keys : Keys db) (positive : RefundsPositive db)
    (settlementId lineId : Uuid) : refundedAgainst db settlementId lineId ≤ refundedAgainst t settlementId lineId :=
  writes_relation (fun s u => refundedAgainst s settlementId lineId ≤ refundedAgainst u settlementId lineId)
    (fun _ => Int.le_refl _) (fun _ _ _ first second => Int.le_trans first second) (fun s => Keys s ∧ RefundsPositive s)
    (fun s u w held => ⟨write_keys s u w held.1, write_refundsPositive s u w held.2⟩)
    (fun s u w held => write_refundedAgainst s u w held.1 held.2 settlementId lineId) db t writes ⟨keys, positive⟩

theorem refundedInFull_some (l : CommerceOrderLine) (refunded : refundedInFull db l = true) :
    ∃ o settlementId, orderById db l.orderId = some o ∧ o.confirmedSettlementId = some settlementId ∧
      coversLine db l settlementId = true := by
  obtain ⟨settlementId, named, covers⟩ := (Option.any_eq_true _ _).mp refunded
  obtain ⟨o, found, confirmed⟩ := Option.bind_eq_some_iff.mp named
  exact ⟨o, settlementId, found, confirmed, covers⟩

theorem refundedInFull_kept (writes : Writes Write db t) (keys : Keys db) (positive : RefundsPositive db) (l : CommerceOrderLine)
    (refunded : refundedInFull db l = true) : refundedInFull t l = true := by
  obtain ⟨o, settlementId, found, confirmed, covers⟩ := refundedInFull_some db l refunded
  obtain ⟨member, named⟩ := orderById_some db l.orderId o found
  obtain ⟨o', member', same⟩ := (writes_kept db t keys writes).orders o member
  have found' := orderById_of_mem t (writes_keys db t keys writes) o' member'
  rw [same.id.trans named] at found'
  have more := writes_refundedAgainst db t writes keys positive settlementId l.id
  obtain ⟨some', whole⟩ := of_decide_eq_true covers
  refine (Option.any_eq_true _ _).mpr ⟨settlementId, ?_, decide_eq_true ⟨by omega, by omega⟩⟩
  rw [found']
  exact same.settlement settlementId confirmed

theorem refundedInFull_confirmed (backed : Backed db) (l : CommerceOrderLine) (refunded : refundedInFull db l = true)
    (o : CommerceOrder) (found : orderById db l.orderId = some o) : o.status = .confirmed := by
  obtain ⟨o', settlementId, found', confirmed, _⟩ := refundedInFull_some db l refunded
  rw [found] at found'
  cases found'
  have member := (orderById_some db l.orderId o found).1
  exact (backed.orders o member).1.mp (by rw [confirmed]; rfl)

end Refunds

def receiptAccess : Scope where
  banks := True
  returns := True
  grants := fun g => g.sourceType = .unverifiedReceiptAccess
  subscriptions := fun m => m.sourceOrderLineId = none
  edits := fun _ _ _ => True

def otherAccess (lineId : Uuid) : Scope where
  banks := True
  returns := True
  grants := fun g => ¬ GrantOf lineId g
  subscriptions := fun m => ¬ TermOf lineId m
  edits := fun _ _ _ => True

def completing (orders : Uuid → Prop) : Allowance :=
  { unrestricted with
    scope := receiptAccess
    completes := orders }

def sparing (l : CommerceOrderLine) : Allowance :=
  completing (fun orderId => orderId ≠ l.orderId)

theorem receiptAccess_other (lineId : Uuid) (db t : CommerceDb) (gained : Gained receiptAccess db t) :
    Gained (otherAccess lineId) db t := by
  refine ⟨fun g member active => ?_, fun m member active => ?_⟩
  · rcases gained.grants g member active with before | receipt
    · exact .inl before
    · refine .inr ?_
      have isReceipt : g.sourceType = .unverifiedReceiptAccess := receipt
      rintro (⟨purchase | membership, _⟩ | ⟨grace, _⟩) <;> simp_all
  · rcases gained.subscriptions m member active with before | receipt
    · exact .inl before
    · refine .inr ?_
      have unsourced : m.sourceOrderLineId = none := receipt
      intro named
      rw [TermOf, unsourced] at named
      cases named

section Lines

variable (db t : CommerceDb) (l : CommerceOrderLine)

theorem lineAccess_other (keys : Keys db) (member : l ∈ db.lines) (buyerId orderId : Uuid) (apart : orderId ≠ l.orderId)
    (gained : Gained (lineAccess buyerId (linesOf db orderId)) db t) : Gained (otherAccess l.id) db t := by
  have foreign : ∀ l' ∈ linesOf db orderId, l'.id ≠ l.id := by
    intro l' listed same
    obtain ⟨inLines, ordered⟩ := List.mem_filter.mp listed
    have sameLine := unique_eq _ db.lines keys.lines l' l l.id inLines member (congrArg some same) rfl
    rw [sameLine] at ordered
    exact apart (of_decide_eq_true ordered).symm
  refine ⟨fun g inGrants active => ?_, fun m inTerms active => ?_⟩
  · rcases gained.grants g inGrants active with before | ⟨l', listed, of⟩
    · exact .inl before
    · exact .inr (fun own => foreign l' listed (grantOf_same l'.id l.id g of.of own))
  · rcases gained.subscriptions m inTerms active with before | ⟨l', listed, of⟩
    · exact .inl before
    · refine .inr (fun own => foreign l' listed ?_)
      rw [TermOf, of] at own
      exact Option.some.inj own

theorem confirmation_gained (scope : Scope) (now : Instant) (s : CommerceSettlement) (o : CommerceOrder) (u : CommerceDb)
    (confirms : Confirmation scope db now s o u) : Gained scope db (confirmedStore now s u) := by
  have moved := routines_gained scope _ u confirms.moved
  exact ⟨moved.grants, moved.subscriptions⟩

structure Refunded (db : CommerceDb) (l : CommerceOrderLine) : Prop where
  whole : Whole db
  positive : RefundsPositive db
  member : l ∈ db.lines
  inFull : refundedInFull db l = true

theorem transition_refunded (allow : Allowance) (refunded : Refunded db l) (step : Transition allow db t) : Refunded t l := by
  have writes := transition_writes allow db t step
  have keys := refunded.whole.delivered.backed.keys
  exact ⟨transition_whole allow db t refunded.whole step,
    writes_invariant RefundsPositive (fun s u w => write_refundsPositive s u w) db t writes refunded.positive,
    (writes_kept db t keys writes).appends.lines.subset refunded.member,
    refundedInFull_kept db t writes keys refunded.positive l refunded.inFull⟩

theorem transition_spares (refunded : Refunded db l) (step : Transition (sparing l) db t) : Gained (otherAccess l.id) db t := by
  have keys := refunded.whole.delivered.backed.keys
  cases step with
  | routine t w => exact receiptAccess_other l.id db t (routine_gained receiptAccess db t w)
  | collected now s o u confirms matched banked =>
    exact receiptAccess_other l.id db _ (confirmation_gained db receiptAccess now s o u confirms)
  | gifted now s o u confirms internal free allowed =>
    exact receiptAccess_other l.id db _ (confirmation_gained db receiptAccess now s o u confirms)
  | granted now s o u t confirms internal done =>
    -- The order confirmed here was awaiting its payment, and the line's order is paid.
    have apart : s.orderId ≠ l.orderId := by
      intro same
      have found := confirms.fits.order
      rw [same] at found
      have paid := refundedInFull_confirmed db refunded.whole.delivered.backed l refunded.inFull o found
      rw [confirms.awaiting] at paid
      cases paid
    have path := confirmation_writes db now s o u confirms
    have first := receiptAccess_other l.id db _ (confirmation_gained db receiptAccess now s o u confirms)
    obtain ⟨inOrders, named⟩ := confirmation_order db now s o u confirms
    have second := lineAccess_other (confirmedStore now s u) t l (writes_keys db _ keys path)
      ((writes_kept db _ keys path).appends.lines.subset refunded.member) _ s.orderId apart (done.access _ inOrders named)
    exact gained_trans _ db _ t first second
  | completed orderId o t found confirmed unfulfilled done allowed =>
    obtain ⟨inOrders, named⟩ := orderById_some db orderId o found
    exact lineAccess_other db t l keys refunded.member _ orderId allowed (done.access o inOrders named)
  | _ => exact gained_beside _ db _ rfl rfl

theorem transitions_spare (refunded : Refunded db l) (steps : Writes (Transition (sparing l)) db t) :
    Gained (otherAccess l.id) db t :=
  writes_relation (Gained (otherAccess l.id)) (gained_refl _) (gained_trans _) (fun s => Refunded s l)
    (fun s u moved held => transition_refunded s u l (sparing l) held moved)
    (fun s u moved held => transition_spares s u l held moved) db t steps refunded

end Lines

section Runs

variable (deployment : Deployment)

-- No fulfilment that requireCanonicalPayment lets through is asked for an order with a line that is refunded in full,
-- unless the order is fulfilled already.
def sparesRefunded (s : System) : Input → Prop
  | .fulfill _ orderId settlementId => (requireCanonicalPayment deployment s.now orderId settlementId s.db).isOk = true →
      ∀ o, orderById s.db orderId = some o → o.fulfillmentStatus ≠ .fulfilled →
        ∀ l ∈ linesOf s.db orderId, refundedInFull s.db l = false
  | _ => True

-- The payment that a fulfilment names is one the order can be fulfilled for.
def Payable (s : System) (i : Input) : Prop :=
  ∀ draw orderId settlementId, i = .fulfill draw orderId settlementId →
    (requireCanonicalPayment deployment s.now orderId settlementId s.db).isOk = true

theorem refused_fulfillment (s : System) (draw : AccessDraw) (orderId settlementId : Uuid)
    (refused : (requireCanonicalPayment deployment s.now orderId settlementId s.db).isOk = false) :
    (step deployment s (.fulfill draw orderId settlementId)).db = s.db := by
  have stays : Wlp (fulfillmentTxn deployment s.now draw orderId settlementId) (fun _ t => t = s.db) s.db := by
    rw [fulfillmentTxn, wlp_bind]
    intro payment t ran
    rw [ran] at refused
    cases refused
  exact commit_of_wlp _ (fun t => t = s.db) s.db rfl (transaction_wlp _ _ s.db stays)

theorem completing_admits (orders : Uuid → Prop) (s : System) (i : Input) (completes : ∀ draw orderId settlementId,
    i = .fulfill draw orderId settlementId → ∀ o, orderById s.db orderId = some o → o.fulfillmentStatus ≠ .fulfilled → orders orderId) :
    Admits (completing orders) s i := by
  have admits := unrestricted_admits s i
  cases i with
  | createOrder draw request owned =>
    exact ⟨fun _ => ⟨fun _ _ _ _ _ _ _ => trivial, fun _ => trivial⟩, fun _ _ => trivial⟩
  | fulfill draw orderId settlementId => exact completes draw orderId settlementId rfl
  | grantReceipt g => exact id
  | subscribeReceipt m => exact id
  | _ => exact admits

theorem sparing_admits (s : System) (i : Input) (l : CommerceOrderLine) (refunded : Refunded s.db l)
    (spares : sparesRefunded deployment s i) (payable : Payable deployment s i) : Admits (sparing l) s i := by
  refine completing_admits _ s i (fun draw orderId settlementId isFulfill o found unfulfilled same => ?_)
  rw [isFulfill] at spares
  have listed : l ∈ linesOf s.db orderId := List.mem_filter.mpr ⟨refunded.member, by simp [same]⟩
  have unrefunded := spares (payable draw orderId settlementId isFulfill) o found unfulfilled l listed
  rw [refunded.inFull] at unrefunded
  cases unrefunded

theorem step_refundsPositive (s : System) (i : Input) (held : Sound s ∧ RefundsPositive s.db) :
    Sound (step deployment s i) ∧ RefundsPositive (step deployment s i).db := by
  have steps := step_transitions unrestricted deployment s i held.1.whole (unrestricted_admits s i)
  exact ⟨step_sound deployment s i held.1, writes_invariant RefundsPositive (fun s u w => write_refundsPositive s u w) _ _
    (transitions_writes unrestricted _ _ steps) held.2⟩

theorem step_spares (s : System) (i : Input) (l : CommerceOrderLine) (refunded : Refunded s.db l)
    (spares : sparesRefunded deployment s i) :
    Refunded (step deployment s i).db l ∧ Gained (otherAccess l.id) s.db (step deployment s i).db := by
  by_cases payable : Payable deployment s i
  · have steps := step_transitions (sparing l) deployment s i refunded.whole (sparing_admits deployment s i l refunded spares payable)
    exact ⟨writes_invariant (fun db => Refunded db l) (fun s u moved held => transition_refunded s u l (sparing l) held moved) _ _
      steps refunded, transitions_spare s.db _ l refunded steps⟩
  · unfold Payable at payable
    push Not at payable
    obtain ⟨draw, orderId, settlementId, rfl, refused⟩ := payable
    rw [refused_fulfillment deployment s draw orderId settlementId (Bool.eq_false_of_not_eq_true refused)]
    exact ⟨refunded, gained_refl _ s.db⟩

/-- Once a line's money is returned, nothing after that gives access for it. -/
theorem refunded_line_gains_nothing (createdAt : Instant) (before later : List Input) (l : CommerceOrderLine) :
    let s := run (step deployment) (System.start createdAt) before
    l ∈ s.db.lines → refundedInFull s.db l = true → AllMeet (step deployment) (sparesRefunded deployment) s later →
      let t := run (step deployment) s later
      (∀ g ∈ t.db.grants, GrantOf l.id g → g.active = true → g ∈ s.db.grants) ∧
        ∀ m ∈ t.db.subscriptions, TermOf l.id m → m.active = true → m ∈ s.db.subscriptions := by
  intro s member inFull spared t
  obtain ⟨sound, positive⟩ := run_invariant (step deployment) (fun s => Sound s ∧ RefundsPositive s.db)
    (step_refundsPositive deployment) (System.start createdAt) before ⟨start_sound createdAt, fun _ member => by cases member⟩
  have refunded : Refunded s.db l := ⟨sound.whole, positive, member, inFull⟩
  have kept := run_invariant_meet (step deployment) (sparesRefunded deployment)
    (fun u => Refunded u.db l ∧ Gained (otherAccess l.id) s.db u.db)
    (fun u i held spares => by
      obtain ⟨refunded', gained⟩ := step_spares deployment u i l held.1 spares
      exact ⟨refunded', gained_trans _ s.db u.db _ held.2 gained⟩)
    s later ⟨refunded, gained_refl _ s.db⟩ spared
  refine ⟨fun g inGrants own active => ?_, fun m inTerms own active => ?_⟩
  · rcases kept.2.grants g inGrants active with old | foreign
    · exact old
    · exact absurd own foreign
  · rcases kept.2.subscriptions m inTerms active with old | foreign
    · exact old
    · exact absurd own foreign

end Runs

def sampleRefund (n : String) (amountMinor : Int) : RefundInput where
  actorId := "admin-1"
  keyHash := "refund-key-" ++ n
  requestHash := "refund-request"
  settlementId := "collected-" ++ n
  reconciliationCaseId := none
  amountMinor := amountMinor
  allocations := [⟨"line-item-" ++ n, amountMinor⟩]

def sampleDecision (refundId reference : String) : RefundDecision where
  actorId := "admin-1"
  refundId := refundId
  text := reference
  expectedUpdatedAt := 0

def sampleReturned : List Input :=
  sampleOpened ++ [.recordFailure "case-1" "order-1" "collected-1", .requestRefund "refund-1" (sampleRefund "1" 100000),
    .recordRefund (sampleDecision "refund-1" "bank-1")]

def sampleReturnedLine : CommerceOrderLine where
  id := "line-item-1"
  orderId := "order-1"
  productType := .course
  productReferenceId := "course-1"
  sellerId := "seller"
  unitListPriceAmountMinor := 100000
  discountAmountMinor := 0
  finalAmountMinor := 100000
  currency := "VND"

def sampleReplay : List Input :=
  [.fulfill sampleAccess "order-1" "collected-1"]

theorem returned_line_opens_again :
    let s := run (step sampleDeployment) (System.start 0) sampleReturned
    sampleReturnedLine ∈ s.db.lines ∧ refundedInFull s.db sampleReturnedLine = true ∧
      ∃ g ∈ (run (step sampleDeployment) s sampleReplay).db.grants,
        GrantOf sampleReturnedLine.id g ∧ g.active = true ∧ g ∉ s.db.grants := by
  decide +kernel

def sampleOtherOrder : List Input :=
  [.deliver (sampleWebhookDraw "2") (sampleWebhook "2" "R2"), .fulfill sampleAccess "order-2" "collected-2"]

theorem returned_line_stays_closed :
    let s := run (step sampleDeployment) (System.start 0) sampleReturned
    let t := run (step sampleDeployment) s sampleOtherOrder
    (∀ g ∈ t.db.grants, GrantOf sampleReturnedLine.id g → g.active = true → g ∈ s.db.grants) ∧
      ∀ m ∈ t.db.subscriptions, TermOf sampleReturnedLine.id m → m.active = true → m ∈ s.db.subscriptions := by
  have spared : AllMeet (step sampleDeployment) (sparesRefunded sampleDeployment)
      (run (step sampleDeployment) (System.start 0) sampleReturned) sampleOtherOrder := by
    refine ⟨trivial, ?_, trivial⟩
    intro _ o _ _
    decide +kernel
  exact refunded_line_gains_nothing sampleDeployment 0 sampleReturned sampleOtherOrder sampleReturnedLine (by decide +kernel)
    (by decide +kernel) spared

end EduAi.Payments
