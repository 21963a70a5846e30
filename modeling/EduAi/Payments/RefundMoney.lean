import EduAi.Payments.RefundSound

set_option autoImplicit false

namespace EduAi.Payments

open EduAi.Store EduAi.Gds EduAi.Commerce

def settlementRefunded (db : CommerceDb) (settlementId : Uuid) : Int :=
  total (fun r => r.amountMinor) ((recordedRefunds db).filter (fun r => r.settlementId = settlementId))

def closableBy (actorId : Uuid) (c : CommerceReconciliationCase) : Bool :=
  c.status = .isOpen ∨ (c.resolution = some .refund ∧ c.resolvedById = some actorId)

def legitimateRefund (db : CommerceDb) (decision : RefundDecision) (r : CommerceRefund) : Bool :=
  r.status = .requested ∧ r.updatedAt = decision.expectedUpdatedAt ∧
    (orderById db r.orderId).any (fun o => o.fulfillmentStatus = .fulfilled) ∧
    (∀ x ∈ db.refunds, x.id ≠ r.id → externalReferenceKey x ≠ some (r.provider, decision.text)) ∧
    r.reconciliationCaseId.all (fun id => (caseById db id).any (closableBy decision.actorId)) ∧
    (settlementById db r.settlementId).any (fun s => s.provider ≠ some .bankTransfer ∧
      settlementRefunded db s.id + r.amountMinor ≤ s.amountMinor) ∧
    ∀ a ∈ r.allocations, ∀ l ∈ db.lines, l.id = a.orderLineId →
      refundedAgainst db r.settlementId l.id + a.amountMinor ≤ l.finalAmountMinor

def legitimate (db : CommerceDb) (decision : RefundDecision) : Bool :=
  (refundById db decision.refundId).any (legitimateRefund db decision)

-- With this refund the refunds of all settlements stay within the line, and where they reach its amount on the confirming
-- settlement they are that settlement's alone, and no grant of a membership line is revoked yet.
def lineAgrees (db : CommerceDb) (o : CommerceOrder) (r : CommerceRefund) (a : CommerceRefundAllocation) (l : CommerceOrderLine) :
    Bool :=
  lineRefunded db l.id + a.amountMinor ≤ l.finalAmountMinor ∧
    (o.confirmedSettlementId = some r.settlementId →
      lineRefunded db l.id + a.amountMinor < l.finalAmountMinor ∨
        (refundedAgainst db r.settlementId l.id = lineRefunded db l.id ∧
          (l.productType = .membership → ∀ g ∈ db.grants, isMembershipGrantOf o.buyerId l.id g = true → g.active = true)))

def refundAgrees (db : CommerceDb) (r : CommerceRefund) : Bool :=
  (orderById db r.orderId).all (fun o => ∀ a ∈ r.allocations, (lineById db a.orderLineId).all (lineAgrees db o r a))

section Sums

variable (db : CommerceDb)

theorem lineRefunded_total (lineId : Uuid) :
    lineRefunded db lineId = total (fun r => if r.status = .recorded then lineAmount lineId r else 0) db.refunds := by
  unfold lineRefunded recordedRefunds
  rw [total_filter]
  simp only [decide_eq_true_eq]
  rfl

theorem settlementRefunded_total (settlementId : Uuid) : settlementRefunded db settlementId =
    total (fun r => if r.status = .recorded ∧ r.settlementId = settlementId then r.amountMinor else 0) db.refunds := by
  unfold settlementRefunded recordedRefunds
  rw [List.filter_filter, total_filter]
  simp only [Bool.and_eq_true, decide_eq_true_eq, and_comm]

theorem refundedAgainst_le (positive : RefundsPositive db) (settlementId lineId : Uuid) :
    refundedAgainst db settlementId lineId ≤ lineRefunded db lineId := by
  rw [lineRefunded_total]
  refine total_mono _ _ db.refunds (fun r member => ?_)
  have nonneg := lineAmount_nonneg lineId r (positive r member)
  unfold refundedBy
  by_cases recorded : r.status = .recorded
  · by_cases own : r.settlementId = settlementId
    · simp [recorded, own]
    · simp [recorded, own, nonneg]
  · simp [recorded]

theorem refundedAgainst_nonneg (positive : RefundsPositive db) (settlementId lineId : Uuid) :
    0 ≤ refundedAgainst db settlementId lineId :=
  total_nonneg _ _ (fun r member => refundedBy_nonneg settlementId lineId r (positive r member))

theorem lineAmount_unlisted (lineId : Uuid) (r : CommerceRefund) (unlisted : ∀ a ∈ r.allocations, a.orderLineId ≠ lineId) :
    lineAmount lineId r = 0 := by
  unfold lineAmount
  rw [List.filter_eq_nil_iff.mpr (fun a member => by simp [unlisted a member])]
  rfl

theorem lineAmount_listed (r : CommerceRefund) (distinct : (r.allocations.map (fun a => a.orderLineId)).Nodup)
    (a : CommerceRefundAllocation) (listed : a ∈ r.allocations) : lineAmount a.orderLineId r = a.amountMinor := by
  unfold lineAmount
  generalize r.allocations = rows at distinct listed
  induction rows with
  | nil => cases listed
  | cons x rest ih =>
    rw [List.map_cons, List.nodup_cons] at distinct
    rcases List.mem_cons.mp listed with rfl | later
    · have others : rest.filter (fun y => y.orderLineId = a.orderLineId) = [] := by
        refine List.filter_eq_nil_iff.mpr (fun y member => ?_)
        intro same
        have inRest : y.orderLineId ∈ rest.map (fun b => b.orderLineId) := List.mem_map_of_mem member
        rw [of_decide_eq_true same] at inRest
        exact distinct.1 inRest
      rw [List.filter_cons_of_pos (by simp), others]
      simp [total]
    · have other : x.orderLineId ≠ a.orderLineId := by
        intro same
        have inRest : a.orderLineId ∈ rest.map (fun b => b.orderLineId) := List.mem_map_of_mem later
        rw [← same] at inRest
        exact distinct.1 inRest
      rw [List.filter_cons_of_neg (by simp [other])]
      exact ih distinct.2 later

end Sums

def recordedStore (now : Instant) (reference : String) (r : CommerceRefund) (db : CommerceDb) : CommerceDb :=
  { db with refunds := updateWhere (fun x => x.id = r.id) (RefundPatch.record reference now).apply db.refunds }

section Recorded

variable (now : Instant) (reference : String) (r : CommerceRefund) (db : CommerceDb) (keys : Keys db)
  (moves : RefundMoves db r.id (.record reference now) r)

include keys moves

theorem recorded_line (lineId : Uuid) :
    lineRefunded (recordedStore now reference r db) lineId = lineRefunded db lineId + lineAmount lineId r := by
  rw [lineRefunded_total, lineRefunded_total]
  have moved := refunds_moved db (fun r => if r.status = .recorded then lineAmount lineId r else 0)
    (fun r requested => by simp [requested]) keys r.id _ r moves
  exact moved

theorem recorded_against (settlementId lineId : Uuid) :
    refundedAgainst (recordedStore now reference r db) settlementId lineId =
      refundedAgainst db settlementId lineId + if r.settlementId = settlementId then lineAmount lineId r else 0 := by
  have moved := refunds_moved db (refundedBy settlementId lineId) (refundedBy_requested settlementId lineId) keys r.id _ r moves
  have added : refundedBy settlementId lineId ((RefundPatch.record reference now).apply r) =
      if r.settlementId = settlementId then lineAmount lineId r else 0 := by
    simp [refundedBy, RefundPatch.apply, lineAmount]
  rw [added] at moved
  exact moved

theorem recorded_settlement (settlementId : Uuid) : settlementRefunded (recordedStore now reference r db) settlementId =
    settlementRefunded db settlementId + if r.settlementId = settlementId then r.amountMinor else 0 := by
  rw [settlementRefunded_total, settlementRefunded_total]
  have moved := refunds_moved db (fun r => if r.status = .recorded ∧ r.settlementId = settlementId then r.amountMinor else 0)
    (fun r requested => by simp [requested]) keys r.id _ r moves
  have added : (if ((RefundPatch.record reference now).apply r).status = .recorded ∧
      ((RefundPatch.record reference now).apply r).settlementId = settlementId then
        ((RefundPatch.record reference now).apply r).amountMinor else 0) =
      if r.settlementId = settlementId then r.amountMinor else 0 := by
    simp [RefundPatch.apply]
  rw [added] at moved
  exact moved

end Recorded

section Taken

variable (now : Instant) (reference : String) (r : CommerceRefund) (db : CommerceDb) (sound : RefundSound db)
  (moves : RefundMoves db r.id (.record reference now) r) (o : CommerceOrder) (found : orderById db r.orderId = some o)
  (agrees : o.fulfillmentStatus = .fulfilled → ∀ a ∈ r.allocations, ∀ l, lineById db a.orderLineId = some l →
    lineAgrees db o r a l = true)

include sound moves

theorem allocated_line (a : CommerceRefundAllocation) (listed : a ∈ r.allocations) :
    ∃ l, lineById db a.orderLineId = some l ∧ l ∈ db.lines ∧ l.id = a.orderLineId ∧ l.orderId = r.orderId ∧
      lineAmount l.id r = a.amountMinor ∧ 0 < a.amountMinor := by
  obtain ⟨member, _⟩ := refundById_some db r.id r moves.found
  have whole := sound.refunds r member
  obtain ⟨l, inLines, named, ordered⟩ := whole.lines a listed
  have byId : lineById db a.orderLineId = some l := by
    rw [← named]
    exact find_unique _ _ db.lines sound.whole.delivered.backed.keys.lines l l.id inLines (by simp) rfl
      (fun x _ same => by simpa using same)
  refine ⟨l, byId, inLines, named, ordered, ?_, sound.positive r member a listed⟩
  rw [named]
  exact lineAmount_listed r whole.distinct a listed

include found agrees

theorem taken_iff (l : CommerceOrderLine) (member : l ∈ db.lines) (o' : CommerceOrder) (inOrders : o' ∈ db.orders)
    (ordered : o'.id = l.orderId) (fulfilled : o'.fulfillmentStatus = .fulfilled) (settlementId : Uuid)
    (confirmed : o'.confirmedSettlementId = some settlementId) (P : CommerceOrderLine → Bool)
    (names : ∀ k ∈ db.lines, P k = true → k = l) (own : o' = o → P l = true) :
    r.allocations.any (fun a => (lineById db a.orderLineId).any
        (fun k => takesAccess (recordedStore now reference r db) o r k && P k)) = true ↔
      coversLine (recordedStore now reference r db) l settlementId = true ∧ coversLine db l settlementId = false := by
  have keys := sound.whole.delivered.backed.keys
  have sum := recorded_line now reference r db keys moves l.id
  have against := recorded_against now reference r db keys moves settlementId l.id
  have below := refundedAgainst_le db sound.positive settlementId l.id
  have nonneg := refundedAgainst_nonneg db sound.positive settlementId l.id
  have inTable := (orderById_some db r.orderId o found).1
  have sameOrder : l.orderId = r.orderId → o' = o := by
    intro same
    refine order_same db keys o' o inOrders inTable ?_
    rw [ordered, same, (orderById_some db r.orderId o found).2]
  constructor
  · intro taken
    obtain ⟨a, listed, takes⟩ := List.any_eq_true.mp taken
    obtain ⟨k, byId, inLines, named, ofOrder, amount, positive⟩ := allocated_line now reference r db sound moves a listed
    rw [byId, Option.any_some, Bool.and_eq_true] at takes
    have isLine := names k inLines takes.2
    subst isLine
    obtain ⟨confirming, _, covered⟩ := of_decide_eq_true takes.1
    have isOrder := sameOrder ofOrder
    subst isOrder
    have sameSettlement : settlementId = r.settlementId := by
      rw [confirmed] at confirming
      exact Option.some.inj confirming
    obtain ⟨room, split⟩ := of_decide_eq_true (agrees fulfilled a listed k byId)
    rcases split confirming with short | ⟨alone, _⟩
    · omega
    · rw [if_pos sameSettlement.symm] at against
      rw [← sameSettlement] at alone
      refine ⟨decide_eq_true ⟨by omega, by omega⟩, decide_eq_false ?_⟩
      rintro ⟨_, full⟩
      omega
  · rintro ⟨covers, uncovered⟩
    obtain ⟨some', full⟩ := of_decide_eq_true covers
    have short : ¬ (0 < refundedAgainst db settlementId l.id ∧ l.finalAmountMinor ≤ refundedAgainst db settlementId l.id) :=
      of_decide_eq_false uncovered
    have sameSettlement : r.settlementId = settlementId := by
      by_contra other
      rw [if_neg other] at against
      omega
    have listed : ∃ a ∈ r.allocations, a.orderLineId = l.id := by
      by_contra unlisted
      push Not at unlisted
      rw [lineAmount_unlisted l.id r unlisted] at against
      rw [if_pos sameSettlement] at against
      omega
    obtain ⟨a, listed, named⟩ := listed
    obtain ⟨k, byId, inLines, own', ofOrder, _, _⟩ := allocated_line now reference r db sound moves a listed
    have isLine : k = l := unique_eq _ db.lines keys.lines k l l.id inLines member (congrArg some (own'.trans named)) rfl
    subst isLine
    have isOrder := sameOrder ofOrder
    subst isOrder
    rw [if_pos sameSettlement] at against
    refine List.any_eq_true.mpr ⟨a, listed, ?_⟩
    rw [byId, Option.any_some, Bool.and_eq_true]
    refine ⟨decide_eq_true ⟨?_, fulfilled, by omega⟩, own rfl⟩
    rw [confirmed, sameSettlement]

end Taken

structure RecordEffect (now : Instant) (reference : String) (o : CommerceOrder) (r : CommerceRefund) (db t : CommerceDb) : Prop where
  grants : t.grants = retire (fun g => r.allocations.any (takesGrant (recordedStore now reference r db) o r g)) (fun g => g.active)
    withdrawnGrant db.grants
  terms : t.subscriptions = retire (fun m => r.allocations.any (takesTerm (recordedStore now reference r db) o r m))
    (fun m => m.active) cancelledTerm db.subscriptions
  refunds : t.refunds = (recordedStore now reference r db).refunds
  lines : t.lines = db.lines

-- Access of the lines of fulfilled orders is lost just where the confirming settlement comes to give the line back in full.
structure FollowsMoney (db t : CommerceDb) : Prop where
  grants : ∀ o ∈ db.orders, o.fulfillmentStatus = .fulfilled → ∀ l ∈ db.lines, l.orderId = o.id → ∀ g, GrantOf l.id g →
    g.active = true → (g ∈ t.grants ↔ g ∈ db.grants ∧ (refundedInFull t l = true → refundedInFull db l = true))
  terms : ∀ o ∈ db.orders, o.fulfillmentStatus = .fulfilled → ∀ l ∈ db.lines, l.orderId = o.id → ∀ m, TermOf l.id m →
    m.active = true → (m ∈ t.subscriptions ↔ m ∈ db.subscriptions ∧ (refundedInFull t l = true → refundedInFull db l = true))

theorem followsMoney_same (db : CommerceDb) : FollowsMoney db db :=
  ⟨fun _ _ _ _ _ _ _ _ _ => by simp, fun _ _ _ _ _ _ _ _ _ => by simp⟩

theorem unless_iff : ∀ taken now before : Bool, (taken = true ↔ now = true ∧ before = false) →
    (taken = false ↔ (now = true → before = true)) := by
  decide

theorem lineGrants_own (o : CommerceOrder) (l : CommerceOrderLine) (g : CourseAccessGrant) (given : LineGrant o.buyerId l g) :
    lineGrants o l g = true := by
  unfold lineGrants
  cases product : l.productType with
  | course =>
    obtain ⟨purchase, course⟩ := given.course product
    have source : g.sourceId = l.id := by
      rcases given.of with ⟨_, source⟩ | ⟨grace, _⟩
      · exact source
      · rw [purchase] at grace
        cases grace
    simp [grantKey, given.buyer, course, purchase, source]
  | membership =>
    have bought := given.membership product
    refine decide_eq_true ⟨given.buyer, ?_, ?_⟩
    · rcases given.of with ⟨purchase | membership, _⟩ | ⟨grace, _⟩
      · exact absurd purchase bought
      · exact .inl membership
      · exact .inr grace
    · rcases given.of with ⟨_, source⟩ | ⟨_, source⟩
      · exact .inl source
      · refine .inr (List.isPrefixOf_iff_prefix.mpr ?_)
        have whole : (l.id ++ ":" ++ g.courseId).toList = (l.id ++ ":").toList ++ g.courseId.toList := String.toList_append
        rw [source, whole]
        exact List.prefix_append _ _

section Effects

variable (now : Instant) (reference : String) (r : CommerceRefund) (db : CommerceDb) (sound : RefundSound db)
  (o : CommerceOrder) (found : orderById db r.orderId = some o)
  (agrees : o.fulfillmentStatus = .fulfilled → ∀ a ∈ r.allocations, ∀ l, lineById db a.orderLineId = some l →
    lineAgrees db o r a l = true)

theorem resolveRefundCase_frame (actorId : Uuid) (s : CommerceDb) : Wlp (resolveRefundCase now actorId o r)
    (fun _ t => { t with cases := s.cases, orders := s.orders } = s) s := by
  unfold resolveRefundCase closeLateOrder
  split
  · rw [wlp_pure]
  · simp only [wlp_bind, wlp_updateCase, wlp_ite, wlp_updateOrder, wlp_pure]
    exact fun _ _ => ⟨fun _ _ _ => trivial, fun _ => trivial⟩

include sound agrees

theorem takeable_recorded (moves : RefundMoves db r.id (.record reference now) r) :
    Takeable (recordedStore now reference r db) o r r.allocations := by
  have keys := sound.whole.delivered.backed.keys
  have member := (refundById_some db r.id r moves.found).1
  refine ⟨keys.access.grantIds, keys.access.grantKeys, ?_, (sound.refunds r member).distinct, ?_⟩
  · intro a listed
    obtain ⟨l, byId, inLines, named, _⟩ := allocated_line now reference r db sound moves a listed
    exact ⟨l, byId, named, sound.texts l inLines⟩
  · intro a listed l byId takes product
    obtain ⟨confirming, fulfilled, covered⟩ := of_decide_eq_true takes
    obtain ⟨k, byId', _, _, _, amount, _⟩ := allocated_line now reference r db sound moves a listed
    have isLine : l = k := Option.some.inj (byId.symm.trans byId')
    subst isLine
    have sum := recorded_line now reference r db keys moves l.id
    obtain ⟨_, split⟩ := of_decide_eq_true (agrees fulfilled a listed l byId)
    rcases split confirming with short | ⟨_, live⟩
    · omega
    · exact live product

theorem recordRefund_effect (actorId : Uuid) (byId : refundById db r.id = some r) :
    Wlp (recordRefund now actorId o r reference) (fun _ t => RecordEffect now reference o r db t) db := by
  simp only [recordRefund, wlp_bind, wlp_updateRefund]
  intro old moves
  have isRefund : old = r := Option.some.inj (moves.found.symm.trans byId)
  subst isRefund
  have takeable := takeable_recorded now reference old db sound o agrees moves
  refine wlp_mono _ _ (wp_wlp _ _ _ (refundLines_withdraw o old old.allocations (recordedStore now reference old db) takeable)) ?_
  intro _ s withdrawn
  refine wlp_mono _ s (resolveRefundCase_frame now old o actorId s) ?_
  intro _ t same
  obtain ⟨lines, refunds, _⟩ := withdraws_reads _ _ _ s withdrawn
  have grants : t.grants = s.grants := by rw [← same]
  have terms : t.subscriptions = s.subscriptions := by rw [← same]
  have sameRefunds : t.refunds = s.refunds := by rw [← same]
  have sameLines : t.lines = s.lines := by rw [← same]
  exact ⟨grants.trans withdrawn.grants, terms.trans withdrawn.terms, sameRefunds.trans refunds, sameLines.trans lines⟩

include found

theorem effect_followsMoney (moves : RefundMoves db r.id (.record reference now) r) (t : CommerceDb) (kept : Kept db t)
    (whole : Whole t) (effect : RecordEffect now reference o r db t) : FollowsMoney db t := by
  have keys := sound.whole.delivered.backed.keys
  have sameCover : ∀ l settlementId, coversLine t l settlementId = coversLine (recordedStore now reference r db) l settlementId := by
    intro l settlementId
    unfold coversLine refundedAgainst
    rw [effect.refunds]
  -- Both stores know the order of the line by the same confirming settlement.
  have covers : ∀ o' ∈ db.orders, o'.fulfillmentStatus = .fulfilled → ∀ l ∈ db.lines, l.orderId = o'.id →
      ∃ settlementId, o'.confirmedSettlementId = some settlementId ∧ refundedInFull db l = coversLine db l settlementId ∧
        refundedInFull t l = coversLine (recordedStore now reference r db) l settlementId := by
    intro o' inOrders fulfilled l _ ordered
    have backed := sound.whole.delivered.backed.orders o' inOrders
    have started : o'.fulfillmentStatus ≠ .notStarted := by
      rw [fulfilled]
      decide
    obtain ⟨settlementId, confirmed⟩ := Option.isSome_iff_exists.mp (backed.1.mpr (backed.2.2 started))
    obtain ⟨o'', inLater, same⟩ := kept.orders o' inOrders
    have before := orderById_of_mem db keys o' inOrders
    have after := orderById_of_mem t whole.delivered.backed.keys o'' inLater
    rw [same.id] at after
    refine ⟨settlementId, confirmed, ?_, ?_⟩
    · unfold refundedInFull
      rw [ordered, before, Option.bind_some, confirmed, Option.any_some]
    · unfold refundedInFull
      rw [ordered, after, Option.bind_some, same.settlement settlementId confirmed, Option.any_some, sameCover]
  have lineOf : ∀ k ∈ db.lines, ∀ l ∈ db.lines, k.id = l.id → k = l := fun k inLines l inLines' named =>
    unique_eq _ db.lines keys.lines k l l.id inLines inLines' (congrArg some named) rfl
  refine ⟨?_, ?_⟩
  · intro o' inOrders fulfilled l member ordered g of active
    obtain ⟨settlementId, confirmed, before, after⟩ := covers o' inOrders fulfilled l member ordered
    rw [effect.grants, mem_retire _ _ _ _ (fun _ => rfl) g active, before, after]
    refine and_congr_right (fun inGrants => unless_iff _ _ _ ?_)
    refine taken_iff now reference r db sound moves o found agrees l member o' inOrders ordered.symm fulfilled settlementId
      confirmed (fun k => lineGrants o k g) ?_ ?_
    · intro k inLines selected
      refine lineOf k inLines l member (String.toList_inj.mp ?_)
      rw [← sourceLine_lineGrants o k (sound.texts k inLines) g selected]
      exact sourceLine_grantOf l.id (sound.texts l member) g of
    · intro isOrder
      have bought : g.sourceType ≠ .unverifiedReceiptAccess := by
        rcases of with ⟨purchase | membership, _⟩ | ⟨grace, _⟩ <;> simp_all
      obtain ⟨l', inLines, x, inTable, named, given⟩ := sound.grants g inGrants active bought
      have isLine : l' = l := lineOf l' inLines l member (grantOf_same l'.id l.id g given.of of)
      subst isLine
      have isBuyer : x = o' := order_same db keys x o' inTable inOrders (named.trans ordered)
      rw [isBuyer, isOrder] at given
      exact lineGrants_own o l' g given
  · intro o' inOrders fulfilled l member ordered m of active
    obtain ⟨settlementId, confirmed, before, after⟩ := covers o' inOrders fulfilled l member ordered
    rw [effect.terms, mem_retire _ _ _ _ (fun _ => rfl) m active, before, after]
    refine and_congr_right (fun inTerms => unless_iff _ _ _ ?_)
    refine taken_iff now reference r db sound moves o found agrees l member o' inOrders ordered.symm fulfilled settlementId
      confirmed (fun k => lineTerms k m) ?_ ?_
    · intro k inLines selected
      refine lineOf k inLines l member ?_
      unfold lineTerms at selected
      split at selected
      · cases selected
      · have source := of_decide_eq_true selected
        rw [of] at source
        exact (Option.some.inj source).symm
    · intro _
      obtain ⟨l', inLines, named, product⟩ := sound.terms m inTerms l.id of
      have isLine : l' = l := lineOf l' inLines l member named
      subst isLine
      unfold lineTerms
      rw [product]
      exact decide_eq_true of

end Effects

structure Marked (now : Instant) (decision : RefundDecision) (db t : CommerceDb) (r : CommerceRefund) (o : CommerceOrder) : Prop where
  found : refundById db decision.refundId = some r
  order : orderById db r.orderId = some o
  version : r.updatedAt = decision.expectedUpdatedAt
  collected : ∃ s, settlementById db r.settlementId = some s ∧ s.provider ≠ some .bankTransfer
  moves : RefundMoves db r.id (.record decision.text now) r
  closable : ∀ id, r.reconciliationCaseId = some id → ∃ c, caseById db id = some c ∧ closableBy decision.actorId c = true
  refunds : t.refunds = (recordedStore now decision.text r db).refunds
  lines : t.lines = db.lines
  settlements : t.settlements = db.settlements
  ran : recordRefund now decision.actorId o r decision.text db = .ok ((), t)

section Committed

variable (now : Instant) (decision : RefundDecision) (db : CommerceDb)

theorem closable_moves (id : Uuid) (old : CommerceReconciliationCase)
    (moves : CaseMoves db id (.resolve .refund decision.actorId now) old) : closableBy decision.actorId old = true := by
  refine decide_eq_true ?_
  rcases moves.evidence with opened | ⟨resolution, resolvedBy⟩
  · exact .inl opened
  · exact .inr ⟨resolution.symm, resolvedBy.symm⟩

theorem record_marked : Wlp (record now decision) (fun _ t => t = db ∨ ∃ r o, Marked now decision db t r o) db := by
  simp only [record, wlp_bind, wlp_get, wlp_orThrow, wlp_require, wlp_ite]
  intro r found s settled o order collected
  refine ⟨fun _ _ => .inl trivial, fun _ _ version => ?_⟩
  have named := (refundById_some db decision.refundId r found).2
  have byId : refundById db r.id = some r := by
    rw [named]
    exact found
  have parts : Wlp (recordRefund now decision.actorId o r decision.text) (fun _ t =>
      RefundMoves db r.id (.record decision.text now) r ∧
      (∀ id, r.reconciliationCaseId = some id → ∃ c, caseById db id = some c ∧ closableBy decision.actorId c = true) ∧
      t.refunds = (recordedStore now decision.text r db).refunds ∧ t.lines = db.lines ∧ t.settlements = db.settlements) db := by
    simp only [recordRefund, wlp_bind, wlp_updateRefund]
    intro old moves
    have isRefund : old = r := Option.some.inj (moves.found.symm.trans byId)
    subst isRefund
    refine wlp_mono _ _ ((program_forM _ old.allocations (refundLine_withdrawal o old)).within _) ?_
    intro _ u taken
    have apart := withdrawals_apart _ u taken
    have same : ∀ {β : Type} (f : CommerceDb → β), f { u with
        grants := db.grants, subscriptions := db.subscriptions, entitlements := db.entitlements } =
        f (recordedStore now decision.text old db) := fun f => congrArg f apart
    have cases' : u.cases = db.cases := same (fun x => x.cases)
    have refunds : u.refunds = (recordedStore now decision.text old db).refunds := same (fun x => x.refunds)
    have lines : u.lines = db.lines := same (fun x => x.lines)
    have settlements : u.settlements = db.settlements := same (fun x => x.settlements)
    unfold resolveRefundCase closeLateOrder
    split
    case h_1 unlinked =>
      rw [wlp_pure]
      refine ⟨moves, fun id linked => ?_, refunds, lines, settlements⟩
      rw [unlinked] at linked
      cases linked
    case h_2 caseId linked =>
      simp only [wlp_bind, wlp_updateCase, wlp_ite, wlp_updateOrder, wlp_pure]
      intro c closing
      have closable : ∀ id, old.reconciliationCaseId = some id → ∃ c, caseById db id = some c ∧ closableBy decision.actorId c = true := by
        intro id named'
        rw [linked] at named'
        cases named'
        refine ⟨c, ?_, closable_moves now decision u caseId c closing⟩
        have inCases := closing.found
        unfold caseById at inCases ⊢
        rw [cases'] at inCases
        exact inCases
      exact ⟨fun _ _ _ => ⟨moves, closable, refunds, lines, settlements⟩, fun _ => ⟨moves, closable, refunds, lines, settlements⟩⟩
  refine wlp_mono _ db (wlp_and _ db (wlp_run _ db) parts) ?_
  rintro _ t ⟨ran, moves, closable, refunds, lines, settlements⟩
  exact .inr ⟨r, o, found, order, version, ⟨s, settled, collected⟩, moves, closable, refunds, lines, settlements, ran⟩

theorem marked_legitimate (sound : RefundSound db) (t : CommerceDb) (r : CommerceRefund) (o : CommerceOrder)
    (marked : Marked now decision db t r o) (fulfilled : o.fulfillmentStatus = .fulfilled)
    (checked : deferredChecks db t t = .ok ((), t)) : legitimate db decision = true := by
  have keys := sound.whole.delivered.backed.keys
  have moves := marked.moves
  have member := (refundById_some db r.id r moves.found).1
  have passes : Wp (deferredChecks db t) (fun _ _ => True) t := ⟨(), t, checked, trivial⟩
  simp only [deferredChecks, wp_bind, wp_require] at passes
  obtain ⟨_, _, _, _, _, bounds, _⟩ := passes
  have inStore : (RefundPatch.record decision.text now).apply r ∈ t.refunds := by
    rw [marked.refunds]
    exact (mem_updateWhere _ _ _ _).mpr ⟨r, member, by simp⟩
  have fresh : (RefundPatch.record decision.text now).apply r ∉ db.refunds := by
    intro before
    have same : (RefundPatch.record decision.text now).apply r = r :=
      unique_eq _ db.refunds keys.refunds _ r r.id before member rfl rfl
    have status := moves.requested
    rw [← same] at status
    cases status
  obtain ⟨settlementBound, lineBound⟩ := of_decide_eq_true (bounds _ inStore fresh) rfl
  obtain ⟨s, settled, collected⟩ := marked.collected
  obtain ⟨inSettlements, settlementNamed⟩ := settlementById_some db r.settlementId s settled
  have sameSum : settlementRefunded t r.settlementId = settlementRefunded (recordedStore now decision.text r db) r.settlementId := by
    unfold settlementRefunded recordedRefunds
    rw [marked.refunds]
  have withinSettlement : settlementRefunded db s.id + r.amountMinor ≤ s.amountMinor := by
    have bound : settlementRefunded t r.settlementId ≤ s.amountMinor :=
      settlementBound s (by rw [marked.settlements]; exact inSettlements) settlementNamed
    rw [sameSum, recorded_settlement now decision.text r db keys moves, if_pos rfl] at bound
    rw [settlementNamed]
    exact bound
  have withinLine : ∀ a ∈ r.allocations, ∀ l ∈ db.lines, l.id = a.orderLineId →
      refundedAgainst db r.settlementId l.id + a.amountMinor ≤ l.finalAmountMinor := by
    intro a listed l inLines named
    have bound : lineRefunded t l.id ≤ l.finalAmountMinor := lineBound a listed l (by rw [marked.lines]; exact inLines) named
    have sameLine : lineRefunded t l.id = lineRefunded (recordedStore now decision.text r db) l.id := by
      unfold lineRefunded recordedRefunds
      rw [marked.refunds]
    have amount := lineAmount_listed r (sound.refunds r member).distinct a listed
    rw [sameLine, recorded_line now decision.text r db keys moves, named, amount] at bound
    have below := refundedAgainst_le db sound.positive r.settlementId a.orderLineId
    rw [named]
    omega
  have unused : ∀ x ∈ db.refunds, x.id ≠ r.id → externalReferenceKey x ≠ some (r.provider, decision.text) := by
    intro x inTable other same
    have clash := (free_iff _ _ _).mp moves.freshReference x (List.mem_filter.mpr ⟨inTable, by simp [other]⟩) _ rfl
    exact clash same
  refine (Option.any_eq_true _ _).mpr ⟨r, marked.found, decide_eq_true ⟨moves.requested, marked.version, ?_, unused, ?_, ?_, withinLine⟩⟩
  · rw [marked.order, Option.any_some]
    exact decide_eq_true fulfilled
  · cases linked : r.reconciliationCaseId with
    | none => rfl
    | some id =>
      obtain ⟨c, byId, closable⟩ := marked.closable id linked
      rw [Option.all_some, byId, Option.any_some]
      exact closable
  · rw [settled, Option.any_some]
    exact decide_eq_true ⟨collected, withinSettlement⟩

end Committed

def refundBeside (db t : CommerceDb) : CommerceDb :=
  { t with
    grants := db.grants
    subscriptions := db.subscriptions
    entitlements := db.entitlements
    refunds := db.refunds
    cases := db.cases }

theorem refundAgrees_lines (db : CommerceDb) (r : CommerceRefund) (o : CommerceOrder) (order : orderById db r.orderId = some o)
    (agrees : refundAgrees db r = true) :
    ∀ a ∈ r.allocations, ∀ l, lineById db a.orderLineId = some l → lineAgrees db o r a l = true := by
  intro a listed l byId
  unfold refundAgrees at agrees
  rw [order, Option.all_some] at agrees
  have each := of_decide_eq_true agrees a listed
  rw [byId, Option.all_some] at each
  exact each

section Recordable

variable (now : Instant) (decision : RefundDecision) (db : CommerceDb) (sound : RefundSound db) (r : CommerceRefund)
  (found : refundById db decision.refundId = some r) (legitimate' : legitimateRefund db decision r = true)

include found legitimate'

theorem legitimate_moves : RefundMoves db r.id (.record decision.text now) r := by
  obtain ⟨requested, _, _, unused, _⟩ := of_decide_eq_true legitimate'
  have named := (refundById_some db decision.refundId r found).2
  refine ⟨by rw [named]; exact found, requested, (free_iff _ _ _).mpr ?_⟩
  intro x listed k key
  obtain ⟨inTable, other⟩ := List.mem_filter.mp listed
  have reference : k = (r.provider, decision.text) := (Option.some.inj key).symm
  rw [reference]
  exact unused x inTable (of_decide_eq_true other)

include sound

theorem legitimate_deferred (agrees : ∀ a ∈ r.allocations, ∀ l, lineById db a.orderLineId = some l →
      lineRefunded db l.id + a.amountMinor ≤ l.finalAmountMinor) (t : CommerceDb)
    (apart : refundBeside db t = db)
    (refunds : t.refunds = (recordedStore now decision.text r db).refunds)
    (resolved : ∀ c ∈ t.cases, c ∉ db.cases → c.resolution = some .refund ∧ r.reconciliationCaseId = some c.id) :
    Wp (deferredChecks db t) (fun _ _ => True) t := by
  have keys := sound.whole.delivered.backed.keys
  have moves := legitimate_moves now decision db r found legitimate'
  have member := (refundById_some db r.id r moves.found).1
  obtain ⟨_, _, _, _, _, settledBound, _⟩ := of_decide_eq_true legitimate'
  have same : ∀ {β : Type} (f : CommerceDb → β), f (refundBeside db t) = f db := fun f => congrArg f apart
  have carts : t.carts = db.carts := same (fun x => x.carts)
  have orders : t.orders = db.orders := same (fun x => x.orders)
  have lines : t.lines = db.lines := same (fun x => x.lines)
  have benefits : t.benefits = db.benefits := same (fun x => x.benefits)
  have attempts : t.attempts = db.attempts := same (fun x => x.attempts)
  have settlements : t.settlements = db.settlements := same (fun x => x.settlements)
  have marked : (RefundPatch.record decision.text now).apply r ∈ t.refunds := by
    rw [refunds]
    exact (mem_updateWhere _ _ _ _).mpr ⟨r, member, by simp⟩
  have only : ∀ x ∈ t.refunds, x ∉ db.refunds → x = (RefundPatch.record decision.text now).apply r := by
    intro x inStore fresh
    rw [refunds] at inStore
    obtain ⟨old, before, rfl⟩ := (mem_updateWhere _ _ _ _).mp inStore
    by_cases selected : old.id = r.id
    · have isRefund : old = r := unique_eq _ db.refunds keys.refunds old r r.id before member (congrArg some selected) rfl
      subst isRefund
      simp
    · rw [if_neg (by simp [selected])] at fresh
      exact absurd before fresh
  simp only [deferredChecks, wp_bind, wp_require, and_true]
  refine ⟨?_, ?_, ?_, ?_, ?_, ?_, ?_, ?_, ?_⟩
  · rw [carts]
    exact fun c inTable fresh => absurd inTable fresh
  · rw [orders]
    exact fun o inTable fresh => absurd inTable fresh
  · rw [lines]
    exact fun l inTable fresh => absurd inTable fresh
  · rw [benefits]
    exact fun b inTable fresh => absurd inTable fresh
  · intro x inStore fresh
    rw [only x inStore fresh]
    exact decide_eq_true (sound.refunds r member).totals
  · intro x inStore fresh
    rw [only x inStore fresh]
    refine decide_eq_true fun _ => ⟨fun s inSettlements named => ?_, fun a listed l inLines named => ?_⟩
    · rw [settlements] at inSettlements
      have sameSum : settlementRefunded t r.settlementId = settlementRefunded db r.settlementId + r.amountMinor := by
        have sum := recorded_settlement now decision.text r db keys moves r.settlementId
        rw [if_pos rfl] at sum
        rw [← sum]
        unfold settlementRefunded recordedRefunds
        rw [refunds]
      show settlementRefunded t r.settlementId ≤ s.amountMinor
      obtain ⟨s', byId, _, bound⟩ := by simpa [Option.any_eq_true] using settledBound
      obtain ⟨inTable, named'⟩ := settlementById_some db r.settlementId s' byId
      have isSettlement : s = s' := unique_eq _ db.settlements keys.settlements.ids s s' r.settlementId inSettlements inTable
        (congrArg some named) (congrArg some named')
      rw [sameSum, isSettlement]
      rw [named'] at bound
      exact bound
    · rw [lines] at inLines
      have listed' : a ∈ r.allocations := listed
      obtain ⟨k, byId, inTable, own, _, amount, _⟩ := allocated_line now decision.text r db sound moves a listed'
      have isLine : l = k := unique_eq _ db.lines keys.lines l k k.id inLines inTable (congrArg some (named.trans own.symm)) rfl
      subst isLine
      have room := agrees a listed' l byId
      have sum := recorded_line now decision.text r db keys moves l.id
      have sameSum : lineRefunded t l.id = lineRefunded (recordedStore now decision.text r db) l.id := by
        unfold lineRefunded recordedRefunds
        rw [refunds]
      omega
  · rw [attempts]
    exact fun a inTable fresh => absurd inTable fresh
  · intro c inStore fresh
    obtain ⟨resolution, linked⟩ := resolved c inStore fresh
    refine decide_eq_true fun _ => ⟨fun _ => ⟨_, marked, linked, rfl⟩, fun accepted => ?_⟩
    rw [resolution] at accepted
    cases accepted
  · rw [orders]
    exact fun o inTable fresh => absurd inTable fresh

theorem legitimate_records (agrees : refundAgrees db r = true) : ∃ t, transaction (record now decision) db = .ok ((), t) := by
  have moves := legitimate_moves now decision db r found legitimate'
  have deferred := legitimate_deferred now decision db sound r found legitimate'
  obtain ⟨requested, version, fulfilledOrder, _, closable, settledBound, _⟩ := of_decide_eq_true legitimate'
  obtain ⟨o, order, fulfilled⟩ := (Option.any_eq_true _ _).mp fulfilledOrder
  obtain ⟨s, settled, collects⟩ := (Option.any_eq_true _ _).mp settledBound
  have lineAgreement := refundAgrees_lines db r o order agrees
  have room : ∀ a ∈ r.allocations, ∀ l, lineById db a.orderLineId = some l →
      lineRefunded db l.id + a.amountMinor ≤ l.finalAmountMinor :=
    fun a listed l byId => (of_decide_eq_true (lineAgreement a listed l byId)).1
  have takeable := takeable_recorded now decision.text r db sound o (fun _ => lineAgreement) moves
  have confirmed : o.status = .confirmed := by
    have backed := sound.whole.delivered.backed.orders o (orderById_some db r.orderId o order).1
    refine backed.2.2 ?_
    rw [of_decide_eq_true fulfilled]
    decide
  have body : Wp (record now decision) (fun _ t => Wp (deferredChecks db t) (fun _ _ => True) t) db := by
    simp only [record, wp_bind, wp_get, wp_orThrow, wp_require, wp_ite]
    refine ⟨r, found, s, settled, o, order, (of_decide_eq_true collects).1, fun recorded => ?_, fun _ => ⟨requested, version, ?_⟩⟩
    · rw [requested] at recorded
      cases recorded
    simp only [recordRefund, wp_bind, wp_updateRefund]
    refine ⟨r, moves, wp_mono _ _ (refundLines_withdraw o r r.allocations (recordedStore now decision.text r db) takeable) ?_⟩
    intro _ u withdrawn
    have sameParts : { u with grants := db.grants, subscriptions := db.subscriptions, entitlements := db.entitlements } =
        recordedStore now decision.text r db := withdrawn.apart
    obtain ⟨_, refunds, sameCases⟩ := withdraws_reads _ _ _ u withdrawn
    have apart : refundBeside db u = db :=
      congrArg (fun x : CommerceDb => { x with refunds := db.refunds, cases := db.cases }) sameParts
    unfold resolveRefundCase closeLateOrder
    rw [confirmed]
    split
    case h_1 unlinked =>
      rw [wp_pure]
      refine deferred room u apart refunds (fun c inStore fresh => ?_)
      rw [sameCases] at inStore
      exact absurd inStore fresh
    case h_2 caseId linked =>
      rw [linked, Option.all_some] at closable
      obtain ⟨c, byId, closing⟩ := (Option.any_eq_true _ _).mp closable
      obtain ⟨inCases, caseNamed⟩ := caseById_some db caseId c byId
      rw [wp_bind, wp_updateCase]
      refine ⟨c, ⟨?_, ?_, ?_, ?_⟩, ?_⟩
      · unfold caseById at byId ⊢
        rw [sameCases]
        exact byId
      · show observedNoEarlier c.lastCheckedAt c.lastCheckedAt = true
        cases c.lastCheckedAt with
        | none => rfl
        | some at' => simp [observedNoEarlier]
      · cases status : c.status with
        | isOpen => exact .inl rfl
        | resolved => exact .inr rfl
      · rcases of_decide_eq_true closing with opened | ⟨resolution, resolvedBy⟩
        · exact .inl opened
        · exact .inr ⟨resolution.symm, resolvedBy.symm⟩
      · simp only [reduceCtorEq, if_false, wp_pure]
        refine deferred room _ apart refunds (fun x inStore fresh => ?_)
        rw [sameCases] at inStore
        obtain ⟨old, before, rfl⟩ := (mem_updateWhere _ _ _ _).mp inStore
        by_cases selected : old.id = caseId
        · rw [if_pos (by simp [selected])]
          refine ⟨rfl, ?_⟩
          rw [linked]
          exact congrArg some selected.symm
        · rw [if_neg (by simp [selected])] at fresh
          exact absurd before fresh
  have whole : Wp (transaction (record now decision)) (fun _ _ => True) db := by
    simp only [transaction, transact, wp_bind, wp_get, wp_pure]
    exact body
  obtain ⟨_, t, ok, _⟩ := whole
  exact ⟨t, ok⟩

end Recordable

-- A refund that the rules of its own settlement allow agrees with what the other settlements and the grants of the line say.
def refundsAgree (s : System) : Input → Prop
  | .recordRefund decision => legitimate s.db decision = true →
      (refundById s.db decision.refundId).all (refundAgrees s.db) = true
  | _ => True

structure RefundFollows (deployment : Deployment) (s : System) (decision : RefundDecision) : Prop where
  follows : FollowsMoney s.db (step deployment s (.recordRefund decision)).db
  records : legitimate s.db decision = true → ∃ t, transaction (record s.now decision) s.db = .ok ((), t)

section Runs

variable (deployment : Deployment)

theorem step_refundFollows (s : System) (decision : RefundDecision) (sound : RefundSound s.db)
    (agrees : refundsAgree s (.recordRefund decision)) : RefundFollows deployment s decision := by
  refine ⟨?_, fun legit => ?_⟩
  · have kept := step_kept deployment s (.recordRefund decision) sound.whole
    have whole := step_whole deployment s (.recordRefund decision) sound.whole
    cases ran : transaction (record s.now decision) s.db with
    | error fault =>
      have same : (step deployment s (.recordRefund decision)).db = s.db := commit_error _ _ fault ran
      rw [same]
      exact followsMoney_same s.db
    | ok p =>
      obtain ⟨_, t⟩ := p
      have reached : (step deployment s (.recordRefund decision)).db = t := commit_ok _ _ t _ ran
      rw [reached] at kept whole ⊢
      obtain ⟨committed, checked⟩ := transaction_ok _ _ t _ ran
      rcases record_marked s.now decision s.db () t committed with same | ⟨r, o, marked⟩
      · rw [same]
        exact followsMoney_same s.db
      · have agreement : o.fulfillmentStatus = .fulfilled → ∀ a ∈ r.allocations, ∀ l, lineById s.db a.orderLineId = some l →
            lineAgrees s.db o r a l = true := by
          intro fulfilled
          have agreed := agrees (marked_legitimate s.now decision s.db sound t r o marked fulfilled checked)
          rw [marked.found, Option.all_some] at agreed
          exact refundAgrees_lines s.db r o marked.order agreed
        have effect := recordRefund_effect s.now decision.text r s.db sound o agreement decision.actorId marked.moves.found () t marked.ran
        exact effect_followsMoney s.now decision.text r s.db sound o marked.order agreement marked.moves t kept whole effect
  · obtain ⟨r, found, own⟩ := (Option.any_eq_true _ _).mp legit
    have agreed := agrees legit
    rw [found, Option.all_some] at agreed
    exact legitimate_records s.now decision s.db sound r found own agreed

structure LineFollows (db t : CommerceDb) (l : CommerceOrderLine) : Prop where
  grants : ∀ g, GrantOf l.id g → g.active = true → (g ∈ t.grants ↔ g ∈ db.grants ∧ (refundedInFull t l = true → refundedInFull db l = true))
  terms : ∀ m, TermOf l.id m → m.active = true →
    (m ∈ t.subscriptions ↔ m ∈ db.subscriptions ∧ (refundedInFull t l = true → refundedInFull db l = true))

theorem lineFollows_trans (db s t : CommerceDb) (l : CommerceOrderLine) (first : LineFollows db s l) (second : LineFollows s t l)
    (before : refundedInFull db l = true → refundedInFull s l = true) (after : refundedInFull s l = true → refundedInFull t l = true) :
    LineFollows db t l := by
  have through : ((refundedInFull s l = true → refundedInFull db l = true) ∧ (refundedInFull t l = true → refundedInFull s l = true)) ↔
      (refundedInFull t l = true → refundedInFull db l = true) := by
    constructor
    · exact fun steps full => steps.1 (steps.2 full)
    · exact fun whole => ⟨fun full => whole (after full), fun full => before (whole full)⟩
  refine ⟨fun g of active => ?_, fun m of active => ?_⟩
  · rw [second.grants g of active, first.grants g of active, and_assoc, through]
  · rw [second.terms m of active, first.terms m of active, and_assoc, through]

theorem refund_run_follows (s : System) (decisions : List RefundDecision) (sound : RefundSound s.db)
    (agreed : AllMeet (step deployment) refundsAgree s (decisions.map .recordRefund)) (o : CommerceOrder) (member : o ∈ s.db.orders)
    (fulfilled : o.fulfillmentStatus = .fulfilled) (l : CommerceOrderLine) (inLines : l ∈ s.db.lines) (ordered : l.orderId = o.id) :
    LineFollows s.db (run (step deployment) s (decisions.map .recordRefund)).db l ∧
      (refundedInFull s.db l = true → refundedInFull (run (step deployment) s (decisions.map .recordRefund)).db l = true) := by
  induction decisions generalizing s o with
  | nil =>
    have same := followsMoney_same s.db
    exact ⟨⟨same.grants o member fulfilled l inLines ordered, same.terms o member fulfilled l inLines ordered⟩, id⟩
  | cons decision rest ih =>
    rw [List.map_cons] at agreed ⊢
    rw [run_cons]
    have followed := (step_refundFollows deployment s decision sound agreed.1).follows
    have writes := transitions_writes unrestricted _ _ (step_transitions unrestricted deployment s (.recordRefund decision)
      sound.whole (unrestricted_admits s _))
    have kept := writes_kept _ _ sound.whole.delivered.backed.keys writes
    obtain ⟨o', member', same⟩ := kept.orders o member
    have stays := refundedInFull_kept s.db _ writes sound.whole.delivered.backed.keys sound.positive l
    obtain ⟨later, after⟩ := ih (step deployment s (.recordRefund decision)) (step_refundSound deployment s _ sound) agreed.2 o'
      member' (same.fulfilled fulfilled) (kept.appends.lines.subset inLines) (ordered.trans same.id.symm)
    exact ⟨lineFollows_trans _ _ _ l ⟨followed.grants o member fulfilled l inLines ordered,
      followed.terms o member fulfilled l inLines ordered⟩ later stays after, fun full => after (stays full)⟩

/-- Where the refunds agree with the money that confirmed each order, every refund and every line's access follow it. -/
theorem refunds_follow_confirming_money (createdAt : Instant) (before : List Input) :
    let s := run (step deployment) (System.start createdAt) before
    (∀ later, AllMeet (step deployment) refundsAgree s later →
      AllMeet (step deployment) (fun u i => ∀ decision, i = .recordRefund decision → RefundFollows deployment u decision) s later) ∧
    ∀ decisions : List RefundDecision, AllMeet (step deployment) refundsAgree s (decisions.map .recordRefund) →
      ∀ o ∈ s.db.orders, o.fulfillmentStatus = .fulfilled → ∀ l ∈ s.db.lines, l.orderId = o.id →
        LineFollows s.db (run (step deployment) s (decisions.map .recordRefund)).db l := by
  intro s
  have sound : RefundSound s.db := run_invariant (step deployment) (fun s => RefundSound s.db) (step_refundSound deployment)
    (System.start createdAt) before (start_refundSound createdAt)
  refine ⟨fun later agreed => ?_, ?_⟩
  · refine allMeet_shows (step deployment) refundsAgree _ (fun u => RefundSound u.db)
      (fun s i sound _ => step_refundSound deployment s i sound) ?_ s later
      sound agreed
    intro u i held agrees decision isRecord
    rw [isRecord] at agrees
    exact step_refundFollows deployment u decision held agrees
  · intro decisions agreed o member fulfilled l inLines ordered
    exact (refund_run_follows deployment s decisions sound agreed o member fulfilled l inLines ordered).1

end Runs

def samplePaidTwice : List Input :=
  sampleOpened ++ [.fulfill sampleAccess "order-1" "collected-1",
    .deliver { sampleWebhookDraw "1" with eventId := "event-again", settlementId := "duplicate-1", caseId := "case-again" }
      (sampleWebhook "1" "R9")]

def samplePartRefunds : List Input :=
  [.requestRefund "refund-1" { sampleRefund "1" 60000 with settlementId := "duplicate-1" },
    .recordRefund (sampleDecision "refund-1" "bank-1"),
    .requestRefund "refund-2" { sampleRefund "1" 40000 with keyHash := "refund-key-again" }]

theorem part_refunds_take_access :
    let s := run (step sampleDeployment) (System.start 0) (samplePaidTwice ++ samplePartRefunds)
    let t := step sampleDeployment s (.recordRefund (sampleDecision "refund-2" "bank-2"))
    refundedAgainst t.db "collected-1" sampleReturnedLine.id = 40000 ∧ refundedInFull t.db sampleReturnedLine = false ∧
      ∃ g ∈ s.db.grants, GrantOf sampleReturnedLine.id g ∧ g.active = true ∧ g ∉ t.db.grants := by
  decide +kernel

def sampleWholeRefunds : List Input :=
  [.requestRefund "refund-1" (sampleRefund "1" 60000),
    .requestRefund "refund-2" { sampleRefund "1" 40000 with keyHash := "refund-key-again" }]

theorem whole_refunds_follow :
    let s := run (step sampleDeployment) (System.start 0) (samplePaidTwice ++ sampleWholeRefunds)
    let decisions := [sampleDecision "refund-1" "bank-1", sampleDecision "refund-2" "bank-2"]
    AllMeet (step sampleDeployment) (fun u i => ∀ decision, i = .recordRefund decision → RefundFollows sampleDeployment u decision)
        s (decisions.map .recordRefund) ∧
      ∀ o ∈ s.db.orders, o.fulfillmentStatus = .fulfilled → ∀ l ∈ s.db.lines, l.orderId = o.id →
        LineFollows s.db (run (step sampleDeployment) s (decisions.map .recordRefund)).db l := by
  intro s decisions
  have agreed : AllMeet (step sampleDeployment) refundsAgree s (decisions.map .recordRefund) := by
    refine ⟨fun _ => ?_, fun _ => ?_, trivial⟩ <;> decide +kernel
  have follows := refunds_follow_confirming_money sampleDeployment 0 (samplePaidTwice ++ sampleWholeRefunds)
  exact ⟨follows.1 _ agreed, follows.2 decisions agreed⟩

end EduAi.Payments
