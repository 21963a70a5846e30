import EduAi.Payments.RefundedAccess
import EduAi.Payments.Withdrawals

set_option autoImplicit false

namespace EduAi.Payments

open EduAi.Store EduAi.Gds EduAi.Commerce

structure RefundWhole (db : CommerceDb) (r : CommerceRefund) : Prop where
  distinct : (r.allocations.map (fun a => a.orderLineId)).Nodup
  totals : total (fun a => a.amountMinor) r.allocations = r.amountMinor
  lines : ∀ a ∈ r.allocations, ∃ l ∈ db.lines, l.id = a.orderLineId ∧ l.orderId = r.orderId
  settlement : ∃ s ∈ db.settlements, s.id = r.settlementId ∧ s.orderId = r.orderId

def TermShaped (db : CommerceDb) (m : MembershipSubscription) : Prop :=
  ∀ lineId, m.sourceOrderLineId = some lineId → ∃ l ∈ db.lines, l.id = lineId ∧ l.productType = .membership

def GrantShaped (db : CommerceDb) (g : CourseAccessGrant) : Prop :=
  g.active = true → g.sourceType ≠ .unverifiedReceiptAccess →
    ∃ l ∈ db.lines, ∃ o ∈ db.orders, o.id = l.orderId ∧ LineGrant o.buyerId l g

structure RefundSound (db : CommerceDb) : Prop where
  whole : Whole db
  positive : RefundsPositive db
  refunds : ∀ r ∈ db.refunds, RefundWhole db r
  texts : ∀ l ∈ db.lines, uuidText l.id = true
  terms : ∀ m ∈ db.subscriptions, TermShaped db m
  grants : ∀ g ∈ db.grants, GrantShaped db g

section Shapes

variable (db t : CommerceDb)

theorem refundWhole_kept (kept : Kept db t) (r r' : CommerceRefund) (allocations : r'.allocations = r.allocations)
    (amount : r'.amountMinor = r.amountMinor) (order : r'.orderId = r.orderId) (settlement : r'.settlementId = r.settlementId)
    (sound : RefundWhole db r) : RefundWhole t r' := by
  obtain ⟨s, member, named, ordered⟩ := sound.settlement
  refine ⟨by rw [allocations]; exact sound.distinct, by rw [allocations, amount]; exact sound.totals, ?_,
    ⟨s, kept.appends.settlements.subset member, by rw [settlement]; exact named, by rw [order]; exact ordered⟩⟩
  intro a listed
  rw [allocations] at listed
  obtain ⟨l, inLines, own, ofOrder⟩ := sound.lines a listed
  exact ⟨l, kept.appends.lines.subset inLines, own, by rw [order]; exact ofOrder⟩

theorem write_refundWhole (keys : Keys db) (w : Write db t) (sound : ∀ r ∈ db.refunds, RefundWhole db r) :
    ∀ r ∈ t.refunds, RefundWhole t r := by
  have kept := write_kept db t keys w
  have carried : t.refunds = db.refunds → ∀ r ∈ t.refunds, RefundWhole t r := by
    intro same r member
    rw [same] at member
    exact refundWhole_kept db t kept r r rfl rfl rfl rfl (sound r member)
  cases w with
  | routine _ w =>
    cases w with
    | refund r s fits totals linked =>
      intro r' member
      rcases List.mem_append.mp member with old | new
      · exact refundWhole_kept db _ kept r' r' rfl rfl rfl rfl (sound r' old)
      · rw [List.mem_singleton.mp new]
        obtain ⟨inTable, named⟩ := settlementById_some db r.settlementId s fits.settlement
        refine ⟨fits.distinct, totals, fun a listed => ?_, ⟨s, inTable, named, fits.target.1⟩⟩
        obtain ⟨l, inLines, own, ofOrder, _⟩ := fits.lines a listed
        exact ⟨l, inLines, own, ofOrder⟩
    | moveRefund id patch old moves =>
      intro r' member
      obtain ⟨r, before, rfl⟩ := (mem_updateWhere _ _ _ _).mp member
      split
      · cases patch <;> exact refundWhole_kept db _ kept r _ rfl rfl rfl rfl (sound r before)
      · exact refundWhole_kept db _ kept r r rfl rfl rfl rfl (sound r before)
    | _ => exact carried rfl
  | _ => exact carried rfl

theorem write_texts (w : Write db t) (texts : ∀ l ∈ db.lines, uuidText l.id = true) : ∀ l ∈ t.lines, uuidText l.id = true := by
  cases w with
  | routine _ w =>
    cases w with
    | line l o fits awaiting =>
      intro l' member
      rcases List.mem_append.mp member with old | new
      · exact texts l' old
      · rw [List.mem_singleton.mp new]
        exact fits.text
    | _ => exact texts
  | _ => exact texts

theorem write_terms (w : Write db t) (kept : Kept db t) (terms : ∀ m ∈ db.subscriptions, TermShaped db m) :
    ∀ m ∈ t.subscriptions, TermShaped t m := by
  have moved : ∀ m, TermShaped db m → TermShaped t m := by
    intro m shaped lineId named
    obtain ⟨l, member, own, membership⟩ := shaped lineId named
    exact ⟨l, kept.appends.lines.subset member, own, membership⟩
  have carried : t.subscriptions = db.subscriptions → ∀ m ∈ t.subscriptions, TermShaped t m := by
    intro same m member
    rw [same] at member
    exact moved m (terms m member)
  cases w with
  | routine _ w =>
    cases w with
    | subscription s fits allowed =>
      intro m member
      rcases List.mem_append.mp member with old | new
      · exact moved m (terms m old)
      · rw [List.mem_singleton.mp new]
        intro lineId named
        obtain ⟨l, inLines, own, membership, _⟩ := fits.snapshot lineId named
        exact ⟨l, inLines, own, membership⟩
    | cancelSubscriptions p =>
      intro m member
      obtain ⟨old, before, rfl⟩ := (mem_updateWhere _ _ _ _).mp member
      split
      · exact moved old (terms old before)
      · exact moved old (terms old before)
    | _ => exact carried rfl
  | _ => exact carried rfl

theorem grantShaped_kept (kept : Kept db t) (g : CourseAccessGrant) (shaped : GrantShaped db g) : GrantShaped t g := by
  intro active bought
  obtain ⟨l, inLines, o, inOrders, named, given⟩ := shaped active bought
  obtain ⟨o', member, same⟩ := kept.orders o inOrders
  exact ⟨l, kept.appends.lines.subset inLines, o', member, by rw [same.id]; exact named, by rw [same.buyer]; exact given⟩

theorem gained_shaped (kept : Kept db t) (scope : Scope) (gained : Gained scope db t) (given : ∀ g, scope.grants g → GrantShaped t g)
    (shaped : ∀ g ∈ db.grants, GrantShaped db g) : ∀ g ∈ t.grants, GrantShaped t g := by
  intro g member active
  rcases gained.grants g member active with before | allowed
  · exact grantShaped_kept db t kept g (shaped g before) active
  · exact given g allowed active

theorem receipts_shaped (g : CourseAccessGrant) (receipt : receiptAccess.grants g) : GrantShaped t g :=
  fun _ bought => absurd receipt bought

theorem completed_shaped (kept : Kept db t) (orderId : Uuid) (o : CommerceOrder) (member : o ∈ db.orders) (named : o.id = orderId)
    (done : Completed db orderId t) (shaped : ∀ g ∈ db.grants, GrantShaped db g) : ∀ g ∈ t.grants, GrantShaped t g := by
  refine gained_shaped db t kept _ (done.access o member named) ?_ shaped
  rintro g ⟨l, listed, given⟩
  obtain ⟨inLines, ordered⟩ := List.mem_filter.mp listed
  refine grantShaped_kept db t kept g (fun _ _ => ⟨l, inLines, o, member, ?_, given⟩)
  rw [named]
  exact (of_decide_eq_true ordered).symm

theorem transition_shaped (orders : Uuid → Prop) (keys : Keys db) (step : Transition (completing orders) db t)
    (shaped : ∀ g ∈ db.grants, GrantShaped db g) : ∀ g ∈ t.grants, GrantShaped t g := by
  have kept := writes_kept db t keys (transition_writes _ db t step)
  cases step with
  | routine t w => exact gained_shaped db t kept receiptAccess (routine_gained receiptAccess db t w) (receipts_shaped t) shaped
  | collected now s o u confirms matched banked =>
    exact gained_shaped db _ kept receiptAccess (confirmation_gained db receiptAccess now s o u confirms) (receipts_shaped _) shaped
  | gifted now s o u confirms internal free allowed =>
    exact gained_shaped db _ kept receiptAccess (confirmation_gained db receiptAccess now s o u confirms) (receipts_shaped _) shaped
  | granted now s o u t confirms internal done =>
    have path := confirmation_writes db now s o u confirms
    have between := gained_shaped db _ (writes_kept db _ keys path) receiptAccess
      (confirmation_gained db receiptAccess now s o u confirms) (receipts_shaped _) shaped
    obtain ⟨inOrders, named⟩ := confirmation_order db now s o u confirms
    exact completed_shaped _ t (writes_kept _ t (writes_keys db _ keys path) done.writes) s.orderId _ inOrders named done between
  | completed orderId o t found confirmed unfulfilled done allowed =>
    obtain ⟨inOrders, named⟩ := orderById_some db orderId o found
    exact completed_shaped db t kept orderId o inOrders named done shaped
  | _ => exact gained_shaped db _ kept receiptAccess (gained_beside _ db _ rfl rfl) (receipts_shaped _) shaped

theorem write_refundSound (w : Write db t) (keys : Keys db)
    (sound : RefundsPositive db ∧ (∀ r ∈ db.refunds, RefundWhole db r) ∧ (∀ l ∈ db.lines, uuidText l.id = true) ∧
      ∀ m ∈ db.subscriptions, TermShaped db m) :
    RefundsPositive t ∧ (∀ r ∈ t.refunds, RefundWhole t r) ∧ (∀ l ∈ t.lines, uuidText l.id = true) ∧
      ∀ m ∈ t.subscriptions, TermShaped t m := by
  obtain ⟨positive, refunds, texts, terms⟩ := sound
  exact ⟨write_refundsPositive db t w positive, write_refundWhole db t keys w refunds, write_texts db t w texts,
    write_terms db t w (write_kept db t keys w) terms⟩

theorem transition_refundSound (orders : Uuid → Prop) (step : Transition (completing orders) db t) (sound : RefundSound db) :
    RefundSound t := by
  have keys := sound.whole.delivered.backed.keys
  obtain ⟨_, positive, refunds, texts, terms⟩ := writes_invariant (fun s => Keys s ∧ RefundsPositive s ∧
      (∀ r ∈ s.refunds, RefundWhole s r) ∧ (∀ l ∈ s.lines, uuidText l.id = true) ∧ ∀ m ∈ s.subscriptions, TermShaped s m)
    (fun s u w held => ⟨write_keys s u w held.1, write_refundSound s u w held.1 held.2⟩) db t (transition_writes _ db t step)
    ⟨keys, sound.positive, sound.refunds, sound.texts, sound.terms⟩
  exact ⟨transition_whole _ db t sound.whole step, positive, refunds, texts, terms,
    transition_shaped db t orders keys step sound.grants⟩

end Shapes

theorem step_refundSound (deployment : Deployment) (s : System) (i : Input) (sound : RefundSound s.db) :
    RefundSound (step deployment s i).db := by
  have admits := completing_admits (fun _ => True) s i (fun _ _ _ _ _ _ _ => trivial)
  exact writes_invariant RefundSound (fun u v moved => transition_refundSound u v _ moved) _ _
    (step_transitions (completing (fun _ => True)) deployment s i sound.whole admits) sound

theorem start_refundSound (createdAt : Instant) : RefundSound (System.start createdAt).db := by
  refine ⟨emptyCommerceDb_whole createdAt, ?_, ?_, ?_, ?_, ?_⟩ <;>
    · intro _ member
      cases member

end EduAi.Payments
