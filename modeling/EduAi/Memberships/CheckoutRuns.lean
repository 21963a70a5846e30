import EduAi.Memberships.CheckoutTerms
import EduAi.Payments.FulfillmentWrites
import EduAi.Store.Keyed
import EduAi.Store.Runs

set_option autoImplicit false

namespace EduAi.Memberships.Terms

open EduAi.Store EduAi.Gds EduAi.Commerce EduAi.Payments

inductive Event where
  | checkout (draw : MembershipDraw) (catalogue : List PlanVersion) (call : CheckoutCall) (now : Instant)
  | settle (s : CommerceSettlement) (now : Instant)
  | confirm (orderId settlementId : Uuid) (now : Instant)
  | close (orderId : Uuid) (expired : Bool)
  | fulfill (draw : AccessDraw) (orderId : Uuid) (now : Instant)

-- The deferred checks can only refuse a transaction, so the runs without them are all the runs there are and more.
def step (deployment : Deployment) (db : CommerceDb) : Event → CommerceDb
  | .checkout draw catalogue call now => commit (createCheckout draw catalogue call now) db
  | .settle s now => commit (insertSettlement now s) db
  | .confirm orderId settlementId now => commit (updateOrder orderId (.confirm settlementId now)) db
  | .close orderId expired => commit (updateOrder orderId (.close expired)) db
  | .fulfill draw orderId now => commit (fulfillConfirmedOrder deployment now draw orderId) db

section Delivering

def Bought (db : CommerceDb) (l : CommerceOrderLine) (s : MembershipSubscription) : Prop :=
  s.sourceOrderLineId = some l.id ∧ s.active = true ∧ (∃ o ∈ db.orders, o.id = l.orderId ∧ o.buyerId = s.userId) ∧
    ∃ i ∈ db.intents, i.orderId = l.orderId ∧ i.startsAt = s.startsAt ∧ i.endsAt = s.expiresAt

structure Restamped (orderId : Uuid) (old new : CommerceOrder) : Prop where
  id : new.id = old.id
  buyerId : new.buyerId = old.buyerId
  status : new.status = old.status
  other : old.id ≠ orderId → new = old

theorem restamped_refl (orderId : Uuid) (o : CommerceOrder) : Restamped orderId o o :=
  ⟨rfl, rfl, rfl, fun _ => rfl⟩

structure Delivers (orderId : Uuid) (ls : List CommerceOrderLine) (db t : CommerceDb) : Prop where
  orders : ∃ f : CommerceOrder → CommerceOrder, (∀ o, Restamped orderId o (f o)) ∧ t.orders = db.orders.map f
  lines : t.lines = db.lines
  intents : t.intents = db.intents
  generations : t.generations = db.generations
  kept : db.subscriptions <+: t.subscriptions
  grown : ∀ s ∈ t.subscriptions, s ∈ db.subscriptions ∨ ∃ l ∈ db.lines, (∃ listed ∈ ls, listed.id = l.id) ∧ Bought db l s

variable (orderId : Uuid) (ls : List CommerceOrderLine)

theorem delivers_beside (db t : CommerceDb) (orders : t.orders = db.orders) (lines : t.lines = db.lines) (intents : t.intents = db.intents)
    (generations : t.generations = db.generations) (subscriptions : t.subscriptions = db.subscriptions) : Delivers orderId ls db t := by
  refine ⟨⟨id, restamped_refl orderId, ?_⟩, lines, intents, generations, subscriptions ▸ List.prefix_refl _, ?_⟩
  · rw [List.map_id, orders]
  · intro s member
    rw [subscriptions] at member
    exact .inl member

theorem delivers_refl (db : CommerceDb) : Delivers orderId ls db db :=
  delivers_beside orderId ls db db rfl rfl rfl rfl rfl

theorem delivers_trans (db t u : CommerceDb) (first : Delivers orderId ls db t) (second : Delivers orderId ls t u) :
    Delivers orderId ls db u := by
  obtain ⟨f, early, orders⟩ := first.orders
  obtain ⟨g, late, orders'⟩ := second.orders
  refine ⟨⟨g ∘ f, ?_, ?_⟩, second.lines.trans first.lines, second.intents.trans first.intents,
    second.generations.trans first.generations, first.kept.trans second.kept, ?_⟩
  · intro o
    have before := early o
    have after := late (f o)
    refine ⟨after.id.trans before.id, after.buyerId.trans before.buyerId, after.status.trans before.status, ?_⟩
    intro other
    have same := before.other other
    show g (f o) = o
    rw [after.other (same.symm ▸ other), same]
  · rw [orders', orders, List.map_map]
  · intro s member
    rcases second.grown s member with earlier | ⟨l, inTable, listed, source, active, ⟨o, inOrders, named, buyer⟩, intent⟩
    · exact first.grown s earlier
    · right
      rw [orders] at inOrders
      obtain ⟨old, inOld, rfl⟩ := List.mem_map.mp inOrders
      have before := early old
      exact ⟨l, first.lines ▸ inTable, listed, source, active, ⟨old, inOld, before.id.symm.trans named, before.buyerId.symm.trans buyer⟩,
        first.intents ▸ intent⟩

theorem delivers_writes (db t : CommerceDb) (writes : Writes (Delivers orderId ls) db t) : Delivers orderId ls db t := by
  induction writes with
  | refl => exact delivers_refl orderId ls db
  | tail _ last ih => exact delivers_trans orderId ls _ _ _ ih last

variable {orderId ls}

theorem createOutbox_delivers (row : CommerceNotificationOutbox) : Program (Delivers orderId ls) (createOutbox row) := by
  refine program_get.bind (fun _ => program_ite _ _ _ ?_ (program_pure _))
  constructor
  intro db
  exact (wlp_modify _ _ _).mpr (writes_one _ _ (delivers_beside orderId ls _ _ rfl rfl rfl rfl rfl))

theorem updateOrder_delivers (status : CommerceFulfillmentStatus) : Program (Delivers orderId ls) (updateOrder orderId (.fulfill status)) := by
  constructor
  intro db
  rw [wlp_updateOrder]
  intro old moves
  refine writes_one _ _ ⟨⟨fun o => if decide (o.id = orderId) = true then (OrderPatch.fulfill status).apply o else o, ?_, rfl⟩, rfl, rfl,
    rfl, List.prefix_refl _, fun _ member => .inl member⟩
  intro o
  dsimp only
  by_cases own : o.id = orderId
  · rw [if_pos (by simpa using own)]
    exact ⟨rfl, rfl, rfl, fun other => absurd own other⟩
  · rw [if_neg (by simpa using own)]
    exact restamped_refl orderId o

theorem effect_delivers (id orderLineId : Uuid) (effectType sourceId resourceType : String) (resourceId : Uuid) :
    Program (Delivers orderId ls) (effect id orderLineId effectType sourceId resourceType resourceId) := by
  constructor
  intro db
  rw [effect, wlp_createEffect]
  exact ⟨fun _ => writes_one _ _ (delivers_beside orderId ls _ _ rfl rfl rfl rfl rfl), fun _ => writes_refl db⟩

theorem createGrant_delivers (g : CourseAccessGrant) : Program (Delivers orderId ls) (createGrant g) := by
  constructor
  intro db
  rw [wlp_createGrant]
  exact ⟨fun _ => writes_one _ _ (delivers_beside orderId ls _ _ rfl rfl rfl rfl rfl), fun _ => writes_refl db⟩

theorem modify_delivers (f : CommerceDb → CommerceDb) (beside : ∀ db, Delivers orderId ls db (f db)) :
    Program (Delivers orderId ls) (modify f : CommerceTxn Unit) := by
  constructor
  intro db
  exact (wlp_modify _ _ _).mpr (writes_one _ _ (beside db))

theorem ensureGrant_delivers (draw : AccessDraw) (input : EnsureCourseAccessGrantInput) :
    Program (Delivers orderId ls) (ensureGrant draw input) := by
  refine (program_require _ _).bind (fun _ => (createGrant_delivers _).bind (fun _ => Program.bind ?_ (fun _ => ?_)))
  · exact program_get.bind (fun _ => program_ite _ _ _
      (modify_delivers _ (fun db => delivers_beside orderId ls db _ rfl rfl rfl rfl rfl)) (program_pure _))
  · refine program_get.bind (fun _ => Program.bind (program_forM _ _ (fun l => ?_)) (fun _ => program_get.bind (fun _ => program_pure _)))
    exact program_get.bind (fun _ => program_ite _ _ _
      (modify_delivers _ (fun db => delivers_beside orderId ls db _ rfl rfl rfl rfl rfl)) (program_pure _))

theorem grantEffect_delivers (draw : AccessDraw) (id orderLineId : Uuid) (input : EnsureCourseAccessGrantInput)
    (effectType missing : String) : Program (Delivers orderId ls) (grantEffect draw id orderLineId input effectType missing) :=
  (ensureGrant_delivers draw input).bind (fun _ => (program_orThrow _ _).bind (fun _ => effect_delivers _ _ _ _ _ _))

theorem fulfillGrace_delivers (draw : AccessDraw) (o : CommerceOrder) (l : CommerceOrderLine) (removed : RemovedCourseSnapshot) :
    Program (Delivers orderId ls) (fulfillGrace draw o l removed) := by
  unfold fulfillGrace
  split
  · exact grantEffect_delivers _ _ _ _ _ _
  · exact program_pure _

theorem fulfillService_delivers (draw : AccessDraw) (o : CommerceOrder) (l : CommerceOrderLine) (i : MembershipCheckoutIntent)
    (policy : EntitlementPolicy) : Program (Delivers orderId ls) (fulfillService draw o l i policy) := by
  refine program_get.bind (fun _ => Program.bind ?_ (fun _ => program_get.bind (fun _ => (program_orThrow _ _).bind
    (fun _ => effect_delivers _ _ _ _ _ _))))
  exact program_get.bind (fun _ => program_ite _ _ _
    (modify_delivers _ (fun db => delivers_beside orderId ls db _ rfl rfl rfl rfl rfl)) (program_pure _))

theorem ensureTerm_delivers (draw : AccessDraw) (o : CommerceOrder) (l : CommerceOrderLine) (listed : l ∈ ls)
    (i : MembershipCheckoutIntent) : Program (Delivers orderId ls) (ensureTerm draw o l i) := by
  refine program_get.bind (fun _ => ?_)
  split
  · exact program_pure _
  · refine (program_require _ _).bind (fun _ => Program.bind ?_ (fun _ => program_pure _))
    constructor
    intro db
    rw [wlp_insertSubscription]
    intro fits
    refine writes_one _ _ ⟨⟨id, restamped_refl orderId, (List.map_id _).symm⟩, rfl, rfl, rfl, List.prefix_append _ _, ?_⟩
    intro s member
    rcases List.mem_append.mp member with earlier | new
    · exact .inl earlier
    · obtain rfl := List.mem_singleton.mp new
      obtain ⟨l', inTable, same, _, _, buyer, j, intent, ordered, _, starts, ends⟩ := fits.snapshot l.id rfl
      exact .inr ⟨l', inTable, ⟨l, listed, same.symm⟩, congrArg some same.symm, rfl, buyer, j, intent, ordered, starts, ends⟩

theorem fulfillMembership_delivers (draw : AccessDraw) (o : CommerceOrder) (l : CommerceOrderLine) (listed : l ∈ ls) :
    Program (Delivers orderId ls) (fulfillMembership draw o l) := by
  refine program_get.bind (fun _ => (program_orThrow _ _).bind (fun i => (program_require _ _).bind (fun _ =>
    (program_orThrow _ _).bind (fun version => (ensureTerm_delivers draw o l listed i).bind (fun term =>
      (effect_delivers _ _ _ _ _ _).bind (fun _ => ?_))))))
  refine (program_forM _ _ (fun courseId => grantEffect_delivers _ _ _ _ _ _)).bind (fun _ => ?_)
  exact (program_forM _ _ (fulfillGrace_delivers draw o l)).bind (fun _ => program_forM _ _ (fulfillService_delivers draw o l i))

theorem fulfillCourse_delivers (now : Instant) (draw : AccessDraw) (o : CommerceOrder) (l : CommerceOrderLine) :
    Program (Delivers orderId ls) (fulfillCourse now draw o l) :=
  grantEffect_delivers _ _ _ _ _ _

theorem fulfillLine_delivers (now : Instant) (draw : AccessDraw) (o : CommerceOrder) (l : CommerceOrderLine) (listed : l ∈ ls) :
    Program (Delivers orderId ls) (fulfillLine now draw o l) := by
  unfold fulfillLine
  split
  · exact fulfillCourse_delivers now draw o l
  · exact fulfillMembership_delivers draw o l listed

theorem startFulfillment_delivers (o : CommerceOrder) : Program (Delivers o.id ls) (startFulfillment o) :=
  program_ite _ _ _ (updateOrder_delivers _) (program_pure _)

theorem deliverLines_delivers (now : Instant) (draw : AccessDraw) (o : CommerceOrder) (rest : List CommerceOrderLine) (inside : rest ⊆ ls) :
    Program (Delivers o.id ls) (rest.forM (fulfillLine now draw o)) := by
  induction rest with
  | nil => exact program_pure _
  | cons l rest ih =>
      exact (fulfillLine_delivers now draw o l (inside List.mem_cons_self)).bind
        (fun _ => ih (fun x member => inside (List.mem_cons_of_mem _ member)))

theorem deliverOrder_delivers (now : Instant) (draw : AccessDraw) (o : CommerceOrder) (db : CommerceDb) :
    Wlp (deliverOrder now draw o) (fun _ t => Delivers o.id (linesOf db o.id) db t) db := by
  unfold deliverOrder
  rw [wlp_bind]
  have begins : Program (Delivers o.id (linesOf db o.id)) (startFulfillment o) := startFulfillment_delivers o
  refine wlp_mono _ db (begins.within db) ?_
  intro _ u started
  have begun := delivers_writes _ _ db u started
  rw [wlp_bind, wlp_get]
  have sameLines : linesOf u o.id = linesOf db o.id := by
    rw [linesOf, begun.lines, linesOf]
  rw [sameLines]
  refine wlp_mono _ u (Program.within ((deliverLines_delivers now draw o (linesOf db o.id) (List.Subset.refl _)).bind (fun _ =>
    (createOutbox_delivers _).bind (fun _ => updateOrder_delivers _))) u) ?_
  intro _ t delivered
  exact delivers_trans _ _ db u t begun (delivers_writes _ _ u t delivered)

theorem convertReceiptOfOrder_idle (o : CommerceOrder) (db : CommerceDb) (none : db.generations = []) :
    Wlp (convertReceiptOfOrder o) (fun _ t => t = db) db := by
  unfold convertReceiptOfOrder
  split
  · exact (wlp_pure _ _ _).mpr rfl
  · unfold convertForPaidOrder
    simp only [wlp_bind, wlp_get, wlp_orThrow, wlp_require]
    intro _ _ _
    have latest : latestGeneration db o.id = Option.none := by
      rw [latestGeneration, none]
      rfl
    rw [latest]
    simp only [wlp_pure]

theorem fulfillConfirmedOrder_delivers (deployment : Deployment) (draw : AccessDraw) (orderId : Uuid) (now : Instant) (db : CommerceDb)
    (receipts : db.generations = []) :
    Wlp (fulfillConfirmedOrder deployment now draw orderId) (fun _ t => t = db ∨
      (∃ o, orderById db orderId = some o ∧ o.status = .confirmed) ∧ Delivers orderId (linesOf db orderId) db t) db := by
  unfold fulfillConfirmedOrder
  simp only [wlp_bind, wlp_get, wlp_orThrow, wlp_ite, wlp_require, wlp_pure]
  intro o found
  refine ⟨fun _ => .inl trivial, ?_⟩
  intro _ confirmed
  obtain ⟨_, rfl⟩ := orderById_some db orderId o found
  refine wlp_mono _ db (requireBankProofOfOrder_reads deployment now db o) ?_
  rintro _ _ rfl
  refine wlp_mono _ _ (convertReceiptOfOrder_idle o _ receipts) ?_
  rintro _ _ rfl
  refine wlp_mono _ _ (deliverOrder_delivers now draw o _) ?_
  intro _ t delivered
  exact .inr ⟨⟨o, found, confirmed⟩, delivered⟩

end Delivering

section Rows

def Apart (startsAt endsAt startsAt' endsAt' : Instant) : Prop :=
  endsAt ≤ startsAt' ∨ endsAt' ≤ startsAt

theorem Apart.symm {startsAt endsAt startsAt' endsAt' : Instant} (apart : Apart startsAt endsAt startsAt' endsAt') :
    Apart startsAt' endsAt' startsAt endsAt :=
  Or.symm apart

def Live (db : CommerceDb) (orderId : Uuid) : Prop :=
  ∃ o ∈ db.orders, o.id = orderId ∧ (o.status = .pendingPayment ∨ o.status = .confirmed)

def Confirmed (db : CommerceDb) (orderId : Uuid) : Prop :=
  ∃ o ∈ db.orders, o.id = orderId ∧ o.status = .confirmed

structure Rows (db : CommerceDb) : Prop where
  orderKey : ∀ o ∈ db.orders, ∀ o' ∈ db.orders, o.id = o'.id → o = o'
  lineKey : ∀ l ∈ db.lines, ∀ l' ∈ db.lines, l.id = l'.id → l = l'
  oneLine : ∀ l ∈ db.lines, ∀ l' ∈ db.lines, l.orderId = l'.orderId → l = l'
  intentKey : ∀ i ∈ db.intents, ∀ i' ∈ db.intents, i.orderId = i'.orderId → i = i'
  placed : ∀ i ∈ db.intents, (∃ o ∈ db.orders, o.id = i.orderId ∧ o.buyerId = i.userId) ∧
    ∃ l ∈ db.lines, l.orderId = i.orderId ∧ l.productType = .membership ∧ l.productReferenceId = i.versionId
  window : ∀ i ∈ db.intents, i.startsAt < i.endsAt
  lined : ∀ l ∈ db.lines, ∃ i ∈ db.intents, i.orderId = l.orderId
  early : ∀ o ∈ db.orders, o.status ≠ .latePaymentReview
  receipts : db.generations = []
  bought : ∀ s ∈ db.subscriptions, ∃ l ∈ db.lines, Bought db l s ∧ Confirmed db l.orderId

def TermsApart (db : CommerceDb) : Prop :=
  ∀ i ∈ db.intents, ∀ j ∈ db.intents, i.orderId ≠ j.orderId → i.userId = j.userId → Live db i.orderId → Live db j.orderId →
    Apart i.startsAt i.endsAt j.startsAt j.endsAt

variable {draw : MembershipDraw} {catalogue : List PlanVersion} {call : CheckoutCall} {now : Instant} {db t : CommerceDb}
  {term : QuotedTerm}

theorem checkedOut_rows (rows : Rows db) (out : CheckedOut draw catalogue call now db t term) : Rows t := by
  have freshLineOrder : ∀ l ∈ db.lines, l.orderId ≠ draw.orderId := by
    intro l member same
    obtain ⟨i, placed, ordered⟩ := rows.lined l member
    exact out.freshIntent i placed (ordered.trans same)
  constructor
  case orderKey =>
    rw [out.orders]
    exact keyed_append (fun o : CommerceOrder => o.id) _ _ rows.orderKey out.freshOrder
  case lineKey =>
    rw [out.lines]
    exact keyed_append (fun l : CommerceOrderLine => l.id) _ _ rows.lineKey out.freshLine
  case oneLine =>
    rw [out.lines]
    exact keyed_append (fun l : CommerceOrderLine => l.orderId) _ _ rows.oneLine freshLineOrder
  case intentKey =>
    rw [out.intents]
    exact keyed_append (fun i : MembershipCheckoutIntent => i.orderId) _ _ rows.intentKey out.freshIntent
  case placed =>
    rw [out.intents, out.orders, out.lines]
    intro i member
    rcases (mem_append_one _ _ i).mp member with old | rfl
    · obtain ⟨⟨o, inOrders, owned⟩, l, inLines, ordered⟩ := rows.placed i old
      exact ⟨⟨o, List.mem_append_left _ inOrders, owned⟩, l, List.mem_append_left _ inLines, ordered⟩
    · exact ⟨⟨_, List.mem_append_right _ List.mem_cons_self, rfl, rfl⟩, _, List.mem_append_right _ List.mem_cons_self, rfl, rfl, rfl⟩
  case window =>
    rw [out.intents]
    intro i member
    rcases (mem_append_one _ _ i).mp member with old | rfl
    · exact rows.window i old
    · exact out.window
  case lined =>
    rw [out.intents, out.lines]
    intro l member
    rcases (mem_append_one _ _ l).mp member with old | rfl
    · obtain ⟨i, inIntents, ordered⟩ := rows.lined l old
      exact ⟨i, List.mem_append_left _ inIntents, ordered⟩
    · exact ⟨_, List.mem_append_right _ List.mem_cons_self, rfl⟩
  case early =>
    rw [out.orders]
    intro o member
    rcases (mem_append_one _ _ o).mp member with old | rfl
    · exact rows.early o old
    · exact fun late => by cases late
  case receipts => exact out.generations.trans rows.receipts
  case bought =>
    rw [out.subscriptions, out.lines]
    intro s member
    obtain ⟨l, inLines, ⟨source, active, ⟨o, inOrders, buyer⟩, i, inIntents, snapshot⟩, x, paid, confirmed⟩ := rows.bought s member
    refine ⟨l, List.mem_append_left _ inLines, ⟨source, active, ⟨o, ?_, buyer⟩, i, ?_, snapshot⟩, x, ?_, confirmed⟩
    · exact out.orders ▸ List.mem_append_left _ inOrders
    · exact out.intents ▸ List.mem_append_left _ inIntents
    · exact out.orders ▸ List.mem_append_left _ paid

structure OrderAfter (old new : CommerceOrder) : Prop where
  id : new.id = old.id
  buyerId : new.buyerId = old.buyerId
  early : new.status ≠ .latePaymentReview
  stays : old.status = .confirmed → new.status = .confirmed
  live : new.status = .pendingPayment ∨ new.status = .confirmed → old.status = .pendingPayment ∨ old.status = .confirmed

-- What these transactions may do to the rows: each order moves on, and confirmed orders gain the terms they have bought.
structure StoreAfter (db t : CommerceDb) : Prop where
  orders : ∃ f : CommerceOrder → CommerceOrder, (∀ o ∈ db.orders, OrderAfter o (f o)) ∧ t.orders = db.orders.map f
  lines : t.lines = db.lines
  intents : t.intents = db.intents
  generations : t.generations = db.generations
  grown : ∀ s ∈ t.subscriptions, s ∈ db.subscriptions ∨ ∃ l ∈ db.lines, Bought db l s ∧ Confirmed db l.orderId

section After

variable (after : StoreAfter db t)

include after

theorem after_forward (o : CommerceOrder) (member : o ∈ db.orders) : ∃ new ∈ t.orders, OrderAfter o new := by
  obtain ⟨f, moves, orders⟩ := after.orders
  exact ⟨f o, orders ▸ List.mem_map_of_mem member, moves o member⟩

theorem after_back (new : CommerceOrder) (member : new ∈ t.orders) : ∃ o ∈ db.orders, OrderAfter o new := by
  obtain ⟨f, moves, orders⟩ := after.orders
  rw [orders] at member
  obtain ⟨o, inTable, rfl⟩ := List.mem_map.mp member
  exact ⟨o, inTable, moves o inTable⟩

theorem after_confirmed (id : Uuid) (confirmed : Confirmed db id) : Confirmed t id := by
  obtain ⟨o, member, named, status⟩ := confirmed
  obtain ⟨new, inTable, moved⟩ := after_forward after o member
  exact ⟨new, inTable, moved.id.trans named, moved.stays status⟩

theorem after_live (id : Uuid) (live : Live t id) : Live db id := by
  obtain ⟨new, member, named, status⟩ := live
  obtain ⟨o, inTable, moved⟩ := after_back after new member
  exact ⟨o, inTable, moved.id.symm.trans named, moved.live status⟩

theorem after_bought (l : CommerceOrderLine) (s : MembershipSubscription) (bought : Bought db l s) : Bought t l s := by
  obtain ⟨source, active, ⟨o, inOrders, named, buyer⟩, intent⟩ := bought
  obtain ⟨new, inTable, moved⟩ := after_forward after o inOrders
  exact ⟨source, active, ⟨new, inTable, moved.id.trans named, moved.buyerId.trans buyer⟩, after.intents ▸ intent⟩

theorem after_rows (rows : Rows db) : Rows t := by
  constructor
  case orderKey =>
    obtain ⟨f, moves, orders⟩ := after.orders
    rw [orders]
    exact keyed_map (fun o : CommerceOrder => o.id) _ f (fun o member => (moves o member).id) rows.orderKey
  case lineKey => exact after.lines ▸ rows.lineKey
  case oneLine => exact after.lines ▸ rows.oneLine
  case intentKey => exact after.intents ▸ rows.intentKey
  case receipts => exact after.generations.trans rows.receipts
  case early =>
    intro new member
    obtain ⟨o, _, moved⟩ := after_back after new member
    exact moved.early
  case placed =>
    rw [after.intents, after.lines]
    intro i member
    obtain ⟨⟨o, inOrders, named, buyer⟩, line⟩ := rows.placed i member
    obtain ⟨new, inTable, moved⟩ := after_forward after o inOrders
    exact ⟨⟨new, inTable, moved.id.trans named, moved.buyerId.trans buyer⟩, line⟩
  case window => exact after.intents ▸ rows.window
  case lined =>
    rw [after.intents, after.lines]
    exact rows.lined
  case bought =>
    rw [after.lines]
    intro s member
    have bought : ∃ l ∈ db.lines, Bought db l s ∧ Confirmed db l.orderId := by
      rcases after.grown s member with earlier | new
      · exact rows.bought s earlier
      · exact new
    obtain ⟨l, inLines, buys, confirmed⟩ := bought
    exact ⟨l, inLines, after_bought after l s buys, after_confirmed after _ confirmed⟩

theorem after_apart (apart : TermsApart db) : TermsApart t := by
  intro i memberI j memberJ other owner liveI liveJ
  rw [after.intents] at memberI memberJ
  exact apart i memberI j memberJ other owner (after_live after _ liveI) (after_live after _ liveJ)

end After

structure Settling (patch : OrderPatch) : Prop where
  id : ∀ o : CommerceOrder, (patch.apply o).id = o.id
  buyerId : ∀ o : CommerceOrder, (patch.apply o).buyerId = o.buyerId
  status : ∀ o : CommerceOrder, (patch.apply o).status = .confirmed ∨ (patch.apply o).status = .cancelled ∨ (patch.apply o).status = .expired
  fulfillment : ∀ o : CommerceOrder, (patch.apply o).fulfillmentStatus = o.fulfillmentStatus

theorem confirm_settling (settlementId : Uuid) (now : Instant) : Settling (.confirm settlementId now) :=
  ⟨fun _ => rfl, fun _ => rfl, fun _ => .inl rfl, fun _ => rfl⟩

theorem close_settling (expired : Bool) : Settling (.close expired) := by
  refine ⟨fun _ => rfl, fun _ => rfl, fun o => .inr ?_, fun _ => rfl⟩
  cases expired with
  | true => exact .inr rfl
  | false => exact .inl rfl

theorem settled_status (old new : CommerceOrderStatus) (moves : orderTransition old new = true)
    (final : new = .confirmed ∨ new = .cancelled ∨ new = .expired) (early : old ≠ .latePaymentReview) :
    new ≠ .latePaymentReview ∧ (old = .confirmed → new = .confirmed) ∧
      (new = .confirmed → old = .pendingPayment ∨ old = .confirmed) := by
  rcases final with rfl | rfl | rfl
  all_goals
    cases old <;> simp_all [orderTransition]

theorem updateOrder_after (rows : Rows db) (orderId : Uuid) (patch : OrderPatch) (settling : Settling patch) :
    Wlp (updateOrder orderId patch) (fun _ t => StoreAfter db t ∧ t.subscriptions = db.subscriptions ∧
      t.orders = updateWhere (fun o => o.id = orderId) patch.apply db.orders) db := by
  rw [wlp_updateOrder]
  intro old moves
  refine ⟨⟨⟨fun o => if decide (o.id = orderId) = true then patch.apply o else o, ?_, rfl⟩, rfl, rfl, rfl, fun _ member => .inl member⟩,
    rfl, rfl⟩
  intro o member
  dsimp only
  have early := rows.early o member
  by_cases named : o.id = orderId
  · rw [if_pos (by simpa using named)]
    obtain ⟨inTable, isId⟩ := orderById_some _ _ old moves.found
    obtain rfl := rows.orderKey old inTable o member (isId.trans named.symm)
    obtain ⟨later, stays, back⟩ := settled_status _ _ moves.status (settling.status old) early
    refine ⟨settling.id old, settling.buyerId old, later, stays, ?_⟩
    rintro (pending | confirmed)
    · rcases settling.status old with final | final | final
      all_goals
        rw [pending] at final
        cases final
    · exact back confirmed
  · rw [if_neg (by simpa using named)]
    exact ⟨rfl, rfl, early, id, id⟩

theorem delivered_after (rows : Rows db) (orderId : Uuid) (confirmed : ∃ o, orderById db orderId = some o ∧ o.status = .confirmed)
    (delivered : Delivers orderId (linesOf db orderId) db t) : StoreAfter db t := by
  obtain ⟨f, restamps, orders⟩ := delivered.orders
  refine ⟨⟨f, ?_, orders⟩, delivered.lines, delivered.intents, delivered.generations, ?_⟩
  · intro o member
    have same := restamps o
    exact ⟨same.id, same.buyerId, same.status ▸ rows.early o member, same.status ▸ id, same.status ▸ id⟩
  · intro s member
    rcases delivered.grown s member with earlier | ⟨l, inLines, ⟨listed, ofOrder, same⟩, bought⟩
    · exact .inl earlier
    · right
      obtain ⟨o, found, status⟩ := confirmed
      obtain ⟨inOrders, named⟩ := orderById_some _ _ o found
      obtain ⟨inTable, ordered⟩ := List.mem_filter.mp ofOrder
      obtain rfl := rows.lineKey listed inTable l inLines same
      exact ⟨listed, inLines, bought, o, inOrders, named.trans (of_decide_eq_true ordered).symm, status⟩

end Rows

end EduAi.Memberships.Terms
