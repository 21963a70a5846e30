import EduAi.Gds.Holds
import EduAi.Payments.MoneyTrace

set_option autoImplicit false

namespace EduAi.Payments

open EduAi.Store EduAi.Gds EduAi.Commerce

variable {scope : Scope}

structure CapturedFor (g : GdsDb) (o : CommerceOrder) (h : Hold) (w : Wallet) (j : JournalEntry) : Prop where
  hold : h ∈ g.holds
  orderRef : h.orderRef = o.id
  amount : h.amountMinor = o.payableAmountMinor
  captured : h.status = .captured
  wallet : w ∈ g.wallets
  owner : w.id = h.walletId ∧ w.buyerId = o.buyerId
  posting : j ∈ g.journal
  kind : j.kind = .capture
  named : j.orderRef = some o.id ∧ j.eventKey = captureKey o.id
  moved : j.walletId = h.walletId ∧ j.amountMinor = o.payableAmountMinor

structure WalletPaid (db : CommerceDb) (x : CommerceSettlement) (o : CommerceOrder) : Prop where
  order : o ∈ db.orders
  named : o.id = x.orderId
  fulfilled : o.fulfillmentStatus = .fulfilled
  internal : x.disposition = .internal
  gds : x.provider = some .gds
  currency : x.currency = "VND"
  unlinked : x.paymentAttemptId = none ∧ x.paymentEventId = none
  reference : x.providerSettlementReference = some (gdsOrderReference o.id)
  amount : x.amountMinor = o.payableAmountMinor
  captured : ∃ h w j, CapturedFor db.gds o h w j

structure WalletWhole (db : CommerceDb) : Prop where
  posted : HoldsPosted db.gds
  paid : ∀ x ∈ db.settlements, x.kind = .walletCapture → ∃ o, WalletPaid db x o

theorem emptyCommerceDb_walletWhole (createdAt : Instant) : WalletWhole (emptyCommerceDb createdAt) :=
  ⟨emptyDb_posted createdAt, fun _ member => by cases member⟩

theorem write_holds (db t : CommerceDb) (w : Write db t) : Writes HoldWrite db.gds t.gds := by
  cases w with
  | routine _ w =>
    cases w with
    | wallet now statement gds ok => exact (execute_holds now statement).within db.gds () gds ok
    | _ => exact writes_refl _
  | _ => exact writes_refl _

theorem writes_holds (db t : CommerceDb) (writes : Writes Write db t) : Writes HoldWrite db.gds t.gds := by
  induction writes with
  | refl => exact writes_refl _
  | tail path w ih => exact writes_trans _ _ _ ih (write_holds _ _ w)

theorem holds_posted (g t : GdsDb) (posted : HoldsPosted g) (writes : Writes HoldWrite g t) : HoldsPosted t :=
  writes_invariant HoldsPosted (fun s u w held => holdWrite_posted s u held w) g t writes posted

theorem holds_kept (g t : GdsDb) (posted : HoldsPosted g) (writes : Writes HoldWrite g t) : GdsKept g t :=
  writes_relation GdsKept gdsKept_refl gdsKept_trans HoldsPosted (fun s u w held => holdWrite_posted s u held w)
    (fun s u w held => holdWrite_kept s u held w) g t writes posted

theorem capturedFor_kept (g t : GdsDb) (kept : GdsKept g t) (o o' : CommerceOrder) (same : OrderKept o o') (h : Hold) (w : Wallet)
    (j : JournalEntry) (captured : CapturedFor g o h w j) : ∃ h' w', CapturedFor t o' h' w' j := by
  obtain ⟨h', hh', hold⟩ := kept.holds h captured.hold
  obtain ⟨w', hw', wallet⟩ := kept.wallets w captured.wallet
  refine ⟨h', w', hh', ?_, ?_, ?_, hw', ?_, kept.journal.subset captured.posting, captured.kind, ?_, ?_⟩
  · rw [hold.orderRef, captured.orderRef, same.id]
  · rw [hold.amount, captured.amount, same.payable]
  · rw [hold.ended (by rw [captured.captured]; decide), captured.captured]
  · rw [wallet.id, wallet.buyer, hold.walletId, same.buyer]
    exact captured.owner
  · rw [same.id]
    exact captured.named
  · rw [hold.walletId, same.payable]
    exact captured.moved

section Preserved

variable (allow : Allowance) (db t : CommerceDb)

theorem walletPaid_kept (kept : Kept db t) (holds : GdsKept db.gds t.gds) (x : CommerceSettlement) (o : CommerceOrder)
    (paid : WalletPaid db x o) : ∃ o', WalletPaid t x o' := by
  obtain ⟨o', ho', same⟩ := kept.orders o paid.order
  obtain ⟨h, w, j, captured⟩ := paid.captured
  obtain ⟨h', w', captured'⟩ := capturedFor_kept _ _ holds o o' same h w j captured
  exact ⟨o', ho', same.id.trans paid.named, same.fulfilled paid.fulfilled, paid.internal, paid.gds, paid.currency, paid.unlinked,
    by rw [same.id]; exact paid.reference, by rw [same.payable]; exact paid.amount, h', w', j, captured'⟩

theorem settled_captured (now : Instant) (s : CommerceSettlement) (o : CommerceOrder) (fits : SettlementFits now db s o)
    (kind : s.kind = .walletCapture) : s.disposition = .internal ∧ s.provider = some .gds ∧ s.currency = "VND" ∧
      (s.paymentAttemptId = none ∧ s.paymentEventId = none) ∧ s.providerSettlementReference = some (gdsOrderReference o.id) ∧
      ∃ h w j, CapturedFor db.gds o h w j := by
  have proven := fits.proven
  simp only [settlementProven, kind] at proven
  obtain ⟨_, _, _, currency, internal, gds, attempt, event, reference, _, _, captured⟩ := of_decide_eq_true proven
  obtain ⟨h, hh, facts⟩ := List.any_eq_true.mp captured
  obtain ⟨orderRef, amount, status, wallets, postings⟩ := of_decide_eq_true facts
  obtain ⟨w, hw, owner⟩ := List.any_eq_true.mp wallets
  obtain ⟨id, buyer, _⟩ := of_decide_eq_true owner
  obtain ⟨j, hj, posting⟩ := List.any_eq_true.mp postings
  obtain ⟨wallet, named, kind', key, moved, _⟩ := of_decide_eq_true posting
  exact ⟨internal, gds, currency, ⟨attempt, event⟩, reference, h, w, j, hh, orderRef, amount, status, hw, ⟨id, buyer⟩, hj, kind',
    ⟨named, key⟩, wallet, moved⟩

theorem internal_of_capture (s : CommerceSettlement) (shape : settlementShape s = true) (kind : s.kind = .walletCapture) :
    s.disposition = .internal := by
  simp [settlementShape, kind] at shape
  exact shape.1

theorem routine_captures_from (w : RoutineWrite scope db t) (x : CommerceSettlement) (hx : x ∈ t.settlements)
    (kind : x.kind = .walletCapture) : x ∈ db.settlements := by
  cases w with
  | surplus now s o fits disposition collected =>
    rcases List.mem_append.mp hx with old | new
    · exact old
    · rw [List.mem_singleton.mp new] at kind
      have internal := internal_of_capture s fits.shape kind
      rw [internal] at disposition
      rcases disposition with other | other <;> cases other
  | _ => exact hx

theorem routines_captures_from (writes : Writes (RoutineWrite scope) db t) (x : CommerceSettlement) (hx : x ∈ t.settlements)
    (kind : x.kind = .walletCapture) : x ∈ db.settlements := by
  induction writes with
  | refl => exact hx
  | tail path w ih => exact ih (routine_captures_from _ _ w x hx kind)

theorem confirmation_captures_from (now : Instant) (s : CommerceSettlement) (o : CommerceOrder) (u : CommerceDb)
    (confirms : Confirmation scope db now s o u) (x : CommerceSettlement) (hx : x ∈ (confirmedStore now s u).settlements)
    (kind : x.kind = .walletCapture) : x ∈ db.settlements ∨ x = s := by
  rcases List.mem_append.mp (routines_captures_from _ _ confirms.moved x hx kind) with old | new
  · exact .inl old
  · exact .inr (List.mem_singleton.mp new)

variable (whole : Whole db) (wallets : WalletWhole db)

include whole wallets

theorem transition_walletWhole (step : Transition allow db t) : WalletWhole t := by
  have keys := whole.delivered.backed.keys
  have writes := transition_writes allow db t step
  have kept := writes_kept db t keys writes
  have moved := writes_holds db t writes
  have holds := holds_kept _ _ wallets.posted moved
  refine ⟨holds_posted _ _ wallets.posted moved, ?_⟩
  intro x hx kind
  have carried : x ∈ db.settlements → ∃ o, WalletPaid t x o := by
    intro old
    obtain ⟨o, paid⟩ := wallets.paid x old kind
    exact walletPaid_kept db t kept holds x o paid
  cases step with
  | routine t w => exact carried (routine_captures_from db t w x hx kind)
  | collected now s o u confirms matched banked =>
    rcases confirmation_captures_from db now s o u confirms x hx kind with old | new
    · exact carried old
    · rw [new] at kind
      rw [internal_of_capture s confirms.fits.shape kind] at matched
      cases matched
  | gifted now s o u confirms internal free allowed =>
    rcases confirmation_captures_from db now s o u confirms x hx kind with old | new
    · exact carried old
    · rw [new, free] at kind
      cases kind
  | granted now s o u t confirms internal done =>
    have same : t.settlements = (confirmedStore now s u).settlements := by
      rw [← done.apart]
      rfl
    rw [same] at hx
    rcases confirmation_captures_from db now s o u confirms x hx kind with old | new
    · exact carried old
    · subst new
      obtain ⟨internal, gds, currency, unlinked, reference, h, w, j, captured⟩ := settled_captured db now x o confirms.fits kind
      obtain ⟨ho, named⟩ := orderById_some db x.orderId o confirms.fits.order
      obtain ⟨o', ho', order⟩ := kept.orders o ho
      have fulfilled : o'.fulfillmentStatus = .fulfilled := by
        have member := ho'
        rw [done.orders] at member
        obtain ⟨y, _, moved'⟩ := (mem_updateWhere _ _ _ _).mp member
        by_cases selected : y.id = x.orderId
        · rw [moved', if_pos (by simp [selected])]
          rfl
        · rw [if_neg (by simp [selected])] at moved'
          rw [moved'] at order
          exact absurd (order.id.trans named) selected
      obtain ⟨h', w', captured'⟩ := capturedFor_kept _ _ holds o o' order h w j captured
      refine ⟨o', ho', order.id.trans named, fulfilled, internal, gds, currency, unlinked, ?_, ?_, h', w', j, captured'⟩
      · rw [order.id]
        exact reference
      · rw [order.payable]
        exact confirms.fits.total.1
  | completed orderId o t found confirmed unfulfilled done allowed =>
    have same : t.settlements = db.settlements := by
      rw [← done.apart]
      rfl
    rw [same] at hx
    exact carried hx
  | _ => exact carried hx

end Preserved

section Runs

variable (deployment : Deployment)

theorem step_walletWhole (s : System) (i : Input) (whole : Whole s.db) (wallets : WalletWhole s.db) :
    WalletWhole (step deployment s i).db := by
  have steps := step_transitions unrestricted deployment s i whole (unrestricted_admits s i)
  have both := writes_invariant (fun db => Whole db ∧ WalletWhole db)
    (fun db t step held => ⟨transition_whole unrestricted db t held.1 step, transition_walletWhole unrestricted db t held.1 held.2 step⟩)
    s.db _ steps ⟨whole, wallets⟩
  exact both.2

theorem run_walletWhole (s : System) (inputs : List Input) (sound : Sound s) (wallets : WalletWhole s.db) :
    Sound (run (step deployment) s inputs) ∧ WalletWhole (run (step deployment) s inputs).db :=
  run_invariant (step deployment) (fun s => Sound s ∧ WalletWhole s.db)
    (fun s i held => ⟨step_sound deployment s i held.1, step_walletWhole deployment s i held.1.whole held.2⟩) s inputs ⟨sound, wallets⟩

end Runs

section Replays

variable (deployment : Deployment) (db : CommerceDb) (whole : Whole db) (wallets : WalletWhole db) (o : CommerceOrder)
  (x : CommerceSettlement) (hx : x ∈ db.settlements) (kind : x.kind = .walletCapture) (order : o ∈ db.orders)
  (named : o.id = x.orderId)

include whole wallets hx kind order named

theorem capture_replays : o.status = .confirmed ∧ replayVerified db o.buyerId o = true := by
  have backed := whole.delivered.backed
  obtain ⟨o', paid⟩ := wallets.paid x hx kind
  have same : o' = o := order_same db backed.keys o' o paid.order order (paid.named.trans named.symm)
  subst same
  obtain ⟨y, hy, orderId, confirms⟩ := whole.confirms x hx (.inr paid.internal)
  have one : y = o' := order_same db backed.keys y o' hy order (orderId.trans named.symm)
  subst one
  obtain ⟨confirmed, _⟩ := named_confirms db backed y order x hx confirms
  obtain ⟨h, w, j, captured⟩ := paid.captured
  have settlement : confirmingSettlement db y = some x := by
    unfold confirmingSettlement
    rw [confirms]
    exact settlementById_of_mem db backed.keys x hx
  have hold : holdByOrder db y.id = some h :=
    find_unique (fun h => some h.orderRef) _ db.gds.holds wallets.posted.refs h y.id captured.hold (by simp [captured.orderRef])
      (by rw [captured.orderRef]) (fun z _ hz => by simpa using hz)
  have wallet : walletById db.gds h.walletId = some w :=
    find_unique (fun w => some w.id) _ db.gds.wallets wallets.posted.wallets w h.walletId captured.wallet
      (by simp [captured.owner.1]) (by rw [captured.owner.1]) (fun z _ hz => by simpa using hz)
  have posting : db.gds.journal.find? (fun j => j.eventKey = captureKey y.id) = some j :=
    find_unique (fun j => some j.eventKey) _ db.gds.journal wallets.posted.keys j (captureKey y.id) captured.posting
      (by simp [captured.named.2]) (by rw [captured.named.2]) (fun z _ hz => by simpa using hz)
  refine ⟨confirmed, decide_eq_true ⟨?_, ?_⟩⟩
  · rw [settlement]
    exact decide_eq_true ⟨kind, named.symm, paid.gds, paid.internal, paid.currency, paid.unlinked.1, paid.unlinked.2,
      paid.fulfilled, paid.amount, paid.reference⟩
  · rw [hold]
    refine decide_eq_true ⟨captured.captured, captured.amount, ?_, ?_⟩
    · rw [wallet]
      exact decide_eq_true captured.owner.2
    · rw [posting]
      exact decide_eq_true ⟨captured.kind, captured.moved⟩

end Replays

section Payments

variable (deployment : Deployment) (now : Instant) (draw : CheckoutDraw) (buyerId orderId : Uuid)

structure Captured (db : CommerceDb) (r : CheckoutReceipt) (t : CommerceDb) : Prop where
  enabled : deployment.gdsCheckoutEnabled = true
  ids : isUuid buyerId = true ∧ isUuid orderId = true
  order : ∃ o ∈ db.orders, o.id = orderId ∧ o.buyerId = buyerId ∧ r = { orderId := o.id, amountMinor := o.payableAmountMinor }
  settlement : ∃ x ∈ t.settlements, x.orderId = orderId ∧ x.kind = .walletCapture

variable (db : CommerceDb) (whole : Whole db)

include whole

theorem captureOrder_settles (o : CommerceOrder) (found : orderById db o.id = some o) :
    Wlp (captureOrder deployment now draw buyerId o)
      (fun r t => r = { orderId := o.id, amountMinor := o.payableAmountMinor } ∧
        ∃ x ∈ t.settlements, x.orderId = o.id ∧ x.kind = .walletCapture) db := by
  simp only [captureOrder, wlp_bind, wlp_require, wlp_get, wlp_orThrow]
  rintro ⟨awaiting, _⟩ w _
  refine wlp_mono _ db (wlp_and _ _ ((@reserveOrder_program unrestricted.scope now w o _).within db) (reserveOrder_store now w o _ db)) ?_
  rintro _ s ⟨reserved, gds, rfl⟩ current _ h _
  refine wlp_mono _ _ (prepareGdsCommerceCapture_plan _ _) ?_
  rintro plan _ ⟨rfl, _⟩
  refine wlp_mono _ _ (wlp_and _ _ ((@posting_program unrestricted.scope now _).within _) (posting_store now _ _)) ?_
  rintro _ t ⟨captured, gds', _, rfl⟩
  simp only [wlp_insertSettlement, wlp_updateOrder]
  intro o' fits old moves
  have path := routine_transitions unrestricted _ _ (writes_trans _ _ _ reserved captured)
  have delivered := (transitions_whole unrestricted _ _ path whole).delivered
  have same : o' = o := by
    have sameRow : orderById db o.id = some o' := fits.order
    rw [found] at sameRow
    exact (Option.some.inj sameRow).symm
  subst same
  have settled := writes_one _ _ (Write.settle _ now _ o' fits (fun collection => by cases collection))
  have confirmed := settled.tail (.confirm _ _ _ now old moves (by
    have byId : orderById db o'.id = some old := moves.found
    rw [found] at byId
    rw [← Option.some.inj byId]
    exact awaiting))
  refine wlp_mono _ _ (fulfillConfirmedOrder_outcome deployment now draw.access o'.id _
    (writes_delivered _ _ delivered confirmed)) ?_
  intro _ u outcome
  rw [wlp_pure]
  refine ⟨rfl, captureSettlement draw.settlementId o' now plan, ?_, rfl, rfl⟩
  cases outcome with
  | already x found fulfilled => exact List.mem_append_right _ (List.mem_singleton.mpr rfl)
  | completed x u found confirmed unfulfilled done =>
    rw [← done.apart]
    exact List.mem_append_right _ (List.mem_singleton.mpr rfl)

theorem payOrder_captured : Wlp (payOrder deployment now draw buyerId orderId) (Captured deployment buyerId orderId db) db := by
  simp only [payOrder, wlp_bind, wlp_require, wlp_get, wlp_orThrow, wlp_ite]
  intro enabled ids o owned
  obtain ⟨byId, buyer⟩ := ownedOrder_some db orderId buyerId o owned
  obtain ⟨ho, named⟩ := orderById_some db orderId o byId
  have found : orderById db o.id = some o := by
    rw [named]
    exact byId
  refine ⟨fun confirmed => ?_, fun _ => ?_⟩
  · refine wlp_mono _ db (replayCapture_reads db buyerId o) ?_
    rintro r t ⟨same, answer, verified⟩
    subst same
    refine ⟨enabled, ids, ⟨o, ho, named, buyer, answer⟩, ?_⟩
    obtain ⟨x, settlement, facts⟩ := (Option.any_eq_true _ _).mp (of_decide_eq_true verified).1
    obtain ⟨kind, order, _⟩ := of_decide_eq_true facts
    exact ⟨x, (settlementById_some t _ x (Option.bind_eq_some_iff.mp settlement).choose_spec.2).1, order.trans named, kind⟩
  · refine wlp_mono _ db (captureOrder_settles deployment now draw buyerId db whole o found) ?_
    rintro r t ⟨answer, x, hx, order, kind⟩
    exact ⟨enabled, ids, ⟨o, ho, named, buyer, answer⟩, x, hx, order.trans named, kind⟩

omit whole in
theorem payOrder_replays (r : CheckoutReceipt) (t u : CommerceDb) (captured : Captured deployment buyerId orderId db r t)
    (first : Kept db u) (later : Kept t u) (whole : Whole u) (wallets : WalletWhole u) :
    payOrder deployment now draw buyerId orderId u = .ok (r, u) := by
  obtain ⟨o, ho, named, buyer, answer⟩ := captured.order
  obtain ⟨x, hx, order, kind⟩ := captured.settlement
  obtain ⟨o', ho', same⟩ := first.orders o ho
  have here := later.appends.settlements.subset hx
  have id : o'.id = orderId := same.id.trans named
  obtain ⟨confirmed, verified⟩ := capture_replays u whole wallets o' x here kind ho' (id.trans order.symm)
  have found : orderOfBuyer u orderId buyerId = some o' := by
    have byId := orderById_of_mem u whole.delivered.backed.keys o' ho'
    rw [id] at byId
    exact Option.filter_eq_some_iff.mpr ⟨byId, decide_eq_true (same.buyer.trans buyer)⟩
  rw [same.buyer, buyer] at verified
  unfold payOrder
  rw [require_bind_run _ _ _ _ captured.enabled, require_bind_run _ _ _ _ captured.ids, get_bind_run,
    orThrow_bind_run _ _ _ _ o' found, if_pos confirmed]
  unfold replayCapture
  rw [get_bind_run, require_bind_run _ _ _ _ verified, answer, same.id, same.payable]
  rfl

end Payments

structure WalletPosted (db : CommerceDb) (o : CommerceOrder) (x : CommerceSettlement) : Prop where
  order : x.orderId = o.id
  amount : x.amountMinor = o.payableAmountMinor
  hold : ∃ h ∈ db.gds.holds, h.orderRef = o.id ∧ h.amountMinor = o.payableAmountMinor ∧ h.status = .captured ∧
    (∃ w ∈ db.gds.wallets, w.id = h.walletId ∧ w.buyerId = o.buyerId) ∧
    ∀ j ∈ db.gds.journal, j.orderRef = some o.id → j.kind = .reserve ∨ j.kind = .capture →
      j.walletId = h.walletId ∧ j.amountMinor = o.payableAmountMinor
  reserved : db.gds.journal.countP (fun j => j.kind = .reserve ∧ j.orderRef = some o.id) = 1
  captured : db.gds.journal.countP (fun j => j.kind = .capture ∧ j.orderRef = some o.id) = 1

def PaidByWallet (t : CommerceDb) (buyerId orderId : Uuid) (r : CheckoutReceipt) : Prop :=
  ∃ o ∈ t.orders, ∃ x ∈ t.settlements, o.id = orderId ∧ o.buyerId = buyerId ∧ o.status = .confirmed ∧
    o.confirmedSettlementId = some x.id ∧ x.kind = .walletCapture ∧
    r = { orderId := orderId, amountMinor := o.payableAmountMinor } ∧ WalletPosted t o x

structure WalletPayment (deployment : Deployment) (s : System) : Prop where
  single : ∀ orderId, s.db.settlements.countP
    (fun x => x.orderId = orderId ∧ (x.disposition = .matched ∨ x.disposition = .internal)) ≤ 1
  confirmed : ∀ o ∈ s.db.orders, o.status = .confirmed → ∃ x ∈ s.db.settlements, o.confirmedSettlementId = some x.id ∧
    x.orderId = o.id ∧ (x.disposition = .matched ∨ x.disposition = .internal)
  settled : ∀ o ∈ s.db.orders, o.status = .confirmed → ∀ later, ∃ o' ∈ (run (step deployment) s later).db.orders,
    o'.id = o.id ∧ o'.status = .confirmed ∧ o'.confirmedSettlementId = o.confirmedSettlementId
  wallet : ∀ o ∈ s.db.orders, ∀ x ∈ s.db.settlements, o.confirmedSettlementId = some x.id → x.kind = .walletCapture →
    WalletPosted s.db o x
  paid : ∀ draw buyerId orderId r t,
    transaction (payOrder deployment s.now draw buyerId orderId) s.db = .ok (r, t) → PaidByWallet t buyerId orderId r
  replayed : ∀ draw buyerId orderId r t,
    transaction (payOrder deployment s.now draw buyerId orderId) s.db = .ok (r, t) →
    (step deployment s (.payWallet draw buyerId orderId)).db = t ∧
      ∀ later again, let u := run (step deployment) (step deployment s (.payWallet draw buyerId orderId)) later
        transaction (payOrder deployment u.now again buyerId orderId) u.db = .ok (r, u.db)
  failed : ∀ i fault, transaction (body deployment s i) s.db = .error fault → (step deployment s i).db = s.db

section System

variable (deployment : Deployment) (s : System) (sound : Sound s)

include sound

theorem instrument_once (orderId : Uuid) : s.db.settlements.countP
    (fun x => x.orderId = orderId ∧ (x.disposition = .matched ∨ x.disposition = .internal)) ≤ 1 := by
  have backed := sound.whole.delivered.backed
  by_cases found : ∃ x ∈ s.db.settlements, x.orderId = orderId ∧ (x.disposition = .matched ∨ x.disposition = .internal)
  · obtain ⟨x, hx, order, selected⟩ := found
    obtain ⟨o, ho, named, settled⟩ := sound.whole.confirms x hx selected
    have once := unique_count_le_one (fun x => some x.id) s.db.settlements backed.keys.settlements.ids x.id
    refine le_trans (List.countP_mono_left ?_) once
    intro y hy other
    obtain ⟨order', selected'⟩ := of_decide_eq_true other
    obtain ⟨o', ho', named', settled'⟩ := sound.whole.confirms y hy selected'
    have same : o' = o := order_same s.db backed.keys o' o ho' ho (by rw [named', named, order', order])
    rw [same, settled] at settled'
    exact decide_eq_true settled'.symm
  · have none : s.db.settlements.countP
        (fun x => x.orderId = orderId ∧ (x.disposition = .matched ∨ x.disposition = .internal)) = 0 :=
      List.countP_eq_zero.mpr (fun x hx selected => found ⟨x, hx, of_decide_eq_true selected⟩)
    rw [none]
    exact Nat.zero_le 1

theorem confirmed_by_one (o : CommerceOrder) (ho : o ∈ s.db.orders) (confirmed : o.status = .confirmed) :
    ∃ x ∈ s.db.settlements, o.confirmedSettlementId = some x.id ∧ x.orderId = o.id ∧
      (x.disposition = .matched ∨ x.disposition = .internal) := by
  obtain ⟨x, hx, confirms⟩ := (sound.whole.delivered.backed.orders o ho).2.1 confirmed
  exact ⟨x, hx, confirms.settlement, confirms.order, confirms.disposition.symm⟩

theorem confirmed_final (o : CommerceOrder) (ho : o ∈ s.db.orders) (confirmed : o.status = .confirmed) (later : List Input) :
    ∃ o' ∈ (run (step deployment) s later).db.orders,
      o'.id = o.id ∧ o'.status = .confirmed ∧ o'.confirmedSettlementId = o.confirmedSettlementId := by
  obtain ⟨o', ho', same⟩ := (run_kept deployment s later sound).orders o ho
  obtain ⟨x, _, named, _⟩ := confirmed_by_one s sound o ho confirmed
  exact ⟨o', ho', same.id, same.confirmed confirmed, by rw [same.settlement _ named, named]⟩

variable (wallets : WalletWhole s.db)

include wallets

theorem wallet_posted (o : CommerceOrder) (ho : o ∈ s.db.orders) (x : CommerceSettlement) (hx : x ∈ s.db.settlements)
    (named : o.confirmedSettlementId = some x.id) (kind : x.kind = .walletCapture) : WalletPosted s.db o x := by
  have backed := sound.whole.delivered.backed
  obtain ⟨_, confirms⟩ := named_confirms s.db backed o ho x hx named
  obtain ⟨o', paid⟩ := wallets.paid x hx kind
  have same : o' = o := order_same s.db backed.keys o' o paid.order ho (paid.named.trans confirms.order)
  subst same
  obtain ⟨h, w, j, captured⟩ := paid.captured
  have posted := wallets.posted
  have only : ∀ y ∈ s.db.gds.holds, y.orderRef = o'.id → y = h := fun y hy ref =>
    unique_eq _ s.db.gds.holds posted.refs y h o'.id hy captured.hold (by rw [ref]) (by rw [captured.orderRef])
  have one : s.db.gds.holds.countP (fun y => y.orderRef = o'.id) = 1 := by
    refine le_antisymm ?_ (List.countP_pos_iff.mpr ⟨h, captured.hold, decide_eq_true captured.orderRef⟩)
    refine le_trans (List.countP_mono_left ?_) (unique_count_le_one _ _ posted.refs o'.id)
    intro y _ selected
    exact decide_eq_true (congrArg some (of_decide_eq_true selected))
  have ended : s.db.gds.holds.countP (fun y => y.orderRef = o'.id ∧ y.status = .captured) = 1 := by
    refine le_antisymm (le_trans (List.countP_mono_left ?_) one.le)
      (List.countP_pos_iff.mpr ⟨h, captured.hold, decide_eq_true ⟨captured.orderRef, captured.captured⟩⟩)
    intro y _ selected
    exact decide_eq_true (of_decide_eq_true selected).1
  refine ⟨confirms.order, confirms.amount, ⟨h, captured.hold, captured.orderRef, captured.amount, captured.captured,
    ⟨w, captured.wallet, captured.owner⟩, ?_⟩, (posted.reserves o'.id).trans one, (posted.captures o'.id).trans ended⟩
  intro j' hj' ref payment
  obtain ⟨y, hy, named', wallet, amount⟩ := posted.posted j' hj' payment
  rw [ref] at named'
  have this : y = h := only y hy (Option.some.inj named').symm
  rw [this] at wallet amount
  exact ⟨wallet, amount.trans captured.amount⟩

theorem payment_confirms (draw : CheckoutDraw) (buyerId orderId : Uuid) (r : CheckoutReceipt) (t : CommerceDb)
    (paid : transaction (payOrder deployment s.now draw buyerId orderId) s.db = .ok (r, t)) : PaidByWallet t buyerId orderId r := by
  have ran : transaction (body deployment s (.payWallet draw buyerId orderId)) s.db = .ok ((), t) := transaction_discard _ _ _ _ paid
  have reached : (step deployment s (.payWallet draw buyerId orderId)).db = t := commit_ok _ s.db t () ran
  have sound' := step_sound deployment s (.payWallet draw buyerId orderId) sound
  have wallets' := step_walletWhole deployment s (.payWallet draw buyerId orderId) sound.whole wallets
  have kept := step_kept deployment s (.payWallet draw buyerId orderId) sound.whole
  have captured := payOrder_captured deployment s.now draw buyerId orderId s.db sound.whole r t (transaction_ok _ _ _ _ paid).1
  obtain ⟨o, ho, named, buyer, answer⟩ := captured.order
  obtain ⟨x, hx, order, kind⟩ := captured.settlement
  obtain ⟨o', ho', same⟩ := kept.orders o ho
  have id : o'.id = orderId := same.id.trans named
  rw [← reached] at hx ⊢
  obtain ⟨confirmed, _⟩ := capture_replays _ sound'.whole wallets' o' x hx kind ho' (id.trans order.symm)
  obtain ⟨_, paidRow⟩ := wallets'.paid x hx kind
  obtain ⟨y, hy, orderId', confirms⟩ := sound'.whole.confirms x hx (.inr paidRow.internal)
  have one : y = o' := order_same _ sound'.whole.delivered.backed.keys y o' hy ho' (orderId'.trans (order.trans id.symm))
  subst one
  refine ⟨y, ho', x, hx, id, same.buyer.trans buyer, confirmed, confirms, kind, ?_, ?_⟩
  · rw [answer, same.payable, named]
  · exact wallet_posted _ sound' wallets' y ho' x hx confirms kind

theorem payment_replayed (draw : CheckoutDraw) (buyerId orderId : Uuid) (r : CheckoutReceipt) (t : CommerceDb)
    (paid : transaction (payOrder deployment s.now draw buyerId orderId) s.db = .ok (r, t)) (later : List Input)
    (again : CheckoutDraw) : (step deployment s (.payWallet draw buyerId orderId)).db = t ∧
      let u := run (step deployment) (step deployment s (.payWallet draw buyerId orderId)) later
      transaction (payOrder deployment u.now again buyerId orderId) u.db = .ok (r, u.db) := by
  have ran : transaction (body deployment s (.payWallet draw buyerId orderId)) s.db = .ok ((), t) := transaction_discard _ _ _ _ paid
  have reached : (step deployment s (.payWallet draw buyerId orderId)).db = t := commit_ok _ s.db t () ran
  refine ⟨reached, ?_⟩
  have captured := payOrder_captured deployment s.now draw buyerId orderId s.db sound.whole r t (transaction_ok _ _ _ _ paid).1
  have sound' := step_sound deployment s (.payWallet draw buyerId orderId) sound
  have kept := step_kept deployment s (.payWallet draw buyerId orderId) sound.whole
  have after := run_kept deployment _ later sound'
  have whole := run_walletWhole deployment _ later sound' (step_walletWhole deployment s _ sound.whole wallets)
  refine transaction_unchanged _ _ _ (payOrder_replays deployment _ again buyerId orderId s.db r t _ captured ?_ ?_ whole.1.whole whole.2)
  · exact kept_trans _ _ _ kept after
  · rw [← reached]
    exact after

end System

/-- In every state of a run the wallet has paid an order once or not at all, and a payment that succeeds has confirmed
it. -/
theorem wallet_pays_once (deployment : Deployment) (createdAt : Instant) (inputs : List Input) :
    WalletPayment deployment (run (step deployment) (System.start createdAt) inputs) := by
  obtain ⟨sound, wallets⟩ := run_walletWhole deployment (System.start createdAt) inputs (start_sound createdAt)
    (emptyCommerceDb_walletWhole createdAt)
  generalize run (step deployment) (System.start createdAt) inputs = s at sound wallets ⊢
  constructor
  · exact instrument_once s sound
  · exact confirmed_by_one s sound
  · exact confirmed_final deployment s sound
  · exact wallet_posted s sound wallets
  · exact payment_confirms deployment s sound wallets
  · intro draw buyerId orderId r t paid
    have answered := payment_replayed deployment s sound wallets draw buyerId orderId r t paid
    exact ⟨(answered [] draw).1, fun later again => (answered later again).2⟩
  · exact fun i fault threw => commit_error _ s.db fault threw

def sampleBuyer : Uuid :=
  "3f2504e0-4f89-41d3-9a0c-0305e82c3301"

def sampleOrderId : Uuid :=
  "3f2504e0-4f89-41d3-9a0c-0305e82c3302"

def sampleWalletId : Uuid :=
  "3f2504e0-4f89-41d3-9a0c-0305e82c3303"

def sampleTopup : TopupRequest where
  id := "topup"
  buyerId := sampleBuyer
  walletId := sampleWalletId
  requestKeyHash := "key"
  amountMinor := 100000
  payosOrderCode := 1
  transferMemo := "GDS1"
  receivingAccountHash := "account"
  expiresAt := 900000

def sampleLinked : Topup :=
  { sampleTopup.row 0 with status := .pendingPayos, paymentLinkId := some "link" }

def sampleVerified : Topup :=
  { sampleLinked with status := .payosVerified, collectionReference := some "collection", signatureVerifiedAt := some 0,
                      providerReconciledAt := some 0 }

def sampleCredit : JournalEntry where
  walletId := sampleWalletId
  eventKey := "gds:topup:topup"
  kind := .topupCredit
  amountMinor := 100000
  availableDeltaMinor := 100000
  heldDeltaMinor := 0
  clearingDeltaMinor := -100000
  topupId := some "topup"
  collectionReference := some "collection"

def sampleFunded : List Input :=
  [.environment { sampleShop with carts := [sampleCart "cart-1" sampleBuyer [⟨"item-1", "product-1"⟩]] },
    .walletStatement (.createWallet sampleWalletId sampleBuyer), .walletStatement (.createTopup sampleTopup),
    .walletStatement (.updateTopup sampleLinked), .walletStatement (.updateTopup sampleVerified),
    .walletStatement (.insertJournal sampleCredit),
    .createOrder { sampleOrderDraw "1" with orderId := sampleOrderId } { sampleCheckout "1" [] with learnerId := sampleBuyer }
      (fun _ => false)]

def samplePayment : CheckoutDraw :=
  ⟨"capture", sampleAccess⟩

theorem funded_order_paid : let s := run (step sampleDeployment) (System.start 0) sampleFunded
    ∃ r t, transaction (payOrder sampleDeployment s.now samplePayment sampleBuyer sampleOrderId) s.db = .ok (r, t) ∧
      r.amountMinor = 100000 ∧ PaidByWallet t sampleBuyer sampleOrderId r := by
  intro s
  obtain ⟨⟨r, t⟩, paid, amount⟩ := ok_of_answer (transaction (payOrder sampleDeployment s.now samplePayment sampleBuyer sampleOrderId) s.db)
    (fun outcome => outcome.1.amountMinor) 100000 (by decide +kernel)
  exact ⟨r, t, paid, amount, (wallet_pays_once sampleDeployment 0 sampleFunded).paid samplePayment sampleBuyer sampleOrderId r t paid⟩

end EduAi.Payments
