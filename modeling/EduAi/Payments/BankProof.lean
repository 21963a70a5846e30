import EduAi.Payments.CommerceSystem
import Mathlib.Data.List.Dedup

set_option autoImplicit false

namespace EduAi.Payments

open EduAi.Store EduAi.Gds EduAi.Commerce

variable {scope : Scope}

structure BankPaid (db : CommerceDb) (x : CommerceSettlement) (r : CommerceBankTransferRequest)
    (e : CommerceBankStatementEvidence) : Prop where
  request : r ∈ db.bankRequests
  order : r.orderId = x.orderId
  attempt : x.paymentAttemptId = some r.paymentAttemptId
  paid : r.status = .paid
  amount : x.amountMinor = r.amountMinor
  settled : x.kind = .providerCollection ∧ x.disposition = .matched ∧ x.currency = "VND"
  evidence : e ∈ db.bankEvidence
  quoted : x.providerSettlementReference = some e.id ∧ e.requestId = r.id ∧ e.exceptionReason = none
  account : e.bankBin = r.bankBin ∧ e.accountNumber = r.accountNumber
  agrees : e.amountMinor = r.amountMinor ∧ e.transferContent = r.transferContent
  window : r.createdAt ≤ e.occurredAt ∧ e.occurredAt < r.expiresAt
  settledAt : x.settledAt = e.occurredAt
  approvers : 2 ≤ (approversOf db e.id).dedup.length

structure RequestsPaid (db : CommerceDb) : Prop where
  paid : ∀ r ∈ db.bankRequests, r.status = .paid → ∃ x ∈ db.settlements, x.paymentAttemptId = some r.paymentAttemptId ∧
    x.provider = some .bankTransfer ∧ x.disposition = .matched
  accounts : ∀ r ∈ db.bankRequests, r.accountNumber = "0000000000" ∧ r.bankBin = "970422"

structure BankSettled (db : CommerceDb) : Prop where
  requests : RequestsPaid db
  proven : ∀ x ∈ db.settlements, x.provider = some .bankTransfer → ∃ r e, BankPaid db x r e

theorem emptyCommerceDb_bankSettled (createdAt : Instant) : BankSettled (emptyCommerceDb createdAt) := by
  refine ⟨⟨?_, ?_⟩, ?_⟩ <;>
    · intro _ member
      cases member

theorem internal_unbanked (s : CommerceSettlement) (shape : settlementShape s = true) (internal : s.disposition = .internal) :
    s.provider ≠ some .bankTransfer := by
  intro bank
  simp [settlementShape, internal, bank] at shape

section Preserved

variable (db t : CommerceDb)

theorem approvers_grow (kept : Kept db t) (evidenceId : Uuid) : approversOf db evidenceId <+: approversOf t evidenceId := by
  obtain ⟨rest, more⟩ := kept.appends.bankApprovals
  unfold approversOf
  rw [← more, List.filter_append, List.map_append]
  exact List.prefix_append _ _

theorem dedup_grows (a b : List Uuid) (sub : a ⊆ b) : a.dedup.length ≤ b.dedup.length := by
  refine (List.subperm_of_subset (List.nodup_dedup a) ?_).length_le
  intro x member
  exact List.mem_dedup.mpr (sub (List.mem_dedup.mp member))

theorem bankPaid_kept (kept : Kept db t) (x : CommerceSettlement) (r : CommerceBankTransferRequest)
    (e : CommerceBankStatementEvidence) (paid : BankPaid db x r e) : ∃ r', BankPaid t x r' e := by
  obtain ⟨r', hr', same⟩ := kept.bankRequests r paid.request
  have status := same.paid paid.paid
  have rows : r' = r := by
    have shape := same.same
    rw [paid.paid, ← status] at shape
    exact shape
  rw [rows] at hr'
  exact ⟨r, { paid with
    request := hr'
    evidence := kept.appends.bankEvidence.subset paid.evidence
    approvers := le_trans paid.approvers (dedup_grows _ _ (approvers_grow db t kept e.id).subset) }⟩

theorem write_requestsPaid (keys : Keys db) (requests : RequestsPaid db) (w : Write db t) : RequestsPaid t := by
  have grown := (write_kept db t keys w).appends.settlements
  have carried : ∀ r ∈ db.bankRequests, r.status = .paid → ∃ x ∈ t.settlements,
      x.paymentAttemptId = some r.paymentAttemptId ∧ x.provider = some .bankTransfer ∧ x.disposition = .matched := by
    intro r hr paid
    obtain ⟨x, hx, facts⟩ := requests.paid r hr paid
    exact ⟨x, grown.subset hx, facts⟩
  cases w with
  | routine _ w =>
    cases w with
    | bankRequest r fits allowed =>
      constructor
      · intro y hy paid
        rcases List.mem_append.mp hy with old | new
        · exact carried y old paid
        · rw [List.mem_singleton.mp new, fits.bound.1] at paid
          cases paid
      · intro y hy
        rcases List.mem_append.mp hy with old | new
        · exact requests.accounts y old
        · rw [List.mem_singleton.mp new]
          exact fits.account
    | moveBankRequest id status old moves allowed =>
      constructor
      · intro y hy paid
        obtain ⟨r, hr, rfl⟩ := (mem_updateWhere _ _ _ _).mp hy
        by_cases selected : r.id = id
        · obtain ⟨member, named⟩ := find_some _ db.bankRequests old moves.found
          have same : r = old := unique_eq _ db.bankRequests keys.bank.ids r old old.id hr member
            (by rw [selected, of_decide_eq_true named]) rfl
          rw [if_pos (by simp [selected])] at paid ⊢
          obtain ⟨x, hx, facts⟩ := moves.settled paid
          rw [same]
          exact ⟨x, hx, facts⟩
        · rw [if_neg (by simp [selected])] at paid ⊢
          exact carried r hr paid
      · intro y hy
        obtain ⟨r, hr, rfl⟩ := (mem_updateWhere _ _ _ _).mp hy
        have account := requests.accounts r hr
        split <;> exact account
    | _ => exact ⟨carried, requests.accounts⟩
  | _ => exact ⟨carried, requests.accounts⟩

theorem routine_banks_from (w : RoutineWrite scope db t) (x : CommerceSettlement) (hx : x ∈ t.settlements)
    (bank : x.provider = some .bankTransfer) : x ∈ db.settlements := by
  cases w with
  | surplus now s o fits disposition collected =>
    rcases List.mem_append.mp hx with old | new
    · exact old
    · rw [List.mem_singleton.mp new] at bank
      obtain ⟨r, _, proven⟩ := List.any_eq_true.mp (fits.bank bank)
      obtain ⟨_, _, _, _, _, _, _, _, _, matched, _⟩ := of_decide_eq_true proven
      rw [matched] at disposition
      rcases disposition with other | other <;> cases other
  | _ => exact hx

theorem routines_banks_from (writes : Writes (RoutineWrite scope) db t) (x : CommerceSettlement) (hx : x ∈ t.settlements)
    (bank : x.provider = some .bankTransfer) : x ∈ db.settlements := by
  induction writes with
  | refl => exact hx
  | tail path w ih => exact ih (routine_banks_from _ _ w x hx bank)

theorem confirmation_banks_from (now : Instant) (s : CommerceSettlement) (o : CommerceOrder) (u : CommerceDb)
    (confirms : Confirmation scope db now s o u) (x : CommerceSettlement) (hx : x ∈ (confirmedStore now s u).settlements)
    (bank : x.provider = some .bankTransfer) : x ∈ db.settlements ∨ x = s := by
  rcases List.mem_append.mp (routines_banks_from _ _ confirms.moved x hx bank) with old | new
  · exact .inl old
  · exact .inr (List.mem_singleton.mp new)

-- The row that the settlement's trigger found is the one behind the settlement, and the same transaction has marked its
-- request paid.
theorem confirmation_bankPaid (keys : Keys db) (now : Instant) (s : CommerceSettlement) (o : CommerceOrder) (u : CommerceDb)
    (confirms : Confirmation scope db now s o u) (bank : s.provider = some .bankTransfer) :
    ∃ r e, BankPaid (confirmedStore now s u) s r e := by
  obtain ⟨r, hr, proven⟩ := List.any_eq_true.mp (confirms.fits.bank bank)
  obtain ⟨order, attempt, _, _, _, _, _, amount, kind, matched, currency, quoted⟩ := of_decide_eq_true proven
  obtain ⟨e, he, facts⟩ := List.any_eq_true.mp quoted
  obtain ⟨request, reference, exception, bin, account, same, content, created, window, _, _, settledAt, _, _, approved⟩ :=
    of_decide_eq_true facts
  have writes := confirmation_writes db now s o u confirms
  have kept := writes_kept db _ keys writes
  obtain ⟨r', hr', paidOrder, paidAttempt, paid⟩ := confirms.banked bank
  obtain ⟨y, hy, carried⟩ := kept.bankRequests r hr
  have later := writes_keys db _ keys writes
  have shape := carried.same
  have orders : y.orderId = r.orderId := by rw [← shape]
  have one : r' = y := unique_eq _ _ later.bank.orders r' y s.orderId hr' hy (by rw [paidOrder]) (by rw [orders, order])
  rw [← one] at shape
  have active : 2 ≤ (approversOf db e.id).dedup.length :=
    le_trans approved (dedup_grows _ _ List.filter_sublist.subset)
  refine ⟨r', e, hr', paidOrder, paidAttempt, paid, ?_, ⟨kind, matched, currency⟩, kept.appends.bankEvidence.subset he,
    ⟨reference.symm, ?_, exception⟩, ?_, ?_, ?_, settledAt, ?_⟩
  · rw [amount, ← shape]
  · rw [request, ← shape]
  · rw [bin, account, ← shape]
    exact ⟨rfl, rfl⟩
  · rw [same, content, ← shape]
    exact ⟨rfl, rfl⟩
  · rw [← shape] at created window
    exact ⟨created, window⟩
  · exact le_trans active (dedup_grows _ _ (approvers_grow db _ kept e.id).subset)

variable (allow : Allowance) (whole : Whole db) (settled : BankSettled db)

include whole settled

theorem transition_bankSettled (step : Transition allow db t) : BankSettled t := by
  have keys := whole.delivered.backed.keys
  have writes := transition_writes allow db t step
  have kept := writes_kept db t keys writes
  have rows := writes_invariant (fun s => Keys s ∧ RequestsPaid s)
    (fun s u w held => ⟨write_keys s u w held.1, write_requestsPaid s u held.1 held.2 w⟩) db t writes ⟨keys, settled.requests⟩
  refine ⟨rows.2, ?_⟩
  intro x hx bank
  have carried : x ∈ db.settlements → ∃ r e, BankPaid t x r e := by
    intro old
    obtain ⟨r, e, paid⟩ := settled.proven x old bank
    obtain ⟨r', paid'⟩ := bankPaid_kept db t kept x r e paid
    exact ⟨r', e, paid'⟩
  cases step with
  | routine t w => exact carried (routine_banks_from db t w x hx bank)
  | collected now s o u confirms matched banked =>
    rcases confirmation_banks_from db now s o u confirms x hx bank with old | new
    · exact carried old
    · rw [new] at bank ⊢
      exact confirmation_bankPaid db keys now s o u confirms bank
  | gifted now s o u confirms internal free allowed =>
    rcases confirmation_banks_from db now s o u confirms x hx bank with old | new
    · exact carried old
    · rw [new] at bank
      exact absurd bank (internal_unbanked s confirms.fits.shape internal)
  | granted now s o u t confirms internal done =>
    have same : t.settlements = (confirmedStore now s u).settlements := by
      rw [← done.apart]
      rfl
    rw [same] at hx
    rcases confirmation_banks_from db now s o u confirms x hx bank with old | new
    · exact carried old
    · rw [new] at bank
      exact absurd bank (internal_unbanked s confirms.fits.shape internal)
  | completed orderId o t found confirmed unfulfilled done allowed =>
    have same : t.settlements = db.settlements := by
      rw [← done.apart]
      rfl
    rw [same] at hx
    exact carried hx
  | _ => exact carried hx

end Preserved

section Proofs

variable (db : CommerceDb) (whole : Whole db) (settled : BankSettled db) (x : CommerceSettlement) (hx : x ∈ db.settlements)
  (bank : x.provider = some .bankTransfer)

include whole settled hx bank

theorem bank_confirmed : ∃ o ∈ db.orders, o.id = x.orderId ∧ o.status = .confirmed ∧ o.confirmedSettlementId = some x.id := by
  obtain ⟨r, e, paid⟩ := settled.proven x hx bank
  obtain ⟨o, ho, named, confirms⟩ := whole.confirms x hx (.inl paid.settled.2.1)
  exact ⟨o, ho, named, ((whole.delivered.backed.orders o ho).1.mp (by rw [confirms]; rfl)), confirms⟩

theorem bank_proven (now : Instant) (observed : x.settledAt ≤ now) : bankTransferProven now db x.orderId x.id = true := by
  have backed := whole.delivered.backed
  have keys := backed.keys
  obtain ⟨r, e, paid⟩ := settled.proven x hx bank
  obtain ⟨o, ho, named, confirmed, confirmedBy⟩ := bank_confirmed db whole settled x hx bank
  obtain ⟨kind, matched, currency⟩ := paid.settled
  obtain ⟨_, confirms⟩ := named_confirms db backed o ho x hx confirmedBy
  obtain ⟨_, a, ha, v, hv, of, attemptPaid⟩ := collection_confirms db backed o ho x hx confirmedBy kind
  have attempt : a.id = r.paymentAttemptId := by
    have both := of.attempt
    rw [paid.attempt] at both
    exact (Option.some.inj both).symm
  have provider : v.provider = .bankTransfer := by
    have both := of.provider
    rw [bank] at both
    exact (Option.some.inj both).symm
  have reference : v.providerSettlementReference = e.id := by
    have both := of.reference
    rw [paid.quoted.1] at both
    exact (Option.some.inj both).symm
  have amounts : a.amountMinor = x.amountMinor ∧ a.currency = x.currency := by
    obtain ⟨_, _, o', ho', order, amount, money⟩ := backed.attempts a ha
    have same : o' = o := order_same db keys o' o ho' ho (order.trans (of.order.trans named.symm))
    rw [same] at amount money
    exact ⟨amount.trans confirms.amount.symm, money.trans confirms.currency.symm⟩
  have byOrder : orderById db x.orderId = some o := by
    rw [← named]
    exact orderById_of_mem db keys o ho
  have bySettlement : settlementById db x.id = some x := settlementById_of_mem db keys x hx
  have byRequest : bankRequestByOrder db x.orderId = some r :=
    find_unique (fun r => some r.orderId) _ db.bankRequests keys.bank.orders r x.orderId paid.request (by simp [paid.order])
      (by rw [paid.order]) (fun y _ hy => by simpa using hy)
  have byEvidence : evidenceById db e.id = some e :=
    find_unique (fun e => some e.id) _ db.bankEvidence keys.bank.evidenceIds e e.id paid.evidence (by simp) rfl
      (fun y _ hy => by simpa using hy)
  have byAttempt : attemptById db r.paymentAttemptId = some a := by
    rw [← attempt]
    exact attemptById_of_mem db keys a ha
  have byEvent : eventOfSettlement db x = some v := by
    unfold eventOfSettlement
    rw [of.event]
    exact eventById_of_mem db keys v hv
  have payment : bankPayment db x.orderId x.id = some ⟨o, x, r, e, a, v⟩ := by
    unfold bankPayment
    rw [byOrder, bySettlement, byRequest]
    show (x.providerSettlementReference.bind (evidenceById db)).bind (fun evidence => (attemptById db r.paymentAttemptId).bind
      (fun attempt => (eventOfSettlement db x).bind (fun event => some (BankPayment.mk o x r evidence attempt event)))) = _
    rw [paid.quoted.1, Option.bind_some, byEvidence, byAttempt, byEvent]
    rfl
  have agrees : BankEvidenceAgrees now r e := by
    refine ⟨paid.account.1, paid.account.2, paid.agrees.1, paid.agrees.2, paid.window.1, ?_, paid.window.2⟩
    rw [← paid.settledAt]
    exact observed
  have eventOf := of.eventOf
  unfold bankTransferProven
  rw [payment, Option.any_some]
  refine decide_eq_true ⟨confirmed, confirmedBy, paid.paid, ?_, ?_, paid.quoted.2.1, paid.quoted.2.2,
    (classifyBankEvidence_none now r e).mpr agrees, paid.approvers, named.symm, bank, kind, matched, of.attempt, ?_, attemptPaid,
    provider, eventOf.attempt.symm, of.nextStatus matched, reference, ?_, ?_, paid.settledAt, paid.amount, ?_, currency, ?_, ?_⟩
  · exact confirms.amount.symm.trans paid.amount
  · exact confirms.currency.symm.trans currency
  · exact eventOf.provider.symm.trans provider
  · exact eventOf.amount.trans (amounts.1.trans (paid.amount.trans paid.agrees.1.symm))
  · exact of.occurredAt.symm.trans paid.settledAt
  · exact amounts.1.trans paid.amount
  · exact amounts.2.trans currency
  · exact eventOf.currency.trans (amounts.2.trans currency)

end Proofs

structure BankApart (db t : CommerceDb) : Prop where
  requests : t.bankRequests = db.bankRequests
  evidence : t.bankEvidence = db.bankEvidence
  settlements : ∀ x ∈ t.settlements, x.provider = some .bankTransfer → x ∈ db.settlements
  attempts : ∀ a ∈ db.attempts, a.provider = .bankTransfer → a.status ≠ .created →
    ∃ a' ∈ t.attempts, a'.id = a.id ∧ a'.provider = a.provider ∧ a'.status = a.status

theorem bankApart_refl (db : CommerceDb) : BankApart db db :=
  ⟨rfl, rfl, fun _ hx _ => hx, fun a ha _ _ => ⟨a, ha, rfl, rfl, rfl⟩⟩

theorem bankApart_trans (a b c : CommerceDb) (first : BankApart a b) (second : BankApart b c) : BankApart a c := by
  refine ⟨second.requests.trans first.requests, second.evidence.trans first.evidence,
    fun x hx bank => first.settlements x (second.settlements x hx bank) bank, ?_⟩
  intro row hrow bank opened
  obtain ⟨row', hrow', id, provider, status⟩ := first.attempts row hrow bank opened
  obtain ⟨row'', hrow'', id', provider', status'⟩ := second.attempts row' hrow' (provider.trans bank) (by rw [status]; exact opened)
  exact ⟨row'', hrow'', id'.trans id, provider'.trans provider, status'.trans status⟩

section Apart

variable (db t : CommerceDb)

theorem bankApart_of (requests : t.bankRequests = db.bankRequests) (evidence : t.bankEvidence = db.bankEvidence)
    (settlements : ∀ x ∈ t.settlements, x.provider = some .bankTransfer → x ∈ db.settlements) (attempts : t.attempts = db.attempts) :
    BankApart db t :=
  ⟨requests, evidence, settlements, fun a ha _ _ => ⟨a, by rw [attempts]; exact ha, rfl, rfl, rfl⟩⟩

theorem routine_bankApart (keys : Keys db) (outside : ¬ scope.banks) (w : RoutineWrite scope db t) : BankApart db t := by
  have settlements := routine_banks_from db t w
  cases w with
  | bankRequest r fits allowed => exact absurd allowed outside
  | moveBankRequest id status old moves allowed => exact absurd allowed outside
  | evidence e r fits allowed => exact absurd allowed outside
  | attempt a o fits awaiting =>
    exact ⟨rfl, rfl, fun _ hx _ => hx, fun x hx _ _ => ⟨x, List.mem_append_left _ hx, rfl, rfl, rfl⟩⟩
  | moveAttempt id patch old moves own =>
    refine ⟨rfl, rfl, fun _ hx _ => hx, ?_⟩
    intro a ha bank opened
    refine ⟨_, (mem_updateWhere _ _ _ _).mpr ⟨a, ha, rfl⟩, ?_⟩
    by_cases selected : a.id = id
    · obtain ⟨member, named⟩ := attemptById_some db id old moves.found
      have same : a = old := attempt_same db keys a old ha member (selected.trans named.symm)
      rw [if_pos (by simp [selected])]
      refine ⟨attemptPatch_id patch a, (attemptPatch_same patch a).2.1, ?_⟩
      rw [same] at bank opened ⊢
      rcases own bank with created | kept | allowed
      · exact absurd created opened
      · exact kept
      · exact absurd allowed outside
    · rw [if_neg (by simp [selected])]
      exact ⟨rfl, rfl, rfl⟩
  | _ => exact bankApart_of _ _ rfl rfl settlements rfl

theorem routines_bankApart (keys : Keys db) (outside : ¬ scope.banks) (writes : Writes (RoutineWrite scope) db t) :
    BankApart db t :=
  writes_relation BankApart bankApart_refl bankApart_trans Keys
    (fun s u w keys => write_keys s u (.routine s u w) keys) (fun s u w keys => routine_bankApart s u keys outside w) db t writes keys

variable (allow : Allowance) (outside : ¬ allow.scope.banks) (keys : Keys db)

include outside keys

theorem confirmation_bankApart (now : Instant) (s : CommerceSettlement) (o : CommerceOrder) (u : CommerceDb)
    (confirms : Confirmation allow.scope db now s o u) (unbanked : s.provider ≠ some .bankTransfer) :
    BankApart db (confirmedStore now s u) := by
  have settle := Write.settle db now s o confirms.fits confirms.collected
  have first : BankApart db { db with settlements := db.settlements ++ [s] } := by
    refine bankApart_of _ _ rfl rfl ?_ rfl
    intro x hx bank
    rcases List.mem_append.mp hx with old | new
    · exact old
    · rw [List.mem_singleton.mp new] at bank
      exact absurd bank unbanked
  have second := routines_bankApart _ u (write_keys db _ settle keys) outside confirms.moved
  exact bankApart_trans _ _ _ (bankApart_trans _ _ _ first second) (bankApart_of _ _ rfl rfl (fun _ hx _ => hx) rfl)

theorem transition_bankApart (step : Transition allow db t) : BankApart db t := by
  cases step with
  | routine t w => exact routine_bankApart db t keys outside w
  | collected now s o u confirms matched banked =>
    exact confirmation_bankApart db allow outside keys now s o u confirms (fun bank => outside (banked bank))
  | gifted now s o u confirms internal free allowed =>
    exact confirmation_bankApart db allow outside keys now s o u confirms (internal_unbanked s confirms.fits.shape internal)
  | granted now s o u t confirms internal done =>
    have first := confirmation_bankApart db allow outside keys now s o u confirms (internal_unbanked s confirms.fits.shape internal)
    refine bankApart_trans _ _ _ first ?_
    rw [← done.apart]
    exact bankApart_of _ _ rfl rfl (fun _ hx _ => hx) rfl
  | completed orderId o t found confirmed unfulfilled done allowed =>
    rw [← done.apart]
    exact bankApart_of _ _ rfl rfl (fun _ hx _ => hx) rfl
  | _ => exact bankApart_of _ _ rfl rfl (fun _ hx _ => hx) rfl

theorem transitions_bankApart (writes : Writes (Transition allow) db t) : BankApart db t :=
  writes_relation BankApart bankApart_refl bankApart_trans Keys
    (fun s u step keys => writes_keys s u keys (transition_writes allow s u step))
    (fun s u step keys => transition_bankApart s u allow outside keys step) db t writes keys

end Apart

end EduAi.Payments
