import EduAi.Gds.WithdrawalAgreement

set_option autoImplicit false

namespace EduAi.Gds.Withdrawals

open EduAi.Store EduAi.Gds

-- What the service's table and its checks of the actor allow: the owner cancels, anybody else acts as an administrator, and who pays or
-- fails a transfer has claimed it.
structure MayAct (r : Withdrawal) (actorId : Uuid) (action : WithdrawalAction) (to_ : WithdrawalStatus) : Prop where
  next : nextWithdrawalStatus r.status action = some to_
  actor : action = .cancel ↔ actorId = r.ownerId
  claimed : action = .pay ∨ action = .fail → r.processingAdminId = some actorId

-- What an event is asked for besides its move and its actor.
structure Proper (g : GdsDb) (now : Instant) (r : Withdrawal) (e : WithdrawalEvent) : Prop where
  reason : 1 ≤ (sqlTrim e.reason).length ∧ (sqlTrim e.reason).length ≤ 500
  fresh : free (fun e => some e.id) e g.withdrawalEvents = true
  enabled : e.toStatus ∈ [.processing, .paid, .failed] → g.settings.processingEnabled = true
  settled : e.toStatus = .processing → g.wallets.any (fun w => w.id = r.walletId ∧ w.status = .active ∧ w.debtMinor = 0) = true
  transferred : e.toStatus = .paid → transferProof now r e = true
  unproven : e.toStatus ≠ .paid → e.bankTransactionRef = none ∧ e.transferredAt = none
  unused : e.toStatus = .paid → ∀ other ∈ g.withdrawals, other.bankTransactionRef ≠ e.bankTransactionRef
  fits : (terminalKind e.toStatus).isSome = true → Fits g

def isTerminal (j : JournalEntry) : Bool :=
  j.kind = .withdrawalPaid || j.kind = .withdrawalRelease

def Acts (r : Withdrawal) (e : WithdrawalEvent) : Prop :=
  e.fromStatus = some r.status ∧ ∃ action, MayAct r e.actorId action e.toStatus

structure Lifecycle (db : WithdrawalDb) (r : Withdrawal) : Prop where
  reserved : (postingsOf db.gds r.id).countP (fun j => j.kind = .withdrawalReserve) = 1
  closed : (postingsOf db.gds r.id).countP isTerminal = if r.status.isOpen then 0 else 1
  paid : (postingsOf db.gds r.id).countP (fun j => j.kind = .withdrawalPaid) = if r.status = .paid then 1 else 0
  held : total JournalEntry.heldDeltaMinor (postingsOf db.gds r.id) = if r.status.isOpen then r.amountMinor else 0
  available : total JournalEntry.availableDeltaMinor (postingsOf db.gds r.id) =
    -(if r.status.isOpen ∨ r.status = .paid then r.amountMinor else 0)
  log : ∃ opening moves, eventsOf db.gds r.id = opening ++ moves ∧ opening.length ≤ 1 ∧ (∀ e ∈ opening, OpensLog r e) ∧
    History Acts Withdrawal.after r.opened moves r
  owner : r.processingAdminId ≠ some r.ownerId
  accepted : ∀ now e t, e.withdrawalId = r.id → e.fromStatus.isSome → insertWithdrawalEvent now e db.gds = .ok ((), t) → Acts r e
  allowed : ∀ now e, e.withdrawalId = r.id → Acts r e → Proper db.gds now r e →
    ∃ t, insertWithdrawalEvent now e db.gds = .ok ((), t)

section Tables

variable (r : Withdrawal) (e : WithdrawalEvent)

theorem target_cancelled (action : WithdrawalAction) : action.target = .cancelled ↔ action = .cancel := by
  cases action <;> decide

theorem target_closes (action : WithdrawalAction) :
    (action.target = .paid ∨ action.target = .failed) ↔ (action = .pay ∨ action = .fail) := by
  cases action <;> decide

theorem move_action (from_ to_ : WithdrawalStatus) (moves : withdrawalMayMove from_ to_ = true) :
    ∃ action, nextWithdrawalStatus from_ action = some to_ := by
  cases from_ <;> cases to_ <;> first
    | exact ⟨.approve, rfl⟩
    | exact ⟨.reject, rfl⟩
    | exact ⟨.cancel, rfl⟩
    | exact ⟨.process, rfl⟩
    | exact ⟨.pay, rfl⟩
    | exact ⟨.fail, rfl⟩
    | cases moves

theorem moves_acts (moves : Moves r e) : Acts r e := by
  obtain ⟨action, next⟩ := move_action _ _ moves.moves
  obtain ⟨target, _⟩ := next_status _ _ _ next
  refine ⟨moves.starts, action, next, ?_, fun closes => ?_⟩
  · rw [← target_cancelled, ← target]
    exact moves.actor
  · refine moves.claimed ?_
    rw [target]
    exact (target_closes action).mpr closes

theorem acts_permitted (g : GdsDb) (now : Instant) (named : e.withdrawalId = r.id) (acts : Acts r e) (proper : Proper g now r e) :
    Permitted g now r e := by
  obtain ⟨source, action, may⟩ := acts
  obtain ⟨target, moves⟩ := next_status _ _ _ may.next
  refine ⟨proper.reason, proper.fresh, named, source, moves, ⟨fun cancels => ?_, fun stays own => ?_⟩, proper.enabled, proper.settled,
    fun closes => ?_, proper.transferred, proper.unproven⟩
  · rw [target] at cancels
    exact may.actor.mp ((target_cancelled action).mp cancels)
  · rw [target] at stays
    exact stays ((target_cancelled action).mpr (may.actor.mpr own))
  · rw [target] at closes
    exact may.claimed ((target_closes action).mp (by simpa using closes))

end Tables

section Lifecycle

variable {svc : Service} {db : WithdrawalDb} {r : Withdrawal}

theorem posting_counts (db : WithdrawalDb) (r : Withdrawal)
    (postings : postingsOf db.gds r.id = reservePosting r :: (terminalKind r.status).toList.map (terminalPosting r)) :
    (postingsOf db.gds r.id).countP (fun j => j.kind = .withdrawalReserve) = 1 ∧
      (postingsOf db.gds r.id).countP isTerminal = (if r.status.isOpen then 0 else 1) ∧
      (postingsOf db.gds r.id).countP (fun j => j.kind = .withdrawalPaid) = if r.status = .paid then 1 else 0 := by
  rw [postings]
  cases r.status <;> refine ⟨?_, ?_, ?_⟩ <;> rfl

theorem event_accepted (served : Served svc db) (member : r ∈ db.gds.withdrawals) (now : Instant) (e : WithdrawalEvent) (t : GdsDb)
    (named : e.withdrawalId = r.id) (source : e.fromStatus.isSome) (ran : insertWithdrawalEvent now e db.gds = .ok ((), t)) : Acts r e := by
  obtain ⟨r', found, recorded | moved⟩ := insertWithdrawalEvent_moves now db.gds e _ t ran
  · rw [recorded.opens.source] at source
    cases source
  · rw [named, withdrawalById_member served member] at found
    cases found
    exact moves_acts r e moved.moves

theorem event_allowed (served : Served svc db) (member : r ∈ db.gds.withdrawals) (now : Instant) (e : WithdrawalEvent)
    (named : e.withdrawalId = r.id) (acts : Acts r e) (proper : Proper db.gds now r e) :
    ∃ t, insertWithdrawalEvent now e db.gds = .ok ((), t) := by
  have concluded := insertWithdrawalEvent_concludes served proper.fits now member (acts_permitted r e db.gds now named acts proper)
  cases outcome : insertWithdrawalEvent now e db.gds with
  | ok result => exact ⟨result.2, rfl⟩
  | error f =>
      obtain ⟨_, paid, other, inTable, _, same, _⟩ := concluded.2 f outcome
      exact absurd same (proper.unused paid other inTable)

theorem request_lifecycle (served : Served svc db) (member : r ∈ db.gds.withdrawals) : Lifecycle db r := by
  have booked := served.book.booked r member
  obtain ⟨_, _, _, other, _⟩ := booked.checked
  obtain ⟨reserved, closed, paid⟩ := posting_counts db r booked.postings
  obtain ⟨held, available, _⟩ := closed_balance r
  obtain ⟨opening, moves, split, single, opens, history⟩ := booked.log
  refine ⟨reserved, closed, paid, ?_, ?_, ⟨opening, moves, split, single, opens, history_mono Acts moves_acts history⟩, ?_, ?_, ?_⟩
  · rw [booked.postings]
    exact held
  · rw [booked.postings]
    exact available
  · exact other
  · exact fun now e t named source ran => event_accepted served member now e t named source ran
  · exact fun now e named acts proper => event_allowed served member now e named acts proper

/-- Every withdrawal of every run keeps its life cycle: one reserve and at most one closing posting, a log of moves that the service's table
allows, and a trigger that takes exactly these. -/
theorem withdrawal_lifecycle (svc : Service) (createdAt : Instant) (requests : List Request) :
    ∀ r ∈ (run (step svc) (emptyWithdrawals createdAt) requests).gds.withdrawals,
      Lifecycle (run (step svc) (emptyWithdrawals createdAt) requests) r :=
  fun _ member => request_lifecycle (run_served svc createdAt requests) member

theorem paid_request_lifecycle : ∃ r ∈ (run (step sampleService) (emptyWithdrawals 0) samplePaidRequests).gds.withdrawals,
    r.status = .paid ∧ Lifecycle (run (step sampleService) (emptyWithdrawals 0) samplePaidRequests) r := by
  have paid : (run (step sampleService) (emptyWithdrawals 0) samplePaidRequests).gds.withdrawals.any
      (fun r => r.status = .paid) = true := by
    decide +kernel
  obtain ⟨r, member, status⟩ := List.any_eq_true.mp paid
  have status := of_decide_eq_true status
  exact ⟨r, member, status, withdrawal_lifecycle sampleService 0 samplePaidRequests r member⟩

def sampleSecondRequests : List Request :=
  samplePaidRequests ++ [
    .create 4 4 sampleSync { withdrawalId := "second", eventId := "second" } "owner"
      { sampleInput with amountMinor := [0x32, 0x30, 0x30, 0x30, 0x30] } (some "fedcba9876543210"),
    .confirmRecipient 4 4 sampleSync { proofId := "proof-2", approvalId := "approval-2", claimId := "claim-2" } "admin" "second" sampleBank
      { confirmed := true, accountHolder := none, reason := none }]

-- The table allows the payment of the second transfer. The reference is that of the first, and the database refuses it.
theorem reused_reference_refused :
    let db := run (step sampleService) (emptyWithdrawals 0) sampleSecondRequests
    (∃ r ∈ db.gds.withdrawals, r.id = "second" ∧ MayAct r "admin" .pay .paid) ∧
      actTransaction sampleService 6 7 sampleSync "payment-2" "admin" "second" .pay samplePayment false db =
        .error (.unique "gds_withdrawals_bank_transaction_ref_key") := by
  have traced : (run (step sampleService) (emptyWithdrawals 0) sampleSecondRequests).gds.withdrawals.any (fun r => r.id = "second" ∧
      r.status = .processing ∧ r.ownerId = "owner" ∧ r.processingAdminId = some "admin") = true ∧
      actTransaction sampleService 6 7 sampleSync "payment-2" "admin" "second" .pay samplePayment false
        (run (step sampleService) (emptyWithdrawals 0) sampleSecondRequests) = .error (.unique "gds_withdrawals_bank_transaction_ref_key") := by
    decide +kernel
  obtain ⟨claimed, refused⟩ := traced
  obtain ⟨r, member, facts⟩ := List.any_eq_true.mp claimed
  obtain ⟨named, status, owner, admin⟩ := of_decide_eq_true facts
  refine ⟨⟨r, member, named, ?_, ?_, fun _ => admin⟩, refused⟩
  · rw [status]
    rfl
  · rw [owner]
    decide

end Lifecycle

end EduAi.Gds.Withdrawals
