import EduAi.Payments.Refunds
import EduAi.Payments.RequestWrites

set_option autoImplicit false

namespace EduAi.Payments

open EduAi.Store EduAi.Gds EduAi.Commerce

variable {scope : Scope}

section Withdrawals

theorem withdrawLine_withdrawal (o : CommerceOrder) (l : CommerceOrderLine) : Program Withdrawal (withdrawLine o l) := by
  unfold withdrawLine
  split
  · exact revokeGrant_withdrawal _ _ _ _ _
  · exact (cancelSubscriptions_withdrawal _).bind (fun _ => program_get.bind (fun _ =>
      (program_forM _ _ (fun _ => revokeGrantRow_withdrawal _ _)).bind (fun _ => revokeEntitlements_withdrawal _)))

theorem refundLine_withdrawal (o : CommerceOrder) (r : CommerceRefund) (a : CommerceRefundAllocation) :
    Program Withdrawal (refundLine o r a) :=
  program_get.bind (fun _ => (program_orThrow _ _).bind (fun _ => program_ite _ _ _ (program_pure _) (withdrawLine_withdrawal _ _)))

theorem updateRefund_program (id : Uuid) (patch : RefundPatch) : Program (RoutineWrite scope) (updateRefund id patch) := by
  constructor
  intro s
  rw [wlp_updateRefund]
  intro old moves
  exact writes_one _ _ (.moveRefund s id patch old moves)

theorem closeLateOrder_program (o : CommerceOrder) : Program (RoutineWrite scope) (closeLateOrder o) := by
  refine program_ite _ _ _ ?_ (program_pure _)
  constructor
  intro s
  rw [wlp_updateOrder]
  intro old moves
  exact writes_one _ _ (.moveOrder s o.id _ old moves rfl)

end Withdrawals

section Refunds

variable (now : Instant)

theorem caseBySettlement_some (db : CommerceDb) (settlementId : Uuid) (c : CommerceReconciliationCase)
    (found : caseBySettlement db settlementId = some c) : c ∈ db.cases ∧ c.settlementId = some settlementId := by
  obtain ⟨member, same⟩ := find_some _ db.cases c found
  exact ⟨member, of_decide_eq_true same⟩

theorem createRefund_program (refundId : Uuid) (input : RefundInput) :
    Program (RoutineWrite scope) (createRefund now refundId input) := by
  constructor
  intro db
  simp only [createRefund, wlp_bind, wlp_get]
  split
  · simp only [replayRefund, wlp_bind, wlp_require, wlp_get, wlp_orThrow]
    exact fun _ _ _ => writes_refl db
  · simp only [openRefund, wlp_bind, wlp_get, wlp_orThrow, wlp_require, wlp_insertRefund, wlp_pure]
    intro s found provider _ _ linked _ _ sums target fits
    refine wlp_mono _ _ ((@recordIdempotency_program scope _).within _) ?_
    intro _ t recorded
    refine writes_trans _ _ _ (writes_one _ _ (.refund db (requestedRefund now refundId s provider input) target fits sums.1 ?_))
      recorded
    intro id named
    have case : input.reconciliationCaseId = some id := named
    rw [case, Option.all_some] at linked
    obtain ⟨c, byKey, matches'⟩ := (Option.any_eq_true _ _).mp linked
    obtain ⟨member, settled⟩ := caseBySettlement_some db s.id c byKey
    exact ⟨c, member, (of_decide_eq_true matches').1, by rw [settled]; simp⟩

theorem resolveRefundCase_writes (actorId : Uuid) (o : CommerceOrder) (r : CommerceRefund) (db s : CommerceDb)
    (backed : Backed db) (member : r ∈ db.refunds) (path : Writes (RoutineWrite scope) db s) :
    Wlp (resolveRefundCase now actorId o r) (fun _ t => Writes (RoutineWrite scope) s t) s := by
  unfold resolveRefundCase
  split
  case h_1 => exact (wlp_pure _ _ _).mpr (writes_refl s)
  case h_2 caseId named =>
    have writes := writes_mono (fun _ _ w => Write.routine _ _ w) _ _ path
    obtain ⟨c, hc, sameId, settled⟩ := backed.refunds r member caseId named
    obtain ⟨c', hc', carried⟩ := (writes_kept db s backed.keys writes).cases c hc
    simp only [wlp_bind, wlp_updateCase]
    intro old moves
    have isCase : old = c' := by
      obtain ⟨found, oldNamed⟩ := caseById_some s caseId old moves.found
      exact case_same s (writes_keys db s backed.keys writes) old c' found hc' (oldNamed.trans (sameId.symm.trans carried.id.symm))
    refine wlp_mono _ _ ((@closeLateOrder_program scope o).within _) ?_
    intro _ t closed
    refine writes_trans _ _ _ (writes_one _ _ (.resolveCase s caseId .refund actorId now old moves ?_)) closed
    rw [isCase, carried.settlementId]
    exact settled

theorem record_writes (decision : RefundDecision) (db : CommerceDb) (backed : Backed db) :
    Wlp (record now decision) (fun _ t => Writes (RoutineWrite scope) db t) db := by
  simp only [record, wlp_bind, wlp_get, wlp_orThrow, wlp_require, wlp_ite]
  intro r found _ _ o _ _
  refine ⟨fun _ _ => writes_refl db, fun _ _ _ => ?_⟩
  simp only [recordRefund, wlp_bind]
  refine wlp_mono _ db ((@updateRefund_program scope r.id _).within db) ?_
  intro _ s recorded
  refine wlp_mono _ s ((program_forM _ r.allocations (refundLine_withdrawal o r)).within s) ?_
  intro _ t taken
  have withdrawn := writes_mono (withdrawal_routine scope) s t taken
  have path := writes_trans _ _ _ recorded withdrawn
  refine wlp_mono _ t (resolveRefundCase_writes now decision.actorId o r db t backed (find_some _ db.refunds r found).1 path) ?_
  intro _ u resolved
  exact writes_trans _ _ _ path resolved

theorem reject_program (decision : RefundDecision) : Program (RoutineWrite scope) (reject now decision) :=
  program_get.bind (fun _ => (program_orThrow _ _).bind (fun _ => program_ite _ _ _ (program_require _ _)
    ((program_require _ _).bind (fun _ => (program_require _ _).bind (fun _ => updateRefund_program _ _)))))

end Refunds

end EduAi.Payments
