import EduAi.Gds.TopupServices

set_option autoImplicit false

namespace EduAi.Gds

open EduAi.Store EduAi.Payments

inductive WorkPhase where
  | read
  | settled (settlement : GdsInternalPayosSettlement)
  | failed (fault : Fault)
  | deferring (attemptCount : Nat)
  | done
deriving DecidableEq, Repr

-- A worker between two statements of processRecord, with the rows its first statement read.
structure WorkTask where
  recovery : Bool
  inbox : PayosInbox
  topup : Topup
  phase : WorkPhase
deriving DecidableEq, Repr

structure TopupSystem where
  db : GdsDb
  ingests : List IngestTask
  works : List WorkTask
  cancels : List Topup
deriving DecidableEq, Repr

def emptySystem (createdAt : Instant) : TopupSystem where
  db := emptyDb createdAt
  ingests := []
  works := []
  cancels := []

inductive TopupStep where
  | statement (s : Statement)
  | prepare (claims : CrossLedger) (topupId walletId : Uuid) (codes : List Int) (input : PrepareGdsTopup)
  | attachLink (claims : CrossLedger) (topupId : Uuid) (created : CreatedPaymentRequest)
  | ingestRead (fact : VerifiedPaymentWebhook) (topupId : Uuid)
  | ingestCommit (task : Nat) (id : Uuid) (claims : CrossLedger)
  | workRead (id : Uuid) (recovery : Bool)
  | workReconcile (task : Nat) (port : ReconciliationPort) (queried : Except Fault PaymentRequestStatus) (reconciledAt : Instant)
  | workApply (task : Nat) (claims : CrossLedger)
  | workAbort (task : Nat)
  | workFail (task : Nat)
  | workDefer (task : Nat)
  | creditVerified (claims : CrossLedger) (intent : GdsPayosTopupIntent) (settlement : GdsInternalPayosSettlement)
  | cancelRead (buyerId topupId : Uuid)
  | cancelWrite (task : Nat) (before after : PaymentRequestStatus)

def snapshotRecord (db : GdsDb) (id : Uuid) (recovery : Bool) : Option WorkTask :=
  match inboxById db id with
  | none => none
  | some inbox =>
      match topupById db inbox.topupId with
      | none => none
      | some t =>
          if eligibleInbox inbox recovery ∧ ¬ (inbox.status = .review ∧ t.status = .credited) then
            some { recovery, inbox, topup := t, phase := .read }
          else none

def WorkTask.reconciled (hashAccount : String → String) (port : ReconciliationPort) (now : Instant)
    (queried : Except Fault PaymentRequestStatus) (reconciledAt : Instant) (w : WorkTask) : WorkTask :=
  match w.phase with
  | .read =>
      match reconcileSignedGdsPayosTopup hashAccount port (topupIntent w.topup) (signedFact w.inbox)
          w.inbox.signatureVerifiedAt now queried reconciledAt with
      | .ok settlement => { w with phase := .settled settlement }
      | .error fault => { w with phase := .failed fault }
  | _ => w

-- A unique violation is retried with the same settlement; any other fault reaches the catch block.
def WorkTask.answered (w : WorkTask) (answer : Except Fault ProcessOutcome) : WorkTask :=
  match answer with
  | .ok _ => { w with phase := .done }
  | .error fault => if retryable fault then w else { w with phase := .failed fault }

def topupStep (parseUrl : String → Option Url) (hashAccount : String → String) (sys : TopupSystem)
    (input : Instant × TopupStep) : TopupSystem :=
  let now := input.1
  match input.2 with
  | .statement s => { sys with db := commit (execute now s) sys.db }
  | .prepare claims topupId walletId codes request =>
      { sys with db := commit (prepareTopup parseUrl now claims topupId walletId codes request) sys.db }
  | .attachLink claims topupId created =>
      { sys with db := commit (attachCreatedLink parseUrl hashAccount claims topupId created) sys.db }
  | .ingestRead fact topupId => { sys with ingests := sys.ingests ++ (ingestRead hashAccount now sys.db fact topupId).toList }
  | .ingestCommit task id claims =>
      match sys.ingests[task]? with
      | some t => { sys with db := commit (ingestCommit now id claims t) sys.db }
      | none => sys
  | .workRead id recovery => { sys with works := sys.works ++ (snapshotRecord sys.db id recovery).toList }
  | .workReconcile task port queried reconciledAt =>
      { sys with works := sys.works.modify task (fun w => w.reconciled hashAccount port now queried reconciledAt) }
  | .workApply task claims =>
      match sys.works[task]? with
      | some { recovery, inbox, topup, phase := .settled settlement } =>
          let answer := attempt (applyRecord now claims inbox.id recovery settlement) sys.db
          { sys with
            db := answer.2
            works := sys.works.set task
              (WorkTask.answered { recovery, inbox, topup, phase := .settled settlement } answer.1) }
      | _ => sys
  | .workAbort task =>
      match sys.works[task]? with
      | some { recovery, inbox, topup, phase := .settled _ } =>
          { sys with works := sys.works.set task { recovery, inbox, topup, phase := .failed .serialization } }
      | _ => sys
  | .workFail task =>
      match sys.works[task]? with
      | some { recovery, inbox, topup, phase := .failed fault } =>
          if inbox.status = .review then
            { sys with works := sys.works.set task { recovery, inbox, topup, phase := .done } }
          else if deferrable fault then
            match inboxById sys.db inbox.id with
            | some prior =>
                { sys with works := sys.works.set task { recovery, inbox, topup, phase := .deferring prior.attemptCount } }
            | none => sys
          else
            { sys with
              db := commit (moveToReview inbox.id (reviewReasonOf fault)) sys.db
              works := sys.works.set task { recovery, inbox, topup, phase := .done } }
      | _ => sys
  | .workDefer task =>
      match sys.works[task]? with
      | some { recovery, inbox, topup, phase := .deferring attemptCount } =>
          { sys with
            db := commit (deferWrite now inbox.id attemptCount) sys.db
            works := sys.works.set task { recovery, inbox, topup, phase := .done } }
      | _ => sys
  | .creditVerified claims intent settlement =>
      { sys with db := commit (creditVerifiedTopupInTransaction now claims intent settlement) sys.db }
  | .cancelRead buyerId topupId =>
      match attempt (cancelRead buyerId topupId) sys.db with
      | (.ok (.proceed t), _) => { sys with cancels := sys.cancels ++ [t] }
      | _ => sys
  | .cancelWrite task before after =>
      match sys.cancels[task]? with
      | some t => { sys with db := commit (cancelWrite t before after) sys.db }
      | none => sys

end EduAi.Gds
