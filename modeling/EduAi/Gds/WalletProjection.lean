import EduAi.Gds.Schema
import EduAi.Store.Checks
import EduAi.Store.FirstSeen

set_option autoImplicit false

namespace EduAi.Gds

open EduAi.Store

inductive GdsWalletEventKind where
  | fundsCredited | paymentCaptured | refundCredited | fundsReversed
deriving DecidableEq, Repr

def GdsWalletEventKind.text : GdsWalletEventKind → String
  | .fundsCredited => "FUNDS_CREDITED"
  | .paymentCaptured => "PAYMENT_CAPTURED"
  | .refundCredited => "REFUND_CREDITED"
  | .fundsReversed => "FUNDS_REVERSED"

def GdsWalletEventKind.credits : GdsWalletEventKind → Bool
  | .fundsCredited | .refundCredited => true
  | .paymentCaptured | .fundsReversed => false

structure GdsWalletVerifiedEvent where
  providerEventId : String
  kind : GdsWalletEventKind
  amountMinor : Int
  currency : String
  providerTransactionId : String
  orderId : Option String
deriving DecidableEq, Repr

inductive GdsReservationStatus where
  | reserved | unknown | captured | released
deriving DecidableEq, Repr

structure GdsWalletReservation where
  orderId : String
  amountMinor : Int
  providerReservationId : String
  status : GdsReservationStatus
deriving DecidableEq, Repr

structure GdsWalletBalance where
  settledMinor : Int
  reservedMinor : Int
  availableMinor : Int
  currency : String
deriving DecidableEq, Repr

def positiveVnd (amount : Int) : Except Fault Unit :=
  ensure (0 < amount) (.invariant "WALLET_INVALID_AMOUNT")

def fingerprint (event : GdsWalletVerifiedEvent) : String :=
  event.kind.text ++ ":" ++ toString event.amountMinor ++ ":" ++ event.currency ++ ":" ++ event.providerTransactionId ++ ":" ++
    event.orderId.getD ""

def signedAmount (event : GdsWalletVerifiedEvent) : Int :=
  if event.kind.credits then event.amountMinor else -event.amountMinor

structure Projection where
  settledMinor : Int
  seenEvents : List (String × String)
  seenTransactions : List (String × String)
  capturedByOrder : List (String × Int)
deriving DecidableEq, Repr

def emptyProjection : Projection where
  settledMinor := 0
  seenEvents := []
  seenTransactions := []
  capturedByOrder := []

def captureOf (event : GdsWalletVerifiedEvent) : Option (String × Int) :=
  if event.kind = .paymentCaptured then some (event.orderId.getD "", event.amountMinor) else none

def Projection.take (p : Projection) (event : GdsWalletVerifiedEvent) : Projection where
  settledMinor := p.settledMinor + signedAmount event
  seenEvents := (event.providerEventId, fingerprint event) :: p.seenEvents
  seenTransactions := (event.providerTransactionId, event.providerEventId) :: p.seenTransactions
  capturedByOrder := (captureOf event).toList ++ p.capturedByOrder

def transactionFree (p : Projection) (event : GdsWalletVerifiedEvent) : Prop :=
  ∀ old ∈ p.seenTransactions.lookup event.providerTransactionId, old = "" ∨ old = event.providerEventId

def capturable (p : Projection) (event : GdsWalletVerifiedEvent) : Prop :=
  event.kind = .paymentCaptured →
    event.orderId.getD "" ≠ "" ∧ p.capturedByOrder.lookup (event.orderId.getD "") = none

instance (p : Projection) (event : GdsWalletVerifiedEvent) : Decidable (transactionFree p event) := by
  unfold transactionFree
  infer_instance

instance (p : Projection) (event : GdsWalletVerifiedEvent) : Decidable (capturable p event) := by
  unfold capturable
  infer_instance

def applyEvent (p : Projection) (event : GdsWalletVerifiedEvent) : Except Fault Projection := do
  positiveVnd event.amountMinor
  ensure (event.currency = "VND" ∧ event.providerEventId ≠ "" ∧ event.providerTransactionId ≠ "")
    (.invariant "WALLET_INVALID_PARTNER_FACT")
  match p.seenEvents.lookup event.providerEventId with
  | some oldEvent => do
      ensure (oldEvent = fingerprint event) (.invariant "WALLET_EVENT_COLLISION")
      return p
  | none => do
      ensure (transactionFree p event) (.invariant "WALLET_TRANSACTION_REPLAY")
      ensure (capturable p event) (.invariant "WALLET_CAPTURE_RECONCILIATION_REQUIRED")
      return p.take event

structure Holds where
  seenOrders : List String
  seenPartnerHolds : List String
  reservedMinor : Int
deriving DecidableEq, Repr

def emptyHolds : Holds where
  seenOrders := []
  seenPartnerHolds := []
  reservedMinor := 0

def GdsReservationStatus.held : GdsReservationStatus → Bool
  | .reserved | .unknown => true
  | .captured | .released => false

def heldAmount (r : GdsWalletReservation) : Int :=
  if r.status.held then r.amountMinor else 0

def reconciled (capturedByOrder : List (String × Int)) (r : GdsWalletReservation) : Prop :=
  match r.status with
  | .reserved | .unknown => capturedByOrder.lookup r.orderId = none
  | .captured => capturedByOrder.lookup r.orderId = some r.amountMinor
  | .released => True

instance (capturedByOrder : List (String × Int)) (r : GdsWalletReservation) : Decidable (reconciled capturedByOrder r) := by
  unfold reconciled
  split <;> infer_instance

def Holds.take (h : Holds) (r : GdsWalletReservation) : Holds where
  seenOrders := r.orderId :: h.seenOrders
  seenPartnerHolds := r.providerReservationId :: h.seenPartnerHolds
  reservedMinor := h.reservedMinor + heldAmount r

def applyReservation (capturedByOrder : List (String × Int)) (h : Holds) (r : GdsWalletReservation) : Except Fault Holds := do
  positiveVnd r.amountMinor
  ensure (r.orderId ≠ "" ∧ r.providerReservationId ≠ "") (.invariant "WALLET_INVALID_RESERVATION")
  ensure (r.orderId ∉ h.seenOrders ∧ r.providerReservationId ∉ h.seenPartnerHolds) (.invariant "WALLET_DUPLICATE_RESERVATION")
  ensure (reconciled capturedByOrder r) (.invariant "WALLET_CAPTURE_RECONCILIATION_REQUIRED")
  return h.take r

def projectGdsWallet (events : List GdsWalletVerifiedEvent) (reservations : List GdsWalletReservation) :
    Except Fault GdsWalletBalance := do
  let p ← events.foldlM applyEvent emptyProjection
  let h ← reservations.foldlM (applyReservation p.capturedByOrder) emptyHolds
  ensure (∀ capture ∈ p.capturedByOrder, ∃ r ∈ reservations, r.orderId = capture.1 ∧ r.status = .captured)
    (.invariant "WALLET_CAPTURE_RECONCILIATION_REQUIRED")
  ensure (0 ≤ p.settledMinor ∧ 0 ≤ p.settledMinor - h.reservedMinor) (.invariant "WALLET_RECONCILIATION_REQUIRED")
  return {
    settledMinor := p.settledMinor
    reservedMinor := h.reservedMinor
    availableMinor := p.settledMinor - h.reservedMinor
    currency := "VND" }

def reserveGdsWallet (current : List GdsWalletReservation) (events : List GdsWalletVerifiedEvent) (next : GdsWalletReservation) :
    Except Fault (List GdsWalletReservation) := do
  positiveVnd next.amountMinor
  ensure (next.status = .reserved ∧ next.orderId ≠ "" ∧ next.providerReservationId ≠ "") (.invariant "WALLET_INVALID_RESERVATION")
  match current.find? (fun item => item.orderId = next.orderId) with
  | some existing => do
      ensure (existing.amountMinor = next.amountMinor ∧ existing.providerReservationId = next.providerReservationId)
        (.invariant "WALLET_IDEMPOTENCY_CONFLICT")
      return current
  | none => do
      let balance ← projectGdsWallet events current
      ensure (next.amountMinor ≤ balance.availableMinor) (.invariant "WALLET_INSUFFICIENT_FUNDS")
      let _ ← projectGdsWallet events (current ++ [next])
      return current ++ [next]

inductive GdsReservationResult where
  | captured | released | unknown
deriving DecidableEq, Repr

def GdsReservationResult.status : GdsReservationResult → GdsReservationStatus
  | .captured => .captured
  | .released => .released
  | .unknown => .unknown

def resolveGdsReservation (current : GdsWalletReservation) (result : GdsReservationResult) : Except Fault GdsWalletReservation :=
  if current.status = result.status then .ok current
  else if current.status = .captured ∨ current.status = .released then .error (.invariant "WALLET_TERMINAL_CONFLICT")
  else .ok { current with status := result.status }

theorem resolveGdsReservation_terminal (current resolved : GdsWalletReservation) (result : GdsReservationResult)
    (terminal : current.status = .captured ∨ current.status = .released) (ok : resolveGdsReservation current result = .ok resolved) :
    resolved = current := by
  unfold resolveGdsReservation at ok
  by_cases same : current.status = result.status
  · rw [if_pos same] at ok
    exact (Except.ok.inj ok).symm
  · rw [if_neg same, if_pos terminal] at ok
    cases ok

end EduAi.Gds
