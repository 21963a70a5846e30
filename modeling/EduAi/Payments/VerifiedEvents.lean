import EduAi.Payments.Webhook
import Mathlib.Tactic.IntervalCases
import Mathlib.Tactic.NormNum

set_option autoImplicit false

namespace EduAi.Payments

open EduAi.Store EduAi.Gds EduAi.Commerce

-- Strings are measured in UTF-16 code units, as their length counts in the source.
def utf16Length (text : String) : Nat :=
  (text.toList.map (fun c => if c.toNat < 65536 then 1 else 2)).sum

def isBoundedString (text : String) (maximum : Nat) : Bool :=
  0 < utf16Length text && utf16Length text ≤ maximum

def decimalDigit (d : Nat) : Char :=
  Char.ofNat (48 + d)

def decimalDigits : Nat → Nat → List Char
  | 0, _ => []
  | fuel + 1, n => if n < 10 then [decimalDigit n] else decimalDigits fuel (n / 10) ++ [decimalDigit (n % 10)]

def decimalText (code : Int) : String :=
  String.ofList (decimalDigits (code.toNat + 1) code.toNat)

def isBoundedNumericReference (text : String) (maximumDigits : Nat) : Bool :=
  match text.toList with
  | [] => false
  | first :: rest => '1' ≤ first && first ≤ '9' && rest.length < maximumDigits && rest.all (fun c => '0' ≤ c && c ≤ '9')

def settlesAttempt (a : CommercePaymentAttempt) (t : PaymentTransaction) : Bool :=
  t.amountMinor = a.amountMinor ∧ isBoundedString t.reference 128 ∧ isBoundedString t.receivingAccount 128

def paidFactsComplete (a : CommercePaymentAttempt) (status : PaymentRequestStatus) : Bool :=
  status.status = .paid ∧ isBoundedString status.providerPaymentIdentity 128 ∧
    (a.providerPaymentIdentity = none ∨ a.providerPaymentIdentity = some status.providerPaymentIdentity) ∧
    isSafeOrderReference status.localOrderReference ∧ a.providerOrderCode = some status.localOrderReference ∧
    a.currency = "VND" ∧ status.amountMinor = a.amountMinor ∧ status.amountPaidMinor = a.amountMinor ∧
    status.amountRemainingMinor = 0

def verifiedCollection (status : PaymentRequestStatus) (t : PaymentTransaction) : VerifiedPaymentWebhook where
  provider := .payos
  providerOrderReference := decimalText status.localOrderReference
  providerEventIdentity := t.reference
  providerPaymentIdentity := status.providerPaymentIdentity
  providerSettlementReference := t.reference
  localOrderReference := status.localOrderReference
  amountMinor := t.amountMinor
  currency := "VND"
  occurredAt := t.occurredAt
  occurredAtSource := none
  providerCode := "00"
  responseCode := none
  transactionStatus := none
  receivingAccount := some t.receivingAccount
  virtualReceivingAccount := none
  verifiedVirtualAccountHash := none

def toVerifiedPaymentWebhook (a : CommercePaymentAttempt) (status : PaymentRequestStatus) : Option VerifiedPaymentWebhook :=
  if paidFactsComplete a status then (status.transactions.find? (settlesAttempt a)).map (verifiedCollection status) else none

inductive VnPayQueryDrRequestStatus where
  | success | notFound | duplicateRequest | providerError
deriving DecidableEq, Repr

inductive VnPayQueryDrTransactionStatus where
  | paid | pending | failed | reversed | refundProcessing | refundSent | fraudSuspected | expired | refundRejected
  | delivered | unknown
deriving DecidableEq, Repr

structure VnPayQueryDrObservation where
  queryRequestStatus : VnPayQueryDrRequestStatus
  transactionStatus : VnPayQueryDrTransactionStatus
  providerOrderReference : String
  providerTransactionIdentity : Option String
  amountMinor : Option Int
  paidAt : Option Instant
  responseCode : String
  transactionStatusCode : Option String
deriving DecidableEq, Repr

def observationSettles (a : CommercePaymentAttempt) (v : VnPayQueryDrObservation) : Bool :=
  v.queryRequestStatus = .success ∧ v.transactionStatus = .paid ∧ v.responseCode = "00" ∧
    v.transactionStatusCode = some "00" ∧ isOrderReference v.providerOrderReference ∧
    v.providerTransactionIdentity.any (fun identity => isBoundedNumericReference identity 15) ∧
    a.providerOrderCode = some (decimalValue v.providerOrderReference) ∧
    decimalValue v.providerOrderReference ≤ maxSafeInteger ∧
    a.providerPaymentIdentity = some v.providerOrderReference ∧ a.currency = "VND" ∧
    v.amountMinor = some a.amountMinor ∧ 0 < a.amountMinor

-- The hash of the source is a parameter; the identity carries it behind a fixed prefix.
def queryDrIdentity (hash : String → String) (v : VnPayQueryDrObservation) (transactionNo : String) (amountMinor : Int) :
    String :=
  "vnpay:" ++ hash (String.intercalate "|" ["vnpay-querydr-event-v1", v.providerOrderReference, transactionNo,
    decimalText amountMinor, v.responseCode, v.transactionStatusCode.getD ""])

def observedCollection (hash : String → String) (a : CommercePaymentAttempt) (v : VnPayQueryDrObservation)
    (transactionNo : String) : VerifiedPaymentWebhook where
  provider := .vnpay
  providerOrderReference := v.providerOrderReference
  providerEventIdentity := queryDrIdentity hash v transactionNo a.amountMinor
  providerPaymentIdentity := v.providerOrderReference
  providerSettlementReference := transactionNo
  localOrderReference := decimalValue v.providerOrderReference
  amountMinor := a.amountMinor
  currency := "VND"
  occurredAt := v.paidAt.getD a.createdAt
  occurredAtSource := if v.paidAt.isSome then none else some .receipt
  providerCode := v.responseCode
  responseCode := some v.responseCode
  transactionStatus := v.transactionStatusCode
  receivingAccount := none
  virtualReceivingAccount := none
  verifiedVirtualAccountHash := none

def toVerifiedVnPayQueryDrWebhook (hash : String → String) (a : CommercePaymentAttempt) (v : VnPayQueryDrObservation) :
    Option VerifiedPaymentWebhook :=
  if observationSettles a v then v.providerTransactionIdentity.map (observedCollection hash a v) else none

section Decimals

theorem decimalDigit_toNat (d : Nat) (small : d < 10) : (decimalDigit d).toNat = 48 + d := by
  interval_cases d <;> decide

theorem decimalDigit_range (d : Nat) (small : d < 10) : ('0' ≤ decimalDigit d && decimalDigit d ≤ '9') = true := by
  interval_cases d <;> decide

def digitsValue (digits : List Char) : Int :=
  digits.foldl (fun value c => 10 * value + (c.toNat - '0'.toNat : Int)) 0

theorem digitsValue_append_one (digits : List Char) (d : Nat) (small : d < 10) :
    digitsValue (digits ++ [decimalDigit d]) = 10 * digitsValue digits + d := by
  unfold digitsValue
  rw [List.foldl_append]
  simp only [List.foldl_cons, List.foldl_nil, decimalDigit_toNat d small]
  have zero : ('0'.toNat : Int) = 48 := rfl
  rw [zero]
  push_cast
  ring

theorem digitsValue_decimalDigits (fuel n : Nat) (enough : n < fuel) : digitsValue (decimalDigits fuel n) = n := by
  induction fuel generalizing n with
  | zero => omega
  | succ fuel ih =>
    unfold decimalDigits
    split
    case isTrue small =>
      have one := digitsValue_append_one [] n small
      simpa [digitsValue] using one
    case isFalse large =>
      rw [digitsValue_append_one _ _ (Nat.mod_lt _ (by decide)), ih (n / 10) (by omega)]
      omega

-- The digits of a positive number: the first of them is not zero, and a number below 10^k has at most k.
theorem decimalDigits_shape (fuel n : Nat) (enough : n < fuel) (positive : 0 < n) (k : Nat) (bound : n < 10 ^ (k + 1)) :
    ∃ first rest, decimalDigits fuel n = first :: rest ∧ ('1' ≤ first && first ≤ '9') = true ∧ rest.length ≤ k ∧
      rest.all (fun c => '0' ≤ c && c ≤ '9') = true := by
  induction fuel generalizing n k with
  | zero => omega
  | succ fuel ih =>
    unfold decimalDigits
    split
    case isTrue small =>
      refine ⟨decimalDigit n, [], rfl, ?_, by simp, rfl⟩
      interval_cases n <;> decide
    case isFalse large =>
      cases k with
      | zero => omega
      | succ k =>
        have quotient : n / 10 < 10 ^ (k + 1) := by
          rw [Nat.div_lt_iff_lt_mul (by decide)]
          rw [pow_succ] at bound
          exact bound
        obtain ⟨first, rest, same, head, length, digits⟩ := ih (n / 10) (by omega) (by omega) k quotient
        refine ⟨first, rest ++ [decimalDigit (n % 10)], by rw [same]; rfl, head, by simp; omega, ?_⟩
        rw [List.all_append, digits]
        simpa using decimalDigit_range (n % 10) (Nat.mod_lt _ (by decide))

theorem decimalText_reference (code : Int) (safe : isSafeOrderReference code = true) :
    isOrderReference (decimalText code) = true ∧ decimalValue (decimalText code) = code := by
  unfold isSafeOrderReference at safe
  simp only [Bool.and_eq_true, decide_eq_true_eq] at safe
  obtain ⟨positive, bounded⟩ := safe
  unfold maxSafeInteger at bounded
  have text : (decimalText code).toList = decimalDigits (code.toNat + 1) code.toNat := by simp [decimalText]
  refine ⟨?_, ?_⟩
  · obtain ⟨first, rest, same, head, length, digits⟩ :=
      decimalDigits_shape (code.toNat + 1) code.toNat (by omega) (by omega) 15 (by omega)
    unfold isOrderReference
    rw [text, same]
    simp only [Bool.and_eq_true, decide_eq_true_eq] at head ⊢
    exact ⟨⟨head, length⟩, digits⟩
  · have value := digitsValue_decimalDigits (code.toNat + 1) code.toNat (by omega)
    unfold decimalValue
    rw [text]
    unfold digitsValue at value
    rw [value]
    omega

end Decimals

structure VerifiedFor (a : CommercePaymentAttempt) (v : VerifiedPaymentWebhook) : Prop where
  settled : settledNotification v = true
  shaped : deliverable v = true
  code : ∃ code, a.providerOrderCode = some code ∧ providerOrderCode v = some code
  amount : v.amountMinor = a.amountMinor
  currency : v.currency = a.currency

theorem bounded_named (text : String) (maximum : Nat) (bounded : isBoundedString text maximum = true) : text ≠ "" := by
  rintro rfl
  simp [isBoundedString, utf16Length] at bounded

theorem numeric_named (text : String) (maximum : Nat) (numeric : isBoundedNumericReference text maximum = true) :
    text ≠ "" := by
  rintro rfl
  simp [isBoundedNumericReference] at numeric

theorem orderReference_named (text : String) (reference : isOrderReference text = true) : text ≠ "" := by
  rintro rfl
  simp [isOrderReference] at reference

theorem toVerifiedPaymentWebhook_some (a : CommercePaymentAttempt) (status : PaymentRequestStatus)
    (v : VerifiedPaymentWebhook) (built : toVerifiedPaymentWebhook a status = some v) :
    v.provider = .payos ∧ VerifiedFor a v := by
  unfold toVerifiedPaymentWebhook at built
  split at built
  case isFalse => cases built
  case isTrue complete =>
    obtain ⟨t, found, rfl⟩ := Option.map_eq_some_iff.mp built
    obtain ⟨_, identity, _, safe, code, currency, _⟩ := of_decide_eq_true complete
    obtain ⟨amount, reference, _⟩ := of_decide_eq_true (find_some _ _ t found).2
    obtain ⟨shape, value⟩ := decimalText_reference status.localOrderReference safe
    have referenceNamed := bounded_named t.reference 128 reference
    refine ⟨rfl, ⟨decide_eq_true ⟨rfl, fun gateway => by cases gateway⟩, ?_, ⟨status.localOrderReference, code, ?_⟩, amount, currency.symm⟩⟩
    · exact decide_eq_true ⟨referenceNamed, bounded_named _ 128 identity, referenceNamed⟩
    · simp only [providerOrderCode, verifiedCollection, shape, if_true, value]

theorem queryDrIdentity_named (hash : String → String) (v : VnPayQueryDrObservation) (transactionNo : String)
    (amountMinor : Int) : queryDrIdentity hash v transactionNo amountMinor ≠ "" := by
  intro empty
  have length := congrArg String.length empty
  simp [queryDrIdentity, String.length_append] at length

theorem toVerifiedVnPayQueryDrWebhook_some (hash : String → String) (a : CommercePaymentAttempt) (o : VnPayQueryDrObservation)
    (v : VerifiedPaymentWebhook) (built : toVerifiedVnPayQueryDrWebhook hash a o = some v) :
    v.provider = .vnpay ∧ VerifiedFor a v := by
  unfold toVerifiedVnPayQueryDrWebhook at built
  split at built
  case isFalse => cases built
  case isTrue settles =>
    obtain ⟨transactionNo, named, rfl⟩ := Option.map_eq_some_iff.mp built
    obtain ⟨_, _, response, transaction, reference, numeric, code, _, _, currency, _⟩ := of_decide_eq_true settles
    rw [named, Option.any_some] at numeric
    refine ⟨rfl, ⟨?_, ?_, ⟨_, code, ?_⟩, rfl, currency.symm⟩⟩
    · exact decide_eq_true ⟨response, fun _ => transaction⟩
    · exact decide_eq_true ⟨queryDrIdentity_named hash o transactionNo a.amountMinor, orderReference_named _ reference,
        numeric_named _ 15 numeric⟩
    · simp only [providerOrderCode, observedCollection, reference, if_true]

end EduAi.Payments
