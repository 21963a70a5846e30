import EduAi.Payments.VerifiedEvents
import Mathlib.Data.List.Sort

set_option autoImplicit false

namespace EduAi.Payments

open EduAi.Store EduAi.Gds EduAi.Commerce

inductive IpnRspCode where
  | confirmSuccess | orderNotFound | orderAlreadyConfirmed | invalidAmount | invalidSignature | invalidRequest
deriving DecidableEq, Repr

def IpnRspCode.text : IpnRspCode → String
  | .confirmSuccess => "00"
  | .orderNotFound => "01"
  | .orderAlreadyConfirmed => "02"
  | .invalidAmount => "04"
  | .invalidSignature => "97"
  | .invalidRequest => "99"

inductive VnPayIpnErrorCode where
  | request | amount | currency | merchant
deriving DecidableEq, Repr

structure VnPayConfig where
  disabled : Bool
  tmnCode : String
  version : String
  hashSecret : String
  hmac : String → String → String

abbrev VnPayParams := List (String × String)

def paramOf (params : VnPayParams) (key : String) : Option String :=
  (params.find? (fun entry => entry.1 = key)).map (fun entry => entry.2)

def isDigit (c : Char) : Bool :=
  '0' ≤ c && c ≤ '9'

def isLetterOrDigit (c : Char) : Bool :=
  ('A' ≤ c && c ≤ 'Z') || ('a' ≤ c && c ≤ 'z') || isDigit c

def isDigits (text : String) (least most : Nat) : Bool :=
  least ≤ text.toList.length && text.toList.length ≤ most && text.toList.all isDigit

def hexDigit (n : Nat) : Char :=
  if n < 10 then Char.ofNat (48 + n) else Char.ofNat (55 + n)

def encodeByte (b : UInt8) : List Char :=
  if b = 32 then ['+'] else ['%', hexDigit (b.toNat / 16), hexDigit (b.toNat % 16)]

-- encodeURIComponent, with the marks it keeps escaped as well and blanks turned into plus signs.
def encodeVnPayComponent (value : String) : String :=
  String.ofList (value.toList.flatMap (fun c =>
    if isLetterOrDigit c || c == '-' || c == '_' || c == '.' then [c] else (String.utf8EncodeChar c).flatMap encodeByte))

def canonicalizeVnPayParams (params : VnPayParams) : String :=
  String.intercalate "&" (((params.filter (fun entry => entry.2 ≠ "")).insertionSort (fun x y => x.1 ≤ y.1)).map
    (fun entry => encodeVnPayComponent entry.1 ++ "=" ++ encodeVnPayComponent entry.2))

def canonicalizeVnPayIpnParams (params : VnPayParams) : String :=
  canonicalizeVnPayParams (params.filter (fun entry => entry.1 ≠ "vnp_SecureHash" ∧ entry.1 ≠ "vnp_SecureHashType"))

def isHexDigest (text : String) : Bool :=
  text.toList.length = 128 ∧ text.toList.all (fun c => isDigit c || ('a' ≤ c && c ≤ 'f') || ('A' ≤ c && c ≤ 'F'))

def verifyVnPaySignature (config : VnPayConfig) (params : VnPayParams) (secureHash : String) : Bool :=
  isHexDigest secureHash ∧ config.hashSecret ≠ "" ∧
    secureHash.toLower = config.hmac config.hashSecret (canonicalizeVnPayIpnParams params)

def vnpayIpnKeys : List String :=
  ["vnp_Version", "vnp_Command", "vnp_TmnCode", "vnp_Amount", "vnp_BankCode", "vnp_BankTranNo", "vnp_CardType",
    "vnp_OrderInfo", "vnp_PayDate", "vnp_ResponseCode", "vnp_TxnRef", "vnp_TransactionNo", "vnp_TransactionStatus",
    "vnp_SecureHashType", "vnp_SecureHash", "vnp_CurrCode", "vnp_CreateDate", "vnp_ExpireDate", "vnp_IpAddr", "vnp_Locale",
    "vnp_OrderType", "vnp_ReturnUrl", "vnp_TransactionType"]

-- A value that is not a string is none; the running length is the one the source bounds entry by entry.
def parseEntries : Nat → List (String × Option String) → Option VnPayParams
  | _, [] => some []
  | _, (_, none) :: _ => none
  | totalLength, (key, some value) :: rest =>
      let length := totalLength + utf16Length key + utf16Length value
      if key ∉ vnpayIpnKeys ∨ 2048 < utf16Length value ∨ 16384 < length then none
      else (parseEntries length rest).map (fun params => (key, value) :: params)

-- The query is none where it is not an object at all.
def parseVnPayIpnQuery (query : Option (List (String × Option String))) : Option VnPayParams :=
  query.bind (fun entries => if entries = [] ∨ 32 < entries.length then none else parseEntries 0 entries)

abbrev IpnCheck := Except VnPayIpnErrorCode

def refuse (p : Prop) [Decidable p] (code : VnPayIpnErrorCode) : IpnCheck Unit :=
  if p then .error code else .ok ()

def requiredParam (params : VnPayParams) (key : String) (maximum : Nat) (pattern : String → Bool) : IpnCheck String :=
  match (paramOf params key).filter (fun value => isBoundedString value maximum && pattern value) with
  | some value => .ok value
  | none => .error (if key = "vnp_Amount" then .amount else .request)

def vnpayAmountMax : Int := 999999999999

def parseAmount (value : Option String) : IpnCheck Int :=
  match value.filter (fun text => isDigits text 1 12) with
  | none => .error .amount
  | some text =>
      let amount := decimalValue text
      if amount ≤ 0 ∨ vnpayAmountMax < amount ∨ amount % 100 ≠ 0 ∨ amount / 100 ≤ 0 then .error .amount
      else .ok (amount / 100)

def isLeapYear (year : Int) : Bool :=
  year % 4 = 0 ∧ (year % 100 ≠ 0 ∨ year % 400 = 0)

def daysInMonth (year month : Int) : Int :=
  if month = 2 then (if isLeapYear year then 29 else 28)
  else if month = 4 ∨ month = 6 ∨ month = 9 ∨ month = 11 then 30
  else 31

def daysBeforeMonth (year : Int) (month : Nat) : Int :=
  ((List.range (month - 1)).map (fun k => daysInMonth year (k + 1))).sum

def daysBeforeYear (year : Int) : Int :=
  365 * (year - 1970) + (year - 1969) / 4 - (year - 1901) / 100 + (year - 1601) / 400

def dateField (text : String) (start length : Nat) : Int :=
  decimalValue (String.ofList ((text.toList.drop start).take length))

-- Local time in the provider's zone. A day past the end of its month does not read back as itself, and is refused.
def parseVnPayDate (value : String) : Option Instant :=
  let year := dateField value 0 4
  let month := dateField value 4 2
  let day := dateField value 6 2
  let hour := dateField value 8 2
  let minute := dateField value 10 2
  let second := dateField value 12 2
  if ¬ isDigits value 14 14 ∨ year < 2000 ∨ 2100 < year ∨ month < 1 ∨ 12 < month ∨ day < 1 ∨ daysInMonth year month < day ∨
      23 < hour ∨ 59 < minute ∨ 59 < second then none
  else
    some ((((daysBeforeYear year + daysBeforeMonth year month.toNat + (day - 1)) * 24 + hour - 7) * 60 + minute) * 60000 +
      second * 1000)

def parsePayDate (value : Option String) : IpnCheck (Option Instant) :=
  match value with
  | none => .ok none
  | some text =>
      match parseVnPayDate text with
      | some payDate => .ok (some payDate)
      | none => .error .request

def isTmnCode (text : String) : Bool :=
  text.toList.length = 8 ∧ text.toList.all isLetterOrDigit

def isBankCode (text : String) : Bool :=
  3 ≤ text.toList.length && text.toList.length ≤ 20 &&
    text.toList.all (fun c => isLetterOrDigit c || c == '_' || c == '-')

def ipnEventIdentity (hash : String → String) (canonical : String) : String :=
  "vnpay:" ++ hash ("vnpay-ipn-event:" ++ canonical)

def normalizeVnPayIpn (config : VnPayConfig) (hash : String → String) (now : Instant) (params : VnPayParams) :
    IpnCheck VerifiedPaymentWebhook := do
  let tmnCode ← requiredParam params "vnp_TmnCode" 8 isTmnCode
  refuse (¬ isTmnCode config.tmnCode ∨ tmnCode ≠ config.tmnCode) .merchant
  refuse (¬ (paramOf params "vnp_Version").all (fun version => version = config.version)) .request
  refuse (¬ (paramOf params "vnp_Command").all (fun command => command = "pay")) .request
  refuse (¬ (paramOf params "vnp_CurrCode").all (fun currency => currency = "VND")) .currency
  let transactionReference ← requiredParam params "vnp_TxnRef" 100 isOrderReference
  refuse (maxSafeInteger < decimalValue transactionReference) .request
  let amountMinor ← parseAmount (paramOf params "vnp_Amount")
  let transactionNo ← requiredParam params "vnp_TransactionNo" 15 (fun text => isBoundedNumericReference text 15)
  let responseCode ← requiredParam params "vnp_ResponseCode" 2 (fun text => isDigits text 2 2)
  let transactionStatus ← requiredParam params "vnp_TransactionStatus" 2 (fun text => isDigits text 2 2)
  let _ ← requiredParam params "vnp_BankCode" 20 isBankCode
  let _ ← requiredParam params "vnp_OrderInfo" 255 (fun _ => true)
  let payDate ← parsePayDate (paramOf params "vnp_PayDate")
  let canonical := canonicalizeVnPayIpnParams params
  refuse (16384 < utf16Length canonical) .request
  pure {
    provider := .vnpay
    providerOrderReference := transactionReference
    providerEventIdentity := ipnEventIdentity hash canonical
    providerPaymentIdentity := transactionReference
    providerSettlementReference := transactionNo
    localOrderReference := decimalValue transactionReference
    amountMinor
    currency := "VND"
    occurredAt := payDate.getD now
    occurredAtSource := if payDate.isSome then none else some .receipt
    providerCode := responseCode
    responseCode := some responseCode
    transactionStatus := some transactionStatus
    receivingAccount := none
    virtualReceivingAccount := none
    verifiedVirtualAccountHash := none }

inductive IpnAction where
  | respond (code : IpnRspCode)
  | classify (v : VerifiedPaymentWebhook)
  | process (v : VerifiedPaymentWebhook)
deriving DecidableEq, Repr

def ipnErrorResponse : VnPayIpnErrorCode → IpnRspCode
  | .amount => .invalidAmount
  | .currency => .invalidAmount
  | _ => .invalidRequest

def ipnAction (config : VnPayConfig) (hash : String → String) (now : Instant)
    (query : Option (List (String × Option String))) : IpnAction :=
  if config.disabled ∨ config.tmnCode = "" ∨ config.hashSecret = "" then .respond .invalidRequest
  else
    match parseVnPayIpnQuery query with
    | none => .respond .invalidRequest
    | some params =>
        if ¬ (paramOf params "vnp_SecureHash").any (verifyVnPaySignature config params) then .respond .invalidSignature
        else
          match normalizeVnPayIpn config hash now params with
          | .error code => .respond (ipnErrorResponse code)
          | .ok v =>
              if v.responseCode = some "00" ∧ v.transactionStatus = some "00" then .process v else .classify v

def mapClassification : Except Fault VerificationClassification → IpnRspCode
  | .error _ => .invalidRequest
  | .ok .unknown => .orderNotFound
  | .ok .invalidAmount => .invalidAmount
  | .ok .alreadyConfirmed => .orderAlreadyConfirmed
  | .ok .invalidIdentity => .invalidRequest
  | .ok .known => .confirmSuccess

-- What processVerified returns: a confirmed order is fulfilled before the answer, and a fulfilment that throws replaces it.
def processVerifiedAnswer (applied : Except Fault PaymentWebhookProcessingResult) (fulfilled : Except Fault Unit) :
    Except Fault PaymentWebhookProcessingResult :=
  match applied with
  | .ok (.confirmed orderId settlementId replayed) => fulfilled.map (fun _ => .confirmed orderId settlementId replayed)
  | applied => applied

def isReplayed : PaymentWebhookProcessingResult → Bool
  | .confirmed _ _ replayed => replayed
  | .duplicate replayed => replayed
  | _ => false

def mapProcessingResult : Except Fault PaymentWebhookProcessingResult → IpnRspCode
  | .error _ => .invalidRequest
  | .ok (.rejected error) => if error = .fact then .invalidAmount else .invalidRequest
  | .ok .unknownPaymentAcknowledged => .orderNotFound
  | .ok result => if isReplayed result then .orderAlreadyConfirmed else .confirmSuccess

theorem refuse_ok (p : Prop) [Decidable p] (code : VnPayIpnErrorCode) : refuse p code = .ok () ↔ ¬ p := by
  unfold refuse
  split
  case isTrue h => simp [h]
  case isFalse h => simp [h]

theorem requiredParam_ok (params : VnPayParams) (key : String) (maximum : Nat) (pattern : String → Bool) (value : String)
    (accepted : requiredParam params key maximum pattern = .ok value) :
    paramOf params key = some value ∧ isBoundedString value maximum = true ∧ pattern value = true := by
  unfold requiredParam at accepted
  split at accepted
  case h_2 => cases accepted
  case h_1 found =>
    cases accepted
    obtain ⟨given, fits⟩ := Option.filter_eq_some_iff.mp found
    exact ⟨given, (Bool.and_eq_true _ _).mp fits⟩

theorem parseAmount_ok (value : Option String) (amountMinor : Int) (accepted : parseAmount value = .ok amountMinor) :
    0 < amountMinor := by
  unfold parseAmount at accepted
  split at accepted
  case h_1 => cases accepted
  case h_2 text _ =>
    simp only at accepted
    split at accepted
    case isTrue => cases accepted
    case isFalse fits =>
      cases accepted
      omega

structure NormalizedIpn (config : VnPayConfig) (params : VnPayParams) (v : VerifiedPaymentWebhook) : Prop where
  merchant : paramOf params "vnp_TmnCode" = some config.tmnCode
  provider : v.provider = .vnpay
  orderReference : isOrderReference v.providerOrderReference = true
  safe : decimalValue v.providerOrderReference ≤ maxSafeInteger
  identity : v.providerPaymentIdentity = v.providerOrderReference
  reference : isBoundedNumericReference v.providerSettlementReference 15 = true
  amount : 0 < v.amountMinor
  currency : v.currency = "VND"
  code : v.responseCode = some v.providerCode
  event : v.providerEventIdentity ≠ ""

theorem ipnEventIdentity_nonempty (hash : String → String) (canonical : String) : ipnEventIdentity hash canonical ≠ "" := by
  intro empty
  have length := congrArg String.length empty
  simp [ipnEventIdentity, String.length_append] at length

theorem bind_ok {α β : Type} (m : IpnCheck α) (f : α → IpnCheck β) (b : β) (accepted : (m >>= f) = .ok b) :
    ∃ a, m = .ok a ∧ f a = .ok b := by
  cases m with
  | error code => cases accepted
  | ok a => exact ⟨a, rfl, accepted⟩

theorem normalizeVnPayIpn_ok (config : VnPayConfig) (hash : String → String) (now : Instant) (params : VnPayParams)
    (v : VerifiedPaymentWebhook) (accepted : normalizeVnPayIpn config hash now params = .ok v) :
    NormalizedIpn config params v := by
  obtain ⟨tmnCode, merchant, accepted⟩ := bind_ok _ _ v accepted
  obtain ⟨_, same, accepted⟩ := bind_ok _ _ v accepted
  obtain ⟨_, _, accepted⟩ := bind_ok _ _ v accepted
  obtain ⟨_, _, accepted⟩ := bind_ok _ _ v accepted
  obtain ⟨_, _, accepted⟩ := bind_ok _ _ v accepted
  obtain ⟨reference, order, accepted⟩ := bind_ok _ _ v accepted
  obtain ⟨_, safe, accepted⟩ := bind_ok _ _ v accepted
  obtain ⟨amountMinor, amount, accepted⟩ := bind_ok _ _ v accepted
  obtain ⟨transactionNo, settlement, accepted⟩ := bind_ok _ _ v accepted
  obtain ⟨responseCode, _, accepted⟩ := bind_ok _ _ v accepted
  obtain ⟨transactionStatus, _, accepted⟩ := bind_ok _ _ v accepted
  obtain ⟨_, _, accepted⟩ := bind_ok _ _ v accepted
  obtain ⟨_, _, accepted⟩ := bind_ok _ _ v accepted
  obtain ⟨payDate, _, accepted⟩ := bind_ok _ _ v accepted
  obtain ⟨_, _, accepted⟩ := bind_ok _ _ v accepted
  have given := (requiredParam_ok params _ 8 isTmnCode tmnCode merchant).1
  have agrees : tmnCode = config.tmnCode := by
    have passed := (refuse_ok _ _).mp same
    simp only [not_or, ne_eq, not_not] at passed
    exact passed.2
  rw [agrees] at given
  cases accepted
  exact ⟨given, rfl, (requiredParam_ok params _ _ _ reference order).2.2, not_lt.mp ((refuse_ok _ _).mp safe), rfl,
    (requiredParam_ok params _ _ _ transactionNo settlement).2.2, parseAmount_ok _ amountMinor amount, rfl, rfl,
    ipnEventIdentity_nonempty hash _⟩

theorem normalized_deliverable (config : VnPayConfig) (params : VnPayParams) (v : VerifiedPaymentWebhook)
    (normalized : NormalizedIpn config params v) : deliverable v = true := by
  refine decide_eq_true ⟨normalized.event, ?_, ?_⟩
  · intro empty
    have order := normalized.orderReference
    rw [← normalized.identity, empty] at order
    cases order
  · intro empty
    have reference := normalized.reference
    rw [empty] at reference
    cases reference

theorem ipnAction_process (config : VnPayConfig) (hash : String → String) (now : Instant)
    (query : Option (List (String × Option String))) (v : VerifiedPaymentWebhook)
    (processed : ipnAction config hash now query = .process v) :
    ∃ params, parseVnPayIpnQuery query = some params ∧ NormalizedIpn config params v ∧ settledNotification v = true := by
  unfold ipnAction at processed
  split at processed
  case isTrue => cases processed
  case isFalse =>
    split at processed
    case h_1 => cases processed
    case h_2 params parsed =>
      split at processed
      case isTrue => cases processed
      case isFalse =>
        split at processed
        case h_1 => cases processed
        case h_2 w accepted =>
          split at processed
          case isFalse => cases processed
          case isTrue codes =>
            cases processed
            have normalized := normalizeVnPayIpn_ok config hash now params v accepted
            refine ⟨params, parsed, normalized, decide_eq_true ⟨?_, fun _ => codes.2⟩⟩
            have code := normalized.code
            rw [codes.1] at code
            exact (Option.some.inj code).symm

theorem mapProcessingResult_acknowledged (applied : Except Fault PaymentWebhookProcessingResult) (fulfilled : Except Fault Unit)
    (acknowledged : mapProcessingResult (processVerifiedAnswer applied fulfilled) = .confirmSuccess ∨
      mapProcessingResult (processVerifiedAnswer applied fulfilled) = .orderAlreadyConfirmed) :
    ∃ r, applied = .ok r ∧ (∀ error, r ≠ .rejected error) ∧ r ≠ .unknownPaymentAcknowledged := by
  cases applied with
  | error fault => rcases acknowledged with h | h <;> cases h
  | ok r =>
    refine ⟨r, rfl, ?_, ?_⟩
    · rintro error rfl
      simp only [processVerifiedAnswer, mapProcessingResult] at acknowledged
      split at acknowledged <;> simp at acknowledged
    · rintro rfl
      simp [processVerifiedAnswer, mapProcessingResult] at acknowledged

end EduAi.Payments
