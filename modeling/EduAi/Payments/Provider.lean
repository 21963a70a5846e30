import EduAi.Gds.Schema
import EduAi.Store.CodeUnits

set_option autoImplicit false

namespace EduAi.Payments

open EduAi.Gds EduAi.Store

inductive PaymentProviderName where
  | payos | vnpay
deriving DecidableEq, Repr

inductive PaymentProviderStatus where
  | pending | cancelled | underpaid | paid | expired | processing | failed
deriving DecidableEq, Repr

structure PaymentTransaction where
  reference : String
  amountMinor : Int
  receivingAccount : String
  virtualReceivingAccount : Option String
  occurredAt : Instant
deriving DecidableEq, Repr

structure PaymentRequestStatus where
  providerPaymentIdentity : String
  receivingAccount : Option String
  localOrderReference : Int
  amountMinor : Int
  amountPaidMinor : Int
  amountRemainingMinor : Int
  status : PaymentProviderStatus
  createdAt : Instant
  cancelledAt : Option Instant
  transactions : List PaymentTransaction
deriving DecidableEq, Repr

inductive OccurredAtSource where
  | provider | receipt
deriving DecidableEq, Repr

structure VerifiedPaymentWebhook where
  provider : PaymentProviderName
  providerOrderReference : String
  providerEventIdentity : String
  providerPaymentIdentity : String
  providerSettlementReference : String
  localOrderReference : Int
  amountMinor : Int
  currency : String
  occurredAt : Instant
  occurredAtSource : Option OccurredAtSource
  providerCode : String
  responseCode : Option String
  transactionStatus : Option String
  receivingAccount : Option String
  virtualReceivingAccount : Option String
  verifiedVirtualAccountHash : Option String
deriving DecidableEq, Repr

structure CreatedPaymentRequest where
  providerPaymentIdentity : String
  providerOrderReference : String
  localOrderReference : Option Int
  amountMinor : Int
  currency : String
  status : PaymentProviderStatus
  checkoutUrl : String
  qrPayload : Option String
  receivingAccount : Option String
  expiresAt : Option Instant
deriving DecidableEq, Repr

def isAccountCharacter (c : Char) : Bool :=
  ('A' ≤ c && c ≤ 'Z') || ('a' ≤ c && c ≤ 'z') || ('0' ≤ c && c ≤ '9') || c == '_' || c == '-'

def isPayosAccount (value : String) : Bool :=
  let characters := value.toList
  1 ≤ characters.length && characters.length ≤ 128 && characters.all isAccountCharacter

def isPayosLinkIdentity (value : String) : Bool :=
  isPayosAccount value

def isPayosQr (value : String) : Bool :=
  0 < (unitsOf value).length && (unitsOf value).length ≤ 8192

structure Url where
  protocol : String
  hostname : String
  port : String
  origin : String
  username : String
  password : String
  hash : String
deriving DecidableEq, Repr

def payosHosts : List String :=
  ["pay.payos.vn", "next.pay.payos.vn"]

def isPayosCheckoutUrl (parseUrl : String → Option Url) (value : String) : Bool :=
  0 < (unitsOf value).length && (unitsOf value).length ≤ 2048 &&
    (parseUrl value).any (fun url =>
      url.protocol == "https:" && url.port == "" && url.username == "" && url.password == "" && payosHosts.contains url.hostname)

def payosLinkIssues (parseUrl : String → Option Url) (value : CreatedPaymentRequest) : List String :=
  (if value.status = .pending then [] else ["status_not_pending"]) ++
  (if value.receivingAccount.any isPayosAccount then [] else ["invalid_receiving_account"]) ++
  (if isPayosLinkIdentity value.providerPaymentIdentity then [] else ["invalid_link_identity"]) ++
  (if value.qrPayload.any isPayosQr then [] else ["invalid_qr_payload"]) ++
  (if isPayosCheckoutUrl parseUrl value.checkoutUrl then [] else ["untrusted_checkout_url"])

def isSafeOrderReference (reference : Int) : Bool :=
  0 < reference && reference ≤ maxSafeInteger

end EduAi.Payments
