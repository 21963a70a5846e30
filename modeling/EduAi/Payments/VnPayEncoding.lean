import EduAi.Payments.VnPayFormats
import EduAi.Payments.VnPayQuery

set_option autoImplicit false

namespace EduAi.Payments.VnPay

open EduAi.Store

structure Canonical (canonical : Params → Option Units) (pairs : Params → List (Units × Units)) : Prop where
  reordered : ∀ p q : Params, q.entries.Perm p.entries → canonical q = canonical p
  counted : ∀ p q : Params, (pairs q).Perm (pairs p) → canonical q = canonical p
  injective : ∀ p q text, canonical p = some text → canonical q = some text → (pairs q).Perm (pairs p)

def Params.ipnPairs (params : Params) : List (Units × Units) :=
  (params.without isHashField).pairs

theorem params_canonical : Canonical canonicalizeVnPayParams Params.pairs where
  reordered := fun p q perm => canonical_of_pairs q p (perm.filter _)
  counted := fun p q perm => canonical_of_pairs q p perm
  injective := fun p q text first second => pairs_of_canonical q p text second first

theorem ipn_canonical : Canonical canonicalizeVnPayIpnParams Params.ipnPairs where
  reordered := fun _ _ perm => canonical_of_pairs _ _ ((perm.filter _).filter _)
  counted := fun _ _ perm => canonical_of_pairs _ _ perm
  injective := fun _ _ text first second => pairs_of_canonical _ _ text second first

section Verification

variable (hmac : Units → Units → Units)

def CollisionFree (secret text : Units) (received : Params) : Prop :=
  ∀ other, canonicalizeVnPayIpnParams received = some other → hmac secret other = hmac secret text → other = text

structure Signed (secret secureHash text : Units) : Prop where
  configured : secret ≠ []
  digest : isHexDigest secureHash = true
  signature : lowerDigits secureHash = hmac secret text

theorem verify_signed (secret secureHash text : Units) (received : Params) (signed : Signed hmac secret secureHash text) :
    verifyVnPaySignature hmac received secureHash secret =
      (canonicalizeVnPayIpnParams received).map (fun other => decide (hmac secret text = hmac secret other)) := by
  have shape : ¬ (¬ isHexDigest secureHash = true ∨ secret.length = 0) := by
    rintro (noDigest | empty)
    · exact noDigest signed.digest
    · exact signed.configured (List.eq_nil_of_length_eq_zero empty)
  rw [verifyVnPaySignature, if_neg shape, signed.signature]

theorem verified_iff (params received : Params) (secret secureHash text : Units)
    (canonical : canonicalizeVnPayParams params = some text) (signed : Signed hmac secret secureHash text)
    (free : CollisionFree hmac secret text received) :
    verifyVnPaySignature hmac received secureHash secret = some true ↔ received.ipnPairs.Perm params.pairs := by
  rw [verify_signed hmac secret secureHash text received signed]
  constructor
  · intro accepted
    obtain ⟨other, digested, same⟩ := Option.map_eq_some_iff.mp accepted
    have level := free other digested (of_decide_eq_true same).symm
    rw [level] at digested
    exact pairs_of_canonical (received.without isHashField) params text digested canonical
  · intro perm
    have digested : canonicalizeVnPayIpnParams received = some text :=
      (canonical_of_pairs (received.without isHashField) params perm).trans canonical
    rw [digested, Option.map_some, decide_eq_true rfl]

end Verification

def localYear (t : Int) : Option Int :=
  (timeClip (t + vnTimezoneOffsetMs)).map getUTCFullYear

def Expressible (t : Int) : Prop :=
  ∃ year, localYear t = some year ∧ 1970 ≤ year ∧ year ≤ 9999

theorem date_read (t : Int) (representable : Representable t) (inside : Expressible t) :
    ∃ text, formatVnPayDate (some t) = .ok text ∧ parseVnPayQueryDrDate text = .ok (wholeSeconds t) := by
  obtain ⟨year, isYear, least, most⟩ := inside
  obtain ⟨l, clipped, rfl⟩ := Option.map_eq_some_iff.mp isYear
  obtain ⟨localTime, rfl⟩ := (timeClip_some _ _).mp clipped
  exact ⟨_, formatVnPayDate_text t, parse_formatted t representable localTime least most⟩

theorem date_refused (t : Int) (outside : ¬ Expressible t) :
    ∃ text, formatVnPayDate (some t) = .ok text ∧ parseVnPayQueryDrDate text = .error .malformedResponse := by
  refine ⟨_, formatVnPayDate_text t, parse_refused _ ?_⟩
  intro l clipped
  by_contra within
  push Not at within
  exact outside ⟨getUTCFullYear l, by rw [localYear, clipped, Option.map_some], within⟩

/-- Canonical texts, signatures, amounts and dates are read back as what they were written from. -/
theorem vnPay_encoding (hmac : Units → Units → Units) :
    Canonical canonicalizeVnPayParams Params.pairs ∧ Canonical canonicalizeVnPayIpnParams Params.ipnPairs ∧
      (∀ params received secret secureHash text, canonicalizeVnPayParams params = some text →
        Signed hmac secret secureHash text → CollisionFree hmac secret text received →
        (verifyVnPaySignature hmac received secureHash secret = some true ↔ received.ipnPairs.Perm params.pairs)) ∧
      (∀ amountMinor, 0 < amountMinor → amountMinor * 100 ≤ vnpayAmountMax →
        ∃ text, amountMinorToVnPay amountMinor = .ok text ∧ parseQueryDrAmount text = .ok amountMinor) ∧
      (∀ t, Representable t → Expressible t →
        ∃ text, formatVnPayDate (some t) = .ok text ∧ parseVnPayQueryDrDate text = .ok (wholeSeconds t)) ∧
      (∀ t, ¬ Expressible t →
        ∃ text, formatVnPayDate (some t) = .ok text ∧ parseVnPayQueryDrDate text = .error .malformedResponse) :=
  ⟨params_canonical, ipn_canonical, verified_iff hmac, amount_roundtrip, date_read, date_refused⟩

def sampleParams : Params where
  entries := [(ascii "vnp_TxnRef", ascii "42"), (ascii "vnp_Amount", ascii "1990000"),
    (ascii "vnp_OrderInfo", [75, 104, 0xF3, 97, 32, 104, 0x1ECD, 99, 32, 40, 65, 38, 66, 41])]
  names := by decide +kernel

def sampleQuery : Units :=
  ascii "vnp_Amount=1990000&vnp_OrderInfo=Kh%C3%B3a+h%E1%BB%8Dc+%28A%26B%29&vnp_TxnRef=42"

def sampleHash : Units :=
  ascii "1023071beec7ff2083a250c59cd4cae573569c37595688c72584436f471653b21e9d5bb75dea27059d4cca1e5135a0e7862e5fffeb1ccf2cf128e568a5185596"

def sampleHmac (secret text : Units) : Units :=
  if secret = ascii "SECRETKEY" ∧ text = sampleQuery then sampleHash else []

def sampleReceived : Params where
  entries := [(ascii "vnp_SecureHash", sampleHash), (ascii "vnp_OrderInfo", [75, 104, 0xF3, 97, 32, 104, 0x1ECD, 99, 32, 40, 65, 38, 66, 41]),
    (ascii "vnp_BankCode", []), (ascii "vnp_Amount", ascii "1990000"), (ascii "vnp_TxnRef", ascii "42")]
  names := by decide +kernel

theorem sample_query : canonicalizeVnPayParams sampleParams = some sampleQuery := by
  decide +kernel

theorem sample_received : canonicalizeVnPayIpnParams sampleReceived = some sampleQuery := by
  decide +kernel

theorem vnPay_encoding_sample :
    (verifyVnPaySignature sampleHmac sampleReceived sampleHash (ascii "SECRETKEY") = some true ↔
      sampleReceived.ipnPairs.Perm sampleParams.pairs) ∧
    (∃ text, amountMinorToVnPay 19900 = .ok text ∧ parseQueryDrAmount text = .ok 19900) ∧
    (∃ text, formatVnPayDate (some 1735664400123) = .ok text ∧ parseVnPayQueryDrDate text = .ok (wholeSeconds 1735664400123)) :=
  ⟨(vnPay_encoding sampleHmac).2.2.1 sampleParams sampleReceived (ascii "SECRETKEY") sampleHash sampleQuery sample_query
      ⟨by decide, by decide +kernel, by decide +kernel⟩
      (fun other digested _ => Option.some.inj (digested.symm.trans sample_received)),
    (vnPay_encoding sampleHmac).2.2.2.1 19900 (by decide) (by decide),
    (vnPay_encoding sampleHmac).2.2.2.2.1 1735664400123 (by decide) ⟨2025, by decide +kernel, by decide, by decide⟩⟩

-- One millisecond before the year 1970 of the local clock.
theorem early_instant_refused : Representable (-25200001) ∧
    (∃ text, formatVnPayDate (some (-25200001)) = .ok text ∧ parseVnPayQueryDrDate text = .error .malformedResponse) := by
  refine ⟨by decide, ascii "19691231235959", ?_, ?_⟩
  · decide +kernel
  · decide +kernel

end EduAi.Payments.VnPay
