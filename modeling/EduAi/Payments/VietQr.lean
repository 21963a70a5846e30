import EduAi.Store.Crc
import EduAi.Store.Tlv

set_option autoImplicit false

namespace EduAi.Payments

open EduAi.Store

-- /^[...]{least,most}$/ for a class of code units.
def matchesClass (p : UInt16 → Bool) (least most : Nat) (s : Units) : Bool :=
  decide (least ≤ s.length ∧ s.length ≤ most) && s.all p

def isContentUnit (c : UInt16) : Bool :=
  decide (65 ≤ c.toNat ∧ c.toNat ≤ 90) || Store.isDigit c

def numberMaxSafeInteger : Int := 9007199254740991

def tlv (id value : Units) : Units :=
  id ++ padStart 2 (decimal value.length) ++ value

def asciiBytes (s : Units) : List (BitVec 8) :=
  s.map (fun c => BitVec.ofNat 8 c.toNat)

-- The register has 16 bits: 0x8000 is its top bit, and masking with 0xffff keeps its width.
def crc16 (s : Units) : BitVec 16 :=
  crc 0x1021#16 0xFFFF#16 (asciiBytes s)

def hexUnit (d : Nat) : UInt16 :=
  if d < 10 then digitUnit d else UInt16.ofNat (55 + d)

-- toString(16).toUpperCase()
def hexadecimal (n : Nat) : Units :=
  if n = 0 then [hexUnit 0] else (Nat.digits 16 n).reverse.map hexUnit

def vietQrMerchant (bankBin account : Units) : Units :=
  tlv (ascii "00") (ascii "A000000727") ++ tlv (ascii "01") (tlv (ascii "00") bankBin ++ tlv (ascii "01") account) ++
    tlv (ascii "02") (ascii "QRIBFTTA")

def vietQrBody (bankBin account : Units) (amount : Int) (content : Units) : Units :=
  tlv (ascii "00") (ascii "01") ++ tlv (ascii "01") (ascii "12") ++ tlv (ascii "38") (vietQrMerchant bankBin account) ++
    tlv (ascii "53") (ascii "704") ++ tlv (ascii "54") (decimal amount.toNat) ++ tlv (ascii "58") (ascii "VN") ++
    tlv (ascii "62") (tlv (ascii "08") content) ++ ascii "6304"

def vietQrCheck (body : Units) : Units :=
  padStart 4 (hexadecimal (crc16 body).toNat)

def createVietQrPayload (bankBin account : Units) (amount : Int) (content : Units) : Except String Units :=
  if ¬ matchesClass Store.isDigit 6 6 bankBin ∨ ¬ matchesClass Store.isDigit 6 19 account ∨ amount ≤ 0 ∨ amount > numberMaxSafeInteger ∨
      ¬ matchesClass isContentUnit 6 25 content then
    .error "Invalid VietQR facts."
  else
    let value := vietQrBody bankBin account amount content
    .ok (value ++ vietQrCheck value)

structure VietQrFacts where
  bankBin : Units
  account : Units
  amount : Int
  content : Units
deriving DecidableEq, Repr

def fieldOf (tag : Units) (fields : List (Units × Units)) : Option Units :=
  (fields.find? (fun field => field.1 = tag)).map (·.2)

def readVietQr (payload : Units) : Option VietQrFacts := do
  let fields ← tlvFields payload
  let merchant ← (fieldOf (ascii "38") fields).bind tlvFields
  let beneficiary ← (fieldOf (ascii "01") merchant).bind tlvFields
  let additional ← (fieldOf (ascii "62") fields).bind tlvFields
  let bankBin ← fieldOf (ascii "00") beneficiary
  let account ← fieldOf (ascii "01") beneficiary
  let amount ← fieldOf (ascii "54") fields
  let content ← fieldOf (ascii "08") additional
  return { bankBin, account, amount := Store.digitsValue amount, content }

structure VietQrAccepted (bankBin account : Units) (amount : Int) (content : Units) : Prop where
  bankBin : matchesClass Store.isDigit 6 6 bankBin = true
  account : matchesClass Store.isDigit 6 19 account = true
  positive : 0 < amount
  safe : amount ≤ numberMaxSafeInteger
  content : matchesClass isContentUnit 6 25 content = true

theorem createVietQrPayload_ok (bankBin account : Units) (amount : Int) (content payload : Units)
    (ok : createVietQrPayload bankBin account amount content = .ok payload) :
    VietQrAccepted bankBin account amount content ∧
      payload = vietQrBody bankBin account amount content ++ vietQrCheck (vietQrBody bankBin account amount content) := by
  rw [createVietQrPayload] at ok
  split at ok
  · cases ok
  · rename_i passed
    push Not at passed
    obtain ⟨bin, number, positive, safe, text⟩ := passed
    exact ⟨⟨bin, number, positive, safe, text⟩, (Except.ok.inj ok).symm⟩

theorem matchesClass_length (p : UInt16 → Bool) (least most : Nat) (s : Units) (ok : matchesClass p least most s = true) :
    least ≤ s.length ∧ s.length ≤ most := by
  rw [matchesClass, Bool.and_eq_true, decide_eq_true_eq] at ok
  exact ok.1

theorem tlv_length (id value : Units) (two : id.length = 2) (short : value.length < 100) :
    (tlv id value).length = 4 + value.length := by
  have digits := padStart_length 2 (decimal value.length) (decimal_length_le value.length 2 (by omega) (by omega))
  rw [tlv, List.length_append, List.length_append, digits, two]

theorem tlv_fields (id value rest : Units) (fields : List (Units × Units)) (two : id.length = 2) (short : value.length < 100)
    (grammar : Fields rest fields) : Fields (tlv id value ++ rest) ((id, value) :: fields) := by
  refine .field id _ value rest fields two ?_ ?_ ?_ grammar
  · exact padStart_length 2 _ (decimal_length_le value.length 2 (by omega) (by omega))
  · exact padStart_digits 2 _ (decimal_digits value.length)
  · rw [digitsValue_padStart, digitsValue_decimal]

theorem tlv_last (id value : Units) (two : id.length = 2) (short : value.length < 100) :
    Fields (tlv id value) [(id, value)] := by
  have grammar := tlv_fields id value [] [] two short .none
  rw [List.append_nil] at grammar
  exact grammar

theorem hexadecimal_length (n : Nat) (small : n < 16 ^ 4) : (hexadecimal n).length ≤ 4 := by
  rw [hexadecimal]
  by_cases zero : n = 0
  · rw [if_pos zero, List.length_singleton]
    omega
  · rw [if_neg zero, List.length_map, List.length_reverse]
    exact (Nat.digits_length_le_iff (by omega) n).mpr small

theorem vietQrCheck_length (body : Units) : (vietQrCheck body).length = 4 :=
  padStart_length 4 _ (hexadecimal_length _ (crc16 body).isLt)

theorem vietQrCheck_tlv (body : Units) : ascii "6304" ++ vietQrCheck body = tlv (ascii "63") (vietQrCheck body) := by
  rw [tlv, vietQrCheck_length]
  have header : ascii "6304" = ascii "63" ++ padStart 2 (decimal 4) := by decide +kernel
  rw [header]

section Accepted

variable (bankBin account : Units) (amount : Int) (content : Units)

def beneficiaryFields : List (Units × Units) :=
  [(ascii "00", bankBin), (ascii "01", account)]

def merchantFields : List (Units × Units) :=
  [(ascii "00", ascii "A000000727"), (ascii "01", tlv (ascii "00") bankBin ++ tlv (ascii "01") account),
    (ascii "02", ascii "QRIBFTTA")]

def payloadFields : List (Units × Units) :=
  [(ascii "00", ascii "01"), (ascii "01", ascii "12"), (ascii "38", vietQrMerchant bankBin account),
    (ascii "53", ascii "704"), (ascii "54", decimal amount.toNat), (ascii "58", ascii "VN"),
    (ascii "62", tlv (ascii "08") content), (ascii "63", vietQrCheck (vietQrBody bankBin account amount content))]

variable (accepted : VietQrAccepted bankBin account amount content)

include accepted in
theorem beneficiary_grammar :
    Fields (tlv (ascii "00") bankBin ++ tlv (ascii "01") account) (beneficiaryFields bankBin account) ∧
      (tlv (ascii "00") bankBin ++ tlv (ascii "01") account).length ≤ 33 := by
  have bin := matchesClass_length _ _ _ _ accepted.bankBin
  have number := matchesClass_length _ _ _ _ accepted.account
  constructor
  · exact tlv_fields _ _ _ _ rfl (by omega) (tlv_last _ _ rfl (by omega))
  · rw [List.length_append, tlv_length _ _ rfl (by omega), tlv_length _ _ rfl (by omega)]
    omega

include accepted in
theorem merchant_grammar : Fields (vietQrMerchant bankBin account) (merchantFields bankBin account) ∧
    (vietQrMerchant bankBin account).length ≤ 63 := by
  have inner := (beneficiary_grammar bankBin account amount content accepted).2
  rw [vietQrMerchant, List.append_assoc]
  constructor
  · exact tlv_fields _ _ _ _ rfl (by decide) (tlv_fields _ _ _ _ rfl (by omega) (tlv_last _ _ rfl (by decide)))
  · rw [List.length_append, List.length_append, tlv_length _ _ rfl (by decide), tlv_length _ _ rfl (by omega),
      tlv_length _ _ rfl (by decide)]
    have first : (ascii "A000000727").length = 10 := rfl
    have last : (ascii "QRIBFTTA").length = 8 := rfl
    omega

include accepted in
theorem additional_grammar : Fields (tlv (ascii "08") content) [(ascii "08", content)] ∧
    (tlv (ascii "08") content).length ≤ 29 := by
  have text := matchesClass_length _ _ _ _ accepted.content
  constructor
  · exact tlv_last _ _ rfl (by omega)
  · rw [tlv_length _ _ rfl (by omega)]
    omega

include accepted in
theorem payload_grammar : Fields (vietQrBody bankBin account amount content ++
    vietQrCheck (vietQrBody bankBin account amount content)) (payloadFields bankBin account amount content) := by
  have merchant := (merchant_grammar bankBin account amount content accepted).2
  have additional := (additional_grammar bankBin account amount content accepted).2
  have digits : (decimal amount.toNat).length ≤ 16 := by
    have safe := accepted.safe
    unfold numberMaxSafeInteger at safe
    exact decimal_length_le _ 16 (by omega) (by omega)
  have check := vietQrCheck_length (vietQrBody bankBin account amount content)
  have shape : vietQrBody bankBin account amount content ++ vietQrCheck (vietQrBody bankBin account amount content) =
      tlv (ascii "00") (ascii "01") ++ (tlv (ascii "01") (ascii "12") ++ (tlv (ascii "38") (vietQrMerchant bankBin account) ++
        (tlv (ascii "53") (ascii "704") ++ (tlv (ascii "54") (decimal amount.toNat) ++ (tlv (ascii "58") (ascii "VN") ++
          (tlv (ascii "62") (tlv (ascii "08") content) ++
            tlv (ascii "63") (vietQrCheck (vietQrBody bankBin account amount content)))))))) := by
    rw [← vietQrCheck_tlv]
    generalize vietQrCheck (vietQrBody bankBin account amount content) = last
    simp only [vietQrBody, List.append_assoc]
  rw [shape]
  exact tlv_fields _ _ _ _ rfl (by decide) (tlv_fields _ _ _ _ rfl (by decide) (tlv_fields _ _ _ _ rfl (by omega)
    (tlv_fields _ _ _ _ rfl (by decide) (tlv_fields _ _ _ _ rfl (by omega) (tlv_fields _ _ _ _ rfl (by decide)
      (tlv_fields _ _ _ _ rfl (by omega) (tlv_last _ _ rfl (by omega))))))))

include accepted in
theorem readVietQr_payload : readVietQr (vietQrBody bankBin account amount content ++
    vietQrCheck (vietQrBody bankBin account amount content)) = some { bankBin, account, amount, content } := by
  have outer := (tlvFields_iff _ _).mpr (payload_grammar bankBin account amount content accepted)
  have merchant := (tlvFields_iff _ _).mpr (merchant_grammar bankBin account amount content accepted).1
  have inner := (tlvFields_iff _ _).mpr (beneficiary_grammar bankBin account amount content accepted).1
  have additional := (tlvFields_iff _ _).mpr (additional_grammar bankBin account amount content accepted).1
  have positive := accepted.positive
  have merchantField : fieldOf (ascii "38") (payloadFields bankBin account amount content) =
      some (vietQrMerchant bankBin account) := rfl
  have beneficiaryField : fieldOf (ascii "01") (merchantFields bankBin account) =
      some (tlv (ascii "00") bankBin ++ tlv (ascii "01") account) := rfl
  have additionalField : fieldOf (ascii "62") (payloadFields bankBin account amount content) =
      some (tlv (ascii "08") content) := rfl
  have amountField : fieldOf (ascii "54") (payloadFields bankBin account amount content) = some (decimal amount.toNat) := rfl
  have binField : fieldOf (ascii "00") (beneficiaryFields bankBin account) = some bankBin := rfl
  have accountField : fieldOf (ascii "01") (beneficiaryFields bankBin account) = some account := rfl
  have contentField : fieldOf (ascii "08") [(ascii "08", content)] = some content := rfl
  have value : (Store.digitsValue (decimal amount.toNat) : Int) = amount := by
    rw [digitsValue_decimal]
    omega
  unfold readVietQr
  rw [outer]
  simp only [Option.bind_eq_bind, Option.bind_some, merchantField, merchant, beneficiaryField, inner, additionalField,
    additional, binField, accountField, amountField, contentField, value]
  rfl

theorem isDigit_ascii (c : UInt16) (digit : Store.isDigit c = true) : c.toNat < 128 := by
  have range := of_decide_eq_true digit
  omega

theorem isContentUnit_ascii (c : UInt16) (unit : isContentUnit c = true) : c.toNat < 128 := by
  rw [isContentUnit, Bool.or_eq_true, decide_eq_true_eq] at unit
  rcases unit with letter | digit
  · omega
  · exact isDigit_ascii c digit

theorem matchesClass_mem (p : UInt16 → Bool) (least most : Nat) (s : Units) (ok : matchesClass p least most s = true) :
    ∀ c ∈ s, p c = true := by
  rw [matchesClass, Bool.and_eq_true] at ok
  exact List.all_eq_true.mp ok.2

theorem tlv_ascii (id value : Units) (idAscii : ∀ c ∈ id, c.toNat < 128) (valueAscii : ∀ c ∈ value, c.toNat < 128) :
    ∀ c ∈ tlv id value, c.toNat < 128 := by
  intro c member
  rcases List.mem_append.mp member with front | inValue
  · rcases List.mem_append.mp front with inId | inLength
    · exact idAscii c inId
    · exact isDigit_ascii c (padStart_digits 2 _ (decimal_digits value.length) c inLength)
  · exact valueAscii c inValue

theorem append_ascii (a b : Units) (first : ∀ c ∈ a, c.toNat < 128) (second : ∀ c ∈ b, c.toNat < 128) :
    ∀ c ∈ a ++ b, c.toNat < 128 := by
  intro c member
  rcases List.mem_append.mp member with inA | inB
  · exact first c inA
  · exact second c inB

include accepted in
theorem vietQrBody_ascii : ∀ c ∈ vietQrBody bankBin account amount content, c.toNat < 128 := by
  have bin : ∀ c ∈ bankBin, c.toNat < 128 := fun c m => isDigit_ascii c (matchesClass_mem _ _ _ _ accepted.bankBin c m)
  have number : ∀ c ∈ account, c.toNat < 128 := fun c m => isDigit_ascii c (matchesClass_mem _ _ _ _ accepted.account c m)
  have text : ∀ c ∈ content, c.toNat < 128 := fun c m => isContentUnit_ascii c (matchesClass_mem _ _ _ _ accepted.content c m)
  have digits : ∀ c ∈ decimal amount.toNat, c.toNat < 128 := fun c m => isDigit_ascii c (decimal_digits _ c m)
  have fixed : ∀ t ∈ ["00", "01", "02", "08", "12", "38", "53", "54", "58", "62", "704", "VN", "6304", "A000000727", "QRIBFTTA"],
      (ascii t).all (fun c => decide (c.toNat < 128)) = true := by
    decide +kernel
  have plain (t : String) (listed : t ∈ ["00", "01", "02", "08", "12", "38", "53", "54", "58", "62", "704", "VN", "6304",
      "A000000727", "QRIBFTTA"]) : ∀ c ∈ ascii t, c.toNat < 128 := each_of_all _ _ (fixed t listed)
  have constant (t : String) (listed : t ∈ ["00", "01", "02", "08", "12", "38", "53", "54", "58", "62", "704", "VN", "6304",
      "A000000727", "QRIBFTTA"]) (value : Units) (inner : ∀ c ∈ value, c.toNat < 128) :
      ∀ c ∈ tlv (ascii t) value, c.toNat < 128 := tlv_ascii _ _ (plain t listed) inner
  have merchant : ∀ c ∈ vietQrMerchant bankBin account, c.toNat < 128 :=
    append_ascii _ _ (append_ascii _ _ (constant "00" (by simp) _ (plain _ (by simp)))
      (constant "01" (by simp) _ (append_ascii _ _ (constant "00" (by simp) _ bin) (constant "01" (by simp) _ number))))
      (constant "02" (by simp) _ (plain _ (by simp)))
  exact append_ascii _ _ (append_ascii _ _ (append_ascii _ _ (append_ascii _ _ (append_ascii _ _ (append_ascii _ _
    (append_ascii _ _ (constant "00" (by simp) _ (plain _ (by simp))) (constant "01" (by simp) _ (plain _ (by simp))))
      (constant "38" (by simp) _ merchant)) (constant "53" (by simp) _ (plain _ (by simp))))
        (constant "54" (by simp) _ digits)) (constant "58" (by simp) _ (plain _ (by simp))))
          (constant "62" (by simp) _ (constant "08" (by simp) _ text))) (plain _ (by simp))

end Accepted

open Polynomial in
theorem ccitt_generator : generator 0x1021#16 = X ^ 16 + X ^ 12 + X ^ 5 + 1 := by
  have bits : bitPoly 0x1021#16 = X ^ 12 + X ^ 5 + 1 := by
    unfold bitPoly
    simp only [Finset.sum_range_succ, Finset.sum_range_zero]
    simp
    ring
  rw [generator, bits]
  ring

-- CRC-16/CCITT-FALSE of a text: the remainder of its bytes, shifted by 16 bits and with 0xFFFF added at the front.
open Polynomial in
noncomputable def ccittRemainder (body : Units) : Polynomial (ZMod 2) :=
  (X ^ (8 * body.length) * bitPoly 0xFFFF#16 + X ^ 16 * messagePoly (asciiBytes body)) %ₘ (X ^ 16 + X ^ 12 + X ^ 5 + 1)

theorem crc16_remainder (body : Units) : bitPoly (crc16 body) = ccittRemainder body := by
  have remainder := crc_remainder (by omega) 0x1021#16 0xFFFF#16 (asciiBytes body)
  rw [ccitt_generator, asciiBytes, List.length_map] at remainder
  exact remainder

-- The check value of CRC-16/CCITT-FALSE.
example : crc16 (ascii "123456789") = 0x29B1#16 := by
  decide +kernel

theorem vietQr_roundtrip (bankBin account : Units) (amount : Int) (content payload : Units)
    (ok : createVietQrPayload bankBin account amount content = .ok payload) :
    (∃ merchant beneficiary number additional check,
      Fields payload [(ascii "00", ascii "01"), (ascii "01", ascii "12"), (ascii "38", merchant), (ascii "53", ascii "704"),
        (ascii "54", number), (ascii "58", ascii "VN"), (ascii "62", additional), (ascii "63", check)] ∧
      Fields merchant [(ascii "00", ascii "A000000727"), (ascii "01", beneficiary), (ascii "02", ascii "QRIBFTTA")] ∧
      Fields beneficiary [(ascii "00", bankBin), (ascii "01", account)] ∧ Fields additional [(ascii "08", content)] ∧
      (Store.digitsValue number : Int) = amount) ∧
    readVietQr payload = some { bankBin, account, amount, content } ∧
    (∀ bankBin' account' amount' content', createVietQrPayload bankBin' account' amount' content' = .ok payload →
      bankBin' = bankBin ∧ account' = account ∧ amount' = amount ∧ content' = content) ∧
    ∃ body check, payload = body ++ check ∧ check = padStart 4 (hexadecimal (crc16 body).toNat) ∧ check.length = 4 ∧
      (∀ c ∈ body, c.toNat < 128) ∧ bitPoly (crc16 body) = ccittRemainder body := by
  obtain ⟨accepted, shape⟩ := createVietQrPayload_ok bankBin account amount content payload ok
  have read : readVietQr payload = some { bankBin, account, amount, content } := by
    rw [shape]
    exact readVietQr_payload bankBin account amount content accepted
  refine ⟨?_, read, ?_, ?_⟩
  · have positive := accepted.positive
    refine ⟨vietQrMerchant bankBin account, tlv (ascii "00") bankBin ++ tlv (ascii "01") account, decimal amount.toNat,
      tlv (ascii "08") content, vietQrCheck (vietQrBody bankBin account amount content), ?_,
      (merchant_grammar bankBin account amount content accepted).1, (beneficiary_grammar bankBin account amount content accepted).1,
      (additional_grammar bankBin account amount content accepted).1, ?_⟩
    · rw [shape]
      exact payload_grammar bankBin account amount content accepted
    · rw [digitsValue_decimal]
      omega
  · intro bankBin' account' amount' content' other
    obtain ⟨accepted', shape'⟩ := createVietQrPayload_ok bankBin' account' amount' content' payload other
    have again := readVietQr_payload bankBin' account' amount' content' accepted'
    rw [← shape', read] at again
    obtain ⟨sameBin, sameAccount, sameAmount, sameContent⟩ := VietQrFacts.mk.inj (Option.some.inj again)
    exact ⟨sameBin.symm, sameAccount.symm, sameAmount.symm, sameContent.symm⟩
  · exact ⟨_, _, shape, rfl, vietQrCheck_length _, vietQrBody_ascii bankBin account amount content accepted,
      crc16_remainder _⟩

theorem vietQr_roundtrip_sample : ∃ payload,
    createVietQrPayload (ascii "970422") (ascii "0000000000") 125000 (ascii "EDUAI0123456789") = .ok payload ∧
      readVietQr payload = some
        { bankBin := ascii "970422", account := ascii "0000000000", amount := 125000, content := ascii "EDUAI0123456789" } := by
  have ok : createVietQrPayload (ascii "970422") (ascii "0000000000") 125000 (ascii "EDUAI0123456789") =
      .ok (vietQrBody (ascii "970422") (ascii "0000000000") 125000 (ascii "EDUAI0123456789") ++
        vietQrCheck (vietQrBody (ascii "970422") (ascii "0000000000") 125000 (ascii "EDUAI0123456789"))) := by
    rw [createVietQrPayload, if_neg (by decide +kernel)]
  exact ⟨_, ok, (vietQr_roundtrip _ _ _ _ _ ok).2.1⟩

end EduAi.Payments
