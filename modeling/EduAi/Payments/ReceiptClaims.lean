import EduAi.Payments.ReceiptTimes

set_option autoImplicit false

namespace EduAi.Payments.Receipts

open EduAi.Store

theorem receipt_reading (unicode : Unicode) :
    (∀ text others : Units, (splitLines others).Perm (splitLines text) →
      parseReceiptOcrText unicode others = parseReceiptOcrText unicode text) ∧
    (∀ (text : Units) (field : FieldName), (parseReceiptOcrText unicode text).fields.get field ≠ none →
      ((splitLines text).filter (carries unicode field)).length = 1) ∧
    (∀ (text : Units) (expected : ReceiptExpectedFacts) (assessedAt : Option Int),
      (assessReceiptClaim unicode expected (parseReceiptOcrText unicode text).fields assessedAt).status = .matchedClaim →
        Fits unicode expected assessedAt (parseReceiptOcrText unicode text).fields) ∧
    (∀ (text others line : Units) (field : FieldName) (expected : ReceiptExpectedFacts) (assessedAt : Option Int),
      field ≠ .transactionId → carries unicode field line = true → (splitLines others).Perm (line :: splitLines text) →
      (assessReceiptClaim unicode expected (parseReceiptOcrText unicode text).fields assessedAt).status = .matchedClaim →
        (assessReceiptClaim unicode expected (parseReceiptOcrText unicode others).fields assessedAt).status = .reviewRequired) ∧
    ∀ value text : Units, parseTime value = some text →
      ∃ parts, timeParts value = some parts ∧ parseReceiptTimestamp (some text) = some (receiptInstant parts) := by
  refine ⟨?_, ?_, ?_, ?_, parseTime_instant⟩
  · intro text others perm
    exact parse_perm unicode _ _ perm
  · intro text field found
    exact get_unique unicode _ field found
  · intro text expected assessedAt matched
    exact agrees_fits unicode expected assessedAt _ (matched_agrees unicode expected _ assessedAt matched)
  · intro text others line field expected assessedAt required carried added matched
    exact added_line_reviewed unicode expected assessedAt _ _ line field required carried added matched

def asciiUnicode : Unicode where
  nfd := id
  nfc := id
  toUpperCase := List.map upperLetter
  isLetterOrNumber p := decide (48 ≤ p ∧ p ≤ 57) || decide (65 ≤ p ∧ p ≤ 90) || decide (97 ≤ p ∧ p ≤ 122)
  toUpperCase_ascii _ _ := rfl
  nfc_trim _ whole := whole

def receiptLines : List Units :=
  [ascii "Ngan hang thu huong: MB", ascii "So tai khoan nhan: 000123456789", ascii "Ten nguoi nhan: Cong ty giao duc",
    ascii "So tien: 150.000 VND", ascii "Noi dung chuyen khoan: EDUAI TEST123",
    ascii "Thoi gian giao dich: 23/10/2026 13:05:06 +07:00", ascii "Ma giao dich: SYNTHETIC-123"]

def receiptText (lines : List Units) : Units :=
  [(10 : UInt16)].intercalate lines

-- An order that is open on 2026-10-23 from 06:00 to 07:00 UTC.
def orderFacts : ReceiptExpectedFacts where
  bankBin := ascii "970422"
  accountNumber := ascii "000123456789"
  beneficiaryName := ascii "CONG TY GIAO DUC"
  amountMinor := ascii "150000"
  transferContent := ascii "EDUAI TEST123"
  createdAt := 1792735200000
  expiresAt := 1792738800000

def secondAmount : Units :=
  ascii "Amount: 150,000 VND"

theorem receipt_reading_sample :
    parseReceiptOcrText asciiUnicode (receiptText receiptLines.reverse) = parseReceiptOcrText asciiUnicode (receiptText receiptLines) ∧
    ((splitLines (receiptText receiptLines)).filter (carries asciiUnicode .amountMinor)).length = 1 ∧
    Fits asciiUnicode orderFacts (some 1792736000000) (parseReceiptOcrText asciiUnicode (receiptText receiptLines)).fields ∧
    (assessReceiptClaim asciiUnicode orderFacts
      (parseReceiptOcrText asciiUnicode (receiptText (secondAmount :: receiptLines))).fields (some 1792736000000)).status =
        .reviewRequired ∧
    ∃ parts, timeParts (ascii "23/10/2026 13:05:06 +07:00") = some parts ∧
      parseReceiptTimestamp (some (ascii "2026-10-23T13:05:06+07:00")) = some (receiptInstant parts) := by
  obtain ⟨permuted, unique, fits, reviewed, instant⟩ := receipt_reading asciiUnicode
  have matched : (assessReceiptClaim asciiUnicode orderFacts (parseReceiptOcrText asciiUnicode (receiptText receiptLines)).fields
      (some 1792736000000)).status = .matchedClaim := by
    decide +kernel
  refine ⟨permuted _ _ ?_, unique _ _ (by decide +kernel), fits _ _ _ matched,
    reviewed _ _ secondAmount .amountMinor _ _ (by decide) (by decide +kernel) ?_ matched, instant _ _ (by decide +kernel)⟩
  · have same : splitLines (receiptText receiptLines.reverse) = receiptLines.reverse ∧
        splitLines (receiptText receiptLines) = receiptLines := by
      decide +kernel
    rw [same.1, same.2]
    exact List.reverse_perm receiptLines
  · have same : splitLines (receiptText (secondAmount :: receiptLines)) = secondAmount :: splitLines (receiptText receiptLines) := by
      decide +kernel
    rw [same]

end EduAi.Payments.Receipts
