import EduAi.Store.Decimal
import EduAi.Store.UtcTime

set_option autoImplicit false

namespace EduAi.Payments.Receipts

open EduAi.Store

-- Normalization, case and letters by the tables of Unicode; toUpperCase on ASCII and trimmed texts under NFC are as documented.
structure Unicode where
  nfd : Units → Units
  nfc : Units → Units
  toUpperCase : Units → Units
  isLetterOrNumber : Nat → Bool
  toUpperCase_ascii : ∀ s : Units, (∀ c ∈ s, c.toNat < 128) →
    toUpperCase s = s.map (fun c => if 97 ≤ c.toNat ∧ c.toNat ≤ 122 then c - 32 else c)
  nfc_trim : ∀ s : Units, trim s = s → trim (nfc s) = nfc s

structure ReceiptClaimFields where
  bankBin : Option Units
  accountNumber : Option Units
  beneficiaryName : Option Units
  amountMinor : Option Units
  transferContent : Option Units
  occurredAt : Option Units
  transactionId : Option Units
deriving DecidableEq

structure ReceiptExpectedFacts where
  bankBin : Units
  accountNumber : Units
  beneficiaryName : Units
  amountMinor : Units
  transferContent : Units
  createdAt : Int
  expiresAt : Int

inductive ReceiptStatus where
  | matchedClaim
  | reviewRequired
deriving DecidableEq

inductive ReceiptWarning where
  | customerImageNotBankProof
  | bankMismatch
  | accountMismatch
  | beneficiaryMismatch
  | amountMismatch
  | contentMismatch
  | timeMismatch
  | transactionIdMissing
  | transactionIdInvalid
deriving DecidableEq

structure ReceiptAssessment where
  status : ReceiptStatus
  financialProof : Bool
  warnings : List ReceiptWarning
  normalized : ReceiptClaimFields
deriving DecidableEq

def isCombining (c : UInt16) : Bool :=
  decide (0x300 ≤ c.toNat ∧ c.toNat ≤ 0x36F)

def collapseSpaces (s : Units) : Units :=
  replaceRuns isSpace blank s

def trimmed (value : Option Units) : Option Units :=
  (value.map trim).filter (fun s => s ≠ [])

section Readers

def takeDigits (n : Nat) (s : Units) : Option (Units × Units) :=
  if (s.take n).length = n ∧ (s.take n).all Store.isDigit = true then some (s.take n, s.drop n) else none

def takeMark (mark : UInt16) : Units → Option Units
  | [] => none
  | c :: rest => if c = mark then some rest else none

structure TimeParts where
  year : Units
  month : Units
  day : Units
  hour : Units
  minute : Units
  second : Units
deriving DecidableEq

-- hh:mm:ss
def takeClock (s : Units) : Option ((Units × Units × Units) × Units) := do
  let (hour, s) ← takeDigits 2 s
  let s ← takeMark 58 s
  let (minute, s) ← takeDigits 2 s
  let s ← takeMark 58 s
  let (second, s) ← takeDigits 2 s
  return ((hour, minute, second), s)

-- yyyy-mm-dd
def takeDate (s : Units) : Option ((Units × Units × Units) × Units) := do
  let (year, s) ← takeDigits 4 s
  let s ← takeMark 45 s
  let (month, s) ← takeDigits 2 s
  let s ← takeMark 45 s
  let (day, s) ← takeDigits 2 s
  return ((year, month, day), s)

end Readers

def number (digits : Units) : Int :=
  Store.digitsValue digits

-- Date.UTC(year, month, 0): the last day of a month counted from one.
def lastDay (year month : Int) : Option Int :=
  (dateTimeUTC year month 0 0 0 0).map getUTCDate

def outOfRange (parts : TimeParts) : Bool :=
  number parts.year < 2000 ∨ number parts.month < 1 ∨ 12 < number parts.month ∨ number parts.day < 1 ∨
    (∃ last ∈ lastDay (number parts.year) (number parts.month), last < number parts.day) ∨ 23 < number parts.hour ∨
    59 < number parts.minute ∨ 59 < number parts.second

inductive Offset where
  | utc
  | zone (ahead : Bool) (hour minute : Units)

-- Z, or a sign and hh:mm with at most fourteen hours, at the end of the text.
def takeOffset : Units → Option Offset
  | [] => none
  | c :: rest =>
      if c = 90 ∧ rest = [] then some .utc
      else if c = 43 ∨ c = 45 then do
        let (hour, rest) ← takeDigits 2 rest
        let rest ← takeMark 58 rest
        let (minute, rest) ← takeDigits 2 rest
        if rest = [] ∧ number hour ≤ 14 ∧ number minute ≤ 59 then some (.zone (c = 43) hour minute) else none
      else none

-- (?:\.\d{1,3})?
def takeFraction : Units → Option (Units × Units)
  | [] => some ([], [])
  | c :: rest =>
      if c = 46 then
        let digits := rest.takeWhile Store.isDigit
        if 1 ≤ digits.length ∧ digits.length ≤ 3 then some (digits, rest.dropWhile Store.isDigit) else none
      else some ([], c :: rest)

def timestampParts (value : Units) : Option (TimeParts × Units × Offset) := do
  let ((year, month, day), rest) ← takeDate value
  let rest ← takeMark 84 rest
  let ((hour, minute, second), rest) ← takeClock rest
  let (fraction, rest) ← takeFraction rest
  let offset ← takeOffset rest
  return ({ year := year, month := month, day := day, hour := hour, minute := minute, second := second }, fraction, offset)

def milliseconds (fraction : Units) : Int :=
  number (fraction ++ List.replicate (3 - fraction.length) 48)

def offsetMs : Offset → Int
  | .utc => 0
  | .zone ahead hour minute =>
      let ms := number hour * 3600000 + number minute * 60000
      if ahead then ms else -ms

def clockTime (parts : TimeParts) : Int :=
  makeDate (makeDay (number parts.year) (number parts.month - 1) (number parts.day))
    (makeTime (number parts.hour) (number parts.minute) (number parts.second))

def beyondFourteen : Offset → Bool
  | .utc => false
  | .zone _ hour minute => number hour = 14 ∧ minute ≠ [48, 48]

def parseReceiptTimestamp (value : Option Units) : Option Int := do
  let text ← value
  let (parts, fraction, offset) ← timestampParts text
  if outOfRange parts || beyondFourteen offset then none
  else timeClip (clockTime parts + milliseconds fraction - offsetMs offset)

-- toISOString of an instant that a year of four digits gives; near the end of the year 9999 the year may have a sign.
def isoText (t : Int) : Units :=
  let field (width : Nat) (n : Int) : Units := padStart width (decimal n.toNat)
  let year := getUTCFullYear t
  (if 9999 < year then 43 :: field 6 year else field 4 year) ++ 45 :: field 2 (getUTCMonth t + 1) ++ 45 :: field 2 (getUTCDate t) ++
    84 :: field 2 (getUTCHours t) ++ 58 :: field 2 (getUTCMinutes t) ++ 58 :: field 2 (getUTCSeconds t) ++
    46 :: field 3 (t % 1000) ++ [90]

section Assessment

variable (unicode : Unicode)

def normalizeName (value : Units) : Units :=
  let folded := ((unicode.nfd value).filter (fun c => !isCombining c)).map (fun c => if c = 0x111 ∨ c = 0x110 then 68 else c)
  unicode.toUpperCase (collapseSpaces (trim folded))

-- ^[1-9]\d{0,14}$
def isAmount (s : Units) : Bool :=
  1 ≤ s.length ∧ s.length ≤ 15 ∧ s.all Store.isDigit = true ∧ s.head? ≠ some 48

-- ^[A-Z0-9._:-]{1,100}$
def isTransactionId (s : Units) : Bool :=
  1 ≤ s.length ∧ s.length ≤ 100 ∧
    s.all (fun c => decide (65 ≤ c.toNat ∧ c.toNat ≤ 90) || Store.isDigit c || [46, 95, 58, 45].contains c) = true

def claimedTime (expected : ReceiptExpectedFacts) (fields : ReceiptClaimFields) (assessedAt : Option Int) : Option Int := do
  let timestamp ← parseReceiptTimestamp fields.occurredAt
  let now ← assessedAt
  if timestamp < expected.createdAt ∨ expected.expiresAt ≤ timestamp ∨ now < timestamp then none else some timestamp

def normalizedFields (expected : ReceiptExpectedFacts) (fields : ReceiptClaimFields) (assessedAt : Option Int) :
    ReceiptClaimFields where
  bankBin := trimmed fields.bankBin
  accountNumber := trimmed fields.accountNumber
  beneficiaryName := fields.beneficiaryName.map (normalizeName unicode)
  amountMinor := trimmed fields.amountMinor
  transferContent := (trimmed fields.transferContent).map unicode.toUpperCase
  occurredAt := (claimedTime expected fields assessedAt).map isoText
  transactionId := (trimmed fields.transactionId).map unicode.toUpperCase

def warnIf (p : Prop) [Decidable p] (warning : ReceiptWarning) : List ReceiptWarning :=
  if p then [warning] else []

def receiptWarnings (expected : ReceiptExpectedFacts) (fields normalized : ReceiptClaimFields) (assessedAt : Option Int) :
    List ReceiptWarning :=
  .customerImageNotBankProof ::
    (warnIf (normalized.bankBin ≠ some expected.bankBin) .bankMismatch ++
      warnIf (normalized.accountNumber ≠ some expected.accountNumber) .accountMismatch ++
      warnIf (normalized.beneficiaryName ≠ some (normalizeName unicode expected.beneficiaryName)) .beneficiaryMismatch ++
      warnIf (normalized.amountMinor.any isAmount = false ∨ normalized.amountMinor ≠ some expected.amountMinor) .amountMismatch ++
      warnIf (normalized.transferContent ≠ some expected.transferContent) .contentMismatch ++
      warnIf (claimedTime expected fields assessedAt = none) .timeMismatch ++
      (match normalized.transactionId.filter (fun id => id ≠ []) with
        | none => [.transactionIdMissing]
        | some id => warnIf (isTransactionId id = false) .transactionIdInvalid))

def isTolerated (warning : ReceiptWarning) : Bool :=
  decide (warning = .customerImageNotBankProof ∨ warning = .transactionIdMissing)

def assessReceiptClaim (expected : ReceiptExpectedFacts) (fields : ReceiptClaimFields) (assessedAt : Option Int) :
    ReceiptAssessment :=
  let normalized := normalizedFields unicode expected fields assessedAt
  let warnings := receiptWarnings unicode expected fields normalized assessedAt
  { status := if warnings.any (fun warning => !isTolerated warning) then .reviewRequired else .matchedClaim
    financialProof := false
    warnings := warnings
    normalized := normalized }

end Assessment

end EduAi.Payments.Receipts
