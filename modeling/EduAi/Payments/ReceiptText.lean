import EduAi.Payments.ReceiptPolicy
import EduAi.Store.PercentEncoding

set_option autoImplicit false

namespace EduAi.Payments.Receipts

open EduAi.Store

inductive FieldName where
  | bankBin
  | accountNumber
  | beneficiaryName
  | amountMinor
  | transferContent
  | occurredAt
  | transactionId
deriving DecidableEq

def receiptFields : List FieldName :=
  [.bankBin, .accountNumber, .beneficiaryName, .amountMinor, .transferContent, .occurredAt, .transactionId]

def fieldNames : FieldName → String
  | .bankBin => "BANK"
  | .accountNumber => "ACCOUNT"
  | .beneficiaryName => "BENEFICIARY"
  | .amountMinor => "AMOUNT"
  | .transferContent => "CONTENT"
  | .occurredAt => "TIME"
  | .transactionId => "TRANSACTION_ID"

def labels : FieldName → List Units
  | .bankBin => [ascii "NGAN HANG THU HUONG", ascii "NGAN HANG NHAN", ascii "RECIPIENT BANK", ascii "BENEFICIARY BANK"]
  | .accountNumber => [ascii "SO TAI KHOAN NHAN", ascii "TAI KHOAN THU HUONG", ascii "SO TAI KHOAN THU HUONG",
      ascii "RECIPIENT ACCOUNT", ascii "BENEFICIARY ACCOUNT"]
  | .beneficiaryName => [ascii "TEN NGUOI NHAN", ascii "NGUOI THU HUONG", ascii "TEN THU HUONG", ascii "BENEFICIARY NAME",
      ascii "RECIPIENT NAME"]
  | .amountMinor => [ascii "SO TIEN", ascii "SO TIEN CHUYEN", ascii "AMOUNT"]
  | .transferContent => [ascii "NOI DUNG", ascii "NOI DUNG CHUYEN KHOAN", ascii "TRANSFER CONTENT", ascii "TRANSFER DESCRIPTION"]
  | .occurredAt => [ascii "THOI GIAN", ascii "THOI GIAN GIAO DICH", ascii "NGAY GIAO DICH", ascii "TRANSACTION TIME"]
  | .transactionId => [ascii "MA GIAO DICH", ascii "SO GIAO DICH", ascii "TRANSACTION ID"]

def ReceiptClaimFields.get (fields : ReceiptClaimFields) : FieldName → Option Units
  | .bankBin => fields.bankBin
  | .accountNumber => fields.accountNumber
  | .beneficiaryName => fields.beneficiaryName
  | .amountMinor => fields.amountMinor
  | .transferContent => fields.transferContent
  | .occurredAt => fields.occurredAt
  | .transactionId => fields.transactionId

def codePoints : Units → List Nat
  | [] => []
  | [c] => [c.toNat]
  | c :: d :: rest =>
      if isHighSurrogate c ∧ isLowSurrogate d then (pairScalar c d).toNat :: codePoints rest else c.toNat :: codePoints (d :: rest)

-- text.split(/\r?\n/)
def withoutReturn (s : Units) : Units :=
  if s.getLast? = some 13 then s.dropLast else s

def splitLines (text : Units) : List Units :=
  let pieces := text.splitOn 10
  pieces.dropLast.map withoutReturn ++ pieces.getLast?.toList

def isColon (c : UInt16) : Bool :=
  c == 58 || c == 0xFF1A

def isLineEnd (c : UInt16) : Bool :=
  [10, 13, 0x2028, 0x2029].contains c

def upperLetter (c : UInt16) : UInt16 :=
  if 97 ≤ c.toNat ∧ c.toNat ≤ 122 then c - 32 else c

section Reading

variable (unicode : Unicode)

def fold (value : Units) : Units :=
  let plain := (unicode.nfd value).filter (fun c => !isCombining c)
  unicode.toUpperCase (plain.map (fun c => if c = 0x111 then 100 else if c = 0x110 then 68 else c))

-- /^\s*([^:：]{1,64})[:：]\s*(.*?)\s*$/u: what stands before and after the first colon. A label of blanks alone has no length
-- to bound, and is no label of a field.
def readLine (line : Units) : Option (Units × Units) :=
  let before := line.takeWhile (fun c => !isColon c)
  match line.dropWhile (fun c => !isColon c) with
  | [] => none
  | _ :: after =>
      if before = [] ∨ 64 < (codePoints (before.dropWhile isSpace)).length ∨ (trim after).any isLineEnd = true then none
      else some (collapseSpaces (fold unicode (trim before)), trim after)

def carriedValue (field : FieldName) (line : Units) : Option Units :=
  (readLine unicode line).bind (fun labelled => if labelled.1 ∈ labels field then some labelled.2 else none)

abbrev Candidates := FieldName → List Units

def addLine (candidates : Candidates) (line : Units) : Candidates :=
  match readLine unicode line with
  | none => candidates
  | some (label, value) => fun field => if label ∈ labels field then candidates field ++ [value] else candidates field

def candidatesOf (lines : List Units) : Candidates :=
  lines.foldl (addLine unicode) (fun _ => [])

end Reading

def currencySuffixes : List (List (List UInt16)) :=
  [[[86, 118], [78, 110], [68, 100]], [[86, 118], [78, 110], [0x110, 0x111]], [[0x110, 0x111]]]

def endsWithLetters (letters : List (List UInt16)) (s : Units) : Bool :=
  (s.drop (s.length - letters.length)).length = letters.length ∧
    ∀ pair ∈ (s.drop (s.length - letters.length)).zip letters, pair.1 ∈ pair.2

-- [1-9]\d{0,2} and groups of three digits behind a separator
def isGrouped (separator : UInt16) (s : Units) : Bool :=
  let groups := s.splitOn separator
  2 ≤ groups.length ∧ ∀ group ∈ groups.zipIdx, group.1.all Store.isDigit = true ∧
    if group.2 = 0 then 1 ≤ group.1.length ∧ group.1.length ≤ 3 ∧ group.1.head? ≠ some 48 else group.1.length = 3

def isWholeAmount (s : Units) : Bool :=
  (s ≠ [] ∧ s.all Store.isDigit = true ∧ s.head? ≠ some 48) ∨ isGrouped 46 s = true ∨ isGrouped 44 s = true ∨ isGrouped 32 s = true

def amountBefore (value : Units) (letters : List (List UInt16)) : Option Units :=
  let amount := (value.take (value.length - letters.length)).rdropWhile isSpace
  if endsWithLetters letters value = true ∧ isWholeAmount amount = true then some amount else none

def parseAmount (value : Units) : Option Units :=
  let digits := (currencySuffixes.findSome? (amountBefore value)).map (fun amount =>
    amount.filter (fun c => !([46, 44, 32] : List UInt16).contains c))
  digits.filter (fun digits => digits ≠ [] ∧ digits.length ≤ 15)

-- +07:00 behind blanks and UTC or GMT, which may both be missing.
def takeZone (s : Units) : Option Unit :=
  let s := s.dropWhile isSpace
  let s := if [ascii "UTC", ascii "GMT"].contains ((s.take 3).map upperLetter) then s.drop 3 else s
  if s = ascii "+07:00" then some () else none

def takeAny (marks : List UInt16) : Units → Option Units
  | [] => none
  | c :: rest => if c ∈ marks then some rest else none

-- dd/mm/yyyy[ T]hh:mm:ss
def takeLocal (value : Units) : Option TimeParts := do
  let (day, s) ← takeDigits 2 value
  let s ← takeMark 47 s
  let (month, s) ← takeDigits 2 s
  let s ← takeMark 47 s
  let (year, s) ← takeDigits 4 s
  let s ← takeAny [32, 84, 116] s
  let ((hour, minute, second), s) ← takeClock s
  takeZone s
  return { year := year, month := month, day := day, hour := hour, minute := minute, second := second }

-- yyyy-mm-ddThh:mm:ss+07:00
def takeIso (value : Units) : Option TimeParts := do
  let ((year, month, day), s) ← takeDate value
  let s ← takeAny [84, 116] s
  let ((hour, minute, second), s) ← takeClock s
  if s = ascii "+07:00" then some { year := year, month := month, day := day, hour := hour, minute := minute, second := second }
  else none

def timeText (parts : TimeParts) : Units :=
  parts.year ++ 45 :: parts.month ++ 45 :: parts.day ++ 84 :: parts.hour ++ 58 :: parts.minute ++ 58 :: parts.second ++
    ascii "+07:00"

def timeParts (value : Units) : Option TimeParts :=
  (takeLocal value).or (takeIso value)

def parseTime (value : Units) : Option Units :=
  (timeParts value).bind (fun parts => if outOfRange parts then none else some (timeText parts))

def isInvisible (c : UInt16) : Bool :=
  decide (c.toNat ≤ 0x1F) || decide (0x7F ≤ c.toNat ∧ c.toNat ≤ 0x9F) || decide (0x200B ≤ c.toNat ∧ c.toNat ≤ 0x200F) ||
    decide (0x202A ≤ c.toNat ∧ c.toNat ≤ 0x202E) || decide (0x2066 ≤ c.toNat ∧ c.toNat ≤ 0x2069)

def isAsciiLetter (c : UInt16) : Bool :=
  decide (65 ≤ c.toNat ∧ c.toNat ≤ 90) || decide (97 ≤ c.toNat ∧ c.toNat ≤ 122)

-- ^[A-Za-z0-9 ._:-]{1,100}$, with the blank or without it
def isReference (withBlank : Bool) (s : Units) : Bool :=
  1 ≤ s.length ∧ s.length ≤ 100 ∧
    s.all (fun c => isAsciiLetter c || Store.isDigit c || [46, 95, 58, 45].contains c || (withBlank && c == 32)) = true

inductive OcrWarning where
  | missing (field : FieldName)
  | ambiguous (field : FieldName)
  | invalid (field : FieldName)
deriving DecidableEq

def OcrWarning.text : OcrWarning → String
  | .missing field => "OCR_MISSING_" ++ fieldNames field
  | .ambiguous field => "OCR_AMBIGUOUS_" ++ fieldNames field
  | .invalid field => "OCR_INVALID_" ++ fieldNames field

structure ReceiptReading where
  fields : ReceiptClaimFields
  warnings : List OcrWarning
deriving DecidableEq

section Fields

variable (unicode : Unicode)

-- ^[\p{L}\p{N} .&()-]{2,160}$
def isPersonName (s : Units) : Bool :=
  2 ≤ (codePoints s).length ∧ (codePoints s).length ≤ 160 ∧
    (codePoints s).all (fun p => unicode.isLetterOrNumber p || [32, 46, 38, 40, 41, 45].contains p) = true

def bankNames : List Units :=
  [ascii "MB", ascii "MBBANK", ascii "MB BANK", ascii "NGAN HANG QUAN DOI", ascii "970422"]

def readField (field : FieldName) (value : Units) : Option Units :=
  match field with
  | .bankBin => if fold unicode value ∈ bankNames then some (ascii "970422") else none
  | .accountNumber => if value.all Store.isDigit = true ∧ 6 ≤ value.length ∧ value.length ≤ 30 then some value else none
  | .beneficiaryName => if isPersonName unicode value = true then some (unicode.toUpperCase (collapseSpaces value)) else none
  | .amountMinor => parseAmount value
  | .transferContent => if isReference true value = true then some (unicode.toUpperCase value) else none
  | .occurredAt => parseTime value
  | .transactionId => if isReference false value = true then some (unicode.toUpperCase value) else none

def readValue (field : FieldName) (values : List Units) : Option Units :=
  match values with
  | [raw] =>
      let value := unicode.nfc (trim raw)
      if value = [] ∨ value.any isInvisible = true then none else readField unicode field value
  | _ => none

def warningsOf (field : FieldName) (values : List Units) : List OcrWarning :=
  if values.length ≠ 1 then [if 1 < values.length then .ambiguous field else .missing field]
  else if readValue unicode field values = none then [.invalid field]
  else []

def parseReceiptLines (lines : List Units) : ReceiptReading :=
  let candidates := candidatesOf unicode lines
  let read (field : FieldName) : Option Units := readValue unicode field (candidates field)
  { fields := {
      bankBin := read .bankBin
      accountNumber := read .accountNumber
      beneficiaryName := read .beneficiaryName
      amountMinor := read .amountMinor
      transferContent := read .transferContent
      occurredAt := read .occurredAt
      transactionId := read .transactionId }
    warnings := receiptFields.flatMap (fun field => warningsOf unicode field (candidates field)) }

def parseReceiptOcrText (text : Units) : ReceiptReading :=
  parseReceiptLines unicode (splitLines text)

end Fields

end EduAi.Payments.Receipts
