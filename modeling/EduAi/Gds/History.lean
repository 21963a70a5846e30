import EduAi.Store.Base64Decode
import EduAi.Store.Decimal
import EduAi.Store.Keyset
import EduAi.Store.PercentEncoding
import Mathlib.Data.List.Lex
import Mathlib.Data.Prod.Lex

set_option autoImplicit false

namespace EduAi.Gds.History

open EduAi.Store

inductive HistoryFilter where
  | all
  | incoming
  | outgoing
  | payments
  | withdrawals
deriving DecidableEq

def HistoryFilter.text : HistoryFilter → Units
  | .all => ascii "all"
  | .incoming => ascii "incoming"
  | .outgoing => ascii "outgoing"
  | .payments => ascii "payments"
  | .withdrawals => ascii "withdrawals"

def filters : List HistoryFilter :=
  [.all, .incoming, .outgoing, .payments, .withdrawals]

-- [0-9a-f]{8}-[0-9a-f]{4}-[0-9a-f]{4}-[0-9a-f]{4}-[0-9a-f]{12}
def isLowerHex (c : UInt16) : Bool :=
  isDigit c || decide (97 ≤ c.toNat ∧ c.toNat ≤ 102)

def isUuid (s : Units) : Bool :=
  s.length = 36 ∧ ∀ at' ∈ s.zipIdx, if at'.2 ∈ [8, 13, 18, 23] then at'.1 = 45 else isLowerHex at'.1 = true

structure UuidText where
  text : Units
  form : isUuid text = true
deriving DecidableEq

def journalPrefix : Units :=
  ascii "journal-"

def withdrawalPrefix : Units :=
  ascii "withdrawal-"

-- ^(journal|withdrawal)- and a uuid.
def isHistoryId (s : Units) : Bool :=
  (s.take 8 = journalPrefix ∧ isUuid (s.drop 8) = true) ∨ (s.take 11 = withdrawalPrefix ∧ isUuid (s.drop 11) = true)

-- ^\d{1,18}$
def isMicros (s : Units) : Bool :=
  1 ≤ s.length ∧ s.length ≤ 18 ∧ s.all isDigit = true

structure Position where
  micros : Units
  id : Units
deriving DecidableEq

structure HistoryQuery where
  filter : HistoryFilter
  limit : Nat
  before : Option Position
deriving DecidableEq

inductive HistoryError where
  | invalidQuery
  | invalidCursor
deriving DecidableEq

def HistoryError.message : HistoryError → String
  | .invalidQuery => "GDS_HISTORY_INVALID_QUERY"
  | .invalidCursor => "GDS_HISTORY_INVALID_CURSOR"

def cursorJson (owner : UuidText) (filter : HistoryFilter) (micros id : Units) : Units :=
  91 :: ([44].intercalate [ascii "1", quoted owner.text, quoted filter.text, quoted micros, quoted id] ++ [93])

-- Buffer.from of a text; JSON.stringify leaves no surrogate alone.
def bufferFrom (text : Units) : Bytes :=
  ((scalars text).getD []).flatMap String.utf8EncodeChar

def encodeHistoryCursor (owner : UuidText) (filter : HistoryFilter) (micros id : Units) : Units :=
  (base64url (bufferFrom (cursorJson owner filter micros id))).map UInt8.toUInt16

-- The text of some bytes; a byte above ASCII gives a character that no accepted cursor has.
def asciiText (bytes : Bytes) : Option Units :=
  if bytes.all (fun b => b.toNat < 128) then some (bytes.map UInt8.toUInt16) else none

-- The blanks, strings and numbers of JSON.
def skipBlanks (s : Units) : Units :=
  s.dropWhile (fun c => [32, 9, 10, 13].contains c)

def hexValue (c : UInt16) : Option Nat :=
  if 48 ≤ c.toNat ∧ c.toNat ≤ 57 then some (c.toNat - 48)
  else if 65 ≤ c.toNat ∧ c.toNat ≤ 70 then some (c.toNat - 55)
  else if 97 ≤ c.toNat ∧ c.toNat ≤ 102 then some (c.toNat - 87)
  else none

def escapeValue (c : UInt16) : Option UInt16 :=
  if c = 47 then some 47 else (shortEscapes.find? (fun e => e.2 = c)).map (·.1)

def readString : Units → Option (Units × Units)
  | [] => none
  | c :: rest =>
      if c = quoteMark then some ([], rest)
      else if c.toNat < 32 then none
      else if c = backslash then
        match rest with
        | [] => none
        | e :: rest =>
            if e = 117 then
              match rest with
              | h₃ :: h₂ :: h₁ :: h₀ :: rest => do
                  let d₃ ← hexValue h₃
                  let d₂ ← hexValue h₂
                  let d₁ ← hexValue h₁
                  let d₀ ← hexValue h₀
                  (readString rest).map (push (UInt16.ofNat (d₃ * 4096 + d₂ * 256 + d₁ * 16 + d₀)))
              | _ => none
            else do
              let value ← escapeValue e
              (readString rest).map (push value)
      else (readString rest).map (push c)

def expect (mark : UInt16) (s : Units) : Option Units :=
  match skipBlanks s with
  | [] => none
  | c :: rest => if c = mark then some rest else none

def nextString (s : Units) : Option (Units × Units) := do
  let rest ← expect 44 s
  let rest ← expect quoteMark rest
  readString rest

def isLiteralUnit (c : UInt16) : Bool :=
  isNumberUnit c || c == 69

-- Whether the literal of a number is one of JSON and has the value 1.
variable (isOne : Units → Bool)

-- JSON.parse as far as the checks behind it go: an array of five members, the number 1 and four strings. Every other text
-- is refused, whether it is JSON or not.
def readCursor (text : Units) : Option (Units × Units × Units × Units) := do
  let rest ← expect 91 text
  let rest := skipBlanks rest
  let rest ← if isOne (rest.takeWhile isLiteralUnit) then some (rest.dropWhile isLiteralUnit) else none
  let (owner, rest) ← nextString rest
  let (filter, rest) ← nextString rest
  let (micros, rest) ← nextString rest
  let (id, rest) ← nextString rest
  let rest ← expect 93 rest
  if skipBlanks rest = [] then some (owner, filter, micros, id) else none

inductive QueryValue where
  | text (value : Units)
  | several

def filterOf : QueryValue → Option HistoryFilter
  | .text value => filters.find? (fun f => f.text = value)
  | .several => none

-- ^(?:[1-9]|[1-4]\d|50)$
def limitOf : QueryValue → Option Nat
  | .text value =>
      if value.all isDigit = true ∧ (value.length = 1 ∨ value.length = 2) ∧ value.head? ≠ some 48 ∧ digitsValue value ≤ 50 then
        some (digitsValue value)
      else none
  | .several => none

def isWordUnit (c : UInt16) : Bool :=
  decide (c.toNat < 128) && isWordByte c.toUInt8

def cursorPosition (owner : UuidText) (filter : HistoryFilter) : QueryValue → Option Position
  | .text cursor =>
      if 512 < cursor.length ∨ cursor = [] ∨ ¬ cursor.all isWordUnit = true then none
      else do
        let text ← asciiText (fromBase64url (cursor.map UInt16.toUInt8))
        let (cursorOwner, cursorFilter, micros, id) ← readCursor isOne text
        if cursorOwner = owner.text ∧ cursorFilter = filter.text ∧ isMicros micros = true ∧ isHistoryId id = true then
          some { micros := micros, id := id }
        else none
  | .several => none

def parseHistoryQuery (owner : UuidText) (filter limit cursor : Option QueryValue) : Except HistoryError HistoryQuery :=
  match filterOf (filter.getD (.text (ascii "all"))), limitOf (limit.getD (.text (ascii "20"))) with
  | some filter, some limit =>
      match cursor with
      | none => .ok { filter := filter, limit := limit, before := none }
      | some cursor =>
          match cursorPosition isOne owner filter cursor with
          | some before => .ok { filter := filter, limit := limit, before := some before }
          | none => .error .invalidCursor
  | _, _ => .error .invalidQuery

inductive JournalKind where
  | topupCredit
  | reserve
  | capture
  | release
  | revenueCredit
  | revenueReversal
  | withdrawalReserve
  | withdrawalRelease
  | withdrawalPaid
deriving DecidableEq

inductive ActivityType where
  | journal (kind : JournalKind)
  | withdrawal
deriving DecidableEq

inductive WithdrawalStatus where
  | pending
  | approved
  | processing
  | paid
  | cancelled
  | rejected
  | failed
deriving DecidableEq

structure Wallet where
  id : UuidText
  buyerId : UuidText

structure JournalRow where
  id : UuidText
  walletId : UuidText
  kind : JournalKind
  amountMinor : Int
  orderRef : Option Units
  occurredAt : Int

structure WithdrawalRow where
  id : UuidText
  walletId : UuidText
  ownerId : UuidText
  amountMinor : Int
  status : WithdrawalStatus
  bankCode : Units
  bankShortName : Option Units
  accountNumber : Units
  createdAt : Int

structure Tables where
  wallets : List Wallet
  journal : List JournalRow
  withdrawals : List WithdrawalRow
  journalKey : (journal.map (·.id)).Nodup
  withdrawalKey : (withdrawals.map (·.id)).Nodup

structure ActivityRow where
  id : Units
  type : ActivityType
  amountMinor : Int
  occurredAt : Int
  withdrawalId : Option UuidText
  status : Option WithdrawalStatus
  bankCode : Option Units
  bankShortName : Option Units
  accountNumber : Option Units

def ownsWallet (tables : Tables) (owner walletId : UuidText) : Bool :=
  tables.wallets.any (fun w => w.id = walletId ∧ w.buyerId = owner)

def ofListedWithdrawal (tables : Tables) (owner : UuidText) (j : JournalRow) : Bool :=
  decide (j.kind = .withdrawalReserve ∨ j.kind = .withdrawalRelease ∨ j.kind = .withdrawalPaid) &&
    tables.withdrawals.any (fun d => d.walletId = j.walletId ∧ d.ownerId = owner ∧ j.orderRef = some d.id.text)

def journalActivity (j : JournalRow) : ActivityRow where
  id := journalPrefix ++ j.id.text
  type := .journal j.kind
  amountMinor := j.amountMinor
  occurredAt := j.occurredAt
  withdrawalId := none
  status := none
  bankCode := none
  bankShortName := none
  accountNumber := none

def maskedAccount (accountNumber : Units) : Units :=
  List.replicate 4 0x2022 ++ accountNumber.drop (accountNumber.length - 4)

def withdrawalActivity (d : WithdrawalRow) : ActivityRow where
  id := withdrawalPrefix ++ d.id.text
  type := .withdrawal
  amountMinor := d.amountMinor
  occurredAt := d.createdAt
  withdrawalId := some d.id
  status := some d.status
  bankCode := some d.bankCode
  bankShortName := d.bankShortName
  accountNumber := some (maskedAccount d.accountNumber)

def activity (tables : Tables) (owner : UuidText) : List ActivityRow :=
  (tables.journal.filter (fun j => ownsWallet tables owner j.walletId && !ofListedWithdrawal tables owner j)).map journalActivity ++
    (tables.withdrawals.filter (fun d => decide (d.ownerId = owner) && ownsWallet tables owner d.walletId)).map withdrawalActivity

def condition (filter : HistoryFilter) (row : ActivityRow) : Bool :=
  match filter with
  | .all => true
  | .incoming => decide (row.type = .journal .topupCredit ∨ row.type = .journal .revenueCredit)
  | .outgoing => decide (row.type = .journal .capture ∨ row.type = .journal .revenueReversal ∨ row.type = .journal .withdrawalPaid ∨
      row.type = .withdrawal ∧ row.status = some .paid)
  | .payments => decide (row.type = .journal .capture)
  | .withdrawals => decide (row.type = .withdrawal ∨ row.type = .journal .withdrawalReserve ∨
      row.type = .journal .withdrawalRelease ∨ row.type = .journal .withdrawalPaid)

def matching (tables : Tables) (owner : UuidText) (filter : HistoryFilter) : List ActivityRow :=
  (activity tables owner).filter (condition filter)

-- (sort_time, id COLLATE "C")
def sortKey (micros : Int) (id : Units) : Int ×ₗ List Nat :=
  toLex (micros, id.map UInt16.toNat)

def rowKey (row : ActivityRow) : Int ×ₗ List Nat :=
  sortKey row.occurredAt row.id

def historyQuery (tables : Tables) (owner : UuidText) (query : HistoryQuery) : List ActivityRow :=
  pageAfter rowKey (query.before.map (fun before => sortKey (digitsValue before.micros) before.id)) (query.limit + 1)
    (matching tables owner query.filter)

structure WithdrawalItem where
  withdrawalId : UuidText
  status : Option WithdrawalStatus
  bankCode : Option Units
  bankShortName : Option Units
  accountNumber : Option Units
deriving DecidableEq

structure HistoryItem where
  id : Units
  type : ActivityType
  amountMinor : Int
  occurredAt : Int
  withdrawal : Option WithdrawalItem
deriving DecidableEq

def historyItem (row : ActivityRow) : HistoryItem where
  id := row.id
  type := row.type
  amountMinor := row.amountMinor
  occurredAt := row.occurredAt / 1000
  withdrawal := row.withdrawalId.map (fun withdrawalId => {
    withdrawalId := withdrawalId
    status := row.status
    bankCode := row.bankCode
    bankShortName := row.bankShortName.filter (fun name => name ≠ [])
    accountNumber := row.accountNumber })

-- sort_time::text
def microsText (micros : Int) : Units :=
  if micros < 0 then 45 :: decimal (-micros).toNat else decimal micros.toNat

structure HistoryPage where
  items : List HistoryItem
  hasMore : Bool
  nextCursor : Option Units

def readHistoryPage (tables : Tables) (owner : UuidText) (query : HistoryQuery) : HistoryPage :=
  let rows := historyQuery tables owner query
  let selected := rows.take query.limit
  let hasMore := decide (query.limit < rows.length)
  { items := selected.map historyItem
    hasMore := hasMore
    nextCursor :=
      if hasMore then
        selected.getLast?.map (fun last => encodeHistoryCursor owner query.filter (microsText last.occurredAt) last.id)
      else none }

-- A client that follows nextCursor until it is absent, with so many requests at most.
def followPages (tables : Tables) (owner : UuidText) (filter limit : Option QueryValue) :
    Nat → Option Units → Option (Except HistoryError (List HistoryItem))
  | 0, _ => none
  | requests + 1, cursor =>
      match parseHistoryQuery isOne owner filter limit (cursor.map .text) with
      | .error e => some (.error e)
      | .ok query =>
          let page := readHistoryPage tables owner query
          match page.nextCursor with
          | none => some (.ok page.items)
          | some next =>
              (followPages tables owner filter limit requests (some next)).map (fun rest => rest.map (page.items ++ ·))

end EduAi.Gds.History
