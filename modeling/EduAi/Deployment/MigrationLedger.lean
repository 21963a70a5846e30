import EduAi.Store.Checks
import Mathlib.Data.List.Infix

set_option autoImplicit false

namespace EduAi.Deployment

open EduAi.Store

inductive PreflightFailure where
  | migrationLedgerStateDrift
  | migrationLedgerChecksumMismatch
  | migrationReleaseApprovalRequired
  | migrationArtifactChecksumMismatch
deriving DecidableEq, Repr

structure ReviewedMigration where
  name : String
  sha256 : String
deriving DecidableEq, Repr

def expectedReconciliationMigration : String :=
  "20260916123000_harden_reconciliation_source_identity"

def expectedReconciliationMigrationSha256 : String :=
  "03803E8EEF652CE73BEC38267E274650F45665ECBEF578749E1DAABA663CF53F"

def expectedBankTransferMigration : String :=
  "20261022010000_add_manual_bank_transfer"

def expectedBankTransferMigrationSha256 : String :=
  "C26538AF0A17D8F1CEE9CE78FC974141ADF50C13E55E79356D8372D661A80244"

def reviewedReceiptMigrations : List ReviewedMigration :=
  [{ name := "20261023010000_add_bank_receipt_claims"
     sha256 := "FF4C6807B7BE7A0CAF95ACDEB347BCA28024B9545EA93FE113C17BC68E740571" },
    { name := "20261023020000_add_receipt_access"
      sha256 := "F6533EBC1F4D6C1CDCAD9F3A3F3D498BD84F639171BE65F00607CCB1890F85D1" },
    { name := "20261023021000_add_receipt_quota_pools"
      sha256 := "4A3B322C2C8A219138126326839DCD09406E7A3B2C92B65ABB2A346449646703" }]

def reviewedRevenueMigrations : List ReviewedMigration :=
  [{ name := "20261104120000_add_gds_account_verifications"
     sha256 := "BA7DB8420F48CAB21F67BC0D2B11965E4B647B5A8C684DD03F2B9FCE3DE29327" },
    { name := "20261105040000_add_gds_manual_recipient_checks"
      sha256 := "6D46022B0B753701A32856EF050081C6DD77541DA788CC94013FAC54D83B71B4" },
    { name := "20261104100000_add_gds_withdrawals"
      sha256 := "8015F0029726ECFEA645158CF76299FF8BDFEC4E9A4908E3F2FAE6E411CEBF56" },
    { name := "20261103040000_harden_gds_runtime_projection"
      sha256 := "F66F52DF7008F4B9790B836B58F3B7A58E1AB867ADC13DAEA57809AD8789C49B" },
    { name := "20261102010000_add_buyer_wallet_mirror"
      sha256 := "3B1A272D58E148AD7390042C1FCF023AEC21AD6F5342B89DD5DC42BC83B8C092" },
    { name := "20261102020000_add_gds_payos_topup_intents"
      sha256 := "C0EC3A2EF1DDA6DF30684F3D5FF5460AB654303AB887D71BB134A4394F8A8E11" },
    { name := "20261102030000_add_gds_internal_prepaid_journal"
      sha256 := "8CCBAC555D062A1DBE3A70397D9DF0634F9DD9338A82B6588B4EFBE149C00F3E" },
    { name := "20261102050000_add_gds_wallet_capture_settlement_enum"
      sha256 := "CB993C89E775EC565BB3BCF02E2DE2F597A4F70C09CF2055EABA51266913D7A1" },
    { name := "20261102060000_add_gds_wallet_capture_settlement_proof"
      sha256 := "28CFA1801955AC6A4D1C787F4DA972F69AC71FC780B5760A17F50CDDB3BCB177" },
    { name := "20261102070000_require_verified_gds_capture_for_order"
      sha256 := "7A79D01F85FBFE7B82AAAB315BA6F1A4A96B13D391AB4653695298754A61917B" },
    { name := "20261102080000_add_gds_payos_inbox"
      sha256 := "CF995915C08DE78687D9441B6110E2E7D4C8FB07E038E714F94B9B092F69F58C" },
    { name := "20261103000000_revenue_sharing"
      sha256 := "92C48E76702FEEDD6AE24E345DF975A24551A3B82C188AD2286AE9BE87E2383A" },
    { name := "20261103010000_bind_gds_payos_receiving_account"
      sha256 := "46B5F6BEB1A2B0457E119B5168C3E1F8308F0F034B1E1F4E81C6A064A3DE58FD" },
    { name := "20261103020000_add_gds_payos_settlement_reconciliation"
      sha256 := "36449CD854238D8BC353664C4FE522685221E7422A463CD80BE331EE86B62590" },
    { name := "20261103030000_validate_gds_wallet_capture_settlement"
      sha256 := "E561F4212A165633B88B9EA8F7EC4495A8F2D3BCB74E7B06CB5FD8EB8431F0E0" }]

inductive Column where
  | undefined | null | value
deriving DecidableEq, Repr

structure MigrationRow where
  migrationName : Option String
  checksum : Option String
  finishedAt : Column
  rolledBackAt : Column
deriving DecidableEq, Repr

structure LedgerInput where
  expectedMigrationSha256 : String
  allowAlreadyApplied : Bool
  allowReviewedBankTransferMigration : Bool
  allowReviewedReceiptMigrations : Bool
  localMigrationNames : List String
  localMigrationChecksums : Option (String → Option String)
  migrationRows : List (Option MigrationRow)

structure LedgerState where
  currentSchemaVersion : Option String
  pendingMigrationNames : List String
  targetApplied : Bool
deriving DecidableEq, Repr

structure LedgerEntry where
  migrationName : String
  checksum : String
  rolledBack : Bool
deriving DecidableEq, Repr

-- /^[0-9a-f]{64}$/i
def isSha256 (checksum : String) : Bool :=
  checksum.toList.length = 64 && checksum.toList.all (fun c => "0123456789abcdefABCDEF".toList.contains c)

def readRow : Option MigrationRow → Option LedgerEntry
  | some { migrationName := some name, checksum := some checksum, finishedAt, rolledBackAt } =>
      let rolledBack : Bool := rolledBackAt ≠ .null
      if isSha256 checksum ∧ rolledBackAt ≠ .undefined ∧ (if rolledBack then finishedAt = .null else finishedAt = .value) then
        some { migrationName := name, checksum, rolledBack }
      else none
  | _ => none

structure Ledger where
  applied : List String
  targetRows : List LedgerEntry

section Gate

-- String.prototype.toUpperCase.
variable (toUpperCase : String → String) (expectedMigrationName : String)

def checksumAgrees (checksums : Option (String → Option String)) (entry : LedgerEntry) : Bool :=
  match checksums with
  | none => true
  | some known =>
      match known entry.migrationName with
      | none => false
      | some checksum => toUpperCase entry.checksum = toUpperCase checksum

def readLedger (checksums : Option (String → Option String)) : Ledger → List (Option MigrationRow) →
    Except PreflightFailure Ledger
  | ledger, [] => .ok ledger
  | ledger, row :: rest =>
      match readRow row with
      | none => .error .migrationLedgerStateDrift
      | some entry =>
          if checksumAgrees toUpperCase checksums entry then
            if entry.rolledBack then readLedger checksums ledger rest
            else if entry.migrationName ∈ ledger.applied then .error .migrationLedgerStateDrift
            else
              let targetRows :=
                if entry.migrationName = expectedMigrationName then ledger.targetRows ++ [entry] else ledger.targetRows
              readLedger checksums { applied := ledger.applied ++ [entry.migrationName], targetRows } rest
          else .error .migrationLedgerChecksumMismatch

variable (input : LedgerInput)

def currentSchemaVersion (applied : List String) : Option String :=
  ((input.migrationRows.filterMap (fun row => row.bind (·.migrationName))).filter (fun name => applied.contains name)).getLast?

def onlyReviewedBankTransferPending (pending : List String) : Bool :=
  input.allowReviewedBankTransferMigration && pending = [expectedBankTransferMigration]

-- JSON.stringify gives two lists of names one text only when they are the same list.
def isReviewedReceiptSuffix (applied pending : List String) : Bool :=
  let reviewedReceiptNames := reviewedReceiptMigrations.map (·.name)
  applied.contains expectedBankTransferMigration && pending.length > 0 && pending.length ≤ reviewedReceiptNames.length &&
    pending = reviewedReceiptNames.drop (reviewedReceiptNames.length - pending.length)

def reviewedHash (name : String) : Option String :=
  (reviewedRevenueMigrations.find? (fun m => m.name = name)).map (·.sha256)

def localHash (name : String) : Option String :=
  (input.localMigrationChecksums.bind (fun known => known name)).map toUpperCase

def onlyReviewedRevenuePending (applied pending : List String) : Bool :=
  reviewedReceiptMigrations.all (fun m => applied.contains m.name) && applied.contains expectedBankTransferMigration &&
    pending.length > 0 &&
    pending.all (fun name => (reviewedHash name).isSome && localHash toUpperCase input name = reviewedHash name)

def assertMigrationLedgerState : Except PreflightFailure LedgerState := do
  ensure (input.localMigrationNames.length ≠ 0 ∧ input.localMigrationNames.Nodup) .migrationLedgerStateDrift
  let ledger ← readLedger toUpperCase expectedMigrationName input.localMigrationChecksums { applied := [], targetRows := [] }
    input.migrationRows
  let applied := ledger.applied
  ensure (applied.all (fun name => input.localMigrationNames.contains name) ∧ expectedMigrationName ∈ input.localMigrationNames)
    .migrationLedgerStateDrift
  let pending := input.localMigrationNames.filter (fun name => !applied.contains name)
  let receiptSuffix := isReviewedReceiptSuffix applied pending
  ensure (¬ (input.allowAlreadyApplied ∧ ledger.targetRows.length = 1 ∧ receiptSuffix ∧
    ¬ input.allowReviewedReceiptMigrations)) .migrationReleaseApprovalRequired
  if input.allowAlreadyApplied ∧ ledger.targetRows.length = 1 ∧
      (pending.length = 0 ∨ onlyReviewedBankTransferPending input pending ∨
        onlyReviewedRevenuePending toUpperCase input applied pending ∨
        (input.allowReviewedReceiptMigrations ∧ receiptSuffix)) then
    ensure (ledger.targetRows.head?.map (fun entry => toUpperCase entry.checksum) =
      some (toUpperCase input.expectedMigrationSha256)) .migrationArtifactChecksumMismatch
    return { currentSchemaVersion := currentSchemaVersion input applied, pendingMigrationNames := pending, targetApplied := true }
  else
    ensure (expectedMigrationName ∉ applied ∧ pending = [expectedMigrationName]) .migrationLedgerStateDrift
    return { currentSchemaVersion := currentSchemaVersion input applied, pendingMigrationNames := pending, targetApplied := false }

end Gate

def liveEntries (rows : List (Option MigrationRow)) : List LedgerEntry :=
  (rows.filterMap readRow).filter (fun entry => !entry.rolledBack)

def appliedNames (rows : List (Option MigrationRow)) : List String :=
  (liveEntries rows).map (·.migrationName)

theorem liveEntries_cons (row : Option MigrationRow) (rest : List (Option MigrationRow)) (entry : LedgerEntry)
    (read : readRow row = some entry) : liveEntries (row :: rest) =
      if entry.rolledBack then liveEntries rest else entry :: liveEntries rest := by
  rw [liveEntries, List.filterMap_cons_some read, List.filter_cons]
  cases rolledBack : entry.rolledBack with
  | true => rfl
  | false => rfl

section Safety

variable (toUpperCase : String → String)

structure RowAgrees (known : String → Option String) (row : Option MigrationRow) : Prop where
  agrees : ∃ entry checksum, readRow row = some entry ∧ known entry.migrationName = some checksum ∧
    toUpperCase entry.checksum = toUpperCase checksum

structure LedgerRead (expectedMigrationName : String) (checksums : Option (String → Option String)) (before : Ledger)
    (rows : List (Option MigrationRow)) (after : Ledger) : Prop where
  readable : ∀ row ∈ rows, ∃ entry, readRow row = some entry
  agree : ∀ known, checksums = some known → ∀ row ∈ rows, RowAgrees toUpperCase known row
  applied : after.applied = before.applied ++ appliedNames rows
  once : before.applied.Nodup → after.applied.Nodup
  targets : after.targetRows =
    before.targetRows ++ (liveEntries rows).filter (fun entry => entry.migrationName = expectedMigrationName)

theorem checksumAgrees_row (known : String → Option String) (row : Option MigrationRow) (entry : LedgerEntry)
    (read : readRow row = some entry) (agrees : checksumAgrees toUpperCase (some known) entry = true) :
    RowAgrees toUpperCase known row := by
  rw [checksumAgrees] at agrees
  cases found : known entry.migrationName with
  | none =>
      rw [found] at agrees
      cases agrees
  | some checksum =>
      rw [found] at agrees
      exact ⟨entry, checksum, read, found, of_decide_eq_true agrees⟩

theorem readLedger_read (expectedMigrationName : String) (checksums : Option (String → Option String)) (before : Ledger)
    (rows : List (Option MigrationRow)) (after : Ledger)
    (ok : readLedger toUpperCase expectedMigrationName checksums before rows = .ok after) :
    LedgerRead toUpperCase expectedMigrationName checksums before rows after := by
  induction rows generalizing before with
  | nil =>
      obtain rfl := Except.ok.inj ok
      exact ⟨by simp, by simp, by simp [appliedNames, liveEntries], id, by simp [liveEntries]⟩
  | cons row rest ih =>
      rw [readLedger] at ok
      cases read : readRow row with
      | none =>
          rw [read] at ok
          cases ok
      | some entry =>
          rw [read] at ok
          dsimp only at ok
          by_cases agrees : checksumAgrees toUpperCase checksums entry = true
          · rw [if_pos agrees] at ok
            have readable (there : ∀ r ∈ rest, ∃ e, readRow r = some e) : ∀ r ∈ row :: rest, ∃ e, readRow r = some e := by
              intro r member
              rcases List.mem_cons.mp member with rfl | inRest
              · exact ⟨entry, read⟩
              · exact there r inRest
            have agree (there : ∀ known, checksums = some known → ∀ r ∈ rest, RowAgrees toUpperCase known r) :
                ∀ known, checksums = some known → ∀ r ∈ row :: rest, RowAgrees toUpperCase known r := by
              intro known given r member
              rcases List.mem_cons.mp member with rfl | inRest
              · rw [given] at agrees
                exact checksumAgrees_row toUpperCase known r entry read agrees
              · exact there known given r inRest
            by_cases rolledBack : entry.rolledBack = true
            · rw [if_pos rolledBack] at ok
              have later := ih before ok
              have same : liveEntries (row :: rest) = liveEntries rest := by
                rw [liveEntries_cons row rest entry read, if_pos rolledBack]
              refine ⟨readable later.readable, agree later.agree, ?_, later.once, ?_⟩
              · rw [appliedNames, same]
                exact later.applied
              · rw [same]
                exact later.targets
            · rw [if_neg rolledBack] at ok
              by_cases again : entry.migrationName ∈ before.applied
              · rw [if_pos again] at ok
                cases ok
              · rw [if_neg again] at ok
                have later := ih _ ok
                have more : liveEntries (row :: rest) = entry :: liveEntries rest := by
                  rw [liveEntries_cons row rest entry read, if_neg rolledBack]
                refine ⟨readable later.readable, agree later.agree, ?_, ?_, ?_⟩
                · rw [later.applied, appliedNames, appliedNames, more, List.map_cons, List.append_assoc, List.singleton_append]
                · intro nodup
                  refine later.once (List.nodup_append.mpr ⟨nodup, by simp, ?_⟩)
                  intro name member other single
                  rw [List.mem_singleton.mp single]
                  intro same
                  rw [same] at member
                  exact again member
                · rw [later.targets, more, List.filter_cons]
                  by_cases target : entry.migrationName = expectedMigrationName
                  · simp [target]
                  · simp [target]
          · rw [if_neg agrees] at ok
            cases ok

end Safety

end EduAi.Deployment
