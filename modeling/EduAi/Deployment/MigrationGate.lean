import EduAi.Deployment.MigrationLedger

set_option autoImplicit false

namespace EduAi.Deployment

open EduAi.Store

inductive ReleaseMode where
  | settled | reconciliation | bankTransfer | receipts | revenue
deriving DecidableEq, Repr

section Gate

variable (toUpperCase : String → String) (input : LedgerInput)

def Admits (applied pending : List String) : ReleaseMode → Prop
  | .settled => pending = [] ∧ expectedReconciliationMigration ∈ applied
  | .reconciliation => pending = [expectedReconciliationMigration]
  | .bankTransfer => pending = [expectedBankTransferMigration] ∧ input.allowReviewedBankTransferMigration = true
  | .receipts => pending ≠ [] ∧ pending <:+ reviewedReceiptMigrations.map (·.name) ∧
      input.allowReviewedReceiptMigrations = true ∧ expectedBankTransferMigration ∈ applied
  | .revenue => pending ≠ [] ∧
      (∀ name ∈ pending, ∃ m ∈ reviewedRevenueMigrations, m.name = name ∧ ∃ known checksum,
        input.localMigrationChecksums = some known ∧ known name = some checksum ∧ toUpperCase checksum = m.sha256) ∧
      expectedBankTransferMigration ∈ applied ∧ ∀ m ∈ reviewedReceiptMigrations, m.name ∈ applied

theorem receipts_suffix (applied pending : List String) (suffix : isReviewedReceiptSuffix applied pending = true) :
    pending ≠ [] ∧ pending <:+ reviewedReceiptMigrations.map (·.name) ∧ expectedBankTransferMigration ∈ applied := by
  unfold isReviewedReceiptSuffix at suffix
  simp only [Bool.and_eq_true, decide_eq_true_eq] at suffix
  obtain ⟨⟨⟨bank, some⟩, _⟩, same⟩ := suffix
  refine ⟨List.ne_nil_of_length_pos some, ?_, by simpa using bank⟩
  rw [same]
  exact List.drop_suffix _ _

theorem reviewedHash_mem (name sha256 : String) (found : reviewedHash name = some sha256) :
    ∃ m ∈ reviewedRevenueMigrations, m.name = name ∧ m.sha256 = sha256 := by
  unfold reviewedHash at found
  obtain ⟨m, here, same⟩ := Option.map_eq_some_iff.mp found
  exact ⟨m, List.mem_of_find?_eq_some here, by simpa using List.find?_some here, same⟩

theorem localHash_known (name sha256 : String) (found : localHash toUpperCase input name = some sha256) :
    ∃ known checksum, input.localMigrationChecksums = some known ∧ known name = some checksum ∧
      toUpperCase checksum = sha256 := by
  unfold localHash at found
  obtain ⟨checksum, here, same⟩ := Option.map_eq_some_iff.mp found
  obtain ⟨known, given, there⟩ := Option.bind_eq_some_iff.mp here
  exact ⟨known, checksum, given, there, same⟩

theorem revenue_admitted (applied pending : List String)
    (only : onlyReviewedRevenuePending toUpperCase input applied pending = true) :
    Admits toUpperCase input applied pending .revenue := by
  unfold onlyReviewedRevenuePending at only
  simp only [Bool.and_eq_true, decide_eq_true_eq, List.all_eq_true] at only
  obtain ⟨⟨⟨receipts, bank⟩, some⟩, each⟩ := only
  refine ⟨List.ne_nil_of_length_pos some, ?_, by simpa using bank, fun m member => by simpa using receipts m member⟩
  intro name member
  obtain ⟨reviewed, same⟩ := each name member
  obtain ⟨sha256, found⟩ := Option.isSome_iff_exists.mp reviewed
  rw [found] at same
  obtain ⟨m, listed, named, hash⟩ := reviewedHash_mem name sha256 found
  obtain ⟨known, checksum, given, there, upper⟩ := localHash_known toUpperCase input name sha256 same
  exact ⟨m, listed, named, known, checksum, given, there, by rw [upper, hash]⟩

def ReleaseMode.names : ReleaseMode → List String
  | .settled => []
  | .reconciliation => [expectedReconciliationMigration]
  | .bankTransfer => [expectedBankTransferMigration]
  | .receipts => reviewedReceiptMigrations.map (·.name)
  | .revenue => reviewedRevenueMigrations.map (·.name)

theorem modes_disjoint (a b : ReleaseMode) (name : String) (inA : name ∈ a.names) (inB : name ∈ b.names) : a = b := by
  have apart : ∀ first ∈ [ReleaseMode.settled, .reconciliation, .bankTransfer, .receipts, .revenue],
      ∀ second ∈ [ReleaseMode.settled, .reconciliation, .bankTransfer, .receipts, .revenue],
        first = second ∨ first.names.all (fun n => !second.names.contains n) = true := by
    decide +kernel
  have listed (m : ReleaseMode) : m ∈ [ReleaseMode.settled, .reconciliation, .bankTransfer, .receipts, .revenue] := by
    cases m <;> simp
  rcases apart a (listed a) b (listed b) with same | none
  · exact same
  · have absent := List.all_eq_true.mp none name inA
    simp [inB] at absent

theorem admits_names (applied pending : List String) (mode : ReleaseMode)
    (admits : Admits toUpperCase input applied pending mode) : ∀ name ∈ pending, name ∈ mode.names := by
  intro name member
  cases mode with
  | settled =>
      rw [admits.1] at member
      exact member
  | reconciliation =>
      have same : pending = [expectedReconciliationMigration] := admits
      rw [same] at member
      exact member
  | bankTransfer =>
      rw [admits.1] at member
      exact member
  | receipts => exact admits.2.1.subset member
  | revenue =>
      obtain ⟨m, listed, same, _⟩ := admits.2.1 name member
      rw [← same]
      exact List.mem_map_of_mem listed

theorem admits_settled (applied pending : List String) (mode : ReleaseMode)
    (admits : Admits toUpperCase input applied pending mode) : pending = [] ↔ mode = .settled := by
  cases mode with
  | settled => exact ⟨fun _ => rfl, fun _ => admits.1⟩
  | reconciliation =>
      have same : pending = [expectedReconciliationMigration] := admits
      simp [same]
  | bankTransfer => simp [admits.1]
  | receipts => simp [admits.1]
  | revenue => simp [admits.1]

theorem admits_unique (applied pending : List String) (a b : ReleaseMode) (first : Admits toUpperCase input applied pending a)
    (second : Admits toUpperCase input applied pending b) : a = b := by
  cases shape : pending with
  | nil =>
      rw [(admits_settled toUpperCase input applied pending a first).mp shape,
        (admits_settled toUpperCase input applied pending b second).mp shape]
  | cons name rest =>
      have member : name ∈ pending := by
        rw [shape]
        exact List.mem_cons_self
      exact modes_disjoint a b name (admits_names toUpperCase input applied pending a first name member)
        (admits_names toUpperCase input applied pending b second name member)

theorem admits_receipt (applied pending : List String) (mode : ReleaseMode)
    (admits : Admits toUpperCase input applied pending mode) (m : ReviewedMigration) (receipt : m ∈ reviewedReceiptMigrations)
    (member : m.name ∈ pending) : input.allowReviewedReceiptMigrations = true := by
  have here : m.name ∈ ReleaseMode.receipts.names := List.mem_map_of_mem receipt
  have same := modes_disjoint mode .receipts m.name (admits_names toUpperCase input applied pending mode admits _ member) here
  rw [same] at admits
  exact admits.2.2.1

structure Vouched (state : LedgerState) : Prop where
  checksums : ∀ known, input.localMigrationChecksums = some known → ∀ row ∈ input.migrationRows,
    RowAgrees toUpperCase known row
  once : (appliedNames input.migrationRows).Nodup
  present : ∀ name ∈ appliedNames input.migrationRows, name ∈ input.localMigrationNames
  pending : ∀ name, name ∈ state.pendingMigrationNames ↔
    name ∈ input.localMigrationNames ∧ name ∉ appliedNames input.migrationRows
  mode : ∃! mode, Admits toUpperCase input (appliedNames input.migrationRows) state.pendingMigrationNames mode
  receipts : ∀ m ∈ reviewedReceiptMigrations, m.name ∈ state.pendingMigrationNames →
    input.allowReviewedReceiptMigrations = true

theorem target_applied (rows : List (Option MigrationRow))
    (some : ((liveEntries rows).filter (fun entry => entry.migrationName = expectedReconciliationMigration)).length = 1) :
    expectedReconciliationMigration ∈ appliedNames rows := by
  obtain ⟨entry, member⟩ := List.exists_mem_of_length_pos (Nat.lt_of_lt_of_eq Nat.one_pos some.symm)
  obtain ⟨live, same⟩ := List.mem_filter.mp member
  rw [← of_decide_eq_true same]
  exact List.mem_map_of_mem live

theorem admitted (applied pending : List String) (target : expectedReconciliationMigration ∈ applied)
    (through : pending.length = 0 ∨ onlyReviewedBankTransferPending input pending = true ∨
      onlyReviewedRevenuePending toUpperCase input applied pending = true ∨
      input.allowReviewedReceiptMigrations = true ∧ isReviewedReceiptSuffix applied pending = true) :
    ∃ mode, Admits toUpperCase input applied pending mode := by
  rcases through with none | bank | revenue | ⟨allowed, suffix⟩
  · exact ⟨.settled, List.length_eq_zero_iff.mp none, target⟩
  · unfold onlyReviewedBankTransferPending at bank
    simp only [Bool.and_eq_true, decide_eq_true_eq] at bank
    exact ⟨.bankTransfer, bank.2, bank.1⟩
  · exact ⟨.revenue, revenue_admitted toUpperCase input applied pending revenue⟩
  · obtain ⟨some, inside, bank⟩ := receipts_suffix applied pending suffix
    exact ⟨.receipts, some, inside, allowed, bank⟩

theorem vouch (state : LedgerState) (ledger : Ledger)
    (read : LedgerRead toUpperCase expectedReconciliationMigration input.localMigrationChecksums
      { applied := [], targetRows := [] } input.migrationRows ledger)
    (present : ∀ name ∈ ledger.applied, name ∈ input.localMigrationNames)
    (pending : state.pendingMigrationNames = input.localMigrationNames.filter (fun name => !ledger.applied.contains name))
    (mode : ∃ mode, Admits toUpperCase input ledger.applied state.pendingMigrationNames mode) :
    Vouched toUpperCase input state := by
  have applied : ledger.applied = appliedNames input.migrationRows := read.applied
  have once := read.once List.nodup_nil
  rw [applied] at present pending mode once
  obtain ⟨found, admits⟩ := mode
  refine ⟨read.agree, once, present, ?_, ⟨found, admits, ?_⟩, ?_⟩
  · intro name
    rw [pending, List.mem_filter]
    simp
  · intro other second
    exact admits_unique toUpperCase input _ _ other found second admits
  · intro m receipt member
    exact admits_receipt toUpperCase input _ _ found admits m receipt member

/-- A ledger that passes the gate is vouched for entry by entry, in the one release mode it was answered with. -/
theorem assertMigrationLedgerState_vouched (state : LedgerState)
    (returned : assertMigrationLedgerState toUpperCase expectedReconciliationMigration input = .ok state) :
    Vouched toUpperCase input state := by
  unfold assertMigrationLedgerState at returned
  obtain ⟨_, _, returned⟩ := (answered_bind _ _ _).mp returned
  obtain ⟨ledger, looped, returned⟩ := (answered_bind _ _ _).mp returned
  have read := readLedger_read toUpperCase _ _ _ _ ledger looped
  obtain ⟨_, known, returned⟩ := (answered_bind _ _ _).mp returned
  obtain ⟨_, _, returned⟩ := (answered_bind _ _ _).mp returned
  rw [answered_ensure] at known
  have present : ∀ name ∈ ledger.applied, name ∈ input.localMigrationNames := by
    intro name member
    simpa using List.all_eq_true.mp known.1 name member
  split at returned
  · rename_i through
    obtain ⟨_, _, returned⟩ := (answered_bind _ _ _).mp returned
    obtain rfl := (answered_pure _ _).mp returned
    have target : expectedReconciliationMigration ∈ ledger.applied := by
      have single := through.2.1
      rw [read.targets, List.nil_append] at single
      have applied : ledger.applied = appliedNames input.migrationRows := read.applied
      rw [applied]
      exact target_applied input.migrationRows single
    exact vouch toUpperCase input _ ledger read present rfl (admitted toUpperCase input _ _ target through.2.2)
  · obtain ⟨_, alone, returned⟩ := (answered_bind _ _ _).mp returned
    obtain rfl := (answered_pure _ _).mp returned
    rw [answered_ensure] at alone
    exact vouch toUpperCase input _ ledger read present rfl ⟨.reconciliation, alone.2⟩

end Gate

def sampleRow (name checksum : String) : Option MigrationRow :=
  some { migrationName := some name, checksum := some checksum, finishedAt := .value, rolledBackAt := .null }

def sampleReviewed : List (String × String) :=
  [(expectedReconciliationMigration, expectedReconciliationMigrationSha256),
    (expectedBankTransferMigration, expectedBankTransferMigrationSha256)]

-- All checksums are in upper case. The reconciliation migration is applied and the reviewed bank-transfer migration pending.
def sampleLedgerInput : LedgerInput where
  expectedMigrationSha256 := expectedReconciliationMigrationSha256
  allowAlreadyApplied := true
  allowReviewedBankTransferMigration := true
  allowReviewedReceiptMigrations := false
  localMigrationNames := sampleReviewed.map (·.1)
  localMigrationChecksums := some (fun name => (sampleReviewed.find? (fun known => known.1 = name)).map (·.2))
  migrationRows := [sampleRow expectedReconciliationMigration expectedReconciliationMigrationSha256]

def sampleLedgerState : LedgerState where
  currentSchemaVersion := some expectedReconciliationMigration
  pendingMigrationNames := [expectedBankTransferMigration]
  targetApplied := true

theorem assertMigrationLedgerState_vouched_sample : Vouched id sampleLedgerInput sampleLedgerState :=
  assertMigrationLedgerState_vouched id sampleLedgerInput sampleLedgerState (by decide +kernel)

end EduAi.Deployment
