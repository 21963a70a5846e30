import EduAi.Gds.WithdrawalRequests

set_option autoImplicit false

namespace EduAi.Gds.Withdrawals

open EduAi.Store EduAi.Gds

def Fits (g : GdsDb) : Prop :=
  ∀ w ∈ g.wallets, w.availableMinor + w.heldMinor < bigintBound

section Postings

variable {svc : Service} {db : WithdrawalDb}

theorem terminal_key (id : Uuid) : withdrawalKey ("gds:withdrawal:terminal:" ++ id) = true := by
  unfold withdrawalKey
  rw [String.toList_append]
  rfl

theorem append_left_injective (mark a b : String) (same : mark ++ a = mark ++ b) : a = b := by
  have chars := congrArg String.toList same
  rw [String.toList_append, String.toList_append] at chars
  exact String.toList_inj.mp (List.append_cancel_left chars)

theorem reserve_terminal (a b : Uuid) : "gds:withdrawal:reserve:" ++ a ≠ "gds:withdrawal:terminal:" ++ b := by
  intro same
  have chars := congrArg (fun text => text.toList.take 16) same
  simp only [String.toList_append] at chars
  rw [List.take_append_of_le_length (by decide), List.take_append_of_le_length (by decide)] at chars
  exact absurd chars (by decide)

theorem filed_posting (served : Served svc db) (j : JournalEntry) (member : j ∈ db.gds.journal) (kind : j.kind.isWithdrawal = true) :
    ∃ r ∈ db.gds.withdrawals, j = reservePosting r ∨ ∃ k, terminalKind r.status = some k ∧ j = terminalPosting r k := by
  have inJournal : j ∈ withdrawalJournal db.gds := List.mem_filter.mpr ⟨member, kind⟩
  obtain ⟨r, inTable, named⟩ := served.book.postingSource j inJournal
  have own : j ∈ postingsOf db.gds r.id := List.mem_filter.mpr ⟨inJournal, decide_eq_true named⟩
  rw [(served.book.booked r inTable).postings] at own
  refine ⟨r, inTable, ?_⟩
  rcases List.mem_cons.mp own with reserve | terminal
  · exact .inl reserve
  · obtain ⟨k, closing, same⟩ := List.mem_map.mp terminal
    exact .inr ⟨k, Option.mem_toList.mp closing, same.symm⟩

theorem terminal_free (served : Served svc db) (r : Withdrawal) (member : r ∈ db.gds.withdrawals) (opens : terminalKind r.status = none)
    (k : JournalKind) (closes : k = .withdrawalPaid ∨ k = .withdrawalRelease) :
    free (fun e => some e.eventKey) (terminalPosting r k) db.gds.journal = true ∧
      free withdrawalPosting (terminalPosting r k) db.gds.journal = true := by
  have own : ∀ s ∈ db.gds.withdrawals, s.id = r.id → s = r := fun s inTable same =>
    unique_eq _ _ served.book.ids s r s.id inTable member rfl (congrArg some same.symm)
  constructor
  · rw [free_iff]
    rintro j inJournal key named same
    cases named
    have keyed : j.eventKey = "gds:withdrawal:terminal:" ++ r.id := Option.some.inj same
    have kind := (served.filed j inJournal).keyed (by rw [keyed]; exact terminal_key r.id)
    obtain ⟨s, inTable, rfl | ⟨k', closed, rfl⟩⟩ := filed_posting served j inJournal kind
    · exact reserve_terminal s.id r.id keyed
    · rw [own s inTable (append_left_injective _ _ _ keyed), opens] at closed
      cases closed
  · rw [free_iff]
    intro j inJournal key named same
    have mine : withdrawalPosting (terminalPosting r k) = some (r.id, k) := by
      rcases closes with rfl | rfl <;> rfl
    rw [mine] at named
    cases named
    unfold withdrawalPosting at same
    by_cases kind : j.kind.isWithdrawal = true
    · rw [if_pos kind] at same
      obtain ⟨s, inTable, rfl | ⟨k', closed, rfl⟩⟩ := filed_posting served j inJournal kind
      · have reserve : JournalKind.withdrawalReserve = k := congrArg Prod.snd (Option.some.inj same)
        rcases closes with rfl | rfl <;> cases reserve
      · have ref : s.id = r.id := congrArg Prod.fst (Option.some.inj same)
        rw [own s inTable ref, opens] at closed
        cases closed
    · rw [if_neg kind] at same
      cases same

-- The database takes a posting of a withdrawal whose keys are free and whose row and wallet bear it out.
theorem insertJournal_runs (now : Instant) (g : GdsDb) (j : JournalEntry) (r : Withdrawal) (w : Wallet) (kind : j.kind.isWithdrawal = true)
    (checked : journalChecks j) (wallet : g.wallets.find? (fun w => w.id = j.walletId ∧ (false = true → w.status = .active)) = some w)
    (unlinked : j.topupId = none ∧ j.collectionReference = none)
    (fresh : free (fun e => some e.eventKey) j g.journal = true) (once : free withdrawalPosting j g.journal = true)
    (found : g.withdrawals.find? (fun r => some r.id = j.orderRef) = some r) (source : withdrawalSource j r)
    (fits : walletChecks (w.moved j.availableDeltaMinor j.heldDeltaMinor)) : Wp (insertJournal now j) (fun _ _ => True) g := by
  have extended : j.kind.isOriginal = false := by
    revert kind
    cases j.kind <;> decide
  obtain ⟨inTable, mine⟩ := find_some _ _ w wallet
  have held : g.wallets.any (fun w => w.id = j.walletId) = true :=
    List.any_eq_true.mpr ⟨w, inTable, decide_eq_true (of_decide_eq_true mine).1⟩
  have noTopup : free (fun e => e.topupId) j g.journal = true := by
    rw [free_iff]
    intro _ _ k linked
    rw [unlinked.1] at linked
    cases linked
  have noReference : free (fun e => e.collectionReference) j g.journal = true := by
    rw [free_iff]
    intro _ _ k linked
    rw [unlinked.2] at linked
    cases linked
  simp only [insertJournal, wp_bind, wp_get, wp_require, wp_modify]
  refine ⟨checked, held, ?_, fresh, noTopup, noReference, once, ?_⟩
  · intro linked
    rw [unlinked.1] at linked
    cases linked
  · rw [if_neg (by rw [extended]; exact Bool.noConfusion)]
    simp only [gdsExtendedJournalApply, extendedSource, wp_bind, wp_get]
    rw [if_pos kind]
    simp only [wp_bind, wp_orThrow, wp_require, moveWallet, wp_get, wp_modify]
    exact ⟨r, found, source, w, wallet, fits, trivial⟩

theorem held_covers (served : Served svc db) (r : Withdrawal) (member : r ∈ db.gds.withdrawals) (opened : r.status.isOpen = true)
    (w : Wallet) (inTable : w ∈ db.gds.wallets) (mine : w.id = r.walletId) : r.amountMinor ≤ w.heldMinor := by
  have holds : 0 ≤ reservedHolds db.gds w.id := by
    refine total_nonneg _ _ (fun h inHolds => ?_)
    have reserved : 0 < db.gds.journal.countP (fun j => j.kind = .reserve ∧ j.orderRef = some h.orderRef) := by
      rw [served.holds.reserves]
      exact List.countP_pos_iff.mpr ⟨h, inHolds, decide_eq_true rfl⟩
    obtain ⟨j, inJournal, named⟩ := List.countP_pos_iff.mp reserved
    obtain ⟨kind, ref⟩ := of_decide_eq_true named
    obtain ⟨h', inHolds', ref', _, amount⟩ := served.holds.posted j inJournal (.inl kind)
    have same : h' = h := unique_eq _ _ served.holds.refs h' h h.orderRef inHolds' inHolds (ref'.symm.trans ref) rfl
    have positive := (served.filed j inJournal).positive
    rw [amount, same] at positive
    split
    · exact positive.le
    · exact le_refl 0
  have covered := part_le_total (fun r => if r.walletId = w.id ∧ r.status.isOpen then r.amountMinor else 0) db.gds.withdrawals
    (fun s inTable => by
      have positive := (served.book.booked s inTable).checked.1
      split
      · exact positive.le
      · exact le_refl 0) r member
  rw [if_pos ⟨mine.symm, opened⟩] at covered
  have balance := (served.ledger w.id).heldShort w inTable
  rw [ite_self, add_zero] at balance
  rw [balance]
  show r.amountMinor ≤ reservedHolds db.gds w.id + openWithdrawals db.gds w.id
  exact le_trans covered (le_add_of_nonneg_left holds)

end Postings

section Events

variable {svc : Service} {db : WithdrawalDb} {r : Withdrawal} {e : WithdrawalEvent}

structure Permitted (g : GdsDb) (now : Instant) (r : Withdrawal) (e : WithdrawalEvent) : Prop where
  reason : 1 ≤ (sqlTrim e.reason).length ∧ (sqlTrim e.reason).length ≤ 500
  fresh : free (fun e => some e.id) e g.withdrawalEvents = true
  named : e.withdrawalId = r.id
  source : e.fromStatus = some r.status
  moves : withdrawalMayMove r.status e.toStatus = true
  actor : (e.toStatus = .cancelled → e.actorId = r.ownerId) ∧ (e.toStatus ≠ .cancelled → e.actorId ≠ r.ownerId)
  enabled : e.toStatus ∈ [.processing, .paid, .failed] → g.settings.processingEnabled = true
  settled : e.toStatus = .processing → g.wallets.any (fun w => w.id = r.walletId ∧ w.status = .active ∧ w.debtMinor = 0) = true
  claimed : e.toStatus ∈ [.paid, .failed] → r.processingAdminId = some e.actorId
  transferred : e.toStatus = .paid → transferProof now r e = true
  unproven : e.toStatus ≠ .paid → e.bankTransactionRef = none ∧ e.transferredAt = none

def referenceTaken (g : GdsDb) (r : Withdrawal) (e : WithdrawalEvent) (f : Fault) : Prop :=
  f = .unique "gds_withdrawals_bank_transaction_ref_key" ∧ e.toStatus = .paid ∧
    ∃ other ∈ g.withdrawals, other.id ≠ r.id ∧ other.bankTransactionRef = e.bankTransactionRef ∧ e.bankTransactionRef.isSome = true

def unprovenTransfer (e : WithdrawalEvent) (f : Fault) : Prop :=
  e.toStatus = .processing ∧ f = .raised "GDS transfer recipient requires fresh matching verification"

def RanOut (db : WithdrawalDb) (now clock : Instant) (actorId id : Uuid) : Prop :=
  ∃ v ∈ db.verifications, v.purpose = .transfer ∧ v.withdrawalId = some id ∧ v.actorId = actorId ∧ now < v.expiresAt ∧ v.expiresAt ≤ clock

theorem open_moves (from_ to_ : WithdrawalStatus) (moves : withdrawalMayMove from_ to_ = true) :
    from_.isOpen = true ∧ terminalKind from_ = none := by
  revert moves
  cases from_ <;> cases to_ <;> decide

theorem after_checks (g : GdsDb) (now : Instant) (checked : withdrawalChecks r) (permitted : Permitted g now r e) :
    withdrawalChecks (r.after e) := by
  obtain ⟨positive, least, most, other, _⟩ := checked
  refine ⟨positive, least, most, ?_, ?_⟩
  · by_cases claims : e.toStatus = .processing
    · simp only [Withdrawal.after, if_pos claims]
      intro same
      exact permitted.actor.2 (by rw [claims]; decide) (Option.some.inj same)
    · simp only [Withdrawal.after, if_neg claims]
      exact other
  · intro paid
    have paid : e.toStatus = .paid := paid
    have shown := permitted.transferred paid
    unfold transferProof at shown
    obtain ⟨referenced, timed⟩ := Bool.and_eq_true_iff.mp shown
    simp only [Withdrawal.after, if_pos paid]
    refine ⟨referenced, ?_⟩
    cases moment : e.transferredAt with
    | none =>
        rw [moment] at timed
        cases timed
    | some m => rfl

theorem reference_free (served : Served svc db) (member : r ∈ db.gds.withdrawals)
    (taken : free (fun x => x.bankTransactionRef) (r.after e) (db.gds.withdrawals.filter (fun x => x.id ≠ r.id)) ≠ true) :
    referenceTaken db.gds r e (.unique "gds_withdrawals_bank_transaction_ref_key") := by
  have taken := mt (free_iff _ _ _).mpr taken
  push Not at taken
  obtain ⟨other, inTable, ref, mine, theirs⟩ := taken
  obtain ⟨inTable, apart⟩ := List.mem_filter.mp inTable
  have apart : other.id ≠ r.id := of_decide_eq_true apart
  by_cases paid : e.toStatus = .paid
  · simp only [Withdrawal.after, if_pos paid] at mine
    refine ⟨rfl, paid, other, inTable, apart, theirs.trans mine.symm, ?_⟩
    rw [mine]
    rfl
  · simp only [Withdrawal.after, if_neg paid] at mine
    have same : other = r := unique_eq _ _ served.book.references other r ref inTable member theirs mine
    exact absurd (congrArg Withdrawal.id same) apart

theorem withdrawalById_member (served : Served svc db) (member : r ∈ db.gds.withdrawals) : withdrawalById db.gds r.id = some r :=
  find_unique _ _ _ served.book.ids r r.id member (decide_eq_true rfl) rfl (fun _ _ same => congrArg some (of_decide_eq_true same))

theorem wallet_member (served : Served svc db) (member : r ∈ db.gds.withdrawals) : ∃ w ∈ db.gds.wallets, w.id = r.walletId ∧
    db.gds.wallets.find? (fun w => w.id = r.walletId ∧ (false = true → w.status = .active)) = some w := by
  obtain ⟨w, inTable, keys⟩ := List.mem_map.mp ((served.ledger r.walletId).withdrawalWallets r member)
  have mine : w.id = r.walletId := congrArg Prod.fst keys
  refine ⟨w, inTable, mine, ?_⟩
  refine find_unique _ _ _ (served.ledger r.walletId).walletIds w w.id inTable (decide_eq_true ⟨mine, fun never => by cases never⟩) rfl ?_
  intro x _ chosen
  rw [mine, (of_decide_eq_true chosen).1]

theorem terminal_runs (served : Served svc db) (now : Instant) (member : r ∈ db.gds.withdrawals)
    (moves : withdrawalMayMove r.status e.toStatus = true) (k : JournalKind) (closes : terminalKind e.toStatus = some k)
    (fits : Fits db.gds) : Wp (insertJournal now (terminalPosting r k)) (fun _ _ => True)
      (replaceWithdrawal (r.after e) { db.gds with withdrawalEvents := db.gds.withdrawalEvents ++ [e] }) := by
  obtain ⟨opened, opens⟩ := open_moves _ _ moves
  obtain ⟨w, inTable, mine, found⟩ := wallet_member served member
  have covered := held_covers served r member opened w inTable mine
  have fit := fits w inTable
  obtain ⟨⟨available, _⟩, ⟨_, heldBound⟩, debt⟩ := (served.ledger w.id).checks w inTable
  have positive := (served.book.booked r member).checked.1
  have kinds : k = .withdrawalPaid ∨ k = .withdrawalRelease := by
    revert closes
    cases e.toStatus <;> intro closes <;> cases closes <;> decide
  obtain ⟨fresh, once⟩ := terminal_free served r member opens k kinds
  have row : (replaceWithdrawal (r.after e) { db.gds with withdrawalEvents := db.gds.withdrawalEvents ++ [e] }).withdrawals.find?
      (fun x => some x.id = (terminalPosting r k).orderRef) = some (r.after e) := by
    refine find_unique (fun x => some x.id) _ _ ?_ (r.after e) r.id ?_ (decide_eq_true rfl) rfl ?_
    · refine unique_updateWhere _ _ _ _ served.book.ids ?_
      intro x _ selected
      rw [of_decide_eq_true selected]
    · exact (mem_updateWhere _ _ _ _).mpr ⟨r, member, by simp [Withdrawal.after]⟩
    · exact fun x _ chosen => of_decide_eq_true chosen
  refine insertJournal_runs now _ (terminalPosting r k) (r.after e) w ?_ ?_ found ⟨rfl, rfl⟩ fresh once row ?_ ?_
  · rcases kinds with rfl | rfl <;> rfl
  · refine ⟨positive, ?_, ?_⟩
    · rcases kinds with rfl | rfl <;> simp [terminalPosting]
    · rcases kinds with rfl | rfl <;> simp [terminalPosting, postingCheck]
  · refine ⟨rfl, rfl, ?_, ?_, ?_⟩
    · rcases kinds with rfl | rfl <;> rintro ⟨⟩
    · rintro released
      cases released
      revert closes
      show terminalKind e.toStatus = _ → e.toStatus ∈ _
      cases e.toStatus <;> decide
    · rintro paid
      cases paid
      revert closes
      show terminalKind e.toStatus = _ → e.toStatus = _
      cases e.toStatus <;> decide
  · rcases kinds with rfl | rfl
    · simp only [terminalPosting, Wallet.moved, walletChecks]
      simp
      omega
    · simp only [terminalPosting, Wallet.moved, walletChecks]
      simp
      omega

theorem insertWithdrawalEvent_concludes (served : Served svc db)
    (fits : (terminalKind e.toStatus).isSome = true → Fits db.gds) (now : Instant) (member : r ∈ db.gds.withdrawals)
    (permitted : Permitted db.gds now r e) :
    Concludes (insertWithdrawalEvent now e) (fun _ t => Moved db.gds t r e) (referenceTaken db.gds r e) db.gds := by
  have found : withdrawalById db.gds e.withdrawalId = some r := by
    rw [permitted.named]
    exact withdrawalById_member served member
  have effect : Wlp (insertWithdrawalEvent now e) (fun _ t => Moved db.gds t r e) db.gds := by
    refine wlp_mono _ _ (insertWithdrawalEvent_moves now db.gds e) ?_
    rintro _ t ⟨r', found', recorded | moved⟩
    · have source := permitted.source
      rw [recorded.opens.source] at source
      cases source
    · rw [found] at found'
      cases found'
      exact moved
  refine concludes_mono _ _ (concludes_and _ _ (Q := fun _ _ => True) ?_ effect) (fun _ t both => both.2) (fun _ fault => fault)
  have foundAfter : withdrawalById { db.gds with withdrawalEvents := db.gds.withdrawalEvents ++ [e] } e.withdrawalId = some r := found
  simp only [insertWithdrawalEvent, concludes_bind, concludes_get, concludes_require, concludes_modify, concludes_orThrow]
  refine ⟨fun _ => ⟨fun _ => ⟨fun r' found' => ?_, fun none => ?_⟩, fun taken => absurd permitted.fresh taken⟩,
      fun long => absurd permitted.reason long⟩
  · rw [foundAfter] at found'
    cases found'
    rw [permitted.source]
    have checked := after_checks db.gds now (served.book.booked r member).checked permitted
    simp only [moveWithdrawal, concludes_bind, concludes_get, concludes_require, concludes_modify]
    refine ⟨fun _ => ⟨fun _ => ⟨fun _ => ⟨fun _ => ⟨fun _ => ⟨fun _ => ⟨fun _ => ⟨fun _ => ⟨fun _ => ?_, ?_⟩, ?_⟩, ?_⟩,
        ?_⟩, ?_⟩, ?_⟩, ?_⟩, ?_⟩, ?_⟩
    · cases closes : terminalKind e.toStatus with
      | none => exact (concludes_pure _ _ _ _).mpr trivial
      | some k => exact concludes_of_wp _ _ _ (terminal_runs served now member permitted.moves k closes (fits (by rw [closes]; rfl)))
    · exact fun taken => reference_free served member taken
    · exact fun unchecked => absurd checked unchecked
    · exact fun proven => absurd permitted.unproven proven
    · exact fun untransferred => absurd permitted.transferred untransferred
    · exact fun unclaimed => absurd permitted.claimed unclaimed
    · exact fun unsettled => absurd permitted.settled unsettled
    · exact fun disabled => absurd permitted.enabled disabled
    · exact fun stranger => absurd permitted.actor stranger
    · exact fun still => absurd ⟨trivial, permitted.moves⟩ still
  · rw [foundAfter] at none
    cases none

theorem insertEventRow_concludes (served : Served svc db) (fits : (terminalKind e.toStatus).isSome = true → Fits db.gds) (clock : Instant)
    (member : r ∈ db.gds.withdrawals) (permitted : Permitted db.gds clock r e) (widths : eventWidths e) (lapsed : Prop)
    (proven : e.toStatus = .processing → transferProven svc.names db clock e = true ∨ lapsed) :
    Concludes (insertEventRow svc.names clock e)
      (fun _ t => Moved db.gds t.gds r e ∧ t.recipients = db.recipients ∧ t.verifications = db.verifications)
      (fun f => referenceTaken db.gds r e f ∨ (unprovenTransfer e f ∧ lapsed)) db := by
  simp only [insertEventRow, onLedger, concludes_bind, concludes_get, concludes_require, concludes_zoom]
  refine ⟨fun _ => ⟨fun _ => ?_, fun unproven => .inr ?_⟩, fun wide => absurd widths wide⟩
  · refine concludes_mono _ _ (insertWithdrawalEvent_concludes served fits clock member permitted) ?_ (fun _ fault => .inl fault)
    exact fun _ t moved => ⟨moved, trivial, trivial⟩
  · push Not at unproven
    obtain ⟨claims, failed⟩ := unproven
    rcases proven claims with proof | ranOut
    · exact absurd proof failed
    · exact ⟨⟨claims, rfl⟩, ranOut⟩

-- The check that the service asks for before a claim is one that the database takes until it runs out.
theorem transferProof_proven (served : Served svc db) (now clock : Instant) (actorId : Uuid) (request : Withdrawal × Recipient)
    (found : requestOf db e.withdrawalId = some request) (actor : e.actorId = actorId)
    (checked : (transferProofs now db actorId request db.accountVerificationRequired).head?.any
      (fun v => sameBankAccountName svc v.accountHolder request.2.accountHolder) = true) :
    transferProven svc.names db clock e = true ∨ RanOut db now clock actorId e.withdrawalId := by
  obtain ⟨v, first, _⟩ := (Option.any_eq_true _ _).mp checked
  have listed := List.mem_of_mem_head? first
  unfold transferProofs at listed
  obtain ⟨member, matched⟩ := List.mem_filter.mp ((List.mem_insertionSort _).mp listed)
  obtain ⟨named, actor', owner, bankCode, accountNumber, transfer, unexpired, provider⟩ := of_decide_eq_true matched
  obtain ⟨r, p, found', checks⟩ := served.transfers v member transfer
  obtain ⟨_, id, _⟩ := requestOf_parts db e.withdrawalId request.1 request.2 found
  have same : r.id = e.withdrawalId := (Option.some.inj (checks.withdrawal.symm.trans named)).trans id
  rcases lt_or_ge clock v.expiresAt with still | gone
  · refine .inl ?_
    rw [same, found] at found'
    cases found'
    unfold transferProven
    rw [found]
    refine List.any_eq_true.mpr ⟨v, member, decide_eq_true ⟨named, transfer, actor'.trans actor.symm, owner, bankCode, accountNumber, still,
      checks.normalized, ?_⟩⟩
    by_cases mandatory : db.accountVerificationRequired = true ∨ p.verificationId.isSome = true
    · exact .inl (provider mandatory)
    · push Not at mandatory
      exact .inr ⟨Option.not_isSome_iff_eq_none.mp mandatory.2, Bool.not_eq_true _ ▸ mandatory.1⟩
  · exact .inr ⟨v, member, transfer, checks.withdrawal.trans (congrArg some same), actor', unexpired, gone⟩

end Events

section Act

variable (svc : Service) (now clock : Instant) (sync : OwnerSync) (db : WithdrawalDb)

def refusal : Fault → Bool
  | .badRequest _ | .conflict _ | .forbidden _ | .notFound _ => true
  | _ => false

def WithdrawalAction.target : WithdrawalAction → WithdrawalStatus
  | .approve => .approved
  | .reject => .rejected
  | .process => .processing
  | .pay => .paid
  | .fail => .failed
  | .cancel => .cancelled

theorem next_status (from_ to_ : WithdrawalStatus) (action : WithdrawalAction) (next : nextWithdrawalStatus from_ action = some to_) :
    to_ = action.target ∧ withdrawalMayMove from_ to_ = true := by
  revert next
  cases from_ <;> cases action <;> intro next <;> cases next <;> exact ⟨rfl, rfl⟩

theorem actionReason_fits (input : ActionInput) (short : ∀ text, input.reason = some text → text.toList.length ≤ 500) :
    (1 ≤ (sqlTrim (actionReason input)).length ∧ (sqlTrim (actionReason input)).length ≤ 500) ∧ (actionReason input).toList.length ≤ 500 := by
  unfold actionReason
  cases given : (input.reason.map jsTrim).filter (fun r => r != "") with
  | none => decide
  | some reason =>
      obtain ⟨trimmed, nonempty⟩ := Option.filter_eq_some_iff.mp given
      obtain ⟨text, source, rfl⟩ := Option.map_eq_some_iff.mp trimmed
      have bounded := le_trans (jsTrim_length text) (short text source)
      rw [sqlTrim_jsTrim]
      refine ⟨⟨List.length_pos_iff.mpr (fun none => ?_), bounded⟩, bounded⟩
      rw [String.toList_eq_nil_iff.mp none] at nonempty
      cases nonempty

theorem action_widths (eventId actorId : Uuid) (r : Withdrawal) (action : WithdrawalAction) (input : ActionInput)
    (short : ∀ text, input.reason = some text → text.toList.length ≤ 500)
    (reference : ∀ text, input.bankTransactionRef = some text → text.toList.length ≤ 160) :
    eventWidths (actionEvent svc eventId actorId r action.target action input) := by
  refine ⟨(actionReason_fits input short).2, ?_⟩
  have own : (actionEvent svc eventId actorId r action.target action input).bankTransactionRef =
      if action = .pay then input.bankTransactionRef.map jsTrim else none := rfl
  rw [own]
  by_cases pays : action = .pay
  · rw [if_pos pays]
    cases given : input.bankTransactionRef with
    | none => rfl
    | some text =>
        rw [Option.map_some, Option.all_some]
        exact decide_eq_true (le_trans (jsTrim_length text) (reference text given))
  · rw [if_neg pays]
    rfl

theorem requireEnabled_concludes (action : WithdrawalAction) :
    Concludes (requireEnabled svc action) (fun _ t => t = db ∧ (action.transfers = true → db.gds.settings.processingEnabled = true))
      (fun f => refusal f = true) db := by
  unfold requireEnabled
  rw [concludes_ite]
  constructor
  · intro _
    simp only [requireProcessing, concludes_bind, concludes_require, concludes_get]
    exact ⟨fun _ => ⟨fun enabled => ⟨trivial, fun _ => enabled⟩, fun _ => rfl⟩, fun _ => rfl⟩
  · intro still
    rw [concludes_pure]
    exact ⟨rfl, fun transfers => absurd transfers still⟩

theorem requirePaymentProof_concludes (r : Withdrawal) (action : WithdrawalAction) (input : ActionInput) :
    Concludes (requirePaymentProof svc now r action input) (fun _ t => t = db ∧ (action = .pay →
      truthy (input.bankTransactionRef.map jsTrim) = true ∧ (transferTime svc now r input.transferredAt).isSome = true))
      (fun f => refusal f = true) db := by
  unfold requirePaymentProof
  rw [concludes_ite]
  constructor
  · intro _
    simp only [concludes_bind, concludes_require]
    exact ⟨fun given => ⟨fun timed => ⟨trivial, fun _ => ⟨given.1, timed⟩⟩, fun _ => rfl⟩, fun _ => rfl⟩
  · intro other
    simp only [concludes_require]
    exact ⟨fun _ => ⟨trivial, fun pays => absurd pays other⟩, fun _ => rfl⟩

structure Claimable (db t : WithdrawalDb) (actorId : Uuid) (request : Withdrawal × Recipient) (action : WithdrawalAction) : Prop where
  quiet : Quiet db.gds t.gds
  same : t = { db with gds := t.gds }
  settings : t.gds.settings = db.gds.settings
  apart : action ≠ .process → t = db
  checked : action = .process → (transferProofs now db actorId request db.accountVerificationRequired).head?.any
    (fun v => sameBankAccountName svc v.accountHolder request.2.accountHolder) = true
  wallet : action = .process → t.gds.wallets.any (fun w => w.id = request.1.walletId ∧ w.status = .active ∧ w.debtMinor = 0) = true

theorem requireSettled_concludes (request : Withdrawal × Recipient) :
    Concludes (requireSettled now sync request)
      (fun _ t => Quiet db.gds t.gds ∧ t = { db with gds := t.gds } ∧ t.gds.settings = db.gds.settings ∧
      t.gds.wallets.any (fun w => w.id = request.1.walletId ∧ w.status = .active ∧ w.debtMinor = 0) = true)
      (fun f => refusal f = true ∨ syncOwner now sync request.1.ownerId db.gds = .error f) db := by
  simp only [requireSettled, onLedger, requireUnblocked, concludes_bind, concludes_zoom, concludes_get, concludes_orThrow, concludes_pure]
  refine ⟨fun _ g synced => ⟨fun w unblocked => ?_, fun _ => .inl rfl⟩, fun f failed => .inr failed⟩
  obtain ⟨found, free⟩ := Option.filter_eq_some_iff.mp unblocked
  obtain ⟨inTable, mine⟩ := find_some _ _ w found
  refine ⟨syncOwner_quiet now sync request.1.ownerId db.gds _ g synced, trivial,
      syncOwner_settings now sync request.1.ownerId db.gds _ g synced, ?_⟩
  have active := of_decide_eq_true free
  exact List.any_eq_true.mpr ⟨w, inTable, decide_eq_true ⟨of_decide_eq_true mine, active.1, active.2⟩⟩

theorem requireClaimable_concludes (actorId : Uuid) (request : Withdrawal × Recipient) (action : WithdrawalAction) :
    Concludes (requireClaimable svc now sync actorId request action) (fun _ t => Claimable svc now db t actorId request action)
      (fun f => refusal f = true ∨ (action = .process ∧ syncOwner now sync request.1.ownerId db.gds = .error f)) db := by
  unfold requireClaimable
  rw [concludes_ite]
  constructor
  · intro claims
    simp only [requireTransferProof, concludes_bind, concludes_get, concludes_require]
    refine ⟨fun checked => ?_, fun _ => .inl rfl⟩
    refine concludes_mono _ _ (requireSettled_concludes now sync db request) ?_ ?_
    · rintro _ t ⟨quiet, same, settings, wallet⟩
      exact ⟨quiet, same, settings, fun other => absurd claims other, fun _ => checked, fun _ => wallet⟩
    · rintro f (refused | failed)
      · exact .inl refused
      · exact .inr ⟨claims, failed⟩
  · intro other
    rw [concludes_pure]
    exact ⟨quiet_refl db.gds, rfl, rfl, fun _ => rfl, fun claims => absurd claims other, fun claims => absurd claims other⟩

-- How a call fails: with the service's answer, with what the owner's synchronisation fails with, on a check that has just run out, or on a
-- reference that was used before.
def ActFault (actorId id : Uuid) (action : WithdrawalAction) (input : ActionInput) (f : Fault) : Prop :=
  refusal f = true ∨ ∃ r, withdrawalById db.gds id = some r ∧
    ((action = .process ∧ syncOwner now sync r.ownerId db.gds = .error f) ∨
      (action = .process ∧ f = .raised "GDS transfer recipient requires fresh matching verification" ∧ RanOut db now clock actorId id) ∨
      (action = .pay ∧ f = .unique "gds_withdrawals_bank_transaction_ref_key" ∧
        ∃ other ∈ db.gds.withdrawals, other.id ≠ id ∧ other.bankTransactionRef = input.bankTransactionRef.map jsTrim))

-- What a call that ends well leaves: the withdrawal in the status that was asked for, and the event that says so.
def Acted (t : WithdrawalDb) (eventId actorId id : Uuid) (action : WithdrawalAction) (input : ActionInput)
    (result : Withdrawal × Recipient) : Prop :=
  ∃ r p, requestOf db id = some (r, p) ∧ nextWithdrawalStatus r.status action = some action.target ∧
    result = (r.after (actionEvent svc eventId actorId r action.target action input), p) ∧ requestOf t id = some result ∧
    eventsOf t.gds id = eventsOf db.gds id ++ [actionEvent svc eventId actorId r action.target action input]

theorem target_paid (action : WithdrawalAction) : action.target = .paid ↔ action = .pay := by
  cases action <;> decide

theorem target_processing (action : WithdrawalAction) : action.target = .processing ↔ action = .process := by
  cases action <;> decide

theorem action_permitted (eventId actorId : Uuid) (action : WithdrawalAction) (input : ActionInput)
    (request : Withdrawal × Recipient) (t : WithdrawalDb) (moves : withdrawalMayMove request.1.status action.target = true)
    (short : ∀ text, input.reason = some text → text.toList.length ≤ 500) (fresh : ∀ e ∈ db.gds.withdrawalEvents, e.id ≠ eventId)
    (actor : action = .cancel → actorId = request.1.ownerId) (other : action ≠ .cancel → request.1.ownerId ≠ actorId)
    (enabled : action.transfers = true → db.gds.settings.processingEnabled = true) (claim : Claimable svc now db t actorId request action)
    (claimed : action = .pay ∨ action = .fail → request.1.processingAdminId = some actorId)
    (proof : action = .pay → truthy (input.bankTransactionRef.map jsTrim) = true ∧
        (transferTime svc now request.1 input.transferredAt).isSome = true)
    (later : now ≤ clock) :
    Permitted t.gds clock request.1 (actionEvent svc eventId actorId request.1 action.target action input) := by
  refine ⟨(actionReason_fits input short).1, ?_, rfl, rfl, moves, ⟨?_, ?_⟩, ?_, ?_, ?_, ?_, ?_⟩
  · rw [free_iff, claim.quiet.beside.events]
    intro e member id named same
    cases named
    exact fresh e member (Option.some.inj same)
  · intro cancels
    refine actor ?_
    revert cancels
    show action.target = .cancelled → _
    cases action <;> decide
  · intro stays
    refine Ne.symm (other ?_)
    rintro rfl
    exact stays rfl
  · intro closes
    rw [claim.settings]
    refine enabled ?_
    revert closes
    show action.target ∈ [.processing, .paid, .failed] → _
    cases action <;> decide
  · intro claims
    exact claim.wallet ((target_processing action).mp claims)
  · intro closes
    refine claimed ?_
    revert closes
    show action.target ∈ [.paid, .failed] → _
    cases action <;> decide
  · intro paid
    have pays := (target_paid action).mp paid
    obtain ⟨referenced, timed⟩ := proof pays
    obtain ⟨moment, found⟩ := Option.isSome_iff_exists.mp timed
    obtain ⟨parsed, within⟩ := Option.filter_eq_some_iff.mp found
    obtain ⟨text, given, nonempty⟩ : ∃ text, input.bankTransactionRef = some text ∧ jsTrim text ≠ "" := by
      obtain ⟨trimmed, mapped, nonempty⟩ := (Option.any_eq_true _ _).mp referenced
      obtain ⟨text, given, rfl⟩ := Option.map_eq_some_iff.mp mapped
      exact ⟨text, given, bne_iff_ne.mp nonempty⟩
    unfold transferProof actionEvent
    simp only [if_pos pays, parsed, given, Option.map_some]
    rw [nonblank_jsTrim text nonempty, Bool.true_and]
    obtain ⟨after, before⟩ := of_decide_eq_true within
    exact decide_eq_true ⟨after, le_trans before later⟩
  · intro unpaid
    have other : action ≠ .pay := fun pays => unpaid ((target_paid action).mpr pays)
    unfold actionEvent
    simp only [if_neg other]
    exact ⟨trivial, trivial⟩

theorem moved_request (served : Served svc db) (t : WithdrawalDb) (r : Withdrawal) (p : Recipient) (e : WithdrawalEvent) (g : GdsDb)
    (found : requestOf db r.id = some (r, p)) (beside : Quiet db.gds g) (moved : Moved g t.gds r e) (recipients : t.recipients = db.recipients) :
    requestOf t r.id = some (r.after e, p) := by
  obtain ⟨member, _, recipient⟩ := requestOf_parts db r.id r p found
  have recipient' : recipientOf t (r.after e).id = some p := by
    unfold recipientOf at *
    rw [recipients]
    exact recipient
  refine requestOf_found ?_ (r.after e) p ?_ recipient'
  · rw [moved.withdrawals, beside.beside.withdrawals]
    refine unique_updateWhere _ _ _ _ served.book.ids ?_
    intro x _ selected
    rw [of_decide_eq_true selected]
    rfl
  · rw [moved.withdrawals]
    exact (mem_updateWhere _ _ _ _).mpr ⟨r, moved.member, by simp⟩

theorem act_concludes (served : Served svc db) (eventId actorId id : Uuid) (action : WithdrawalAction) (input : ActionInput) (ownerOnly : Bool)
    (controller : ownerOnly = true ↔ action = .cancel) (short : ∀ text, input.reason = some text → text.toList.length ≤ 500)
    (reference : ∀ text, input.bankTransactionRef = some text → text.toList.length ≤ 160) (fits : Fits db.gds)
    (fresh : ∀ e ∈ db.gds.withdrawalEvents, e.id ≠ eventId) (later : now ≤ clock) :
    Concludes (actTransaction svc now clock sync eventId actorId id action input ownerOnly)
      (fun result t => Acted svc db t eventId actorId id action input result) (ActFault now clock sync db actorId id action input) db := by
  simp only [actTransaction, concludes_bind, concludes_get, concludes_require, concludes_orThrow]
  refine ⟨fun _ => ⟨fun request chosen => ⟨fun party => ⟨fun status next => ?_, fun _ => .inl rfl⟩, fun _ => .inl rfl⟩, fun _ => .inl rfl⟩,
    fun _ => .inl rfl⟩
  obtain ⟨r, p⟩ := request
  obtain ⟨found, owns⟩ := Option.filter_eq_some_iff.mp chosen
  obtain ⟨member, named, _⟩ := requestOf_parts db id r p found
  subst named
  obtain ⟨rfl, moves⟩ := next_status _ _ _ next
  have owner : action = .cancel → actorId = r.ownerId := fun cancels => (of_decide_eq_true owns (controller.mpr cancels)).symm
  have other : action ≠ .cancel → r.ownerId ≠ actorId := by
    intro stays
    have admin : ownerOnly ≠ true := fun same => stays (controller.mp same)
    rw [if_neg admin] at party
    exact party
  have failed : ∀ f, refusal f = true → ActFault now clock sync db actorId r.id action input f := fun f refused => .inl refused
  refine concludes_mono _ _ (requireEnabled_concludes svc db action) ?_ failed
  rintro _ d ⟨same, enabled⟩
  rw [same]
  refine concludes_mono _ _ (requireClaimable_concludes svc now sync db actorId (r, p) action) ?_ ?_
  · intro _ t claim
    refine ⟨fun claimed => ?_, fun _ => .inl rfl⟩
    refine concludes_mono _ _ (requirePaymentProof_concludes svc now t r action input) ?_ failed
    rintro _ u ⟨rfl, proof⟩
    have served' : Served svc u := by
      rw [claim.same]
      exact served_ledger served u.gds claim.quiet
    have member' : r ∈ u.gds.withdrawals := by
      rw [claim.quiet.beside.withdrawals]
      exact member
    have found' : requestOf u r.id = some (r, p) := by
      rw [claim.same]
      exact (requestOf_quiet db u.gds claim.quiet r.id).trans found
    have permitted := action_permitted svc now clock db eventId actorId action input (r, p) u moves short fresh owner other enabled claim claimed
      proof later
    have widths := action_widths svc eventId actorId r action input short reference
    have closes : (terminalKind action.target).isSome = true → Fits u.gds := by
      intro closing
      rw [claim.apart (by rintro rfl; cases closing)]
      exact fits
    have proven : action.target = .processing →
        transferProven svc.names u clock (actionEvent svc eventId actorId r action.target action input) = true ∨
          RanOut db now clock actorId r.id := by
      intro claims
      have checked := claim.checked ((target_processing action).mp claims)
      have proofs := transferProof_proven (e := actionEvent svc eventId actorId r action.target action input) served' now clock actorId
        (r, p) found' rfl (by rw [claim.same]; exact checked)
      rw [claim.same] at proofs ⊢
      exact proofs
    refine concludes_mono _ _ (insertEventRow_concludes served' closes clock member' permitted widths _ proven) ?_ ?_
    · rintro _ v ⟨moved, recipients, _⟩
      have same : v.recipients = db.recipients := by
        rw [recipients, claim.same]
      have result := moved_request svc db served v r p _ u.gds found claim.quiet moved same
      refine ⟨fun request got => ?_, fun lost => ?_⟩
      · rw [result] at got
        cases got
        refine ⟨r, p, found, next, rfl, result, ?_⟩
        unfold eventsOf
        rw [moved.events, claim.quiet.beside.events, List.filter_append]
        simp [actionEvent, eventRow]
      · rw [result] at lost
        cases lost
    · rintro f (⟨rfl, paid, o, inTable, apart, used, _⟩ | ⟨⟨claims, rfl⟩, ranOut⟩)
      · have pays := (target_paid action).mp paid
        rw [claim.quiet.beside.withdrawals] at inTable
        refine .inr ⟨r, withdrawalById_member served member, .inr (.inr ⟨pays, rfl, o, inTable, apart, ?_⟩)⟩
        rw [used]
        simp only [actionEvent, if_pos pays]
      · exact .inr ⟨r, withdrawalById_member served member, .inr (.inl ⟨(target_processing action).mp claims, rfl, ranOut⟩)⟩
  · rintro f (refused | ⟨claims, failed⟩)
    · exact .inl refused
    · exact .inr ⟨r, withdrawalById_member served member, .inl ⟨claims, failed⟩⟩

/-- What the service lets through, the database takes: from any state that the requests have left, the transaction of a call either moves the
withdrawal as it was asked to, or fails as the service says, and otherwise only where the owner's revenue cannot be settled, the check of the
account runs out between the two clocks, or the transfer's reference was used before. -/
theorem act_accepted (createdAt : Instant) (requests : List Request) (eventId actorId id : Uuid) (action : WithdrawalAction)
    (input : ActionInput) (ownerOnly : Bool) : let db := run (step svc) (emptyWithdrawals createdAt) requests
    (ownerOnly = true ↔ action = .cancel) → (∀ text, input.reason = some text → text.toList.length ≤ 500) →
      (∀ text, input.bankTransactionRef = some text → text.toList.length ≤ 160) → Fits db.gds →
      (∀ e ∈ db.gds.withdrawalEvents, e.id ≠ eventId) → now ≤ clock →
      Concludes (actTransaction svc now clock sync eventId actorId id action input ownerOnly)
        (fun result t => Acted svc db t eventId actorId id action input result) (ActFault now clock sync db actorId id action input) db := by
  intro db controller short reference fits fresh later
  exact act_concludes svc now clock sync db (run_served svc createdAt requests) eventId actorId id action input ownerOnly
      controller short reference
    fits fresh later

def samplePayment : ActionInput where
  reason := none
  bankTransactionRef := some " FT1 "
  transferredAt := some "2026-11-04T10:00:00Z"

-- The payment of a claimed transfer, which the database takes.
theorem payment_accepted : let db := run (step sampleService) (emptyWithdrawals 0) (samplePaidRequests.take 9)
    Concludes (actTransaction sampleService 6 7 sampleSync "payment" "admin" "withdrawal" .pay samplePayment false)
      (fun result t => Acted sampleService db t "payment" "admin" "withdrawal" .pay samplePayment result)
      (ActFault 6 7 sampleSync db "admin" "withdrawal" .pay samplePayment) db ∧
    (actTransaction sampleService 6 7 sampleSync "payment" "admin" "withdrawal" .pay samplePayment false db).isOk = true := by
  have bounded : (run (step sampleService) (emptyWithdrawals 0) (samplePaidRequests.take 9)).gds.wallets.all
      (fun w => w.availableMinor + w.heldMinor < bigintBound) = true := by decide +kernel
  have unused : (run (step sampleService) (emptyWithdrawals 0) (samplePaidRequests.take 9)).gds.withdrawalEvents.all
      (fun e => e.id ≠ "payment") = true := by decide +kernel
  refine ⟨act_accepted sampleService 6 7 sampleSync 0 (samplePaidRequests.take 9) "payment" "admin" "withdrawal" .pay samplePayment false
    (by decide) ?_ ?_ ?_ ?_ (by decide), by decide +kernel⟩
  · intro text given
    cases given
  · intro text given
    cases given
    decide
  · exact fun w member => of_decide_eq_true (List.all_eq_true.mp bounded w member)
  · exact fun e member => of_decide_eq_true (List.all_eq_true.mp unused e member)

end Act

section Retries

variable (svc : Service) (now clock : Instant) (sync : OwnerSync) (db : WithdrawalDb)

theorem amount_text (value : Units) (pattern : amountPattern value = true) : decimal (amountOf value).toNat = value := by
  unfold amountPattern at pattern
  obtain ⟨front, digits⟩ := Bool.and_eq_true_iff.mp pattern
  have leading := (Bool.and_eq_true_iff.mp front).2
  have digits := List.all_eq_true.mp digits
  have whole : (amountOf value).toNat = digitsValue value := Int.toNat_natCast _
  rw [whole]
  cases value with
  | nil => cases leading
  | cons c rest =>
      refine decimal_value c rest digits (fun zero => ?_)
      have same := digitUnit_of c (digits c List.mem_cons_self)
      rw [zero] at same
      rw [← same] at leading
      cases leading

theorem insertWithdrawalRow_inserts (served : Served svc db) (r : Withdrawal) (p : Recipient) (named : p.withdrawalId = r.id) :
    Wlp (insertWithdrawalRow clock r p) (fun _ t => requestOf t r.id = some (r, p)) db := by
  have inserts (t : WithdrawalDb) (same : t = db) :
      Wlp (onLedger (insertWithdrawal clock r)) (fun _ u => requestOf { u with recipients := u.recipients ++ [p] } r.id = some (r, p)) t := by
    rw [same, onLedger, wlp_zoom]
    refine wlp_mono _ _ (insertWithdrawal_creates clock db.gds r) ?_
    intro _ g created
    have new := free_key (fun x : Withdrawal => x.id) _ r created.fresh
    have row : withdrawalById g r.id = some r := by
      unfold withdrawalById
      rw [created.withdrawals]
      exact find_append_fresh _ _ r (fun x member => decide_eq_false (new x member)) (decide_eq_true rfl)
    have recipient : (db.recipients ++ [p]).find? (fun q => q.withdrawalId = r.id) = some p := by
      refine find_append_fresh _ _ p (fun q member => decide_eq_false (fun same => ?_)) (decide_eq_true named)
      have paired : q.withdrawalId ∈ db.gds.withdrawals.map Withdrawal.id := by
        rw [← served.paired]
        exact List.mem_map_of_mem member
      obtain ⟨x, inTable, mine⟩ := List.mem_map.mp paired
      exact new x inTable (mine.trans same)
    unfold requestOf recipientOf
    rw [row, Option.bind_some, recipient, Option.map_some]
  unfold insertWithdrawalRow
  rw [wlp_bind]
  refine wlp_mono _ db (Q := fun _ t => t = db) ?_ (fun _ t same => ?_)
  · unfold gdsWithdrawalVerificationGuard
    rw [wlp_bind, wlp_get]
    split
    · simp only [wlp_bind, wlp_require]
      exact fun _ _ => trivial
    · simp only [wlp_bind, wlp_require, wlp_orThrow]
      exact fun _ _ _ => trivial
  · simp only [wlp_bind, wlp_get, wlp_require, wlp_modify]
    exact fun _ _ => inserts t same

theorem insertEventRow_opens (e : WithdrawalEvent) (opening : e.fromStatus = none) (id : Uuid) :
    Wlp (insertEventRow svc.names clock e) (fun _ t => requestOf t id = requestOf db id) db := by
  simp only [insertEventRow, onLedger, wlp_bind, wlp_get, wlp_require, wlp_zoom]
  intro _ _
  refine wlp_mono _ _ (insertWithdrawalEvent_moves clock db.gds e) ?_
  rintro _ g ⟨r, _, recorded | moved⟩
  · unfold requestOf withdrawalById recipientOf
    rw [recorded.withdrawals]
  · have source := moved.moves.starts
    rw [opening] at source
    cases source

-- Details that the row keeps as they were sent: a check under its id in lower case, or without one a holder without blanks around.
def KeptAsSent (input : CreateWithdrawal) : Prop :=
  input.verificationId.map canonicalUuid = input.verificationId ∧
  (input.verificationId = none → input.accountHolder.map jsTrim = input.accountHolder)

instance decidableKeptAsSent (input : CreateWithdrawal) : Decidable (KeptAsSent input) := by
  unfold KeptAsSent
  infer_instance

structure Answers (svc : Service) (db : WithdrawalDb) (ownerId : Uuid) (requestKey : Option String) (input : CreateWithdrawal)
    (result : Withdrawal × Recipient) : Prop where
  found : requestOf db result.1.id = some result
  owner : result.1.ownerId = ownerId
  key : ∃ key, requestKey = some key ∧ keyPattern key = true ∧ result.1.requestKeyHash = svc.hash key
  same : KeptAsSent input → sameRequest result input

theorem resolve_proof (ownerId : Uuid) (input : CreateWithdrawal) :
    Wlp (resolve now ownerId input) (fun proof t => t = db ∧ proof.map AccountVerification.id = input.verificationId.map canonicalUuid) db := by
  unfold resolve
  rw [wlp_bind, wlp_get]
  cases input.verificationId with
  | none =>
      rw [wlp_pure]
      exact ⟨rfl, rfl⟩
  | some id =>
      simp only [wlp_bind, wlp_orThrow, wlp_pure]
      intro proof chosen
      obtain ⟨found, _⟩ := Option.filter_eq_some_iff.mp chosen
      obtain ⟨_, named⟩ := find_some _ _ proof found
      refine ⟨trivial, ?_⟩
      rw [Option.map_some, Option.map_some, of_decide_eq_true named]

theorem requested_same (draw : CreateDraw) (ownerId keyHash : String) (input : CreateWithdrawal)
    (settings : WithdrawalSettings) (wallet : Wallet)
    (proof : Option AccountVerification) (holder : String)
    (proven : proof.map AccountVerification.id = input.verificationId.map canonicalUuid) (held : holderOf input proof = some holder)
    (pattern : amountPattern input.amountMinor = true) (kept : KeptAsSent input) :
    sameRequest (requestedRow now draw ownerId keyHash settings wallet (amountOf input.amountMinor),
        requestedRecipient draw input holder proof) input := by
  have proven := proven.trans kept.1
  refine ⟨⟨amount_text input.amountMinor pattern, rfl, rfl⟩, fun _ => proven, fun unverified => ?_⟩
  cases proof with
  | some v => cases unverified
  | none =>
      rw [← kept.2 proven.symm]
      exact held.symm

theorem admit_answers (served : Served svc db) (draw : CreateDraw) (ownerId : Uuid) (input : CreateWithdrawal) (key : String)
    (keyed : keyPattern key = true) :
    Wlp (admitNew svc now clock sync draw ownerId input (svc.hash key)) (fun result t => Answers svc t ownerId (some key) input result) db := by
  simp only [admitNew, requireProcessing, wlp_bind, wlp_get, wlp_require]
  intro _ _ _
  refine wlp_mono _ db (resolve_proof now db ownerId input) ?_
  rintro proof t ⟨same, proven⟩
  rw [same]
  simp only [wlp_orThrow]
  intro holder chosen _
  obtain ⟨held, _⟩ := Option.filter_eq_some_iff.mp chosen
  refine wlp_mono _ db (syncOwner_writes now sync ownerId db) ?_
  rintro _ u ⟨g, quiet, rfl⟩
  simp only [requireUnblocked, wlp_orThrow, validateWithdrawalAmount, wlp_bind, wlp_require, wlp_pure]
  intro wallet _ pattern _ _
  refine wlp_mono _ _ (insertWithdrawalRow_inserts svc clock _ (served_ledger served g quiet) _ _ rfl) ?_
  intro _ v found
  refine wlp_mono _ _ (insertEventRow_opens svc clock v _ rfl draw.withdrawalId) ?_
  intro _ w still
  refine ⟨still.trans found, rfl, ⟨key, rfl, keyed, rfl⟩, fun kept => ?_⟩
  exact requested_same now draw ownerId (svc.hash key) input db.gds.settings wallet proof holder proven held pattern kept

theorem create_answers (served : Served svc db) (draw : CreateDraw) (ownerId : Uuid) (input : CreateWithdrawal) (requestKey : Option String) :
    Wlp (create svc now clock sync draw ownerId input requestKey) (fun result t => Answers svc t ownerId requestKey input result) db := by
  simp only [create, wlp_bind, wlp_get, wlp_orThrow]
  intro key chosen
  obtain ⟨rfl, keyed⟩ := Option.filter_eq_some_iff.mp chosen
  cases earlier : (withdrawalByKey db.gds ownerId (svc.hash key)).bind (fun r => requestOf db r.id) with
  | none => exact admit_answers svc now clock sync db served draw ownerId input key keyed
  | some existing =>
      simp only [wlp_bind, wlp_require, wlp_pure]
      intro same
      obtain ⟨r, found, request⟩ := Option.bind_eq_some_iff.mp earlier
      obtain ⟨_, owned⟩ := find_some _ _ r found
      have owned := of_decide_eq_true owned
      obtain ⟨r', p⟩ := existing
      obtain ⟨member, id, _⟩ := requestOf_parts db r.id r' p request
      have only : r' = r := unique_eq _ _ served.book.ids r' r r.id member (find_some _ _ r found).1 (congrArg some id) rfl
      subst only
      exact ⟨request, congrArg Prod.fst owned, ⟨key, rfl, keyed, congrArg Prod.snd owned⟩, fun _ => same⟩

theorem create_again (served : Served svc db) (draw : CreateDraw) (ownerId : Uuid) (input : CreateWithdrawal) (key : String) (r : Withdrawal)
    (p : Recipient) (keyed : keyPattern key = true) (found : requestOf db r.id = some (r, p)) (owner : r.ownerId = ownerId)
    (hash : r.requestKeyHash = svc.hash key) :
    create svc now clock sync draw ownerId input (some key) db =
      if sameRequest (r, p) input then .ok ((r, p), db) else .error (.conflict "GDS_WITHDRAWAL_IDEMPOTENCY_CONFLICT") := by
  obtain ⟨member, _, _⟩ := requestOf_parts db r.id r p found
  have byKey : withdrawalByKey db.gds ownerId (svc.hash key) = some r := by
    refine find_unique (fun r => some (r.ownerId, r.requestKeyHash)) _ _ served.book.keys r (ownerId, svc.hash key) member ?_ ?_ ?_
    · exact decide_eq_true (by rw [owner, hash])
    · rw [owner, hash]
    · exact fun x _ same => congrArg some (of_decide_eq_true same)
  have chosen : (some key).filter keyPattern = some key := by
    rw [Option.filter_some, if_pos keyed]
  unfold create
  rw [chosen, bind_run _ _ db db key rfl, get_bind_run, byKey, Option.bind_some, found]
  dsimp only
  by_cases same : sameRequest (r, p) input
  · rw [if_pos same, require_bind_run _ _ _ _ same]
    rfl
  · rw [if_neg same]
    unfold require
    rw [if_neg same]
    rfl

/-- A request that was made once answers every later call under its key, whatever has become of it: the same details get the same withdrawal
and change nothing, other details are refused. -/
theorem create_retried (createdAt : Instant) (before later : List Request) (draw : CreateDraw) (ownerId : Uuid) (input : CreateWithdrawal)
    (requestKey : Option String) (result : Withdrawal × Recipient) (t : WithdrawalDb)
    (created : create svc now clock sync draw ownerId input requestKey (run (step svc) (emptyWithdrawals createdAt) before) = .ok (result, t))
    (now' clock' : Instant) (sync' : OwnerSync) (draw' : CreateDraw) (input' : CreateWithdrawal) : let db := run (step svc) t later
    ∃ r, requestOf db result.1.id = some (r, result.2) ∧ WithdrawalKept result.1 r ∧
      (KeptAsSent input → sameRequest (r, result.2) input) ∧
      create svc now' clock' sync' draw' ownerId input' requestKey db =
        if sameRequest (r, result.2) input' then .ok ((r, result.2), db) else .error (.conflict "GDS_WITHDRAWAL_IDEMPOTENCY_CONFLICT") := by
  intro db
  have served := run_served svc createdAt before
  have answers := create_answers svc now clock sync _ served draw ownerId input requestKey result t created
  have stepped : step svc (run (step svc) (emptyWithdrawals createdAt) before) (.create now clock sync draw ownerId input requestKey) = t := by
    show commit (create svc now clock sync draw ownerId input requestKey) _ = t
    unfold commit
    rw [created]
  have served' : Served svc t := stepped ▸ step_served svc _ _ served
  have carries := run_carries svc t later served'
  have servedLater : Served svc db := run_invariant (step svc) (Served svc) (fun s request => step_served svc s request) t later served'
  obtain ⟨r₀, p⟩ := result
  obtain ⟨member, _, recipient⟩ := requestOf_parts t r₀.id r₀ p answers.found
  obtain ⟨r, inTable, kept⟩ := carries.withdrawals r₀ member
  have recipient' : recipientOf db r.id = some p := by
    rw [kept.id]
    exact carries.recipients r₀.id p recipient
  have found := requestOf_found servedLater.book.ids r p inTable recipient'
  obtain ⟨key, rfl, keyed, hash⟩ := answers.key
  refine ⟨r, ?_, kept, fun unchanged => ?_, ?_⟩
  · show requestOf db r₀.id = _
    rw [← kept.id]
    exact found
  · have same := answers.same unchanged
    unfold sameRequest at same ⊢
    dsimp only at same ⊢
    rw [kept.amount]
    exact same
  · exact create_again svc now' clock' sync' db servedLater draw' ownerId input' key r p keyed found
      (kept.owner.trans answers.owner) (kept.key.trans hash)

-- A request that is sent again after its transfer was claimed and paid.
theorem paid_request_retried : ∃ result t, create sampleService 4 4 sampleSync { withdrawalId := "withdrawal", eventId := "withdrawal" } "owner"
    sampleInput (some "0123456789abcdef") (run (step sampleService) (emptyWithdrawals 0) sampleFunded) = .ok (result, t) ∧
      ∃ r, create sampleService 9 9 sampleSync { withdrawalId := "third", eventId := "third" } "owner" sampleInput (some "0123456789abcdef")
        (run (step sampleService) t (samplePaidRequests.drop 7)) = .ok
            ((r, result.2), run (step sampleService) t (samplePaidRequests.drop 7)) := by
  obtain ⟨result, t, created⟩ : ∃ result t, create sampleService 4 4 sampleSync { withdrawalId := "withdrawal", eventId := "withdrawal" } "owner"
      sampleInput (some "0123456789abcdef") (run (step sampleService) (emptyWithdrawals 0) sampleFunded) = .ok (result, t) := ⟨_, _, rfl⟩
  obtain ⟨r, _, _, same, again⟩ := create_retried sampleService 4 4 sampleSync 0 sampleFunded (samplePaidRequests.drop 7) _ "owner" sampleInput
    (some "0123456789abcdef") result t created 9 9 sampleSync { withdrawalId := "third", eventId := "third" } sampleInput
  rw [if_pos (same (by decide))] at again
  exact ⟨result, t, created, r, again⟩

end Retries

end EduAi.Gds.Withdrawals
