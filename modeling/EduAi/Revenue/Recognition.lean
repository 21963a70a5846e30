import EduAi.Revenue.SnapshotRuns

set_option autoImplicit false

namespace EduAi.Revenue

open EduAi.Store EduAi.Gds EduAi.Commerce EduAi.Payments EduAi.Memberships

section Verified

variable (deployment : Deployment) (payments : System) (order : CommerceOrder)

theorem isVerified_answers (bank : BankSound deployment payments) :
    ∃ verified, isVerified deployment payments.now order payments.db = .ok (verified, payments.db) := by
  unfold isVerified
  rw [get_bind_run]
  cases found : confirmingSettlement payments.db order with
  | none => exact ⟨false, rfl⟩
  | some x =>
      dsimp only
      by_cases mismatch : order.status ≠ .confirmed ∨ x.orderId ≠ order.id ∨ x.amountMinor ≠ order.payableAmountMinor ∨
          x.currency ≠ "VND" ∨ order.currency ≠ "VND"
      · rw [if_pos mismatch]
        exact ⟨false, rfl⟩
      · rw [if_neg mismatch]
        by_cases free : x.kind = .noPaymentRequired
        · rw [if_pos free]
          exact ⟨_, rfl⟩
        · rw [if_neg free]
          by_cases bankTransfer : x.provider = some .bankTransfer
          · obtain ⟨_, _, byId⟩ := Option.bind_eq_some_iff.mp found
            obtain ⟨member, _⟩ := settlementById_some payments.db _ x byId
            have own : x.orderId = order.id := by
              by_contra differs
              exact mismatch (Or.inr (Or.inl differs))
            have proof := proof_succeeds deployment payments bank x member bankTransfer
            rw [own] at proof
            rw [if_pos bankTransfer, bind_run _ _ _ _ _ proof]
            exact ⟨true, rfl⟩
          · rw [if_neg bankTransfer]
            by_cases wallet : x.kind = .walletCapture ∧ x.provider = some .gds ∧ x.disposition = .internal
            · rw [if_pos wallet]
              exact ⟨_, rfl⟩
            · rw [if_neg wallet]
              exact ⟨_, rfl⟩

theorem verified_settlement (u : CommerceDb) (verified : isVerified deployment payments.now order payments.db = .ok (true, u)) :
    ∃ x, confirmingSettlement payments.db order = some x ∧ x.orderId = order.id := by
  unfold isVerified at verified
  rw [get_bind_run] at verified
  cases found : confirmingSettlement payments.db order with
  | none =>
      rw [found] at verified
      cases verified
  | some x =>
      rw [found] at verified
      dsimp only at verified
      by_cases mismatch : order.status ≠ .confirmed ∨ x.orderId ≠ order.id ∨ x.amountMinor ≠ order.payableAmountMinor ∨
          x.currency ≠ "VND" ∨ order.currency ≠ "VND"
      · rw [if_pos mismatch] at verified
        cases verified
      · refine ⟨x, rfl, ?_⟩
        by_contra differs
        exact mismatch (Or.inr (Or.inl differs))

theorem verified_refunds (refunds : RefundSound payments.db) (u : CommerceDb)
    (verified : isVerified deployment payments.now order payments.db = .ok (true, u)) : RefundsOfOrder payments.db order := by
  obtain ⟨x, found, own⟩ := verified_settlement deployment payments order u verified
  obtain ⟨id, confirmed, byId⟩ := Option.bind_eq_some_iff.mp found
  obtain ⟨member, named⟩ := settlementById_some payments.db id x byId
  intro r hr against
  rw [confirmed] at against
  obtain ⟨y, hy, named', ordered⟩ := (refunds.refunds r hr).settlement
  have same : y = x := unique_eq (fun s => some s.id) _ refunds.whole.delivered.backed.keys.settlements.ids y x x.id hy member
    (by rw [named', named, Option.some.inj against]) rfl
  rw [← ordered, same, own]

end Verified

section Runs

variable (deployment : Deployment) (createdAt : Instant) (s : RevenueOrderSnapshot)

def paymentsAt (r : RevenueRun) : System :=
  run (step deployment) (System.start createdAt) r.history

def revenueStep (db : RevenueDb) (r : RevenueRun) : RevenueDb :=
  commit (processSnapshot deployment (paymentsAt deployment createdAt r) r s.id) db

def cumulativeRefund (r : RevenueRun) : Int :=
  let commerce := (paymentsAt deployment createdAt r).db
  ((orderById commerce s.orderId).map (fun order => recordedRefund commerce order s.id)).getD 0

structure Settles (db : RevenueDb) (r : RevenueRun) (order : CommerceOrder) : Prop where
  found : orderById (paymentsAt deployment createdAt r).db s.orderId = some order
  verified : ∃ u, isVerified deployment (paymentsAt deployment createdAt r).now order (paymentsAt deployment createdAt r).db = .ok (true, u)
  ready : Ready (paymentsAt deployment createdAt r).db db s r order

def SubscriptionTerm (r : RevenueRun) : Prop :=
  s.productType = .membership → ∀ m ∈ (paymentsAt deployment createdAt r).db.subscriptions, m.sourceOrderLineId = some s.id →
    r.months ≤ 1200 ∧ addCalendarMonths (some m.startsAt) r.months = .ok (some m.expiresAt)

-- No more than the line's amount is refunded; and where the periods are still to be made, the ids drawn for them are new ones.
structure Admissible (db : RevenueDb) (r : RevenueRun) : Prop where
  refunded : cumulativeRefund deployment createdAt s r ≤ s.basisAmountMinor
  dated : periodsOf db s.id = [] → s.participants ≠ [] → SubscriptionTerm deployment createdAt s r
  fresh : periodsOf db s.id = [] → s.participants ≠ [] → ∀ order ∈ orderById (paymentsAt deployment createdAt r).db s.orderId,
    ∀ term ∈ earningTerm (paymentsAt deployment createdAt r).db r s order, FreshIds db s r term.months

structure SnapshotSound (db : RevenueDb) (cumulative : Int) : Prop where
  keys : RevenueKeys db
  stored : snapshotById db s.id = some s
  settled : Settled db s cumulative

variable (captured : Captured s) (db : RevenueDb) (r : RevenueRun)

theorem term_dated (subscription : SubscriptionTerm deployment createdAt s r) (order : CommerceOrder) (term : EarningTerm)
    (given : earningTerm (paymentsAt deployment createdAt r).db r s order = some term) : TermDated term := by
  unfold earningTerm at given
  cases product : s.productType with
  | course =>
      rw [product] at given
      obtain rfl := Option.some.inj given
      exact course_dated _
  | membership =>
      rw [product] at given
      obtain ⟨m, found, given⟩ := Option.bind_eq_some_iff.mp given
      obtain ⟨_, _, given⟩ := Option.bind_eq_some_iff.mp given
      obtain rfl := Option.some.inj given
      obtain ⟨member, own⟩ := find_some _ _ m found
      obtain ⟨bounded, expiry⟩ := subscription product m member (of_decide_eq_true own)
      exact membership_dated r.months m.startsAt m.expiresAt bounded expiry

structure Processed (t : RevenueDb) (later : Int) : Prop where
  idle : (∀ order, ¬ Settles deployment createdAt s db r order) → t = db
  settled : ∀ order, Settles deployment createdAt s db r order → ∃ u source, Created db u s later ∧ RevenueKeys t ∧
    t = settledDb u s later source r.now

include captured in
theorem processSnapshot_wp (cumulative : Int) (sound : SnapshotSound s db cumulative) (admissible : Admissible deployment createdAt s db r)
    (grown : cumulative ≤ cumulativeRefund deployment createdAt s r) :
    Wp (processSnapshot deployment (paymentsAt deployment createdAt r) r s.id)
      (fun _ t => Processed deployment createdAt s db r t (cumulativeRefund deployment createdAt s r)) db := by
  have bank := run_bankSound deployment _ r.history (start_bankSound deployment createdAt)
  have refunds : RefundSound (paymentsAt deployment createdAt r).db :=
    run_invariant (step deployment) (fun s => RefundSound s.db) (step_refundSound deployment) _ r.history (start_refundSound createdAt)
  have stored := (find_some _ _ s sound.stored).1
  unfold processSnapshot
  rw [wp_bind, wp_get, wp_bind, wp_orThrow]
  refine ⟨s, sound.stored, ?_⟩
  cases found : orderById (paymentsAt deployment createdAt r).db s.orderId with
  | none =>
      dsimp only
      rw [wp_pure]
      refine ⟨fun _ => rfl, fun order settles => ?_⟩
      have named := settles.found
      rw [found] at named
      cases named
  | some order =>
      obtain ⟨verified, answered⟩ := isVerified_answers deployment (paymentsAt deployment createdAt r) order bank
      have only : ∀ order', Settles deployment createdAt s db r order' → order' = order ∧ verified = true := by
        intro order' settles
        obtain rfl := Option.some.inj (found.symm.trans settles.found)
        obtain ⟨u, ok⟩ := settles.verified
        rw [answered] at ok
        exact ⟨rfl, (Prod.mk.inj (Except.ok.inj ok)).1⟩
      have amount : cumulativeRefund deployment createdAt s r =
          recordedRefund (paymentsAt deployment createdAt r).db order s.id := by
        simp only [cumulativeRefund, found, Option.map_some, Option.getD_some]
      dsimp only
      rw [wp_bind]
      refine (wp_ran _ _ db db verified (by unfold readCommerce; rw [answered]; rfl)).mpr ?_
      refine (wp_ite _ _ _ _ _).mpr ⟨fun passes => ?_, fun fails => ?_⟩
      · have ok := answered
        rw [passes] at ok
        obtain ⟨member, named⟩ := orderById_some (paymentsAt deployment createdAt r).db s.orderId order found
        have own := verified_refunds deployment (paymentsAt deployment createdAt r) order refunds _ ok
        rw [amount] at grown ⊢
        have fits : recordedRefund (paymentsAt deployment createdAt r).db order s.id ≤ s.basisAmountMinor := by
          rw [← amount]
          exact admissible.refunded
        refine wp_mono _ _ (settleSnapshot_wp (paymentsAt deployment createdAt r).db db s r order captured sound.keys stored cumulative grown
          fits sound.settled member named own (fun none some' term given =>
            ⟨term_dated deployment createdAt s r (admissible.dated none some') order term given,
              admissible.fresh none some' order found term given⟩)) ?_
        rintro _ t ⟨blocked, goes⟩
        refine ⟨fun none => blocked (fun ready => none order ⟨found, ⟨_, ok⟩, ready⟩), fun order' settles => ?_⟩
        obtain ⟨rfl, _⟩ := only order' settles
        obtain ⟨u, created, keys, same⟩ := goes settles.ready
        exact ⟨u, _, created, keys, same⟩
      · rw [wp_pure]
        exact ⟨fun _ => rfl, fun order' settles => absurd (only order' settles).2 fails⟩

include captured in
theorem revenueStep_processed (cumulative : Int) (sound : SnapshotSound s db cumulative) (admissible : Admissible deployment createdAt s db r)
    (grown : cumulative ≤ cumulativeRefund deployment createdAt s r) :
    processSnapshot deployment (paymentsAt deployment createdAt r) r s.id db = .ok ((), revenueStep deployment createdAt s db r) ∧
      Processed deployment createdAt s db r (revenueStep deployment createdAt s db r) (cumulativeRefund deployment createdAt s r) := by
  obtain ⟨_, t, ran, processed⟩ := processSnapshot_wp deployment createdAt s captured db r cumulative sound admissible grown
  have same : revenueStep deployment createdAt s db r = t := commit_ok _ db t _ ran
  rw [same]
  exact ⟨ran, processed⟩

structure Shown (t : RevenueDb) (cumulative : Int) : Prop where
  sound : SnapshotSound s t cumulative
  table : TermTable s (periodsOf t s.id)
  made : periodsOf t s.id = [] → s.participants = []

include captured in
theorem settledDb_shown (stored : snapshotById db s.id = some s) (t u : RevenueDb) (later : Int) (source : Option Uuid)
    (created : Created db u s later) (keys : RevenueKeys t) (same : t = settledDb u s later source r.now) : Shown s t later := by
  have snapshots : t.snapshots = db.snapshots := by
    rw [same]
    exact created.snapshots
  have settled := settledDb_settled db s captured u later source r.now created
  rw [← same] at settled
  refine ⟨⟨keys, ?_, settled⟩, ?_, ?_⟩
  · unfold snapshotById at stored ⊢
    rw [snapshots]
    exact stored
  · rw [same]
    exact created.table
  · rw [same]
    exact created.made

structure StepKeeps (t : RevenueDb) (later : Int) : Prop where
  sound : ∃ cumulative, cumulative ≤ later ∧ SnapshotSound s t cumulative
  shown : ∀ order, Settles deployment createdAt s db r order → Shown s t later
  periods : periodsOf db s.id ≠ [] → periodsOf t s.id = periodsOf db s.id

include captured in
theorem step_keeps (cumulative : Int) (sound : SnapshotSound s db cumulative) (admissible : Admissible deployment createdAt s db r)
    (grown : cumulative ≤ cumulativeRefund deployment createdAt s r) :
    StepKeeps deployment createdAt s db r (revenueStep deployment createdAt s db r) (cumulativeRefund deployment createdAt s r) := by
  obtain ⟨_, processed⟩ := revenueStep_processed deployment createdAt s captured db r cumulative sound admissible grown
  have shown : ∀ order, Settles deployment createdAt s db r order →
      Shown s (revenueStep deployment createdAt s db r) (cumulativeRefund deployment createdAt s r) := by
    intro order settles
    obtain ⟨u, source, created, keys, same⟩ := processed.settled order settles
    exact settledDb_shown s captured db r sound.stored _ u _ source created keys same
  by_cases settles : ∃ order, Settles deployment createdAt s db r order
  · obtain ⟨order, settles⟩ := settles
    refine ⟨⟨_, Int.le_refl _, (shown order settles).sound⟩, shown, fun present => ?_⟩
    obtain ⟨u, source, created, _, same⟩ := processed.settled order settles
    have kept := created.kept (Or.inl present)
    rw [same, kept]
    rfl
  · have same := processed.idle (fun order settled => settles ⟨order, settled⟩)
    refine ⟨⟨cumulative, grown, ?_⟩, shown, fun _ => ?_⟩
    · rw [same]
      exact sound
    · rw [same]

structure Proper (db : RevenueDb) (runs : List RevenueRun) : Prop where
  meets : AllMeet (revenueStep deployment createdAt s) (Admissible deployment createdAt s) db runs
  grows : (runs.map (cumulativeRefund deployment createdAt s)).Pairwise (· ≤ ·)

def netAfter (t : RevenueDb) (p : EarningPeriodRow) : Int :=
  netEarning p (entriesOf t p.id)

-- What a run comes to: it commits, every period is worth its amount less its current refund target, and a repetition adds nothing.
structure RunAnswers (db : RevenueDb) (r : RevenueRun) : Prop where
  commits : ∃ t, processSnapshot deployment (paymentsAt deployment createdAt r) r s.id db = .ok ((), t)
  net : ∀ order, Settles deployment createdAt s db r order →
    let t := revenueStep deployment createdAt s db r
    ∀ p ∈ periodsOf t s.id,
      netAfter t p = p.amountMinor - refundTarget s (periodsOf t s.id) (cumulativeRefund deployment createdAt s r) p ∧
      0 ≤ netAfter t p ∧ netAfter t p ≤ p.amountMinor
  idle : ∀ order, Settles deployment createdAt s db r order →
    let t := revenueStep deployment createdAt s db r
    ∀ again, cumulativeRefund deployment createdAt s again = cumulativeRefund deployment createdAt s r →
      (∀ p ∈ periodsOf t s.id, p.dueAt ≤ again.now → isRecognized (entriesOf t p.id) = true) →
      revenueStep deployment createdAt s t again = t

include captured in
theorem shown_net (t : RevenueDb) (cumulative : Int) (shown : Shown s t cumulative) (fits : cumulative ≤ s.basisAmountMinor)
    (p : EarningPeriodRow) (hp : p ∈ periodsOf t s.id) :
    netAfter t p = p.amountMinor - refundTarget s (periodsOf t s.id) cumulative p ∧ 0 ≤ netAfter t p ∧ netAfter t p ≤ p.amountMinor := by
  have net := ledger_net p _ cumulative _ (shown.sound.settled.ledgers p hp)
  have bounds := refundTarget_bounds s _ captured shown.table cumulative fits p hp
  unfold netAfter
  rw [net]
  exact ⟨rfl, by omega, by omega⟩

include captured in
theorem run_answers (cumulative : Int) (sound : SnapshotSound s db cumulative) (admissible : Admissible deployment createdAt s db r)
    (grown : cumulative ≤ cumulativeRefund deployment createdAt s r) : RunAnswers deployment createdAt s db r := by
  obtain ⟨ran, _⟩ := revenueStep_processed deployment createdAt s captured db r cumulative sound admissible grown
  have keeps := step_keeps deployment createdAt s captured db r cumulative sound admissible grown
  refine ⟨⟨_, ran⟩, fun order settles => ?_, fun order settles => ?_⟩
  · have shown := keeps.shown order settles
    exact shown_net s captured _ _ shown admissible.refunded
  · intro t again same recognized
    have shown := keeps.shown order settles
    have meets : Admissible deployment createdAt s t again :=
      ⟨by rw [same]; exact admissible.refunded, fun none some' => absurd (shown.made none) some',
        fun none some' => absurd (shown.made none) some'⟩
    obtain ⟨_, processed⟩ := revenueStep_processed deployment createdAt s captured t again _ shown.sound meets (le_of_eq same.symm)
    by_cases repeats : ∃ order, Settles deployment createdAt s t again order
    · obtain ⟨order', settles'⟩ := repeats
      obtain ⟨u, source, created, _, left⟩ := processed.settled order' settles'
      have present : periodsOf t s.id ≠ [] ∨ s.participants = [] := by
        by_cases none : periodsOf t s.id = []
        · exact Or.inr (shown.made none)
        · exact Or.inl none
      rw [left, created.kept present, same]
      exact settledDb_idle s t shown.table _ shown.sound.settled source again.now recognized
    · exact processed.idle (fun order' settled => repeats ⟨order', settled⟩)

-- The state of a snapshot along a run of processing: never beyond the refunds seen, and its periods once made are kept.
structure RunKeeps (runs : List RevenueRun) (cumulative : Int) (t : RevenueDb) : Prop where
  sound : ∃ reached, SnapshotSound s t reached ∧
    ∀ bound, cumulative ≤ bound → (∀ r ∈ runs, cumulativeRefund deployment createdAt s r ≤ bound) → reached ≤ bound
  periods : periodsOf db s.id ≠ [] → periodsOf t s.id = periodsOf db s.id

theorem proper_rest (rest : List RevenueRun) (proper : Proper deployment createdAt s db (r :: rest)) :
    Proper deployment createdAt s (revenueStep deployment createdAt s db r) rest ∧
      ∀ later ∈ rest, cumulativeRefund deployment createdAt s r ≤ cumulativeRefund deployment createdAt s later := by
  have grows := proper.grows
  rw [List.map_cons, List.pairwise_cons] at grows
  exact ⟨⟨proper.meets.2, grows.2⟩, fun later member => grows.1 _ (List.mem_map_of_mem member)⟩

include captured in
theorem run_keeps (runs : List RevenueRun) (cumulative : Int) (sound : SnapshotSound s db cumulative)
    (proper : Proper deployment createdAt s db runs) (grown : ∀ r ∈ runs, cumulative ≤ cumulativeRefund deployment createdAt s r) :
    RunKeeps deployment createdAt s db runs cumulative (run (revenueStep deployment createdAt s) db runs) := by
  induction runs generalizing db cumulative with
  | nil => exact ⟨⟨cumulative, sound, fun _ low _ => low⟩, fun _ => rfl⟩
  | cons r rest ih =>
      obtain ⟨proper', later⟩ := proper_rest deployment createdAt s db r rest proper
      have keeps := step_keeps deployment createdAt s captured db r cumulative sound proper.meets.1 (grown r (by simp))
      obtain ⟨reached, below, sound'⟩ := keeps.sound
      have kept := ih _ reached sound' proper' (fun r' member => le_trans below (later r' member))
      obtain ⟨final, finalSound, bounds⟩ := kept.sound
      refine ⟨⟨final, finalSound, fun bound _ every => ?_⟩, fun present => ?_⟩
      · exact bounds bound (le_trans below (every r (by simp))) (fun r' member => every r' (by simp [member]))
      · have same := keeps.periods present
        rw [run_cons, kept.periods (by rw [same]; exact present), same]

include captured in
theorem runs_answer (runs : List RevenueRun) (cumulative : Int) (sound : SnapshotSound s db cumulative)
    (proper : Proper deployment createdAt s db runs) (grown : ∀ r ∈ runs, cumulative ≤ cumulativeRefund deployment createdAt s r) :
    AllMeet (revenueStep deployment createdAt s) (RunAnswers deployment createdAt s) db runs := by
  induction runs generalizing db cumulative with
  | nil => trivial
  | cons r rest ih =>
      obtain ⟨proper', later⟩ := proper_rest deployment createdAt s db r rest proper
      have low := grown r (by simp)
      have keeps := step_keeps deployment createdAt s captured db r cumulative sound proper.meets.1 low
      obtain ⟨reached, below, sound'⟩ := keeps.sound
      exact ⟨run_answers deployment createdAt s captured db r cumulative sound proper.meets.1 low,
        ih _ reached sound' proper' (fun r' member => le_trans below (later r' member))⟩

theorem unearned_sound (keys : RevenueKeys db) (stored : snapshotById db s.id = some s) (new : periodsOf db s.id = [])
    (cumulative : Int) : SnapshotSound s db cumulative :=
  ⟨keys, stored, ⟨fun present => absurd new present, fun p hp => (by rw [new] at hp; cases hp)⟩⟩

theorem unearned_below (runs : List RevenueRun) (grows : (runs.map (cumulativeRefund deployment createdAt s)).Pairwise (· ≤ ·)) :
    ∃ cumulative, ∀ r ∈ runs, cumulative ≤ cumulativeRefund deployment createdAt s r := by
  cases runs with
  | nil => exact ⟨0, fun _ member => (by cases member)⟩
  | cons r rest =>
      rw [List.map_cons, List.pairwise_cons] at grows
      refine ⟨cumulativeRefund deployment createdAt s r, fun r' member => ?_⟩
      rcases List.mem_cons.mp member with rfl | later
      · exact Int.le_refl _
      · exact grows.1 _ (List.mem_map_of_mem later)

include captured in
theorem last_net (first xs : List RevenueRun) (last : RevenueRun) (keys : RevenueKeys db) (stored : snapshotById db s.id = some s)
    (new : periodsOf db s.id = []) (proper : Proper deployment createdAt s db (first ++ (xs ++ [last])))
    (present : periodsOf (run (revenueStep deployment createdAt s) db first) s.id ≠ [])
    (settles : ∃ order, Settles deployment createdAt s (run (revenueStep deployment createdAt s) db (first ++ xs)) last order)
    (p : EarningPeriodRow) (hp : p ∈ periodsOf (run (revenueStep deployment createdAt s) db first) s.id) :
    netAfter (run (revenueStep deployment createdAt s) db (first ++ (xs ++ [last]))) p = p.amountMinor -
      refundTarget s (periodsOf (run (revenueStep deployment createdAt s) db first) s.id) (cumulativeRefund deployment createdAt s last) p := by
  obtain ⟨cumulative, low⟩ := unearned_below deployment createdAt s _ proper.grows
  have sound := unearned_sound s db keys stored new cumulative
  have meets := proper.meets
  have grows := proper.grows
  rw [allMeet_append] at meets
  obtain ⟨meetsFirst, meetsLater⟩ := meets
  rw [allMeet_append] at meetsLater
  rw [List.map_append, List.pairwise_append] at grows
  obtain ⟨growsFirst, growsLater, across⟩ := grows
  have kept := run_keeps deployment createdAt s captured db first cumulative sound ⟨meetsFirst, growsFirst⟩
    (fun r member => low r (by simp [member]))
  obtain ⟨reached, sound', bounds⟩ := kept.sound
  have below : ∀ r ∈ xs ++ [last], reached ≤ cumulativeRefund deployment createdAt s r := by
    intro r member
    exact bounds _ (low r (List.mem_append_right _ member)) (fun r' member' => across _ (List.mem_map_of_mem member') _
        (List.mem_map_of_mem member))
  rw [List.map_append, List.pairwise_append] at growsLater
  have kept' := run_keeps deployment createdAt s captured _ xs reached sound' ⟨meetsLater.1, growsLater.1⟩
    (fun r member => below r (by simp [member]))
  obtain ⟨reached', sound'', bounds'⟩ := kept'.sound
  have low' : reached' ≤ cumulativeRefund deployment createdAt s last :=
    bounds' _ (below last (by simp)) (fun r member => growsLater.2.2 _ (List.mem_map_of_mem member) _ (by simp))
  obtain ⟨order, settles⟩ := settles
  rw [run_append] at settles
  have keeps := step_keeps deployment createdAt s captured _ last reached' sound'' meetsLater.2.1 low'
  have shown := keeps.shown order settles
  have same : periodsOf (revenueStep deployment createdAt s (run (revenueStep deployment createdAt s)
      (run (revenueStep deployment createdAt s) db first) xs) last) s.id =
      periodsOf (run (revenueStep deployment createdAt s) db first) s.id := by
    have once := kept'.periods present
    rw [keeps.periods (by rw [once]; exact present), once]
  rw [run_append, run_append, run_cons, run_nil]
  rw [← same] at hp ⊢
  exact (shown_net s captured _ _ shown meetsLater.2.1.refunded p hp).1

end Runs

section Recognition

variable (deployment : Deployment) (createdAt : Instant) (line : CommerceOrderLine) (fee : Int) (recipients : List Recipient)

/-- Over every sequence of runs with growing refunds each period is worth its amount less its current refund target, in whatever
order refunds and recognitions came. -/
theorem revenue_recognition (s : RevenueOrderSnapshot) (captured : captureLine line fee recipients = .ok s)
    (apart : "platform" ∉ recipients.map (·.courseId)) (db : RevenueDb) (keys : RevenueKeys db) (stored : snapshotById db s.id = some s)
    (new : periodsOf db s.id = []) :
    (∀ runs, Proper deployment createdAt s db runs →
      AllMeet (revenueStep deployment createdAt s) (RunAnswers deployment createdAt s) db runs) ∧
    ∀ first xs ys i j, Proper deployment createdAt s db (first ++ (xs ++ [i])) → Proper deployment createdAt s db (first ++ (ys ++ [j])) →
      periodsOf (run (revenueStep deployment createdAt s) db first) s.id ≠ [] →
      (∃ order, Settles deployment createdAt s (run (revenueStep deployment createdAt s) db (first ++ xs)) i order) →
      (∃ order, Settles deployment createdAt s (run (revenueStep deployment createdAt s) db (first ++ ys)) j order) →
      cumulativeRefund deployment createdAt s i = cumulativeRefund deployment createdAt s j →
      ∀ p ∈ periodsOf (run (revenueStep deployment createdAt s) db first) s.id,
        netAfter (run (revenueStep deployment createdAt s) db (first ++ (xs ++ [i]))) p =
          netAfter (run (revenueStep deployment createdAt s) db (first ++ (ys ++ [j]))) p := by
  have whole := captureLine_captured line fee recipients s captured apart
  constructor
  · intro runs proper
    obtain ⟨cumulative, low⟩ := unearned_below deployment createdAt s runs proper.grows
    exact runs_answer deployment createdAt s whole db runs cumulative (unearned_sound s db keys stored new cumulative) proper low
  · intro first xs ys i j proper proper' present settles settles' same p hp
    rw [last_net deployment createdAt s whole db first xs i keys stored new proper present settles p hp,
      last_net deployment createdAt s whole db first ys j keys stored new proper' present settles' p hp, same]

end Recognition

def sampleRecipients : List Recipient :=
  [⟨"course-1", "seller", 1⟩]

def sampleSnapshot : RevenueOrderSnapshot where
  id := "line-item-1"
  orderId := "order-1"
  productType := .course
  platformFeeBps := 2000
  basisAmountMinor := 100000
  platformAmountMinor := 20000
  sellerAmountMinor := 80000
  participants := [⟨⟨"course-1", "seller", 1⟩, 80000⟩]

def sampleLedger : RevenueDb where
  snapshots := [sampleSnapshot]
  periods := []
  entries := []

def sampleRun (history : List Input) : RevenueRun where
  history := history
  orderCreatedAt := 0
  months := 1
  now := 0
  periodId := fun courseId _ => "period-" ++ courseId

def sampleFulfilled : List Input :=
  sampleOpened ++ [.fulfill sampleAccess "order-1" "collected-1"]

def samplePartRefunded : List Input :=
  sampleFulfilled ++ [.requestRefund "refund-1" (sampleRefund "1" 40000), .recordRefund (sampleDecision "refund-1" "bank-1")]

def sampleFirstRefund : List Input :=
  sampleFulfilled ++ [.requestRefund "refund-1" (sampleRefund "1" 10000), .recordRefund (sampleDecision "refund-1" "bank-1")]

def sampleBothRefunds : List Input :=
  sampleFirstRefund ++ [.requestRefund "refund-2" { sampleRefund "1" 30000 with keyHash := "refund-key-2" },
    .recordRefund (sampleDecision "refund-2" "bank-2")]

theorem sampleLedger_keys : RevenueKeys sampleLedger :=
  ⟨unique_nil _, unique_nil _, unique_nil _, fun _ member => (by cases member), fun _ member => (by cases member)⟩

theorem first_admissible : Admissible sampleDeployment 0 sampleSnapshot sampleLedger (sampleRun sampleFulfilled) := by
  refine ⟨by decide +kernel, fun _ _ membership => (by cases membership), fun _ _ order _ term found => ?_⟩
  obtain rfl := Option.some.inj found
  have distinct : (drawnIds sampleSnapshot (sampleRun sampleFulfilled) 1).Nodup := by decide
  exact ⟨distinct, fun _ _ p member => (by cases member)⟩

theorem later_admissible (db : RevenueDb) (made : periodsOf db sampleSnapshot.id ≠ []) (r : RevenueRun)
    (refunded : cumulativeRefund sampleDeployment 0 sampleSnapshot r ≤ sampleSnapshot.basisAmountMinor) :
    Admissible sampleDeployment 0 sampleSnapshot db r :=
  ⟨refunded, fun none => absurd none made, fun none => absurd none made⟩

theorem verified_settles (db : RevenueDb) (made : periodsOf db sampleSnapshot.id ≠ []) (r : RevenueRun)
    (verified : (orderById (paymentsAt sampleDeployment 0 r).db sampleSnapshot.orderId).map (fun order =>
      (isVerified sampleDeployment (paymentsAt sampleDeployment 0 r).now order (paymentsAt sampleDeployment 0 r).db).toOption.map Prod.fst) =
        some (some true)) : ∃ order, Settles sampleDeployment 0 sampleSnapshot db r order := by
  obtain ⟨order, found, answered⟩ := Option.map_eq_some_iff.mp verified
  obtain ⟨⟨answer, u⟩, ran, truth⟩ := ok_of_answer _ Prod.fst true answered
  cases truth
  exact ⟨order, found, ⟨u, ran⟩, fun none => absurd none made⟩

-- One refund and two of the same sum leave every period with the same net.
theorem revenue_recognition_sample :
    captureLine sampleReturnedLine 2000 sampleRecipients = .ok sampleSnapshot ∧
      AllMeet (revenueStep sampleDeployment 0 sampleSnapshot) (RunAnswers sampleDeployment 0 sampleSnapshot) sampleLedger
        [sampleRun sampleFulfilled, sampleRun samplePartRefunded] ∧
      ∀ p ∈ periodsOf (run (revenueStep sampleDeployment 0 sampleSnapshot) sampleLedger [sampleRun sampleFulfilled]) sampleSnapshot.id,
        netAfter (run (revenueStep sampleDeployment 0 sampleSnapshot) sampleLedger
          [sampleRun sampleFulfilled, sampleRun samplePartRefunded]) p =
        netAfter (run (revenueStep sampleDeployment 0 sampleSnapshot) sampleLedger
          [sampleRun sampleFulfilled, sampleRun sampleFirstRefund, sampleRun sampleBothRefunds]) p := by
  have captured : captureLine sampleReturnedLine 2000 sampleRecipients = .ok sampleSnapshot := by decide +kernel
  have made : periodsOf (revenueStep sampleDeployment 0 sampleSnapshot sampleLedger (sampleRun sampleFulfilled)) sampleSnapshot.id ≠ [] := by
    decide +kernel
  have made' : periodsOf (revenueStep sampleDeployment 0 sampleSnapshot (revenueStep sampleDeployment 0 sampleSnapshot sampleLedger
      (sampleRun sampleFulfilled)) (sampleRun sampleFirstRefund)) sampleSnapshot.id ≠ [] := by
    decide +kernel
  have proper : Proper sampleDeployment 0 sampleSnapshot sampleLedger [sampleRun sampleFulfilled, sampleRun samplePartRefunded] :=
    ⟨⟨first_admissible, later_admissible _ made _ (by decide +kernel), trivial⟩, by decide +kernel⟩
  have proper' : Proper sampleDeployment 0 sampleSnapshot sampleLedger
      [sampleRun sampleFulfilled, sampleRun sampleFirstRefund, sampleRun sampleBothRefunds] :=
    ⟨⟨first_admissible, later_admissible _ made _ (by decide +kernel), later_admissible _ made' _ (by decide +kernel), trivial⟩,
      by decide +kernel⟩
  have recognition := revenue_recognition sampleDeployment 0 sampleReturnedLine 2000 sampleRecipients sampleSnapshot captured (by decide)
    sampleLedger sampleLedger_keys (by decide) (by decide)
  have settles := verified_settles _ made (sampleRun samplePartRefunded) (by decide +kernel)
  have settles' := verified_settles _ made' (sampleRun sampleBothRefunds) (by decide +kernel)
  have same : cumulativeRefund sampleDeployment 0 sampleSnapshot (sampleRun samplePartRefunded) =
      cumulativeRefund sampleDeployment 0 sampleSnapshot (sampleRun sampleBothRefunds) := by decide +kernel
  have nets := recognition.2 [sampleRun sampleFulfilled] [] [sampleRun sampleFirstRefund] (sampleRun samplePartRefunded)
    (sampleRun sampleBothRefunds) proper proper'
  refine ⟨captured, recognition.1 _ proper, ?_⟩
  simp only [List.append_nil, List.nil_append, List.singleton_append, run_cons, run_nil] at nets ⊢
  exact nets made settles settles' same

-- A refund before the recognition stands in the ledger twice: as a pending entry, and in what was recognized.
theorem pending_refund_counted_twice :
    let t := revenueStep sampleDeployment 0 sampleSnapshot sampleLedger (sampleRun samplePartRefunded)
    ∃ p ∈ periodsOf t sampleSnapshot.id, isRecognized (entriesOf t p.id) = true ∧
      total (fun e => e.amountMinor) (entriesOf t p.id) = 16000 ∧
      p.amountMinor - refundTarget sampleSnapshot (periodsOf t sampleSnapshot.id)
        (cumulativeRefund sampleDeployment 0 sampleSnapshot (sampleRun samplePartRefunded)) p = 48000 := by
  decide +kernel

end EduAi.Revenue
