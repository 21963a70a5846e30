import EduAi.Gds.WalletProjection
import EduAi.Store.Quotas

set_option autoImplicit false

namespace EduAi.Gds

open EduAi.Store

section Entries

variable {κ υ : Type} [BEq κ] [LawfulBEq κ] (entries : List (κ × υ))

theorem lookup_none_iff (k : κ) : entries.lookup k = none ↔ k ∉ entries.map Prod.fst := by
  rw [List.lookup_eq_none_iff]
  constructor
  · intro none member
    obtain ⟨p, hp, same⟩ := List.mem_map.mp member
    have differs := none p hp
    simp [same] at differs
  · intro absent p hp
    exact bne_iff_ne.mpr (fun same => absent (List.mem_map.mpr ⟨p, hp, same.symm⟩))

theorem lookup_mem (k : κ) (v : υ) (found : entries.lookup k = some v) : (k, v) ∈ entries := by
  obtain ⟨before, after, same, _⟩ := List.lookup_eq_some_iff.mp found
  rw [same]
  exact List.mem_append_right _ List.mem_cons_self

theorem lookup_some_iff (distinct : (entries.map Prod.fst).Nodup) (k : κ) (v : υ) :
    entries.lookup k = some v ↔ (k, v) ∈ entries := by
  constructor
  · exact lookup_mem entries k v
  · intro member
    cases found : entries.lookup k with
    | none =>
        have absent := (lookup_none_iff entries k).mp found
        exact absurd (List.mem_map.mpr ⟨(k, v), member, rfl⟩) absent
    | some w =>
        have same := List.inj_on_of_nodup_map distinct (lookup_mem entries k w found) member rfl
        rw [(Prod.mk.inj same).2]

theorem lookup_perm (other : List (κ × υ)) (perm : entries.Perm other) (distinct : (entries.map Prod.fst).Nodup) (k : κ) :
    entries.lookup k = other.lookup k := by
  have distinct' : (other.map Prod.fst).Nodup := (perm.map Prod.fst).nodup_iff.mp distinct
  cases found : other.lookup k with
  | none =>
      rw [lookup_none_iff] at found ⊢
      exact fun member => found ((perm.map Prod.fst).mem_iff.mp member)
  | some v =>
      rw [lookup_some_iff _ distinct'] at found
      rw [lookup_some_iff _ distinct]
      exact perm.mem_iff.mpr found

end Entries

section Events

abbrev eventId : GdsWalletVerifiedEvent → String :=
  fun e => e.providerEventId

structure ValidEvent (e : GdsWalletVerifiedEvent) : Prop where
  amount : 0 < e.amountMinor
  currency : e.currency = "VND"
  event : e.providerEventId ≠ ""
  transaction : e.providerTransactionId ≠ ""

def capturesOf (chosen : List GdsWalletVerifiedEvent) : List (String × Int) :=
  chosen.filterMap captureOf

-- The facts of one event each: no transaction twice, no order captured twice.
structure Fits (chosen : List GdsWalletVerifiedEvent) : Prop where
  transactions : (chosen.map (·.providerTransactionId)).Nodup
  orders : ∀ capture ∈ capturesOf chosen, capture.1 ≠ ""
  captures : ((capturesOf chosen).map Prod.fst).Nodup

def stateOf (chosen : List GdsWalletVerifiedEvent) : Projection where
  settledMinor := total signedAmount chosen
  seenEvents := chosen.map (fun e => (e.providerEventId, fingerprint e))
  seenTransactions := chosen.map (fun e => (e.providerTransactionId, e.providerEventId))
  capturedByOrder := capturesOf chosen

variable (seen : List GdsWalletVerifiedEvent) (e : GdsWalletVerifiedEvent)

theorem stateOf_take : (stateOf seen).take e = stateOf (e :: seen) := by
  unfold stateOf Projection.take capturesOf
  rw [total_cons, Int.add_comm, List.filterMap_cons]
  cases captureOf e with
  | none => rfl
  | some capture => rfl

theorem fits_append (new : List GdsWalletVerifiedEvent) (fits : Fits (new ++ seen)) : Fits seen where
  transactions := by
    have := fits.transactions
    rw [List.map_append] at this
    exact this.of_append_right
  orders capture member := by
    refine fits.orders capture ?_
    rw [capturesOf, List.filterMap_append]
    exact List.mem_append_right _ member
  captures := by
    have := fits.captures
    rw [capturesOf, List.filterMap_append, List.map_append] at this
    exact this.of_append_right

theorem fits_cons (fits : Fits seen) :
    Fits (e :: seen) ↔ e.providerTransactionId ∉ seen.map (·.providerTransactionId) ∧ capturable (stateOf seen) e := by
  have keys : ∀ o : String, (stateOf seen).capturedByOrder.lookup o = none ↔ o ∉ (capturesOf seen).map Prod.fst :=
    lookup_none_iff (capturesOf seen)
  unfold capturable
  rw [keys]
  by_cases kind : e.kind = .paymentCaptured
  · have capture : capturesOf (e :: seen) = (e.orderId.getD "", e.amountMinor) :: capturesOf seen := by
      rw [capturesOf, List.filterMap_cons, captureOf, if_pos kind]
      rfl
    constructor
    · intro whole
      have transactions := whole.transactions
      have captures := whole.captures
      rw [capture, List.map_cons] at captures
      refine ⟨(List.nodup_cons.mp transactions).1, fun _ => ⟨?_, (List.nodup_cons.mp captures).1⟩⟩
      exact whole.orders (e.orderId.getD "", e.amountMinor) (by rw [capture]; exact List.mem_cons_self)
    · rintro ⟨transaction, captured⟩
      obtain ⟨order, fresh⟩ := captured kind
      refine { transactions := List.nodup_cons.mpr ⟨transaction, fits.transactions⟩, orders := ?_, captures := ?_ }
      · intro c member
        rw [capture] at member
        rcases List.mem_cons.mp member with here | before
        · subst here
          exact order
        · exact fits.orders c before
      · rw [capture, List.map_cons]
        exact List.nodup_cons.mpr ⟨fresh, fits.captures⟩
  · have capture : capturesOf (e :: seen) = capturesOf seen := by
      rw [capturesOf, List.filterMap_cons, captureOf, if_neg kind]
      rfl
    constructor
    · intro whole
      exact ⟨(List.nodup_cons.mp whole.transactions).1, fun captured => absurd captured kind⟩
    · rintro ⟨transaction, _⟩
      exact {
        transactions := List.nodup_cons.mpr ⟨transaction, fits.transactions⟩
        orders := by rw [capture]; exact fits.orders
        captures := by rw [capture]; exact fits.captures }

variable {seen} (valid : ∀ s ∈ seen, ValidEvent s) (distinct : (seen.map eventId).Nodup)

def Reads (chosen : List GdsWalletVerifiedEvent) (e : GdsWalletVerifiedEvent) : Prop :=
  ∃ s ∈ chosen, s.providerEventId = e.providerEventId ∧ fingerprint s = fingerprint e

theorem checkedEvent_ok (next : Except Fault Projection) (p : Projection) :
    (do
      positiveVnd e.amountMinor
      ensure (e.currency = "VND" ∧ e.providerEventId ≠ "" ∧ e.providerTransactionId ≠ "") (.invariant "WALLET_INVALID_PARTNER_FACT")
      next) = .ok p ↔ ValidEvent e ∧ next = .ok p := by
  simp only [positiveVnd, answered_bind, answered_ensure]
  constructor
  · rintro ⟨_, amount, _, ⟨currency, event, transaction⟩, ok⟩
    exact ⟨{ amount, currency, event, transaction }, ok⟩
  · rintro ⟨valid, ok⟩
    exact ⟨(), valid.amount, (), ⟨valid.currency, valid.event, valid.transaction⟩, ok⟩

include distinct in
theorem applyEvent_seen (old : e.providerEventId ∈ seen.map eventId) (p : Projection) :
    applyEvent (stateOf seen) e = .ok p ↔ ValidEvent e ∧ Reads seen e ∧ p = stateOf seen := by
  obtain ⟨s, member, same⟩ := List.mem_map.mp old
  have keys : ((stateOf seen).seenEvents.map Prod.fst).Nodup := by
    simpa [stateOf, Function.comp_def] using distinct
  have found : (stateOf seen).seenEvents.lookup e.providerEventId = some (fingerprint s) := by
    rw [lookup_some_iff _ keys, ← same]
    exact List.mem_map.mpr ⟨s, member, rfl⟩
  unfold applyEvent
  rw [checkedEvent_ok, found]
  simp only [answered_bind, answered_ensure, answered_pure]
  constructor
  · rintro ⟨validEvent, _, reads, rfl⟩
    exact ⟨validEvent, ⟨s, member, same, reads⟩, rfl⟩
  · rintro ⟨validEvent, ⟨s', member', same', reads⟩, rfl⟩
    obtain rfl := List.inj_on_of_nodup_map distinct member member' (same.trans same'.symm)
    exact ⟨validEvent, (), reads, rfl⟩

include valid in
theorem applyEvent_new (fits : Fits seen) (new : e.providerEventId ∉ seen.map eventId) (p : Projection) :
    applyEvent (stateOf seen) e = .ok p ↔ ValidEvent e ∧ Fits (e :: seen) ∧ p = stateOf (e :: seen) := by
  have unseen : (stateOf seen).seenEvents.lookup e.providerEventId = none := by
    rw [lookup_none_iff]
    simpa [stateOf, Function.comp_def] using new
  have free : transactionFree (stateOf seen) e ↔ e.providerTransactionId ∉ seen.map (·.providerTransactionId) := by
    unfold transactionFree
    constructor
    · intro free member
      obtain ⟨s, hs, same⟩ := List.mem_map.mp member
      cases found : (stateOf seen).seenTransactions.lookup e.providerTransactionId with
      | none =>
          rw [lookup_none_iff] at found
          exact found (by simpa [stateOf, Function.comp_def] using member)
      | some id =>
          have entry := lookup_mem _ _ _ found
          obtain ⟨t, ht, pair⟩ := List.mem_map.mp entry
          obtain ⟨_, rfl⟩ := Prod.mk.inj pair
          rcases free _ found with empty | own
          · exact (valid t ht).event empty
          · exact new (List.mem_map.mpr ⟨t, ht, own⟩)
    · intro absent id found
      have entry := lookup_mem _ _ _ found
      obtain ⟨t, ht, pair⟩ := List.mem_map.mp entry
      exact absurd (List.mem_map.mpr ⟨t, ht, (Prod.mk.inj pair).1⟩) absent
  unfold applyEvent
  rw [checkedEvent_ok, unseen, fits_cons seen e fits]
  simp only [answered_bind, answered_ensure, answered_pure, free, stateOf_take]
  constructor
  · rintro ⟨validEvent, _, transaction, _, captured, rfl⟩
    exact ⟨validEvent, ⟨transaction, captured⟩, rfl⟩
  · rintro ⟨validEvent, ⟨transaction, captured⟩, rfl⟩
    exact ⟨validEvent, (), transaction, (), captured, rfl⟩

structure Replayed (chosen events : List GdsWalletVerifiedEvent) : Prop where
  valid : ∀ e ∈ events, ValidEvent e
  reads : ∀ e ∈ events, Reads chosen e

theorem reads_first (rest : List GdsWalletVerifiedEvent) (distinct : ((firsts eventId seen rest).map eventId).Nodup)
    (old : e.providerEventId ∈ seen.map eventId) (reads : Reads (firsts eventId seen rest) e) : Reads seen e := by
  obtain ⟨s, member, same⟩ := List.mem_map.mp old
  obtain ⟨s', member', same', equal⟩ := reads
  obtain ⟨new, whole⟩ := firsts_suffix eventId seen rest
  have inside : s ∈ firsts eventId seen rest := by
    rw [whole]
    exact List.mem_append_right _ member
  obtain rfl := List.inj_on_of_nodup_map distinct inside member' (same.trans same'.symm)
  exact ⟨s, member, same, equal⟩

theorem reads_later (rest : List GdsWalletVerifiedEvent) (reads : Reads seen e) : Reads (firsts eventId seen rest) e := by
  obtain ⟨s, member, same, equal⟩ := reads
  obtain ⟨new, whole⟩ := firsts_suffix eventId seen rest
  refine ⟨s, ?_, same, equal⟩
  rw [whole]
  exact List.mem_append_right _ member

theorem fits_first (rest : List GdsWalletVerifiedEvent) (fits : Fits (firsts eventId seen rest)) : Fits seen := by
  obtain ⟨new, whole⟩ := firsts_suffix eventId seen rest
  rw [whole] at fits
  exact fits_append seen new fits

include valid distinct in
theorem events_applied (fits : Fits seen) (events : List GdsWalletVerifiedEvent) (p : Projection) :
    events.foldlM applyEvent (stateOf seen) = .ok p ↔
      Replayed (firsts eventId seen events) events ∧ Fits (firsts eventId seen events) ∧
        p = stateOf (firsts eventId seen events) := by
  induction events generalizing seen with
  | nil =>
      rw [List.foldlM_nil, answered_pure]
      constructor
      · rintro rfl
        exact ⟨{ valid := List.forall_mem_nil _, reads := List.forall_mem_nil _ }, fits, rfl⟩
      · rintro ⟨_, _, rfl⟩
        rfl
  | cons e rest ih =>
      rw [List.foldlM_cons, answered_bind]
      have later := firsts_distinct eventId seen (e :: rest) distinct
      by_cases old : e.providerEventId ∈ seen.map eventId
      · rw [firsts_old eventId seen rest e old] at later ⊢
        constructor
        · rintro ⟨_, applied, ok⟩
          obtain ⟨validEvent, reads, rfl⟩ := (applyEvent_seen e distinct old _).mp applied
          obtain ⟨replayed, fits', rfl⟩ := (ih valid distinct fits).mp ok
          refine ⟨{ valid := ?_, reads := ?_ }, fits', rfl⟩
          · exact List.forall_mem_cons.mpr ⟨validEvent, replayed.valid⟩
          · exact List.forall_mem_cons.mpr ⟨reads_later e rest reads, replayed.reads⟩
        · rintro ⟨replayed, fits', rfl⟩
          obtain ⟨validEvent, valid'⟩ := List.forall_mem_cons.mp replayed.valid
          obtain ⟨reads, reads'⟩ := List.forall_mem_cons.mp replayed.reads
          refine ⟨stateOf seen, (applyEvent_seen e distinct old _).mpr ⟨validEvent, reads_first e rest later old reads, rfl⟩, ?_⟩
          exact (ih valid distinct fits).mpr ⟨{ valid := valid', reads := reads' }, fits', rfl⟩
      · rw [firsts_new eventId seen rest e old] at later ⊢
        have distinct' : ((e :: seen).map eventId).Nodup := List.nodup_cons.mpr ⟨old, distinct⟩
        constructor
        · rintro ⟨_, applied, ok⟩
          obtain ⟨validEvent, fitsNew, rfl⟩ := (applyEvent_new e valid fits old _).mp applied
          have valid' := List.forall_mem_cons.mpr ⟨validEvent, valid⟩
          obtain ⟨replayed, fits', rfl⟩ := (ih valid' distinct' fitsNew).mp ok
          have own : Reads (e :: seen) e := ⟨e, List.mem_cons_self, rfl, rfl⟩
          refine ⟨{ valid := ?_, reads := ?_ }, fits', rfl⟩
          · exact List.forall_mem_cons.mpr ⟨validEvent, replayed.valid⟩
          · exact List.forall_mem_cons.mpr ⟨reads_later e rest own, replayed.reads⟩
        · rintro ⟨replayed, fits', rfl⟩
          obtain ⟨validEvent, valid'⟩ := List.forall_mem_cons.mp replayed.valid
          have fitsNew := fits_first rest fits'
          refine ⟨stateOf (e :: seen), (applyEvent_new e valid fits old _).mpr ⟨validEvent, fitsNew, rfl⟩, ?_⟩
          refine (ih (List.forall_mem_cons.mpr ⟨validEvent, valid⟩) distinct' fitsNew).mpr ⟨?_, fits', rfl⟩
          exact { valid := valid', reads := (List.forall_mem_cons.mp replayed.reads).2 }

end Events

end EduAi.Gds
