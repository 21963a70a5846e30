import EduAi.Gds.WalletReplay

set_option autoImplicit false

namespace EduAi.Gds

open EduAi.Store

section Reservations

variable (captures : List (String × Int))

structure HoldsFit (rs : List GdsWalletReservation) : Prop where
  amounts : ∀ r ∈ rs, 0 < r.amountMinor
  named : ∀ r ∈ rs, r.orderId ≠ "" ∧ r.providerReservationId ≠ ""
  orders : (rs.map (·.orderId)).Nodup
  holds : (rs.map (·.providerReservationId)).Nodup
  reconciled : ∀ r ∈ rs, reconciled captures r

def holdsOf (rs : List GdsWalletReservation) : Holds where
  seenOrders := rs.map (·.orderId)
  seenPartnerHolds := rs.map (·.providerReservationId)
  reservedMinor := total heldAmount rs

variable (rs : List GdsWalletReservation) (r : GdsWalletReservation)

theorem holdsOf_take : (holdsOf rs).take r = holdsOf (r :: rs) := by
  unfold holdsOf Holds.take
  rw [total_cons, Int.add_comm]
  rfl

theorem holdsFit_append (new : List GdsWalletReservation) (fit : HoldsFit captures (new ++ rs)) : HoldsFit captures rs where
  amounts x member := fit.amounts x (List.mem_append_right _ member)
  named x member := fit.named x (List.mem_append_right _ member)
  orders := by
    have := fit.orders
    rw [List.map_append] at this
    exact this.of_append_right
  holds := by
    have := fit.holds
    rw [List.map_append] at this
    exact this.of_append_right
  reconciled x member := fit.reconciled x (List.mem_append_right _ member)

theorem holdsFit_perm (other : List GdsWalletReservation) (perm : rs.Perm other) (fit : HoldsFit captures rs) :
    HoldsFit captures other where
  amounts x member := fit.amounts x (perm.mem_iff.mpr member)
  named x member := fit.named x (perm.mem_iff.mpr member)
  orders := (perm.map (fun r : GdsWalletReservation => r.orderId)).nodup_iff.mp fit.orders
  holds := (perm.map (fun r : GdsWalletReservation => r.providerReservationId)).nodup_iff.mp fit.holds
  reconciled x member := fit.reconciled x (perm.mem_iff.mpr member)

theorem applyReservation_ok (fit : HoldsFit captures rs) (h : Holds) :
    applyReservation captures (holdsOf rs) r = .ok h ↔ HoldsFit captures (r :: rs) ∧ h = holdsOf (r :: rs) := by
  unfold applyReservation positiveVnd
  simp only [answered_bind, answered_ensure, answered_pure, holdsOf_take]
  constructor
  · rintro ⟨_, amount, _, named, _, ⟨order, hold⟩, _, agrees, rfl⟩
    refine ⟨?_, rfl⟩
    exact {
      amounts := List.forall_mem_cons.mpr ⟨amount, fit.amounts⟩
      named := List.forall_mem_cons.mpr ⟨named, fit.named⟩
      orders := List.nodup_cons.mpr ⟨order, fit.orders⟩
      holds := List.nodup_cons.mpr ⟨hold, fit.holds⟩
      reconciled := List.forall_mem_cons.mpr ⟨agrees, fit.reconciled⟩ }
  · rintro ⟨whole, rfl⟩
    refine ⟨(), (List.forall_mem_cons.mp whole.amounts).1, (), (List.forall_mem_cons.mp whole.named).1, (), ⟨?_, ?_⟩, (),
      (List.forall_mem_cons.mp whole.reconciled).1, rfl⟩
    · exact (List.nodup_cons.mp whole.orders).1
    · exact (List.nodup_cons.mp whole.holds).1

theorem reservations_applied (fit : HoldsFit captures rs) (more : List GdsWalletReservation) (h : Holds) :
    more.foldlM (applyReservation captures) (holdsOf rs) = .ok h ↔
      HoldsFit captures (more.reverse ++ rs) ∧ h = holdsOf (more.reverse ++ rs) := by
  induction more generalizing rs with
  | nil =>
      rw [List.foldlM_nil, answered_pure, List.reverse_nil, List.nil_append]
      constructor
      · rintro rfl
        exact ⟨fit, rfl⟩
      · rintro ⟨_, rfl⟩
        rfl
  | cons r rest ih =>
      rw [List.foldlM_cons, answered_bind, List.reverse_cons, List.append_assoc, List.singleton_append]
      constructor
      · rintro ⟨_, applied, ok⟩
        obtain ⟨fit', rfl⟩ := (applyReservation_ok captures rs r fit _).mp applied
        exact (ih (r :: rs) fit').mp ok
      · rintro ⟨whole, rfl⟩
        have fit' := holdsFit_append captures (r :: rs) rest.reverse whole
        exact ⟨_, (applyReservation_ok captures rs r fit _).mpr ⟨fit', rfl⟩, (ih (r :: rs) fit').mpr ⟨whole, rfl⟩⟩

end Reservations

section Balance

variable (chosen : List GdsWalletVerifiedEvent) (rs : List GdsWalletReservation)

structure Balanced : Prop where
  fits : Fits chosen
  holds : HoldsFit (capturesOf chosen) rs
  captured : ∀ capture ∈ capturesOf chosen, ∃ r ∈ rs, r.orderId = capture.1 ∧ r.status = .captured
  settled : 0 ≤ total signedAmount chosen
  available : 0 ≤ total signedAmount chosen - total heldAmount rs

def balanceOf : GdsWalletBalance where
  settledMinor := total signedAmount chosen
  reservedMinor := total heldAmount rs
  availableMinor := total signedAmount chosen - total heldAmount rs
  currency := "VND"

theorem fits_nil : Fits [] where
  transactions := List.nodup_nil
  orders := fun capture none => by cases none
  captures := List.nodup_nil

theorem holdsFit_nil (captures : List (String × Int)) : HoldsFit captures [] where
  amounts := List.forall_mem_nil _
  named := List.forall_mem_nil _
  orders := List.nodup_nil
  holds := List.nodup_nil
  reconciled := List.forall_mem_nil _

theorem projectGdsWallet_ok (events : List GdsWalletVerifiedEvent) (b : GdsWalletBalance) :
    projectGdsWallet events rs = .ok b ↔ Replayed (firsts eventId [] events) events ∧ Balanced (firsts eventId [] events) rs ∧
      b = balanceOf (firsts eventId [] events) rs := by
  have started : ∀ p, events.foldlM applyEvent emptyProjection = .ok p ↔ _ := fun p =>
    events_applied (List.forall_mem_nil _) List.nodup_nil fits_nil events p
  have held : ∀ captures h, rs.foldlM (applyReservation captures) emptyHolds = .ok h ↔ _ := fun captures h =>
    reservations_applied captures [] (holdsFit_nil captures) rs h
  have order : (rs.reverse ++ []).Perm rs := by
    rw [List.append_nil]
    exact rs.reverse_perm
  have reserved : total heldAmount (rs.reverse ++ []) = total heldAmount rs := total_perm _ heldAmount _ order
  unfold projectGdsWallet
  simp only [answered_bind, answered_ensure, answered_pure, started, held]
  constructor
  · rintro ⟨_, ⟨replayed, fits, rfl⟩, _, ⟨fit, rfl⟩, _, captured, _, ⟨settled, available⟩, rfl⟩
    simp only [holdsOf, reserved, stateOf] at available ⊢
    refine ⟨replayed, ?_, rfl⟩
    exact {
      fits := fits
      holds := holdsFit_perm _ _ _ order fit
      captured := captured
      settled := settled
      available := available }
  · rintro ⟨replayed, balanced, rfl⟩
    refine ⟨_, ⟨replayed, balanced.fits, rfl⟩, _, ⟨holdsFit_perm _ _ _ order.symm balanced.holds, rfl⟩, (), balanced.captured, (),
      ⟨balanced.settled, ?_⟩, ?_⟩
    · simp only [holdsOf, reserved]
      exact balanced.available
    · simp only [holdsOf, reserved, stateOf]
      rfl

variable (chosen' : List GdsWalletVerifiedEvent) (rs' : List GdsWalletReservation) (events : chosen.Perm chosen') (holds : rs.Perm rs')

include events in
theorem fits_perm (fits : Fits chosen) : Fits chosen' where
  transactions := (events.map (fun e : GdsWalletVerifiedEvent => e.providerTransactionId)).nodup_iff.mp fits.transactions
  orders capture member := fits.orders capture ((events.filterMap captureOf).mem_iff.mpr member)
  captures := ((events.filterMap captureOf).map Prod.fst).nodup_iff.mp fits.captures

include events holds in
theorem balanced_perm (balanced : Balanced chosen rs) : Balanced chosen' rs' ∧ balanceOf chosen rs = balanceOf chosen' rs' := by
  have settled := total_perm chosen signedAmount chosen' events
  have reserved := total_perm rs heldAmount rs' holds
  have captures : (capturesOf chosen).Perm (capturesOf chosen') := events.filterMap captureOf
  have entry := lookup_perm (capturesOf chosen) (capturesOf chosen') captures balanced.fits.captures
  have fit := holdsFit_perm (capturesOf chosen) rs rs' holds balanced.holds
  constructor
  · refine { fits := fits_perm chosen chosen' events balanced.fits, holds := { fit with reconciled := ?_ }, captured := ?_,
             settled := settled ▸ balanced.settled, available := ?_ }
    · intro r member
      have agrees := fit.reconciled r member
      unfold reconciled at agrees ⊢
      rw [← entry]
      exact agrees
    · intro capture member
      obtain ⟨r, hr, captured⟩ := balanced.captured capture (captures.mem_iff.mpr member)
      exact ⟨r, holds.mem_iff.mp hr, captured⟩
    · rw [← settled, ← reserved]
      exact balanced.available
  · unfold balanceOf
    rw [settled, reserved]

end Balance

section Orders

variable (events : List GdsWalletVerifiedEvent) (rs : List GdsWalletReservation)

def Collides : Prop :=
  ∃ e ∈ events, ∃ f ∈ events, e.providerEventId = f.providerEventId ∧ fingerprint e = fingerprint f ∧ e ≠ f

def Accountable : Prop :=
  ∃ chosen, Chosen eventId chosen events ∧ Replayed chosen events ∧ Balanced chosen rs

def Reserved (next : GdsWalletReservation) (updated : List GdsWalletReservation) : Prop :=
  (updated = rs ∧ ∃ existing ∈ rs, existing.orderId = next.orderId ∧ existing.amountMinor = next.amountMinor ∧
      existing.providerReservationId = next.providerReservationId) ∨
    (updated = rs ++ [next] ∧ ∃ before after, projectGdsWallet events rs = .ok before ∧ projectGdsWallet events updated = .ok after ∧
      after.availableMinor = before.availableMinor - next.amountMinor)

structure WalletSound : Prop where
  orders : ∀ events' rs', events'.Perm events → rs'.Perm rs →
    ∀ b, projectGdsWallet events' rs' = .ok b ↔ projectGdsWallet events rs = .ok b
  collisions : ∀ e ∈ events, ∀ f ∈ events, e.providerEventId = f.providerEventId → e ≠ f →
    ∀ b, projectGdsWallet events rs ≠ .ok b
  reserving : ∀ next updated, reserveGdsWallet rs events next = .ok updated → Reserved events rs next updated

theorem reads_perm (chosen chosen' : List GdsWalletVerifiedEvent) (events' : List GdsWalletVerifiedEvent)
    (same : chosen.Perm chosen') (perm : events.Perm events') (replayed : Replayed chosen events) : Replayed chosen' events' where
  valid e member := replayed.valid e (perm.mem_iff.mpr member)
  reads e member := by
    obtain ⟨s, hs, reads⟩ := replayed.reads e (perm.mem_iff.mpr member)
    exact ⟨s, same.mem_iff.mp hs, reads⟩

variable {events rs}

theorem replayed_reads (chosen : List GdsWalletVerifiedEvent) (choice : Chosen eventId chosen events)
    (replayed : Replayed chosen events) (e f : GdsWalletVerifiedEvent) (he : e ∈ events) (hf : f ∈ events)
    (same : e.providerEventId = f.providerEventId) : fingerprint e = fingerprint f := by
  obtain ⟨s, hs, id, reads⟩ := replayed.reads e he
  obtain ⟨t, ht, id', reads'⟩ := replayed.reads f hf
  obtain rfl := List.inj_on_of_nodup_map choice.distinct hs ht (id.trans (same.trans id'.symm))
  exact reads.symm.trans reads'

theorem projected_accountable (b : GdsWalletBalance) (projected : projectGdsWallet events rs = .ok b) : Accountable events rs := by
  obtain ⟨replayed, balanced, _⟩ := (projectGdsWallet_ok rs events b).mp projected
  exact ⟨_, firsts_chosen eventId events, replayed, balanced⟩

theorem accountable_perm (events' : List GdsWalletVerifiedEvent) (rs' : List GdsWalletReservation) (perm : events'.Perm events)
    (holds : rs'.Perm rs) (accountable : Accountable events' rs') : Accountable events rs := by
  obtain ⟨chosen, choice, replayed, balanced⟩ := accountable
  exact ⟨chosen, chosen_perm eventId chosen events' events perm choice,
    reads_perm events' chosen chosen events (.refl _) perm replayed,
    (balanced_perm chosen rs' chosen rs (.refl _) holds balanced).1⟩

theorem projected_perm (distinct : ¬ Collides events) (events' : List GdsWalletVerifiedEvent) (rs' : List GdsWalletReservation)
    (perm : events.Perm events') (holds : rs.Perm rs') (b : GdsWalletBalance) (projected : projectGdsWallet events rs = .ok b) :
    projectGdsWallet events' rs' = .ok b := by
  obtain ⟨replayed, balanced, rfl⟩ := (projectGdsWallet_ok rs events b).mp projected
  have choice := firsts_chosen eventId events
  have choice' := chosen_perm eventId _ events' events perm.symm (firsts_chosen eventId events')
  have single : ∀ e ∈ events, ∀ f ∈ events, eventId e = eventId f → e = f := by
    intro e he f hf same
    by_contra differ
    exact distinct ⟨e, he, f, hf, same, replayed_reads _ choice replayed e f he hf same, differ⟩
  have same := chosen_unique eventId _ _ events choice choice' single
  obtain ⟨balanced', balance⟩ := balanced_perm _ rs _ rs' same holds balanced
  exact (projectGdsWallet_ok rs' events' _).mpr ⟨reads_perm events _ _ events' same perm replayed, balanced', balance⟩

theorem collides_perm (events' : List GdsWalletVerifiedEvent) (perm : events.Perm events') (collides : Collides events') :
    Collides events := by
  obtain ⟨e, he, f, hf, same⟩ := collides
  exact ⟨e, perm.mem_iff.mpr he, f, perm.mem_iff.mpr hf, same⟩

theorem reserved_sound (next : GdsWalletReservation) (updated : List GdsWalletReservation)
    (ok : reserveGdsWallet rs events next = .ok updated) : Reserved events rs next updated := by
  unfold reserveGdsWallet at ok
  obtain ⟨_, _, ok⟩ := (answered_bind _ _ _).mp ok
  obtain ⟨_, requested, ok⟩ := (answered_bind _ _ _).mp ok
  obtain ⟨status, _, _⟩ := (answered_ensure _ _ _).mp requested
  cases found : rs.find? (fun item => item.orderId = next.orderId) with
  | some existing =>
      rw [found] at ok
      obtain ⟨_, repeated, ok⟩ := (answered_bind _ _ _).mp ok
      obtain rfl := (answered_pure _ _).mp ok
      obtain ⟨amount, hold⟩ := (answered_ensure _ _ _).mp repeated
      have order := List.find?_some found
      exact .inl ⟨rfl, existing, List.mem_of_find?_eq_some found, of_decide_eq_true order, amount, hold⟩
  | none =>
      rw [found] at ok
      obtain ⟨before, projected, ok⟩ := (answered_bind _ _ _).mp ok
      obtain ⟨_, _, ok⟩ := (answered_bind _ _ _).mp ok
      obtain ⟨after, projected', ok⟩ := (answered_bind _ _ _).mp ok
      obtain rfl := (answered_pure _ _).mp ok
      refine .inr ⟨rfl, before, after, projected, projected', ?_⟩
      obtain ⟨_, _, rfl⟩ := (projectGdsWallet_ok rs events before).mp projected
      obtain ⟨_, _, rfl⟩ := (projectGdsWallet_ok (rs ++ [next]) events after).mp projected'
      have held : heldAmount next = next.amountMinor := by
        unfold heldAmount
        rw [status]
        rfl
      simp only [balanceOf, total_append_one, held]
      omega

/-- A wallet answers the same in every order and tells differing events apart exactly when no two events of one id read the same
for all that they differ, or the reservations account for the events in no order. -/
theorem wallet_projection_sound (events : List GdsWalletVerifiedEvent) (rs : List GdsWalletReservation) :
    WalletSound events rs ↔ ¬ Collides events ∨ ¬ Accountable events rs := by
  constructor
  · intro sound
    by_contra both
    obtain ⟨collides, accountable⟩ := not_or.mp both
    obtain ⟨e, he, f, hf, same, _, differ⟩ := not_not.mp collides
    obtain ⟨chosen, choice, replayed, balanced⟩ := not_not.mp accountable
    obtain ⟨events', perm, first⟩ := chosen_first eventId chosen events choice
    have turned : chosen.Perm (firsts eventId [] events') := first ▸ (chosen.reverse_perm).symm
    have balanced' := (balanced_perm chosen rs _ rs turned (.refl _) balanced).1
    have projected := (projectGdsWallet_ok rs events' _).mpr ⟨reads_perm events chosen _ events' turned perm.symm replayed, balanced', rfl⟩
    exact sound.collisions e he f hf same differ _ ((sound.orders events' rs perm (.refl _) _).mp projected)
  · intro condition
    refine { orders := ?_, collisions := ?_, reserving := fun next updated ok => reserved_sound next updated ok }
    · intro events' rs' perm holds b
      rcases condition with distinct | unaccountable
      · have distinct' : ¬ Collides events' := fun collides => distinct (collides_perm events' perm.symm collides)
        exact ⟨projected_perm distinct' events rs perm holds b, projected_perm distinct events' rs' perm.symm holds.symm b⟩
      · constructor
        · intro projected
          exact absurd (accountable_perm events' rs' perm holds (projected_accountable b projected)) unaccountable
        · intro projected
          exact absurd (projected_accountable b projected) unaccountable
    · intro e he f hf same differ b projected
      rcases condition with distinct | unaccountable
      · obtain ⟨replayed, _, _⟩ := (projectGdsWallet_ok rs events b).mp projected
        exact distinct ⟨e, he, f, hf, same, replayed_reads _ (firsts_chosen eventId events) replayed e f he hf same, differ⟩
      · exact unaccountable (projected_accountable b projected)

end Orders

-- The order "1:2" under the transaction "t", and the order "2" under the transaction "t:1".
def sampleCapture (transaction order : String) : GdsWalletVerifiedEvent where
  providerEventId := "event-2"
  kind := .paymentCaptured
  amountMinor := 70000
  currency := "VND"
  providerTransactionId := transaction
  orderId := some order

def sampleFunds : GdsWalletVerifiedEvent where
  providerEventId := "event-1"
  kind := .fundsCredited
  amountMinor := 100000
  currency := "VND"
  providerTransactionId := "tx-1"
  orderId := none

def sampleCaptured : GdsWalletReservation where
  orderId := "2"
  amountMinor := 70000
  providerReservationId := "hold-1"
  status := .captured

theorem joined_ids_collide :
    ¬ WalletSound [sampleFunds, sampleCapture "t:1" "2", sampleCapture "t" "1:2"] [sampleCaptured] := by
  intro sound
  have projected : projectGdsWallet [sampleFunds, sampleCapture "t:1" "2", sampleCapture "t" "1:2"] [sampleCaptured] =
      .ok { settledMinor := 30000, reservedMinor := 0, availableMinor := 30000, currency := "VND" } := by decide +kernel
  exact sound.collisions (sampleCapture "t:1" "2") (by decide) (sampleCapture "t" "1:2") (by decide) rfl (by decide) _ projected

end EduAi.Gds
