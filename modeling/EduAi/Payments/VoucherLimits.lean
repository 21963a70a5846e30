import EduAi.Payments.FulfillmentEntries

set_option autoImplicit false

namespace EduAi.Payments

open EduAi.Store EduAi.Gds EduAi.Commerce

def everyone (_ : Uuid) : Bool := true

def only (userId : Uuid) (x : Uuid) : Bool := x = userId

inductive Limits (v : Voucher) : (Uuid → Bool) → Int → Prop where
  | usage (limit : Int) (set : v.usageLimit = some limit) : Limits v everyone limit
  | perUser (userId : Uuid) (limit : Int) (set : v.perUserLimit = some limit) : Limits v (only userId) limit

section Counts

variable (db : CommerceDb) (now : Instant) (voucherId : Uuid) (who : Uuid → Bool)

def redeemedBy (x : VoucherRedemption) : Bool :=
  x.voucherId = voucherId ∧ who x.userId

def heldBy (r : CommercePromotionReservation) : Bool :=
  holdsUse now voucherId r ∧ who r.buyerId

def consumedBy (r : CommercePromotionReservation) : Bool :=
  r.status = .consumed ∧ r.voucherId = some voucherId ∧ who r.buyerId

def ofOrder (x : VoucherRedemption) : Bool :=
  db.reservations.any (fun r => r.status = .consumed ∧ r.voucherId = some x.voucherId ∧ r.buyerId = x.userId ∧
    r.statusOperationId = some x.redemptionKey)

def grantedUses : Nat :=
  db.reservations.countP (consumedBy voucherId who) + db.redemptions.countP (fun x => redeemedBy voucherId who x ∧ ¬ ofOrder db x)

def countedUses : Nat :=
  db.redemptions.countP (redeemedBy voucherId who) + db.reservations.countP (heldBy now voucherId who)

end Counts

structure VouchersSound (now : Instant) (db : CommerceDb) : Prop where
  within : ∀ v ∈ db.vouchers, ∀ who limit, Limits v who limit → 0 ≤ limit → (countedUses db now v.id who : Int) ≤ limit
  recorded : ∀ voucherId who, db.reservations.countP (consumedBy voucherId who) ≤
    db.redemptions.countP (fun x => redeemedBy voucherId who x ∧ ofOrder db x)
  counted : ∀ v ∈ db.vouchers, v.redeemedCount = db.redemptions.countP (redeemedBy v.id everyone)
  redeemed : ∀ x ∈ db.redemptions, ∃ v ∈ db.vouchers, v.id = x.voucherId
  reserved : ∀ r ∈ db.reservations, ∀ id, r.voucherId = some id → ∃ v ∈ db.vouchers, v.id = id

theorem grantedUses_recorded (now : Instant) (db : CommerceDb) (sound : VouchersSound now db) (voucherId : Uuid) (who : Uuid → Bool) :
    grantedUses db voucherId who ≤ db.redemptions.countP (redeemedBy voucherId who) := by
  have orders := sound.recorded voucherId who
  have parts : db.redemptions.countP (redeemedBy voucherId who) =
      db.redemptions.countP (fun x => redeemedBy voucherId who x ∧ ofOrder db x) +
        db.redemptions.countP (fun x => redeemedBy voucherId who x ∧ ¬ ofOrder db x) := by
    clear orders sound
    induction db.redemptions with
    | nil => rfl
    | cons x rest ih =>
        simp only [List.countP_cons, ih]
        by_cases named : redeemedBy voucherId who x = true
        · by_cases order : ofOrder db x = true
          · simp [named, order]
            omega
          · simp [named, order]
            omega
        · simp [named]
  unfold grantedUses
  omega

theorem grantedUses_within (now : Instant) (db : CommerceDb) (sound : VouchersSound now db) (v : Voucher) (member : v ∈ db.vouchers)
    (who : Uuid → Bool) (limit : Int) (limits : Limits v who limit) (bounded : 0 ≤ limit) : (grantedUses db v.id who : Int) ≤ limit := by
  have granted := grantedUses_recorded now db sound v.id who
  have counted := sound.within v member who limit limits bounded
  unfold countedUses at counted
  omega

theorem vouchersSound_later (now later : Instant) (db : CommerceDb) (passed : now ≤ later) (sound : VouchersSound now db) :
    VouchersSound later db := by
  refine ⟨?_, sound.recorded, sound.counted, sound.redeemed, sound.reserved⟩
  intro v member who limit limits bounded
  have counted := sound.within v member who limit limits bounded
  have fewer : db.reservations.countP (heldBy later v.id who) ≤ db.reservations.countP (heldBy now v.id who) := by
    refine List.countP_mono_left (fun r _ held => ?_)
    simp only [heldBy, holdsUse, decide_eq_true_eq] at held ⊢
    exact ⟨⟨held.1.1, held.1.2.1, lt_of_le_of_lt passed held.1.2.2⟩, held.2⟩
  unfold countedUses at counted ⊢
  omega

theorem vouchersSound_same (now : Instant) (db t : CommerceDb) (vouchers : t.vouchers = db.vouchers)
    (redemptions : t.redemptions = db.redemptions) (reservations : t.reservations = db.reservations) (sound : VouchersSound now db) :
    VouchersSound now t := by
  have orders : ofOrder t = ofOrder db := by
    unfold ofOrder
    rw [reservations]
  have counts : countedUses t now = countedUses db now := by
    unfold countedUses
    rw [redemptions, reservations]
  obtain ⟨within, recorded, counted, redeemed, reserved⟩ := sound
  rw [← counts, ← vouchers] at within
  rw [← orders, ← reservations, ← redemptions] at recorded
  rw [← vouchers, ← redemptions] at counted redeemed
  rw [← vouchers, ← reservations] at reserved
  exact ⟨within, recorded, counted, redeemed, reserved⟩

section Moves

variable (now : Instant) (db : CommerceDb) (keys : Keys db) (id : Uuid) (patch : ReservationPatch)
  (old : CommercePromotionReservation) (moves : ReservationMoves db id patch old)

include keys moves

theorem moved_countP (p : CommercePromotionReservation → Bool) :
    ((updateWhere (fun r => r.id = id) patch.apply db.reservations).countP p : Int) =
      db.reservations.countP p + ((if p (patch.apply old) then 1 else 0) - (if p old then 1 else 0)) := by
  obtain ⟨member, named⟩ := reservation_found db id old moves.found
  refine countP_updateWhere_one p (fun r => some r.id) _ _ _ keys.reservations.ids old id member ?_ ?_ ?_
  · exact decide_eq_true named
  · rw [named]
  · intro r _ selected
    rw [of_decide_eq_true selected]

theorem moved_ofOrder (x : VoucherRedemption) (order : ofOrder db x = true) :
    ofOrder { db with reservations := updateWhere (fun r => r.id = id) patch.apply db.reservations } x = true := by
  unfold ofOrder at order ⊢
  obtain ⟨r, member, selected⟩ := List.any_eq_true.mp order
  refine List.any_eq_true.mpr ⟨r, ?_, selected⟩
  simp only [decide_eq_true_eq] at selected
  refine (mem_updateWhere _ _ _ r).mpr ⟨r, member, ?_⟩
  by_cases own : r.id = id
  · obtain ⟨oldMember, named⟩ := reservation_found db id old moves.found
    have same := reservation_same db keys r old member oldMember (own.trans named.symm)
    rw [same, moves.reserved] at selected
    cases selected.1
  · rw [if_neg (by simpa using own)]

theorem vouchersSound_moved (unconsumed : ∀ v, old.voucherId = some v → (patch.apply old).status ≠ .consumed)
    (ended : (patch.apply old).status ≠ .reserved) (kept : (patch.apply old).voucherId = old.voucherId) (sound : VouchersSound now db) :
    VouchersSound now { db with reservations := updateWhere (fun r => r.id = id) patch.apply db.reservations } where
  within := by
    intro v member who limit limits bounded
    have counted := sound.within v member who limit limits bounded
    have held := moved_countP db keys id patch old moves (heldBy now v.id who)
    have free : heldBy now v.id who (patch.apply old) = false := by
      simp [heldBy, holdsUse, ended]
    rw [free] at held
    unfold countedUses at counted ⊢
    simp only [Bool.false_eq_true, if_false] at held ⊢
    split at held <;> omega
  recorded := by
    intro voucherId who
    have before_ := sound.recorded voucherId who
    have consumed := moved_countP db keys id patch old moves (consumedBy voucherId who)
    have still : consumedBy voucherId who (patch.apply old) = false := by
      by_cases named : old.voucherId = some voucherId
      · simp [consumedBy, unconsumed voucherId named]
      · simp [consumedBy, kept, named]
    have fresh : consumedBy voucherId who old = false := by
      simp [consumedBy, moves.reserved]
    rw [still, fresh] at consumed
    have more := List.countP_mono_left (l := db.redemptions)
      (p := fun x => redeemedBy voucherId who x ∧ ofOrder db x)
      (q := fun x => redeemedBy voucherId who x ∧
        ofOrder { db with reservations := updateWhere (fun r => r.id = id) patch.apply db.reservations } x)
      (fun x _ h => by
        simp only [decide_eq_true_eq] at h ⊢
        exact ⟨h.1, moved_ofOrder db keys id patch old moves x h.2⟩)
    simp only [Bool.false_eq_true, if_false] at consumed ⊢
    omega
  counted := sound.counted
  redeemed := sound.redeemed
  reserved := by
    intro r member voucher named
    obtain ⟨r', listed, rfl⟩ := (mem_updateWhere _ _ _ r).mp member
    by_cases own : decide (r'.id = id) = true
    · rw [if_pos own] at named
      obtain ⟨oldMember, found⟩ := reservation_found db id old moves.found
      have same := reservation_same db keys r' old listed oldMember ((of_decide_eq_true own).trans found.symm)
      rw [same, kept] at named
      exact sound.reserved old oldMember voucher named
    · rw [if_neg own] at named
      exact sound.reserved r' listed voucher named

end Moves

section Uses

variable (now : Instant) (db : CommerceDb)

theorem within_counted (t : CommerceDb) (row : VoucherRedemption)
    (vouchers : t.vouchers = updateWhere (fun v => v.id = row.voucherId) countRedeemed db.vouchers)
    (counts : ∀ v ∈ db.vouchers, ∀ who limit, Limits v who limit → 0 ≤ limit → (countedUses t now v.id who : Int) ≤ limit) :
    ∀ v ∈ t.vouchers, ∀ who limit, Limits v who limit → 0 ≤ limit → (countedUses t now v.id who : Int) ≤ limit := by
  intro v member who limit limits bounded
  rw [vouchers] at member
  obtain ⟨old, listed, rfl⟩ := (mem_updateWhere _ _ _ v).mp member
  by_cases own : decide (old.id = row.voucherId) = true
  · rw [if_pos own] at limits ⊢
    refine counts old listed who limit ?_ bounded
    cases limits with
    | usage limit set => exact .usage limit set
    | perUser userId limit set => exact .perUser userId limit set
  · rw [if_neg own] at limits ⊢
    exact counts old listed who limit limits bounded

theorem known_counted (t : CommerceDb) (row : VoucherRedemption)
    (vouchers : t.vouchers = updateWhere (fun v => v.id = row.voucherId) countRedeemed db.vouchers)
    (known : ∀ r ∈ t.reservations, ∀ id, r.voucherId = some id → ∃ v ∈ db.vouchers, v.id = id) :
    ∀ r ∈ t.reservations, ∀ id, r.voucherId = some id → ∃ v ∈ t.vouchers, v.id = id := by
  intro r member id named
  obtain ⟨v, listed, same⟩ := known r member id named
  rw [vouchers]
  refine ⟨_, (mem_updateWhere _ _ _ _).mpr ⟨v, listed, rfl⟩, ?_⟩
  split
  · exact same
  · exact same

variable (sound : VouchersSound now db)

include sound

theorem counted_row (t : CommerceDb) (row : VoucherRedemption) (redemptions : t.redemptions = db.redemptions ++ [row])
    (vouchers : t.vouchers = updateWhere (fun v => v.id = row.voucherId) countRedeemed db.vouchers) :
    ∀ v ∈ t.vouchers, v.redeemedCount = t.redemptions.countP (redeemedBy v.id everyone) := by
  intro v member
  rw [vouchers] at member
  rw [redemptions]
  obtain ⟨old, listed, rfl⟩ := (mem_updateWhere _ _ _ v).mp member
  have before_ := sound.counted old listed
  by_cases own : decide (old.id = row.voucherId) = true
  · have named : row.voucherId = old.id := (of_decide_eq_true own).symm
    rw [if_pos own]
    simp [countRedeemed, before_, redeemedBy, everyone, named]
  · have other : ¬ row.voucherId = old.id := fun same => own (decide_eq_true same.symm)
    rw [if_neg own]
    simp [before_, redeemedBy, everyone, other]

theorem known_row (t : CommerceDb) (row : VoucherRedemption) (redemptions : t.redemptions = db.redemptions ++ [row])
    (vouchers : t.vouchers = updateWhere (fun v => v.id = row.voucherId) countRedeemed db.vouchers)
    (known : ∃ v ∈ db.vouchers, v.id = row.voucherId) : ∀ x ∈ t.redemptions, ∃ v ∈ t.vouchers, v.id = x.voucherId := by
  have carried (id : Uuid) (v : Voucher) (listed : v ∈ db.vouchers) (same : v.id = id) : ∃ v ∈ t.vouchers, v.id = id := by
    rw [vouchers]
    refine ⟨_, (mem_updateWhere _ _ _ _).mpr ⟨v, listed, rfl⟩, ?_⟩
    split
    · exact same
    · exact same
  intro x member
  rw [redemptions] at member
  rcases List.mem_append.mp member with old | new
  · obtain ⟨v, listed, same⟩ := sound.redeemed x old
    exact carried x.voucherId v listed same
  · rw [List.mem_singleton.mp new]
    obtain ⟨v, listed, same⟩ := known
    exact carried row.voucherId v listed same

variable (keys : Keys db)

include keys

theorem vouchersSound_used (r : CommercePromotionReservation) (operationId : Uuid) (row : VoucherRedemption)
    (used : Used db r operationId row) (live : now < r.expiresAt) : VouchersSound now (usedStore r operationId row db) where
  within := by
    refine within_counted now db _ row rfl (fun v member who limit limits bounded => ?_)
    have counted := sound.within v member who limit limits bounded
    have held := moved_countP db keys r.id (.consume operationId) r used.moves (heldBy now v.id who)
    have gone : heldBy now v.id who ((ReservationPatch.consume operationId).apply r) = false := by
      simp [heldBy, holdsUse, ReservationPatch.apply]
    have same : heldBy now v.id who r = redeemedBy v.id who row := by
      simp [heldBy, holdsUse, redeemedBy, used.voucher, used.user, used.moves.reserved, live]
    rw [gone, same] at held
    unfold countedUses at counted ⊢
    simp only [usedStore, List.countP_append, List.countP_cons, List.countP_nil, Bool.false_eq_true, if_false] at held ⊢
    split at held
    case isTrue own =>
      rw [if_pos own]
      omega
    case isFalse other =>
      rw [if_neg other]
      omega
  recorded := by
    intro voucherId who
    have before_ := sound.recorded voucherId who
    have consumed := moved_countP db keys r.id (.consume operationId) r used.moves (consumedBy voucherId who)
    have fresh : consumedBy voucherId who r = false := by
      simp [consumedBy, used.moves.reserved]
    have same : consumedBy voucherId who ((ReservationPatch.consume operationId).apply r) = redeemedBy voucherId who row := by
      simp [consumedBy, ReservationPatch.apply, redeemedBy, used.voucher, used.user]
    have order : ofOrder (usedStore r operationId row db) row = true := by
      obtain ⟨member, _⟩ := reservation_found db r.id r used.moves.found
      refine List.any_eq_true.mpr ⟨(ReservationPatch.consume operationId).apply r, ?_, ?_⟩
      · exact (mem_updateWhere _ _ _ _).mpr ⟨r, member, by simp⟩
      · simp [ReservationPatch.apply, used.voucher, used.user, used.key]
    have more := List.countP_mono_left (l := db.redemptions)
      (p := fun x => redeemedBy voucherId who x ∧ ofOrder db x)
      (q := fun x => redeemedBy voucherId who x ∧ ofOrder (usedStore r operationId row db) x)
      (fun x _ h => by
        simp only [decide_eq_true_eq] at h ⊢
        exact ⟨h.1, moved_ofOrder db keys r.id (.consume operationId) r used.moves x h.2⟩)
    rw [fresh, same] at consumed
    simp only [Bool.false_eq_true, if_false] at consumed
    have reservations : (usedStore r operationId row db).reservations =
        updateWhere (fun x => x.id = r.id) (ReservationPatch.consume operationId).apply db.reservations := rfl
    have redemptions : (usedStore r operationId row db).redemptions = db.redemptions ++ [row] := rfl
    rw [reservations, redemptions]
    simp only [List.countP_append, List.countP_cons, List.countP_nil, order, and_true, Bool.decide_eq_true]
    split at consumed
    case isTrue own =>
      rw [if_pos own]
      omega
    case isFalse other =>
      rw [if_neg other]
      omega
  counted := counted_row now db sound _ row rfl rfl
  redeemed := by
    obtain ⟨v, found⟩ := used.counted
    exact known_row now db sound _ row rfl rfl ⟨v, voucherById_some db _ v found⟩
  reserved := by
    refine known_counted db _ row rfl (fun x member id named => ?_)
    obtain ⟨x', listed, rfl⟩ := (mem_updateWhere _ _ _ x).mp member
    refine sound.reserved x' listed id ?_
    rw [← named]
    split
    · rfl
    · rfl

end Uses

def LeavesUse (now : Instant) (db : CommerceDb) (voucherId userId : Uuid) : Prop :=
  ∀ v ∈ db.vouchers, v.id = voucherId → ∀ who limit, Limits v who limit → who userId = true →
    (countedUses db now v.id who : Int) < limit

-- What a run lets its transactions do while they keep to the limits of the vouchers.
def limited (edits : CommerceDb → Voucher → Voucher → Prop) (now : Instant) : Allowance :=
  { unrestricted with
    scope := { Scope.everything with edits := edits }
    uses := fun _ expiresAt => now < expiresAt
    bare := fun _ => False
    reserves := fun db r => ∀ voucherId, r.voucherId = some voucherId → LeavesUse now db voucherId r.buyerId
    redeems := fun db row => LeavesUse now db row.voucherId row.userId }

section Preserved

variable (edits : CommerceDb → Voucher → Voucher → Prop) (now : Instant) (db : CommerceDb) (sound : VouchersSound now db)

include sound

theorem vouchersSound_redeemed (row : VoucherRedemption) (v : Voucher) (fits : RedemptionFits db row v)
    (left : LeavesUse now db row.voucherId row.userId) : VouchersSound now { db with
      redemptions := db.redemptions ++ [row]
      vouchers := updateWhere (fun v => v.id = row.voucherId) countRedeemed db.vouchers } where
  within := by
    refine within_counted now db _ row rfl (fun v member who limit limits bounded => ?_)
    have counted := sound.within v member who limit limits bounded
    unfold countedUses at counted ⊢
    simp only [List.countP_append, List.countP_cons, List.countP_nil]
    by_cases own : redeemedBy v.id who row = true
    · rw [if_pos own]
      simp only [redeemedBy, decide_eq_true_eq] at own
      have below := left v member own.1.symm who limit limits own.2
      unfold countedUses at below
      omega
    · rw [if_neg own]
      omega
  recorded := by
    intro voucherId who
    have before_ := sound.recorded voucherId who
    have same : ofOrder { db with
        redemptions := db.redemptions ++ [row]
        vouchers := updateWhere (fun v => v.id = row.voucherId) countRedeemed db.vouchers } = ofOrder db := rfl
    rw [same, List.countP_append]
    exact Nat.le_trans before_ (Nat.le_add_right _ _)
  counted := counted_row now db sound _ row rfl rfl
  redeemed := known_row now db sound _ row rfl rfl ⟨v, voucherById_some db _ v fits.voucher⟩
  reserved := known_counted db _ row rfl sound.reserved

theorem vouchersSound_reserved (r : CommercePromotionReservation) (o : CommerceOrder) (l : CommerceOrderLine)
    (fits : ReservationFits db r o l) (left : ∀ voucherId, r.voucherId = some voucherId → LeavesUse now db voucherId r.buyerId) :
    VouchersSound now { db with reservations := db.reservations ++ [r] } where
  within := by
    intro v member who limit limits bounded
    have counted := sound.within v member who limit limits bounded
    unfold countedUses at counted ⊢
    simp only [List.countP_append, List.countP_cons, List.countP_nil]
    by_cases own : heldBy now v.id who r = true
    · rw [if_pos own]
      simp only [heldBy, holdsUse, decide_eq_true_eq] at own
      have below := left v.id own.1.1 v member rfl who limit limits own.2
      unfold countedUses at below
      omega
    · rw [if_neg own]
      omega
  recorded := by
    intro voucherId who
    have before_ := sound.recorded voucherId who
    have fresh : consumedBy voucherId who r = false := by
      simp [consumedBy, fits.initial.1]
    have same : ofOrder { db with reservations := db.reservations ++ [r] } = ofOrder db := by
      funext x
      simp [ofOrder, fits.initial.1]
    rw [same]
    simpa [fresh] using before_
  counted := sound.counted
  redeemed := sound.redeemed
  reserved := by
    intro x member id named
    rcases List.mem_append.mp member with old | new
    · exact sound.reserved x old id named
    · rw [List.mem_singleton.mp new] at named
      obtain ⟨v, listed, same, _⟩ := fits.voucher id named
      exact ⟨v, listed, same⟩

theorem countedUses_new (id : Uuid) (fresh : ∀ v ∈ db.vouchers, v.id ≠ id) (who : Uuid → Bool) : countedUses db now id who = 0 := by
  unfold countedUses
  have redemptions : db.redemptions.countP (redeemedBy id who) = 0 := by
    refine List.countP_eq_zero.mpr (fun x member own => ?_)
    simp only [redeemedBy, decide_eq_true_eq] at own
    obtain ⟨v, listed, same⟩ := sound.redeemed x member
    exact fresh v listed (same.trans own.1)
  have reservations : db.reservations.countP (heldBy now id who) = 0 := by
    refine List.countP_eq_zero.mpr (fun r member own => ?_)
    simp only [heldBy, holdsUse, decide_eq_true_eq] at own
    obtain ⟨v, listed, same⟩ := sound.reserved r member id own.1.1
    exact fresh v listed same
  omega

theorem vouchersSound_created (v : Voucher) (free : free (fun v => some v.id) v db.vouchers = true) (unused : v.redeemedCount = 0) :
    VouchersSound now { db with vouchers := db.vouchers ++ [v] } where
  within := by
    intro x member who limit limits bounded
    rcases List.mem_append.mp member with old | new
    · exact sound.within x old who limit limits bounded
    · obtain rfl := List.mem_singleton.mp new
      have none := countedUses_new now db sound x.id (fun y listed same => (free_iff _ _ _).mp free y listed x.id rfl (by rw [same])) who
      show (countedUses db now x.id who : Int) ≤ limit
      omega
  recorded := sound.recorded
  counted := by
    intro x member
    rcases List.mem_append.mp member with old | new
    · exact sound.counted x old
    · obtain rfl := List.mem_singleton.mp new
      have none := countedUses_new now db sound x.id (fun y listed same => (free_iff _ _ _).mp free y listed x.id rfl (by rw [same])) everyone
      unfold countedUses at none
      rw [unused]
      show (0 : Int) = (db.redemptions.countP (redeemedBy x.id everyone) : Int)
      omega
  redeemed := by
    intro x member
    obtain ⟨y, listed, same⟩ := sound.redeemed x member
    exact ⟨y, List.mem_append_left _ listed, same⟩
  reserved := by
    intro r member id named
    obtain ⟨y, listed, same⟩ := sound.reserved r member id named
    exact ⟨y, List.mem_append_left _ listed, same⟩

theorem vouchersSound_edited (old new : Voucher) (found : voucherById db old.id = some old) (keeps : EditsVoucher old new)
    (limits : ∀ who limit, Limits new who limit → 0 ≤ limit → (countedUses db now old.id who : Int) ≤ limit) :
    VouchersSound now { db with vouchers := updateWhere (fun v => v.id = old.id) (fun _ => new) db.vouchers } where
  within := by
    intro v member who limit set bounded
    obtain ⟨x, listed, rfl⟩ := (mem_updateWhere _ _ _ v).mp member
    by_cases own : decide (x.id = old.id) = true
    · rw [if_pos own] at set ⊢
      rw [keeps.id]
      exact limits who limit set bounded
    · rw [if_neg own] at set ⊢
      exact sound.within x listed who limit set bounded
  recorded := sound.recorded
  counted := by
    intro v member
    obtain ⟨x, listed, rfl⟩ := (mem_updateWhere _ _ _ v).mp member
    by_cases own : decide (x.id = old.id) = true
    · rw [if_pos own, keeps.redeemedCount, keeps.id]
      exact sound.counted old (voucherById_some db _ old found).1
    · rw [if_neg own]
      exact sound.counted x listed
  redeemed := by
    intro x member
    obtain ⟨v, listed, same⟩ := sound.redeemed x member
    refine ⟨_, (mem_updateWhere _ _ _ _).mpr ⟨v, listed, rfl⟩, ?_⟩
    by_cases own : decide (v.id = old.id) = true
    · rw [if_pos own, keeps.id, ← of_decide_eq_true own]
      exact same
    · rw [if_neg own]
      exact same
  reserved := by
    intro r member id named
    obtain ⟨v, listed, same⟩ := sound.reserved r member id named
    refine ⟨_, (mem_updateWhere _ _ _ _).mpr ⟨v, listed, rfl⟩, ?_⟩
    by_cases own : decide (v.id = old.id) = true
    · rw [if_pos own, keeps.id, ← of_decide_eq_true own]
      exact same
    · rw [if_neg own]
      exact same

end Preserved

def EditsWithin (edits : CommerceDb → Voucher → Voucher → Prop) (now : Instant) : Prop :=
  ∀ db old new, VouchersSound now db → old ∈ db.vouchers → edits db old new →
    ∀ who limit, Limits new who limit → 0 ≤ limit → (countedUses db now old.id who : Int) ≤ limit

section Runs

variable (edits : CommerceDb → Voucher → Voucher → Prop) (now : Instant) (keeping : EditsWithin edits now)

include keeping

theorem routine_vouchersSound (db t : CommerceDb) (w : RoutineWrite { Scope.everything with edits := edits } db t) (keys : Keys db)
    (sound : VouchersSound now db) : VouchersSound now t := by
  cases w with
  | voucher v fresh unused => exact vouchersSound_created now db sound v fresh unused
  | editVoucher old new found keeps allowed =>
      exact vouchersSound_edited now db sound old new found keeps
        (keeping db old new sound (voucherById_some db _ old found).1 allowed)
  | returnReservation id patch old moves returns allowed =>
      cases patch with
      | consume operationId => cases returns
      | release operationId =>
          exact vouchersSound_moved now db keys id _ old moves (fun _ _ same => by cases same) (fun same => by cases same) rfl sound
      | expire operationId =>
          exact vouchersSound_moved now db keys id _ old moves (fun _ _ same => by cases same) (fun same => by cases same) rfl sound
  | _ => exact vouchersSound_same now db _ rfl rfl rfl sound

theorem routines_vouchersSound (db t : CommerceDb) (writes : Writes (RoutineWrite { Scope.everything with edits := edits }) db t)
    (keys : Keys db) (sound : VouchersSound now db) : VouchersSound now t :=
  (writes_invariant (fun s => Keys s ∧ VouchersSound now s)
    (fun s u w held => ⟨write_keys s u (.routine _ _ w) held.1, routine_vouchersSound edits now keeping s u w held.1 held.2⟩)
    db t writes ⟨keys, sound⟩).2

theorem confirmation_vouchersSound (db : CommerceDb) (at_ : Instant) (s : CommerceSettlement) (o : CommerceOrder) (u : CommerceDb)
    (confirms : Confirmation { Scope.everything with edits := edits } db at_ s o u) (keys : Keys db) (sound : VouchersSound now db) :
    VouchersSound now (confirmedStore at_ s u) := by
  have settled := write_keys _ _ (.settle db at_ s o confirms.fits confirms.collected) keys
  have before_ : VouchersSound now { db with settlements := db.settlements ++ [s] } := vouchersSound_same now db _ rfl rfl rfl sound
  exact vouchersSound_same now u _ rfl rfl rfl (routines_vouchersSound edits now keeping _ u confirms.moved settled before_)

omit keeping in
theorem completed_vouchersSound (db : CommerceDb) (orderId : Uuid) (t : CommerceDb) (done : Completed db orderId t)
    (sound : VouchersSound now db) : VouchersSound now t := by
  have apart := done.apart
  refine vouchersSound_same now db t ?_ ?_ ?_ sound
  · rw [← apart]
    rfl
  · rw [← apart]
    rfl
  · rw [← apart]
    rfl

theorem transition_vouchersSound (db t : CommerceDb) (moved : Transition (limited edits now) db t) (keys : Keys db)
    (sound : VouchersSound now db) : VouchersSound now t := by
  cases moved with
  | routine t w => exact routine_vouchersSound edits now keeping db t w keys sound
  | collected at_ s o u confirms matched banked => exact confirmation_vouchersSound edits now keeping db at_ s o u confirms keys sound
  | granted at_ s o u t confirms internal done =>
      exact completed_vouchersSound now _ s.orderId t done (confirmation_vouchersSound edits now keeping db at_ s o u confirms keys sound)
  | gifted at_ s o u confirms internal free allowed =>
      exact confirmation_vouchersSound edits now keeping db at_ s o u confirms keys sound
  | completed orderId o t found confirmed unfulfilled done allowed => exact completed_vouchersSound now db orderId t done sound
  | reserved r b o l fits awaiting snapshot allowed =>
      have held := vouchersSound_reserved now db sound r o l fits allowed
      exact vouchersSound_same now { db with reservations := db.reservations ++ [r] } _ rfl rfl rfl held
  | used r operationId row used live => exact vouchersSound_used now db sound keys r operationId row used live
  | consumed id operationId r moves bare =>
      exact vouchersSound_moved now db keys id _ r moves (fun v named => (bare v named).elim) (fun same => by cases same) rfl sound
  | redeemed row v fits left => exact vouchersSound_redeemed now db sound row v fits left

theorem transitions_vouchersSound (db t : CommerceDb) (steps : Writes (Transition (limited edits now)) db t) (keys : Keys db)
    (sound : VouchersSound now db) : VouchersSound now t :=
  (writes_invariant (fun s => Keys s ∧ VouchersSound now s)
    (fun s u moved held => ⟨writes_keys s u held.1 (transition_writes _ s u moved),
      transition_vouchersSound edits now keeping s u moved held.1 held.2⟩)
    db t steps ⟨keys, sound⟩).2

end Runs

section Checkouts

variable (edits : CommerceDb → Voucher → Voucher → Prop) (now : Instant)

theorem withinLimits_left (db : CommerceDb) (userId : Uuid) (v : Voucher) (within : WithinLimits db now userId v)
    (who : Uuid → Bool) (limit : Int) (limits : Limits v who limit) (counts : who userId = true) :
    (countedUses db now v.id who : Int) < limit := by
  cases limits with
  | usage limit set =>
      have below := within.usage limit set
      have redemptions : redeemedBy v.id everyone = fun x : VoucherRedemption => decide (x.voucherId = v.id) := by
        funext x
        simp [redeemedBy, everyone]
      have reservations : heldBy now v.id everyone = holdsUse now v.id := by
        funext r
        simp [heldBy, everyone]
      rw [countedUses, redemptions, reservations]
      exact below
  | perUser other limit set =>
      have same : userId = other := of_decide_eq_true counts
      have below := within.perUser limit set
      have redemptions : redeemedBy v.id (only other) = fun x : VoucherRedemption => decide (x.voucherId = v.id ∧ x.userId = userId) := by
        funext x
        simp [redeemedBy, only, same]
      have reservations : heldBy now v.id (only other) =
          fun r : CommercePromotionReservation => decide (holdsUse now v.id r = true ∧ r.buyerId = userId) := by
        funext r
        simp [heldBy, only, same]
      rw [countedUses, redemptions, reservations]
      exact below

theorem countedUses_reserving (db s : CommerceDb) (r : CommercePromotionReservation) (voucherId : Uuid)
    (named : r.voucherId = some voucherId) (held : r.status = .reserved) (reserving : Reserving db s r.orderId)
    (fresh : free voucherOfOrder r s.reservations = true) (who : Uuid → Bool) :
    countedUses s now voucherId who = countedUses db now voucherId who := by
  obtain ⟨rows, reservations, own⟩ := reserving.own
  have none : rows.countP (heldBy now voucherId who) = 0 := by
    refine List.countP_eq_zero.mpr (fun x member counted => ?_)
    obtain ⟨order, status⟩ := own x member
    simp only [heldBy, holdsUse, decide_eq_true_eq] at counted
    refine (free_iff _ _ _).mp fresh x ?_ (r.orderId, voucherId) ?_ ?_
    · rw [reservations]
      exact List.mem_append_right _ member
    · simp [voucherOfOrder, holdsBenefit, held, named]
    · simp [voucherOfOrder, holdsBenefit, status, counted.1.1, order]
  unfold countedUses
  rw [reserving.redemptions, reservations, List.countP_append, none, Nat.add_zero]

theorem limited_orders (draw : OrderDraw) (request : CheckoutRequest) (db : CommerceDb) (keys : Keys db) :
    Orders (limited edits now) now draw request db where
  reserves := by
    intro s l voucherId priced applied reserving fresh other named
    obtain rfl : voucherId = other := Option.some.inj named
    obtain ⟨v, listed, same, _, _, _, _, within⟩ := priced.applied voucherId applied
    intro x member known who limit limits counts
    rw [reserving.vouchers] at member
    obtain rfl : x = v := unique_eq _ _ keys.vouchers x v voucherId member listed (by rw [known]) (by rw [same])
    have below := withinLimits_left now db request.learnerId x within who limit limits counts
    rw [known] at below ⊢
    rw [countedUses_reserving now db s _ voucherId rfl rfl reserving fresh who]
    exact below
  uses := by
    intro _
    show now < now + reservationLifetime
    exact lt_add_of_pos_right now (by decide)

theorem limited_redeems (request : RedeemRequest) (db : CommerceDb) (keys : Keys db) : Redeems (limited edits now) now request db := by
  intro v row listed voucher user within x member known who limit limits counts
  have same : x = v := unique_eq _ _ keys.vouchers x v v.id member listed (by rw [known, voucher]) rfl
  subst same
  rw [user] at counts
  exact withinLimits_left now db request.userId x within who limit limits counts

end Checkouts

def heldInTime (now : Instant) (db : CommerceDb) (orderId : Uuid) : Bool :=
  (reservedOf db orderId).all (fun r => r.voucherId.isNone || decide (now < r.expiresAt))

def PaidInTime (now : Instant) (db : CommerceDb) (v : VerifiedPaymentWebhook) : Prop :=
  ∀ code ∈ providerOrderCode v, ∀ a ∈ attemptOfEvent db v code, a.status = .pending → ∀ o ∈ orderById db a.orderId,
    o.status = .pendingPayment → paymentFactsMatch db a o v = true → heldInTime now db a.orderId = true

instance (now : Instant) (db : CommerceDb) (v : VerifiedPaymentWebhook) : Decidable (PaidInTime now db v) := by
  unfold PaidInTime
  infer_instance

def BankedBare (db : CommerceDb) (evidenceId : Uuid) : Prop :=
  ∀ e ∈ evidenceById db evidenceId, ∀ request ∈ bankRequestById db e.requestId, ∀ r ∈ reservedOf db request.orderId, r.voucherId = none

instance (db : CommerceDb) (evidenceId : Uuid) : Decidable (BankedBare db evidenceId) := by
  unfold BankedBare
  infer_instance

def LimitsFixed (db : CommerceDb) (new : Voucher) : Prop :=
  ∀ old ∈ voucherById db new.id, new.usageLimit = old.usageLimit ∧ new.perUserLimit = old.perUserLimit

instance (db : CommerceDb) (new : Voucher) : Decidable (LimitsFixed db new) := by
  unfold LimitsFixed
  infer_instance

def confirmsInTime (s : System) : Input → Prop
  | .deliver _ v => PaidInTime s.now s.db v
  | .followWord _ a status _ _ => ∀ v, lifecycleAction a status = .ingest v → PaidInTime s.now s.db v
  | .approveBank _ _ evidenceId _ => BankedBare s.db evidenceId
  | _ => True

def usesInTime (s : System) (i : Input) : Prop :=
  confirmsInTime s i ∧ match i with
    | .editVoucher new => LimitsFixed s.db new
    | _ => True

section System

variable (deployment : Deployment) (edits : CommerceDb → Voucher → Voucher → Prop)

theorem paidInTime_uses (now : Instant) (db : CommerceDb) (v : VerifiedPaymentWebhook) (paid : PaidInTime now db v) :
    UsesOf (limited edits now) db v := by
  intro code a parsed byEvent pending o found awaiting facts r member voucherId named
  have inTime := List.all_eq_true.mp (paid code parsed a byEvent pending o found awaiting facts) r member
  rw [named] at inTime
  have live : now < r.expiresAt := by simpa using inTime
  exact live

theorem limited_admits (s : System) (i : Input) (keys : Keys s.db) (inTime : confirmsInTime s i)
    (edited : ∀ new, i = .editVoucher new → ∀ old, voucherById s.db new.id = some old →
      edits s.db old { new with redeemedCount := old.redeemedCount }) : Admits (limited edits s.now) s i := by
  have admits := unrestricted_admits s i
  cases i with
  | createOrder draw request owned =>
      exact ⟨fun rows => limited_orders edits s.now draw request _ (write_keys _ _
          (.routine _ _ (@idempotencyBeside Scope.nothing s.db rows)) keys),
        fun _ _ => trivial⟩
  | redeemVoucher request => exact limited_redeems edits s.now request s.db keys
  | editVoucher new => exact edited new rfl
  | deliver draw v => exact paidInTime_uses edits s.now s.db v inTime
  | followWord call a status seen draw =>
      exact ⟨fun v action => paidInTime_uses edits s.now s.db v (inTime v action), fun _ _ => .inl trivial, trivial⟩
  | approveBank draw key evidenceId input =>
      refine ⟨trivial, fun e request found asked r member v named => ?_⟩
      have bare := inTime e found request asked r member
      rw [named] at bare
      cases bare
  | _ => exact admits

theorem step_vouchersSound (s : System) (i : Input) (keeping : EditsWithin edits s.now) (whole : Whole s.db)
    (sound : VouchersSound s.now s.db) (admits : Admits (limited edits s.now) s i) :
    VouchersSound (step deployment s i).now (step deployment s i).db := by
  have steps := step_transitions (limited edits s.now) deployment s i whole admits
  refine vouchersSound_later s.now _ _ ?_ (transitions_vouchersSound edits s.now keeping _ _ steps whole.delivered.backed.keys sound)
  show s.now ≤ s.now + (i.elapsed : Int)
  exact le_add_of_nonneg_right (Int.natCast_nonneg _)

theorem start_vouchersSound (createdAt : Instant) : VouchersSound (System.start createdAt).now (System.start createdAt).db where
  within := fun _ member => by cases member
  recorded := fun _ _ => Nat.le_refl _
  counted := fun _ member => by cases member
  redeemed := fun _ member => by cases member
  reserved := fun _ member => by cases member

end System

def sameLimits (_ : CommerceDb) (old new : Voucher) : Prop :=
  new.usageLimit = old.usageLimit ∧ new.perUserLimit = old.perUserLimit

theorem sameLimits_within (now : Instant) : EditsWithin sameLimits now := by
  intro db old new sound member same who limit limits bounded
  refine sound.within old member who limit ?_ bounded
  cases limits with
  | usage limit set => exact .usage limit (same.1 ▸ set)
  | perUser userId limit set => exact .perUser userId limit (same.2 ▸ set)

/-- Where every order is confirmed while it still holds its vouchers, and none of them by a bank transfer, the uses granted
stay within the limits. -/
theorem voucher_limits_kept (deployment : Deployment) (createdAt : Instant) (inputs : List Input)
    (inTime : AllMeet (step deployment) usesInTime (System.start createdAt) inputs) :
    let s := run (step deployment) (System.start createdAt) inputs
    ∀ v ∈ s.db.vouchers,
      (∀ limit, v.usageLimit = some limit → 0 ≤ limit → (grantedUses s.db v.id everyone : Int) ≤ limit) ∧
      ∀ userId limit, v.perUserLimit = some limit → 0 ≤ limit → (grantedUses s.db v.id (only userId) : Int) ≤ limit := by
  have kept := run_invariant_meet (step deployment) usesInTime (fun s => Sound s ∧ VouchersSound s.now s.db) ?_
    (System.start createdAt) inputs ⟨start_sound createdAt, start_vouchersSound createdAt⟩ inTime
  · intro s v member
    have within := grantedUses_within s.now s.db kept.2 v member
    exact ⟨fun limit set => within everyone limit (.usage limit set),
      fun userId limit set => within (only userId) limit (.perUser userId limit set)⟩
  · intro s i held meets
    refine ⟨step_sound deployment s i held.1, ?_⟩
    refine step_vouchersSound deployment sameLimits s i (sameLimits_within s.now) held.1.whole held.2 ?_
    refine limited_admits sameLimits s i held.1.whole.delivered.backed.keys meets.1 (fun new edit old found => ?_)
    have fixed := meets.2
    rw [edit] at fixed
    exact fixed old found

def sampleLastUse : Voucher :=
  { sampleVoucher with code := "LAST", kind := .fixed, value := 40000 }

def sampleHeld : List Input :=
  [.environment sampleShop, .createVoucher sampleLastUse,
    .createOrder (sampleOrderDraw "1") (sampleCheckout "1" [("course-1", "LAST")]) (fun _ => false),
    .requestPayment (samplePaymentDraw "1" "0000000000001-a") (sampleRequest "1" .payos),
    .attachRequest { sampleAttempt "1" "0000000000001-a" with amountMinor := 60000 } { sampleCreated "1" with amountMinor := 60000 }]

def sampleUsePaid : Input :=
  .deliver (sampleWebhookDraw "1") { sampleWebhook "1" "R1" with amountMinor := 60000 }

def sampleUseTaken : Input :=
  .redeemVoucher { userId := "learner-2", courseId := "course-2", code := "LAST", redemptionKey := "redeem-1" }

theorem voucher_limits_kept_sample :
    (grantedUses (run (step sampleDeployment) (System.start 0) (sampleHeld ++ [sampleUsePaid])).db "voucher-1" everyone : Int) ≤ 1 := by
  have paid : PaidInTime (run (step sampleDeployment) (System.start 0) sampleHeld).now
      (run (step sampleDeployment) (System.start 0) sampleHeld).db { sampleWebhook "1" "R1" with amountMinor := 60000 } := by
    decide +kernel
  have listed : ∃ v ∈ (run (step sampleDeployment) (System.start 0) (sampleHeld ++ [sampleUsePaid])).db.vouchers,
      v.id = "voucher-1" ∧ v.usageLimit = some 1 := by
    decide +kernel
  obtain ⟨v, member, same, limit⟩ := listed
  have held := voucher_limits_kept sampleDeployment 0 (sampleHeld ++ [sampleUsePaid])
    ⟨⟨trivial, trivial⟩, ⟨trivial, trivial⟩, ⟨trivial, trivial⟩, ⟨trivial, trivial⟩, ⟨trivial, trivial⟩, ⟨paid, trivial⟩, trivial⟩
  rw [← same]
  exact (held v member).1 1 limit (by decide)

-- The order runs out of time, another learner takes the last use, and then the first order is paid.
theorem last_use_granted_twice :
    ∃ v ∈ (run (step sampleDeployment) (System.start 0) (sampleHeld ++ [.advance 900000, sampleUseTaken, sampleUsePaid])).db.vouchers,
      v.usageLimit = some 1 ∧
      grantedUses (run (step sampleDeployment) (System.start 0) (sampleHeld ++ [.advance 900000, sampleUseTaken, sampleUsePaid])).db
        v.id everyone = 2 := by
  decide +kernel

end EduAi.Payments
