import EduAi.Payments.VoucherLimits
import EduAi.Store.Editing

set_option autoImplicit false

namespace EduAi.Payments

open EduAi.Store EduAi.Gds EduAi.Commerce

structure UpdateVoucherDto where
  code : Option String := none
  kind : Option (Option VoucherKind) := none
  value : Option (Option Int) := none
  currency : Option (Option String) := none
  startsAt : Option (Option Instant) := none
  endsAt : Option (Option Instant) := none
  minimumCoursePriceMinor : Option (Option Int) := none
  maximumDiscountMinor : Option (Option Int) := none
  usageLimit : Option (Option Int) := none
  perUserLimit : Option (Option Int) := none
  courseIds : Option (Option (List Uuid)) := none
  categorySlugs : Option (Option (List String)) := none
  eligibleUserIds : Option (Option (List Uuid)) := none
  status : Option (Option VoucherStatus) := none
deriving DecidableEq, Repr

-- x ?? current
def orCurrent {α : Type} (x : Option (Option α)) (current : α) : α :=
  x.join.getD current

def normalizeUpdateInput (current : Voucher) (input : UpdateVoucherDto) : Voucher :=
  { current with
    code := (input.code.map normalizeCode).getD current.code
    kind := orCurrent input.kind current.kind
    value := orCurrent input.value current.value
    currency := (input.currency.join.map String.toUpper).getD current.currency
    startsAt := orCurrent input.startsAt current.startsAt
    endsAt := orCurrent input.endsAt current.endsAt
    minimumCoursePriceMinor := input.minimumCoursePriceMinor.join.or current.minimumCoursePriceMinor
    maximumDiscountMinor := input.maximumDiscountMinor.join.or current.maximumDiscountMinor
    usageLimit := input.usageLimit.join.or current.usageLimit
    perUserLimit := input.perUserLimit.join.or current.perUserLimit
    courseIds := orCurrent input.courseIds current.courseIds
    categorySlugs := orCurrent input.categorySlugs current.categorySlugs
    eligibleUserIds := orCurrent input.eligibleUserIds current.eligibleUserIds
    status := orCurrent input.status current.status }

def upperCurrency (text : String) : Bool :=
  text.toList.length = 3 ∧ text.toList.all (fun c => 'A' ≤ c && c ≤ 'Z')

def assertPolicy (v : Voucher) : CommerceTxn Unit := do
  require (upperCurrency v.currency) (.badRequest "Voucher currency must be ISO 4217")
  require (v.startsAt ≤ v.endsAt) (.badRequest "Voucher start must be before its end")
  require (¬ (v.kind = .percentage ∧ (v.value < 1 ∨ 100 < v.value)) ∧ ¬ (v.kind = .fixed ∧ v.value < 1))
    (.badRequest "Voucher value is invalid for its kind")

def assertScopeTargets (courseIds userIds : List Uuid) : CommerceTxn Unit := do
  let db ← get
  require ((db.courses.filter (fun c => c.id ∈ courseIds)).length = courseIds.length)
    (.badRequest "Voucher course scope contains an unknown course")
  require ((db.users.filter (fun u => u.id ∈ userIds ∧ u.deleted = false)).length = userIds.length)
    (.badRequest "Voucher user eligibility contains an unknown user")

def changesEconomicPolicy (input : UpdateVoucherDto) : Bool :=
  input.code.isSome || input.kind.isSome || input.value.isSome || input.currency.isSome || input.startsAt.isSome ||
    input.endsAt.isSome || input.minimumCoursePriceMinor.isSome || input.maximumDiscountMinor.isSome ||
    input.usageLimit.isSome || input.perUserLimit.isSome

structure VoucherUpdate where
  current : Voucher
  input : UpdateVoucherDto
deriving DecidableEq, Repr

def VoucherUpdate.row (u : VoucherUpdate) : Voucher :=
  normalizeUpdateInput u.current u.input

def decideUpdate (id : Uuid) (input : UpdateVoucherDto) : CommerceTxn VoucherUpdate := do
  let db ← get
  let current ← orThrow (voucherById db id) (.notFound "Voucher not found")
  let normalized := normalizeUpdateInput current input
  assertPolicy normalized
  require (¬ (0 < current.redeemedCount ∧ changesEconomicPolicy input))
    (.conflict "Economic voucher policy cannot change after redemption; disable it instead")
  assertScopeTargets normalized.courseIds normalized.eligibleUserIds
  return { current, input }

def codeTaken (db : CommerceDb) (row : Voucher) : Bool :=
  db.vouchers.any (fun v => v.id ≠ row.id ∧ v.code = row.code)

section System

variable (deployment : Deployment)

def readUpdate (s : System) (k : Uuid × UpdateVoucherDto) : Option VoucherUpdate :=
  returned (decideUpdate k.1 k.2) s.db

-- The update's transaction writes all columns but the count; vouchers_code_key makes it fail for a code in use.
def writeUpdate (s : System) (u : VoucherUpdate) : System :=
  if codeTaken s.db u.row then s else step deployment s (.editVoucher u.row)

def Input.edits : Input → Bool
  | .editVoucher _ => true
  | _ => false

def voucherUse (s : System) (i : Input) : System :=
  if i.edits then s else step deployment s i

structure VoucherTerms where
  code : String
  kind : VoucherKind
  value : Int
  currency : String
  startsAt : Instant
  endsAt : Instant
  minimumCoursePriceMinor : Option Int
  maximumDiscountMinor : Option Int
  usageLimit : Option Int
  perUserLimit : Option Int
deriving DecidableEq, Repr

def termsOf (v : Voucher) : VoucherTerms where
  code := v.code
  kind := v.kind
  value := v.value
  currency := v.currency
  startsAt := v.startsAt
  endsAt := v.endsAt
  minimumCoursePriceMinor := v.minimumCoursePriceMinor
  maximumDiscountMinor := v.maximumDiscountMinor
  usageLimit := v.usageLimit
  perUserLimit := v.perUserLimit

def usedOf (s : System) (v : Voucher) : Prop :=
  0 < grantedUses s.db v.id everyone

instance (s : System) (v : Voucher) : Decidable (usedOf s v) := by
  unfold usedOf
  infer_instance

abbrev VouchersFrozen : System → System → Prop :=
  TermsFrozen (fun s : System => s.db.vouchers) Voucher.id usedOf termsOf

-- Where the voucher has a use by now, the update has read its terms as they are, and knew of a use or names none of them.
def TermsStand (s : System) (u : VoucherUpdate) : Prop :=
  ∀ v ∈ voucherById s.db u.current.id, usedOf s v →
    termsOf u.current = termsOf v ∧ (0 < u.current.redeemedCount ∨ changesEconomicPolicy u.input = false)

instance (s : System) (u : VoucherUpdate) : Decidable (TermsStand s u) := by
  unfold TermsStand
  infer_instance

structure UpdateStands (s : System) (u : VoucherUpdate) : Prop where
  terms : TermsStand s u
  room : ∀ who limit, Limits u.row who limit → 0 ≤ limit → (countedUses s.db s.now u.current.id who : Int) ≤ limit

end System

section Counted

variable (now : Instant) (db : CommerceDb) (sound : VouchersSound now db)

include sound

theorem granted_counted (v : Voucher) (member : v ∈ db.vouchers) : 0 < grantedUses db v.id everyone ↔ 0 < v.redeemedCount := by
  have counted := sound.counted v member
  have recorded := grantedUses_recorded now db sound v.id everyone
  constructor
  · intro granted
    omega
  · intro redeemed
    have some_ : 0 < db.redemptions.countP (redeemedBy v.id everyone) := by omega
    obtain ⟨x, listed, named⟩ := List.countP_pos_iff.mp some_
    unfold grantedUses
    by_cases order : ofOrder db x = true
    · obtain ⟨r, held, selected⟩ := List.any_eq_true.mp order
      simp only [decide_eq_true_eq] at selected
      simp only [redeemedBy, decide_eq_true_eq] at named
      have consumed : 0 < db.reservations.countP (consumedBy v.id everyone) := by
        refine List.countP_pos_iff.mpr ⟨r, held, ?_⟩
        simp [consumedBy, everyone, selected.1, selected.2.1, named.1]
      omega
    · have direct : 0 < db.redemptions.countP (fun x => redeemedBy v.id everyone x ∧ ¬ ofOrder db x) := by
        refine List.countP_pos_iff.mpr ⟨x, listed, ?_⟩
        simp [named, order]
      omega

end Counted

-- Vouchers that have been counted stay, counted and on their terms.
abbrev TermsKept : CommerceDb → CommerceDb → Prop :=
  TermsFrozen CommerceDb.vouchers Voucher.id (fun _ v => 0 < v.redeemedCount) termsOf

theorem termsKept_same (db t : CommerceDb) (vouchers : t.vouchers = db.vouchers) : TermsKept db t :=
  fun v member counted => ⟨v, vouchers ▸ member, rfl, counted, rfl⟩

theorem termsKept_counted (db t : CommerceDb) (id : Uuid)
    (vouchers : t.vouchers = updateWhere (fun v => v.id = id) countRedeemed db.vouchers) : TermsKept db t := by
  intro v member counted
  rw [vouchers]
  refine ⟨_, (mem_updateWhere _ _ _ _).mpr ⟨v, member, rfl⟩, ?_⟩
  split
  · exact ⟨rfl, Int.lt_add_one_of_le (Int.le_of_lt counted), rfl⟩
  · exact ⟨rfl, counted, rfl⟩

def standing (now : Instant) (db : CommerceDb) (old new : Voucher) : Prop :=
  (0 < old.redeemedCount → termsOf new = termsOf old) ∧
    ∀ who limit, Limits new who limit → 0 ≤ limit → (countedUses db now old.id who : Int) ≤ limit

theorem standing_within (now : Instant) : EditsWithin (standing now) now :=
  fun _ _ _ _ _ stands => stands.2

section Kept

variable (edits : CommerceDb → Voucher → Voucher → Prop) (now : Instant)
  (keeping : ∀ db old new, edits db old new → 0 < old.redeemedCount → termsOf new = termsOf old)

include keeping

theorem routine_termsKept (db t : CommerceDb) (w : RoutineWrite { Scope.everything with edits := edits } db t) (keys : Keys db) :
    TermsKept db t := by
  cases w with
  | voucher v fresh unused => exact fun old member counted => ⟨old, List.mem_append_left _ member, rfl, counted, rfl⟩
  | editVoucher old new found edited allowed =>
      intro v member counted
      refine ⟨_, (mem_updateWhere _ _ _ _).mpr ⟨v, member, rfl⟩, ?_⟩
      by_cases own : decide (v.id = old.id) = true
      · have same : v = old := unique_eq _ _ keys.vouchers v old old.id member (voucherById_some db _ old found).1
          (by rw [of_decide_eq_true own]) rfl
        subst same
        rw [if_pos own]
        have still : 0 < new.redeemedCount := by
          rw [edited.redeemedCount]
          exact counted
        exact ⟨edited.id, still, keeping db v new allowed counted⟩
      · rw [if_neg own]
        exact ⟨rfl, counted, rfl⟩
  | _ => exact termsKept_same db _ rfl

theorem routines_termsKept (db t : CommerceDb) (writes : Writes (RoutineWrite { Scope.everything with edits := edits }) db t)
    (keys : Keys db) : TermsKept db t :=
  (writes_invariant (fun s => Keys s ∧ TermsKept db s)
    (fun s u w held => ⟨write_keys s u (.routine _ _ w) held.1,
      termsFrozen_trans _ _ _ _ db s u held.2 (routine_termsKept edits keeping s u w held.1)⟩)
    db t writes ⟨keys, termsFrozen_refl _ _ _ _ db⟩).2

theorem confirmation_termsKept (db : CommerceDb) (at_ : Instant) (s : CommerceSettlement) (o : CommerceOrder) (u : CommerceDb)
    (confirms : Confirmation { Scope.everything with edits := edits } db at_ s o u) (keys : Keys db) :
    TermsKept db (confirmedStore at_ s u) := by
  have settled := write_keys _ _ (.settle db at_ s o confirms.fits confirms.collected) keys
  have moved := routines_termsKept edits keeping _ u confirms.moved settled
  exact moved

omit keeping in
theorem completed_termsKept (db : CommerceDb) (orderId : Uuid) (t : CommerceDb) (done : Completed db orderId t) : TermsKept db t := by
  refine termsKept_same db t ?_
  rw [← done.apart]
  rfl

theorem transition_termsKept (db t : CommerceDb) (moved : Transition (limited edits now) db t) (keys : Keys db) : TermsKept db t := by
  cases moved with
  | routine t w => exact routine_termsKept edits keeping db t w keys
  | collected at_ s o u confirms matched banked => exact confirmation_termsKept edits keeping db at_ s o u confirms keys
  | granted at_ s o u t confirms internal done =>
      exact termsFrozen_trans _ _ _ _ _ _ _ (confirmation_termsKept edits keeping db at_ s o u confirms keys)
        (completed_termsKept _ s.orderId t done)
  | gifted at_ s o u confirms internal free allowed => exact confirmation_termsKept edits keeping db at_ s o u confirms keys
  | completed orderId o t found confirmed unfulfilled done allowed => exact completed_termsKept db orderId t done
  | reserved r b o l fits awaiting snapshot allowed => exact termsKept_same db _ rfl
  | used r operationId row used live => exact termsKept_counted db _ row.voucherId rfl
  | consumed id operationId r moves bare => exact termsKept_same db _ rfl
  | redeemed row v fits left => exact termsKept_counted db _ row.voucherId rfl

theorem transitions_termsKept (db t : CommerceDb) (steps : Writes (Transition (limited edits now)) db t) (keys : Keys db) :
    TermsKept db t :=
  (writes_invariant (fun s => Keys s ∧ TermsKept db s)
    (fun s u moved held => ⟨writes_keys s u held.1 (transition_writes _ s u moved),
      termsFrozen_trans _ _ _ _ db s u held.2 (transition_termsKept edits now keeping s u moved held.1)⟩)
    db t steps ⟨keys, termsFrozen_refl _ _ _ _ db⟩).2

end Kept

def Limited (s : System) : Prop :=
  Sound s ∧ VouchersSound s.now s.db

structure UpdateMade (u : VoucherUpdate) : Prop where
  refused : 0 < u.current.redeemedCount → changesEconomicPolicy u.input = false

theorem assertPolicy_reads (v : Voucher) (db : CommerceDb) : Wlp (assertPolicy v) (fun _ t => t = db) db := by
  simp only [assertPolicy, wlp_bind, wlp_require]
  exact fun _ _ _ => trivial

theorem assertScopeTargets_reads (courseIds userIds : List Uuid) (db : CommerceDb) :
    Wlp (assertScopeTargets courseIds userIds) (fun _ t => t = db) db := by
  simp only [assertScopeTargets, wlp_bind, wlp_get, wlp_require]
  exact fun _ _ => trivial

theorem readUpdate_made (s : System) (k : Uuid × UpdateVoucherDto) (u : VoucherUpdate) (read : readUpdate s k = some u) :
    UpdateMade u := by
  refine (returned_wlp (decideUpdate k.1 k.2) (fun u _ => UpdateMade u) s.db u read ?_).elim (fun _ made => made)
  simp only [decideUpdate, wlp_bind, wlp_get, wlp_orThrow]
  intro current _
  refine wlp_mono _ s.db (assertPolicy_reads _ s.db) ?_
  intro _ t _
  rw [wlp_require]
  intro guard
  refine wlp_mono _ t (assertScopeTargets_reads _ _ t) ?_
  intro _ _ _
  rw [wlp_pure]
  refine ⟨fun redeemed => ?_⟩
  by_contra changes
  exact guard ⟨redeemed, by simpa using changes⟩

theorem row_terms (u : VoucherUpdate) (unchanged : changesEconomicPolicy u.input = false) : termsOf u.row = termsOf u.current := by
  simp only [changesEconomicPolicy, Bool.or_eq_false_iff, Option.isSome_eq_false_iff, Option.isNone_iff_eq_none] at unchanged
  obtain ⟨⟨⟨⟨⟨⟨⟨⟨⟨code, kind⟩, value⟩, currency⟩, startsAt⟩, endsAt⟩, minimum⟩, maximum⟩, usage⟩, perUser⟩ := unchanged
  simp [VoucherUpdate.row, normalizeUpdateInput, orCurrent, termsOf, code, kind, value, currency, startsAt, endsAt, minimum, maximum,
    usage, perUser]

section Runs

variable (deployment : Deployment)

theorem frozen_of_terms (s t : System) (before_ : Limited s) (after : Limited t) (kept : TermsKept s.db t.db) : VouchersFrozen s t := by
  intro v member used
  obtain ⟨v', listed, same, counted, terms⟩ := kept v member ((granted_counted s.now s.db before_.2 v member).mp used)
  exact ⟨v', listed, same, (granted_counted t.now t.db after.2 v' listed).mpr counted, terms⟩

theorem limited_step (s : System) (i : Input) (sound : Limited s) (inTime : confirmsInTime s i)
    (edited : ∀ new, i = .editVoucher new → ∀ old, voucherById s.db new.id = some old →
      standing s.now s.db old { new with redeemedCount := old.redeemedCount }) :
    Limited (step deployment s i) ∧ VouchersFrozen s (step deployment s i) := by
  have keys := sound.1.whole.delivered.backed.keys
  have admits := limited_admits (standing s.now) s i keys inTime edited
  have after : Limited (step deployment s i) :=
    ⟨step_sound deployment s i sound.1, step_vouchersSound deployment _ s i (standing_within s.now) sound.1.whole sound.2 admits⟩
  have steps := step_transitions (limited (standing s.now) s.now) deployment s i sound.1.whole admits
  exact ⟨after, frozen_of_terms s _ sound after
    (transitions_termsKept (standing s.now) s.now (fun _ _ _ stands => stands.1) _ _ steps keys)⟩

theorem voucherUse_kept (s : System) (i : Input) (sound : Limited s) (inTime : confirmsInTime s i) :
    Limited (voucherUse deployment s i) ∧ VouchersFrozen s (voucherUse deployment s i) := by
  unfold voucherUse
  by_cases edit : i.edits = true
  · rw [if_pos edit]
    exact ⟨sound, termsFrozen_refl _ _ _ _ s⟩
  · rw [if_neg edit]
    refine limited_step deployment s i sound inTime (fun new same => ?_)
    rw [same] at edit
    exact (edit rfl).elim

theorem writeUpdate_kept (s : System) (u : VoucherUpdate) (sound : Limited s) (made : UpdateMade u) (stands : UpdateStands s u) :
    Limited (writeUpdate deployment s u) ∧ VouchersFrozen s (writeUpdate deployment s u) := by
  unfold writeUpdate
  by_cases taken : codeTaken s.db u.row = true
  · rw [if_pos taken]
    exact ⟨sound, termsFrozen_refl _ _ _ _ s⟩
  rw [if_neg taken]
  refine limited_step deployment s _ sound trivial (fun new same old found => ?_)
  obtain rfl := Input.editVoucher.inj same
  obtain ⟨member, named⟩ := voucherById_some s.db _ old found
  refine ⟨fun counted => ?_, fun who limit limits bounded => ?_⟩
  · obtain ⟨terms, known⟩ := stands.terms old found ((granted_counted s.now s.db sound.2 old member).mpr counted)
    have unchanged : changesEconomicPolicy u.input = false := by
      rcases known with seen | none
      · exact made.refused seen
      · exact none
    exact (row_terms u unchanged).trans terms
  · rw [named]
    refine stands.room who limit ?_ bounded
    cases limits with
    | usage limit set => exact .usage limit set
    | perUser userId limit set => exact .perUser userId limit set

abbrev voucherEdits : Editing System VoucherUpdate → EditInput Input (Uuid × UpdateVoucherDto) → Editing System VoucherUpdate :=
  editStep (voucherUse deployment) readUpdate (writeUpdate deployment)

def voucherMeets : Editing System VoucherUpdate → EditInput Input (Uuid × UpdateVoucherDto) → Prop :=
  onEdits confirmsInTime UpdateStands

-- Where orders are confirmed in time and every update still stands when it writes, a used voucher keeps its terms, and
-- its uses stay within its limits.
theorem voucher_terms_frozen (createdAt : Instant) (inputs : List (EditInput Input (Uuid × UpdateVoucherDto)))
    (meet : AllMeet (voucherEdits deployment) voucherMeets (opened (System.start createdAt)) inputs) :
    Limited (run (voucherEdits deployment) (opened (System.start createdAt)) inputs).store ∧
      FrozenThroughout (voucherEdits deployment) VouchersFrozen (System.start createdAt) inputs :=
  editRun_kept (voucherUse deployment) readUpdate (writeUpdate deployment) confirmsInTime UpdateStands Limited UpdateMade VouchersFrozen
    (fun s k u _ read => readUpdate_made s k u read) (fun s _ => termsFrozen_refl _ _ _ _ s)
    (fun s i sound inTime => voucherUse_kept deployment s i sound inTime)
    (fun s u sound made stands => writeUpdate_kept deployment s u sound made stands)
    (fun s t u => termsFrozen_trans _ _ _ _ s t u) (System.start createdAt) inputs
    ⟨start_sound createdAt, start_vouchersSound createdAt⟩ meet

end Runs

theorem countedUses_only (now : Instant) (db : CommerceDb) (voucherId userId : Uuid) :
    countedUses db now voucherId (only userId) ≤ countedUses db now voucherId everyone := by
  refine Nat.add_le_add (List.countP_mono_left (fun x _ own => ?_)) (List.countP_mono_left (fun r _ own => ?_))
  · simp only [redeemedBy, decide_eq_true_eq] at own ⊢
    exact ⟨own.1, rfl⟩
  · simp only [heldBy, decide_eq_true_eq] at own ⊢
    exact ⟨own.1, rfl⟩

end EduAi.Payments
