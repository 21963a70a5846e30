import EduAi.Commerce.Admission
import EduAi.Commerce.CourseAccess

set_option autoImplicit false

namespace EduAi.Commerce

open EduAi.Store EduAi.Gds

structure Gained (scope : Scope) (db t : CommerceDb) : Prop where
  grants : ∀ g ∈ t.grants, g.active = true → g ∈ db.grants ∨ scope.grants g
  subscriptions : ∀ m ∈ t.subscriptions, m.active = true → m ∈ db.subscriptions ∨ scope.subscriptions m

def GrantOf (lineId : Uuid) (g : CourseAccessGrant) : Prop :=
  ((g.sourceType = .coursePurchase ∨ g.sourceType = .membership) ∧ g.sourceId = lineId) ∨
    (g.sourceType = .membershipGrace ∧ g.sourceId = lineId ++ ":" ++ g.courseId)

instance (lineId : Uuid) (g : CourseAccessGrant) : Decidable (GrantOf lineId g) :=
  inferInstanceAs (Decidable (_ ∨ _))

def TermOf (lineId : Uuid) (m : MembershipSubscription) : Prop :=
  m.sourceOrderLineId = some lineId

structure LineGrant (buyerId : Uuid) (l : CommerceOrderLine) (g : CourseAccessGrant) : Prop where
  of : GrantOf l.id g
  buyer : g.userId = buyerId
  course : l.productType = .course → g.sourceType = .coursePurchase ∧ g.courseId = l.productReferenceId
  membership : l.productType = .membership → g.sourceType ≠ .coursePurchase

def lineAccess (buyerId : Uuid) (lines : List CommerceOrderLine) : Scope where
  banks := False
  returns := False
  grants := fun g => ∃ l ∈ lines, LineGrant buyerId l g
  subscriptions := fun m => ∃ l ∈ lines, TermOf l.id m
  edits := fun _ _ _ => False

theorem grantOf_same (first second : Uuid) (g : CourseAccessGrant) (one : GrantOf first g) (other : GrantOf second g) :
    first = second := by
  rcases one with ⟨type, source⟩ | ⟨type, source⟩ <;> rcases other with ⟨type', source'⟩ | ⟨type', source'⟩
  · rw [← source, source']
  · rw [type'] at type
    rcases type with purchase | membership
    · cases purchase
    · cases membership
  · rw [type] at type'
    rcases type' with purchase | membership
    · cases purchase
    · cases membership
  · have same : (first ++ ":" ++ g.courseId).toList = (second ++ ":" ++ g.courseId).toList := by rw [← source, source']
    simp only [String.toList_append] at same
    exact String.toList_inj.mp (List.append_cancel_right (List.append_cancel_right same))

theorem membershipGrant {buyerId : Uuid} {l : CommerceOrderLine} {g : CourseAccessGrant} (product : l.productType = .membership)
    (of : GrantOf l.id g) (buyer : g.userId = buyerId) (bought : g.sourceType ≠ .coursePurchase) : LineGrant buyerId l g := by
  refine ⟨of, buyer, fun course => ?_, fun _ => bought⟩
  rw [product] at course
  cases course

section Rules

variable (scope : Scope)

theorem gained_refl (db : CommerceDb) : Gained scope db db :=
  ⟨fun _ member _ => .inl member, fun _ member _ => .inl member⟩

theorem gained_trans (db s t : CommerceDb) (first : Gained scope db s) (second : Gained scope s t) : Gained scope db t := by
  refine ⟨?_, ?_⟩
  · intro g member active
    rcases second.grants g member active with before | allowed
    · exact first.grants g before active
    · exact .inr allowed
  · intro m member active
    rcases second.subscriptions m member active with before | allowed
    · exact first.subscriptions m before active
    · exact .inr allowed

theorem gained_beside (db t : CommerceDb) (grants : t.grants = db.grants) (subscriptions : t.subscriptions = db.subscriptions) :
    Gained scope db t := by
  refine ⟨fun g member _ => .inl ?_, fun m member _ => .inl ?_⟩
  · rw [← grants]
    exact member
  · rw [← subscriptions]
    exact member

theorem gained_grant (db : CommerceDb) (g : CourseAccessGrant) (allowed : scope.grants g) :
    Gained scope db { db with grants := db.grants ++ [g] } := by
  refine ⟨?_, fun _ member _ => .inl member⟩
  intro x member _
  rcases List.mem_append.mp member with before | new
  · exact .inl before
  · rw [List.mem_singleton.mp new]
    exact .inr allowed

theorem gained_subscription (db : CommerceDb) (m : MembershipSubscription) (allowed : scope.subscriptions m) :
    Gained scope db { db with subscriptions := db.subscriptions ++ [m] } := by
  refine ⟨fun _ member _ => .inl member, ?_⟩
  intro x member _
  rcases List.mem_append.mp member with before | new
  · exact .inl before
  · rw [List.mem_singleton.mp new]
    exact .inr allowed

theorem gained_revoked (db : CommerceDb) (p : CourseAccessGrant → Bool) (reason : String) : Gained scope db { db with
    grants := updateWhere p (fun g => { g with active := false, revocationReason := some reason }) db.grants } := by
  refine ⟨?_, fun _ member _ => .inl member⟩
  intro g member active
  obtain ⟨old, before, rfl⟩ := (mem_updateWhere _ _ _ _).mp member
  by_cases selected : p old = true
  · rw [if_pos selected] at active
    cases active
  · rw [if_neg selected]
    exact .inl before

theorem gained_cancelled (db : CommerceDb) (p : MembershipSubscription → Bool) : Gained scope db { db with
    subscriptions := updateWhere p (fun m => { m with active := false }) db.subscriptions } := by
  refine ⟨fun _ member _ => .inl member, ?_⟩
  intro m member active
  obtain ⟨old, before, rfl⟩ := (mem_updateWhere _ _ _ _).mp member
  by_cases selected : p old = true
  · rw [if_pos selected] at active
    cases active
  · rw [if_neg selected]
    exact .inl before

theorem routine_gained (db t : CommerceDb) (w : RoutineWrite scope db t) : Gained scope db t := by
  cases w with
  | subscription m fits allowed => exact gained_subscription scope db m allowed
  | cancelSubscriptions p => exact gained_cancelled scope db _
  | grant g fits allowed => exact gained_grant scope db g allowed
  | revokeGrant id reason old moves => exact gained_revoked scope db _ reason
  | _ => exact gained_beside scope db _ rfl rfl

theorem routines_gained (db t : CommerceDb) (writes : Writes (RoutineWrite scope) db t) : Gained scope db t := by
  induction writes with
  | refl => exact gained_refl scope db
  | tail path w ih => exact gained_trans scope db _ _ ih (routine_gained scope _ _ w)

end Rules

inductive Withdrawal : CommerceDb → CommerceDb → Prop where
  | revokeGrant (db : CommerceDb) (id : Uuid) (reason : String) (old : CourseAccessGrant) (moves : GrantMoves db id old) :
      Withdrawal db { db with
        grants := updateWhere (fun g => g.id = id) (fun g => { g with active := false, revocationReason := some reason })
          db.grants }
  | cancelSubscriptions (db : CommerceDb) (p : MembershipSubscription → Bool) : Withdrawal db { db with
      subscriptions := updateWhere (fun s => p s && s.active) (fun s => { s with active := false }) db.subscriptions }
  | revokeEntitlements (db : CommerceDb) (p : ServiceEntitlementGrant → Bool) : Withdrawal db { db with
      entitlements := updateWhere (fun g => p g && g.active) (fun g => { g with active := false }) db.entitlements }

theorem withdrawal_routine (scope : Scope) (db t : CommerceDb) (w : Withdrawal db t) : RoutineWrite scope db t := by
  cases w with
  | revokeGrant id reason old moves => exact .revokeGrant db id reason old moves
  | cancelSubscriptions p => exact .cancelSubscriptions db p
  | revokeEntitlements p => exact .beside db { db with
      entitlements := updateWhere (fun g => p g && g.active) (fun g => { g with active := false }) db.entitlements }

theorem withdrawals_apart (db t : CommerceDb) (writes : Writes Withdrawal db t) :
    { t with grants := db.grants, subscriptions := db.subscriptions, entitlements := db.entitlements } = db := by
  induction writes with
  | refl => rfl
  | tail path w ih =>
    rw [← ih]
    cases w <;> rfl

section Withdrawals

theorem revokeGrantRow_withdrawal (id : Uuid) (reason : String) : Program Withdrawal (revokeGrantRow id reason) := by
  constructor
  intro s
  rw [wlp_revokeGrantRow]
  intro old moves
  exact writes_one _ _ (.revokeGrant s id reason old moves)

theorem revokeGrant_withdrawal (userId courseId : Uuid) (sourceType : CourseAccessSourceType) (sourceId reason : String) :
    Program Withdrawal (revokeGrant userId courseId sourceType sourceId reason) := by
  refine (program_require _ _).bind (fun _ => program_get.bind (fun db => ?_))
  split
  · exact program_pure _
  · exact program_ite _ _ _ (revokeGrantRow_withdrawal _ _) (program_pure _)

theorem cancelSubscriptions_withdrawal (p : MembershipSubscription → Bool) : Program Withdrawal (cancelSubscriptions p) := by
  constructor
  intro s
  simp only [cancelSubscriptions, wlp_modify]
  exact writes_one _ _ (.cancelSubscriptions s p)

theorem revokeEntitlements_withdrawal (p : ServiceEntitlementGrant → Bool) : Program Withdrawal (revokeEntitlements p) := by
  constructor
  intro s
  simp only [revokeEntitlements, wlp_modify]
  exact writes_one _ _ (.revokeEntitlements s p)

end Withdrawals

end EduAi.Commerce
