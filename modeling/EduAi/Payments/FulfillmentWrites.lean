import EduAi.Commerce.Delivered
import EduAi.Commerce.Gained
import EduAi.Payments.Fulfillment

set_option autoImplicit false

namespace EduAi.Payments

open EduAi.Store EduAi.Gds EduAi.Commerce

variable {scope : Scope}

def deliveredBeside (db t : CommerceDb) : CommerceDb :=
  { t with
    versions := db.versions
    vouchers := db.vouchers
    redemptions := db.redemptions
    orders := db.orders
    lines := db.lines
    benefits := db.benefits
    reservations := db.reservations
    intents := db.intents
    attempts := db.attempts
    events := db.events
    settlements := db.settlements
    cases := db.cases
    bankRequests := db.bankRequests
    bankEvidence := db.bankEvidence
    bankApprovals := db.bankApprovals
    gds := db.gds }

inductive Delivery (scope : Scope) (orderId : Uuid) : CommerceDb → CommerceDb → Prop where
  | beside (db t : CommerceDb) : Delivery scope orderId db (beside db t)
  | subscription (db : CommerceDb) (s : MembershipSubscription) (fits : SubscriptionFits db s)
      (allowed : scope.subscriptions s) : Delivery scope orderId db { db with subscriptions := db.subscriptions ++ [s] }
  | cancelSubscriptions (db : CommerceDb) (p : MembershipSubscription → Bool) :
      Delivery scope orderId db { db with
        subscriptions := updateWhere (fun s => p s && s.active) (fun s => { s with active := false }) db.subscriptions }
  | grant (db : CommerceDb) (g : CourseAccessGrant) (fits : GrantFits db g) (allowed : scope.grants g) :
      Delivery scope orderId db { db with grants := db.grants ++ [g] }
  | revokeGrant (db : CommerceDb) (id : Uuid) (reason : String) (old : CourseAccessGrant) (moves : GrantMoves db id old) :
      Delivery scope orderId db { db with
        grants := updateWhere (fun g => g.id = id) (fun g => { g with active := false, revocationReason := some reason })
          db.grants }
  | effect (db : CommerceDb) (e : CommerceFulfillmentEffect) (l : CommerceOrderLine) (fits : EffectFits db e)
      (expected : EffectExpected db e l) (order : e.orderId = orderId) :
      Delivery scope orderId db { db with effects := db.effects ++ [e] }

section Deliveries

variable (orderId : Uuid)

theorem delivery_write (db t : CommerceDb) (w : Delivery scope orderId db t) : Write db t := by
  cases w with
  | beside t => exact routine_write _ _ (.beside db t)
  | subscription s fits allowed => exact routine_write _ _ (.subscription db s fits trivial)
  | cancelSubscriptions p => exact routine_write _ _ (.cancelSubscriptions db p)
  | grant g fits allowed => exact routine_write _ _ (.grant db g fits trivial)
  | revokeGrant id reason old moves => exact routine_write _ _ (.revokeGrant db id reason old moves)
  | effect e l fits expected order => exact .effect db e l fits expected

theorem delivery_apart (db t : CommerceDb) (w : Delivery scope orderId db t) : deliveredBeside db t = t := by
  cases w <;> rfl

theorem deliveries_apart (db t : CommerceDb) (writes : Writes (Delivery scope orderId) db t) : deliveredBeside db t = t := by
  induction writes with
  | refl => rfl
  | tail path w ih =>
    rename_i s u
    have last := delivery_apart orderId s u w
    rw [← ih] at last
    exact last

theorem deliveries_delivered (db t : CommerceDb) (delivered : Delivered db) (writes : Writes (Delivery scope orderId) db t) : Delivered t :=
  writes_delivered db t delivered (writes_mono (delivery_write orderId) db t writes)

theorem deliveries_appends (db t : CommerceDb) (writes : Writes (Delivery scope orderId) db t) : Appends db t :=
  writes_relation Appends appends_refl appends_trans (fun _ => True) (fun _ _ _ _ => trivial)
    (fun s u w _ => write_appends s u w) db t (writes_mono (delivery_write orderId) db t writes) trivial

theorem deliveries_effects_from (db t : CommerceDb) (writes : Writes (Delivery scope orderId) db t) (e : CommerceFulfillmentEffect)
    (he : e ∈ t.effects) : e ∈ db.effects ∨ e.orderId = orderId := by
  induction writes with
  | refl => exact .inl he
  | tail path w ih =>
    cases w with
    | effect e' l fits expected order =>
      rcases List.mem_append.mp he with old | new
      · exact ih old
      · rw [List.mem_singleton.mp new]
        exact .inr order
    | _ => exact ih he

theorem delivery_gained (db t : CommerceDb) (w : Delivery scope orderId db t) : Gained scope db t := by
  cases w with
  | subscription m fits allowed => exact gained_subscription scope db m allowed
  | cancelSubscriptions p => exact gained_cancelled scope db _
  | grant g fits allowed => exact gained_grant scope db g allowed
  | revokeGrant id reason old moves => exact gained_revoked scope db _ reason
  | _ => exact gained_beside scope db _ rfl rfl

theorem deliveries_gained (db t : CommerceDb) (writes : Writes (Delivery scope orderId) db t) : Gained scope db t :=
  writes_relation (Gained scope) (gained_refl scope) (gained_trans scope) (fun _ => True) (fun _ _ _ _ => trivial)
    (fun s u w _ => delivery_gained orderId s u w) db t writes trivial

end Deliveries

section Beside

variable {orderId : Uuid}

theorem upsertEnrollment_program (e : Enrollment) : Program (Delivery scope orderId) (upsertEnrollment e) := by
  constructor
  intro db
  simp only [upsertEnrollment, wlp_bind, wlp_get, wlp_ite, wlp_modify, wlp_pure]
  exact ⟨fun _ => writes_one _ _ (.beside db { db with enrollments := db.enrollments ++ [e] }), fun _ => writes_refl db⟩

theorem createProgress_program (row : LearningProgress) : Program (Delivery scope orderId) (createProgress row) := by
  constructor
  intro db
  simp only [createProgress, wlp_bind, wlp_get, wlp_ite, wlp_modify, wlp_pure]
  exact ⟨fun _ => writes_one _ _ (.beside db { db with progress := db.progress ++ [row] }), fun _ => writes_refl db⟩

theorem createOutbox_program (row : CommerceNotificationOutbox) : Program (Delivery scope orderId) (createOutbox row) := by
  constructor
  intro db
  simp only [createOutbox, wlp_bind, wlp_get, wlp_ite, wlp_modify, wlp_pure]
  exact ⟨fun _ => writes_one _ _ (.beside db { db with outbox := db.outbox ++ [row] }), fun _ => writes_refl db⟩

theorem createEntitlement_program (g : ServiceEntitlementGrant) : Program (Delivery scope orderId) (createEntitlement g) := by
  constructor
  intro db
  simp only [createEntitlement, wlp_bind, wlp_get, wlp_ite, wlp_modify, wlp_pure]
  exact ⟨fun _ => writes_one _ _ (.beside db { db with entitlements := db.entitlements ++ [g] }), fun _ => writes_refl db⟩

theorem verifyGeneration_program (id settlementId : Uuid) : Program (Delivery scope orderId) (verifyGeneration id settlementId) := by
  constructor
  intro db
  simp only [verifyGeneration, wlp_modify]
  exact writes_one _ _ (.beside db { db with
    generations := updateWhere (fun g => g.id = id)
      (fun g => { g with status := .verifiedPaid, settlementId := some settlementId }) db.generations })

end Beside

section Access

variable {orderId : Uuid}

theorem createGrant_program (g : CourseAccessGrant) (allowed : scope.grants g) :
    Program (Delivery scope orderId) (createGrant g) := by
  constructor
  intro db
  rw [wlp_createGrant]
  exact ⟨fun fits => writes_one _ _ (.grant db g fits allowed), fun _ => writes_refl db⟩

theorem withdrawal_delivery (db t : CommerceDb) (w : Withdrawal db t) : Delivery scope orderId db t := by
  cases w with
  | revokeGrant id reason old moves => exact .revokeGrant db id reason old moves
  | cancelSubscriptions p => exact .cancelSubscriptions db p
  | revokeEntitlements p => exact .beside db { db with
      entitlements := updateWhere (fun g => p g && g.active) (fun g => { g with active := false }) db.entitlements }

theorem ensureGrant_program (draw : AccessDraw) (input : EnsureCourseAccessGrantInput)
    (allowed : scope.grants (input.row (draw.grantId input.key))) :
    Program (Delivery scope orderId) (ensureGrant draw input) := by
  refine (program_require _ _).bind (fun _ => (createGrant_program _ allowed).bind (fun _ => (upsertEnrollment_program _).bind
    (fun _ => program_get.bind (fun db => ?_))))
  exact (program_forM _ _ (fun l => createProgress_program _)).bind (fun _ => program_get.bind (fun _ => program_pure _))

theorem retireEffect_program (g : ReceiptAccessGeneration) (reason : String) (e : ReceiptAccessEffect) :
    Program (Delivery scope orderId) (retireEffect g reason e) := by
  refine Program.mono ?_ withdrawal_delivery
  refine program_get.bind (fun db => program_ite _ _ _ ?_ (program_ite _ _ _ ?_ (program_ite _ _ _ ?_ (program_pure _))))
  · exact (program_orThrow _ _).bind (fun grant => (program_require _ _).bind (fun _ => revokeGrant_withdrawal _ _ _ _ _))
  · exact cancelSubscriptions_withdrawal _
  · exact revokeEntitlements_withdrawal _

theorem convertForPaidOrder_program (paidId settlementId : Uuid) :
    Program (Delivery scope orderId) (convertForPaidOrder paidId settlementId) := by
  refine program_get.bind (fun db => (program_orThrow _ _).bind (fun o => (program_require _ _).bind (fun _ => ?_)))
  split
  · exact program_pure _
  · refine program_ite _ _ _ ((program_require _ _).bind (fun _ => program_pure _)) ?_
    refine (program_require _ _).bind (fun _ => Program.bind ?_ (fun _ => (verifyGeneration_program _ _).bind
      (fun _ => program_pure _)))
    exact program_get.bind (fun _ => program_forM _ _ (retireEffect_program _ _))

theorem ensureTerm_program (draw : AccessDraw) (o : CommerceOrder) (l : CommerceOrderLine) (i : MembershipCheckoutIntent)
    (allowed : scope.subscriptions (membershipTerm draw o l i)) :
    Program (Delivery scope orderId) (ensureTerm draw o l i) := by
  refine program_get.bind (fun db => ?_)
  split
  · exact program_pure _
  · refine (program_require _ _).bind (fun _ => Program.bind ?_ (fun _ => program_pure _))
    constructor
    intro s
    rw [wlp_insertSubscription]
    intro fits
    exact writes_one _ _ (.subscription s _ fits allowed)

end Access

section Effects

variable (draw : AccessDraw) (o : CommerceOrder) (l : CommerceOrderLine) (order : l.orderId = o.id) (db : CommerceDb)
  (delivered : Delivered db) (member : l ∈ db.lines) (grants : ∀ g, LineGrant o.buyerId l g → scope.grants g)
  (terms : ∀ m, TermOf l.id m → scope.subscriptions m)

theorem deliveries_covered (s t : CommerceDb) (writes : Writes (Delivery scope o.id) s t) (expected : String × String)
    (covered : Covered s l expected) : Covered t l expected :=
  covered_kept s t (deliveries_appends o.id s t writes) l expected covered

include order delivered member

-- A fulfilment row a line asks for is on record once its statement has run, whichever attempt wrote it.
theorem effect_covers (effectType sourceId resourceType : String) (resourceId : Uuid)
    (asked : (effectType, sourceId) ∈ expectedEffects db l) :
    Wlp (effect o.id l.id effectType sourceId resourceType resourceId)
      (fun _ t => Writes (Delivery scope o.id) db t ∧ Covered t l (effectType, sourceId)) db := by
  unfold effect
  rw [wlp_createEffect]
  refine ⟨?_, ?_⟩
  · intro fits
    exact ⟨writes_one _ _ (.effect db _ l fits ⟨member, rfl, order, asked⟩ rfl),
      ⟨_, List.mem_append_right _ (List.mem_singleton.mpr rfl), order.symm, rfl⟩⟩
  · intro taken
    refine ⟨writes_refl db, ?_⟩
    rw [free_iff] at taken
    push Not at taken
    obtain ⟨e, he, k, named, key⟩ := taken
    have same : effectKey e = (l.id, effectType, sourceId) := by
      rw [Option.some.inj key, ← Option.some.inj named]
      rfl
    obtain ⟨l', expected⟩ := delivered.effects e he
    have sameLine : l' = l := by
      refine unique_eq _ db.lines delivered.backed.keys.lines l' l l.id expected.line member ?_ rfl
      rw [expected.named]
      exact congrArg some (congrArg Prod.fst same)
    subst sameLine
    exact ⟨e, he, expected.order.symm, same⟩

theorem grantEffect_covers (input : EnsureCourseAccessGrantInput) (effectType missing : String)
    (allowed : scope.grants (input.row (draw.grantId input.key)))
    (asked : (effectType, input.courseId) ∈ expectedEffects db l) :
    Wlp (grantEffect draw o.id l.id input effectType missing)
      (fun _ t => Writes (Delivery scope o.id) db t ∧ Covered t l (effectType, input.courseId)) db := by
  simp only [grantEffect, wlp_bind, wlp_orThrow]
  refine wlp_mono _ db ((@ensureGrant_program scope o.id draw input allowed).within db) ?_
  intro granted s granting g _
  have appends := deliveries_appends o.id db s granting
  refine wlp_mono _ s (@effect_covers scope o l order s (deliveries_delivered o.id db s delivered granting)
    (appends.lines.subset member) effectType input.courseId "course_access_grant" g.id
    (expectedEffects_kept db s appends l _ asked)) ?_
  rintro _ t ⟨writes, covered⟩
  exact ⟨writes_trans db s t granting writes, covered⟩

include grants in
theorem fulfillGrace_covers (product : l.productType = .membership) (removed : RemovedCourseSnapshot)
    (asked : removed.graceStartsAt.isSome ∧ removed.graceEndsAt.isSome →
      ("MEMBERSHIP_GRACE_ACCESS", removed.courseId) ∈ expectedEffects db l) :
    Wlp (fulfillGrace draw o l removed) (fun _ t => Writes (Delivery scope o.id) db t ∧
      (removed.graceStartsAt.isSome ∧ removed.graceEndsAt.isSome → Covered t l ("MEMBERSHIP_GRACE_ACCESS", removed.courseId)))
      db := by
  unfold fulfillGrace
  split
  case h_1 startsAt endsAt startsNamed endsNamed =>
    have named : removed.graceStartsAt.isSome ∧ removed.graceEndsAt.isSome := by simp [startsNamed, endsNamed]
    refine wlp_mono _ db (grantEffect_covers draw o l order db delivered member _ _ _
      (grants _ (membershipGrant product (.inr ⟨rfl, rfl⟩) rfl (fun none => by cases none))) (asked named)) ?_
    rintro _ t ⟨writes, covered⟩
    exact ⟨writes, fun _ => covered⟩
  case h_2 unnamed =>
    rw [wlp_pure]
    refine ⟨writes_refl db, ?_⟩
    rintro ⟨starts, ends⟩
    obtain ⟨startsAt, startsNamed⟩ := Option.isSome_iff_exists.mp starts
    obtain ⟨endsAt, endsNamed⟩ := Option.isSome_iff_exists.mp ends
    exact absurd endsNamed (unnamed startsAt endsAt startsNamed)

theorem fulfillService_covers (i : MembershipCheckoutIntent) (policy : EntitlementPolicy)
    (asked : ("MEMBERSHIP_SERVICE_ACCESS", policy.definitionId) ∈ expectedEffects db l) :
    Wlp (fulfillService draw o l i policy)
      (fun _ t => Writes (Delivery scope o.id) db t ∧ Covered t l ("MEMBERSHIP_SERVICE_ACCESS", policy.definitionId)) db := by
  simp only [fulfillService, wlp_bind, wlp_get, wlp_orThrow]
  refine wlp_mono _ db ((@createEntitlement_program scope o.id _).within db) ?_
  intro _ s granting g _
  have appends := deliveries_appends o.id db s granting
  refine wlp_mono _ s (@effect_covers scope o l order s (deliveries_delivered o.id db s delivered granting)
    (appends.lines.subset member) _ _ "service_entitlement_grant" g.id (expectedEffects_kept db s appends l _ asked)) ?_
  rintro _ t ⟨writes, covered⟩
  exact ⟨writes_trans db s t granting writes, covered⟩

omit order delivered member in
theorem expectedEffects_membership (i : MembershipCheckoutIntent) (version : MembershipPlanVersion)
    (product : l.productType = .membership) (intentFound : intentOf db l.orderId = some i)
    (versionFound : versionById db i.versionId = some version) (asked : String × String) :
    asked ∈ expectedEffects db l ↔ asked = ("MEMBERSHIP_TERM", i.versionId) ∨
      (∃ courseId ∈ version.includedCourses, asked = ("MEMBERSHIP_COURSE_ACCESS", courseId)) ∨
      (∃ removed ∈ i.removedCourses, (removed.graceStartsAt.isSome ∧ removed.graceEndsAt.isSome) ∧
        asked = ("MEMBERSHIP_GRACE_ACCESS", removed.courseId)) ∨
      ∃ policy ∈ version.serviceEntitlements, asked = ("MEMBERSHIP_SERVICE_ACCESS", policy.definitionId) := by
  simp only [expectedEffects, product, intentFound, versionFound, List.mem_append, List.mem_map, List.mem_filter,
    List.mem_singleton, decide_eq_true_eq, or_assoc, and_assoc, eq_comm (a := asked)]

omit order in
theorem deliveries_reach (s : CommerceDb) (path : Writes (Delivery scope o.id) db s) :
    Delivered s ∧ l ∈ s.lines ∧ ∀ asked ∈ expectedEffects db l, asked ∈ expectedEffects s l := by
  have appends := deliveries_appends o.id db s path
  exact ⟨deliveries_delivered o.id db s delivered path, appends.lines.subset member, expectedEffects_kept db s appends l⟩

include grants in
theorem fulfillCourse_delivers (now : Instant) (product : l.productType = .course) :
    Wlp (fulfillCourse now draw o l) (fun _ t => Writes (Delivery scope o.id) db t ∧ LineDelivered t l) db := by
  have asks : expectedEffects db l = [("COURSE_ACCESS", l.productReferenceId)] := by
    unfold expectedEffects
    rw [product]
  unfold fulfillCourse
  refine wlp_mono _ db (grantEffect_covers draw o l order db delivered member (purchaseInput now o l) "COURSE_ACCESS" _
    (grants _ ⟨.inl ⟨.inl rfl, rfl⟩, rfl, fun _ => ⟨rfl, rfl⟩, fun membership => by rw [product] at membership; cases membership⟩)
    ?_) ?_
  · rw [asks]
    exact List.mem_singleton.mpr rfl
  · intro _ t ⟨writes, covered⟩
    refine ⟨writes, ⟨fun membership => ?_, ?_⟩⟩
    · rw [product] at membership
      cases membership
    · intro asked asks'
      unfold expectedEffects at asks'
      rw [product] at asks'
      rw [List.mem_singleton.mp asks']
      exact covered

include grants terms in
theorem fulfillMembership_delivers (product : l.productType = .membership) :
    Wlp (fulfillMembership draw o l) (fun _ t => Writes (Delivery scope o.id) db t ∧ LineDelivered t l) db := by
  simp only [fulfillMembership, wlp_bind, wlp_get, wlp_orThrow, wlp_require]
  intro i intentFound _ version versionFound
  rw [← order] at intentFound
  have asks := expectedEffects_membership l db i version product intentFound versionFound
  have stable : ∀ asked s t, Writes (Delivery scope o.id) s t → Covered s l asked → Covered t l asked :=
    fun asked s t writes covered => deliveries_covered o l s t writes asked covered
  refine wlp_mono _ db ((@ensureTerm_program scope o.id draw o l i (terms _ rfl)).within db) ?_
  intro term s₁ path₁
  obtain ⟨delivered₁, member₁, asks₁⟩ := deliveries_reach o l db delivered member s₁ path₁
  refine wlp_mono _ s₁ (@effect_covers scope o l order s₁ delivered₁ member₁ "MEMBERSHIP_TERM" i.versionId "membership_subscription"
    term.id (asks₁ _ ((asks _).mpr (.inl rfl)))) ?_
  rintro _ s₂ ⟨path₂, termCovered⟩
  have path₂ := writes_trans _ _ _ path₁ path₂
  refine wlp_mono _ s₂ (wlp_forM_each _ (fun courseId t => Covered t l ("MEMBERSHIP_COURSE_ACCESS", courseId))
    (fun courseId s t => stable _ s t) version.includedCourses s₂ ?_) ?_
  · intro courseId included t path
    obtain ⟨delivered', member', asks'⟩ := deliveries_reach o l db delivered member t (writes_trans _ _ _ path₂ path)
    exact grantEffect_covers draw o l order t delivered' member' (membershipInput o l i courseId) _ _
      (grants _ (membershipGrant product (.inl ⟨.inr rfl, rfl⟩) rfl (fun none => by cases none)))
      (asks' _ ((asks _).mpr (.inr (.inl ⟨courseId, included, rfl⟩))))
  rintro _ s₃ ⟨path₃, coursesCovered⟩
  have reach₃ := writes_trans _ _ _ path₂ path₃
  refine wlp_mono _ s₃ (wlp_forM_each _ (fun (removed : RemovedCourseSnapshot) t => removed.graceStartsAt.isSome ∧ removed.graceEndsAt.isSome →
    Covered t l ("MEMBERSHIP_GRACE_ACCESS", removed.courseId))
    (fun removed s t writes covered named => stable _ s t writes (covered named)) i.removedCourses s₃ ?_) ?_
  · intro removed listed t path
    obtain ⟨delivered', member', asks'⟩ := deliveries_reach o l db delivered member t (writes_trans _ _ _ reach₃ path)
    exact fulfillGrace_covers draw o l order t delivered' member' grants product removed
      (fun named => asks' _ ((asks _).mpr (.inr (.inr (.inl ⟨removed, listed, named, rfl⟩)))))
  rintro _ s₄ ⟨path₄, graceCovered⟩
  have reach₄ := writes_trans _ _ _ reach₃ path₄
  refine wlp_mono _ s₄ (wlp_forM_each _ (fun policy t => Covered t l ("MEMBERSHIP_SERVICE_ACCESS", policy.definitionId))
    (fun policy s t => stable _ s t) version.serviceEntitlements s₄ ?_) ?_
  · intro policy listed t path
    obtain ⟨delivered', member', asks'⟩ := deliveries_reach o l db delivered member t (writes_trans _ _ _ reach₄ path)
    exact fulfillService_covers draw o l order t delivered' member' i policy
      (asks' _ ((asks _).mpr (.inr (.inr (.inr ⟨policy, listed, rfl⟩)))))
  rintro _ t ⟨path₅, servicesCovered⟩
  have appends := deliveries_appends o.id db t (writes_trans _ _ _ reach₄ path₅)
  refine ⟨writes_trans _ _ _ reach₄ path₅, ⟨fun _ => ⟨i, version, intentOf_kept db t appends l.orderId i intentFound,
    versionById_kept db t appends i.versionId version versionFound⟩, ?_⟩⟩
  intro asked asks'
  rw [expectedEffects_same db t appends l (fun _ => ⟨i, version, intentFound, versionFound⟩), asks] at asks'
  have path₃₅ := writes_trans _ _ _ path₄ path₅
  rcases asks' with rfl | ⟨courseId, included, rfl⟩ | ⟨removed, listed, named, rfl⟩ | ⟨policy, listed, rfl⟩
  · exact stable _ s₂ t (writes_trans _ _ _ path₃ path₃₅) termCovered
  · exact stable _ s₃ t path₃₅ (coursesCovered courseId included)
  · exact stable _ s₄ t path₅ (graceCovered removed listed named)
  · exact servicesCovered policy listed

include grants terms in
theorem fulfillLine_delivers (now : Instant) :
    Wlp (fulfillLine now draw o l) (fun _ t => Writes (Delivery scope o.id) db t ∧ LineDelivered t l) db := by
  unfold fulfillLine
  cases product : l.productType with
  | course => exact fulfillCourse_delivers draw o l order db delivered member grants now product
  | membership => exact fulfillMembership_delivers draw o l order db delivered member grants terms product

end Effects

structure Completed (db : CommerceDb) (orderId : Uuid) (t : CommerceDb) : Prop where
  writes : Writes Write db t
  orders : t.orders = updateWhere (fun o => o.id = orderId) (OrderPatch.fulfill .fulfilled).apply db.orders
  effects : ∀ e ∈ t.effects, e ∈ db.effects ∨ e.orderId = orderId
  access : ∀ o ∈ db.orders, o.id = orderId → Gained (lineAccess o.buyerId (linesOf db orderId)) db t
  apart : { deliveredBeside db t with orders := t.orders } = t

section Orders

variable (draw : AccessDraw) (now : Instant) (o : CommerceOrder) (db : CommerceDb) (delivered : Delivered db)
  (buyer : ∀ x ∈ db.orders, x.id = o.id → x.buyerId = o.buyerId)

include buyer in
theorem completed_after (s t : CommerceDb) (path : Writes (Delivery (lineAccess o.buyerId (linesOf db o.id)) o.id) db s)
    (completed : Completed s o.id t) : Completed db o.id t := by
  have apart := deliveries_apart o.id db s path
  refine ⟨writes_trans _ _ _ (writes_mono (delivery_write o.id) _ _ path) completed.writes, ?_, ?_, ?_, ?_⟩
  · rw [completed.orders, ← apart]
    rfl
  · intro e he
    rcases completed.effects e he with before | new
    · exact deliveries_effects_from o.id db s path e before
    · exact .inr new
  · have same : linesOf s o.id = linesOf db o.id := by
      rw [← apart]
      rfl
    intro x member named
    have access := completed.access x (by rw [← apart]; exact member) named
    rw [same] at access
    rw [buyer x member named] at access ⊢
    exact gained_trans _ db s t (deliveries_gained o.id db s path) access
  · have last := completed.apart
    rw [← apart] at last
    exact last

theorem fulfill_twice (id : Uuid) (first second : CommerceFulfillmentStatus) (orders : List CommerceOrder) :
    updateWhere (fun o => o.id = id) (OrderPatch.fulfill second).apply
      (updateWhere (fun o => o.id = id) (OrderPatch.fulfill first).apply orders) =
    updateWhere (fun o => o.id = id) (OrderPatch.fulfill second).apply orders := by
  unfold updateWhere
  rw [List.map_map]
  apply List.map_congr_left
  intro o _
  by_cases selected : o.id = id
  · simp [selected, OrderPatch.apply]
  · simp [selected]

theorem startFulfillment_store : Wlp (startFulfillment o) (fun _ t => t = db ∨
    (∃ old, OrderMoves db o.id (.fulfill .processing) old ∧
      t = { db with orders := updateWhere (fun x => x.id = o.id) (OrderPatch.fulfill .processing).apply db.orders })) db := by
  simp only [startFulfillment, wlp_ite, wlp_updateOrder, wlp_pure]
  refine ⟨fun _ old moves => .inr ⟨old, moves, trivial⟩, fun _ => .inl trivial⟩

include delivered buyer

theorem deliverLines_completes : Wlp (do
      let s ← get
      (linesOf s o.id).forM (fulfillLine now draw o)
      createOutbox (fulfilledNotice o)
      updateOrder o.id (.fulfill .fulfilled)) (fun _ t => Completed db o.id t) db := by
  simp only [wlp_bind, wlp_get]
  have own : ∀ l ∈ linesOf db o.id, l ∈ db.lines ∧ l.orderId = o.id := by
    intro l hl
    obtain ⟨member, named⟩ := List.mem_filter.mp hl
    exact ⟨member, of_decide_eq_true named⟩
  refine wlp_mono _ db (wlp_forM_each _ (fun l t => LineDelivered t l)
    (fun l s t (writes : Writes (Delivery (lineAccess o.buyerId (linesOf db o.id)) o.id) s t) =>
      lineDelivered_kept s t (deliveries_appends o.id s t writes) l) (linesOf db o.id) db ?_) ?_
  · intro l hl s path
    obtain ⟨member, named⟩ := own l hl
    obtain ⟨delivered', member', _⟩ := deliveries_reach o l db delivered member s path
    exact @fulfillLine_delivers (lineAccess o.buyerId (linesOf db o.id)) draw o l named s delivered' member' (fun _ of => ⟨l, hl, of⟩)
      (fun _ of => ⟨l, hl, of⟩) now
  rintro _ s ⟨path, lines⟩
  refine wlp_mono _ s ((@createOutbox_program (lineAccess o.buyerId (linesOf db o.id)) o.id _).within s) ?_
  intro _ u noticed
  rw [wlp_updateOrder]
  intro old moves
  have reach := writes_trans _ _ _ path noticed
  have apart := deliveries_apart o.id db u reach
  have complete : EffectsComplete u o.id := by
    intro l hl named
    have before : l ∈ db.lines := by
      rw [← apart] at hl
      exact hl
    refine lineDelivered_kept s u (deliveries_appends o.id s u noticed) l (lines l ?_)
    exact List.mem_filter.mpr ⟨before, by simp [named]⟩
  refine ⟨(writes_mono (delivery_write o.id) _ _ reach).tail (.fulfilled u o.id old moves complete), ?_, ?_, ?_, ?_⟩
  · rw [← apart]
    rfl
  · exact deliveries_effects_from o.id db u reach
  · intro x member named
    have gained := deliveries_gained o.id db u reach
    rw [buyer x member named]
    exact ⟨gained.grants, gained.subscriptions⟩
  · exact congrArg (fun x : CommerceDb => { x with
      orders := updateWhere (fun x => x.id = o.id) (OrderPatch.fulfill .fulfilled).apply u.orders }) apart

theorem deliverOrder_completes : Wlp (deliverOrder now draw o) (fun _ t => Completed db o.id t) db := by
  unfold deliverOrder
  rw [wlp_bind]
  refine wlp_mono _ db (startFulfillment_store o db) ?_
  rintro _ s (rfl | ⟨old, moves, rfl⟩)
  · exact deliverLines_completes draw now o s delivered buyer
  · have started : Write db { db with
        orders := updateWhere (fun x => x.id = o.id) (OrderPatch.fulfill .processing).apply db.orders } :=
      routine_write _ _ (.moveOrder db o.id _ old moves rfl)
    have moved : ∀ x ∈ db.orders, x.id = o.id →
        (OrderPatch.fulfill .processing).apply x ∈ updateWhere (fun x => x.id = o.id) (OrderPatch.fulfill .processing).apply db.orders :=
      fun x member named => (mem_updateWhere _ _ _ _).mpr ⟨x, member, by simp [named]⟩
    have buyer' : ∀ x ∈ updateWhere (fun x => x.id = o.id) (OrderPatch.fulfill .processing).apply db.orders,
        x.id = o.id → x.buyerId = o.buyerId := by
      intro x member named
      obtain ⟨y, before, rfl⟩ := (mem_updateWhere _ _ _ _).mp member
      by_cases own : y.id = o.id
      · rw [if_pos (by simp [own])]
        exact buyer y before own
      · rw [if_neg (by simp [own])] at named
        exact absurd named own
    refine wlp_mono _ _ (deliverLines_completes draw now o _ (write_delivered _ _ delivered started) buyer') ?_
    intro _ t completed
    have access : ∀ x ∈ db.orders, x.id = o.id → Gained (lineAccess x.buyerId (linesOf db o.id)) db t := by
      intro x member named
      have gained := completed.access _ (moved x member named) named
      exact ⟨gained.grants, gained.subscriptions⟩
    refine ⟨writes_trans _ _ _ (writes_one _ _ started) completed.writes, ?_, completed.effects, access, completed.apart⟩
    rw [completed.orders]
    exact fulfill_twice o.id .processing .fulfilled db.orders

end Orders

-- The two ways a fulfilment commits: the order was fulfilled before and nothing is written, or it is fulfilled now.
inductive FulfillmentOutcome (db : CommerceDb) (orderId : Uuid) : CommerceDb → Prop where
  | already (o : CommerceOrder) (found : orderById db orderId = some o) (fulfilled : o.fulfillmentStatus = .fulfilled) :
      FulfillmentOutcome db orderId db
  | completed (o : CommerceOrder) (t : CommerceDb) (found : orderById db orderId = some o) (confirmed : o.status = .confirmed)
      (unfulfilled : o.fulfillmentStatus ≠ .fulfilled) (done : Completed db orderId t) : FulfillmentOutcome db orderId t

section Transactions

variable (deployment : Deployment) (now : Instant) (draw : AccessDraw) (orderId settlementId : Uuid) (db : CommerceDb)
  (delivered : Delivered db)

theorem requireBankTransferProof_reads : Wlp (requireBankTransferProof deployment now orderId settlementId)
    (fun _ t => t = db ∧ deployment.bankTransferEnabled = true ∧ bankTransferProven now db orderId settlementId = true) db := by
  simp only [requireBankTransferProof, wlp_bind, wlp_get, wlp_require]
  exact fun enabled proven => ⟨trivial, enabled, proven⟩

theorem canonicalPayment_some (p : CanonicalPayment) : canonicalPayment db orderId settlementId = some p ↔
    orderById db orderId = some p.order ∧ confirmingSettlement db p.order = some p.settlement ∧
      attemptOfSettlement db p.settlement = some p.attempt ∧ p.settlement.id = settlementId ∧
      ∃ e, eventOfSettlement db p.settlement = some e ∧ gatewayPaymentProven p.order p.settlement p.attempt e = true := by
  simp only [canonicalPayment, Option.bind_eq_bind, Option.bind_eq_some_iff]
  constructor
  · rintro ⟨o, order, s, settlement, a, attempt, e, event, chosen⟩
    split at chosen
    case isFalse => cases chosen
    case isTrue proven =>
      cases chosen
      exact ⟨order, settlement, attempt, proven.1, e, event, proven.2⟩
  · rintro ⟨order, settlement, attempt, named, e, event, proven⟩
    exact ⟨p.order, order, p.settlement, settlement, p.attempt, attempt, e, event, if_pos ⟨named, proven⟩⟩

theorem requireCanonicalPayment_reads : Wlp (requireCanonicalPayment deployment now orderId settlementId)
    (fun p t => t = db ∧ orderById db orderId = some p.order ∧ attemptOfSettlement db p.settlement = some p.attempt ∧
      ((paidByBank db orderId = true ∧ deployment.bankTransferEnabled = true ∧
        bankTransferProven now db orderId settlementId = true) ∨ canonicalPayment db orderId settlementId = some p)) db := by
  simp only [requireCanonicalPayment, wlp_bind, wlp_get, wlp_ite, wlp_orThrow, wlp_pure]
  refine ⟨?_, ?_⟩
  · intro byBank
    refine wlp_mono _ db (requireBankTransferProof_reads deployment now orderId settlementId db) ?_
    rintro _ t ⟨rfl, enabled, proven⟩ o found s _ a attempt
    exact ⟨rfl, found, attempt, .inl ⟨byBank, enabled, proven⟩⟩
  · intro _ p canonical
    obtain ⟨order, _, attempt, _⟩ := (canonicalPayment_some orderId settlementId db p).mp canonical
    exact ⟨trivial, order, attempt, .inr canonical⟩

theorem requireBankProofOfOrder_reads (o : CommerceOrder) :
    Wlp (requireBankProofOfOrder deployment now o) (fun _ t => t = db) db := by
  simp only [requireBankProofOfOrder, wlp_bind, wlp_get]
  split
  · rw [wlp_pure]
  · rw [wlp_ite]
    refine ⟨fun _ => ?_, fun _ => (wlp_pure _ _ _).mpr rfl⟩
    exact wlp_mono _ db (requireBankTransferProof_reads deployment now o.id _ db) (fun _ t proof => proof.1)

theorem convertReceiptOfOrder_program (o : CommerceOrder) : Program (Delivery scope o.id) (convertReceiptOfOrder o) := by
  unfold convertReceiptOfOrder
  split
  · exact program_pure _
  · exact (convertForPaidOrder_program _ _).bind (fun _ => program_pure _)

include delivered

theorem fulfillConfirmedOrder_outcome :
    Wlp (fulfillConfirmedOrder deployment now draw orderId) (fun _ t => FulfillmentOutcome db orderId t) db := by
  simp only [fulfillConfirmedOrder, wlp_bind, wlp_get, wlp_orThrow, wlp_ite, wlp_require, wlp_pure]
  intro o found
  refine ⟨fun fulfilled => .already o found fulfilled, ?_⟩
  intro unfulfilled confirmed
  have named := (orderById_some db orderId o found).2
  refine wlp_mono _ db (requireBankProofOfOrder_reads deployment now db o) ?_
  intro _ s same
  rw [same]
  refine wlp_mono _ db ((@convertReceiptOfOrder_program (lineAccess o.buyerId (linesOf db o.id)) o).within db) ?_
  intro _ s path
  have buyer : ∀ x ∈ db.orders, x.id = o.id → x.buyerId = o.buyerId := by
    intro x member same
    rw [order_same db delivered.backed.keys x o member (orderById_some db orderId o found).1 same]
  have sameOrders : s.orders = db.orders := by
    rw [← deliveries_apart o.id db s path]
    rfl
  have buyerBefore : ∀ x ∈ s.orders, x.id = o.id → x.buyerId = o.buyerId := by
    rw [sameOrders]
    exact buyer
  refine wlp_mono _ s (deliverOrder_completes draw now o s (deliveries_delivered o.id db s delivered path) buyerBefore) ?_
  intro _ t completed
  have done := completed_after o db buyer s t path completed
  rw [named] at done
  exact .completed o t found confirmed unfulfilled done

theorem fulfillmentTxn_outcome : Wlp (fulfillmentTxn deployment now draw orderId settlementId)
    (fun _ t => FulfillmentOutcome db orderId t) db := by
  unfold fulfillmentTxn
  rw [wlp_bind]
  refine wlp_mono _ db (requireCanonicalPayment_reads deployment now orderId settlementId db) ?_
  rintro p _ ⟨rfl, _⟩
  exact fulfillConfirmedOrder_outcome deployment now draw orderId _ delivered

omit delivered in
theorem startFulfillment_program (o : CommerceOrder) : Program (RoutineWrite scope) (startFulfillment o) := by
  refine program_ite _ _ _ ?_ (program_pure _)
  constructor
  intro s
  rw [wlp_updateOrder]
  intro old moves
  exact writes_one _ _ (.moveOrder s o.id _ old moves rfl)

omit delivered in
theorem recheckCase_program (c : CommerceReconciliationCase) (reasonCode : String) :
    Program (RoutineWrite scope) (recheckCase c reasonCode now) := by
  refine (program_require _ _).bind (fun _ => ?_)
  constructor
  intro s
  rw [wlp_updateCase]
  intro old moves
  exact writes_one _ _ (.recheckCase s c.id now old moves)

omit delivered in
theorem recordFailure_outcome (caseId : Uuid) : Wlp (recordFailure deployment now caseId orderId settlementId)
    (fun recorded t => Writes (RoutineWrite scope) db t ∧ (recorded = false → t = db)) db := by
  simp only [recordFailure, wlp_bind]
  refine wlp_mono _ db (requireCanonicalPayment_reads deployment now orderId settlementId db) ?_
  rintro p _ ⟨rfl, found, attempt, _⟩
  simp only [wlp_ite, wlp_bind, wlp_updateOrder, wlp_get, wlp_pure]
  refine ⟨fun _ => ⟨writes_refl _, fun _ => trivial⟩, fun _ => ?_⟩
  refine wlp_mono _ _ ((@startFulfillment_program scope p.order).within _) ?_
  intro _ s started old moves
  have failed := writes_trans _ _ _ started
    (writes_one _ _ (@RoutineWrite.moveOrder scope s p.order.id (.fulfill .failed) old moves rfl))
  split
  · simp only [wlp_bind, wlp_require, wlp_ite, wlp_pure]
    refine fun _ => ⟨fun _ => ?_, fun _ => ⟨failed, fun recorded => by cases recorded⟩⟩
    refine wlp_mono _ _ ((@recheckCase_program scope now _ _).within _) ?_
    intro _ t rechecked
    exact ⟨writes_trans _ _ _ failed rechecked, fun recorded => by cases recorded⟩
  · simp only [wlp_bind, wlp_insertCase, wlp_pure]
    intro fits
    refine ⟨failed.tail (.openCase _ _ fits ⟨p.attempt.id, _, _, rfl, rfl, .inl ?_⟩), fun recorded => by cases recorded⟩
    decide

end Transactions

end EduAi.Payments
