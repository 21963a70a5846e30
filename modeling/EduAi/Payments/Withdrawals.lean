import EduAi.Payments.RefundWrites

set_option autoImplicit false

namespace EduAi.Payments

open EduAi.Store EduAi.Gds EduAi.Commerce

def withdrawnGrant (g : CourseAccessGrant) : CourseAccessGrant :=
  { g with active := false, revocationReason := some "FULL_REFUND_RECORDED" }

def cancelledTerm (m : MembershipSubscription) : MembershipSubscription :=
  { m with active := false }

structure Withdraws (grants : CourseAccessGrant → Bool) (terms : MembershipSubscription → Bool) (db t : CommerceDb) : Prop where
  grants : t.grants = retire grants (fun g => g.active) withdrawnGrant db.grants
  terms : t.subscriptions = retire terms (fun m => m.active) cancelledTerm db.subscriptions
  apart : { t with grants := db.grants, subscriptions := db.subscriptions, entitlements := db.entitlements } = db

theorem withdraws_none (db : CommerceDb) : Withdraws (fun _ => false) (fun _ => false) db db :=
  ⟨(retire_none _ _ _ _ (fun _ _ _ => rfl)).symm, (retire_none _ _ _ _ (fun _ _ _ => rfl)).symm, rfl⟩

theorem withdraws_trans (p q : CourseAccessGrant → Bool) (m n : MembershipSubscription → Bool) (db s t : CommerceDb)
    (first : Withdraws p m db s) (second : Withdraws q n s t) :
    Withdraws (fun g => p g || q g) (fun x => m x || n x) db t := by
  refine ⟨?_, ?_, ?_⟩
  · rw [second.grants, first.grants]
    exact retire_retire p q (fun g => g.active) withdrawnGrant db.grants (fun _ => rfl)
  · rw [second.terms, first.terms]
    exact retire_retire m n (fun x => x.active) cancelledTerm db.subscriptions (fun _ => rfl)
  · have last := second.apart
    have before := first.apart
    rw [← last] at before
    exact before

theorem withdraws_congr (p q : CourseAccessGrant → Bool) (m n : MembershipSubscription → Bool) (db t : CommerceDb)
    (grants : ∀ g ∈ db.grants, g.active = true → p g = q g) (terms : ∀ x ∈ db.subscriptions, x.active = true → m x = n x)
    (withdraws : Withdraws p m db t) : Withdraws q n db t := by
  refine ⟨?_, ?_, withdraws.apart⟩
  · rw [withdraws.grants]
    exact retire_congr p q _ _ _ grants
  · rw [withdraws.terms]
    exact retire_congr m n _ _ _ terms

section Rows

variable (db : CommerceDb) (ids : UniqueKey (fun g => some g.id) db.grants)

include ids

theorem grantById (g : CourseAccessGrant) (member : g ∈ db.grants) : db.grants.find? (fun x => x.id = g.id) = some g :=
  find_unique _ _ db.grants ids g g.id member (by simp) rfl (fun x _ same => by simpa using same)

theorem revokeGrantRow_withdraws (g : CourseAccessGrant) (member : g ∈ db.grants) (active : g.active = true) :
    Wp (revokeGrantRow g.id "FULL_REFUND_RECORDED") (fun _ t => Withdraws (fun x => x.id = g.id) (fun _ => false) db t) db := by
  rw [wp_revokeGrantRow]
  refine ⟨g, ⟨grantById db ids g member, active⟩, ?_, (retire_none _ _ _ _ (fun _ _ _ => rfl)).symm, rfl⟩
  refine updateWhere_congr _ _ _ _ db.grants (fun x inGrants => ?_) (fun _ _ _ => rfl)
  by_cases same : x.id = g.id
  · have sameRow : x = g := unique_eq _ db.grants ids x g g.id inGrants member (congrArg some same) rfl
    simp [sameRow, active]
  · simp [same]

omit ids in
theorem retired_keys {κ : Type} (key : CourseAccessGrant → Option κ) (same : ∀ g, key (withdrawnGrant g) = key g) (p : CourseAccessGrant → Bool)
    (t : CommerceDb) (grants : t.grants = retire p (fun g => g.active) withdrawnGrant db.grants)
    (unique : UniqueKey key db.grants) : UniqueKey key t.grants := by
  rw [grants]
  exact unique_updateWhere key _ _ _ unique (fun g _ _ => same g)

omit ids in
theorem retired_mem (p : CourseAccessGrant → Bool) (t : CommerceDb)
    (grants : t.grants = retire p (fun g => g.active) withdrawnGrant db.grants) (g : CourseAccessGrant) (member : g ∈ db.grants)
    (unselected : p g = false) : g ∈ t.grants := by
  rw [grants]
  exact (mem_updateWhere _ _ _ _).mpr ⟨g, member, by simp [unselected]⟩

theorem revokeRows_withdraws (rows : List CourseAccessGrant) (distinct : (rows.map (fun g => g.id)).Nodup)
    (live : ∀ g ∈ rows, g ∈ db.grants ∧ g.active = true) :
    Wp (rows.forM (fun g => revokeGrantRow g.id "FULL_REFUND_RECORDED"))
      (fun _ t => Withdraws (fun x => x.id ∈ rows.map (fun g => g.id)) (fun _ => false) db t) db := by
  induction rows generalizing db with
  | nil =>
    rw [List.forM_eq_forM, List.forM_nil, wp_pure]
    simpa using withdraws_none db
  | cons g rest ih =>
    obtain ⟨member, active⟩ := live g (by simp)
    rw [List.map_cons, List.nodup_cons] at distinct
    rw [List.forM_eq_forM, List.forM_cons, wp_bind]
    refine wp_mono _ db (revokeGrantRow_withdraws db ids g member active) ?_
    intro _ s first
    have remaining : ∀ x ∈ rest, x ∈ s.grants ∧ x.active = true := by
      intro x later
      obtain ⟨inGrants, isActive⟩ := live x (by simp [later])
      have other : x.id ≠ g.id := fun same => distinct.1 (by rw [← same]; exact List.mem_map_of_mem later)
      exact ⟨retired_mem db _ s first.grants x inGrants (by simp [other]), isActive⟩
    have ids' := retired_keys db (fun g => some g.id) (fun _ => rfl) _ s first.grants ids
    refine wp_mono _ s (ih s ids' distinct.2 remaining) ?_
    intro _ t second
    refine withdraws_congr _ _ _ _ db t (fun x _ _ => ?_) (fun _ _ _ => rfl) (withdraws_trans _ _ _ _ db s t first second)
    simp

end Rows

def lineGrants (o : CommerceOrder) (l : CommerceOrderLine) (g : CourseAccessGrant) : Bool :=
  match l.productType with
  | .course => grantKey g = (o.buyerId, l.productReferenceId, .coursePurchase, l.id)
  | .membership => isMembershipGrantOf o.buyerId l.id g

def lineTerms (l : CommerceOrderLine) (m : MembershipSubscription) : Bool :=
  match l.productType with
  | .course => false
  | .membership => m.sourceOrderLineId = some l.id

section Lines

variable (db : CommerceDb) (ids : UniqueKey (fun g => some g.id) db.grants) (keys : UniqueKey (fun g => some (grantKey g)) db.grants)
  (o : CommerceOrder) (l : CommerceOrderLine)

include ids

include keys in
theorem revokeGrant_withdraws (courseId : Uuid) (sourceId : String) :
    Wp (revokeGrant o.buyerId courseId .coursePurchase sourceId "FULL_REFUND_RECORDED")
      (fun _ t => Withdraws (fun g => grantKey g = (o.buyerId, courseId, .coursePurchase, sourceId)) (fun _ => false) db t) db := by
  have recorded : validRevocationReason "FULL_REFUND_RECORDED" = true := by decide +kernel
  simp only [revokeGrant, wp_bind, wp_require, wp_get, recorded, true_and]
  cases found : grantBySource db o.buyerId courseId .coursePurchase sourceId with
  | none =>
    rw [wp_pure]
    refine withdraws_congr _ _ _ _ db db (fun g member _ => ?_) (fun _ _ _ => rfl) (withdraws_none db)
    have other := find_none _ db.grants found g member
    simp only [decide_eq_false_iff_not] at other
    refine (decide_eq_false ?_).symm
    simpa [grantKey] using other
  | some g =>
    obtain ⟨member, named⟩ := find_some _ db.grants g found
    have key : grantKey g = (o.buyerId, courseId, .coursePurchase, sourceId) := by simpa [grantKey] using named
    have only : ∀ x ∈ db.grants, grantKey x = (o.buyerId, courseId, .coursePurchase, sourceId) ↔ x.id = g.id := by
      intro x inGrants
      constructor
      · intro same
        rw [unique_eq _ db.grants keys x g _ inGrants member (congrArg some same) (congrArg some key)]
      · intro same
        rw [unique_eq _ db.grants ids x g g.id inGrants member (congrArg some same) rfl, key]
    rw [wp_ite]
    refine ⟨fun active => ?_, fun inactive => ?_⟩
    · refine wp_mono _ db (revokeGrantRow_withdraws db ids g member active) ?_
      intro _ t withdrawn
      refine withdraws_congr _ _ _ _ db t (fun x inGrants _ => ?_) (fun _ _ _ => rfl) withdrawn
      exact decide_eq_decide.mpr (only x inGrants).symm
    · rw [wp_pure]
      refine withdraws_congr _ _ _ _ db db (fun x inGrants isActive => ?_) (fun _ _ _ => rfl) (withdraws_none db)
      refine (decide_eq_false fun same => ?_).symm
      have sameRow := unique_eq _ db.grants keys x g _ inGrants member (congrArg some same) (congrArg some key)
      rw [sameRow] at isActive
      exact inactive isActive

theorem cancelMembershipOf_withdraws (live : ∀ g ∈ db.grants, isMembershipGrantOf o.buyerId l.id g = true → g.active = true) :
    Wp (cancelMembershipOf o l.id)
      (fun _ t => Withdraws (isMembershipGrantOf o.buyerId l.id) (fun m => m.sourceOrderLineId = some l.id) db t) db := by
  simp only [cancelMembershipOf, cancelSubscriptions, revokeEntitlements, wp_bind, wp_modify, wp_get]
  have cancelled : Withdraws (fun _ => false) (fun m => m.sourceOrderLineId = some l.id) db { db with
      subscriptions := retire (fun m => m.sourceOrderLineId = some l.id) (fun m => m.active) cancelledTerm db.subscriptions } :=
    ⟨(retire_none _ _ _ _ (fun _ _ _ => rfl)).symm, rfl, rfl⟩
  have distinct : ((db.grants.filter (isMembershipGrantOf o.buyerId l.id)).map (fun g => g.id)).Nodup := by
    have all : (db.grants.map (fun g => g.id)).Nodup := by simpa [UniqueKey, List.filterMap_eq_map] using ids
    exact all.sublist (List.filter_sublist.map _)
  refine wp_mono _ _ (revokeRows_withdraws { db with
    subscriptions := retire (fun m => m.sourceOrderLineId = some l.id) (fun m => m.active) cancelledTerm db.subscriptions } ids
    (db.grants.filter (isMembershipGrantOf o.buyerId l.id)) distinct ?_) ?_
  · intro g selected
    obtain ⟨member, named⟩ := List.mem_filter.mp selected
    exact ⟨member, live g member named⟩
  · intro _ t revoked
    have both := withdraws_trans _ _ _ _ db _ t cancelled revoked
    have apart := both.apart
    refine withdraws_congr _ _ _ _ db _ (fun g member _ => ?_) (fun _ _ _ => ?_) ⟨both.grants, both.terms, apart⟩
    · rw [Bool.false_or]
      cases named : isMembershipGrantOf o.buyerId l.id g with
      | true => exact decide_eq_true (List.mem_map.mpr ⟨g, List.mem_filter.mpr ⟨member, named⟩, rfl⟩)
      | false =>
        refine decide_eq_false ?_
        intro listed
        obtain ⟨x, selected, same⟩ := List.mem_map.mp listed
        obtain ⟨inGrants, other⟩ := List.mem_filter.mp selected
        have sameRow := unique_eq _ db.grants ids x g g.id inGrants member (congrArg some same) rfl
        rw [sameRow, named] at other
        cases other
    · simp

include keys in
theorem withdrawLine_withdraws (live : l.productType = .membership →
      ∀ g ∈ db.grants, isMembershipGrantOf o.buyerId l.id g = true → g.active = true) :
    Wp (withdrawLine o l) (fun _ t => Withdraws (lineGrants o l) (lineTerms l) db t) db := by
  unfold withdrawLine
  cases product : l.productType with
  | course =>
    refine wp_mono _ db (revokeGrant_withdraws db ids keys o l.productReferenceId l.id) ?_
    intro _ t withdrawn
    exact withdraws_congr _ _ _ _ db t (fun g _ _ => by simp [lineGrants, product]) (fun m _ _ => by simp [lineTerms, product])
      withdrawn
  | membership =>
    refine wp_mono _ db (cancelMembershipOf_withdraws db ids o l (live product)) ?_
    intro _ t withdrawn
    exact withdraws_congr _ _ _ _ db t (fun g _ _ => by simp [lineGrants, product]) (fun m _ _ => by simp [lineTerms, product])
      withdrawn

end Lines

def sourceLine (g : CourseAccessGrant) : List Char :=
  g.sourceId.toList.takeWhile (fun c => c ≠ ':')

section Sources

variable (lineId : Uuid) (text : uuidText lineId = true) (g : CourseAccessGrant)

include text

theorem uuid_plain : ∀ c ∈ lineId.toList, decide (c ≠ ':') = true := by
  intro c member
  refine decide_eq_true fun colon => ?_
  rw [colon] at member
  exact of_decide_eq_true text member

theorem takeWhile_uuid (rest : List Char) : (lineId.toList ++ ':' :: rest).takeWhile (fun c => c ≠ ':') = lineId.toList := by
  rw [List.takeWhile_append_of_pos (uuid_plain lineId text)]
  simp

theorem takeWhile_uuid_all : lineId.toList.takeWhile (fun c => c ≠ ':') = lineId.toList := by
  have whole := @List.takeWhile_append_of_pos _ _ _ [] (uuid_plain lineId text)
  simpa using whole

theorem sourceLine_membership (userId : Uuid) (named : isMembershipGrantOf userId lineId g = true) :
    sourceLine g = lineId.toList := by
  obtain ⟨_, _, source⟩ := of_decide_eq_true named
  unfold sourceLine
  rcases source with same | isPrefix
  · rw [same]
    exact takeWhile_uuid_all lineId text
  · obtain ⟨rest, split⟩ := List.isPrefixOf_iff_prefix.mp isPrefix
    rw [← split, String.toList_append, List.append_assoc]
    exact takeWhile_uuid lineId text rest

theorem sourceLine_grantOf (of : GrantOf lineId g) : sourceLine g = lineId.toList := by
  unfold sourceLine
  rcases of with ⟨_, source⟩ | ⟨_, source⟩
  · rw [source]
    exact takeWhile_uuid_all lineId text
  · rw [source, String.toList_append, String.toList_append, List.append_assoc]
    exact takeWhile_uuid lineId text g.courseId.toList

end Sources

theorem sourceLine_lineGrants (o : CommerceOrder) (l : CommerceOrderLine) (text : uuidText l.id = true) (g : CourseAccessGrant)
    (selected : lineGrants o l g = true) : sourceLine g = l.id.toList := by
  unfold lineGrants at selected
  split at selected
  · have source : g.sourceId = l.id := by
      have key := of_decide_eq_true selected
      simp only [grantKey, Prod.mk.injEq] at key
      exact key.2.2.2
    unfold sourceLine
    rw [source]
    exact takeWhile_uuid_all l.id text
  · exact sourceLine_membership l.id text g o.buyerId selected

-- The guard of refundLine lets the refund take the access of the line.
def takesAccess (db : CommerceDb) (o : CommerceOrder) (r : CommerceRefund) (l : CommerceOrderLine) : Bool :=
  o.confirmedSettlementId = some r.settlementId ∧ o.fulfillmentStatus = .fulfilled ∧ l.finalAmountMinor ≤ lineRefunded db l.id

def takesGrant (db : CommerceDb) (o : CommerceOrder) (r : CommerceRefund) (g : CourseAccessGrant) (a : CommerceRefundAllocation) :
    Bool :=
  (lineById db a.orderLineId).any (fun l => takesAccess db o r l && lineGrants o l g)

def takesTerm (db : CommerceDb) (o : CommerceOrder) (r : CommerceRefund) (m : MembershipSubscription)
    (a : CommerceRefundAllocation) : Bool :=
  (lineById db a.orderLineId).any (fun l => takesAccess db o r l && lineTerms l m)

structure Takeable (db : CommerceDb) (o : CommerceOrder) (r : CommerceRefund) (rows : List CommerceRefundAllocation) : Prop where
  ids : UniqueKey (fun g => some g.id) db.grants
  keys : UniqueKey (fun g => some (grantKey g)) db.grants
  lines : ∀ a ∈ rows, ∃ l, lineById db a.orderLineId = some l ∧ l.id = a.orderLineId ∧ uuidText l.id = true
  distinct : (rows.map (fun a => a.orderLineId)).Nodup
  live : ∀ a ∈ rows, ∀ l, lineById db a.orderLineId = some l → takesAccess db o r l = true → l.productType = .membership →
    ∀ g ∈ db.grants, isMembershipGrantOf o.buyerId l.id g = true → g.active = true

section Loop

variable (o : CommerceOrder) (r : CommerceRefund)

theorem withdraws_reads (p : CourseAccessGrant → Bool) (m : MembershipSubscription → Bool) (db t : CommerceDb)
    (withdraws : Withdraws p m db t) : t.lines = db.lines ∧ t.refunds = db.refunds ∧ t.cases = db.cases := by
  rw [← withdraws.apart]
  exact ⟨rfl, rfl, rfl⟩

theorem takesAccess_same (db s : CommerceDb) (refunds : s.refunds = db.refunds) (l : CommerceOrderLine) :
    takesAccess s o r l = takesAccess db o r l := by
  unfold takesAccess lineRefunded recordedRefunds
  rw [refunds]

theorem lineById_same (db s : CommerceDb) (lines : s.lines = db.lines) (id : Uuid) : lineById s id = lineById db id := by
  unfold lineById
  rw [lines]

theorem refundLine_withdraws (a : CommerceRefundAllocation) (db : CommerceDb) (takeable : Takeable db o r [a]) :
    Wp (refundLine o r a) (fun _ t => Withdraws (fun g => takesGrant db o r g a) (fun m => takesTerm db o r m a) db t) db := by
  obtain ⟨l, found, _, _⟩ := takeable.lines a (by simp)
  have grants : ∀ g, takesGrant db o r g a = (takesAccess db o r l && lineGrants o l g) := fun g => by
    rw [takesGrant, found, Option.any_some]
  have terms : ∀ m, takesTerm db o r m a = (takesAccess db o r l && lineTerms l m) := fun m => by
    rw [takesTerm, found, Option.any_some]
  simp only [refundLine, wp_bind, wp_get, wp_orThrow, wp_ite, wp_pure]
  refine ⟨l, found, fun passed => ?_, fun taken => ?_⟩
  · have spared : takesAccess db o r l = false := by
      refine decide_eq_false ?_
      rintro ⟨confirming, fulfilled, covered⟩
      rcases passed with other | other | below
      · exact other confirming
      · exact other fulfilled
      · omega
    refine withdraws_congr _ _ _ _ db db (fun g _ _ => ?_) (fun m _ _ => ?_) (withdraws_none db)
    · rw [grants, spared, Bool.false_and]
    · rw [terms, spared, Bool.false_and]
  · have takes : takesAccess db o r l = true := by
      push Not at taken
      exact decide_eq_true taken
    refine wp_mono _ db (withdrawLine_withdraws db takeable.ids takeable.keys o l (takeable.live a (by simp) l found takes)) ?_
    intro _ t withdrawn
    refine withdraws_congr _ _ _ _ db t (fun g _ _ => ?_) (fun m _ _ => ?_) withdrawn
    · rw [grants, takes, Bool.true_and]
    · rw [terms, takes, Bool.true_and]

theorem takeable_rest (a : CommerceRefundAllocation) (rest : List CommerceRefundAllocation) (db s : CommerceDb)
    (takeable : Takeable db o r (a :: rest))
    (first : Withdraws (fun g => takesGrant db o r g a) (fun m => takesTerm db o r m a) db s) : Takeable s o r rest := by
  obtain ⟨lines, refunds, _⟩ := withdraws_reads _ _ db s first
  have sameLine := lineById_same db s lines
  have sameTake := takesAccess_same o r db s refunds
  have distinct := takeable.distinct
  rw [List.map_cons, List.nodup_cons] at distinct
  refine ⟨retired_keys db (fun g => some g.id) (fun _ => rfl) _ s first.grants takeable.ids,
    retired_keys db (fun g => some (grantKey g)) (fun _ => rfl) _ s first.grants takeable.keys, ?_, distinct.2, ?_⟩
  · intro b later
    rw [sameLine]
    exact takeable.lines b (by simp [later])
  · intro b later l found takes product g member named
    rw [sameLine] at found
    rw [sameTake] at takes
    rw [first.grants] at member
    obtain ⟨old, before, rfl⟩ := (mem_updateWhere _ _ _ _).mp member
    by_cases selected : (takesGrant db o r old a && old.active) = true
    · -- The row belongs to the first line, and to this one.
      rw [if_pos selected] at named
      have taken : takesGrant db o r old a = true := by
        rw [Bool.and_eq_true] at selected
        exact selected.1
      obtain ⟨k, foundFirst, isOf⟩ := (Option.any_eq_true _ _).mp taken
      rw [Bool.and_eq_true] at isOf
      obtain ⟨k', foundFirst', firstId, firstText⟩ := takeable.lines a (by simp)
      obtain ⟨l', found', lineId, text⟩ := takeable.lines b (by simp [later])
      rw [foundFirst] at foundFirst'
      rw [found] at found'
      cases foundFirst'
      cases found'
      have source := sourceLine_lineGrants o k firstText old isOf.2
      have source' : sourceLine old = l.id.toList := sourceLine_membership l.id text (withdrawnGrant old) o.buyerId named
      have same : k.id = l.id := String.toList_inj.mp (by rw [← source, ← source'])
      have listed : b.orderLineId ∈ rest.map (fun a => a.orderLineId) := List.mem_map_of_mem later
      rw [← lineId, ← same, firstId] at listed
      exact absurd listed distinct.1
    · rw [if_neg selected] at named ⊢
      exact takeable.live b (by simp [later]) l found takes product old before named

theorem refundLines_withdraw (rows : List CommerceRefundAllocation) (db : CommerceDb) (takeable : Takeable db o r rows) :
    Wp (rows.forM (refundLine o r))
      (fun _ t => Withdraws (fun g => rows.any (takesGrant db o r g)) (fun m => rows.any (takesTerm db o r m)) db t) db := by
  induction rows generalizing db with
  | nil =>
    rw [List.forM_eq_forM, List.forM_nil, wp_pure]
    exact withdraws_none db
  | cons a rest ih =>
    rw [List.forM_eq_forM, List.forM_cons, wp_bind]
    have one : Takeable db o r [a] := by
      refine ⟨takeable.ids, takeable.keys, fun b listed => ?_, by simp, fun b listed => ?_⟩
      · rw [List.mem_singleton.mp listed]
        exact takeable.lines a (by simp)
      · rw [List.mem_singleton.mp listed]
        exact takeable.live a (by simp)
    refine wp_mono _ db (refundLine_withdraws o r a db one) ?_
    intro _ s first
    obtain ⟨lines, refunds, _⟩ := withdraws_reads _ _ db s first
    have sameLine := lineById_same db s lines
    have sameTake := takesAccess_same o r db s refunds
    have sameGrants : ∀ g, takesGrant s o r g = takesGrant db o r g := fun g => by
      funext b
      simp only [takesGrant, sameLine, sameTake]
    have sameTerms : ∀ m, takesTerm s o r m = takesTerm db o r m := fun m => by
      funext b
      simp only [takesTerm, sameLine, sameTake]
    refine wp_mono _ s (ih s (takeable_rest o r a rest db s takeable first)) ?_
    intro _ t second
    refine withdraws_congr _ _ _ _ db t (fun g _ _ => ?_) (fun m _ _ => ?_) (withdraws_trans _ _ _ _ db s t first second)
    · rw [List.any_cons, sameGrants]
    · rw [List.any_cons, sameTerms]

end Loop

end EduAi.Payments
