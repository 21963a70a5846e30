import EduAi.Commerce.Backing

set_option autoImplicit false

namespace EduAi.Commerce

open EduAi.Store EduAi.Gds

structure Delivered (db : CommerceDb) : Prop where
  backed : Backed db
  effects : ∀ e ∈ db.effects, ∃ l, EffectExpected db e l
  fulfilled : ∀ o ∈ db.orders, o.fulfillmentStatus = .fulfilled → EffectsComplete db o.id

theorem emptyCommerceDb_delivered (createdAt : Instant) : Delivered (emptyCommerceDb createdAt) := by
  refine ⟨emptyCommerceDb_backed createdAt, ?_, ?_⟩ <;>
    · intro _ member
      cases member

theorem find_prefix {α : Type} (p : α → Bool) (rows more : List α) (grows : rows <+: more) (r : α)
    (found : rows.find? p = some r) : more.find? p = some r := by
  obtain ⟨rest, rfl⟩ := grows
  rw [List.find?_append, found]
  rfl

section Snapshots

variable (db t : CommerceDb) (appends : Appends db t)

include appends

theorem intentOf_kept (orderId : Uuid) (i : MembershipCheckoutIntent) (found : intentOf db orderId = some i) :
    intentOf t orderId = some i :=
  find_prefix _ _ _ appends.intents i found

theorem versionById_kept (id : Uuid) (v : MembershipPlanVersion) (found : versionById db id = some v) :
    versionById t id = some v :=
  find_prefix _ _ _ appends.versions v found

theorem expectedEffects_same (l : CommerceOrderLine) (snapshot : l.productType = .membership →
    ∃ intent version, intentOf db l.orderId = some intent ∧ versionById db intent.versionId = some version) :
    expectedEffects t l = expectedEffects db l := by
  unfold expectedEffects
  cases product : l.productType with
  | course => rfl
  | membership =>
    obtain ⟨intent, version, intentFound, versionFound⟩ := snapshot product
    simp only [intentFound, versionFound, intentOf_kept db t appends l.orderId intent intentFound,
      versionById_kept db t appends intent.versionId version versionFound]

theorem expectedEffects_kept (l : CommerceOrderLine) (expected : String × String) (asked : expected ∈ expectedEffects db l) :
    expected ∈ expectedEffects t l := by
  rw [expectedEffects_same db t appends l]
  · exact asked
  · intro product
    simp only [expectedEffects, product] at asked
    cases intentFound : intentOf db l.orderId with
    | none => simp [intentFound] at asked
    | some intent =>
      cases versionFound : versionById db intent.versionId with
      | none => simp [intentFound, versionFound] at asked
      | some version => exact ⟨intent, version, rfl, versionFound⟩

theorem covered_kept (l : CommerceOrderLine) (expected : String × String) (covered : Covered db l expected) :
    Covered t l expected := by
  obtain ⟨e, he, order, key⟩ := covered
  exact ⟨e, appends.effects.subset he, order, key⟩

theorem lineDelivered_kept (l : CommerceOrderLine) (delivered : LineDelivered db l) : LineDelivered t l := by
  refine ⟨?_, ?_⟩
  · intro product
    obtain ⟨intent, version, intentFound, versionFound⟩ := delivered.snapshot product
    exact ⟨intent, version, intentOf_kept db t appends l.orderId intent intentFound,
      versionById_kept db t appends intent.versionId version versionFound⟩
  · intro expected asked
    rw [expectedEffects_same db t appends l delivered.snapshot] at asked
    exact covered_kept db t appends l expected (delivered.covered expected asked)

theorem effectExpected_kept (e : CommerceFulfillmentEffect) (l : CommerceOrderLine) (expected : EffectExpected db e l) :
    EffectExpected t e l :=
  ⟨appends.lines.subset expected.line, expected.named, expected.order,
    expectedEffects_kept db t appends l _ expected.expected⟩

end Snapshots

section Preserved

variable (db t : CommerceDb) (delivered : Delivered db) (w : Write db t)

include w

theorem write_effects_from (e : CommerceFulfillmentEffect) (he : e ∈ t.effects) :
    e ∈ db.effects ∨ ∃ l, EffectExpected db e l := by
  cases w with
  | routine _ w => cases w <;> exact .inl he
  | effect e' l fits expected =>
    rcases List.mem_append.mp he with old | new
    · exact .inl old
    · rw [List.mem_singleton.mp new]
      exact .inr ⟨l, expected⟩
  | _ => exact .inl he

theorem write_lines_from (l : CommerceOrderLine) (hl : l ∈ t.lines) :
    l ∈ db.lines ∨ (t.orders = db.orders ∧ ∃ o, orderById db l.orderId = some o ∧ o.status = .pendingPayment) := by
  cases w with
  | routine _ w =>
    cases w with
    | line l' o fits awaiting =>
      rcases List.mem_append.mp hl with old | new
      · exact .inl old
      · rw [List.mem_singleton.mp new]
        exact .inr ⟨rfl, o, fits.order, awaiting⟩
    | _ => exact .inl hl
  | _ => exact .inl hl

theorem write_fulfilled_from (o' : CommerceOrder) (ho' : o' ∈ t.orders) (fulfilled : o'.fulfillmentStatus = .fulfilled) :
    (∃ o ∈ db.orders, o.id = o'.id ∧ o.fulfillmentStatus = .fulfilled) ∨ EffectsComplete db o'.id := by
  have moved : ∀ id (patch : OrderPatch) old, OrderMoves db id patch old →
      (∀ o, (patch.apply o).fulfillmentStatus = .fulfilled → o.fulfillmentStatus = .fulfilled) →
      o' ∈ updateWhere (fun o => o.id = id) patch.apply db.orders →
      ∃ o ∈ db.orders, o.id = o'.id ∧ o.fulfillmentStatus = .fulfilled := by
    intro id patch old moves before member'
    obtain ⟨o, ho, rfl⟩ := (mem_updateWhere _ _ _ _).mp member'
    refine ⟨o, ho, ?_, ?_⟩
    · split
      · rw [orderPatch_id]
      · rfl
    · split at fulfilled
      · exact before o fulfilled
      · exact fulfilled
  cases w with
  | routine _ w =>
    cases w with
    | order o fits =>
      rcases List.mem_append.mp ho' with old | added
      · exact .inl ⟨o', old, rfl, fulfilled⟩
      · rw [List.mem_singleton.mp added, fits.awaiting.2] at fulfilled
        cases fulfilled
    | moveOrder id patch old moves routine =>
      refine .inl (moved id patch old moves ?_ ho')
      intro o after
      cases patch with
      | confirm settlementId now => cases routine
      | close expired => exact after
      | lateReview => exact after
      | lateRefunded => exact after
      | fulfill status =>
        have same : status = .fulfilled := after
        rw [same] at routine
        cases routine
    | _ => exact .inl ⟨o', ho', rfl, fulfilled⟩
  | confirm id settlementId now old moves awaiting => exact .inl (moved id _ old moves (fun _ after => after) ho')
  | fulfilled id old moves complete =>
    obtain ⟨o, ho, rfl⟩ := (mem_updateWhere _ _ _ _).mp ho'
    by_cases selected : o.id = id
    · refine .inr ?_
      rw [if_pos (by simp [selected]), orderPatch_id, selected]
      exact complete
    · rw [if_neg (by simp [selected])] at fulfilled ⊢
      exact .inl ⟨o, ho, rfl, fulfilled⟩
  | _ => exact .inl ⟨o', ho', rfl, fulfilled⟩

include delivered

theorem write_delivered : Delivered t := by
  have kept := write_kept db t delivered.backed.keys w
  refine ⟨write_backed db t delivered.backed w, ?_, ?_⟩
  · intro e he
    rcases write_effects_from db t w e he with old | ⟨l, expected⟩
    · obtain ⟨l, expected⟩ := delivered.effects e old
      exact ⟨l, effectExpected_kept db t kept.appends e l expected⟩
    · exact ⟨l, effectExpected_kept db t kept.appends e l expected⟩
  · intro o' ho' fulfilled l hl named
    have complete : EffectsComplete db o'.id := by
      rcases write_fulfilled_from db t w o' ho' fulfilled with ⟨o, ho, same, before⟩ | complete
      · rw [← same]
        exact delivered.fulfilled o ho before
      · exact complete
    rcases write_lines_from db t w l hl with old | ⟨sameOrders, o, found, awaiting⟩
    · exact lineDelivered_kept db t kept.appends l (complete l old named)
    · obtain ⟨ho, sameId⟩ := orderById_some db l.orderId o found
      rw [sameOrders] at ho'
      have same : o = o' := order_same db delivered.backed.keys o o' ho ho' (sameId.trans named)
      have confirmed := (delivered.backed.orders o' ho').2.2 (by simp [fulfilled])
      rw [← same, awaiting] at confirmed
      cases confirmed

omit w in
theorem writes_delivered (writes : Writes Write db t) : Delivered t :=
  writes_invariant Delivered (fun s u w held => write_delivered s u held w) db t writes delivered

end Preserved

end EduAi.Commerce
