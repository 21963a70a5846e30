import EduAi.Store.Text

set_option autoImplicit false

namespace EduAi.Store

-- Texts joined by a mark that occurs in none of them, and what the joined text still tells.
section Joined

variable (mark : UInt16)

theorem joined_nil (ts : List Units) (some : ∀ t ∈ ts, t ≠ []) : [mark].intercalate ts = [] ↔ ts = [] := by
  constructor
  · intro empty
    cases ts with
    | nil => rfl
    | cons t rest =>
        exfalso
        refine some t List.mem_cons_self ?_
        cases rest with
        | nil => simpa using empty
        | cons u later =>
            rw [List.intercalate_cons_cons, List.append_assoc] at empty
            exact (List.append_eq_nil_iff.mp empty).1
  · rintro rfl
    rfl

theorem joined_injective (ts us : List Units) (left : ∀ t ∈ ts, t ≠ [] ∧ mark ∉ t) (right : ∀ u ∈ us, u ≠ [] ∧ mark ∉ u)
    (same : [mark].intercalate ts = [mark].intercalate us) : ts = us := by
  have emptyT := joined_nil mark ts (fun t member => (left t member).1)
  have emptyU := joined_nil mark us (fun u member => (right u member).1)
  by_cases none : ts = []
  · rw [none, emptyU.mp (same.symm.trans (emptyT.mpr none))]
  · have others : us ≠ [] := fun noneU => none (emptyT.mp (same.trans (emptyU.mpr noneU)))
    rw [← List.splitOn_intercalate mark (fun t member => (left t member).2) none, same,
      List.splitOn_intercalate mark (fun u member => (right u member).2) others]

end Joined

-- A list mapped by a function that may fail.
section MapM

variable {α β : Type} (f : α → Option β)

theorem mapM_some (xs : List α) (ys : List β) : xs.mapM f = some ys ↔ List.Forall₂ (fun x y => f x = some y) xs ys := by
  induction xs generalizing ys with
  | nil =>
      rw [List.mapM_nil, List.forall₂_nil_left_iff]
      exact Option.some_inj.trans eq_comm
  | cons x rest ih =>
      rw [List.mapM_cons, List.forall₂_cons_left_iff]
      constructor
      · intro mapped
        obtain ⟨y, here, mapped⟩ := Option.bind_eq_some_iff.mp mapped
        obtain ⟨later, there, made⟩ := Option.bind_eq_some_iff.mp mapped
        exact ⟨y, later, here, (ih later).mp there, (Option.some.inj made).symm⟩
      · rintro ⟨y, later, here, there, rfl⟩
        rw [here, (ih later).mpr there]
        rfl

theorem mapM_injective (injective : ∀ a b y, f a = some y → f b = some y → a = b) (xs ys : List α) (zs : List β)
    (mappedX : xs.mapM f = some zs) (mappedY : ys.mapM f = some zs) : xs = ys := by
  rw [mapM_some] at mappedX mappedY
  induction mappedX generalizing ys with
  | nil => exact (List.forall₂_nil_right_iff.mp mappedY).symm
  | cons here _ ih =>
      obtain ⟨y, rest, there, later, rfl⟩ := List.forall₂_cons_right_iff.mp mappedY
      rw [injective _ _ _ here there, ih rest later]

end MapM

end EduAi.Store
