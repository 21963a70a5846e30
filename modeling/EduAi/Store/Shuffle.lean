import Mathlib.Data.List.Nodup

set_option autoImplicit false

namespace EduAi.Store

section Shuffle

variable {σ α : Type} (advance : σ → σ) (draw : σ → Nat)

def shuffleDown : Nat → σ → Array α → Array α
  | 0, _, items => items
  | index + 1, state, items =>
      shuffleDown index (advance state) (items.swapIfInBounds (index + 1) (draw (advance state) % (index + 2)))

theorem swapIfInBounds_perm (items : Array α) (i j : Nat) : (items.swapIfInBounds i j).toList.Perm items.toList := by
  rw [Array.swapIfInBounds_def]
  by_cases first : i < items.size
  · rw [dif_pos first]
    by_cases second : j < items.size
    · rw [dif_pos second]
      exact (Array.swap_perm first second).toList
    · rw [dif_neg second]
  · rw [dif_neg first]

theorem shuffleDown_perm (index : Nat) (state : σ) (items : Array α) :
    (shuffleDown advance draw index state items).toList.Perm items.toList := by
  induction index generalizing state items with
  | zero => exact List.Perm.refl _
  | succ index ih =>
      rw [shuffleDown]
      exact (ih _ _).trans (swapIfInBounds_perm items _ _)

end Shuffle

-- The lists whose image is the same in every order are those with one image.
section Rearranged

variable {α β : Type} (f : α → β) (xs : List α)

theorem constant_of_rearranged (fixed : ∀ ys : List α, ys.Perm xs → ys.map f = xs.map f) : ∀ x ∈ xs, ∀ y ∈ xs, f x = f y := by
  have first (x : α) (member : x ∈ xs) : (xs.map f).head? = some (f x) := by
    obtain ⟨before, after, split⟩ := List.append_of_mem member
    have moved : (x :: (before ++ after)).Perm xs := by
      rw [split]
      exact List.perm_middle.symm
    rw [← fixed _ moved]
    rfl
  intro x member y member'
  exact Option.some.inj ((first x member).symm.trans (first y member'))

theorem rearranged_of_constant (constant : ∀ x ∈ xs, ∀ y ∈ xs, f x = f y) (ys : List α) (perm : ys.Perm xs) :
    ys.map f = xs.map f := by
  cases xs with
  | nil => rw [perm.eq_nil]
  | cons x rest =>
      have images : (x :: rest).map f = List.replicate (rest.length + 1) (f x) := by
        refine List.eq_replicate_iff.mpr ⟨by simp, ?_⟩
        intro b image
        obtain ⟨y, member, rfl⟩ := List.mem_map.mp image
        exact constant y member x List.mem_cons_self
      rw [images]
      have rearranged := perm.map f
      rw [images] at rearranged
      exact List.perm_replicate.mp rearranged

theorem exists_preimages (options : List α) (images : List β) (each : ∀ b ∈ images, b ∈ options.map f) :
    ∃ chosen : List α, (∀ a ∈ chosen, a ∈ options) ∧ chosen.map f = images := by
  induction images with
  | nil => exact ⟨[], by simp, rfl⟩
  | cons b rest ih =>
      obtain ⟨a, member, image⟩ := List.mem_map.mp (each b List.mem_cons_self)
      obtain ⟨chosen, inside, mapped⟩ := ih (fun c later => each c (List.mem_cons_of_mem b later))
      refine ⟨a :: chosen, ?_, by rw [List.map_cons, image, mapped]⟩
      intro x listed
      rcases List.mem_cons.mp listed with rfl | later
      · exact member
      · exact inside x later

end Rearranged

-- Where the keys differ, what a search by key finds does not depend on the order.
section Keyed

variable {α κ : Type} [DecidableEq κ] (key : α → κ)

theorem find_keyed (rows : List α) (once : (rows.map key).Nodup) (k : κ) (r : α) :
    rows.find? (fun row => key row = k) = some r ↔ r ∈ rows ∧ key r = k := by
  have foundKey (row : α) (found : rows.find? (fun row => key row = k) = some row) : key row = k := by
    simpa using List.find?_some found
  constructor
  · intro found
    exact ⟨List.mem_of_find?_eq_some found, foundKey r found⟩
  · rintro ⟨member, named⟩
    have hit : (rows.find? (fun row => key row = k)).isSome = true := by
      rw [List.find?_isSome]
      exact ⟨r, member, decide_eq_true named⟩
    obtain ⟨first, found⟩ := Option.isSome_iff_exists.mp hit
    have same : key first = key r := (foundKey first found).trans named.symm
    rw [found, List.inj_on_of_nodup_map once (List.mem_of_find?_eq_some found) member same]

theorem find_keyed_perm (rows others : List α) (perm : others.Perm rows) (once : (rows.map key).Nodup) (k : κ) :
    others.find? (fun row => key row = k) = rows.find? (fun row => key row = k) := by
  have onceToo : (others.map key).Nodup := (perm.map key).nodup_iff.mpr once
  ext r
  rw [find_keyed key others onceToo, find_keyed key rows once, perm.mem_iff]

end Keyed

end EduAi.Store
