import Mathlib.Tactic.Common

set_option autoImplicit false

namespace EduAi.Store

-- A computation on values that answers or fails, and what an answer says about each of its parts.
section Checks

variable {ε α β : Type}

def ensure (p : Prop) [Decidable p] (e : ε) : Except ε Unit :=
  if p then .ok () else .error e

theorem answered_bind (x : Except ε α) (f : α → Except ε β) (b : β) :
    (x >>= f) = .ok b ↔ ∃ a, x = .ok a ∧ f a = .ok b := by
  constructor
  · intro ok
    cases x with
    | error e => cases ok
    | ok a => exact ⟨a, rfl, ok⟩
  · rintro ⟨a, rfl, ok⟩
    exact ok

theorem answered_pure (a b : α) : (pure a : Except ε α) = .ok b ↔ a = b := by
  constructor
  · intro ok
    exact Except.ok.inj ok
  · rintro rfl
    rfl

theorem answered_ensure (p : Prop) [Decidable p] (e : ε) (u : Unit) : ensure p e = .ok u ↔ p := by
  unfold ensure
  by_cases hp : p
  · simp [hp]
  · simp [hp]

theorem answered_refused (p : Prop) [Decidable p] (e : ε) (x : Except ε α) (a : α) :
    (if p then .error e else x) = .ok a ↔ ¬ p ∧ x = .ok a := by
  by_cases hp : p
  · simp [hp]
  · simp [hp]

theorem answered_mapM (f : α → Except ε β) (xs : List α) (ys : List β) (ok : xs.mapM f = .ok ys) :
    ∀ y ∈ ys, ∃ x ∈ xs, f x = .ok y := by
  induction xs generalizing ys with
  | nil =>
      rw [List.mapM_nil] at ok
      obtain rfl := (answered_pure _ _).mp ok
      intro y member
      cases member
  | cons x rest ih =>
      rw [List.mapM_cons, answered_bind] at ok
      obtain ⟨first, given, ok⟩ := ok
      obtain ⟨later, mapped, ok⟩ := (answered_bind _ _ _).mp ok
      obtain rfl := (answered_pure _ _).mp ok
      intro y member
      rcases List.mem_cons.mp member with here | there
      · subst here
        exact ⟨x, List.mem_cons_self, given⟩
      · obtain ⟨x', hx, ok'⟩ := ih later mapped y there
        exact ⟨x', List.mem_cons_of_mem x hx, ok'⟩

theorem mapM_answers (f : α → Except ε β) (g : α → β) (xs : List α) (each : ∀ x ∈ xs, f x = .ok (g x)) :
    xs.mapM f = .ok (xs.map g) := by
  induction xs with
  | nil => exact (answered_pure _ _).mpr rfl
  | cons x rest ih =>
      rw [List.mapM_cons, answered_bind]
      refine ⟨g x, each x (by simp), (answered_bind _ _ _).mpr ⟨rest.map g, ih (fun y hy => each y (by simp [hy])), ?_⟩⟩
      exact (answered_pure _ _).mpr rfl

end Checks

end EduAi.Store
