import EduAi.Store.Txn

set_option autoImplicit false

namespace EduAi.Store

section Runs

variable {σ ι : Type} (step : σ → ι → σ)

def run (s : σ) (inputs : List ι) : σ :=
  inputs.foldl step s

@[simp] theorem run_nil (s : σ) : run step s [] = s := rfl

@[simp] theorem run_cons (s : σ) (i : ι) (inputs : List ι) : run step s (i :: inputs) = run step (step s i) inputs := rfl

theorem run_append (s : σ) (first second : List ι) : run step s (first ++ second) = run step (run step s first) second := by
  simp [run]

theorem run_invariant (P : σ → Prop) (preserved : ∀ s i, P s → P (step s i)) (s : σ) (inputs : List ι) (start : P s) :
    P (run step s inputs) := by
  induction inputs generalizing s with
  | nil => exact start
  | cons i rest ih => exact ih (step s i) (preserved s i start)

theorem run_became (P : σ → Prop) (s : σ) (inputs : List ι) (before : ¬ P s) (after : P (run step s inputs)) :
    ∃ first i rest, inputs = first ++ i :: rest ∧ ¬ P (run step s first) ∧ P (step (run step s first) i) := by
  induction inputs generalizing s with
  | nil => exact absurd after before
  | cons i rest ih =>
      by_cases now : P (step s i)
      · exact ⟨[], i, rest, rfl, before, now⟩
      · obtain ⟨first, j, later, split, unmet, met⟩ := ih (step s i) now after
        exact ⟨i :: first, j, later, by rw [split, List.cons_append], unmet, met⟩

def AllMeet (C : σ → ι → Prop) : σ → List ι → Prop
  | _, [] => True
  | s, i :: rest => C s i ∧ AllMeet C (step s i) rest

instance decidableAllMeet (C : σ → ι → Prop) [∀ s i, Decidable (C s i)] : (s : σ) → (inputs : List ι) → Decidable (AllMeet step C s inputs)
  | _, [] => isTrue trivial
  | s, i :: rest =>
      have := decidableAllMeet C (step s i) rest
      inferInstanceAs (Decidable (C s i ∧ AllMeet step C (step s i) rest))

theorem run_invariant_meet (C : σ → ι → Prop) (P : σ → Prop) (preserved : ∀ s i, P s → C s i → P (step s i)) (s : σ)
    (inputs : List ι) (start : P s) (meet : AllMeet step C s inputs) : P (run step s inputs) := by
  induction inputs generalizing s with
  | nil => exact start
  | cons i rest ih => exact ih (step s i) (preserved s i start meet.1) meet.2

theorem allMeet_shows (C D : σ → ι → Prop) (P : σ → Prop) (preserved : ∀ s i, P s → C s i → P (step s i))
    (shows : ∀ s i, P s → C s i → D s i) (s : σ) (inputs : List ι) (start : P s) (meet : AllMeet step C s inputs) :
    AllMeet step D s inputs := by
  induction inputs generalizing s with
  | nil => trivial
  | cons i rest ih => exact ⟨shows s i start meet.1, ih (step s i) (preserved s i start meet.1) meet.2⟩

theorem allMeet_invariant (D : σ → ι → Prop) (P : σ → Prop) (preserved : ∀ s i, P s → P (step s i)) (shows : ∀ s i, P s → D s i)
    (s : σ) (inputs : List ι) (start : P s) : AllMeet step D s inputs := by
  induction inputs generalizing s with
  | nil => trivial
  | cons i rest ih => exact ⟨shows s i start, ih (step s i) (preserved s i start)⟩

theorem allMeet_congr (C D : σ → ι → Prop) (same : ∀ s i, C s i ↔ D s i) (s : σ) (inputs : List ι) :
    AllMeet step C s inputs ↔ AllMeet step D s inputs := by
  induction inputs generalizing s with
  | nil => exact Iff.rfl
  | cons i rest ih => exact and_congr (same s i) (ih (step s i))

theorem allMeet_append (C : σ → ι → Prop) (s : σ) (first second : List ι) :
    AllMeet step C s (first ++ second) ↔ AllMeet step C s first ∧ AllMeet step C (run step s first) second := by
  induction first generalizing s with
  | nil => simp [AllMeet]
  | cons i rest ih => simp [AllMeet, ih, and_assoc]

theorem run_relation (R : σ → σ → Prop) (refl : ∀ s, R s s) (trans : ∀ s t u, R s t → R t u → R s u)
    (P : σ → Prop) (preserved : ∀ s i, P s → P (step s i)) (moves : ∀ s i, P s → R s (step s i)) (s : σ)
    (inputs : List ι) (start : P s) : R s (run step s inputs) := by
  induction inputs generalizing s with
  | nil => exact refl s
  | cons i rest ih => exact trans _ _ _ (moves s i start) (ih (step s i) (preserved s i start))

theorem run_relation_meet (C : σ → ι → Prop) (R : σ → σ → Prop) (P : σ → Prop) (refl : ∀ s, P s → R s s)
    (trans : ∀ s t u, R s t → R t u → R s u) (preserved : ∀ s i, P s → C s i → P (step s i))
    (moves : ∀ s i, P s → C s i → R s (step s i)) (s : σ) (inputs : List ι) (start : P s) (meet : AllMeet step C s inputs) :
    R s (run step s inputs) := by
  induction inputs generalizing s with
  | nil => exact refl s start
  | cons i rest ih => exact trans _ _ _ (moves s i start meet.1) (ih (step s i) (preserved s i start meet.1) meet.2)

end Runs

end EduAi.Store
