import EduAi.Store.Runs
import EduAi.Store.Table

set_option autoImplicit false

namespace EduAi.Store

section Editing

variable {σ ι κ ρ : Type}

structure Editing (σ ρ : Type) where
  store : σ
  pending : List ρ

inductive EditInput (ι κ : Type) where
  | use (i : ι)
  | read (k : κ)
  | write (n : Nat)

variable (step : σ → ι → σ) (read : σ → κ → Option ρ) (write : σ → ρ → σ)

def editStep (e : Editing σ ρ) : EditInput ι κ → Editing σ ρ
  | .use i => { e with store := step e.store i }
  | .read k =>
      match read e.store k with
      | some r => { e with pending := e.pending ++ [r] }
      | none => e
  | .write n =>
      match e.pending[n]? with
      | some r => { store := write e.store r, pending := e.pending.eraseIdx n }
      | none => e

def onEdits (uses : σ → ι → Prop) (writes : σ → ρ → Prop) (e : Editing σ ρ) : EditInput ι κ → Prop
  | .use i => uses e.store i
  | .read _ => True
  | .write n => ∀ r ∈ e.pending[n]?, writes e.store r

instance (uses : σ → ι → Prop) (writes : σ → ρ → Prop) [∀ s i, Decidable (uses s i)] [∀ s r, Decidable (writes s r)]
    (e : Editing σ ρ) (i : EditInput ι κ) : Decidable (onEdits uses writes e i) := by
  unfold onEdits
  split <;> infer_instance

def opened (s : σ) : Editing σ ρ where
  store := s
  pending := []

def FrozenThroughout (edits : Editing σ ρ → EditInput ι κ → Editing σ ρ) (frozen : σ → σ → Prop) (s : σ)
    (inputs : List (EditInput ι κ)) : Prop :=
  ∀ first second, inputs = first ++ second → frozen (run edits (opened s) first).store (run edits (opened s) inputs).store

section Kept

variable (uses : σ → ι → Prop) (writes : σ → ρ → Prop) (P : σ → Prop) (Made : ρ → Prop) (R : σ → σ → Prop)
  (made : ∀ s k r, P s → read s k = some r → Made r) (refl : ∀ s, P s → R s s)
  (used : ∀ s i, P s → uses s i → P (step s i) ∧ R s (step s i))
  (written : ∀ s r, P s → Made r → writes s r → P (write s r) ∧ R s (write s r))

def EditsSound (e : Editing σ ρ) : Prop :=
  P e.store ∧ ∀ r ∈ e.pending, Made r

include made refl used written

theorem editStep_kept (e : Editing σ ρ) (i : EditInput ι κ) (sound : EditsSound P Made e) (meets : onEdits uses writes e i) :
    EditsSound P Made (editStep step read write e i) ∧ R e.store (editStep step read write e i).store := by
  obtain ⟨kept, all⟩ := sound
  cases i with
  | use i =>
      obtain ⟨after, moved⟩ := used e.store i kept meets
      exact ⟨⟨after, all⟩, moved⟩
  | read k =>
      dsimp only [editStep]
      cases found : read e.store k with
      | none => exact ⟨⟨kept, all⟩, refl e.store kept⟩
      | some r =>
          refine ⟨⟨kept, ?_⟩, refl e.store kept⟩
          intro x member
          rcases List.mem_append.mp member with old | new
          · exact all x old
          · rw [List.mem_singleton.mp new]
            exact made e.store k r kept found
  | write n =>
      dsimp only [editStep]
      cases found : e.pending[n]? with
      | none => exact ⟨⟨kept, all⟩, refl e.store kept⟩
      | some r =>
          obtain ⟨after, moved⟩ := written e.store r kept (all r (List.mem_of_getElem? found)) (meets r found)
          exact ⟨⟨after, fun x member => all x (List.mem_of_mem_eraseIdx member)⟩, moved⟩

theorem editRun_kept (trans : ∀ s t u, R s t → R t u → R s u) (s : σ) (inputs : List (EditInput ι κ)) (start : P s)
    (meet : AllMeet (editStep step read write) (onEdits uses writes) (opened s) inputs) :
    P (run (editStep step read write) (opened s) inputs).store ∧ FrozenThroughout (editStep step read write) R s inputs := by
  have begins : EditsSound P Made (opened s) := ⟨start, fun _ member => by cases member⟩
  have preserved (e : Editing σ ρ) (i : EditInput ι κ) (sound : EditsSound P Made e) (meets : onEdits uses writes e i) :=
    (editStep_kept step read write uses writes P Made R made refl used written e i sound meets).1
  refine ⟨(run_invariant_meet _ _ (EditsSound P Made) preserved _ inputs begins meet).1, ?_⟩
  intro first second split
  subst split
  obtain ⟨early, late⟩ := (allMeet_append _ _ _ first second).mp meet
  have reached := run_invariant_meet _ _ (EditsSound P Made) preserved _ first begins early
  rw [run_append]
  exact run_relation_meet _ (onEdits uses writes) (fun e e' : Editing σ ρ => R e.store e'.store) (EditsSound P Made)
    (fun e sound => refl e.store sound.1) (fun _ _ _ one two => trans _ _ _ one two) preserved
    (fun e i sound meets => (editStep_kept step read write uses writes P Made R made refl used written e i sound meets).2)
    _ second reached late

end Kept

end Editing

section Terms

variable {σ ρ κ τ : Type} (rows : σ → List ρ) (id : ρ → κ) (inUse : σ → ρ → Prop) (terms : ρ → τ)

def TermsFrozen (s t : σ) : Prop :=
  ∀ r ∈ rows s, inUse s r → ∃ r' ∈ rows t, id r' = id r ∧ inUse t r' ∧ terms r' = terms r

instance [∀ s r, Decidable (inUse s r)] [DecidableEq κ] [DecidableEq τ] (s t : σ) : Decidable (TermsFrozen rows id inUse terms s t) := by
  unfold TermsFrozen
  infer_instance

theorem termsFrozen_refl (s : σ) : TermsFrozen rows id inUse terms s s :=
  fun r member using_ => ⟨r, member, rfl, using_, rfl⟩

theorem termsFrozen_trans (s t u : σ) (first : TermsFrozen rows id inUse terms s t) (second : TermsFrozen rows id inUse terms t u) :
    TermsFrozen rows id inUse terms s u := by
  intro r member using_
  obtain ⟨r', listed, same, still, kept⟩ := first r member using_
  obtain ⟨r'', listed', same', still', kept'⟩ := second r' listed still
  exact ⟨r'', listed', same'.trans same, still', kept'.trans kept⟩

end Terms

end EduAi.Store
