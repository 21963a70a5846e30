import EduAi.Store.Txn
import Mathlib.Logic.Relation

set_option autoImplicit false

namespace EduAi.Store

section Programs

variable {σ ε α β : Type} (W : σ → σ → Prop)

-- Any number of admitted writes, one after another.
abbrev Writes (s t : σ) : Prop :=
  Relation.ReflTransGen W s t

-- A transaction whose every successful execution is a sequence of admitted writes.
structure Program (m : Txn σ ε α) : Prop where
  within : Within (Writes W) m

variable {W}

theorem writes_refl (s : σ) : Writes W s s :=
  Relation.ReflTransGen.refl

theorem writes_one (s t : σ) (w : W s t) : Writes W s t :=
  Relation.ReflTransGen.single w

theorem writes_trans (s t u : σ) (first : Writes W s t) (second : Writes W t u) : Writes W s u :=
  Relation.ReflTransGen.trans first second

theorem writes_mono {V : σ → σ → Prop} (weaker : ∀ s t, W s t → V s t) (s t : σ) (writes : Writes W s t) : Writes V s t :=
  Relation.ReflTransGen.mono weaker s t writes

theorem writes_invariant (P : σ → Prop) (preserved : ∀ s t, W s t → P s → P t) (s t : σ) (writes : Writes W s t)
    (start : P s) : P t := by
  induction writes with
  | refl => exact start
  | tail _ w ih => exact preserved _ _ w ih

theorem writes_relation (R : σ → σ → Prop) (refl : ∀ s, R s s) (trans : ∀ s t u, R s t → R t u → R s u) (P : σ → Prop)
    (preserved : ∀ s t, W s t → P s → P t) (moves : ∀ s t, W s t → P s → R s t) (s t : σ) (writes : Writes W s t)
    (start : P s) : R s t := by
  induction writes with
  | refl => exact refl s
  | tail path w ih => exact trans _ _ _ ih (moves _ _ w (writes_invariant P preserved s _ path start))

theorem program_pure (a : α) : Program W (pure a : Txn σ ε α) :=
  ⟨within_pure _ writes_refl a⟩

theorem Program.bind {m : Txn σ ε α} {f : α → Txn σ ε β} (hm : Program W m) (hf : ∀ a, Program W (f a)) :
    Program W (m >>= f) :=
  ⟨within_bind _ writes_trans m f hm.within (fun a => (hf a).within)⟩

theorem program_get : Program W (get : Txn σ ε σ) := by
  constructor
  intro s
  exact (wlp_get _ s).mpr (writes_refl s)

theorem program_require (p : Prop) [Decidable p] (e : ε) : Program W (require p e : Txn σ ε Unit) := by
  constructor
  intro s
  rw [wlp_require]
  intro _
  exact writes_refl s

theorem program_orThrow (o : Option α) (e : ε) : Program W (orThrow o e : Txn σ ε α) := by
  constructor
  intro s
  rw [wlp_orThrow]
  intro a _
  exact writes_refl s

theorem program_ite (p : Prop) [Decidable p] (m n : Txn σ ε α) (hm : Program W m) (hn : Program W n) :
    Program W (if p then m else n) := by
  split
  · exact hm
  · exact hn

theorem program_forM (f : α → Txn σ ε PUnit) (rows : List α) (each : ∀ x, Program W (f x)) :
    Program W (rows.forM f) := by
  constructor
  intro s
  refine wlp_forM f (fun _ t => Writes W s t) rows s ?_ (writes_refl s)
  intro x rest t reached
  exact wlp_mono (f x) t ((each x).within t) (fun _ u moved => writes_trans s t u reached moved)

theorem wlp_forM_each (f : α → Txn σ ε PUnit) (P : α → σ → Prop)
    (stable : ∀ x s t, Writes W s t → P x s → P x t) (rows : List α) (s : σ)
    (each : ∀ x ∈ rows, ∀ t, Writes W s t → Wlp (f x) (fun _ u => Writes W t u ∧ P x u) t) :
    Wlp (rows.forM f) (fun _ t => Writes W s t ∧ ∀ x ∈ rows, P x t) s := by
  induction rows generalizing s with
  | nil =>
      rw [List.forM_eq_forM, List.forM_nil, wlp_pure]
      exact ⟨writes_refl s, fun x member => by cases member⟩
  | cons x rest ih =>
      rw [List.forM_eq_forM, List.forM_cons, wlp_bind]
      refine wlp_mono (f x) s (each x (by simp) s (writes_refl s)) ?_
      intro _ t ⟨first, head⟩
      refine wlp_mono _ t (ih t (fun y member u path => each y (by simp [member]) u (writes_trans s t u first path))) ?_
      intro _ u ⟨second, tail⟩
      refine ⟨writes_trans s t u first second, ?_⟩
      intro y member
      rcases List.mem_cons.mp member with rfl | later
      · exact stable y t u second head
      · exact tail y later

theorem Program.mono {V : σ → σ → Prop} {m : Txn σ ε α} (hm : Program W m) (weaker : ∀ s t, W s t → V s t) :
    Program V m :=
  ⟨fun s => wlp_mono m s (hm.within s) (fun _ t writes => writes_mono weaker s t writes)⟩

theorem Program.commits {m : Txn σ ε α} (hm : Program W m) (s : σ) : Writes W s (commit m s) :=
  commit_of_wlp m (Writes W s) s (writes_refl s) (hm.within s)

end Programs

section Deferred

variable {σ ε α : Type}

-- Constraint triggers deferred to the commit see the store before and after the whole transaction.
def transact (deferred : σ → σ → Txn σ ε Unit) (body : Txn σ ε α) : Txn σ ε α := do
  let before ← get
  let a ← body
  let after ← get
  deferred before after
  pure a

end Deferred

end EduAi.Store
