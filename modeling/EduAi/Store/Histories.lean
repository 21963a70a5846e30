set_option autoImplicit false

namespace EduAi.Store

-- A record that an append-only log of events moves.
section Histories

variable {σ ε : Type} (permitted : σ → ε → Prop) (after : σ → ε → σ)

-- The events lead from the first state to the last, each of them permitted in the state it met.
inductive History (start : σ) : List ε → σ → Prop where
  | opened : History start [] start
  | moved (es : List ε) (s : σ) (e : ε) (path : History start es s) (allowed : permitted s e) : History start (es ++ [e]) (after s e)

variable {permitted after} {start s : σ} {es : List ε}

theorem history_foldl (history : History permitted after start es s) : s = es.foldl after start := by
  induction history with
  | opened => rfl
  | moved es s e _ _ ih => rw [List.foldl_append, ← ih, List.foldl_cons, List.foldl_nil]

theorem history_invariant (P : List ε → σ → Prop) (history : History permitted after start es s) (begins : P [] start)
    (keeps : ∀ es s e, P es s → permitted s e → P (es ++ [e]) (after s e)) : P es s := by
  induction history with
  | opened => exact begins
  | moved es s e _ allowed ih => exact keeps es s e ih allowed

theorem history_mono (weaker : σ → ε → Prop) (allows : ∀ s e, permitted s e → weaker s e) (history : History permitted after start es s) :
    History weaker after start es s := by
  induction history with
  | opened => exact .opened
  | moved es s e _ allowed ih => exact .moved es s e ih (allows s e allowed)

theorem history_each (Q : ε → Prop) (P : σ → Prop) (history : History permitted after start es s) (begins : P start)
    (keeps : ∀ s e, P s → permitted s e → P (after s e) ∧ Q e) : ∀ e ∈ es, Q e := by
  have both : P s ∧ ∀ e ∈ es, Q e := by
    refine history_invariant (fun es s => P s ∧ ∀ e ∈ es, Q e) history ⟨begins, fun e member => by cases member⟩ ?_
    intro es s e before allowed
    obtain ⟨holds, shown⟩ := keeps s e before.1 allowed
    refine ⟨holds, fun x member => ?_⟩
    rcases List.mem_append.mp member with old | new
    · exact before.2 x old
    · rw [List.mem_singleton.mp new]
      exact shown
  exact both.2

end Histories

end EduAi.Store
