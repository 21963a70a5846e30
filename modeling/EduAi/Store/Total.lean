import EduAi.Store.Txn

set_option autoImplicit false

namespace EduAi.Store

section Total

variable {σ ε α β : Type}

-- Weakest precondition: the execution succeeds, and what it returns and leaves satisfies Q.
def Wp (m : Txn σ ε α) (Q : α → σ → Prop) (s : σ) : Prop :=
  ∃ a s', m s = .ok (a, s') ∧ Q a s'

theorem wp_mono (m : Txn σ ε α) {Q R : α → σ → Prop} (s : σ) (h : Wp m Q s) (hQR : ∀ a s', Q a s' → R a s') : Wp m R s := by
  obtain ⟨a, t, ok, held⟩ := h
  exact ⟨a, t, ok, hQR a t held⟩

theorem wp_wlp (m : Txn σ ε α) (Q : α → σ → Prop) (s : σ) (h : Wp m Q s) : Wlp m Q s := by
  obtain ⟨a, t, ok, held⟩ := h
  intro b u ok'
  rw [ok] at ok'
  cases ok'
  exact held

theorem wp_ran (m : Txn σ ε α) (Q : α → σ → Prop) (s t : σ) (a : α) (ran : m s = .ok (a, t)) : Wp m Q s ↔ Q a t := by
  constructor
  · rintro ⟨b, u, ok, held⟩
    rw [ran] at ok
    cases ok
    exact held
  · intro held
    exact ⟨a, t, ran, held⟩

@[simp] theorem wp_pure (a : α) (Q : α → σ → Prop) (s : σ) : Wp (pure a : Txn σ ε α) Q s ↔ Q a s := by
  constructor
  · rintro ⟨b, t, ok, held⟩
    cases ok
    exact held
  · intro held
    exact ⟨a, s, rfl, held⟩

@[simp] theorem wp_throw (e : ε) (Q : α → σ → Prop) (s : σ) : ¬ Wp (throw e : Txn σ ε α) Q s := by
  rintro ⟨a, t, ok, _⟩
  cases ok

@[simp] theorem wp_bind (m : Txn σ ε α) (f : α → Txn σ ε β) (Q : β → σ → Prop) (s : σ) :
    Wp (m >>= f) Q s ↔ Wp m (fun a s' => Wp (f a) Q s') s := by
  constructor
  · rintro ⟨b, u, ok, held⟩
    have hb : (m s >>= fun p => f p.1 p.2) = .ok (b, u) := ok
    cases hm : m s with
    | error e =>
      rw [hm] at hb
      cases hb
    | ok p =>
      rw [hm] at hb
      exact ⟨p.1, p.2, hm, b, u, hb, held⟩
  · rintro ⟨a, t, ok, b, u, ok', held⟩
    refine ⟨b, u, ?_, held⟩
    rw [bind_run m f s t a ok]
    exact ok'

@[simp] theorem wp_get (Q : σ → σ → Prop) (s : σ) : Wp (get : Txn σ ε σ) Q s ↔ Q s s := by
  constructor
  · rintro ⟨a, t, ok, held⟩
    cases ok
    exact held
  · intro held
    exact ⟨s, s, rfl, held⟩

@[simp] theorem wp_set (t : σ) (Q : PUnit → σ → Prop) (s : σ) : Wp (set t : Txn σ ε PUnit) Q s ↔ Q ⟨⟩ t := by
  constructor
  · rintro ⟨a, u, ok, held⟩
    cases ok
    exact held
  · intro held
    exact ⟨⟨⟩, t, rfl, held⟩

@[simp] theorem wp_modify (f : σ → σ) (Q : PUnit → σ → Prop) (s : σ) :
    Wp (modify f : Txn σ ε PUnit) Q s ↔ Q ⟨⟩ (f s) := by
  constructor
  · rintro ⟨a, t, ok, held⟩
    cases ok
    exact held
  · intro held
    exact ⟨⟨⟩, f s, rfl, held⟩

@[simp] theorem wp_require (p : Prop) [Decidable p] (e : ε) (Q : Unit → σ → Prop) (s : σ) :
    Wp (require p e : Txn σ ε Unit) Q s ↔ p ∧ Q () s := by
  unfold require
  split
  case isTrue hp => simp [hp]
  case isFalse hp => simp [hp]

@[simp] theorem wp_orThrow (o : Option α) (e : ε) (Q : α → σ → Prop) (s : σ) :
    Wp (orThrow o e : Txn σ ε α) Q s ↔ ∃ a, o = some a ∧ Q a s := by
  cases o with
  | none => simp [orThrow]
  | some a => simp [orThrow]

theorem wp_ite (p : Prop) [Decidable p] (m n : Txn σ ε α) (Q : α → σ → Prop) (s : σ) :
    Wp (if p then m else n) Q s ↔ (p → Wp m Q s) ∧ (¬ p → Wp n Q s) := by
  split
  case isTrue hp => simp [hp]
  case isFalse hp => simp [hp]

theorem wp_forM (f : α → Txn σ ε PUnit) (I : List α → σ → Prop) (rows : List α) (s : σ)
    (step : ∀ x rest t, I (x :: rest) t → Wp (f x) (fun _ u => I rest u) t) (start : I rows s) :
    Wp (rows.forM f) (fun _ t => I [] t) s := by
  induction rows generalizing s with
  | nil =>
      rw [List.forM_eq_forM, List.forM_nil, wp_pure]
      exact start
  | cons x rest ih =>
      rw [List.forM_eq_forM, List.forM_cons, wp_bind]
      exact wp_mono (f x) s (step x rest s start) (fun _ t ht => ih t ht)

theorem wp_inserts {ρ : Type} (insert : ρ → Txn σ ε PUnit) (after : List ρ → σ) (rows : List ρ)
    (each : ∀ done x rest, rows = done ++ x :: rest → Wp (insert x) (fun _ u => u = after (done ++ [x])) (after done)) :
    Wp (rows.forM insert) (fun _ u => u = after rows) (after []) := by
  refine wp_mono _ _ (wp_forM insert (fun rest t => ∃ done, rows = done ++ rest ∧ t = after done) rows (after []) ?_ ⟨[], rfl, rfl⟩) ?_
  · rintro x rest t ⟨done, split, rfl⟩
    refine wp_mono _ _ (each done x rest split) (fun _ u moved => ⟨done ++ [x], ?_, moved⟩)
    rw [split, List.append_assoc]
    rfl
  · rintro _ t ⟨done, split, rfl⟩
    rw [split, List.append_nil]

theorem forM_congr {ρ : Type} (f g : ρ → Txn σ ε PUnit) (rows : List ρ) (same : ∀ x ∈ rows, f x = g x) : rows.forM f = rows.forM g := by
  induction rows with
  | nil => rfl
  | cons x rest ih =>
      have later := ih (fun y member => same y (by simp [member]))
      rw [List.forM_eq_forM] at later ⊢
      rw [List.forM_cons, List.forM_cons, same x (by simp), later]

theorem forM_flatMap {ρ τ : Type} (f : τ → Txn σ ε PUnit) (g : ρ → List τ) (rows : List ρ) :
    (rows.flatMap g).forM f = rows.forM (fun x => (g x).forM f) := by
  induction rows with
  | nil => rfl
  | cons x rest ih =>
      rw [List.flatMap_cons, List.forM_eq_forM, List.forM_append, List.forM_eq_forM, List.forM_cons]
      rw [List.forM_eq_forM] at ih
      rw [ih]
      rfl

end Total

section Failure

variable {σ ε α β : Type} (E : ε → Prop)

def Throws (m : Txn σ ε α) : Prop :=
  ∀ s e, m s = .error e → E e

theorem throws_pure (a : α) : Throws E (pure a : Txn σ ε α) := by
  intro s e failed
  cases failed

theorem throws_get : Throws E (get : Txn σ ε σ) := by
  intro s e failed
  cases failed

theorem throws_modify (f : σ → σ) : Throws E (modify f : Txn σ ε Unit) := by
  intro s e failed
  cases failed

variable {E}

theorem Throws.bind {m : Txn σ ε α} {f : α → Txn σ ε β} (first : Throws E m) (second : ∀ a, Throws E (f a)) :
    Throws E (m >>= f) := by
  intro s e failed
  have failed' : (m s >>= fun p => f p.1 p.2) = .error e := failed
  cases ran : m s with
  | error e' =>
    rw [ran] at failed'
    cases failed'
    exact first s e ran
  | ok p =>
    rw [ran] at failed'
    exact second p.1 p.2 e failed'

theorem throws_require (p : Prop) [Decidable p] (e : ε) (error : E e) : Throws E (require p e : Txn σ ε Unit) := by
  intro s e' failed
  unfold require at failed
  split at failed
  case isTrue => cases failed
  case isFalse =>
    cases failed
    exact error

theorem throws_orThrow (o : Option α) (e : ε) (error : E e) : Throws E (orThrow o e : Txn σ ε α) := by
  intro s e' failed
  cases o with
  | some a => cases failed
  | none =>
    cases failed
    exact error

theorem throws_forM {ρ : Type} (f : ρ → Txn σ ε PUnit) (rows : List ρ) (each : ∀ x, Throws E (f x)) : Throws E (rows.forM f) := by
  induction rows with
  | nil => exact throws_pure _ _
  | cons x rest ih => exact (each x).bind (fun _ => ih)

end Failure

end EduAi.Store
