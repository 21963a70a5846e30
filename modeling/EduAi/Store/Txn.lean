import Mathlib.Init
import Mathlib.Tactic.Common

set_option autoImplicit false

namespace EduAi.Store

-- A transaction reads and writes the whole store and either commits with a value or fails.
abbrev Txn (σ ε : Type) := StateT σ (Except ε)

section Transactions

variable {σ ε α β : Type}

def require (p : Prop) [Decidable p] (e : ε) : Txn σ ε Unit :=
  if p then pure () else throw e

def orThrow (o : Option α) (e : ε) : Txn σ ε α :=
  match o with
  | some a => pure a
  | none => throw e

-- A failed transaction rolls back, so the store it leaves is the store it started from.
def commit (m : Txn σ ε α) (s : σ) : σ :=
  match m s with
  | .ok (_, s') => s'
  | .error _ => s

def attempt (m : Txn σ ε α) (s : σ) : Except ε α × σ :=
  match m s with
  | .ok (a, s') => (.ok a, s')
  | .error e => (.error e, s)

theorem ok_of_answer (result : Except ε α) (f : α → β) (b : β) (answered : result.toOption.map f = some b) :
    ∃ a, result = .ok a ∧ f a = b := by
  cases result with
  | error e => cases answered
  | ok a => exact ⟨a, rfl, Option.some.inj answered⟩

-- Weakest liberal precondition: whatever a successful execution returns and leaves satisfies Q.
def Wlp (m : Txn σ ε α) (Q : α → σ → Prop) (s : σ) : Prop :=
  ∀ a s', m s = .ok (a, s') → Q a s'

theorem wlp_mono (m : Txn σ ε α) {Q R : α → σ → Prop} (s : σ) (h : Wlp m Q s) (hQR : ∀ a s', Q a s' → R a s') :
    Wlp m R s :=
  fun a s' ok => hQR a s' (h a s' ok)

theorem wlp_run (m : Txn σ ε α) (s : σ) : Wlp m (fun a t => m s = .ok (a, t)) s :=
  fun _ _ ok => ok

theorem wlp_and (m : Txn σ ε α) {Q R : α → σ → Prop} (s : σ) (hQ : Wlp m Q s) (hR : Wlp m R s) :
    Wlp m (fun a s' => Q a s' ∧ R a s') s :=
  fun a s' ok => ⟨hQ a s' ok, hR a s' ok⟩

@[simp] theorem wlp_pure (a : α) (Q : α → σ → Prop) (s : σ) : Wlp (pure a : Txn σ ε α) Q s ↔ Q a s := by
  constructor
  · intro h
    exact h a s rfl
  · rintro h b t ok
    cases ok
    exact h

@[simp] theorem wlp_throw (e : ε) (Q : α → σ → Prop) (s : σ) : Wlp (throw e : Txn σ ε α) Q s := by
  rintro a t ok
  cases ok

@[simp] theorem wlp_bind (m : Txn σ ε α) (f : α → Txn σ ε β) (Q : β → σ → Prop) (s : σ) :
    Wlp (m >>= f) Q s ↔ Wlp m (fun a s' => Wlp (f a) Q s') s := by
  constructor
  · intro h a t ok b u ok'
    refine h b u ?_
    show (m s >>= fun p => f p.1 p.2) = _
    rw [ok]
    exact ok'
  · intro h b u ok
    have hb : (m s >>= fun p => f p.1 p.2) = .ok (b, u) := ok
    cases hm : m s with
    | error e =>
      rw [hm] at hb
      cases hb
    | ok p =>
      rw [hm] at hb
      exact h p.1 p.2 hm b u hb

@[simp] theorem wlp_map (m : Txn σ ε α) (f : α → β) (Q : β → σ → Prop) (s : σ) :
    Wlp (f <$> m) Q s ↔ Wlp m (fun a s' => Q (f a) s') s := by
  rw [map_eq_pure_bind, wlp_bind]
  simp only [wlp_pure]

@[simp] theorem wlp_get (Q : σ → σ → Prop) (s : σ) : Wlp (get : Txn σ ε σ) Q s ↔ Q s s := by
  constructor
  · intro h
    exact h s s rfl
  · rintro h a t ok
    cases ok
    exact h

@[simp] theorem wlp_set (t : σ) (Q : PUnit → σ → Prop) (s : σ) : Wlp (set t : Txn σ ε PUnit) Q s ↔ Q ⟨⟩ t := by
  constructor
  · intro h
    exact h ⟨⟩ t rfl
  · rintro h a u ok
    cases ok
    exact h

@[simp] theorem wlp_modify (f : σ → σ) (Q : PUnit → σ → Prop) (s : σ) :
    Wlp (modify f : Txn σ ε PUnit) Q s ↔ Q ⟨⟩ (f s) := by
  constructor
  · intro h
    exact h ⟨⟩ (f s) rfl
  · rintro h a u ok
    cases ok
    exact h

@[simp] theorem wlp_require (p : Prop) [Decidable p] (e : ε) (Q : Unit → σ → Prop) (s : σ) :
    Wlp (require p e : Txn σ ε Unit) Q s ↔ (p → Q () s) := by
  unfold require
  split
  case isTrue hp => simp [hp]
  case isFalse hp => simp [hp]

@[simp] theorem wlp_orThrow (o : Option α) (e : ε) (Q : α → σ → Prop) (s : σ) :
    Wlp (orThrow o e : Txn σ ε α) Q s ↔ ∀ a, o = some a → Q a s := by
  cases o with
  | none => simp [orThrow]
  | some a => simp [orThrow]

@[simp] theorem wlp_ite (p : Prop) [Decidable p] (m n : Txn σ ε α) (Q : α → σ → Prop) (s : σ) :
    Wlp (if p then m else n) Q s ↔ (p → Wlp m Q s) ∧ (¬ p → Wlp n Q s) := by
  split
  case isTrue hp => simp [hp]
  case isFalse hp => simp [hp]

theorem wlp_forM (f : α → Txn σ ε PUnit) (I : List α → σ → Prop) (rows : List α) (s : σ)
    (step : ∀ x rest t, I (x :: rest) t → Wlp (f x) (fun _ u => I rest u) t) (start : I rows s) :
    Wlp (rows.forM f) (fun _ t => I [] t) s := by
  induction rows generalizing s with
  | nil =>
      rw [List.forM_eq_forM, List.forM_nil, wlp_pure]
      exact start
  | cons x rest ih =>
      rw [List.forM_eq_forM, List.forM_cons, wlp_bind]
      refine wlp_mono (f x) s (step x rest s start) ?_
      intro _ t ht
      exact ih t ht

theorem get_bind_run (f : σ → Txn σ ε α) (s : σ) : (get >>= f : Txn σ ε α) s = f s s := rfl

theorem orThrow_bind_run (o : Option α) (e : ε) (f : α → Txn σ ε β) (s : σ) (a : α) (given : o = some a) :
    (orThrow o e >>= f : Txn σ ε β) s = f a s := by
  rw [given]
  rfl

theorem require_bind_run (p : Prop) [Decidable p] (e : ε) (f : Unit → Txn σ ε β) (s : σ) (holds : p) :
    (require p e >>= f : Txn σ ε β) s = f () s := by
  unfold require
  rw [if_pos holds]
  rfl

theorem require_bind_fails (p : Prop) [Decidable p] (e : ε) (f : Unit → Txn σ ε β) (s : σ) (fails : ¬ p) :
    (require p e >>= f : Txn σ ε β) s = .error e := by
  unfold require
  rw [if_neg fails]
  rfl

theorem bind_run (m : Txn σ ε α) (f : α → Txn σ ε β) (s t : σ) (a : α) (ok : m s = .ok (a, t)) :
    (m >>= f : Txn σ ε β) s = f a t := by
  show (m s >>= fun p => f p.1 p.2) = _
  rw [ok]
  rfl

theorem bind_error (m : Txn σ ε α) (f : α → Txn σ ε β) (s : σ) (e : ε) (failed : m s = .error e) :
    (m >>= f : Txn σ ε β) s = .error e := by
  show (m s >>= fun p => f p.1 p.2) = _
  rw [failed]
  rfl

theorem commit_of_wlp (m : Txn σ ε α) (P : σ → Prop) (s : σ) (before : P s) (h : Wlp m (fun _ => P) s) :
    P (commit m s) := by
  unfold commit
  split
  case h_1 a s' ok => exact h a s' ok
  case h_2 e failed => exact before

def returned (m : Txn σ ε α) (s : σ) : Option α :=
  match m s with
  | .ok (a, _) => some a
  | .error _ => none

theorem returned_wlp (m : Txn σ ε α) (Q : α → σ → Prop) (s : σ) (a : α) (ok : returned m s = some a) (h : Wlp m Q s) :
    ∃ t, Q a t := by
  unfold returned at ok
  cases ran : m s with
  | error e =>
      rw [ran] at ok
      cases ok
  | ok p =>
      rw [ran] at ok
      obtain rfl := Option.some.inj ok
      exact ⟨p.2, h p.1 p.2 ran⟩

theorem attempt_snd (m : Txn σ ε α) (s : σ) : (attempt m s).2 = commit m s := by
  unfold attempt commit
  cases m s with
  | ok p => rfl
  | error e => rfl

theorem commit_error (m : Txn σ ε α) (s : σ) (e : ε) (failed : m s = .error e) : commit m s = s := by
  unfold commit
  rw [failed]

theorem commit_ok (m : Txn σ ε α) (s t : σ) (a : α) (ok : m s = .ok (a, t)) : commit m s = t := by
  unfold commit
  rw [ok]

end Transactions

section Zoom

variable {σ τ ε α : Type} (view : σ → τ) (put : τ → σ → σ)

-- A transaction on one component of the store, inside a transaction on the whole.
def zoom (m : Txn τ ε α) : Txn σ ε α := fun s =>
  match m (view s) with
  | .ok (a, t) => .ok (a, put t s)
  | .error e => .error e

@[simp] theorem wlp_zoom (m : Txn τ ε α) (Q : α → σ → Prop) (s : σ) :
    Wlp (zoom view put m) Q s ↔ Wlp m (fun a t => Q a (put t s)) (view s) := by
  unfold zoom
  constructor
  · intro h a t ok
    refine h a (put t s) ?_
    simp only [ok]
  · intro h a u ok
    cases hm : m (view s) with
    | error e => simp [hm] at ok
    | ok p =>
      simp only [hm, Except.ok.injEq, Prod.mk.injEq] at ok
      obtain ⟨rfl, rfl⟩ := ok
      exact h p.1 p.2 hm

end Zoom

section Frames

variable {σ ε α β : Type}

def Within (R : σ → σ → Prop) (m : Txn σ ε α) : Prop :=
  ∀ s, Wlp m (fun _ t => R s t) s

variable (R : σ → σ → Prop) (refl : ∀ s, R s s) (trans : ∀ s t u, R s t → R t u → R s u)

include refl in
theorem within_pure (a : α) : Within R (pure a : Txn σ ε α) := by
  intro s
  rw [wlp_pure]
  exact refl s

theorem within_throw (e : ε) : Within R (throw e : Txn σ ε α) :=
  fun s => wlp_throw e _ s

include trans in
theorem within_bind (m : Txn σ ε α) (f : α → Txn σ ε β) (hm : Within R m) (hf : ∀ a, Within R (f a)) :
    Within R (m >>= f) := by
  intro s
  rw [wlp_bind]
  refine wlp_mono m s (hm s) ?_
  intro a t st
  exact wlp_mono (f a) t (hf a t) (fun _ u tu => trans s t u st tu)

end Frames

end EduAi.Store
