import EduAi.Store.Total

set_option autoImplicit false

namespace EduAi.Store

section Outcomes

variable {σ τ ε α β : Type}

def Concludes (m : Txn σ ε α) (Q : α → σ → Prop) (E : ε → Prop) (s : σ) : Prop :=
  (∀ a t, m s = .ok (a, t) → Q a t) ∧ ∀ e, m s = .error e → E e

theorem concludes_ran (m : Txn σ ε α) (Q : α → σ → Prop) (E : ε → Prop) (s t : σ) (a : α) (ran : m s = .ok (a, t)) :
    Concludes m Q E s ↔ Q a t := by
  constructor
  · intro ends
    exact ends.1 a t ran
  · intro held
    constructor
    · intro b u ran'
      rw [ran] at ran'
      cases ran'
      exact held
    · intro e failed
      rw [ran] at failed
      cases failed

theorem concludes_failed (m : Txn σ ε α) (Q : α → σ → Prop) (E : ε → Prop) (s : σ) (e : ε) (failed : m s = .error e) :
    Concludes m Q E s ↔ E e := by
  constructor
  · intro ends
    exact ends.2 e failed
  · intro held
    constructor
    · intro a t ran
      rw [failed] at ran
      cases ran
    · intro e' failed'
      rw [failed] at failed'
      cases failed'
      exact held

theorem concludes_mono (m : Txn σ ε α) {Q R : α → σ → Prop} {E F : ε → Prop} (s : σ) (ends : Concludes m Q E s) (hQR : ∀ a t, Q a t → R a t)
    (hEF : ∀ e, E e → F e) : Concludes m R F s :=
  ⟨fun a t ran => hQR a t (ends.1 a t ran), fun e failed => hEF e (ends.2 e failed)⟩

theorem concludes_of_wp (m : Txn σ ε α) {Q : α → σ → Prop} (E : ε → Prop) (s : σ) (runs : Wp m Q s) : Concludes m Q E s := by
  obtain ⟨a, t, ran, held⟩ := runs
  exact (concludes_ran m Q E s t a ran).mpr held

theorem concludes_and (m : Txn σ ε α) {Q R : α → σ → Prop} {E : ε → Prop} (s : σ) (ends : Concludes m Q E s) (held : Wlp m R s) :
    Concludes m (fun a t => Q a t ∧ R a t) E s :=
  ⟨fun a t ran => ⟨ends.1 a t ran, held a t ran⟩, ends.2⟩

@[simp] theorem concludes_pure (a : α) (Q : α → σ → Prop) (E : ε → Prop) (s : σ) : Concludes (pure a : Txn σ ε α) Q E s ↔ Q a s :=
  concludes_ran _ Q E s s a rfl

@[simp] theorem concludes_throw (e : ε) (Q : α → σ → Prop) (E : ε → Prop) (s : σ) : Concludes (throw e : Txn σ ε α) Q E s ↔ E e :=
  concludes_failed _ Q E s e rfl

@[simp] theorem concludes_bind (m : Txn σ ε α) (f : α → Txn σ ε β) (Q : β → σ → Prop) (E : ε → Prop) (s : σ) :
    Concludes (m >>= f) Q E s ↔ Concludes m (fun a t => Concludes (f a) Q E t) E s := by
  have both : (m >>= f) s = (m s >>= fun p => f p.1 p.2) := rfl
  cases ran : m s with
  | error e =>
      rw [concludes_failed m _ E s e ran]
      refine concludes_failed _ Q E s e ?_
      rw [both, ran]
      rfl
  | ok p =>
      rw [concludes_ran m _ E s p.2 p.1 ran]
      have same : (m >>= f) s = f p.1 p.2 := bind_run m f s p.2 p.1 ran
      unfold Concludes
      rw [same]

@[simp] theorem concludes_get (Q : σ → σ → Prop) (E : ε → Prop) (s : σ) : Concludes (get : Txn σ ε σ) Q E s ↔ Q s s :=
  concludes_ran _ Q E s s s rfl

@[simp] theorem concludes_modify (f : σ → σ) (Q : PUnit → σ → Prop) (E : ε → Prop) (s : σ) :
    Concludes (modify f : Txn σ ε PUnit) Q E s ↔ Q ⟨⟩ (f s) :=
  concludes_ran _ Q E s (f s) ⟨⟩ rfl

@[simp] theorem concludes_require (p : Prop) [Decidable p] (e : ε) (Q : Unit → σ → Prop) (E : ε → Prop) (s : σ) :
    Concludes (require p e : Txn σ ε Unit) Q E s ↔ (p → Q () s) ∧ (¬ p → E e) := by
  unfold require
  split
  case isTrue holds => simp [holds]
  case isFalse fails => simp [fails]

@[simp] theorem concludes_orThrow (o : Option α) (e : ε) (Q : α → σ → Prop) (E : ε → Prop) (s : σ) :
    Concludes (orThrow o e : Txn σ ε α) Q E s ↔ (∀ a, o = some a → Q a s) ∧ (o = none → E e) := by
  cases o with
  | none => simp [orThrow]
  | some a => simp [orThrow]

theorem concludes_ite (p : Prop) [Decidable p] (m n : Txn σ ε α) (Q : α → σ → Prop) (E : ε → Prop) (s : σ) :
    Concludes (if p then m else n) Q E s ↔ (p → Concludes m Q E s) ∧ (¬ p → Concludes n Q E s) := by
  split
  case isTrue holds => simp [holds]
  case isFalse fails => simp [fails]

@[simp] theorem concludes_zoom (view : σ → τ) (put : τ → σ → σ) (m : Txn τ ε α) (Q : α → σ → Prop) (E : ε → Prop) (s : σ) :
    Concludes (zoom view put m) Q E s ↔ Concludes m (fun a t => Q a (put t s)) E (view s) := by
  cases ran : m (view s) with
  | error e =>
      rw [concludes_failed m _ E (view s) e ran]
      refine concludes_failed _ Q E s e ?_
      unfold zoom
      rw [ran]
  | ok p =>
      rw [concludes_ran m _ E (view s) p.2 p.1 ran]
      refine concludes_ran _ Q E s (put p.2 s) p.1 ?_
      unfold zoom
      rw [ran]

end Outcomes

end EduAi.Store
