import EduAi.Store.Runs
import Mathlib.Data.Fintype.Basic
import Mathlib.Logic.Function.Basic

set_option autoImplicit false

namespace EduAi.Store

-- A transaction as the statements it sends under Read Committed. A statement waits for the rows it locks, reads what is
-- committed by then under the writes of its own transaction, and writes.
inductive Statements (σ κ ε α : Type) where
  | done (a : α)
  | fail (e : ε)
  | send (locks : List κ) (write : σ → σ → σ) (next : σ → Statements σ κ ε α)

namespace Statements

variable {σ κ ε α β : Type}

def bind (p : Statements σ κ ε α) (f : α → Statements σ κ ε β) : Statements σ κ ε β :=
  match p with
  | .done a => f a
  | .fail e => .fail e
  | .send locks write next => .send locks write (fun view => (next view).bind f)

instance : Monad (Statements σ κ ε) where
  pure := .done
  bind := bind

def query (read : σ → α) : Statements σ κ ε α :=
  .send [] (fun _ s => s) (fun view => .done (read view))

def lockRow (key : κ) : Statements σ κ ε Unit :=
  .send [key] (fun _ s => s) (fun _ => .done ())

def execute (locks : List κ) (write : σ → σ) : Statements σ κ ε Unit :=
  .send locks (fun _ => write) (fun _ => .done ())

def answer (refusal : Option ε) : Statements σ κ ε Unit :=
  match refusal with
  | some e => .fail e
  | none => .done ()

def insert (locks : List κ) (write : σ → σ) (conflict : σ → Option ε) : Statements σ κ ε Unit :=
  .send locks (fun _ => write) (fun view => answer (conflict view))

def refuseUnless (p : Prop) [Decidable p] (e : ε) : Statements σ κ ε Unit :=
  if p then .done () else .fail e

def orRefuse (o : Option α) (e : ε) : Statements σ κ ε α :=
  match o with
  | some a => .done a
  | none => .fail e

def alone (p : Statements σ κ ε α) : Txn σ ε α :=
  match p with
  | .done a => pure a
  | .fail e => throw e
  | .send _ write next => fun s => (next s).alone (write s s)

@[simp] theorem alone_pure (a : α) : (pure a : Statements σ κ ε α).alone = pure a := rfl

@[simp] theorem alone_bind (p : Statements σ κ ε α) (f : α → Statements σ κ ε β) :
    (p >>= f).alone = p.alone >>= fun a => (f a).alone := by
  show (p.bind f).alone = _
  induction p with
  | done a => rfl
  | fail e => rfl
  | send locks write next ih =>
      funext s
      show ((next s).bind f).alone (write s s) = _
      rw [ih s]
      rfl

@[simp] theorem alone_query (read : σ → α) : (query read : Statements σ κ ε α).alone = read <$> get := rfl

@[simp] theorem alone_lockRow (key : κ) : (lockRow key : Statements σ κ ε Unit).alone = pure () := rfl

@[simp] theorem alone_execute (locks : List κ) (write : σ → σ) :
    (execute locks write : Statements σ κ ε Unit).alone = modify write := rfl

theorem alone_insert (locks : List κ) (write : σ → σ) (conflict : σ → Option ε) :
    (insert locks write conflict : Statements σ κ ε Unit).alone =
      (do
        let s ← get
        match conflict s with
        | some e => throw e
        | none => modify write) := by
  funext s
  show (answer (conflict s)).alone (write s) = (match conflict s with
    | some e => (throw e : Txn σ ε Unit)
    | none => modify write) s
  cases conflict s with
  | none => rfl
  | some e => rfl

@[simp] theorem alone_refuseUnless (p : Prop) [Decidable p] (e : ε) :
    (refuseUnless p e : Statements σ κ ε Unit).alone = require p e := by
  unfold refuseUnless require
  split <;> rfl

@[simp] theorem alone_orRefuse (o : Option α) (e : ε) : (orRefuse o e : Statements σ κ ε α).alone = orThrow o e := by
  cases o with
  | none => rfl
  | some a => rfl

end Statements

inductive Session (σ κ ε α : Type) where
  | active (pending : σ → σ) (locks : List κ) (rest : Statements σ κ ε α)
  | committed (a : α)
  | aborted

def Session.holds {σ κ ε α : Type} : Session σ κ ε α → List κ
  | .active _ locks _ => locks
  | _ => []

structure World (ι σ κ ε α : Type) where
  store : σ
  sessions : ι → Session σ κ ε α

-- What happens next: a session's next statement or its commit, or the loss of a session (a deadlock, a dropped connection).
inductive Event (ι : Type) where
  | advance (i : ι)
  | abort (i : ι)

section Worlds

variable {ι σ κ ε α : Type} [Fintype ι] [DecidableEq ι] [DecidableEq κ]

def World.blocked (w : World ι σ κ ε α) (i : ι) (keys : List κ) : Prop :=
  ∃ j, j ≠ i ∧ ∃ k ∈ keys, k ∈ (w.sessions j).holds

instance (w : World ι σ κ ε α) (i : ι) (keys : List κ) : Decidable (w.blocked i keys) := by
  unfold World.blocked
  infer_instance

def World.become (w : World ι σ κ ε α) (i : ι) (session : Session σ κ ε α) : World ι σ κ ε α :=
  { w with sessions := Function.update w.sessions i session }

def World.advance (w : World ι σ κ ε α) (i : ι) : World ι σ κ ε α :=
  match w.sessions i with
  | .active pending _ (.done a) => { w with store := pending w.store }.become i (.committed a)
  | .active _ _ (.fail _) => w.become i .aborted
  | .active pending locks (.send keys write next) =>
      if w.blocked i keys then w
      else
        let view := pending w.store
        w.become i (.active (fun s => write view (pending s)) (keys ++ locks) (next view))
  | _ => w

def World.abort (w : World ι σ κ ε α) (i : ι) : World ι σ κ ε α :=
  match w.sessions i with
  | .active _ _ _ => w.become i .aborted
  | _ => w

def World.step (w : World ι σ κ ε α) (event : Event ι) : World ι σ κ ε α :=
  match event with
  | .advance i => w.advance i
  | .abort i => w.abort i

def World.start (s : σ) (programs : ι → Statements σ κ ε α) : World ι σ κ ε α where
  store := s
  sessions := fun i => .active id [] (programs i)

end Worlds

section Ends

variable {σ κ ε α β : Type}

-- What a transaction ends with, whatever others commit between its statements: its answer and its writes.
def Ends (Q : α → (σ → σ) → Prop) : Statements σ κ ε α → (σ → σ) → Prop
  | .done a, pending => Q a pending
  | .fail _, _ => True
  | .send _ write next, pending => ∀ t, Ends Q (next (pending t)) (fun u => write (pending t) (pending u))

@[simp] theorem ends_pure (Q : α → (σ → σ) → Prop) (a : α) (pending : σ → σ) :
    Ends Q (pure a : Statements σ κ ε α) pending ↔ Q a pending :=
  Iff.rfl

@[simp] theorem ends_bind (Q : β → (σ → σ) → Prop) (p : Statements σ κ ε α) (f : α → Statements σ κ ε β) (pending : σ → σ) :
    Ends Q (p >>= f) pending ↔ Ends (fun a => Ends Q (f a)) p pending := by
  show Ends Q (p.bind f) pending ↔ _
  induction p generalizing pending with
  | done a => exact Iff.rfl
  | fail e => exact Iff.rfl
  | send locks write next ih =>
      constructor
      · intro ends t
        exact (ih (pending t) _).mp (ends t)
      · intro ends t
        exact (ih (pending t) _).mpr (ends t)

@[simp] theorem ends_query (Q : α → (σ → σ) → Prop) (read : σ → α) (pending : σ → σ) :
    Ends Q (Statements.query read : Statements σ κ ε α) pending ↔ ∀ t, Q (read (pending t)) pending :=
  Iff.rfl

@[simp] theorem ends_execute (Q : Unit → (σ → σ) → Prop) (locks : List κ) (write : σ → σ) (pending : σ → σ) :
    Ends Q (Statements.execute locks write : Statements σ κ ε Unit) pending ↔ (σ → Q () (fun u => write (pending u))) :=
  Iff.rfl

@[simp] theorem ends_refuseUnless (Q : Unit → (σ → σ) → Prop) (p : Prop) [Decidable p] (e : ε) (pending : σ → σ) :
    Ends Q (Statements.refuseUnless p e : Statements σ κ ε Unit) pending ↔ (p → Q () pending) := by
  unfold Statements.refuseUnless
  by_cases holds : p
  · simp [holds, Ends]
  · simp [holds, Ends]

@[simp] theorem ends_orRefuse (Q : α → (σ → σ) → Prop) (o : Option α) (e : ε) (pending : σ → σ) :
    Ends Q (Statements.orRefuse o e : Statements σ κ ε α) pending ↔ ∀ a, o = some a → Q a pending := by
  cases o with
  | none => simp [Statements.orRefuse, Ends]
  | some a => simp [Statements.orRefuse, Ends]

variable {ι : Type} [Fintype ι] [DecidableEq ι] [DecidableEq κ] (Q : α → (σ → σ) → Prop)

def AllEnd (w : World ι σ κ ε α) : Prop :=
  ∀ i pending locks rest, w.sessions i = .active pending locks rest → Ends Q rest pending

def onCommit (C : α → σ → Prop) (w : World ι σ κ ε α) : Event ι → Prop
  | .advance i =>
      match w.sessions i with
      | .active _ _ (.done a) => C a w.store
      | _ => True
  | .abort _ => True

instance (C : α → σ → Prop) [∀ a s, Decidable (C a s)] (w : World ι σ κ ε α) (event : Event ι) : Decidable (onCommit C w event) := by
  unfold onCommit
  split
  · split <;> infer_instance
  · infer_instance

inductive Stepped (w : World ι σ κ ε α) (event : Event ι) (w' : World ι σ κ ε α) : Prop where
  | still (same : w'.store = w.store) (free : ∀ C, onCommit C w event)
  | committed (a : α) (pending : σ → σ) (ended : Q a pending) (moved : w'.store = pending w.store)
      (asked : ∀ C, onCommit C w event ↔ C a w.store)

omit [Fintype ι] [DecidableEq ι] [DecidableEq κ] in
theorem allEnd_start (s : σ) (programs : ι → Statements σ κ ε α) (ends : ∀ i, Ends Q (programs i) id) :
    AllEnd Q (World.start s programs) := by
  intro i pending locks rest started
  cases started
  exact ends i

omit [Fintype ι] [DecidableEq κ] in
theorem allEnd_become (w : World ι σ κ ε α) (i : ι) (session : Session σ κ ε α)
    (ends : ∀ pending locks rest, session = .active pending locks rest → Ends Q rest pending) (all : AllEnd Q w) :
    AllEnd Q (w.become i session) := by
  intro j pending locks rest found
  by_cases same : j = i
  · subst same
    simp only [World.become, Function.update_self] at found
    exact ends pending locks rest found
  · simp only [World.become, Function.update_of_ne same] at found
    exact all j pending locks rest found

theorem allEnd_advance (w : World ι σ κ ε α) (i : ι) (all : AllEnd Q w) :
    AllEnd Q (w.advance i) ∧ Stepped Q w (.advance i) (w.advance i) := by
  cases at_ : w.sessions i with
  | committed a =>
      have same : w.advance i = w := by
        unfold World.advance
        rw [at_]
      rw [same]
      exact ⟨all, .still rfl (fun C => by simp [onCommit, at_])⟩
  | aborted =>
      have same : w.advance i = w := by
        unfold World.advance
        rw [at_]
      rw [same]
      exact ⟨all, .still rfl (fun C => by simp [onCommit, at_])⟩
  | active pending locks rest =>
      have ends := all i pending locks rest at_
      cases rest with
      | fail e =>
          have next : w.advance i = w.become i .aborted := by
            unfold World.advance
            rw [at_]
          rw [next]
          exact ⟨allEnd_become Q w i .aborted (fun _ _ _ same => by cases same) all, .still rfl (fun C => by simp [onCommit, at_])⟩
      | done a =>
          have next : w.advance i = { w with store := pending w.store }.become i (.committed a) := by
            unfold World.advance
            rw [at_]
          rw [next]
          have closed : AllEnd Q (w.become i (.committed a)) :=
            allEnd_become Q w i (.committed a) (fun _ _ _ same => by cases same) all
          exact ⟨closed, .committed a pending ends rfl (fun C => by simp [onCommit, at_])⟩
      | send keys write next =>
          have free (C : α → σ → Prop) : onCommit C w (.advance i) := by
            simp [onCommit, at_]
          by_cases blocked : w.blocked i keys
          · have same : w.advance i = w := by
              unfold World.advance
              rw [at_]
              exact if_pos blocked
            rw [same]
            exact ⟨all, .still rfl free⟩
          · have moved : w.advance i = w.become i (.active (fun s => write (pending w.store) (pending s)) (keys ++ locks)
                (next (pending w.store))) := by
              unfold World.advance
              rw [at_]
              exact if_neg blocked
            rw [moved]
            refine ⟨allEnd_become Q w i _ ?_ all, .still rfl free⟩
            intro pending' locks' rest' became
            cases became
            exact ends w.store

theorem allEnd_step (w : World ι σ κ ε α) (event : Event ι) (all : AllEnd Q w) :
    AllEnd Q (w.step event) ∧ Stepped Q w event (w.step event) := by
  cases event with
  | advance i => exact allEnd_advance Q w i all
  | abort i =>
      show AllEnd Q (w.abort i) ∧ Stepped Q w (.abort i) (w.abort i)
      unfold World.abort
      split
      · exact ⟨allEnd_become Q w i .aborted (fun _ _ _ same => by cases same) all, .still rfl (fun _ => trivial)⟩
      · exact ⟨all, .still rfl (fun _ => trivial)⟩

theorem allEnd_run (w : World ι σ κ ε α) (events : List (Event ι)) (all : AllEnd Q w) : AllEnd Q (run World.step w events) :=
  run_invariant World.step (AllEnd Q) (fun v event kept => (allEnd_step Q v event kept).1) w events all

theorem allEnd_relation (R : σ → σ → Prop) (refl : ∀ s, R s s) (trans : ∀ s t u, R s t → R t u → R s u)
    (moves : ∀ a pending s, Q a pending → R s (pending s)) (w : World ι σ κ ε α) (events : List (Event ι)) (all : AllEnd Q w) :
    R w.store (run World.step w events).store := by
  refine run_relation World.step (fun v v' => R v.store v'.store) (fun v => refl v.store) (fun _ _ _ => trans _ _ _)
    (AllEnd Q) (fun v event kept => (allEnd_step Q v event kept).1) ?_ w events all
  intro v event kept
  cases (allEnd_step Q v event kept).2 with
  | committed a pending ended moved asked =>
      rw [moved]
      exact moves a pending v.store ended
  | still same free =>
      rw [same]
      exact refl v.store

-- Where a commit keeps P exactly when the store meets what is asked of its answer, P holds all along the runs
-- whose commits are all so met, and along no other.
theorem allEnd_invariant_iff (C : α → σ → Prop) (P : σ → Prop) (kept : ∀ a pending s, Q a pending → P s → (P (pending s) ↔ C a s))
    (w : World ι σ κ ε α) (events : List (Event ι)) (all : AllEnd Q w) (start : P w.store) :
    AllMeet World.step (onCommit C) w events ↔ ∀ first second, events = first ++ second → P (run World.step w first).store := by
  induction events generalizing w with
  | nil =>
      constructor
      · intro _ first second split
        obtain ⟨rfl, -⟩ := List.nil_eq_append_iff.mp split
        exact start
      · intro _
        trivial
  | cons event rest ih =>
      obtain ⟨next, stepped⟩ := allEnd_step Q w event all
      have step : onCommit C w event ↔ P (w.step event).store := by
        cases stepped with
        | still same free =>
            rw [same]
            exact iff_of_true (free C) start
        | committed a pending ended moved asked =>
            rw [asked C, moved]
            exact (kept a pending w.store ended start).symm
      constructor
      · rintro ⟨meets, meet⟩ first second split
        have reached := step.mp meets
        cases first with
        | nil => exact start
        | cons e first =>
            obtain ⟨rfl, tail⟩ := List.cons_eq_cons.mp split
            exact (ih _ next reached).mp meet first second tail
      · intro holds
        have reached : P (w.step event).store := holds [event] rest rfl
        refine ⟨step.mpr reached, (ih _ next reached).mpr ?_⟩
        intro first second split
        exact holds (event :: first) second (by rw [split, List.cons_append])

end Ends

section Guards

variable {σ κ ε α β : Type} [DecidableEq κ] (key : κ) (I : σ → Prop)

-- What a transaction establishes when nobody else commits while it holds the key, and whoever commits before keeps I.
-- The predicate is asked of every value it may end with, whether it holds the key by then, its writes and the store below them.
def Serves (Q : α → Bool → (σ → σ) → σ → Prop) : Statements σ κ ε α → Bool → (σ → σ) → σ → Prop
  | .done a, held, pending, s => Q a held pending s
  | .fail _, _, _, _ => True
  | .send locks write next, held, pending, s =>
      ∀ t, (if held = true then t = s else I t) →
        Serves Q (next (pending t)) (held || decide (key ∈ locks)) (fun u => write (pending t) (pending u)) t

@[simp] theorem serves_pure (Q : α → Bool → (σ → σ) → σ → Prop) (a : α) (held : Bool) (pending : σ → σ) (s : σ) :
    Serves key I Q (pure a : Statements σ κ ε α) held pending s ↔ Q a held pending s :=
  Iff.rfl

@[simp] theorem serves_bind (Q : β → Bool → (σ → σ) → σ → Prop) (p : Statements σ κ ε α) (f : α → Statements σ κ ε β)
    (held : Bool) (pending : σ → σ) (s : σ) :
    Serves key I Q (p >>= f) held pending s ↔ Serves key I (fun a => Serves key I Q (f a)) p held pending s := by
  show Serves key I Q (p.bind f) held pending s ↔ _
  induction p generalizing held pending s with
  | done a => exact Iff.rfl
  | fail e => exact Iff.rfl
  | send locks write next ih =>
      constructor
      · intro serves t below
        exact (ih (pending t) _ _ t).mp (serves t below)
      · intro serves t below
        exact (ih (pending t) _ _ t).mpr (serves t below)

@[simp] theorem serves_query_held (Q : α → Bool → (σ → σ) → σ → Prop) (read : σ → α) (pending : σ → σ) (s : σ) :
    Serves key I Q (Statements.query read : Statements σ κ ε α) true pending s ↔ Q (read (pending s)) true pending s := by
  constructor
  · intro serves
    exact serves s rfl
  · rintro holds t rfl
    exact holds

@[simp] theorem serves_query_open (Q : α → Bool → (σ → σ) → σ → Prop) (read : σ → α) (pending : σ → σ) (s : σ) :
    Serves key I Q (Statements.query read : Statements σ κ ε α) false pending s ↔
      ∀ t, I t → Q (read (pending t)) false pending t := by
  constructor
  · intro serves t kept
    have served := serves t kept
    simpa [Serves] using served
  · intro holds t kept
    simpa [Serves] using holds t kept

@[simp] theorem serves_lockRow (Q : Unit → Bool → (σ → σ) → σ → Prop) (pending : σ → σ) (s : σ) :
    Serves key I Q (Statements.lockRow key : Statements σ κ ε Unit) false pending s ↔ ∀ t, I t → Q () true pending t := by
  constructor
  · intro serves t kept
    have served := serves t kept
    simpa [Serves] using served
  · intro holds t kept
    simpa [Serves] using holds t kept

theorem serves_lockRow_other (other : κ) (apart : key ≠ other) (Q : Unit → Bool → (σ → σ) → σ → Prop) (pending : σ → σ) (s : σ) :
    Serves key I Q (Statements.lockRow other : Statements σ κ ε Unit) false pending s ↔ ∀ t, I t → Q () false pending t := by
  constructor
  · intro serves t kept
    have served := serves t kept
    simpa [Serves, apart] using served
  · intro holds t kept
    simpa [Serves, apart] using holds t kept

@[simp] theorem serves_execute_held (Q : Unit → Bool → (σ → σ) → σ → Prop) (locks : List κ) (write : σ → σ)
    (pending : σ → σ) (s : σ) :
    Serves key I Q (Statements.execute locks write : Statements σ κ ε Unit) true pending s ↔
      Q () true (fun u => write (pending u)) s := by
  constructor
  · intro serves
    exact serves s rfl
  · rintro holds t rfl
    exact holds

theorem serves_execute_open (Q : Unit → Bool → (σ → σ) → σ → Prop) (locks : List κ) (apart : key ∉ locks) (write : σ → σ)
    (pending : σ → σ) (s : σ) :
    Serves key I Q (Statements.execute locks write : Statements σ κ ε Unit) false pending s ↔
      ∀ t, I t → Q () false (fun u => write (pending u)) t := by
  constructor
  · intro serves t kept
    have served := serves t kept
    simpa [Serves, apart] using served
  · intro holds t kept
    simpa [Serves, apart] using holds t kept

@[simp] theorem serves_insert_held (Q : Unit → Bool → (σ → σ) → σ → Prop) (locks : List κ) (write : σ → σ)
    (conflict : σ → Option ε) (pending : σ → σ) (s : σ) :
    Serves key I Q (Statements.insert locks write conflict : Statements σ κ ε Unit) true pending s ↔
      (conflict (pending s) = none → Q () true (fun u => write (pending u)) s) := by
  constructor
  · intro serves none
    have served : Serves key I Q (Statements.answer (conflict (pending s))) true (fun u => write (pending u)) s := serves s rfl
    rw [none] at served
    exact served
  · rintro holds t rfl
    show Serves key I Q (Statements.answer (conflict (pending t))) true (fun u => write (pending u)) t
    cases clash : conflict (pending t) with
    | none => exact holds clash
    | some e => trivial

@[simp] theorem serves_refuseUnless (Q : Unit → Bool → (σ → σ) → σ → Prop) (p : Prop) [Decidable p] (e : ε) (held : Bool)
    (pending : σ → σ) (s : σ) :
    Serves key I Q (Statements.refuseUnless p e : Statements σ κ ε Unit) held pending s ↔ (p → Q () held pending s) := by
  unfold Statements.refuseUnless
  by_cases holds : p
  · simp [holds, Serves]
  · simp [holds, Serves]

@[simp] theorem serves_orRefuse (Q : α → Bool → (σ → σ) → σ → Prop) (o : Option α) (e : ε) (held : Bool) (pending : σ → σ) (s : σ) :
    Serves key I Q (Statements.orRefuse o e : Statements σ κ ε α) held pending s ↔ ∀ a, o = some a → Q a held pending s := by
  cases o with
  | none => simp [Statements.orRefuse, Serves]
  | some a => simp [Statements.orRefuse, Serves]

def Closing (Post : α → σ → σ → Prop) (a : α) (held : Bool) (pending : σ → σ) (s : σ) : Prop :=
  held = true ∧ Post a s (pending s)

-- A transaction that does not hold the key has been promised nothing about the store, so it minds no commit.
theorem serves_elsewhere (Post : α → σ → σ → Prop) (p : Statements σ κ ε α) (pending : σ → σ) (s t : σ)
    (serves : Serves key I (Closing Post) p false pending s) : Serves key I (Closing Post) p false pending t := by
  cases p with
  | done a => cases serves.1
  | fail e => trivial
  | send locks write next => exact serves

variable {ι : Type} [Fintype ι] [DecidableEq ι]

structure Guarded (Post : α → σ → σ → Prop) (w : World ι σ κ ε α) : Prop where
  store : I w.store
  serves : ∀ i pending locks rest, w.sessions i = .active pending locks rest →
    Serves key I (Closing Post) rest (decide (key ∈ locks)) pending w.store
  exclusive : ∀ i j, key ∈ (w.sessions i).holds → key ∈ (w.sessions j).holds → i = j

omit [Fintype ι] [DecidableEq ι] in
theorem guarded_start (Post : α → σ → σ → Prop) (s : σ) (programs : ι → Statements σ κ ε α) (kept : I s)
    (serves : ∀ i t, I t → Serves key I (Closing Post) (programs i) false id t) :
    Guarded key I Post (World.start s programs) where
  store := kept
  serves := by
    intro i pending locks rest started
    cases started
    exact serves i s kept
  exclusive := by
    intro i j held
    cases held

omit [Fintype ι] in
theorem guarded_become (Post : α → σ → σ → Prop) (w : World ι σ κ ε α) (i : ι) (session : Session σ κ ε α) (ended : session.holds = [])
    (inactive : ∀ pending locks rest, session ≠ .active pending locks rest) (guarded : Guarded key I Post w) :
    Guarded key I Post (w.become i session) where
  store := guarded.store
  serves := by
    intro j pending locks rest found
    by_cases same : j = i
    · subst same
      simp only [World.become, Function.update_self] at found
      exact absurd found (inactive pending locks rest)
    · simp only [World.become, Function.update_of_ne same] at found
      exact guarded.serves j pending locks rest found
  exclusive := by
    intro j k heldJ heldK
    by_cases sameJ : j = i
    · subst sameJ
      simp [World.become, ended] at heldJ
    · by_cases sameK : k = i
      · subst sameK
        simp [World.become, ended] at heldK
      · simp only [World.become, Function.update_of_ne sameJ] at heldJ
        simp only [World.become, Function.update_of_ne sameK] at heldK
        exact guarded.exclusive j k heldJ heldK

-- One event keeps the promises, and moves the store only by the commit of a session that holds the key.
inductive Moved (Post : α → σ → σ → Prop) (w w' : World ι σ κ ε α) : Prop where
  | still (same : w'.store = w.store) (ended : ∀ i a, w'.sessions i = .committed a → w.sessions i = .committed a)
  | committed (a : α) (post : Post a w.store w'.store)

theorem guarded_advance (Post : α → σ → σ → Prop) (keeps : ∀ a s t, I s → Post a s t → I t) (w : World ι σ κ ε α) (i : ι)
    (guarded : Guarded key I Post w) : Guarded key I Post (w.advance i) ∧ Moved Post w (w.advance i) := by
  cases at_ : w.sessions i with
  | committed a =>
      have same : w.advance i = w := by
        unfold World.advance
        rw [at_]
      rw [same]
      exact ⟨guarded, .still rfl (fun _ _ found => found)⟩
  | aborted =>
      have same : w.advance i = w := by
        unfold World.advance
        rw [at_]
      rw [same]
      exact ⟨guarded, .still rfl (fun _ _ found => found)⟩
  | active pending locks rest =>
      have served := guarded.serves i pending locks rest at_
      cases rest with
      | fail e =>
          have next : w.advance i = w.become i .aborted := by
            unfold World.advance
            rw [at_]
          rw [next]
          refine ⟨guarded_become key I Post w i .aborted rfl (by intro _ _ _ same; cases same) guarded, .still rfl ?_⟩
          intro j a found
          by_cases same : j = i
          · subst same
            simp [World.become] at found
          · simpa [World.become, Function.update_of_ne same] using found
      | done a =>
          have next : w.advance i = { w with store := pending w.store }.become i (.committed a) := by
            unfold World.advance
            rw [at_]
          have held : key ∈ locks := of_decide_eq_true served.1
          rw [next]
          have closed : Guarded key I Post (w.become i (.committed a)) :=
            guarded_become key I Post w i (.committed a) rfl (by intro _ _ _ same; cases same) guarded
          refine ⟨⟨keeps a w.store _ guarded.store served.2, ?_, closed.exclusive⟩, .committed a served.2⟩
          intro j pendingJ locksJ restJ found
          have servedJ := closed.serves j pendingJ locksJ restJ found
          have apart : j ≠ i := by
            rintro rfl
            simp [World.become] at found
          have free : key ∉ locksJ := by
            intro heldJ
            simp only [World.become, Function.update_of_ne apart] at found
            refine apart (guarded.exclusive j i ?_ ?_)
            · rw [found]
              exact heldJ
            · rw [at_]
              exact held
          simp only [free, decide_false] at servedJ ⊢
          exact serves_elsewhere key I Post restJ pendingJ w.store _ servedJ
      | send keys write next =>
          by_cases blocked : w.blocked i keys
          · have same : w.advance i = w := by
              unfold World.advance
              rw [at_]
              exact if_pos blocked
            rw [same]
            exact ⟨guarded, .still rfl (fun _ _ found => found)⟩
          · have moved : w.advance i = w.become i (.active (fun s => write (pending w.store) (pending s)) (keys ++ locks)
                (next (pending w.store))) := by
              unfold World.advance
              rw [at_]
              exact if_neg blocked
            rw [moved]
            refine ⟨⟨guarded.store, ?_, ?_⟩, .still rfl ?_⟩
            · intro j pendingJ locksJ restJ found
              by_cases same : j = i
              · subst same
                simp only [World.become, Function.update_self, Session.active.injEq] at found
                obtain ⟨rfl, rfl, rfl⟩ := found
                have below : if decide (key ∈ locks) = true then w.store = w.store else I w.store := by
                  split
                  · rfl
                  · exact guarded.store
                have step := served w.store below
                have grown : decide (key ∈ keys ++ locks) = (decide (key ∈ locks) || decide (key ∈ keys)) := by
                  simp [Bool.or_comm]
                rw [grown]
                exact step
              · simp only [World.become, Function.update_of_ne same] at found
                exact guarded.serves j pendingJ locksJ restJ found
            · -- The statement was not blocked, so nobody else holds what it locks.
              have alone (k : ι) (other : k ≠ i) (heldK : key ∈ (w.sessions k).holds) : key ∉ keys ++ locks := by
                intro heldI
                rcases List.mem_append.mp heldI with new | old
                · exact blocked ⟨k, other, key, new, heldK⟩
                · refine other (guarded.exclusive k i heldK ?_)
                  rw [at_]
                  exact old
              intro j k heldJ heldK
              by_cases sameJ : j = i
              · by_cases sameK : k = i
                · rw [sameJ, sameK]
                · subst sameJ
                  simp only [World.become, Function.update_self] at heldJ
                  simp only [World.become, Function.update_of_ne sameK] at heldK
                  exact absurd heldJ (alone k sameK heldK)
              · by_cases sameK : k = i
                · subst sameK
                  simp only [World.become, Function.update_self] at heldK
                  simp only [World.become, Function.update_of_ne sameJ] at heldJ
                  exact absurd heldK (alone j sameJ heldJ)
                · simp only [World.become, Function.update_of_ne sameJ] at heldJ
                  simp only [World.become, Function.update_of_ne sameK] at heldK
                  exact guarded.exclusive j k heldJ heldK
            · intro j a found
              by_cases same : j = i
              · subst same
                simp [World.become] at found
              · simpa [World.become, Function.update_of_ne same] using found

theorem guarded_step (Post : α → σ → σ → Prop) (keeps : ∀ a s t, I s → Post a s t → I t) (w : World ι σ κ ε α) (event : Event ι)
    (guarded : Guarded key I Post w) : Guarded key I Post (w.step event) ∧ Moved Post w (w.step event) := by
  cases event with
  | advance i => exact guarded_advance key I Post keeps w i guarded
  | abort i =>
      cases at_ : w.sessions i with
      | committed a =>
          have same : w.abort i = w := by
            unfold World.abort
            rw [at_]
          rw [World.step, same]
          exact ⟨guarded, .still rfl (fun _ _ found => found)⟩
      | aborted =>
          have same : w.abort i = w := by
            unfold World.abort
            rw [at_]
          rw [World.step, same]
          exact ⟨guarded, .still rfl (fun _ _ found => found)⟩
      | active pending locks rest =>
          have next : w.abort i = w.become i .aborted := by
            unfold World.abort
            rw [at_]
          rw [World.step, next]
          refine ⟨guarded_become key I Post w i .aborted rfl (by intro _ _ _ same; cases same) guarded, .still rfl ?_⟩
          intro j a found
          by_cases same : j = i
          · subst same
            simp [World.become] at found
          · simpa [World.become, Function.update_of_ne same] using found

theorem guarded_run (Post : α → σ → σ → Prop) (keeps : ∀ a s t, I s → Post a s t → I t) (w : World ι σ κ ε α)
    (events : List (Event ι)) (guarded : Guarded key I Post w) : Guarded key I Post (run World.step w events) :=
  run_invariant World.step (Guarded key I Post) (fun v event kept => (guarded_step key I Post keeps v event kept).1) w events guarded

theorem guarded_settles (Post : α → σ → σ → Prop) (keeps : ∀ a s t, I s → Post a s t → I t) (P : σ → Prop)
    (settles : ∀ a s t, I s → Post a s t → P t) (w : World ι σ κ ε α) (guarded : Guarded key I Post w)
    (fresh : ∀ i a, w.sessions i ≠ .committed a) (events : List (Event ι)) (i : ι) (a : α)
    (ended : (run World.step w events).sessions i = .committed a) : P (run World.step w events).store := by
  have either := run_invariant World.step
    (fun v => Guarded key I Post v ∧ (P v.store ∨ ∀ i a, v.sessions i ≠ .committed a)) ?_ w events ⟨guarded, .inr fresh⟩
  · exact either.2.resolve_right (fun none => none i a ended)
  · rintro v event ⟨kept, before_⟩
    obtain ⟨next, moved⟩ := guarded_step key I Post keeps v event kept
    refine ⟨next, ?_⟩
    cases moved with
    | committed b post => exact .inl (settles b _ _ kept.store post)
    | still same sessions =>
        rcases before_ with settled | none
        · rw [same]
          exact .inl settled
        · exact .inr (fun j b found => none j b (sessions j b found))

theorem guarded_relation (Post : α → σ → σ → Prop) (keeps : ∀ a s t, I s → Post a s t → I t) (R : σ → σ → Prop)
    (refl : ∀ s, R s s) (trans : ∀ s t u, R s t → R t u → R s u) (moves : ∀ a s t, I s → Post a s t → R s t)
    (w : World ι σ κ ε α) (events : List (Event ι)) (guarded : Guarded key I Post w) :
    R w.store (run World.step w events).store := by
  refine run_relation World.step (fun v v' => R v.store v'.store) (fun v => refl v.store) (fun _ _ _ => trans _ _ _)
    (Guarded key I Post) (fun v event kept => (guarded_step key I Post keeps v event kept).1) ?_ w events guarded
  intro v event kept
  cases (guarded_step key I Post keeps v event kept).2 with
  | committed b post => exact moves b _ _ kept.store post
  | still same sessions =>
      rw [same]
      exact refl v.store

end Guards

end EduAi.Store
