import EduAi.Store.Table

set_option autoImplicit false

namespace EduAi.Store

-- Tables whose rows are told apart by a key.
section Keyed

variable {α κ : Type} (key : α → κ) (rows : List α)

def Keyed : Prop :=
  ∀ x ∈ rows, ∀ y ∈ rows, key x = key y → x = y

theorem mem_append_one (row x : α) : x ∈ rows ++ [row] ↔ x ∈ rows ∨ x = row := by
  rw [List.mem_append, List.mem_singleton]

theorem free_key [DecidableEq κ] (row : α) (fresh : free (fun r => some (key r)) row rows = true) : ∀ r ∈ rows, key r ≠ key row := by
  intro r member same
  exact (free_iff _ _ _).mp fresh r member (key row) rfl (congrArg some same)

theorem keyed_append (row : α) (keyed : Keyed key rows) (fresh : ∀ x ∈ rows, key x ≠ key row) : Keyed key (rows ++ [row]) := by
  intro x memberX y memberY same
  rcases (mem_append_one rows row x).mp memberX with oldX | rfl
  · rcases (mem_append_one rows row y).mp memberY with oldY | rfl
    · exact keyed x oldX y oldY same
    · exact absurd same (fresh x oldX)
  · rcases (mem_append_one rows _ y).mp memberY with oldY | rfl
    · exact absurd same.symm (fresh y oldY)
    · rfl

theorem keyed_map (f : α → α) (kept : ∀ x ∈ rows, key (f x) = key x) (keyed : Keyed key rows) : Keyed key (rows.map f) := by
  intro x memberX y memberY same
  obtain ⟨x, inX, rfl⟩ := List.mem_map.mp memberX
  obtain ⟨y, inY, rfl⟩ := List.mem_map.mp memberY
  rw [kept x inX, kept y inY] at same
  rw [keyed x inX y inY same]

theorem keyed_updateWhere (p : α → Bool) (f : α → α) (kept : ∀ x ∈ rows, key (f x) = key x) (keyed : Keyed key rows) :
    Keyed key (updateWhere p f rows) := by
  refine keyed_map key rows _ ?_ keyed
  intro x member
  by_cases chosen : p x = true
  · rw [if_pos chosen]
    exact kept x member
  · rw [if_neg chosen]

theorem keyed_find [DecidableEq κ] (row : α) (keyed : Keyed key rows) (member : row ∈ rows) (k : κ) (named : key row = k) :
    rows.find? (fun r => decide (key r = k)) = some row := by
  cases found : rows.find? (fun r => decide (key r = k)) with
  | none =>
      have unnamed := find_none _ _ found row member
      exact absurd named (of_decide_eq_false unnamed)
  | some other =>
      obtain ⟨inTable, same⟩ := find_some _ _ other found
      rw [keyed other inTable row member ((of_decide_eq_true same).trans named.symm)]

end Keyed

end EduAi.Store
