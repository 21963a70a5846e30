import Mathlib.Data.List.Sort

set_option autoImplicit false

namespace EduAi.Store

-- Pages of a table in descending order of a key, each page starting below the key of the last row before it.
section Keyset

variable {α κ : Type} [LinearOrder κ] (key : α → κ)

def newestFirst (rows : List α) : List α :=
  rows.insertionSort (fun a b => key b ≤ key a)

def below (before : Option κ) (row : α) : Bool :=
  before.all (fun k => key row < k)

-- WHERE key < before ORDER BY key DESC LIMIT count
def pageAfter (before : Option κ) (count : Nat) (rows : List α) : List α :=
  (newestFirst key (rows.filter (below key before))).take count

def Descending (rows : List α) : Prop :=
  rows.Pairwise (fun a b => key b < key a)

instance descending_total : Std.Total (fun a b : α => key b ≤ key a) := ⟨fun a b => le_total (key b) (key a)⟩

instance descending_trans : IsTrans α (fun a b => key b ≤ key a) := ⟨fun _ _ _ first second => le_trans second first⟩

theorem newestFirst_perm (rows : List α) : (newestFirst key rows).Perm rows :=
  List.perm_insertionSort _ rows

theorem newestFirst_descending (rows : List α) (once : (rows.map key).Nodup) : Descending key (newestFirst key rows) := by
  have sorted := List.pairwise_insertionSort (fun a b => key b ≤ key a) rows
  have distinct : ((newestFirst key rows).map key).Nodup := ((newestFirst_perm key rows).map key).nodup_iff.mpr once
  have apart : (newestFirst key rows).Pairwise (fun a b => key a ≠ key b) := List.pairwise_map.mp distinct
  refine (sorted.and apart).imp ?_
  intro a b both
  exact lt_of_le_of_ne both.1 both.2.symm

theorem descending_unique (xs ys : List α) (perm : xs.Perm ys) (left : Descending key xs) (right : Descending key ys) : xs = ys := by
  refine List.Perm.eq_of_pairwise ?_ left right perm
  intro a b _ _ first second
  exact absurd first (lt_asymm second)

theorem newestFirst_filter (rows : List α) (once : (rows.map key).Nodup) (p : α → Bool) :
    newestFirst key (rows.filter p) = (newestFirst key rows).filter p := by
  refine descending_unique key _ _ ?_ (newestFirst_descending key _ (once.sublist (List.filter_sublist.map key)))
    ((newestFirst_descending key rows once).filter p)
  exact (newestFirst_perm key _).trans ((newestFirst_perm key rows).filter p).symm

theorem below_last (done rest : List α) (sorted : Descending key (done ++ rest)) (last : α) (isLast : done.getLast? = some last) :
    (done ++ rest).filter (below key (some (key last))) = rest := by
  obtain ⟨first, rfl⟩ := List.getLast?_eq_some_iff.mp isLast
  obtain ⟨done, later, across⟩ := List.pairwise_append.mp sorted
  have none : (first ++ [last]).filter (below key (some (key last))) = [] := by
    rw [List.filter_eq_nil_iff]
    intro row member
    rcases List.mem_append.mp member with earlier | same
    · have above := (List.pairwise_append.mp done).2.2 row earlier last (List.mem_singleton.mpr rfl)
      simp [below, above.le]
    · simp [below, List.mem_singleton.mp same]
  have all : rest.filter (below key (some (key last))) = rest := by
    rw [List.filter_eq_self]
    intro row member
    have under := across last (by simp) row member
    simp [below, under]
  rw [List.filter_append, none, all, List.nil_append]

theorem pageAfter_none (rows : List α) (count : Nat) : pageAfter key none count rows = (newestFirst key rows).take count := by
  have all : rows.filter (below key none) = rows := List.filter_eq_self.mpr (fun _ _ => rfl)
  rw [pageAfter, all]

theorem pageAfter_last (rows done rest : List α) (once : (rows.map key).Nodup) (split : newestFirst key rows = done ++ rest)
    (last : α) (isLast : done.getLast? = some last) (count : Nat) :
    pageAfter key (some (key last)) count rows = rest.take count := by
  have sorted := newestFirst_descending key rows once
  rw [split] at sorted
  rw [pageAfter, newestFirst_filter key rows once, split, below_last key done rest sorted last isLast]

end Keyset

end EduAi.Store
