import EduAi.Store.Table
import Mathlib.Tactic.Linarith

set_option autoImplicit false

namespace EduAi.Store

section Sums

variable {α κ : Type} (rows : List α)

theorem total_add (g h : α → Int) : total (fun x => g x + h x) rows = total g rows + total h rows := by
  induction rows with
  | nil => rfl
  | cons x rest ih =>
      rw [total_cons, total_cons, total_cons, ih]
      ring

theorem total_mul (c : Int) (g : α → Int) : total (fun x => c * g x) rows = c * total g rows := by
  induction rows with
  | nil => simp
  | cons x rest ih =>
      rw [total_cons, total_cons, ih]
      ring

theorem total_map (f : κ → α) (g : α → Int) (keys : List κ) : total g (keys.map f) = total (fun k => g (f k)) keys := by
  simp [total, Function.comp_def]

theorem total_append (g : α → Int) (more : List α) : total g (rows ++ more) = total g rows + total g more := by
  simp [total]

theorem total_const (c : Int) : total (fun _ => c) rows = rows.length * c := by
  induction rows with
  | nil => simp
  | cons x rest ih =>
      rw [total_cons, ih, List.length_cons]
      push_cast
      ring

theorem total_perm (g : α → Int) (more : List α) (same : rows.Perm more) : total g rows = total g more :=
  (same.map g).sum_eq

theorem total_lt (g h : α → Int) (some : rows ≠ []) (below : ∀ r ∈ rows, g r < h r) : total g rows < total h rows := by
  cases rows with
  | nil => exact absurd rfl some
  | cons x rest =>
      rw [total_cons, total_cons]
      have head := below x (by simp)
      have tail := total_mono g h rest (fun r hr => Int.le_of_lt (below r (by simp [hr])))
      omega

theorem total_flatMap (f : κ → List α) (g : α → Int) (keys : List κ) :
    total g (keys.flatMap f) = total (fun k => total g (f k)) keys := by
  induction keys with
  | nil => rfl
  | cons k rest ih => rw [List.flatMap_cons, total_append, total_cons, ih]

theorem total_one [DecidableEq κ] (key : α → κ) (g : α → Int) (distinct : (rows.map key).Nodup) (x : α) (hx : x ∈ rows) :
    total (fun y => if key y = key x then g y else 0) rows = g x := by
  induction rows with
  | nil => cases hx
  | cons y rest ih =>
      rw [List.map_cons, List.nodup_cons] at distinct
      rw [total_cons]
      rcases List.mem_cons.mp hx with rfl | later
      · have others : total (fun z => if key z = key x then g z else 0) rest = 0 := by
          refine total_zero _ _ (fun z hz => if_neg (fun same => ?_))
          exact distinct.1 (same ▸ List.mem_map_of_mem hz)
        rw [if_pos rfl, others, Int.add_zero]
      · have differ : key y ≠ key x := fun same => distinct.1 (same ▸ List.mem_map_of_mem later)
        rw [if_neg differ, ih distinct.2 later, Int.zero_add]

theorem total_chosen [DecidableEq κ] (key : α → κ) (chosen : List κ) (distinct : (rows.map key).Nodup)
    (once : chosen.Nodup) (present : ∀ k ∈ chosen, k ∈ rows.map key) :
    total (fun x => if key x ∈ chosen then 1 else 0) rows = chosen.length := by
  have counted : total (fun x => if key x ∈ chosen then 1 else 0) rows = ((rows.map key).filter (fun k => k ∈ chosen)).length := by
    clear distinct present
    induction rows with
    | nil => rfl
    | cons x rest ih =>
        rw [total_cons, ih, List.map_cons, List.filter_cons]
        by_cases picked : key x ∈ chosen
        · simp [picked]
          ring
        · simp [picked]
  have same : ((rows.map key).filter (fun k => k ∈ chosen)).Perm chosen := by
    refine (List.perm_ext_iff_of_nodup (distinct.filter _) once).mpr ?_
    intro k
    simp only [List.mem_filter, decide_eq_true_eq]
    exact ⟨fun h => h.2, fun h => ⟨present k h, h⟩⟩
  rw [counted, same.length_eq]

end Sums

section Quotas

-- The floors of the shares of an amount, in proportion to integer weights.
variable {α : Type} (amount : Int) (weight : α → Int) (rows : List α)

theorem quotas_split (whole : Int) :
    whole * total (fun x => amount * weight x / whole) rows + total (fun x => amount * weight x % whole) rows =
      amount * total weight rows := by
  rw [← total_mul, ← total_add, ← total_mul]
  exact total_congr _ _ rows (fun x _ => Int.mul_ediv_add_emod (amount * weight x) whole)

theorem shortfall_nonneg (whole : 0 < total weight rows) :
    0 ≤ amount - total (fun x => amount * weight x / total weight rows) rows := by
  have split := quotas_split amount weight rows (total weight rows)
  have remainders := total_nonneg (fun x => amount * weight x % total weight rows) rows
    (fun x _ => Int.emod_nonneg _ (Int.ne_of_gt whole))
  nlinarith [split, remainders, whole]

theorem shortfall_lt (whole : 0 < total weight rows) :
    amount - total (fun x => amount * weight x / total weight rows) rows < rows.length := by
  have split := quotas_split amount weight rows (total weight rows)
  have some : rows ≠ [] := by
    rintro rfl
    simp at whole
  have remainders := total_lt rows (fun x => amount * weight x % total weight rows) (fun _ => total weight rows) some
    (fun x _ => Int.emod_lt_of_pos _ whole)
  rw [total_const] at remainders
  nlinarith [split, remainders, whole]

theorem quota_below (a w whole : Int) (positive : 0 < w) (less : a < whole) (nonneg : 0 ≤ a) : a * w / whole < w := by
  refine Int.ediv_lt_of_lt_mul (by omega) ?_
  nlinarith

end Quotas

end EduAi.Store
