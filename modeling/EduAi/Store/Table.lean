import Mathlib.Algebra.BigOperators.Group.List.Basic
import Mathlib.Algebra.Order.Group.Int
import Mathlib.Data.List.Nodup
import Mathlib.Tactic.Common
import Mathlib.Tactic.Ring

set_option autoImplicit false

namespace EduAi.Store

-- A table is its rows in insertion order.
section Rows

variable {α κ : Type}

def updateWhere (p : α → Bool) (f : α → α) (rows : List α) : List α :=
  rows.map (fun r => if p r then f r else r)

theorem mem_updateWhere (p : α → Bool) (f : α → α) (rows : List α) (r : α) :
    r ∈ updateWhere p f rows ↔ ∃ old ∈ rows, r = if p old then f old else old := by
  simp only [updateWhere, List.mem_map, eq_comm]

theorem updateWhere_of_none (p : α → Bool) (f : α → α) (rows : List α) (none : ∀ r ∈ rows, p r = false) :
    updateWhere p f rows = rows := by
  unfold updateWhere
  conv => rhs; rw [← List.map_id rows]
  apply List.map_congr_left
  intro r hr
  simp [none r hr]

theorem updateWhere_congr (p q : α → Bool) (f g : α → α) (rows : List α) (selects : ∀ r ∈ rows, p r = q r)
    (writes : ∀ r ∈ rows, p r = true → f r = g r) : updateWhere p f rows = updateWhere q g rows := by
  apply List.map_congr_left
  intro r hr
  rw [← selects r hr]
  by_cases hp : p r = true
  · rw [if_pos hp, if_pos hp, writes r hr hp]
  · rw [if_neg hp, if_neg hp]

theorem updateWhere_updateWhere (p q : α → Bool) (f : α → α) (rows : List α)
    (apart : ∀ r ∈ rows, p r = true → q (f r) = false) (kept : ∀ r ∈ rows, p r = true → q r = false) :
    updateWhere q f (updateWhere p f rows) = updateWhere (fun r => p r || q r) f rows := by
  unfold updateWhere
  rw [List.map_map]
  apply List.map_congr_left
  intro r hr
  by_cases hp : p r = true
  · simp [hp, apart r hr hp, kept r hr hp]
  · simp [hp]

-- The rows a key selects; a NULL key selects nothing and collides with nothing.
def UniqueKey (key : α → Option κ) (rows : List α) : Prop :=
  (rows.filterMap key).Nodup

def free [DecidableEq κ] (key : α → Option κ) (row : α) (rows : List α) : Bool :=
  rows.all (fun r => !decide ((key row).isSome ∧ key r = key row))

theorem free_iff [DecidableEq κ] (key : α → Option κ) (row : α) (rows : List α) :
    free key row rows = true ↔ ∀ r ∈ rows, ∀ k, key row = some k → key r ≠ some k := by
  unfold free
  simp only [List.all_eq_true, Bool.not_eq_true', decide_eq_false_iff_not, not_and]
  constructor
  · intro h r hr k hk
    have := h r hr (by simp [hk])
    rwa [hk] at this
  · intro h r hr some same
    obtain ⟨k, hk⟩ := Option.isSome_iff_exists.mp some
    exact h r hr k hk (same.trans hk)

theorem unique_nil (key : α → Option κ) : UniqueKey key ([] : List α) := by
  simp [UniqueKey]

theorem unique_append [DecidableEq κ] (key : α → Option κ) (row : α) (rows : List α) (unique : UniqueKey key rows)
    (fresh : free key row rows = true) : UniqueKey key (rows ++ [row]) := by
  unfold UniqueKey at *
  rw [List.filterMap_append]
  cases h : key row with
  | none => simpa [h] using unique
  | some k =>
      rw [List.nodup_append]
      refine ⟨unique, by simp [h], ?_⟩
      intro a ha b hb same
      simp only [List.filterMap_cons, h, List.filterMap_nil, List.mem_singleton] at hb
      obtain ⟨r, hr, hk⟩ := List.mem_filterMap.mp ha
      exact (free_iff key row rows).mp fresh r hr k h (by rw [hk, same, hb])

theorem unique_append_rows (key : α → Option κ) (rows more : List α) (unique : UniqueKey key rows) (unique' : UniqueKey key more)
    (apart : ∀ r ∈ rows, ∀ r' ∈ more, ∀ k, key r = some k → key r' ≠ some k) : UniqueKey key (rows ++ more) := by
  unfold UniqueKey at *
  rw [List.filterMap_append, List.nodup_append]
  refine ⟨unique, unique', fun k hk k' hk' same => ?_⟩
  obtain ⟨r, hr, keyed⟩ := List.mem_filterMap.mp hk
  obtain ⟨r', hr', keyed'⟩ := List.mem_filterMap.mp hk'
  exact apart r hr r' hr' k keyed (by rw [keyed', same])

theorem unique_split [DecidableEq κ] (key : α → Option κ) (rows more : List α) (row : α)
    (unique : UniqueKey key (rows ++ row :: more)) : free key row rows = true := by
  rw [free_iff]
  intro r hr k keyed same
  unfold UniqueKey at unique
  rw [List.filterMap_append, List.nodup_append, List.filterMap_cons_some keyed] at unique
  exact unique.2.2 k (List.mem_filterMap.mpr ⟨r, hr, same⟩) k (by simp) rfl

theorem unique_filterMap {β ι : Type} (id : α → ι) (k : ι → κ) (key : β → Option κ) (f : α → Option β) (rows : List α)
    (named : ∀ x ∈ rows, ∀ y, f x = some y → key y = some (k (id x))) (injective : ∀ i j, k i = k j → i = j)
    (distinct : (rows.map id).Nodup) : UniqueKey key (rows.filterMap f) := by
  unfold UniqueKey
  induction rows with
  | nil => simp
  | cons x rest ih =>
      rw [List.map_cons, List.nodup_cons] at distinct
      have later := ih (fun y hy => named y (by simp [hy])) distinct.2
      cases given : f x with
      | none =>
          rw [List.filterMap_cons_none given]
          exact later
      | some y =>
          rw [List.filterMap_cons_some given, List.filterMap_cons_some (named x (by simp) y given), List.nodup_cons]
          refine ⟨fun repeated => ?_, later⟩
          obtain ⟨z, hz, same⟩ := List.mem_filterMap.mp repeated
          obtain ⟨w, hw, given'⟩ := List.mem_filterMap.mp hz
          rw [named w (by simp [hw]) z given'] at same
          have collides := injective _ _ (Option.some.inj same)
          exact distinct.1 (collides ▸ List.mem_map_of_mem hw)

theorem filter_filterMap_own {β : Type} [DecidableEq κ] (id : α → κ) (named : β → κ) (f : α → Option β) (rows : List α)
    (own : ∀ x y, f x = some y → named y = id x) (distinct : (rows.map id).Nodup) (x : α) (hx : x ∈ rows) :
    (rows.filterMap f).filter (fun y => named y = id x) = (f x).toList := by
  induction rows with
  | nil => cases hx
  | cons z rest ih =>
      rw [List.map_cons, List.nodup_cons] at distinct
      have others : ∀ y ∈ rest.filterMap f, id z ≠ named y := by
        intro y hy same
        obtain ⟨w, hw, given⟩ := List.mem_filterMap.mp hy
        rw [own w y given] at same
        exact distinct.1 (same ▸ List.mem_map_of_mem hw)
      rcases List.mem_cons.mp hx with rfl | later
      · have nothing : (rest.filterMap f).filter (fun y => named y = id x) = [] := by
          rw [List.filter_eq_nil_iff]
          intro y hy same
          exact others y hy (of_decide_eq_true same).symm
        cases given : f x with
        | none => rw [List.filterMap_cons_none given, nothing]; rfl
        | some y => rw [List.filterMap_cons_some given, List.filter_cons_of_pos (by simp [own x y given]), nothing]; rfl
      · have differ : id z ≠ id x := fun same => distinct.1 (same ▸ List.mem_map_of_mem later)
        cases given : f z with
        | none => rw [List.filterMap_cons_none given, ih distinct.2 later]
        | some y => rw [List.filterMap_cons_some given, List.filter_cons_of_neg (by simp [own z y given, differ]), ih distinct.2 later]

theorem unique_updateWhere (key : α → Option κ) (p : α → Bool) (f : α → α) (rows : List α) (unique : UniqueKey key rows)
    (keeps : ∀ r ∈ rows, p r = true → key (f r) = key r) : UniqueKey key (updateWhere p f rows) := by
  unfold UniqueKey updateWhere at *
  rw [List.filterMap_map]
  have same : rows.filterMap (key ∘ fun r => if p r then f r else r) = rows.filterMap key := by
    apply List.filterMap_congr
    intro r hr
    by_cases hp : p r = true
    · simp [hp, keeps r hr hp]
    · simp [hp]
  rw [same]
  exact unique

@[simp] theorem updateWhere_cons (p : α → Bool) (f : α → α) (x : α) (rest : List α) :
    updateWhere p f (x :: rest) = (if p x then f x else x) :: updateWhere p f rest := rfl

theorem unique_updateWhere_cleared (key : α → Option κ) (p : α → Bool) (f : α → α) (rows : List α)
    (unique : UniqueKey key rows) (cleared : ∀ r ∈ rows, p r = true → key (f r) = key r ∨ key (f r) = none) :
    UniqueKey key (updateWhere p f rows) := by
  unfold UniqueKey at *
  refine List.Nodup.sublist ?_ unique
  clear unique
  induction rows with
  | nil => exact List.Sublist.refl _
  | cons x rest ih =>
      have tail := ih (fun r hr => cleared r (by simp [hr]))
      rw [updateWhere_cons]
      by_cases hp : p x = true
      · rw [if_pos hp]
        rcases cleared x (by simp) hp with same | none
        · simp only [List.filterMap_cons, same]
          cases key x with
          | none => exact tail
          | some k => exact List.Sublist.cons_cons k tail
        · simp only [List.filterMap_cons, none]
          cases key x with
          | none => exact tail
          | some k => exact List.Sublist.cons k tail
      · rw [if_neg hp]
        simp only [List.filterMap_cons]
        cases key x with
        | none => exact tail
        | some k => exact List.Sublist.cons_cons k tail

theorem unique_of_cons (key : α → Option κ) (x : α) (rest : List α) (unique : UniqueKey key (x :: rest)) :
    UniqueKey key rest := by
  unfold UniqueKey at *
  cases hx : key x with
  | none =>
      rw [List.filterMap_cons_none hx] at unique
      exact unique
  | some k =>
      rw [List.filterMap_cons_some hx, List.nodup_cons] at unique
      exact unique.2

theorem unique_head_fresh (key : α → Option κ) (x : α) (rest : List α) (unique : UniqueKey key (x :: rest)) (k : κ)
    (hx : key x = some k) : ∀ y ∈ rest, key y ≠ some k := by
  intro y hy hkey
  unfold UniqueKey at unique
  rw [List.filterMap_cons_some hx, List.nodup_cons] at unique
  exact unique.1 (List.mem_filterMap.mpr ⟨y, hy, hkey⟩)

theorem unique_eq (key : α → Option κ) (rows : List α) (unique : UniqueKey key rows) (r r' : α) (k : κ)
    (hr : r ∈ rows) (hr' : r' ∈ rows) (hk : key r = some k) (hk' : key r' = some k) : r = r' := by
  induction rows with
  | nil => cases hr
  | cons x rest ih =>
      rcases List.mem_cons.mp hr with rfl | inRest
      · rcases List.mem_cons.mp hr' with rfl | inRest'
        · rfl
        · exact absurd hk' (unique_head_fresh key r rest unique k hk r' inRest')
      · rcases List.mem_cons.mp hr' with rfl | inRest'
        · exact absurd hk (unique_head_fresh key r' rest unique k hk' r inRest)
        · exact ih (unique_of_cons key x rest unique) inRest inRest'

theorem unique_cons (key : α → Option κ) (x : α) (rest : List α) (unique : UniqueKey key rest)
    (fresh : ∀ k, key x = some k → ∀ y ∈ rest, key y ≠ some k) : UniqueKey key (x :: rest) := by
  unfold UniqueKey at *
  cases hx : key x with
  | none => simpa [List.filterMap_cons_none hx] using unique
  | some k =>
      rw [List.filterMap_cons_some hx, List.nodup_cons]
      refine ⟨?_, unique⟩
      intro member
      obtain ⟨y, hy, same⟩ := List.mem_filterMap.mp member
      exact fresh k hx y hy same

theorem unique_updateWhere_fresh {ι : Type} [DecidableEq κ] (id : α → Option ι) (key : α → Option κ) (p : α → Bool)
    (f : α → α) (rows : List α) (ids : UniqueKey id rows) (unique : UniqueKey key rows) (old : α) (i : ι) (hold : old ∈ rows)
    (selects : ∀ r ∈ rows, p r = true ↔ id r = some i) (hid : id old = some i)
    (fresh : free key (f old) (rows.filter (fun r => !p r)) = true) : UniqueKey key (updateWhere p f rows) := by
  rw [free_iff] at fresh
  induction rows with
  | nil => cases hold
  | cons x rest ih =>
      have tailIds := unique_of_cons id x rest ids
      have tail := unique_of_cons key x rest unique
      rw [updateWhere_cons]
      by_cases hp : p x = true
      · have xid := (selects x (by simp)).mp hp
        have same : old = x := unique_eq id (x :: rest) ids old x i hold (by simp) hid xid
        subst same
        have others : ∀ r ∈ rest, p r = false := by
          intro r hr
          by_contra hpr
          have rid := (selects r (by simp [hr])).mp (by simpa using hpr)
          exact unique_head_fresh id old rest ids i xid r hr rid
        rw [if_pos hp, updateWhere_of_none p f rest others]
        refine unique_cons key (f old) rest tail ?_
        intro k hk y hy
        exact fresh y (by simp [hy, others y hy]) k hk
      · have inRest : old ∈ rest := by
          rcases List.mem_cons.mp hold with rfl | inRest
          · exact absurd ((selects old (by simp)).mpr hid) hp
          · exact inRest
        rw [if_neg hp]
        refine unique_cons key x _ (ih tailIds tail inRest (fun r hr => selects r (by simp [hr])) ?_) ?_
        · intro r hr k hk
          have := List.mem_filter.mp hr
          exact fresh r (by simp [this.1, this.2]) k hk
        · intro k hk y hy
          obtain ⟨r, hr, rfl⟩ := (mem_updateWhere p f rest y).mp hy
          by_cases hpr : p r = true
          · have same : old = r :=
              unique_eq id rest tailIds old r i inRest hr hid ((selects r (by simp [hr])).mp hpr)
            subst same
            rw [if_pos hpr]
            intro hkey
            exact fresh x (by simp [hp]) k hkey hk
          · rw [if_neg hpr]
            exact unique_head_fresh key x rest unique k hk r hr

theorem unique_count_le_one [DecidableEq κ] (key : α → Option κ) (rows : List α) (unique : UniqueKey key rows) (k : κ) :
    (rows.countP (fun r => decide (key r = some k))) ≤ 1 := by
  have counted : rows.countP (fun r => decide (key r = some k)) = (rows.filterMap key).count k := by
    clear unique
    induction rows with
    | nil => rfl
    | cons x rest ih =>
        cases hx : key x with
        | none => simp [List.filterMap_cons_none hx, hx, ih]
        | some k' =>
            rw [List.filterMap_cons_some hx, List.countP_cons, List.count_cons, ih]
            simp [hx]
  rw [counted]
  exact List.nodup_iff_count_le_one.mp unique k

theorem find_some (p : α → Bool) (rows : List α) (r : α) (found : rows.find? p = some r) : r ∈ rows ∧ p r = true :=
  ⟨List.mem_of_find?_eq_some found, List.find?_some found⟩

theorem find_none (p : α → Bool) (rows : List α) (none : rows.find? p = none) : ∀ r ∈ rows, p r = false := by
  intro r hr
  simpa using List.find?_eq_none.mp none r hr

theorem find_unique (key : α → Option κ) (p : α → Bool) (rows : List α) (unique : UniqueKey key rows) (r : α) (k : κ)
    (hr : r ∈ rows) (hp : p r = true) (hk : key r = some k) (only : ∀ x ∈ rows, p x = true → key x = some k) :
    rows.find? p = some r := by
  cases found : rows.find? p with
  | none =>
      have := find_none p rows found r hr
      simp [hp] at this
  | some x =>
      obtain ⟨hx, px⟩ := find_some p rows x found
      rw [unique_eq key rows unique x r k hx hr (only x hx px) hk]

theorem find_append_fresh (p : α → Bool) (rows : List α) (row : α) (none : ∀ r ∈ rows, p r = false) (hp : p row = true) :
    (rows ++ [row]).find? p = some row := by
  have nothing : rows.find? p = Option.none := List.find?_eq_none.mpr (fun r hr => by simp [none r hr])
  rw [List.find?_append, nothing]
  simp [hp]

theorem find_updateWhere (p q : α → Bool) (f : α → α) (rows : List α) (unseen : ∀ r, p r = true → q (f r) = q r) :
    (updateWhere p f rows).find? q = (rows.find? q).map (fun r => if p r then f r else r) := by
  unfold updateWhere
  rw [List.find?_map]
  congr 2
  funext r
  by_cases hp : p r = true
  · simp only [Function.comp_apply, if_pos hp, unseen r hp]
  · simp only [Function.comp_apply, if_neg hp]

theorem split_distinct (key : α → κ) (rows done rest : List α) (x : α) (distinct : (rows.map key).Nodup)
    (split : rows = done ++ x :: rest) : ∀ y ∈ done, key y ≠ key x := by
  intro y member same
  rw [split, List.map_append, List.nodup_append] at distinct
  exact distinct.2.2 (key y) (List.mem_map_of_mem member) (key x) (by simp) same

theorem forall₂_partner {β : Type} (R : α → β → Prop) (xs : List α) (ys : List β) (related : List.Forall₂ R xs ys) :
    ∀ x ∈ xs, ∃ y ∈ ys, R x y := by
  induction related with
  | nil => simp
  | @cons a b _ _ here _ ih =>
      intro x member
      rcases List.mem_cons.mp member with rfl | inRest
      · exact ⟨b, List.mem_cons_self, here⟩
      · obtain ⟨y, there, holds⟩ := ih x inRest
        exact ⟨y, List.mem_cons_of_mem _ there, holds⟩

section Live

variable (m n live : α → Bool) (f : α → α) (rows : List α)

def retire : List α :=
  updateWhere (fun r => m r && live r) f rows

theorem mem_retire (dead : ∀ r, live (f r) = false) (r : α) (alive : live r = true) :
    r ∈ retire m live f rows ↔ r ∈ rows ∧ m r = false := by
  unfold retire
  rw [mem_updateWhere]
  constructor
  · rintro ⟨x, member, rfl⟩
    by_cases selected : (m x && live x) = true
    · rw [if_pos selected, dead x] at alive
      cases alive
    · rw [if_neg selected] at alive ⊢
      refine ⟨member, ?_⟩
      simpa [alive] using selected
  · rintro ⟨member, unselected⟩
    exact ⟨r, member, by simp [unselected]⟩

theorem retire_retire (dead : ∀ r, live (f r) = false) :
    retire n live f (retire m live f rows) = retire (fun r => m r || n r) live f rows := by
  unfold retire updateWhere
  rw [List.map_map]
  apply List.map_congr_left
  intro r _
  cases hm : m r <;> cases hn : n r <;> cases hl : live r <;> simp [hm, hn, hl, dead]

theorem retire_congr (same : ∀ r ∈ rows, live r = true → m r = n r) : retire m live f rows = retire n live f rows := by
  refine updateWhere_congr _ _ _ _ rows (fun r member => ?_) (fun r _ _ => rfl)
  cases alive : live r with
  | false => simp
  | true => simp [same r member alive]

theorem retire_none (none : ∀ r ∈ rows, live r = true → m r = false) : retire m live f rows = rows := by
  refine updateWhere_of_none _ _ rows (fun r member => ?_)
  cases alive : live r with
  | false => simp
  | true => simp [none r member alive]

end Live

def Carried (R : α → α → Prop) (rows rows' : List α) : Prop :=
  ∀ r ∈ rows, ∃ r' ∈ rows', R r r'

theorem carried_refl (R : α → α → Prop) (refl : ∀ r, R r r) (rows : List α) : Carried R rows rows :=
  fun r hr => ⟨r, hr, refl r⟩

theorem carried_trans (R : α → α → Prop) (trans : ∀ a b c, R a b → R b c → R a c) (first second third : List α)
    (left : Carried R first second) (right : Carried R second third) : Carried R first third := by
  intro r hr
  obtain ⟨r', hr', one⟩ := left r hr
  obtain ⟨r'', hr'', two⟩ := right r' hr'
  exact ⟨r'', hr'', trans r r' r'' one two⟩

theorem carried_append (R : α → α → Prop) (refl : ∀ r, R r r) (rows more : List α) : Carried R rows (rows ++ more) :=
  fun r hr => ⟨r, List.mem_append_left more hr, refl r⟩

theorem carried_updateWhere (R : α → α → Prop) (refl : ∀ r, R r r) (p : α → Bool) (f : α → α) (rows : List α)
    (moves : ∀ r ∈ rows, p r = true → R r (f r)) : Carried R rows (updateWhere p f rows) := by
  intro r hr
  refine ⟨if p r then f r else r, (mem_updateWhere p f rows _).mpr ⟨r, hr, rfl⟩, ?_⟩
  by_cases hp : p r = true
  · rw [if_pos hp]
    exact moves r hr hp
  · rw [if_neg hp]
    exact refl r

end Rows

section Sums

variable {α κ : Type}

def total (g : α → Int) (rows : List α) : Int :=
  (rows.map g).sum

@[simp] theorem total_nil (g : α → Int) : total g [] = 0 := rfl

@[simp] theorem total_append_one (g : α → Int) (rows : List α) (r : α) : total g (rows ++ [r]) = total g rows + g r := by
  simp [total]

theorem total_cons (g : α → Int) (rows : List α) (r : α) : total g (r :: rows) = g r + total g rows := by
  simp [total]

theorem total_congr (g h : α → Int) (rows : List α) (same : ∀ r ∈ rows, g r = h r) : total g rows = total h rows := by
  unfold total
  rw [List.map_congr_left same]

theorem total_zero (g : α → Int) (rows : List α) (zero : ∀ r ∈ rows, g r = 0) : total g rows = 0 := by
  induction rows with
  | nil => rfl
  | cons x rest ih =>
      rw [total_cons, zero x (by simp), ih (fun r hr => zero r (by simp [hr]))]
      rfl

theorem total_nonneg (g : α → Int) (rows : List α) (nonneg : ∀ r ∈ rows, 0 ≤ g r) : 0 ≤ total g rows := by
  induction rows with
  | nil => exact le_refl 0
  | cons x rest ih =>
      rw [total_cons]
      have := nonneg x (by simp)
      have := ih (fun r hr => nonneg r (by simp [hr]))
      omega

theorem total_mono (g h : α → Int) (rows : List α) (below : ∀ r ∈ rows, g r ≤ h r) : total g rows ≤ total h rows := by
  induction rows with
  | nil => exact Int.le_refl _
  | cons x rest ih =>
      rw [total_cons, total_cons]
      have head := below x (by simp)
      have tail := ih (fun r hr => below r (by simp [hr]))
      omega

theorem part_le_total (g : α → Int) (rows : List α) (nonneg : ∀ r ∈ rows, 0 ≤ g r) (r : α) (hr : r ∈ rows) :
    g r ≤ total g rows := by
  induction rows with
  | nil => cases hr
  | cons x rest ih =>
      rw [total_cons]
      have headNonneg := nonneg x (by simp)
      have restNonneg := total_nonneg g rest (fun y hy => nonneg y (by simp [hy]))
      rcases List.mem_cons.mp hr with rfl | inRest
      · omega
      · have := ih (fun y hy => nonneg y (by simp [hy])) inRest
        omega

theorem total_updateWhere (g : α → Int) (p : α → Bool) (f : α → α) (rows : List α) :
    total g (updateWhere p f rows) = total g rows + total (fun r => if p r then g (f r) - g r else 0) rows := by
  induction rows with
  | nil => rfl
  | cons x rest ih =>
      have step : updateWhere p f (x :: rest) = (if p x then f x else x) :: updateWhere p f rest := rfl
      rw [step, total_cons, ih, total_cons, total_cons]
      split <;> ring

theorem total_filter (g : α → Int) (p : α → Bool) (rows : List α) :
    total g (rows.filter p) = total (fun r => if p r then g r else 0) rows := by
  induction rows with
  | nil => rfl
  | cons x rest ih =>
      rw [total_cons, ← ih]
      cases selected : p x with
      | true => simp [selected, total_cons]
      | false => simp [selected]

theorem total_updateWhere_one (g : α → Int) (key : α → Option κ) (p : α → Bool) (f : α → α) (rows : List α)
    (unique : UniqueKey key rows) (row : α) (k : κ) (hrow : row ∈ rows) (hp : p row = true) (hk : key row = some k)
    (only : ∀ r ∈ rows, p r = true → key r = some k) :
    total g (updateWhere p f rows) = total g rows + (g (f row) - g row) := by
  rw [total_updateWhere]
  congr 1
  induction rows with
  | nil => cases hrow
  | cons x rest ih =>
      have tail := unique_of_cons key x rest unique
      rw [total_cons]
      rcases List.mem_cons.mp hrow with rfl | inRest
      · have others : total (fun r => if p r then g (f r) - g r else 0) rest = 0 := by
          apply total_zero
          intro r hr
          by_cases hpr : p r = true
          · exact absurd (only r (by simp [hr]) hpr) (unique_head_fresh key row rest unique k hk r hr)
          · simp [hpr]
        rw [others]
        simp [hp]
      · have headOut : p x = false := by
          by_contra hx
          have hx : p x = true := by simpa using hx
          exact unique_head_fresh key x rest unique k (only x (by simp) hx) row inRest hk
        rw [ih tail inRest (fun r hr => only r (by simp [hr]))]
        simp [headOut]

theorem countP_total (p : α → Bool) (rows : List α) : (rows.countP p : Int) = total (fun r => if p r then 1 else 0) rows := by
  induction rows with
  | nil => rfl
  | cons x rest ih =>
      rw [total_cons, ← ih, List.countP_cons]
      cases p x with
      | true => simp [Int.add_comm]
      | false => simp

theorem countP_updateWhere_one (p : α → Bool) (key : α → Option κ) (q : α → Bool) (f : α → α) (rows : List α)
    (unique : UniqueKey key rows) (row : α) (k : κ) (hrow : row ∈ rows) (hq : q row = true) (hk : key row = some k)
    (only : ∀ r ∈ rows, q r = true → key r = some k) :
    ((updateWhere q f rows).countP p : Int) =
      rows.countP p + ((if p (f row) then 1 else 0) - (if p row then 1 else 0)) := by
  rw [countP_total, countP_total, total_updateWhere_one _ key q f rows unique row k hrow hq hk only]

end Sums

end EduAi.Store
