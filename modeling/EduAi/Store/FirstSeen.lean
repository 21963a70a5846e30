import Mathlib.Data.List.Perm.Subperm
import Mathlib.Data.List.Nodup
import Mathlib.Tactic.Common

set_option autoImplicit false

namespace EduAi.Store

-- A stream in which only the first element of each key is kept, the latest one in front.
section FirstSeen

variable {α κ : Type} (key : α → κ)

structure Chosen (chosen xs : List α) : Prop where
  mem : ∀ x ∈ chosen, x ∈ xs
  distinct : (chosen.map key).Nodup
  covers : ∀ x ∈ xs, key x ∈ chosen.map key

theorem chosen_perm (chosen xs ys : List α) (perm : xs.Perm ys) (choice : Chosen key chosen xs) : Chosen key chosen ys where
  mem x member := perm.mem_iff.mp (choice.mem x member)
  distinct := choice.distinct
  covers x member := choice.covers x (perm.mem_iff.mpr member)

theorem chosen_unique (chosen chosen' xs : List α) (choice : Chosen key chosen xs) (choice' : Chosen key chosen' xs)
    (single : ∀ x ∈ xs, ∀ y ∈ xs, key x = key y → x = y) : chosen.Perm chosen' := by
  have within (c c' : List α) (h : Chosen key c xs) (h' : Chosen key c' xs) : ∀ x ∈ c, x ∈ c' := by
    intro x member
    obtain ⟨y, hy, same⟩ := List.mem_map.mp (h'.covers x (h.mem x member))
    obtain rfl := single y (h'.mem y hy) x (h.mem x member) same
    exact hy
  exact (List.perm_ext_iff_of_nodup (List.Nodup.of_map key choice.distinct) (List.Nodup.of_map key choice'.distinct)).mpr
    (fun x => ⟨within chosen chosen' choice choice' x, within chosen' chosen choice' choice x⟩)

variable [DecidableEq κ]

def firsts (seen : List α) : List α → List α
  | [] => seen
  | x :: rest => if key x ∈ seen.map key then firsts seen rest else firsts (x :: seen) rest

theorem firsts_old (seen rest : List α) (x : α) (old : key x ∈ seen.map key) : firsts key seen (x :: rest) = firsts key seen rest :=
  if_pos old

theorem firsts_new (seen rest : List α) (x : α) (new : key x ∉ seen.map key) :
    firsts key seen (x :: rest) = firsts key (x :: seen) rest :=
  if_neg new

theorem firsts_suffix (seen xs : List α) : ∃ new, firsts key seen xs = new ++ seen := by
  induction xs generalizing seen with
  | nil => exact ⟨[], rfl⟩
  | cons x rest ih =>
      by_cases old : key x ∈ seen.map key
      · rw [firsts_old key seen rest x old]
        exact ih seen
      · rw [firsts_new key seen rest x old]
        obtain ⟨new, same⟩ := ih (x :: seen)
        exact ⟨new ++ [x], by rw [same, List.append_assoc, List.singleton_append]⟩

theorem firsts_mem (seen xs : List α) (y : α) (member : y ∈ firsts key seen xs) : y ∈ seen ∨ y ∈ xs := by
  induction xs generalizing seen with
  | nil => exact .inl member
  | cons x rest ih =>
      by_cases old : key x ∈ seen.map key
      · rw [firsts_old key seen rest x old] at member
        rcases ih seen member with before | later
        · exact .inl before
        · exact .inr (List.mem_cons_of_mem x later)
      · rw [firsts_new key seen rest x old] at member
        rcases ih (x :: seen) member with before | later
        · rcases List.mem_cons.mp before with here | before
          · subst here
            exact .inr List.mem_cons_self
          · exact .inl before
        · exact .inr (List.mem_cons_of_mem x later)

theorem firsts_distinct (seen xs : List α) (distinct : (seen.map key).Nodup) : ((firsts key seen xs).map key).Nodup := by
  induction xs generalizing seen with
  | nil => exact distinct
  | cons x rest ih =>
      by_cases old : key x ∈ seen.map key
      · rw [firsts_old key seen rest x old]
        exact ih seen distinct
      · rw [firsts_new key seen rest x old]
        exact ih (x :: seen) (List.nodup_cons.mpr ⟨old, distinct⟩)

theorem firsts_keeps (seen xs : List α) (k : κ) (old : k ∈ seen.map key) : k ∈ (firsts key seen xs).map key := by
  obtain ⟨new, same⟩ := firsts_suffix key seen xs
  rw [same, List.map_append]
  exact List.mem_append_right _ old

theorem firsts_covers (seen xs : List α) : ∀ x ∈ xs, key x ∈ (firsts key seen xs).map key := by
  induction xs generalizing seen with
  | nil =>
      intro x member
      cases member
  | cons y rest ih =>
      intro x member
      by_cases old : key y ∈ seen.map key
      · rw [firsts_old key seen rest y old]
        rcases List.mem_cons.mp member with here | later
        · subst here
          exact firsts_keeps key seen rest (key x) old
        · exact ih seen x later
      · rw [firsts_new key seen rest y old]
        rcases List.mem_cons.mp member with here | later
        · subst here
          exact firsts_keeps key (x :: seen) rest (key x) List.mem_cons_self
        · exact ih (y :: seen) x later

theorem firsts_chosen (xs : List α) : Chosen key (firsts key [] xs) xs where
  mem x member := by
    rcases firsts_mem key [] xs x member with none | found
    · cases none
    · exact found
  distinct := firsts_distinct key [] xs List.nodup_nil
  covers := firsts_covers key [] xs

theorem firsts_append (seen xs ys : List α) : firsts key seen (xs ++ ys) = firsts key (firsts key seen xs) ys := by
  induction xs generalizing seen with
  | nil => rfl
  | cons x rest ih =>
      rw [List.cons_append]
      by_cases old : key x ∈ seen.map key
      · rw [firsts_old key seen _ x old, firsts_old key seen _ x old, ih]
      · rw [firsts_new key seen _ x old, firsts_new key seen _ x old, ih]

theorem firsts_covered (seen xs : List α) (covered : ∀ x ∈ xs, key x ∈ seen.map key) : firsts key seen xs = seen := by
  induction xs with
  | nil => rfl
  | cons x rest ih =>
      rw [firsts_old key seen rest x (covered x List.mem_cons_self)]
      exact ih (fun y member => covered y (List.mem_cons_of_mem x member))

theorem firsts_of_distinct (seen xs : List α) (distinct : ((xs.reverse ++ seen).map key).Nodup) :
    firsts key seen xs = xs.reverse ++ seen := by
  induction xs generalizing seen with
  | nil => rfl
  | cons x rest ih =>
      rw [List.reverse_cons, List.append_assoc, List.singleton_append] at distinct ⊢
      have new : key x ∉ seen.map key := by
        rw [List.map_append, List.map_cons] at distinct
        exact (List.nodup_cons.mp (List.nodup_append.mp distinct).2.1).1
      rw [firsts_new key seen rest x new]
      exact ih (x :: seen) distinct

theorem chosen_first (chosen xs : List α) (choice : Chosen key chosen xs) :
    ∃ ys, ys.Perm xs ∧ firsts key [] ys = chosen.reverse := by
  have inside : chosen.Subperm xs := (List.Nodup.of_map key choice.distinct).subperm choice.mem
  obtain ⟨sub, same, sublist⟩ := inside
  obtain ⟨rest, whole⟩ := sublist.exists_perm_append
  have whole : xs.Perm (chosen ++ rest) := whole.trans (same.append_right rest)
  refine ⟨chosen ++ rest, whole.symm, ?_⟩
  have first : firsts key [] chosen = chosen.reverse := by
    have all := firsts_of_distinct key [] chosen (by
      rw [List.append_nil, List.map_reverse, List.nodup_reverse]
      exact choice.distinct)
    rwa [List.append_nil] at all
  rw [firsts_append, first]
  refine firsts_covered key _ rest (fun x member => ?_)
  rw [List.map_reverse, List.mem_reverse]
  exact choice.covers x (whole.mem_iff.mpr (List.mem_append_right _ member))

end FirstSeen

end EduAi.Store
