import Mathlib.Data.List.Nodup

set_option autoImplicit false

namespace EduAi.Store

section OneTime

variable {ρ : Type}

structure OneTimeEntry (ρ : Type) where
  value : String
  expiresAt : Int
  record : ρ
deriving DecidableEq, Repr

-- A keyed store whose entries are taken out by reading them, the values ever drawn for it, and those that have been taken.
structure OneTime (ρ : Type) where
  entries : List (OneTimeEntry ρ)
  drawn : List String
  taken : List String
deriving DecidableEq, Repr

def OneTime.empty : OneTime ρ where
  entries := []
  drawn := []
  taken := []

variable (s : OneTime ρ)

def OneTime.set (value : String) (expiresAt : Int) (record : ρ) : OneTime ρ :=
  if value ∈ s.drawn then s
  else
    { s with
      entries := s.entries ++ [{ value, expiresAt, record }]
      drawn := s.drawn ++ [value] }

def OneTime.find (value : String) : Option (OneTimeEntry ρ) :=
  s.entries.find? (fun e => e.value = value)

def OneTime.remove (value : String) : OneTime ρ :=
  { s with entries := s.entries.filter (fun e => e.value ≠ value) }

def OneTime.live (now : Int) (value : String) : Option ρ :=
  ((s.find value).filter (fun e => now < e.expiresAt)).map (fun e => e.record)

def OneTime.consume (now : Int) (value : String) : OneTime ρ :=
  match s.live now value with
  | some _ => { s.remove value with taken := s.taken ++ [value] }
  | none => s.remove value

structure OneTime.Sound : Prop where
  covered : ∀ e ∈ s.entries, e.value ∈ s.drawn
  known : ∀ value ∈ s.taken, value ∈ s.drawn
  gone : ∀ e ∈ s.entries, e.value ∉ s.taken
  once : s.taken.Nodup

theorem oneTime_empty : (OneTime.empty : OneTime ρ).Sound where
  covered := fun _ member => (by cases member)
  known := fun _ member => (by cases member)
  gone := fun _ member => (by cases member)
  once := List.nodup_nil

theorem live_entry (now : Int) (value : String) (record : ρ) (live : s.live now value = some record) :
    ∃ e ∈ s.entries, e.value = value ∧ e.record = record := by
  obtain ⟨e, kept, rfl⟩ := Option.map_eq_some_iff.mp live
  have found : s.entries.find? (fun e => decide (e.value = value)) = some e := (Option.filter_eq_some_iff.mp kept).1
  have named := List.find?_some found
  exact ⟨e, List.mem_of_find?_eq_some found, of_decide_eq_true named, rfl⟩

theorem mem_set (value : String) (expiresAt : Int) (record : ρ) (e : OneTimeEntry ρ) (member : e ∈ (s.set value expiresAt record).entries) :
    e ∈ s.entries ∨ e.record = record := by
  unfold OneTime.set at member
  split at member
  case isTrue => exact .inl member
  case isFalse =>
    rcases List.mem_append.mp member with old | new
    · exact .inl old
    · rw [List.mem_singleton.mp new]
      exact .inr rfl

theorem mem_consume (now : Int) (value : String) (e : OneTimeEntry ρ) (member : e ∈ (s.consume now value).entries) : e ∈ s.entries := by
  unfold OneTime.consume at member
  split at member
  · exact (List.mem_filter.mp member).1
  · exact (List.mem_filter.mp member).1

section Sound

variable (sound : s.Sound)

include sound

theorem oneTime_set (value : String) (expiresAt : Int) (record : ρ) : (s.set value expiresAt record).Sound := by
  unfold OneTime.set
  by_cases known : value ∈ s.drawn
  · rw [if_pos known]
    exact sound
  · rw [if_neg known]
    refine ⟨?covered, fun v taken => List.mem_append_left _ (sound.known v taken), ?gone, sound.once⟩
    case covered =>
      intro e member
      rcases List.mem_append.mp member with old | new
      · exact List.mem_append_left _ (sound.covered e old)
      · rw [List.mem_singleton.mp new]
        exact List.mem_append_right _ (List.mem_singleton.mpr rfl)
    case gone =>
      intro e member taken
      rcases List.mem_append.mp member with old | new
      · exact sound.gone e old taken
      · rw [List.mem_singleton.mp new] at taken
        exact known (sound.known value taken)

theorem oneTime_remove (value : String) : (s.remove value).Sound where
  covered := fun e member => sound.covered e (List.mem_filter.mp member).1
  known := sound.known
  gone := fun e member => sound.gone e (List.mem_filter.mp member).1
  once := sound.once

theorem oneTime_consume (now : Int) (value : String) : (s.consume now value).Sound := by
  have left := oneTime_remove s sound value
  unfold OneTime.consume
  split
  case h_1 record live =>
    obtain ⟨e, member, named, _⟩ := live_entry s now value record live
    refine ⟨left.covered, ?known, ?gone, ?once⟩
    case known =>
      intro v taken
      rcases List.mem_append.mp taken with old | new
      · exact sound.known v old
      · rw [List.mem_singleton.mp new, ← named]
        exact sound.covered e member
    case gone =>
      intro x kept taken
      obtain ⟨listed, other⟩ := List.mem_filter.mp kept
      rcases List.mem_append.mp taken with old | new
      · exact sound.gone x listed old
      · exact of_decide_eq_true other (List.mem_singleton.mp new)
    case once =>
      refine List.nodup_append'.mpr ⟨sound.once, List.nodup_singleton value, ?_⟩
      intro v taken new
      rw [List.mem_singleton.mp new, ← named] at taken
      exact sound.gone e member taken
  case h_2 => exact left

end Sound

end OneTime

end EduAi.Store
