import EduAi.Store.Text
import Mathlib.Data.Nat.Digits.Lemmas

set_option autoImplicit false

namespace EduAi.Store

def isDigit (c : UInt16) : Bool :=
  decide (48 ≤ c.toNat ∧ c.toNat ≤ 57)

def digitUnit (d : Nat) : UInt16 :=
  UInt16.ofNat (48 + d)

def digitOf (c : UInt16) : Nat :=
  c.toNat - 48

def decimal (n : Nat) : Units :=
  if n = 0 then [digitUnit 0] else (Nat.digits 10 n).reverse.map digitUnit

def padded (width n : Nat) : Units :=
  (Nat.digitsAppend 10 width n).reverse.map digitUnit

def digitsValue (s : Units) : Nat :=
  Nat.ofDigits 10 (s.map digitOf).reverse

theorem digitUnit_toNat (d : Nat) (small : d < 10) : (digitUnit d).toNat = 48 + d := by
  rw [digitUnit, UInt16.toNat_ofNat', Nat.mod_eq_of_lt (by omega)]

theorem digitOf_unit (d : Nat) (small : d < 10) : digitOf (digitUnit d) = d := by
  rw [digitOf, digitUnit_toNat d small]
  omega

theorem digitUnit_of (c : UInt16) (digit : isDigit c = true) : digitUnit (digitOf c) = c := by
  have range := of_decide_eq_true digit
  have least : digitOf c < 10 := by
    unfold digitOf
    omega
  apply UInt16.toNat_inj.mp
  rw [digitUnit_toNat _ least]
  unfold digitOf
  omega

theorem isDigit_unit (d : Nat) (small : d < 10) : isDigit (digitUnit d) = true := by
  unfold isDigit
  rw [digitUnit_toNat d small]
  exact decide_eq_true (by omega)

theorem digitOf_lt (c : UInt16) (digit : isDigit c = true) : digitOf c < 10 := by
  have range := of_decide_eq_true digit
  unfold digitOf
  omega

theorem digitsValue_units (digits : List Nat) (small : ∀ d ∈ digits, d < 10) :
    digitsValue (digits.reverse.map digitUnit) = Nat.ofDigits 10 digits := by
  have back : (digits.map digitUnit).map digitOf = digits := by
    rw [List.map_map]
    refine (List.map_congr_left ?_).trans (List.map_id digits)
    intro d member
    exact digitOf_unit d (small d member)
  rw [digitsValue, List.map_reverse, List.map_reverse, List.reverse_reverse, back]

theorem units_digits (digits : List Nat) (small : ∀ d ∈ digits, d < 10) :
    ∀ c ∈ digits.reverse.map digitUnit, isDigit c = true := by
  intro c member
  obtain ⟨d, listed, rfl⟩ := List.mem_map.mp member
  exact isDigit_unit d (small d (List.mem_reverse.mp listed))

theorem digitsValue_decimal (n : Nat) : digitsValue (decimal n) = n := by
  rw [decimal]
  by_cases zero : n = 0
  · rw [if_pos zero, zero]
    rfl
  · rw [if_neg zero, digitsValue_units _ (fun d member => Nat.digits_lt_base (by omega) member), Nat.ofDigits_digits]

theorem decimal_injective (m n : Nat) (same : decimal m = decimal n) : m = n := by
  rw [← digitsValue_decimal m, same, digitsValue_decimal]

theorem decimal_digits (n : Nat) : ∀ c ∈ decimal n, isDigit c = true := by
  rw [decimal]
  by_cases zero : n = 0
  · rw [if_pos zero]
    intro c member
    rw [List.mem_singleton.mp member]
    rfl
  · rw [if_neg zero]
    exact units_digits _ (fun d member => Nat.digits_lt_base (by omega) member)

theorem decimal_length_pos (n : Nat) : 0 < (decimal n).length := by
  rw [decimal]
  by_cases zero : n = 0
  · rw [if_pos zero]
    exact Nat.one_pos
  · rw [if_neg zero, List.length_map, List.length_reverse]
    exact List.length_pos_of_ne_nil (Nat.digits_ne_nil_iff_ne_zero.mpr zero)

theorem decimal_length_le (n k : Nat) (small : n < 10 ^ k) (some : 0 < k) : (decimal n).length ≤ k := by
  rw [decimal]
  by_cases zero : n = 0
  · rw [if_pos zero]
    exact some
  · rw [if_neg zero, List.length_map, List.length_reverse]
    exact (Nat.digits_length_le_iff (by omega) n).mpr small

theorem padded_value (s : Units) (digits : ∀ c ∈ s, isDigit c = true) : padded s.length (digitsValue s) = s := by
  have inside : (s.map digitOf).reverse ∈ {L : List Nat | L.length = s.length ∧ ∀ x ∈ L, x < 10} := by
    refine ⟨by simp, ?_⟩
    intro d member
    obtain ⟨c, listed, rfl⟩ := List.mem_map.mp (List.mem_reverse.mp member)
    exact digitOf_lt c (digits c listed)
  have back := (Nat.setInvOn_digitsAppend_ofDigits (b := 10) (by omega) s.length).1 inside
  rw [padded, digitsValue, back, List.reverse_reverse, List.map_map]
  refine (List.map_congr_left ?_).trans (List.map_id s)
  intro c member
  exact digitUnit_of c (digits c member)

theorem decimal_value (c : UInt16) (rest : Units) (digits : ∀ x ∈ c :: rest, isDigit x = true) (leading : digitOf c ≠ 0) :
    decimal (digitsValue (c :: rest)) = c :: rest := by
  have below : ∀ d ∈ ((c :: rest).map digitOf).reverse, d < 10 := by
    intro d member
    obtain ⟨x, listed, rfl⟩ := List.mem_map.mp (List.mem_reverse.mp member)
    exact digitOf_lt x (digits x listed)
  have back : Nat.digits 10 (digitsValue (c :: rest)) = ((c :: rest).map digitOf).reverse := by
    refine Nat.digits_ofDigits 10 (by omega) _ below (fun _ => ?_)
    simpa using leading
  have positive : digitsValue (c :: rest) ≠ 0 := by
    intro zero
    rw [zero, Nat.digits_zero] at back
    simp at back
  rw [decimal, if_neg positive, back, List.reverse_reverse, List.map_map]
  refine (List.map_congr_left ?_).trans (List.map_id _)
  intro x member
  exact digitUnit_of x (digits x member)

theorem digitsValue_lt (s : Units) (digits : ∀ c ∈ s, isDigit c = true) : digitsValue s < 10 ^ s.length := by
  have bound := Nat.ofDigits_lt_base_pow_length (b := 10) (l := (s.map digitOf).reverse) (by omega) (by
    intro d member
    obtain ⟨c, listed, rfl⟩ := List.mem_map.mp (List.mem_reverse.mp member)
    exact digitOf_lt c (digits c listed))
  rw [List.length_reverse, List.length_map] at bound
  exact bound

-- String.prototype.padStart with the digit zero.
def padStart (width : Nat) (s : Units) : Units :=
  List.replicate (width - s.length) (digitUnit 0) ++ s

theorem padStart_length (width : Nat) (s : Units) (fits : s.length ≤ width) : (padStart width s).length = width := by
  rw [padStart, List.length_append, List.length_replicate]
  omega

theorem padStart_digits (width : Nat) (s : Units) (digits : ∀ c ∈ s, isDigit c = true) :
    ∀ c ∈ padStart width s, isDigit c = true := by
  intro c member
  rcases List.mem_append.mp member with zero | inText
  · rw [List.eq_of_mem_replicate zero]
    rfl
  · exact digits c inText

theorem digitsValue_padStart (width : Nat) (s : Units) : digitsValue (padStart width s) = digitsValue s := by
  rw [digitsValue, padStart, List.map_append, List.reverse_append, List.map_replicate, List.reverse_replicate,
    digitOf_unit 0 (by omega), Nat.ofDigits_append_replicate_zero, digitsValue]

end EduAi.Store
