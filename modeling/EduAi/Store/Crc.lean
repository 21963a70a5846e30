import Mathlib.Algebra.Polynomial.Div
import Mathlib.Algebra.Field.ZMod
import Mathlib.Tactic.Ring

set_option autoImplicit false

namespace EduAi.Store

open Polynomial

section Registers

variable {w : Nat}

def crcBit (poly r : BitVec w) : BitVec w :=
  if r.getLsbD (w - 1) then (r <<< 1) ^^^ poly else r <<< 1

def crcBits (poly : BitVec w) : Nat → BitVec w → BitVec w
  | 0, r => r
  | n + 1, r => crcBit poly (crcBits poly n r)

def crcByte (poly r : BitVec w) (byte : BitVec 8) : BitVec w :=
  crcBits poly 8 (r ^^^ (byte.zeroExtend w <<< (w - 8)))

def crc (poly init : BitVec w) (bytes : List (BitVec 8)) : BitVec w :=
  bytes.foldl (crcByte poly) init

-- The bits as the coefficients of a polynomial over the field of two elements.
noncomputable def bitPoly (b : BitVec w) : Polynomial (ZMod 2) :=
  ∑ i ∈ Finset.range w, if b.getLsbD i then X ^ i else 0

noncomputable def messagePoly (bytes : List (BitVec 8)) : Polynomial (ZMod 2) :=
  bytes.foldl (fun p byte => p * X ^ 8 + bitPoly byte) 0

noncomputable def generator (poly : BitVec w) : Polynomial (ZMod 2) :=
  X ^ w + bitPoly poly

theorem bitPoly_coeff (b : BitVec w) (n : Nat) : (bitPoly b).coeff n = if b.getLsbD n then 1 else 0 := by
  rw [bitPoly, finsetSum_coeff]
  have each (i : Nat) : (if b.getLsbD i then (X : Polynomial (ZMod 2)) ^ i else 0).coeff n =
      if i = n then (if b.getLsbD n then 1 else 0) else 0 := by
    by_cases same : i = n
    · subst same
      by_cases set : b.getLsbD i <;> simp [set]
    · by_cases set : b.getLsbD i
      · simp [set, same, coeff_X_pow, Ne.symm same]
      · simp [set, same]
  rw [Finset.sum_congr rfl (fun i _ => each i), Finset.sum_ite_eq']
  by_cases inside : n < w
  · rw [if_pos (Finset.mem_range.mpr inside)]
  · rw [if_neg (fun member => inside (Finset.mem_range.mp member)), BitVec.getLsbD_of_ge b n (by omega)]
    rfl

theorem bitPoly_degree (b : BitVec w) : (bitPoly b).degree < w := by
  rw [degree_lt_iff_coeff_zero]
  intro n outside
  rw [bitPoly_coeff, BitVec.getLsbD_of_ge b n outside]
  rfl

theorem bitPoly_xor (a b : BitVec w) : bitPoly (a ^^^ b) = bitPoly a + bitPoly b := by
  ext n
  rw [coeff_add, bitPoly_coeff, bitPoly_coeff, bitPoly_coeff, BitVec.getLsbD_xor]
  cases a.getLsbD n <;> cases b.getLsbD n <;> decide

theorem generator_monic (poly : BitVec w) : (generator poly).Monic :=
  monic_X_pow_add (bitPoly_degree poly)

theorem generator_degree (poly : BitVec w) : (generator poly).degree = w := by
  rw [generator, degree_add_eq_left_of_degree_lt (by rw [degree_X_pow]; exact bitPoly_degree poly), degree_X_pow]

theorem bitPoly_shift (some : 0 < w) (r : BitVec w) :
    bitPoly (r <<< 1) = X * bitPoly r + if r.getLsbD (w - 1) then X ^ w else 0 := by
  ext n
  rw [coeff_add, bitPoly_coeff, BitVec.getLsbD_shiftLeft]
  cases n with
  | zero =>
      have top : ((if r.getLsbD (w - 1) then (X : Polynomial (ZMod 2)) ^ w else 0)).coeff 0 = 0 := by
        by_cases set : r.getLsbD (w - 1)
        · rw [if_pos set, coeff_X_pow, if_neg (by omega)]
        · rw [if_neg set, coeff_zero]
      rw [coeff_X_mul_zero, top]
      simp
  | succ n =>
      rw [coeff_X_mul, bitPoly_coeff, Nat.add_sub_cancel]
      by_cases last : n + 1 = w
      · have here : w - 1 = n := by omega
        rw [here]
        by_cases set : r.getLsbD n
        · rw [if_pos set, if_pos set, coeff_X_pow, if_pos last, if_neg (by simp [last])]
          decide
        · rw [if_neg set, if_neg set, coeff_zero, if_neg (by simp [set]), add_zero]
      · have top : ((if r.getLsbD (w - 1) then (X : Polynomial (ZMod 2)) ^ w else 0)).coeff (n + 1) = 0 := by
          by_cases set : r.getLsbD (w - 1)
          · rw [if_pos set, coeff_X_pow, if_neg last]
          · rw [if_neg set, coeff_zero]
        rw [top, add_zero]
        by_cases inside : n + 1 < w
        · simp [inside]
        · rw [BitVec.getLsbD_of_ge r n (by omega)]
          simp

theorem crcBit_poly (some : 0 < w) (poly r : BitVec w) : bitPoly (crcBit poly r) =
    X * bitPoly r + if r.getLsbD (w - 1) then generator poly else 0 := by
  have shifted := bitPoly_shift some r
  rw [crcBit]
  by_cases set : r.getLsbD (w - 1)
  · rw [if_pos set] at shifted
    rw [if_pos set, if_pos set, bitPoly_xor, shifted, generator]
    ring
  · rw [if_neg set] at shifted
    rw [if_neg set, if_neg set, shifted]

theorem crcBits_poly (some : 0 < w) (poly r : BitVec w) (n : Nat) :
    generator poly ∣ bitPoly (crcBits poly n r) - X ^ n * bitPoly r := by
  induction n with
  | zero => simp [crcBits]
  | succ n ih =>
      have split : bitPoly (crcBits poly (n + 1) r) - X ^ (n + 1) * bitPoly r =
          X * (bitPoly (crcBits poly n r) - X ^ n * bitPoly r) +
            if (crcBits poly n r).getLsbD (w - 1) then generator poly else 0 := by
        rw [crcBits, crcBit_poly some]
        ring
      rw [split]
      refine dvd_add (Dvd.dvd.mul_left ih X) ?_
      by_cases set : (crcBits poly n r).getLsbD (w - 1)
      · rw [if_pos set]
      · rw [if_neg set]
        exact dvd_zero _

theorem bitPoly_byte (wide : 8 ≤ w) (byte : BitVec 8) :
    bitPoly (byte.zeroExtend w <<< (w - 8)) = X ^ (w - 8) * bitPoly byte := by
  ext n
  rw [coeff_X_pow_mul', bitPoly_coeff, bitPoly_coeff, BitVec.getLsbD_shiftLeft, BitVec.getLsbD_setWidth]
  by_cases high : w - 8 ≤ n
  · rw [if_pos high]
    by_cases inside : n < w
    · have small : n - (w - 8) < w := by omega
      simp [inside, small, Nat.not_lt.mpr high]
    · rw [BitVec.getLsbD_of_ge byte (n - (w - 8)) (by omega)]
      simp
  · simp [high, Nat.lt_of_not_le high]

theorem crcByte_poly (wide : 8 ≤ w) (poly r : BitVec w) (byte : BitVec 8) :
    generator poly ∣ bitPoly (crcByte poly r byte) - (X ^ 8 * bitPoly r + X ^ w * bitPoly byte) := by
  have eight := crcBits_poly (by omega) poly (r ^^^ (byte.zeroExtend w <<< (w - 8))) 8
  have power : (X : Polynomial (ZMod 2)) ^ w = X ^ 8 * X ^ (w - 8) := by
    rw [← pow_add]
    congr 1
    omega
  rw [bitPoly_xor, bitPoly_byte wide, mul_add, ← mul_assoc, ← power] at eight
  exact eight

theorem messagePoly_append (bytes : List (BitVec 8)) (byte : BitVec 8) :
    messagePoly (bytes ++ [byte]) = messagePoly bytes * X ^ 8 + bitPoly byte := by
  rw [messagePoly, List.foldl_append, List.foldl_cons, List.foldl_nil, messagePoly]

theorem crc_congruent (wide : 8 ≤ w) (poly init : BitVec w) (bytes : List (BitVec 8)) : generator poly ∣
    bitPoly (crc poly init bytes) - (X ^ (8 * bytes.length) * bitPoly init + X ^ w * messagePoly bytes) := by
  induction bytes using List.reverseRecOn with
  | nil => simp [crc, messagePoly]
  | append_singleton bytes byte ih =>
      have last := crcByte_poly wide poly (crc poly init bytes) byte
      have split : bitPoly (crc poly init (bytes ++ [byte])) -
          (X ^ (8 * (bytes ++ [byte]).length) * bitPoly init + X ^ w * messagePoly (bytes ++ [byte])) =
          (bitPoly (crcByte poly (crc poly init bytes) byte) -
            (X ^ 8 * bitPoly (crc poly init bytes) + X ^ w * bitPoly byte)) +
          X ^ 8 * (bitPoly (crc poly init bytes) -
            (X ^ (8 * bytes.length) * bitPoly init + X ^ w * messagePoly bytes)) := by
        rw [messagePoly_append, List.length_append, List.length_singleton, Nat.mul_add, pow_add, crc, List.foldl_append,
          List.foldl_cons, List.foldl_nil, ← crc]
        ring
      rw [split]
      exact dvd_add last (Dvd.dvd.mul_left ih _)

theorem crc_remainder (wide : 8 ≤ w) (poly init : BitVec w) (bytes : List (BitVec 8)) : bitPoly (crc poly init bytes) =
    (X ^ (8 * bytes.length) * bitPoly init + X ^ w * messagePoly bytes) %ₘ generator poly := by
  have monic := generator_monic poly
  have reduced : bitPoly (crc poly init bytes) %ₘ generator poly = bitPoly (crc poly init bytes) := by
    rw [modByMonic_eq_self_iff monic, generator_degree]
    exact bitPoly_degree _
  obtain ⟨quotient, same⟩ := crc_congruent wide poly init bytes
  rw [← reduced]
  have whole : bitPoly (crc poly init bytes) =
      (X ^ (8 * bytes.length) * bitPoly init + X ^ w * messagePoly bytes) + generator poly * quotient := by
    rw [← same]
    ring
  rw [whole, add_modByMonic, (modByMonic_eq_zero_iff_dvd monic).mpr (dvd_mul_right _ _), add_zero]

end Registers

end EduAi.Store
