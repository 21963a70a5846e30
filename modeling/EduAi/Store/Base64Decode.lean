import EduAi.Store.Base64Url
import Mathlib.Tactic.Common

set_option autoImplicit false

namespace EduAi.Store

-- The characters of \w and the hyphen.
def isWordByte (c : UInt8) : Bool :=
  decide (65 ≤ c.toNat ∧ c.toNat ≤ 90) || decide (97 ≤ c.toNat ∧ c.toNat ≤ 122) || decide (48 ≤ c.toNat ∧ c.toNat ≤ 57) ||
    c == 95 || c == 45

def sextetValue (c : UInt8) : Nat :=
  if 97 ≤ c.toNat then c.toNat - 71
  else if c = 95 then 63
  else if 65 ≤ c.toNat then c.toNat - 65
  else if c = 45 then 62
  else c.toNat + 4

-- Buffer.from(text, 'base64url') of word characters; a character left over at the end is dropped.
def fromBase64url : Bytes → Bytes
  | a :: b :: c :: d :: rest =>
      let n := ((sextetValue a * 64 + sextetValue b) * 64 + sextetValue c) * 64 + sextetValue d
      UInt8.ofNat (n / 65536) :: UInt8.ofNat (n / 256 % 256) :: UInt8.ofNat (n % 256) :: fromBase64url rest
  | [a, b, c] =>
      let n := (sextetValue a * 64 + sextetValue b) * 64 + sextetValue c
      [UInt8.ofNat (n / 1024), UInt8.ofNat (n / 4 % 256)]
  | [a, b] => [UInt8.ofNat ((sextetValue a * 64 + sextetValue b) / 16)]
  | _ => []

theorem sextet_read : ∀ n < 64, sextetValue (sextet n) = n ∧ isWordByte (sextet n) = true := by
  decide

theorem ofNat_byte (b : UInt8) (n : Nat) (same : n = b.toNat) : UInt8.ofNat n = b := by
  rw [same, UInt8.ofNat_toNat]

theorem base64url_three (a b c : UInt8) (rest : Bytes) : ∃ n < 16777216, n = a.toNat * 65536 + b.toNat * 256 + c.toNat ∧
    base64url (a :: b :: c :: rest) =
      sextet (n / 262144) :: sextet (n / 4096 % 64) :: sextet (n / 64 % 64) :: sextet (n % 64) :: base64url rest := by
  have boundA : a.toNat < 256 := a.toNat_lt
  have boundB : b.toNat < 256 := b.toNat_lt
  have boundC : c.toNat < 256 := c.toNat_lt
  exact ⟨_, by omega, rfl, rfl⟩

theorem base64url_two (a b : UInt8) : ∃ n < 262144, n = a.toNat * 1024 + b.toNat * 4 ∧
    base64url [a, b] = [sextet (n / 4096), sextet (n / 64 % 64), sextet (n % 64)] := by
  have boundA : a.toNat < 256 := a.toNat_lt
  have boundB : b.toNat < 256 := b.toNat_lt
  exact ⟨_, by omega, rfl, rfl⟩

theorem base64url_one (a : UInt8) : ∃ n < 4096, n = a.toNat * 16 ∧ base64url [a] = [sextet (n / 64), sextet (n % 64)] := by
  have boundA : a.toNat < 256 := a.toNat_lt
  exact ⟨_, by omega, rfl, rfl⟩

theorem fromBase64url_base64url (x : Bytes) : fromBase64url (base64url x) = x := by
  induction x using base64url.induct with
  | case1 a b c rest ih =>
      obtain ⟨n, bound, size, shape⟩ := base64url_three a b c rest
      have boundB : b.toNat < 256 := b.toNat_lt
      have boundC : c.toNat < 256 := c.toNat_lt
      have value : ((n / 262144 * 64 + n / 4096 % 64) * 64 + n / 64 % 64) * 64 + n % 64 = n := by omega
      rw [shape, fromBase64url, (sextet_read _ (by omega)).1, (sextet_read _ (by omega)).1, (sextet_read _ (by omega)).1,
        (sextet_read _ (by omega)).1, value, ih, ofNat_byte a _ (by omega), ofNat_byte b _ (by omega), ofNat_byte c _ (by omega)]
  | case2 a b =>
      obtain ⟨n, bound, size, shape⟩ := base64url_two a b
      have boundB : b.toNat < 256 := b.toNat_lt
      have value : (n / 4096 * 64 + n / 64 % 64) * 64 + n % 64 = n := by omega
      rw [shape, fromBase64url, (sextet_read _ (by omega)).1, (sextet_read _ (by omega)).1, (sextet_read _ (by omega)).1, value,
        ofNat_byte a _ (by omega), ofNat_byte b _ (by omega)]
  | case3 a =>
      obtain ⟨n, bound, size, shape⟩ := base64url_one a
      rw [shape, fromBase64url, (sextet_read _ (by omega)).1, (sextet_read _ (by omega)).1, ofNat_byte a _ (by omega)]
  | case4 => rfl

theorem base64url_word (x : Bytes) : ∀ c ∈ base64url x, isWordByte c = true := by
  induction x using base64url.induct with
  | case1 a b c rest ih =>
      obtain ⟨n, bound, size, shape⟩ := base64url_three a b c rest
      rw [shape]
      simp only [List.forall_mem_cons]
      exact ⟨(sextet_read _ (by omega)).2, (sextet_read _ (by omega)).2, (sextet_read _ (by omega)).2,
        (sextet_read _ (by omega)).2, ih⟩
  | case2 a b =>
      obtain ⟨n, bound, size, shape⟩ := base64url_two a b
      rw [shape]
      simp only [List.forall_mem_cons]
      exact ⟨(sextet_read _ (by omega)).2, (sextet_read _ (by omega)).2, (sextet_read _ (by omega)).2, by simp⟩
  | case3 a =>
      obtain ⟨n, bound, size, shape⟩ := base64url_one a
      rw [shape]
      simp only [List.forall_mem_cons]
      exact ⟨(sextet_read _ (by omega)).2, (sextet_read _ (by omega)).2, by simp⟩
  | case4 => simp [base64url]

theorem base64url_short (x : Bytes) : (base64url x).length ≤ 2 * x.length ∧ (x ≠ [] → base64url x ≠ []) := by
  induction x using base64url.induct with
  | case1 a b c rest ih =>
      rw [base64url]
      simp only [List.length_cons]
      refine ⟨?_, by simp⟩
      omega
  | case2 a b => simp [base64url]
  | case3 a => simp [base64url]
  | case4 => simp [base64url]

end EduAi.Store
