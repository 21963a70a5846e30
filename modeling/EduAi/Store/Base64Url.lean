import Mathlib.Data.List.TakeDrop

set_option autoImplicit false

namespace EduAi.Store

abbrev Bytes := List UInt8

def utf8 (text : String) : Bytes :=
  text.toList.flatMap String.utf8EncodeChar

-- A-Z, a-z, 0-9, - and _.
def sextet (n : Nat) : UInt8 :=
  if n < 26 then UInt8.ofNat (n + 65)
  else if n < 52 then UInt8.ofNat (n + 71)
  else if n < 62 then UInt8.ofNat (n - 4)
  else if n = 62 then 45
  else 95

-- Three bytes become four characters; what is left over at the end is not padded.
def base64url : Bytes → Bytes
  | a :: b :: c :: rest =>
      let n := a.toNat * 65536 + b.toNat * 256 + c.toNat
      sextet (n / 262144) :: sextet (n / 4096 % 64) :: sextet (n / 64 % 64) :: sextet (n % 64) :: base64url rest
  | [a, b] =>
      let n := a.toNat * 1024 + b.toNat * 4
      [sextet (n / 4096), sextet (n / 64 % 64), sextet (n % 64)]
  | [a] =>
      let n := a.toNat * 16
      [sextet (n / 64), sextet (n % 64)]
  | [] => []

theorem base64url_groups (k : Nat) (x y : Bytes) (groups : x.length = 3 * k) :
    base64url (x ++ y) = base64url x ++ base64url y ∧ (base64url x).length = 4 * k := by
  induction k generalizing x with
  | zero =>
      obtain rfl := List.length_eq_zero_iff.mp groups
      exact ⟨rfl, rfl⟩
  | succ k ih =>
      match x with
      | a :: b :: c :: rest =>
          simp only [List.length_cons] at groups
          obtain ⟨split, length⟩ := ih rest (by omega)
          simp only [List.cons_append, base64url, split, List.length_cons, length]
          exact ⟨trivial, by omega⟩
      | [_, _] =>
          simp only [List.length_cons, List.length_nil] at groups
          omega
      | [_] =>
          simp only [List.length_cons, List.length_nil] at groups
          omega
      | [] =>
          simp only [List.length_nil] at groups
          omega

theorem base64url_starts (k : Nat) (z : Bytes) (long : 3 * k ≤ z.length) :
    (base64url z).take (4 * k) = base64url (z.take (3 * k)) ∧ 4 * k ≤ (base64url z).length := by
  obtain ⟨split, length⟩ := base64url_groups k (z.take (3 * k)) (z.drop (3 * k)) (by simp [long])
  rw [List.take_append_drop] at split
  rw [split]
  constructor
  · rw [← length]
    exact List.take_left
  · rw [List.length_append, length]
    exact Nat.le_add_right _ _

theorem base64url_take (k : Nat) (x y : Bytes) (longX : 3 * k ≤ x.length) (longY : 3 * k ≤ y.length)
    (same : x.take (3 * k) = y.take (3 * k)) : (base64url x).take (4 * k) = (base64url y).take (4 * k) := by
  rw [(base64url_starts k x longX).1, (base64url_starts k y longY).1, same]

end EduAi.Store
