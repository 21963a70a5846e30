import EduAi.Store.Text

set_option autoImplicit false

namespace EduAi.Store

def isHighSurrogate (c : UInt16) : Bool :=
  decide (0xD800 ≤ c.toNat ∧ c.toNat ≤ 0xDBFF)

def isLowSurrogate (c : UInt16) : Bool :=
  decide (0xDC00 ≤ c.toNat ∧ c.toNat ≤ 0xDFFF)

def pairScalar (high low : UInt16) : Char :=
  Char.ofNat (0x10000 + (high.toNat - 0xD800) * 0x400 + (low.toNat - 0xDC00))

def scalars : Units → Option (List Char)
  | [] => some []
  | [c] => if isHighSurrogate c ∨ isLowSurrogate c then none else some [Char.ofNat c.toNat]
  | c :: d :: rest =>
      if isHighSurrogate c ∧ isLowSurrogate d then (scalars rest).map (pairScalar c d :: ·)
      else if isHighSurrogate c ∨ isLowSurrogate c then none
      else (scalars (d :: rest)).map (Char.ofNat c.toNat :: ·)

def utf16 (c : Char) : Units :=
  if c.toNat < 0x10000 then [UInt16.ofNat c.toNat]
  else [UInt16.ofNat (0xD800 + (c.toNat - 0x10000) / 0x400), UInt16.ofNat (0xDC00 + (c.toNat - 0x10000) % 0x400)]

theorem scalar_value (n : Nat) (valid : n.isValidChar) : (Char.ofNat n).toNat = n := by
  rw [Char.ofNat, dif_pos valid]
  rfl

theorem utf16_single (c : UInt16) (plain : ¬ (isHighSurrogate c = true ∨ isLowSurrogate c = true)) :
    utf16 (Char.ofNat c.toNat) = [c] := by
  have bound : c.toNat < 65536 := c.toNat_lt
  have valid : c.toNat.isValidChar := by
    simp only [isHighSurrogate, isLowSurrogate, decide_eq_true_eq, not_or, not_and, not_le] at plain
    unfold Nat.isValidChar
    omega
  have value : (Char.ofNat c.toNat).toNat = c.toNat := scalar_value _ valid
  rw [utf16, value, if_pos bound, UInt16.ofNat_toNat]

theorem utf16_pair (c d : UInt16) (high : isHighSurrogate c = true) (low : isLowSurrogate d = true) :
    utf16 (pairScalar c d) = [c, d] := by
  have rangeC := of_decide_eq_true high
  have rangeD := of_decide_eq_true low
  have valid : (0x10000 + (c.toNat - 0xD800) * 0x400 + (d.toNat - 0xDC00)).isValidChar := by
    unfold Nat.isValidChar
    omega
  have value := scalar_value _ valid
  have highPart : 0xD800 + ((c.toNat - 0xD800) * 0x400 + (d.toNat - 0xDC00)) / 0x400 = c.toNat := by omega
  have lowPart : 0xDC00 + ((c.toNat - 0xD800) * 0x400 + (d.toNat - 0xDC00)) % 0x400 = d.toNat := by omega
  rw [utf16, pairScalar, value, if_neg (by omega), Nat.add_assoc, Nat.add_sub_cancel_left, highPart, lowPart,
    UInt16.ofNat_toNat, UInt16.ofNat_toNat]

theorem units_scalars (s : Units) (cs : List Char) (read : scalars s = some cs) : cs.flatMap utf16 = s := by
  induction s using scalars.induct generalizing cs with
  | case1 =>
      obtain rfl := Option.some.inj read
      rfl
  | case2 c lone =>
      rw [scalars, if_pos lone] at read
      cases read
  | case3 c plain =>
      rw [scalars, if_neg plain] at read
      obtain rfl := Option.some.inj read
      rw [List.flatMap_singleton, utf16_single c plain]
  | case4 c d rest pair ih =>
      rw [scalars, if_pos pair] at read
      obtain ⟨later, rest', rfl⟩ := Option.map_eq_some_iff.mp read
      rw [List.flatMap_cons, utf16_pair c d pair.1 pair.2, ih later rest']
      rfl
  | case5 c d rest unpaired lone =>
      rw [scalars, if_neg unpaired, if_pos lone] at read
      cases read
  | case6 c d rest unpaired plain ih =>
      rw [scalars, if_neg unpaired, if_neg plain] at read
      obtain ⟨later, rest', rfl⟩ := Option.map_eq_some_iff.mp read
      rw [List.flatMap_cons, utf16_single c plain, ih later rest']
      rfl

theorem scalars_injective (s t : Units) (cs : List Char) (readS : scalars s = some cs) (readT : scalars t = some cs) : s = t := by
  rw [← units_scalars s cs readS, units_scalars t cs readT]

section Scalars

variable (c : Char) (rest : Units)

theorem scalars_plain (small : c.toNat < 0x10000) : scalars (UInt16.ofNat c.toNat :: rest) = (scalars rest).map (c :: ·) := by
  have value : (UInt16.ofNat c.toNat).toNat = c.toNat := UInt16.toNat_ofNat_of_lt' small
  have same : Char.ofNat (UInt16.ofNat c.toNat).toNat = c := by
    rw [value, Char.ofNat_toNat]
  have plain : ¬ (isHighSurrogate (UInt16.ofNat c.toNat) = true ∨ isLowSurrogate (UInt16.ofNat c.toNat) = true) := by
    have valid : c.toNat.isValidChar := c.valid
    unfold Nat.isValidChar at valid
    simp only [isHighSurrogate, isLowSurrogate, decide_eq_true_eq, value]
    omega
  cases rest with
  | nil => simp only [scalars, if_neg plain, same, Option.map_some]
  | cons d later =>
      rw [scalars, if_neg (fun pair => plain (.inl pair.1)), if_neg plain, same]

theorem scalars_pair (large : ¬ c.toNat < 0x10000) :
    scalars (UInt16.ofNat (0xD800 + (c.toNat - 0x10000) / 0x400) :: UInt16.ofNat (0xDC00 + (c.toNat - 0x10000) % 0x400) :: rest) =
      (scalars rest).map (c :: ·) := by
  have valid : c.toNat.isValidChar := c.valid
  unfold Nat.isValidChar at valid
  have high : (UInt16.ofNat (0xD800 + (c.toNat - 0x10000) / 0x400)).toNat = 0xD800 + (c.toNat - 0x10000) / 0x400 :=
    UInt16.toNat_ofNat_of_lt' (show _ < 65536 by omega)
  have low : (UInt16.ofNat (0xDC00 + (c.toNat - 0x10000) % 0x400)).toNat = 0xDC00 + (c.toNat - 0x10000) % 0x400 :=
    UInt16.toNat_ofNat_of_lt' (show _ < 65536 by omega)
  have whole : 0x10000 + (0xD800 + (c.toNat - 0x10000) / 0x400 - 0xD800) * 0x400 +
      (0xDC00 + (c.toNat - 0x10000) % 0x400 - 0xDC00) = c.toNat := by omega
  have pair : isHighSurrogate (UInt16.ofNat (0xD800 + (c.toNat - 0x10000) / 0x400)) = true ∧
      isLowSurrogate (UInt16.ofNat (0xDC00 + (c.toNat - 0x10000) % 0x400)) = true := by
    simp only [isHighSurrogate, isLowSurrogate, decide_eq_true_eq, high, low]
    omega
  rw [scalars, if_pos pair, pairScalar, high, low, whole, Char.ofNat_toNat]

theorem scalars_utf16 : scalars (utf16 c ++ rest) = (scalars rest).map (c :: ·) := by
  unfold utf16
  by_cases small : c.toNat < 0x10000
  · rw [if_pos small, List.singleton_append, scalars_plain c rest small]
  · rw [if_neg small]
    exact scalars_pair c rest small

end Scalars

theorem scalars_units (cs : List Char) : scalars (cs.flatMap utf16) = some cs := by
  induction cs with
  | nil => rfl
  | cons c rest ih => rw [List.flatMap_cons, scalars_utf16, ih, Option.map_some]

def unitsOf (text : String) : Units :=
  text.toList.flatMap utf16

theorem unitsOf_injective (a b : String) (same : unitsOf a = unitsOf b) : a = b := by
  have read := congrArg scalars same
  rw [unitsOf, unitsOf, scalars_units, scalars_units] at read
  exact String.toList_inj.mp (Option.some.inj read)

end EduAi.Store
