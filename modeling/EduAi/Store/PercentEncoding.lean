import EduAi.Store.JsonText

set_option autoImplicit false

namespace EduAi.Store

theorem utf8_ascii (c : Char) (small : c.toNat < 128) : String.utf8EncodeChar c = [UInt8.ofNat c.toNat] := by
  have least : c.val.toNat ≤ 0x7f := Nat.le_of_lt_succ small
  rw [String.utf8EncodeChar, if_pos least]
  rfl

theorem utf8_injective (cs ds : List Char) (same : cs.flatMap String.utf8EncodeChar = ds.flatMap String.utf8EncodeChar) :
    cs = ds := by
  have bytes : cs.utf8Encode = ds.utf8Encode := by
    unfold List.utf8Encode
    rw [same]
  have read := congrArg ByteArray.utf8Decode? bytes
  rw [List.utf8Decode?_utf8Encode, List.utf8Decode?_utf8Encode] at read
  simpa using read

def percent : UInt16 := 37

def plus : UInt16 := 43

def upperHex (d : Nat) : UInt16 :=
  if d < 10 then UInt16.ofNat (48 + d) else UInt16.ofNat (55 + d)

def upperHexOf (c : UInt16) : Nat :=
  if c.toNat < 58 then c.toNat - 48 else c.toNat - 55

def percentByte (b : UInt8) : Units :=
  [percent, upperHex (b.toNat / 16), upperHex (b.toNat % 16)]

-- A-Z a-z 0-9 - _ . ! ~ * ' ( )
def isUnescaped (n : Nat) : Bool :=
  (65 ≤ n && n ≤ 90) || (97 ≤ n && n ≤ 122) || (48 ≤ n && n ≤ 57) || [45, 95, 46, 33, 126, 42, 39, 40, 41].contains n

def encodeScalar (c : Char) : Units :=
  if isUnescaped c.toNat then [UInt16.ofNat c.toNat] else (String.utf8EncodeChar c).flatMap percentByte

-- encodeURIComponent, which throws at a surrogate that stands alone.
def encodeURIComponent (value : Units) : Option Units :=
  (scalars value).map (fun cs => cs.flatMap encodeScalar)

def unescaped : Units → List UInt8
  | [] => []
  | c :: rest =>
      if c = percent then
        match rest with
        | h :: l :: rest => UInt8.ofNat (upperHexOf h * 16 + upperHexOf l) :: unescaped rest
        | _ => []
      else if c = plus then 32 :: unescaped rest
      else UInt8.ofNat c.toNat :: unescaped rest

theorem upperHex_digits : ∀ d < 16, upperHexOf (upperHex d) = d ∧ isUnescaped (upperHex d).toNat = true ∧
    upperHex d ≠ percent ∧ (upperHex d).toNat ∉ [33, 126, 42, 39, 40, 41] := by
  decide

theorem byte_digits (b : UInt8) : b.toNat / 16 < 16 ∧ b.toNat % 16 < 16 := by
  have bound : b.toNat < 256 := b.toNat_lt
  omega

theorem unescaped_byte (b : UInt8) (rest : Units) : unescaped (percentByte b ++ rest) = b :: unescaped rest := by
  obtain ⟨high, low⟩ := byte_digits b
  have value : upperHexOf (upperHex (b.toNat / 16)) * 16 + upperHexOf (upperHex (b.toNat % 16)) = b.toNat := by
    rw [(upperHex_digits _ high).1, (upperHex_digits _ low).1]
    omega
  have back : UInt8.ofNat b.toNat = b := UInt8.ofNat_toNat
  show unescaped (percent :: upperHex (b.toNat / 16) :: upperHex (b.toNat % 16) :: rest) = _
  rw [unescaped, if_pos rfl, value, back]

theorem unescaped_plain (c : UInt16) (rest : Units) (notPercent : c ≠ percent) (notPlus : c ≠ plus) :
    unescaped (c :: rest) = UInt8.ofNat c.toNat :: unescaped rest := by
  rw [unescaped.eq_def]
  dsimp only
  rw [if_neg notPercent, if_neg notPlus]

theorem unescaped_plus (rest : Units) : unescaped (plus :: rest) = 32 :: unescaped rest := by
  rw [unescaped.eq_def]
  dsimp only
  rw [if_neg (by decide), if_pos rfl]

end EduAi.Store
