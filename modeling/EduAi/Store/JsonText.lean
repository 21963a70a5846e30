import EduAi.Store.CodeUnits

set_option autoImplicit false

namespace EduAi.Store

def quoteMark : UInt16 := 34

def backslash : UInt16 := 92

def lowerHex (d : Nat) : UInt16 :=
  if d < 10 then UInt16.ofNat (48 + d) else UInt16.ofNat (87 + d)

def hexOf (c : UInt16) : Nat :=
  if c.toNat < 58 then c.toNat - 48 else c.toNat - 87

-- \u and four hex digits.
def unicodeEscape (c : UInt16) : Units :=
  [backslash, 117, lowerHex (c.toNat / 4096), lowerHex (c.toNat / 256 % 16), lowerHex (c.toNat / 16 % 16),
    lowerHex (c.toNat % 16)]

-- The units with an escape of their own: \b, \t, \n, \f, \r, the quotation mark and the backslash.
def shortEscapes : List (UInt16 × UInt16) :=
  [(8, 98), (9, 116), (10, 110), (12, 102), (13, 114), (34, 34), (92, 92)]

def shortEscape (c : UInt16) : Option UInt16 :=
  (shortEscapes.find? (fun e => e.1 = c)).map (·.2)

def unescape (c : UInt16) : UInt16 :=
  ((shortEscapes.find? (fun e => e.2 = c)).map (·.1)).getD c

def quoteUnit (c : UInt16) : Units :=
  match shortEscape c with
  | some e => [backslash, e]
  | none => if c.toNat < 32 ∨ isHighSurrogate c ∨ isLowSurrogate c then unicodeEscape c else [c]

def quoteBody : Units → Units
  | [] => []
  | [c] => quoteUnit c
  | c :: d :: rest =>
      if isHighSurrogate c ∧ isLowSurrogate d then c :: d :: quoteBody rest else quoteUnit c ++ quoteBody (d :: rest)

-- JSON.stringify of a string.
def quoted (s : Units) : Units :=
  quoteMark :: (quoteBody s ++ [quoteMark])

def push (c : UInt16) (read : Units × Units) : Units × Units :=
  (c :: read.1, read.2)

def unquote : Units → Option (Units × Units)
  | [] => none
  | c :: rest =>
      if c = quoteMark then some ([], rest)
      else if c = backslash then
        match rest with
        | [] => none
        | e :: rest =>
            if e = 117 then
              match rest with
              | h₃ :: h₂ :: h₁ :: h₀ :: rest =>
                  (unquote rest).map (push (UInt16.ofNat (hexOf h₃ * 4096 + hexOf h₂ * 256 + hexOf h₁ * 16 + hexOf h₀)))
              | _ => none
            else (unquote rest).map (push (unescape e))
      else (unquote rest).map (push c)

theorem hexOf_lower (d : Nat) (small : d < 16) : hexOf (lowerHex d) = d := by
  unfold hexOf lowerHex
  by_cases digit : d < 10
  · rw [if_pos digit, UInt16.toNat_ofNat', Nat.mod_eq_of_lt (by omega), if_pos (by omega)]
    omega
  · rw [if_neg digit, UInt16.toNat_ofNat', Nat.mod_eq_of_lt (by omega), if_neg (by omega)]
    omega

theorem unquote_unicode (c : UInt16) (rest : Units) : unquote (unicodeEscape c ++ rest) = (unquote rest).map (push c) := by
  have bound : c.toNat < 65536 := c.toNat_lt
  have value : hexOf (lowerHex (c.toNat / 4096)) * 4096 + hexOf (lowerHex (c.toNat / 256 % 16)) * 256 +
      hexOf (lowerHex (c.toNat / 16 % 16)) * 16 + hexOf (lowerHex (c.toNat % 16)) = c.toNat := by
    rw [hexOf_lower _ (by omega), hexOf_lower _ (by omega), hexOf_lower _ (by omega), hexOf_lower _ (by omega)]
    omega
  have back : UInt16.ofNat c.toNat = c := UInt16.ofNat_toNat
  rw [unicodeEscape]
  show unquote (backslash :: 117 :: lowerHex (c.toNat / 4096) :: lowerHex (c.toNat / 256 % 16) ::
    lowerHex (c.toNat / 16 % 16) :: lowerHex (c.toNat % 16) :: rest) = _
  rw [unquote, if_neg (by decide), if_pos rfl, if_pos rfl, value, back]

theorem unquote_raw (c : UInt16) (rest : Units) (mark : c ≠ quoteMark) (slash : c ≠ backslash) :
    unquote (c :: rest) = (unquote rest).map (push c) := by
  rw [unquote.eq_def]
  dsimp only
  rw [if_neg mark, if_neg slash]

theorem shortEscapes_read : ∀ e ∈ shortEscapes, e.2 ≠ 117 ∧ unescape e.2 = e.1 :=
  each_of_all _ _ (by decide)

theorem unquote_unit (c : UInt16) (rest : Units) : unquote (quoteUnit c ++ rest) = (unquote rest).map (push c) := by
  rw [quoteUnit]
  cases short : shortEscape c with
  | some e =>
      obtain ⟨entry, found, same⟩ := Option.map_eq_some_iff.mp short
      obtain ⟨other, back⟩ := shortEscapes_read entry (List.mem_of_find?_eq_some found)
      have key : entry.1 = c := by simpa using List.find?_some found
      rw [same] at other back
      show unquote (backslash :: e :: rest) = _
      rw [unquote.eq_def]
      dsimp only
      rw [if_neg (by decide), if_pos rfl, if_neg other, back, key]
  | none =>
      dsimp only
      by_cases escaped : c.toNat < 32 ∨ isHighSurrogate c = true ∨ isLowSurrogate c = true
      · rw [if_pos escaped]
        exact unquote_unicode c rest
      · rw [if_neg escaped]
        refine unquote_raw c rest ?_ ?_
        · rintro rfl
          cases short
        · rintro rfl
          cases short

theorem unquote_mark (rest : Units) : unquote (quoteMark :: rest) = some ([], rest) := by
  rw [unquote.eq_def]
  dsimp only
  rw [if_pos rfl]

theorem surrogate_raw (c : UInt16) (rest : Units) (surrogate : isHighSurrogate c = true ∨ isLowSurrogate c = true) :
    unquote (c :: rest) = (unquote rest).map (push c) := by
  refine unquote_raw c rest ?_ ?_
  · rintro rfl
    exact absurd surrogate (by decide)
  · rintro rfl
    exact absurd surrogate (by decide)

theorem unquote_body (s rest : Units) : unquote (quoteBody s ++ quoteMark :: rest) = some (s, rest) := by
  induction s using quoteBody.induct with
  | case1 => exact unquote_mark rest
  | case2 c =>
      rw [quoteBody, unquote_unit, unquote_mark]
      rfl
  | case3 c d tail pair ih =>
      rw [quoteBody, if_pos pair]
      show unquote (c :: d :: (quoteBody tail ++ quoteMark :: rest)) = _
      rw [surrogate_raw c _ (.inl pair.1), surrogate_raw d _ (.inr pair.2), ih]
      rfl
  | case4 c d tail alone ih =>
      rw [quoteBody, if_neg alone, List.append_assoc, unquote_unit, ih]
      rfl

theorem quoted_prefix (s t x y : Units) (same : quoted s ++ x = quoted t ++ y) : s = t ∧ x = y := by
  have shape (u z : Units) : quoted u ++ z = quoteMark :: (quoteBody u ++ quoteMark :: z) := by
    simp [quoted]
  rw [shape, shape] at same
  have bodies := (List.cons.inj same).2
  have first := unquote_body s x
  rw [bodies, unquote_body t y] at first
  obtain ⟨sameText, sameRest⟩ := Prod.mk.inj (Option.some.inj first)
  exact ⟨sameText.symm, sameRest.symm⟩

def isNumberUnit (c : UInt16) : Bool :=
  decide (48 ≤ c.toNat ∧ c.toNat ≤ 57) || [43, 45, 46, 101].contains c

-- A finite number, known by its text: digits, a sign, a point, an exponent. Two numbers have one text only when they are
-- equal, and 0 and -0 have the text 0.
structure JsonNumber where
  text : Units
  some : text ≠ []
  units : text.all isNumberUnit = true
deriving DecidableEq

inductive Json where
  | null
  | bool (b : Bool)
  | number (n : JsonNumber)
  | string (s : Units)
  | array (items : List Json)
  | object (fields : List (Units × Json))

inductive JsonType where
  | null | bool | number | string | array | object
deriving DecidableEq, Repr

def Json.type : Json → JsonType
  | .null => .null
  | .bool _ => .bool
  | .number _ => .number
  | .string _ => .string
  | .array _ => .array
  | .object _ => .object

-- An object has each key once.
mutual
def Json.Distinct : Json → Prop
  | .array items => distinctItems items
  | .object fields => (fields.map (·.1)).Nodup ∧ distinctFields fields
  | _ => True
def distinctItems : List Json → Prop
  | [] => True
  | item :: rest => item.Distinct ∧ distinctItems rest
def distinctFields : List (Units × Json) → Prop
  | [] => True
  | (_, value) :: rest => value.Distinct ∧ distinctFields rest
end

theorem distinctItems_mem (items : List Json) (distinct : distinctItems items) : ∀ item ∈ items, item.Distinct := by
  induction items with
  | nil => simp
  | cons item rest ih =>
      intro other member
      rcases List.mem_cons.mp member with rfl | inRest
      · exact distinct.1
      · exact ih distinct.2 other inRest

theorem distinctFields_mem (fields : List (Units × Json)) (distinct : distinctFields fields) :
    ∀ field ∈ fields, field.2.Distinct := by
  induction fields with
  | nil => simp
  | cons field rest ih =>
      intro other member
      rcases List.mem_cons.mp member with rfl | inRest
      · exact distinct.1
      · exact ih distinct.2 other inRest

end EduAi.Store
