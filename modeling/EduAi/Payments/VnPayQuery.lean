import EduAi.Store.Joined
import EduAi.Store.KeyOrder
import EduAi.Store.PercentEncoding

set_option autoImplicit false

namespace EduAi.Payments.VnPay

open EduAi.Store

-- /[!'()*~]/
def isMark (c : UInt16) : Bool :=
  [33, 39, 40, 41, 42, 126].contains c

def escapeMarks (s : Units) : Units :=
  s.flatMap (fun c => if isMark c then percentByte (UInt8.ofNat c.toNat) else [c])

-- replace(/%20/g, '+')
def plusForBlank : Units → Units
  | [] => []
  | [c] => [c]
  | [c, d] => [c, d]
  | c :: d :: e :: rest =>
      if c = percent ∧ d = 50 ∧ e = 48 then plus :: plusForBlank rest else c :: plusForBlank (d :: e :: rest)

def ampersand : UInt16 := 38

def equalsSign : UInt16 := 61

def encodeVnPayComponent (value : Units) : Option Units :=
  (encodeURIComponent value).map (fun encoded => plusForBlank (escapeMarks encoded))

section Components

def isKept (c : Char) : Bool :=
  isUnescaped c.toNat && !isMark (UInt16.ofNat c.toNat)

def componentByte (b : UInt8) : Units :=
  if b = 32 then [plus] else percentByte b

def componentScalar (c : Char) : Units :=
  if isKept c then [UInt16.ofNat c.toNat] else (String.utf8EncodeChar c).flatMap componentByte

theorem isUnescaped_lt (n : Nat) (kept : isUnescaped n = true) : n < 128 := by
  unfold isUnescaped at kept
  simp only [Bool.or_eq_true, Bool.and_eq_true, decide_eq_true_eq, List.contains_eq_mem, List.mem_cons, List.not_mem_nil,
    or_false] at kept
  omega

theorem unescaped_apart : ∀ n < 128, isUnescaped n = true → UInt16.ofNat n ∉ [percent, plus, ampersand, equalsSign] := by
  decide

theorem hex_apart : ∀ d < 16, upperHex d ∉ [ampersand, equalsSign] := by
  decide

theorem kept_apart (c : Char) (kept : isKept c = true) : UInt16.ofNat c.toNat ∉ [percent, plus, ampersand, equalsSign] := by
  have raw : isUnescaped c.toNat = true := (Bool.and_eq_true_iff.mp kept).1
  exact unescaped_apart c.toNat (isUnescaped_lt c.toNat raw) raw

theorem isMark_hex : ∀ d < 16, isMark (upperHex d) = false := by
  decide

theorem escapeMarks_append (s t : Units) : escapeMarks (s ++ t) = escapeMarks s ++ escapeMarks t :=
  List.flatMap_append

theorem escapeMarks_byte (b : UInt8) : escapeMarks (percentByte b) = percentByte b := by
  obtain ⟨high, low⟩ := byte_digits b
  have sign : isMark percent = false := by decide
  rw [escapeMarks, percentByte]
  simp [sign, isMark_hex _ high, isMark_hex _ low]

theorem escapeMarks_bytes (bytes : List UInt8) : escapeMarks (bytes.flatMap percentByte) = bytes.flatMap percentByte := by
  induction bytes with
  | nil => rfl
  | cons b rest ih => rw [List.flatMap_cons, escapeMarks_append, escapeMarks_byte, ih]

theorem escapeMarks_scalar (c : Char) : escapeMarks (encodeScalar c) =
    if isKept c then [UInt16.ofNat c.toNat] else (String.utf8EncodeChar c).flatMap percentByte := by
  rw [encodeScalar]
  by_cases raw : isUnescaped c.toNat = true
  · have small := isUnescaped_lt c.toNat raw
    have value : (UInt16.ofNat c.toNat).toNat = c.toNat := by
      rw [UInt16.toNat_ofNat', Nat.mod_eq_of_lt (by omega)]
    rw [if_pos raw, escapeMarks, List.flatMap_singleton, value]
    by_cases mark : isMark (UInt16.ofNat c.toNat) = true
    · rw [if_pos mark, if_neg (by simp [isKept, mark]), utf8_ascii c small, List.flatMap_singleton]
    · rw [if_neg mark, if_pos (by simp [isKept, raw, mark])]
  · rw [if_neg raw, if_neg (by simp [isKept, raw]), escapeMarks_bytes]

theorem plusForBlank_other (c : UInt16) (rest : Units) (other : c ≠ percent) :
    plusForBlank (c :: rest) = c :: plusForBlank rest := by
  match rest with
  | [] => rfl
  | [d] => rfl
  | d :: e :: rest => rw [plusForBlank, if_neg (fun hit => other hit.1)]

theorem plusForBlank_byte (b : UInt8) (rest : Units) :
    plusForBlank (percentByte b ++ rest) = componentByte b ++ plusForBlank rest := by
  obtain ⟨high, low⟩ := byte_digits b
  have highHex := upperHex_digits _ high
  have lowHex := upperHex_digits _ low
  show plusForBlank (percent :: upperHex (b.toNat / 16) :: upperHex (b.toNat % 16) :: rest) = _
  by_cases blank : b = 32
  · subst blank
    rfl
  · have digits : ¬ (percent = percent ∧ upperHex (b.toNat / 16) = 50 ∧ upperHex (b.toNat % 16) = 48) := by
      rintro ⟨_, first, second⟩
      have firstValue : b.toNat / 16 = 2 := by rw [← highHex.1, first]; rfl
      have secondValue : b.toNat % 16 = 0 := by rw [← lowHex.1, second]; rfl
      exact blank (UInt8.toNat_inj.mp (by show b.toNat = 32; omega))
    rw [plusForBlank, if_neg digits, plusForBlank_other _ _ highHex.2.2.1, plusForBlank_other _ _ lowHex.2.2.1, componentByte,
      if_neg blank]
    rfl

theorem plusForBlank_bytes (bytes : List UInt8) (rest : Units) :
    plusForBlank (bytes.flatMap percentByte ++ rest) = bytes.flatMap componentByte ++ plusForBlank rest := by
  induction bytes with
  | nil => rfl
  | cons b later ih =>
      rw [List.flatMap_cons, List.flatMap_cons, List.append_assoc, List.append_assoc, plusForBlank_byte, ih]

theorem plusForBlank_scalar (c : Char) (rest : Units) :
    plusForBlank (escapeMarks (encodeScalar c) ++ rest) = componentScalar c ++ plusForBlank rest := by
  rw [escapeMarks_scalar, componentScalar]
  by_cases kept : isKept c = true
  · rw [if_pos kept, if_pos kept]
    refine plusForBlank_other _ rest ?_
    intro same
    exact kept_apart c kept (by simp [same])
  · rw [if_neg kept, if_neg kept]
    exact plusForBlank_bytes _ rest

theorem component_text (cs : List Char) :
    plusForBlank (escapeMarks (cs.flatMap encodeScalar)) = cs.flatMap componentScalar := by
  induction cs with
  | nil => rfl
  | cons c rest ih => rw [List.flatMap_cons, List.flatMap_cons, escapeMarks_append, plusForBlank_scalar, ih]

theorem encodeVnPayComponent_scalars (value : Units) :
    encodeVnPayComponent value = (scalars value).map (fun cs => cs.flatMap componentScalar) := by
  rw [encodeVnPayComponent, encodeURIComponent, Option.map_map]
  congr 1
  funext cs
  exact component_text cs

theorem unescaped_component (bytes : List UInt8) (rest : Units) :
    unescaped (bytes.flatMap componentByte ++ rest) = bytes ++ unescaped rest := by
  induction bytes with
  | nil => rfl
  | cons b later ih =>
      rw [List.flatMap_cons, List.append_assoc, componentByte]
      by_cases blank : b = 32
      · rw [if_pos blank, List.singleton_append, unescaped_plus, ih, blank]
        rfl
      · rw [if_neg blank, unescaped_byte, ih]
        rfl

theorem unescaped_scalar (c : Char) (rest : Units) :
    unescaped (componentScalar c ++ rest) = String.utf8EncodeChar c ++ unescaped rest := by
  rw [componentScalar]
  by_cases kept : isKept c = true
  · have apart := kept_apart c kept
    simp only [List.mem_cons, List.not_mem_nil, or_false, not_or] at apart
    have small := isUnescaped_lt c.toNat (Bool.and_eq_true_iff.mp kept).1
    rw [if_pos kept, List.singleton_append, unescaped_plain _ rest apart.1 apart.2.1, utf8_ascii c small, UInt16.toNat_ofNat',
      Nat.mod_eq_of_lt (by omega)]
    rfl
  · rw [if_neg kept]
    exact unescaped_component _ rest

theorem unescaped_scalars (cs : List Char) : unescaped (cs.flatMap componentScalar) = cs.flatMap String.utf8EncodeChar := by
  induction cs with
  | nil => rfl
  | cons c rest ih => rw [List.flatMap_cons, List.flatMap_cons, unescaped_scalar, ih]

theorem encodeVnPayComponent_injective (v w text : Units) (encodedV : encodeVnPayComponent v = some text)
    (encodedW : encodeVnPayComponent w = some text) : v = w := by
  rw [encodeVnPayComponent_scalars] at encodedV encodedW
  obtain ⟨cs, readV, rfl⟩ := Option.map_eq_some_iff.mp encodedV
  obtain ⟨ds, readW, same⟩ := Option.map_eq_some_iff.mp encodedW
  have bytes := congrArg unescaped same
  rw [unescaped_scalars, unescaped_scalars] at bytes
  have chars := utf8_injective ds cs bytes
  rw [chars] at readW
  exact scalars_injective v w cs readV readW

def Unbroken (text : Units) : Prop :=
  ∀ c ∈ text, c ≠ ampersand ∧ c ≠ equalsSign

theorem byte_unbroken (b : UInt8) : Unbroken (componentByte b) := by
  obtain ⟨high, low⟩ := byte_digits b
  have highHex := hex_apart _ high
  have lowHex := hex_apart _ low
  unfold Unbroken componentByte
  by_cases blank : b = 32
  · rw [if_pos blank]
    simp [plus, ampersand, equalsSign]
  · rw [if_neg blank]
    simp only [percentByte, List.mem_cons, List.not_mem_nil, or_false, not_or] at highHex lowHex ⊢
    rintro c (rfl | rfl | rfl)
    · decide
    · exact highHex
    · exact lowHex

theorem scalar_unbroken (c : Char) : Unbroken (componentScalar c) := by
  intro u member
  rw [componentScalar] at member
  by_cases kept : isKept c = true
  · rw [if_pos kept, List.mem_singleton] at member
    have apart := kept_apart c kept
    simp only [List.mem_cons, List.not_mem_nil, or_false, not_or] at apart
    rw [member]
    exact apart.2.2
  · rw [if_neg kept] at member
    obtain ⟨b, _, inByte⟩ := List.mem_flatMap.mp member
    exact byte_unbroken b u inByte

theorem component_unbroken (value text : Units) (encoded : encodeVnPayComponent value = some text) : Unbroken text := by
  rw [encodeVnPayComponent_scalars] at encoded
  obtain ⟨cs, _, rfl⟩ := Option.map_eq_some_iff.mp encoded
  intro u member
  obtain ⟨c, _, inScalar⟩ := List.mem_flatMap.mp member
  exact scalar_unbroken c u inScalar

end Components

structure Params where
  entries : List (Units × Units)
  names : (entries.map (·.1)).Nodup

def Params.without (params : Params) (dropped : Units → Bool) : Params where
  entries := params.entries.filter (fun e => !dropped e.1)
  names := params.names.sublist (List.filter_sublist.map _)

def isHashField (name : Units) : Bool :=
  [ascii "vnp_SecureHash", ascii "vnp_SecureHashType"].contains name

-- The name/value pairs that count.
def Params.pairs (params : Params) : List (Units × Units) :=
  params.entries.filter (fun e => e.2 ≠ [])

def pairText (pair : Units × Units) : Option Units := do
  let name ← encodeVnPayComponent pair.1
  let value ← encodeVnPayComponent pair.2
  return name ++ equalsSign :: value

-- None where encodeURIComponent throws.
def canonicalizeVnPayParams (params : Params) : Option Units :=
  ((sortByKey params.pairs).mapM pairText).map (fun pieces => [ampersand].intercalate pieces)

def canonicalizeVnPayIpnParams (params : Params) : Option Units :=
  canonicalizeVnPayParams (params.without isHashField)

def isHexDigest (text : Units) : Bool :=
  text.length = 128 ∧ text.all (fun c =>
    decide (48 ≤ c.toNat ∧ c.toNat ≤ 57) || decide (65 ≤ c.toNat ∧ c.toNat ≤ 70) || decide (97 ≤ c.toNat ∧ c.toNat ≤ 102)) = true

-- toLowerCase of a text of hex digits.
def lowerDigits (text : Units) : Units :=
  text.map (fun c => if 65 ≤ c.toNat ∧ c.toNat ≤ 70 then c + 32 else c)

section Signatures

-- createHmac('sha512', secret) over a text, as hex digits.
variable (hmac : Units → Units → Units)

def verifyVnPaySignature (params : Params) (secureHash hashSecret : Units) : Option Bool :=
  if ¬ isHexDigest secureHash = true ∨ hashSecret.length = 0 then some false
  else (canonicalizeVnPayIpnParams params).map (fun text => decide (lowerDigits secureHash = hmac hashSecret text))

def buildVnPaySignedUrl (paymentUrl : Units) (params : Params) (hashSecret : Units) : Option Units :=
  (canonicalizeVnPayParams params).map (fun canonicalQuery =>
    let separator := if paymentUrl.contains 63 then ampersand else 63
    paymentUrl ++ separator :: canonicalQuery ++ ascii "&vnp_SecureHash=" ++ hmac hashSecret canonicalQuery)

end Signatures

section Canonical

theorem pairs_distinct (params : Params) : (params.pairs.map (·.1)).Nodup :=
  params.names.sublist (List.filter_sublist.map _)

theorem pairText_shape (pair : Units × Units) (text : Units) (made : pairText pair = some text) :
    ∃ name value, encodeVnPayComponent pair.1 = some name ∧ encodeVnPayComponent pair.2 = some value ∧
      text = name ++ equalsSign :: value := by
  obtain ⟨name, first, made⟩ := Option.bind_eq_some_iff.mp made
  obtain ⟨value, second, made⟩ := Option.bind_eq_some_iff.mp made
  exact ⟨name, value, first, second, (Option.some.inj made).symm⟩

theorem pairText_injective (p q : Units × Units) (text : Units) (madeP : pairText p = some text) (madeQ : pairText q = some text) :
    p = q := by
  obtain ⟨name, value, nameP, valueP, rfl⟩ := pairText_shape p text madeP
  obtain ⟨name', value', nameQ, valueQ, same⟩ := pairText_shape q _ madeQ
  have free (v t : Units) (encoded : encodeVnPayComponent v = some t) : equalsSign ∉ t :=
    fun member => (component_unbroken v t encoded equalsSign member).2 rfl
  obtain ⟨names, _, values⟩ := (List.append_cons_inj_of_notMem (free _ _ nameP) (free _ _ valueP)).mp same
  rw [← names] at nameQ
  rw [← values] at valueQ
  exact Prod.ext (encodeVnPayComponent_injective _ _ name nameP nameQ) (encodeVnPayComponent_injective _ _ value valueP valueQ)

theorem pairText_piece (pair : Units × Units) (text : Units) (made : pairText pair = some text) :
    text ≠ [] ∧ ampersand ∉ text := by
  obtain ⟨name, value, first, second, rfl⟩ := pairText_shape pair text made
  refine ⟨by simp, ?_⟩
  intro member
  rcases List.mem_append.mp member with inName | inRest
  · exact (component_unbroken _ name first ampersand inName).1 rfl
  · rcases List.mem_cons.mp inRest with same | inValue
    · exact absurd same (by decide)
    · exact (component_unbroken _ value second ampersand inValue).1 rfl

theorem pieces_unbroken (pairs : List (Units × Units)) (pieces : List Units) (made : pairs.mapM pairText = some pieces) :
    ∀ piece ∈ pieces, piece ≠ [] ∧ ampersand ∉ piece := by
  rw [mapM_some] at made
  induction made with
  | nil => simp
  | cons here _ ih =>
      intro piece member
      rcases List.mem_cons.mp member with rfl | later
      · exact pairText_piece _ _ here
      · exact ih piece later

theorem canonical_of_pairs (p q : Params) (perm : p.pairs.Perm q.pairs) :
    canonicalizeVnPayParams p = canonicalizeVnPayParams q := by
  unfold canonicalizeVnPayParams
  rw [sortByKey_eq p.pairs q.pairs perm (pairs_distinct q)]

theorem pairs_of_canonical (p q : Params) (text : Units) (canonicalP : canonicalizeVnPayParams p = some text)
    (canonicalQ : canonicalizeVnPayParams q = some text) : p.pairs.Perm q.pairs := by
  obtain ⟨piecesP, madeP, rfl⟩ := Option.map_eq_some_iff.mp canonicalP
  obtain ⟨piecesQ, madeQ, same⟩ := Option.map_eq_some_iff.mp canonicalQ
  have pieces := joined_injective ampersand piecesQ piecesP (pieces_unbroken _ _ madeQ) (pieces_unbroken _ _ madeP) same
  rw [pieces] at madeQ
  have sorted := mapM_injective pairText pairText_injective _ _ piecesP madeP madeQ
  exact (sortByKey_perm p.pairs).symm.trans (sorted ▸ sortByKey_perm q.pairs)

theorem canonical_iff (p q : Params) (text : Units) (canonicalP : canonicalizeVnPayParams p = some text) :
    canonicalizeVnPayParams q = some text ↔ q.pairs.Perm p.pairs := by
  constructor
  · intro canonicalQ
    exact pairs_of_canonical q p text canonicalQ canonicalP
  · intro perm
    rw [canonical_of_pairs q p perm, canonicalP]

end Canonical

end EduAi.Payments.VnPay
