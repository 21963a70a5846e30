import EduAi.Payments.ReceiptReading

set_option autoImplicit false

namespace EduAi.Payments.Receipts

open EduAi.Store

section Texts

theorem strip_self (p : UInt16 → Bool) (s : Units) (starts : startsWith p s = false) (ends : ∀ c ∈ s.getLast?, p c = false) :
    strip p s = s := by
  have front : s.dropWhile p = s := by
    cases s with
    | nil => rfl
    | cons c rest =>
        have first : p c = false := starts
        rw [List.dropWhile_cons_of_neg (by simp [first])]
  rw [strip, front, List.rdropWhile_eq_self_iff]
  intro some
  have last := ends (s.getLast some) (List.getLast?_eq_some_getLast some)
  simp [last]

theorem trim_ends (s : Units) (whole : trim s = s) : startsWith isSpace s = false ∧ ∀ c ∈ s.getLast?, isSpace c = false := by
  have starts := strip_starts isSpace s
  have ends := rdropWhile_ends isSpace (s.dropWhile isSpace)
  rw [trim, strip] at whole
  rw [strip, whole] at starts
  rw [whole] at ends
  exact ⟨starts, ends⟩

theorem isSpace_range (c : UInt16) (space : isSpace c = true) : c.toNat ≤ 32 ∨ 160 ≤ c.toNat := by
  have spaces : ∀ d ∈ ([0x09, 0x0A, 0x0B, 0x0C, 0x0D, 0x20, 0xA0, 0x1680, 0x2000, 0x2001, 0x2002, 0x2003, 0x2004, 0x2005, 0x2006,
      0x2007, 0x2008, 0x2009, 0x200A, 0x2028, 0x2029, 0x202F, 0x205F, 0x3000, 0xFEFF] : Units), d.toNat ≤ 32 ∨ 160 ≤ d.toNat :=
    each_of_all _ _ (by decide)
  exact spaces c (List.contains_iff_mem.mp space)

theorem isSpace_printed (c : UInt16) (above : 32 < c.toNat) (under : c.toNat < 160) : isSpace c = false := by
  by_contra space
  have range := isSpace_range c (Bool.not_eq_false _ ▸ space)
  omega

theorem isSpace_digit (c : UInt16) (digit : Store.isDigit c = true) : isSpace c = false := by
  have range := of_decide_eq_true digit
  exact isSpace_printed c (by omega) (by omega)

theorem trim_digits (s : Units) (digits : s.all Store.isDigit = true) : trim s = s := by
  have each (c : UInt16) (member : c ∈ s) : isSpace c = false := isSpace_digit c (List.all_eq_true.mp digits c member)
  refine strip_self isSpace s ?_ ?_
  · cases s with
    | nil => rfl
    | cons c rest => exact each c List.mem_cons_self
  · intro c last
    exact each c (List.mem_of_getLast? last)

theorem trimmed_some (s : Units) (whole : trim s = s) (some' : s ≠ []) : trimmed (some s) = some s := by
  rw [trimmed, Option.map_some, whole, Option.filter_some, if_pos (by simpa using some')]

end Texts

section Upper

theorem reference_unit (c : UInt16) (unit : (isAsciiLetter c || Store.isDigit c || [46, 95, 58, 45].contains c || (true && c == 32)) = true) :
    c.toNat < 128 := by
  simp only [isAsciiLetter, Store.isDigit, Bool.or_eq_true, decide_eq_true_eq, Bool.true_and, beq_iff_eq, List.contains_eq_mem,
    List.mem_cons, List.not_mem_nil, or_false] at unit
  rcases unit with ((letter | digit) | (same | same | same | same)) | same
  · omega
  · omega
  all_goals
    rw [same]
    decide

theorem upperLetter_value (c : UInt16) : (upperLetter c).toNat = if 97 ≤ c.toNat ∧ c.toNat ≤ 122 then c.toNat - 32 else c.toNat := by
  by_cases lower : 97 ≤ c.toNat ∧ c.toNat ≤ 122
  · have bound : (32 : UInt16) ≤ c := by
      rw [UInt16.le_iff_toNat_le]
      show 32 ≤ c.toNat
      omega
    rw [upperLetter, if_pos lower, if_pos lower, UInt16.toNat_sub_of_le _ _ bound]
    rfl
  · rw [upperLetter, if_neg lower, if_neg lower]

theorem upperLetter_twice (c : UInt16) : upperLetter (upperLetter c) = upperLetter c := by
  have value := upperLetter_value c
  have done : ¬ (97 ≤ (upperLetter c).toNat ∧ (upperLetter c).toNat ≤ 122) := by
    by_cases lower : 97 ≤ c.toNat ∧ c.toNat ≤ 122
    · rw [if_pos lower] at value
      omega
    · rw [if_neg lower] at value
      omega
  exact if_neg done

theorem isSpace_upper (c : UInt16) (other : isSpace c = false) : isSpace (upperLetter c) = false := by
  by_cases lower : 97 ≤ c.toNat ∧ c.toNat ≤ 122
  · have value := upperLetter_value c
    rw [if_pos lower] at value
    exact isSpace_printed _ (by omega) (by omega)
  · have same : upperLetter c = c := if_neg lower
    rw [same, other]

theorem trim_upper (s : Units) (whole : trim s = s) : trim (s.map upperLetter) = s.map upperLetter := by
  obtain ⟨starts, ends⟩ := trim_ends s whole
  refine strip_self isSpace _ ?_ ?_
  · cases s with
    | nil => rfl
    | cons c rest => exact isSpace_upper c starts
  · intro c last
    rw [List.getLast?_map] at last
    obtain ⟨d, isLast, rfl⟩ := Option.map_eq_some_iff.mp last
    exact isSpace_upper d (ends d isLast)

theorem reference_normal (unicode : Unicode) (value : Units) (reference : isReference true value = true)
    (whole : trim value = value) :
    (trimmed (some (unicode.toUpperCase value))).map unicode.toUpperCase = some (unicode.toUpperCase value) := by
  obtain ⟨least, _, units⟩ := of_decide_eq_true reference
  have low (c : UInt16) (member : c ∈ value) : c.toNat < 128 := reference_unit c (List.all_eq_true.mp units c member)
  have upper : unicode.toUpperCase value = value.map upperLetter := unicode.toUpperCase_ascii value low
  have lowUpper : ∀ c ∈ value.map upperLetter, c.toNat < 128 := by
    intro c member
    obtain ⟨d, listed, rfl⟩ := List.mem_map.mp member
    have bound := low d listed
    have same := upperLetter_value d
    by_cases lower : 97 ≤ d.toNat ∧ d.toNat ≤ 122
    · rw [if_pos lower] at same
      omega
    · rw [if_neg lower] at same
      omega
  have again : unicode.toUpperCase (value.map upperLetter) = value.map upperLetter := by
    have twice : (value.map upperLetter).map upperLetter = value.map upperLetter := by
      rw [List.map_map]
      exact List.map_congr_left (fun c _ => upperLetter_twice c)
    exact (unicode.toUpperCase_ascii _ lowUpper).trans twice
  have some' : value.map upperLetter ≠ [] := by
    intro empty
    rw [List.map_eq_nil_iff.mp empty] at least
    exact absurd least (by decide)
  rw [upper, trimmed_some _ (trim_upper value whole) some', Option.map_some, again]

end Upper

section Assessed

variable (unicode : Unicode) (expected : ReceiptExpectedFacts) (fields : ReceiptClaimFields) (assessedAt : Option Int)

structure Agrees : Prop where
  bankBin : trimmed fields.bankBin = some expected.bankBin
  accountNumber : trimmed fields.accountNumber = some expected.accountNumber
  beneficiaryName : fields.beneficiaryName.map (normalizeName unicode) = some (normalizeName unicode expected.beneficiaryName)
  amountMinor : trimmed fields.amountMinor = some expected.amountMinor
  transferContent : (trimmed fields.transferContent).map unicode.toUpperCase = some expected.transferContent
  occurredAt : claimedTime expected fields assessedAt ≠ none

theorem warnIf_tolerated (p : Prop) [Decidable p] (warning : ReceiptWarning) (strict : isTolerated warning = false)
    (none : (warnIf p warning).any (fun w => !isTolerated w) = false) : ¬ p := by
  intro holds
  rw [warnIf, if_pos holds, List.any_cons, strict] at none
  cases none

theorem matched_agrees (matched : (assessReceiptClaim unicode expected fields assessedAt).status = .matchedClaim) :
    Agrees unicode expected fields assessedAt := by
  have quiet : (receiptWarnings unicode expected fields (normalizedFields unicode expected fields assessedAt) assessedAt).any
      (fun warning => !isTolerated warning) = false := by
    by_contra loud
    rw [Bool.not_eq_false] at loud
    unfold assessReceiptClaim at matched
    dsimp only at matched
    rw [if_pos loud] at matched
    cases matched
  rw [receiptWarnings, List.any_cons, List.any_append, List.any_append, List.any_append, List.any_append, List.any_append,
    List.any_append, Bool.or_eq_false_iff, Bool.or_eq_false_iff, Bool.or_eq_false_iff, Bool.or_eq_false_iff, Bool.or_eq_false_iff,
    Bool.or_eq_false_iff, Bool.or_eq_false_iff] at quiet
  obtain ⟨_, ⟨⟨⟨⟨⟨bank, account⟩, beneficiary⟩, amount⟩, content⟩, time⟩, _⟩ := quiet
  exact {
    bankBin := not_not.mp (warnIf_tolerated _ _ rfl bank)
    accountNumber := not_not.mp (warnIf_tolerated _ _ rfl account)
    beneficiaryName := not_not.mp (warnIf_tolerated _ _ rfl beneficiary)
    amountMinor := not_not.mp (not_or.mp (warnIf_tolerated _ _ rfl amount)).2
    transferContent := not_not.mp (warnIf_tolerated _ _ rfl content)
    occurredAt := warnIf_tolerated _ _ rfl time }

theorem agrees_read (agrees : Agrees unicode expected fields assessedAt) (field : FieldName) (required : field ≠ .transactionId) :
    fields.get field ≠ none := by
  intro missing
  cases field with
  | bankBin =>
      have same : fields.bankBin = none := missing
      have compared := agrees.bankBin
      rw [same] at compared
      cases compared
  | accountNumber =>
      have same : fields.accountNumber = none := missing
      have compared := agrees.accountNumber
      rw [same] at compared
      cases compared
  | beneficiaryName =>
      have same : fields.beneficiaryName = none := missing
      have compared := agrees.beneficiaryName
      rw [same] at compared
      cases compared
  | amountMinor =>
      have same : fields.amountMinor = none := missing
      have compared := agrees.amountMinor
      rw [same] at compared
      cases compared
  | transferContent =>
      have same : fields.transferContent = none := missing
      have compared := agrees.transferContent
      rw [same] at compared
      cases compared
  | occurredAt =>
      have same : fields.occurredAt = none := missing
      refine agrees.occurredAt ?_
      rw [claimedTime, same]
      rfl
  | transactionId => exact required rfl

end Assessed

section Parsed

variable (unicode : Unicode)

theorem trim_trim (s : Units) : trim (trim s) = trim s :=
  strip_self isSpace (trim s) (strip_starts isSpace s) (rdropWhile_ends isSpace _)

theorem readValue_value (field : FieldName) (values : List Units) (v : Units) (read : readValue unicode field values = some v) :
    ∃ value, value ≠ [] ∧ trim value = value ∧ readField unicode field value = some v := by
  match values with
  | [] => cases read
  | _ :: _ :: _ => cases read
  | [raw] =>
      rw [readValue] at read
      by_cases unusable : unicode.nfc (trim raw) = [] ∨ (unicode.nfc (trim raw)).any isInvisible = true
      · rw [if_pos unusable] at read
        cases read
      · rw [if_neg unusable] at read
        exact ⟨unicode.nfc (trim raw), fun empty => unusable (.inl empty), unicode.nfc_trim _ (trim_trim raw), read⟩

theorem joined_mem (mark : UInt16) (pieces : List Units) (c : UInt16) (member : c ∈ [mark].intercalate pieces) :
    c = mark ∨ ∃ piece ∈ pieces, c ∈ piece := by
  induction pieces with
  | nil => cases member
  | cons piece rest ih =>
      cases rest with
      | nil =>
          right
          exact ⟨piece, List.mem_cons_self, by simpa using member⟩
      | cons next later =>
          rw [List.intercalate_cons_cons, List.append_assoc] at member
          rcases List.mem_append.mp member with here | inRest
          · exact .inr ⟨piece, List.mem_cons_self, here⟩
          · rcases List.mem_append.mp inRest with marked | there
            · exact .inl (List.mem_singleton.mp marked)
            · rcases ih there with same | ⟨other, listed, inside⟩
              · exact .inl same
              · exact .inr ⟨other, List.mem_cons_of_mem _ listed, inside⟩

theorem grouped_units (mark : UInt16) (s : Units) (grouped : isGrouped mark s = true) (c : UInt16) (member : c ∈ s) :
    c = mark ∨ Store.isDigit c = true := by
  obtain ⟨_, groups⟩ := of_decide_eq_true grouped
  have joined : [mark].intercalate (s.splitOn mark) = s := List.intercalate_splitOn mark
  rw [← joined] at member
  rcases joined_mem mark _ c member with same | ⟨group, listed, inside⟩
  · exact .inl same
  · obtain ⟨i, bound, rfl⟩ := List.getElem_of_mem listed
    have indexed : ((s.splitOn mark)[i], i) ∈ (s.splitOn mark).zipIdx := by
      rw [List.mk_mem_zipIdx_iff_getElem?]
      exact List.getElem?_eq_getElem bound
    exact .inr (List.all_eq_true.mp (groups _ indexed).1 c inside)

theorem wholeAmount_units (s : Units) (whole : isWholeAmount s = true) (c : UInt16) (member : c ∈ s) :
    c ∈ ([46, 44, 32] : List UInt16) ∨ Store.isDigit c = true := by
  rcases of_decide_eq_true whole with ⟨_, digits, _⟩ | dots | commas | blanks
  · exact .inr (List.all_eq_true.mp digits c member)
  · exact (grouped_units 46 s dots c member).imp_left (fun same => by simp [same])
  · exact (grouped_units 44 s commas c member).imp_left (fun same => by simp [same])
  · exact (grouped_units 32 s blanks c member).imp_left (fun same => by simp [same])

theorem parseAmount_digits (value v : Units) (parsed : parseAmount value = some v) : v.all Store.isDigit = true ∧ v ≠ [] := by
  obtain ⟨mapped, kept⟩ := Option.filter_eq_some_iff.mp parsed
  obtain ⟨amount, found, rfl⟩ := Option.map_eq_some_iff.mp mapped
  obtain ⟨letters, _, read⟩ := List.exists_of_findSome?_eq_some found
  refine ⟨?_, (of_decide_eq_true kept).1⟩
  rw [amountBefore] at read
  split at read
  next shape =>
    obtain rfl := Option.some.inj read
    rw [List.all_eq_true]
    intro c member
    obtain ⟨listed, other⟩ := List.mem_filter.mp member
    rcases wholeAmount_units _ shape.2 c listed with separator | digit
    · exact absurd separator (by simpa using other)
    · exact digit
  next => cases read

end Parsed

section Matched

variable (unicode : Unicode) (expected : ReceiptExpectedFacts) (assessedAt : Option Int)

structure Fits (fields : ReceiptClaimFields) : Prop where
  bankBin : fields.bankBin = some expected.bankBin
  accountNumber : fields.accountNumber = some expected.accountNumber
  beneficiaryName : ∃ name, fields.beneficiaryName = some name ∧
    normalizeName unicode name = normalizeName unicode expected.beneficiaryName
  amountMinor : fields.amountMinor = some expected.amountMinor
  transferContent : fields.transferContent = some expected.transferContent
  occurredAt : ∃ t now, parseReceiptTimestamp fields.occurredAt = some t ∧ assessedAt = some now ∧
    expected.createdAt ≤ t ∧ t < expected.expiresAt ∧ t ≤ now

theorem claimedTime_window (fields : ReceiptClaimFields) (claimed : claimedTime expected fields assessedAt ≠ none) :
    ∃ t now, parseReceiptTimestamp fields.occurredAt = some t ∧ assessedAt = some now ∧
      expected.createdAt ≤ t ∧ t < expected.expiresAt ∧ t ≤ now := by
  obtain ⟨timestamp, given⟩ := Option.ne_none_iff_exists'.mp claimed
  obtain ⟨t, read, given⟩ := Option.bind_eq_some_iff.mp given
  obtain ⟨now, assessed, given⟩ := Option.bind_eq_some_iff.mp given
  by_cases outside : t < expected.createdAt ∨ expected.expiresAt ≤ t ∨ now < t
  · rw [if_pos outside] at given
    cases given
  · exact ⟨t, now, read, assessed, by omega, by omega, by omega⟩

theorem digits_agree (v facts : Units) (digits : v.all Store.isDigit = true) (some' : v ≠ []) (agrees : trimmed (some v) = some facts) :
    some v = some facts := by
  rw [trimmed_some v (trim_digits v digits) some'] at agrees
  exact agrees

theorem agrees_fits (lines : List Units) (agrees : Agrees unicode expected (parseReceiptLines unicode lines).fields assessedAt) :
    Fits unicode expected assessedAt (parseReceiptLines unicode lines).fields := by
  have value (field : FieldName) (required : field ≠ .transactionId) :
      ∃ v value, (parseReceiptLines unicode lines).fields.get field = some v ∧ value ≠ [] ∧ trim value = value ∧
        readField unicode field value = some v := by
    obtain ⟨v, found⟩ := Option.ne_none_iff_exists'.mp (agrees_read unicode expected _ assessedAt agrees field required)
    have read := found
    rw [get_read] at read
    obtain ⟨value, some', whole, given⟩ := readValue_value unicode field _ v read
    exact ⟨v, value, found, some', whole, given⟩
  constructor
  · obtain ⟨v, value, found, _, _, given⟩ := value .bankBin (by decide)
    have same : (parseReceiptLines unicode lines).fields.bankBin = some v := found
    have compared := agrees.bankBin
    rw [readField] at given
    split at given
    next =>
      obtain rfl := Option.some.inj given
      rw [same] at compared ⊢
      exact digits_agree _ _ (by decide) (by decide) compared
    next => cases given
  · obtain ⟨v, value, found, some', _, given⟩ := value .accountNumber (by decide)
    have same : (parseReceiptLines unicode lines).fields.accountNumber = some v := found
    have compared := agrees.accountNumber
    rw [readField] at given
    split at given
    next shape =>
      obtain rfl := Option.some.inj given
      rw [same] at compared ⊢
      exact digits_agree _ _ shape.1 some' compared
    next => cases given
  · exact Option.map_eq_some_iff.mp agrees.beneficiaryName
  · obtain ⟨v, value, found, _, _, given⟩ := value .amountMinor (by decide)
    have same : (parseReceiptLines unicode lines).fields.amountMinor = some v := found
    have compared := agrees.amountMinor
    obtain ⟨digits, some'⟩ := parseAmount_digits value v given
    rw [same] at compared ⊢
    exact digits_agree _ _ digits some' compared
  · obtain ⟨v, value, found, _, whole, given⟩ := value .transferContent (by decide)
    have same : (parseReceiptLines unicode lines).fields.transferContent = some v := found
    have compared := agrees.transferContent
    rw [readField] at given
    split at given
    next reference =>
      obtain rfl := Option.some.inj given
      rw [same, reference_normal unicode value reference whole] at compared
      rw [same]
      exact compared
    next => cases given
  · exact claimedTime_window expected assessedAt _ agrees.occurredAt

theorem added_line_reviewed (lines others : List Units) (line : Units) (field : FieldName) (required : field ≠ .transactionId)
    (carried : carries unicode field line = true) (added : others.Perm (line :: lines))
    (matched : (assessReceiptClaim unicode expected (parseReceiptLines unicode lines).fields assessedAt).status = .matchedClaim) :
    (assessReceiptClaim unicode expected (parseReceiptLines unicode others).fields assessedAt).status = .reviewRequired := by
  have before := get_unique unicode lines field
    (agrees_read unicode expected _ assessedAt (matched_agrees unicode expected _ assessedAt matched) field required)
  cases after : (assessReceiptClaim unicode expected (parseReceiptLines unicode others).fields assessedAt).status with
  | reviewRequired => rfl
  | matchedClaim =>
      exfalso
      have still := get_unique unicode others field
        (agrees_read unicode expected _ assessedAt (matched_agrees unicode expected _ assessedAt after) field required)
      rw [(added.filter _).length_eq, List.filter_cons_of_pos carried, List.length_cons, before] at still
      omega

end Matched

end EduAi.Payments.Receipts
