import EduAi.Gds.History

set_option autoImplicit false

namespace EduAi.Gds.History

open EduAi.Store

-- Units that JSON writes and reads as they are.
def Plain (s : Units) : Prop :=
  ∀ c ∈ s, 32 ≤ c.toNat ∧ c.toNat < 128 ∧ c ≠ quoteMark ∧ c ≠ backslash

theorem plain_append (s t : Units) (left : Plain s) (right : Plain t) : Plain (s ++ t) := by
  intro c member
  rcases List.mem_append.mp member with inLeft | inRight
  · exact left c inLeft
  · exact right c inRight

theorem quoteUnit_plain (c : UInt16) (plain : Plain [c]) : quoteUnit c = [c] := by
  obtain ⟨printable, ascii', mark, slash⟩ := plain c List.mem_cons_self
  have short : shortEscape c = none := by
    have missing : shortEscapes.find? (fun e => e.1 = c) = none := by
      rw [List.find?_eq_none]
      intro e member hit
      have same : e.1 = c := of_decide_eq_true hit
      have low : ∀ e ∈ shortEscapes, e.1.toNat < 32 ∨ e.1 = quoteMark ∨ e.1 = backslash :=
        each_of_all _ _ (by decide)
      rcases low e member with control | isMark | isSlash
      · rw [same] at control
        omega
      · exact mark (same.symm.trans isMark)
      · exact slash (same.symm.trans isSlash)
    rw [shortEscape, missing]
    rfl
  have unpaired : ¬ (c.toNat < 32 ∨ isHighSurrogate c = true ∨ isLowSurrogate c = true) := by
    simp only [isHighSurrogate, isLowSurrogate, decide_eq_true_eq]
    omega
  rw [quoteUnit, short]
  dsimp only
  rw [if_neg unpaired]

theorem quoteBody_plain (s : Units) (plain : Plain s) : quoteBody s = s := by
  induction s using quoteBody.induct with
  | case1 => rfl
  | case2 c => exact quoteUnit_plain c plain
  | case3 c d rest pair ih =>
      have high := of_decide_eq_true pair.1
      have low := (plain c List.mem_cons_self).2.1
      omega
  | case4 c d rest unpaired ih =>
      have first : Plain [c] := fun x member => plain x (by simp_all)
      have later : Plain (d :: rest) := fun x member => plain x (List.mem_cons_of_mem c member)
      rw [quoteBody, if_neg unpaired, quoteUnit_plain c first, ih later]
      rfl

theorem readString_plain (s rest : Units) (plain : Plain s) : readString (s ++ quoteMark :: rest) = some (s, rest) := by
  induction s with
  | nil =>
      rw [List.nil_append, readString.eq_def]
      dsimp only
      rw [if_pos rfl]
  | cons c tail ih =>
      obtain ⟨printable, _, mark, slash⟩ := plain c List.mem_cons_self
      rw [List.cons_append, readString.eq_def]
      dsimp only
      rw [if_neg mark, if_neg (by omega), if_neg slash, ih (fun x member => plain x (List.mem_cons_of_mem c member))]
      rfl

theorem skipBlanks_other (c : UInt16) (rest : Units) (notBlank : [32, 9, 10, 13].contains c = false) :
    skipBlanks (c :: rest) = c :: rest := by
  rw [skipBlanks, List.dropWhile_cons_of_neg (by simp only [notBlank, Bool.false_eq_true, not_false_eq_true])]

theorem expect_mark (mark : UInt16) (rest : Units) (notBlank : [32, 9, 10, 13].contains mark = false) :
    expect mark (mark :: rest) = some rest := by
  rw [expect, skipBlanks_other mark rest notBlank]
  dsimp only
  rw [if_pos rfl]

theorem nextString_plain (s rest : Units) (plain : Plain s) :
    nextString (44 :: quoteMark :: (s ++ quoteMark :: rest)) = some (s, rest) := by
  rw [nextString, expect_mark 44 _ rfl, Option.bind_eq_bind, Option.bind_some, expect_mark quoteMark _ rfl, Option.bind_some,
    readString_plain s rest plain]

theorem cursorJson_shape (owner : UuidText) (filter : HistoryFilter) (micros id : Units) (plainOwner : Plain owner.text)
    (plainFilter : Plain filter.text) (plainMicros : Plain micros) (plainId : Plain id) :
    cursorJson owner filter micros id = 91 :: 49 :: 44 :: quoteMark :: (owner.text ++ quoteMark :: 44 :: quoteMark ::
      (filter.text ++ quoteMark :: 44 :: quoteMark :: (micros ++ quoteMark :: 44 :: quoteMark :: (id ++ [quoteMark, 93])))) := by
  rw [cursorJson, quoted, quoted, quoted, quoted, quoteBody_plain _ plainOwner, quoteBody_plain _ plainFilter,
    quoteBody_plain _ plainMicros, quoteBody_plain _ plainId]
  simp [List.intercalate_cons_cons, ascii]

theorem readCursor_json (isOne : Units → Bool) (one : isOne (ascii "1") = true) (owner : UuidText) (filter : HistoryFilter)
    (micros id : Units) (plainOwner : Plain owner.text) (plainFilter : Plain filter.text) (plainMicros : Plain micros)
    (plainId : Plain id) :
    readCursor isOne (cursorJson owner filter micros id) = some (owner.text, filter.text, micros, id) := by
  have literal (rest : Units) : (49 :: 44 :: rest : Units).takeWhile isLiteralUnit = ascii "1" ∧
      (49 :: 44 :: rest : Units).dropWhile isLiteralUnit = 44 :: rest := ⟨rfl, rfl⟩
  rw [cursorJson_shape owner filter micros id plainOwner plainFilter plainMicros plainId, readCursor, expect_mark 91 _ rfl]
  simp only [Option.bind_eq_bind]
  rw [Option.bind_some]
  rw [skipBlanks_other 49 _ rfl, (literal _).1, (literal _).2, if_pos one, Option.bind_some, nextString_plain _ _ plainOwner,
    Option.bind_some]
  dsimp only
  rw [nextString_plain _ _ plainFilter, Option.bind_some]
  dsimp only
  rw [nextString_plain _ _ plainMicros, Option.bind_some]
  dsimp only
  rw [nextString_plain _ _ plainId, Option.bind_some]
  dsimp only
  rw [expect_mark 93 _ rfl, Option.bind_some]
  rfl

theorem scalars_ascii (s : Units) (low : ∀ c ∈ s, c.toNat < 128) : scalars s = some (s.map (fun c => Char.ofNat c.toNat)) := by
  have single (c : UInt16) (small : c.toNat < 128) : ¬ (isHighSurrogate c = true ∨ isLowSurrogate c = true) := by
    simp only [isHighSurrogate, isLowSurrogate, decide_eq_true_eq]
    omega
  induction s using scalars.induct with
  | case1 => rfl
  | case2 c lone => exact absurd lone (single c (low c List.mem_cons_self))
  | case3 c plain =>
      rw [scalars, if_neg plain]
      rfl
  | case4 c d rest pair ih => exact absurd (.inl pair.1) (single c (low c List.mem_cons_self))
  | case5 c d rest unpaired lone => exact absurd lone (single c (low c List.mem_cons_self))
  | case6 c d rest unpaired plain ih =>
      rw [scalars, if_neg unpaired, if_neg plain, ih (fun x member => low x (List.mem_cons_of_mem c member))]
      rfl

theorem bufferFrom_ascii (s : Units) (low : ∀ c ∈ s, c.toNat < 128) : bufferFrom s = s.map UInt16.toUInt8 := by
  rw [bufferFrom, scalars_ascii s low, Option.getD_some, List.flatMap_map]
  induction s with
  | nil => rfl
  | cons c rest ih =>
      have small := low c List.mem_cons_self
      have value : (Char.ofNat c.toNat).toNat = c.toNat := scalar_value c.toNat (Or.inl (by omega))
      have byte : String.utf8EncodeChar (Char.ofNat c.toNat) = [c.toUInt8] := by
        rw [utf8_ascii _ (by omega), value]
        rfl
      rw [List.flatMap_cons, byte, ih (fun x member => low x (List.mem_cons_of_mem c member))]
      rfl

theorem byte_back (c : UInt16) (small : c.toNat < 128) : c.toUInt8.toUInt16 = c ∧ c.toUInt8.toNat < 128 := by
  have value : c.toUInt8.toNat = c.toNat := by
    rw [UInt16.toNat_toUInt8, Nat.mod_eq_of_lt (by omega)]
  refine ⟨?_, by omega⟩
  apply UInt16.toNat_inj.mp
  rw [UInt8.toNat_toUInt16, value]

theorem asciiText_bytes (s : Units) (low : ∀ c ∈ s, c.toNat < 128) : asciiText (s.map UInt16.toUInt8) = some s := by
  have small : (s.map UInt16.toUInt8).all (fun b => b.toNat < 128) = true := by
    rw [List.all_eq_true]
    intro b member
    obtain ⟨c, listed, rfl⟩ := List.mem_map.mp member
    exact decide_eq_true (byte_back c (low c listed)).2
  rw [asciiText, if_pos small, List.map_map]
  congr 1
  refine (List.map_congr_left ?_).trans (List.map_id s)
  intro c member
  exact (byte_back c (low c member)).1

theorem plain_digits (s : Units) (digits : s.all isDigit = true) : Plain s := by
  intro c member
  have range := of_decide_eq_true (List.all_eq_true.mp digits c member)
  refine ⟨by omega, by omega, ?_, ?_⟩
  · rintro rfl
    exact absurd range (by decide)
  · rintro rfl
    exact absurd range (by decide)

theorem uuid_plain (s : Units) (form : isUuid s = true) : Plain s ∧ s.length = 36 := by
  obtain ⟨length, places⟩ := of_decide_eq_true form
  refine ⟨?_, length⟩
  intro c member
  obtain ⟨i, inside, rfl⟩ := List.getElem_of_mem member
  have place := places (s[i], i) (by rw [List.mk_mem_zipIdx_iff_getElem?]; exact List.getElem?_eq_getElem inside)
  have kinds : s[i] = 45 ∨ isLowerHex s[i] = true := by
    by_cases dash : i ∈ [8, 13, 18, 23]
    · rw [if_pos dash] at place
      exact .inl place
    · rw [if_neg dash] at place
      exact .inr place
  rcases kinds with dash | hex
  · rw [dash]
    decide
  · have range : (48 ≤ s[i].toNat ∧ s[i].toNat ≤ 57) ∨ (97 ≤ s[i].toNat ∧ s[i].toNat ≤ 102) := by
      simpa [isLowerHex, isDigit] using hex
    refine ⟨by omega, by omega, ?_, ?_⟩
    · intro same
      rw [same] at range
      exact absurd range (by decide)
    · intro same
      rw [same] at range
      exact absurd range (by decide)

theorem filter_plain (filter : HistoryFilter) : Plain filter.text ∧ filter.text.length ≤ 11 := by
  have plain : Plain filter.text := each_of_all _ _ (by cases filter <;> decide)
  exact ⟨plain, by cases filter <;> decide⟩

theorem historyId_plain (s : Units) (form : isHistoryId s = true) : Plain s ∧ s.length ≤ 47 := by
  have prefixes : Plain journalPrefix ∧ Plain withdrawalPrefix :=
    ⟨each_of_all _ _ (by decide), each_of_all _ _ (by decide)⟩
  rcases of_decide_eq_true form with ⟨start, uuid⟩ | ⟨start, uuid⟩
  · obtain ⟨plain, length⟩ := uuid_plain _ uuid
    rw [List.length_drop] at length
    refine ⟨?_, by omega⟩
    rw [← List.take_append_drop 8 s, start]
    exact plain_append _ _ prefixes.1 plain
  · obtain ⟨plain, length⟩ := uuid_plain _ uuid
    rw [List.length_drop] at length
    refine ⟨?_, by omega⟩
    rw [← List.take_append_drop 11 s, start]
    exact plain_append _ _ prefixes.2 plain

theorem isWordUnit_byte (b : UInt8) (word : isWordByte b = true) : isWordUnit b.toUInt16 = true := by
  have low : b.toNat < 128 := by
    simp only [isWordByte, Bool.or_eq_true, decide_eq_true_eq, beq_iff_eq] at word
    rcases word with (((upper | lower) | digit) | same) | same
    · omega
    · omega
    · omega
    · rw [same]
      decide
    · rw [same]
      decide
  have small : b.toUInt16.toNat < 128 := by rw [UInt8.toNat_toUInt16]; exact low
  rw [isWordUnit, decide_eq_true small, Bool.true_and]
  simpa using word

section Written

variable (owner : UuidText) (filter : HistoryFilter) (micros id : Units) (written : isMicros micros = true)
  (named : isHistoryId id = true)

include written named

theorem cursorJson_short : (∀ c ∈ cursorJson owner filter micros id, c.toNat < 128) ∧
    (cursorJson owner filter micros id).length ≤ 127 ∧ cursorJson owner filter micros id ≠ [] := by
  obtain ⟨_, most, digits⟩ := of_decide_eq_true written
  obtain ⟨plainOwner, lengthOwner⟩ := uuid_plain owner.text owner.form
  obtain ⟨plainFilter, lengthFilter⟩ := filter_plain filter
  obtain ⟨plainId, lengthId⟩ := historyId_plain id named
  have plainMicros := plain_digits micros digits
  have low (s : Units) (plain : Plain s) : ∀ c ∈ s, c.toNat < 128 := fun c member => (plain c member).2.1
  rw [cursorJson_shape owner filter micros id plainOwner plainFilter plainMicros plainId]
  refine ⟨?_, ?_, by simp⟩
  · simp only [List.forall_mem_cons, List.forall_mem_append, quoteMark]
    exact ⟨by decide, by decide, by decide, by decide, low _ plainOwner, by decide, by decide, by decide, low _ plainFilter,
      by decide, by decide, by decide, low _ plainMicros, by decide, by decide, by decide, low _ plainId, by decide, by decide,
      by simp⟩
  · simp only [List.length_cons, List.length_append, List.length_nil]
    omega

theorem cursorPosition_encode (isOne : Units → Bool) (one : isOne (ascii "1") = true) :
    cursorPosition isOne owner filter (.text (encodeHistoryCursor owner filter micros id)) =
      some { micros := micros, id := id } := by
  obtain ⟨low, short, some'⟩ := cursorJson_short owner filter micros id written named
  obtain ⟨_, _, digits⟩ := of_decide_eq_true written
  have bytes := bufferFrom_ascii _ low
  have back : (encodeHistoryCursor owner filter micros id).map UInt16.toUInt8 =
      base64url (bufferFrom (cursorJson owner filter micros id)) := by
    rw [encodeHistoryCursor, List.map_map]
    refine (List.map_congr_left ?_).trans (List.map_id _)
    intro b _
    simp
  have bytesLength : (bufferFrom (cursorJson owner filter micros id)).length ≤ 127 := by
    rw [bytes, List.length_map]
    exact short
  have bytesSome : bufferFrom (cursorJson owner filter micros id) ≠ [] := by
    rw [bytes]
    exact fun empty => some' (List.map_eq_nil_iff.mp empty)
  obtain ⟨length, nonempty⟩ := base64url_short (bufferFrom (cursorJson owner filter micros id))
  have word : (encodeHistoryCursor owner filter micros id).all isWordUnit = true := by
    rw [List.all_eq_true]
    intro c member
    obtain ⟨b, listed, rfl⟩ := List.mem_map.mp member
    exact isWordUnit_byte b (base64url_word _ b listed)
  have size : (encodeHistoryCursor owner filter micros id).length =
      (base64url (bufferFrom (cursorJson owner filter micros id))).length := List.length_map _
  have shape : ¬ (512 < (encodeHistoryCursor owner filter micros id).length ∨ encodeHistoryCursor owner filter micros id = [] ∨
      ¬ (encodeHistoryCursor owner filter micros id).all isWordUnit = true) := by
    rintro (long | empty | unfit)
    · omega
    · exact nonempty bytesSome (List.map_eq_nil_iff.mp empty)
    · exact unfit word
  have read := readCursor_json isOne one owner filter micros id (uuid_plain _ owner.form).1 (filter_plain filter).1
    (plain_digits micros digits) (historyId_plain id named).1
  rw [cursorPosition, if_neg shape, back, fromBase64url_base64url, bytes, asciiText_bytes _ low]
  simp only [Option.bind_eq_bind]
  rw [Option.bind_some, read, Option.bind_some]
  dsimp only
  rw [if_pos ⟨rfl, rfl, written, named⟩]

end Written

end EduAi.Gds.History
