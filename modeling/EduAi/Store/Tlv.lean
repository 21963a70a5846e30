import EduAi.Store.Decimal

set_option autoImplicit false

namespace EduAi.Store

-- A field of the grammar: a tag of two units, the length of the value in two digits, the value.
inductive Fields : Units → List (Units × Units) → Prop
  | none : Fields [] []
  | field (tag length value rest : Units) (fields : List (Units × Units)) : tag.length = 2 → length.length = 2 →
      (∀ c ∈ length, isDigit c = true) → digitsValue length = value.length → Fields rest fields →
      Fields (tag ++ length ++ value ++ rest) ((tag, value) :: fields)

def takeField (s : Units) : Option ((Units × Units) × Units) :=
  let length := (s.drop 2).take 2
  let rest := s.drop 4
  if 4 ≤ s.length ∧ length.all isDigit ∧ digitsValue length ≤ rest.length then
    some ((s.take 2, rest.take (digitsValue length)), rest.drop (digitsValue length))
  else none

-- Every field takes at least four units, so the length of the text is fuel enough.
def parseFields : Nat → Units → Option (List (Units × Units))
  | 0, s => if s.isEmpty then some [] else none
  | fuel + 1, s =>
      if s.isEmpty then some []
      else (takeField s).bind (fun taken => (parseFields fuel taken.2).map (fun fields => taken.1 :: fields))

def tlvFields (s : Units) : Option (List (Units × Units)) :=
  parseFields s.length s

theorem takeField_field (tag length value rest : Units) (two : tag.length = 2) (digits : length.length = 2)
    (all : ∀ c ∈ length, isDigit c = true) (counted : digitsValue length = value.length) :
    takeField (tag ++ length ++ value ++ rest) = some ((tag, value), rest) := by
  have afterTag : (tag ++ length ++ value ++ rest).drop 2 = length ++ (value ++ rest) := by
    rw [List.append_assoc, List.append_assoc, ← two, List.drop_left]
  have afterLength : (tag ++ length ++ value ++ rest).drop 4 = value ++ rest := by
    have four : 4 = (tag ++ length).length := by rw [List.length_append, two, digits]
    rw [List.append_assoc, four, List.drop_left]
  have header : (length ++ (value ++ rest)).take 2 = length := by
    rw [← digits, List.take_left]
  have first : (tag ++ length ++ value ++ rest).take 2 = tag := by
    rw [List.append_assoc, List.append_assoc, ← two, List.take_left]
  rw [takeField, afterTag, afterLength, header, first, counted, List.take_left, List.drop_left]
  rw [if_pos]
  refine ⟨?_, List.all_eq_true.mpr all, by simp⟩
  simp only [List.length_append]
  omega

theorem takeField_shape (s rest : Units) (field : Units × Units) (taken : takeField s = some (field, rest)) :
    ∃ length, s = field.1 ++ length ++ field.2 ++ rest ∧ field.1.length = 2 ∧ length.length = 2 ∧
      (∀ c ∈ length, isDigit c = true) ∧ digitsValue length = field.2.length := by
  rw [takeField] at taken
  by_cases fits : 4 ≤ s.length ∧ ((s.drop 2).take 2).all isDigit = true ∧
      digitsValue ((s.drop 2).take 2) ≤ (s.drop 4).length
  · rw [if_pos fits] at taken
    obtain ⟨long, digits, short⟩ := fits
    obtain ⟨rfl, rfl⟩ := Prod.mk.inj (Option.some.inj taken)
    refine ⟨(s.drop 2).take 2, ?_, ?_, ?_, List.all_eq_true.mp digits, ?_⟩
    · have back : s.drop 4 = (s.drop 2).drop 2 := by rw [List.drop_drop]
      rw [List.append_assoc, List.take_append_drop, List.append_assoc, back, List.take_append_drop, List.take_append_drop]
    · rw [List.length_take]
      omega
    · rw [List.length_take, List.length_drop]
      omega
    · rw [List.length_take]
      omega
  · rw [if_neg fits] at taken
    cases taken

theorem parseFields_sound (fuel : Nat) (s : Units) (fields : List (Units × Units)) (parsed : parseFields fuel s = some fields) :
    Fields s fields := by
  induction fuel generalizing s fields with
  | zero =>
      rw [parseFields] at parsed
      by_cases empty : s = []
      · rw [empty] at parsed ⊢
        obtain rfl := Option.some.inj parsed
        exact .none
      · rw [if_neg (by simpa using empty)] at parsed
        cases parsed
  | succ fuel ih =>
      rw [parseFields] at parsed
      by_cases empty : s = []
      · rw [empty] at parsed ⊢
        obtain rfl := Option.some.inj parsed
        exact .none
      · rw [if_neg (by simpa using empty)] at parsed
        obtain ⟨⟨field, rest⟩, taken, parsed⟩ := Option.bind_eq_some_iff.mp parsed
        obtain ⟨later, inner, same⟩ := Option.map_eq_some_iff.mp parsed
        obtain ⟨length, shape, two, digits, all, counted⟩ := takeField_shape s rest field taken
        rw [shape, ← same]
        exact .field field.1 length field.2 rest later two digits all counted (ih rest later inner)

theorem parseFields_complete (fuel : Nat) (s : Units) (fields : List (Units × Units)) (grammar : Fields s fields)
    (enough : s.length ≤ fuel) : parseFields fuel s = some fields := by
  induction grammar generalizing fuel with
  | none => cases fuel <;> rfl
  | field tag length value rest fields two digits all counted _ ih =>
      have long : 4 ≤ (tag ++ length ++ value ++ rest).length - rest.length := by
        simp only [List.length_append]
        omega
      cases fuel with
      | zero => omega
      | succ fuel =>
          have later := ih fuel (by omega)
          have some : (tag ++ length ++ value ++ rest).isEmpty = false := by
            rw [List.isEmpty_eq_false_iff]
            exact List.ne_nil_of_length_pos (by omega)
          rw [parseFields, some, takeField_field tag length value rest two digits all counted]
          simp [later]

theorem tlvFields_iff (s : Units) (fields : List (Units × Units)) : tlvFields s = some fields ↔ Fields s fields :=
  ⟨parseFields_sound s.length s fields, fun grammar => parseFields_complete s.length s fields grammar le_rfl⟩

end EduAi.Store
