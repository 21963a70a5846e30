import EduAi.Payments.ReceiptText

set_option autoImplicit false

namespace EduAi.Payments.Receipts

open EduAi.Store

section Lines

variable (unicode : Unicode)

def carries (field : FieldName) (line : Units) : Bool :=
  (carriedValue unicode field line).isSome

theorem addLine_carried (candidates : Candidates) (line : Units) (field : FieldName) :
    addLine unicode candidates line field = candidates field ++ (carriedValue unicode field line).toList := by
  unfold addLine carriedValue
  cases readLine unicode line with
  | none => simp
  | some labelled =>
      obtain ⟨label, value⟩ := labelled
      dsimp only
      by_cases known : label ∈ labels field
      · simp [known]
      · simp [known]

theorem foldl_carried (lines : List Units) (candidates : Candidates) (field : FieldName) :
    lines.foldl (addLine unicode) candidates field = candidates field ++ lines.filterMap (carriedValue unicode field) := by
  induction lines generalizing candidates with
  | nil => simp
  | cons line rest ih =>
      rw [List.foldl_cons, ih, addLine_carried, List.append_assoc, List.filterMap_cons]
      cases carriedValue unicode field line with
      | none => rfl
      | some value => rfl

theorem candidatesOf_carried (lines : List Units) (field : FieldName) :
    candidatesOf unicode lines field = lines.filterMap (carriedValue unicode field) := by
  rw [candidatesOf, foldl_carried, List.nil_append]

theorem candidates_length (lines : List Units) (field : FieldName) :
    (candidatesOf unicode lines field).length = (lines.filter (carries unicode field)).length := by
  rw [candidatesOf_carried, List.length_filterMap_eq_countP, List.countP_eq_length_filter]
  rfl

theorem readValue_one (field : FieldName) (values : List Units) (read : readValue unicode field values ≠ none) :
    values.length = 1 := by
  match values with
  | [] => exact absurd rfl read
  | [_] => rfl
  | _ :: _ :: _ => exact absurd rfl read

theorem readValue_perm (field : FieldName) (values others : List Units) (perm : others.Perm values) :
    readValue unicode field others = readValue unicode field values := by
  match values with
  | [] => rw [perm.eq_nil]
  | [value] => rw [List.perm_singleton.mp perm]
  | a :: b :: rest =>
      have long := perm.length_eq
      match others with
      | [] => cases long
      | [_] => cases long
      | _ :: _ :: _ => rfl

theorem warningsOf_perm (field : FieldName) (values others : List Units) (perm : others.Perm values) :
    warningsOf unicode field others = warningsOf unicode field values := by
  unfold warningsOf
  rw [perm.length_eq, readValue_perm unicode field values others perm]

theorem parse_perm (lines others : List Units) (perm : others.Perm lines) :
    parseReceiptLines unicode others = parseReceiptLines unicode lines := by
  have each (field : FieldName) : (candidatesOf unicode others field).Perm (candidatesOf unicode lines field) := by
    rw [candidatesOf_carried, candidatesOf_carried]
    exact perm.filterMap _
  unfold parseReceiptLines
  simp only [readValue_perm unicode _ _ _ (each _), warningsOf_perm unicode _ _ _ (each _)]

theorem get_read (lines : List Units) (field : FieldName) :
    (parseReceiptLines unicode lines).fields.get field = readValue unicode field (candidatesOf unicode lines field) := by
  cases field <;> rfl

theorem get_unique (lines : List Units) (field : FieldName) (found : (parseReceiptLines unicode lines).fields.get field ≠ none) :
    (lines.filter (carries unicode field)).length = 1 := by
  rw [get_read] at found
  rw [← candidates_length]
  exact readValue_one unicode field _ found

end Lines

end EduAi.Payments.Receipts
