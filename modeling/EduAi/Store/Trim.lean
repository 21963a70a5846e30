import EduAi.Store.Text

set_option autoImplicit false

namespace EduAi.Store

def isJsSpace (c : Char) : Bool :=
  (9 ≤ c.toNat ∧ c.toNat ≤ 13) ∨ (8192 ≤ c.toNat ∧ c.toNat ≤ 8202) ∨
    c.toNat ∈ [32, 160, 5760, 8232, 8233, 8239, 8287, 12288, 65279]

def jsTrim (text : String) : String :=
  String.ofList ((text.toList.dropWhile isJsSpace).rdropWhile isJsSpace)

section Trimming

variable (text : String)

theorem jsTrim_head (c : Char) (rest : List Char) (starts : (jsTrim text).toList = c :: rest) : isJsSpace c = false := by
  unfold jsTrim at starts
  rw [String.toList_ofList] at starts
  have kept : (text.toList.dropWhile isJsSpace).rdropWhile isJsSpace <+: text.toList.dropWhile isJsSpace := List.rdropWhile_prefix _ _
  rw [starts] at kept
  obtain ⟨more, whole⟩ := kept
  have nonempty : text.toList.dropWhile isJsSpace ≠ [] := by
    rw [← whole]
    exact List.cons_ne_nil _ _
  have first := List.head_dropWhile_not isJsSpace nonempty
  simp only [← whole, List.cons_append, List.head_cons] at first
  exact first

theorem jsTrim_last (c : Char) (front : List Char) (stops : (jsTrim text).toList = front ++ [c]) : isJsSpace c = false := by
  unfold jsTrim at stops
  rw [String.toList_ofList] at stops
  have last := List.rdropWhile_last_not isJsSpace (text.toList.dropWhile isJsSpace) (by rw [stops]; simp)
  simp only [stops, List.getLast_append_singleton] at last
  exact Bool.not_eq_true _ ▸ last

theorem jsTrim_ends (p : Char → Bool) (spaces : ∀ c, p c = true → isJsSpace c = true) :
    (jsTrim text).toList.dropWhile p = (jsTrim text).toList ∧ (jsTrim text).toList.rdropWhile p = (jsTrim text).toList := by
  constructor
  · cases whole : (jsTrim text).toList with
    | nil => rfl
    | cons c rest =>
        refine List.dropWhile_cons_of_neg ?_
        intro chosen
        have apart := jsTrim_head text c rest whole
        rw [spaces c chosen] at apart
        cases apart
  · rcases List.eq_nil_or_concat (jsTrim text).toList with none | ⟨front, c, whole⟩
    · rw [none]
      rfl
    · rw [List.concat_eq_append] at whole
      rw [whole]
      refine List.rdropWhile_concat_neg _ _ _ ?_
      intro chosen
      have apart := jsTrim_last text c front whole
      rw [spaces c chosen] at apart
      cases apart

theorem jsTrim_length : (jsTrim text).toList.length ≤ text.toList.length := by
  unfold jsTrim
  rw [String.toList_ofList]
  refine le_trans (List.rdropWhile_prefix _ _).length_le ?_
  exact (List.dropWhile_suffix _).length_le

end Trimming

section Ends

theorem jsTrim_between (left middle right : List Char) (spaces : ∀ c ∈ left, isJsSpace c = true)
    (spaces' : ∀ c ∈ right, isJsSpace c = true) : jsTrim (String.ofList (left ++ middle ++ right)) = jsTrim (String.ofList middle) := by
  unfold jsTrim
  rw [String.toList_ofList, String.toList_ofList, List.append_assoc, List.dropWhile_append_of_pos spaces, List.dropWhile_append]
  cases front : middle.dropWhile isJsSpace with
  | nil =>
      have none : right.dropWhile isJsSpace = [] := List.dropWhile_eq_nil_iff.mpr spaces'
      rw [List.isEmpty_nil, if_pos rfl, none]
  | cons c rest =>
      rw [List.isEmpty_cons, if_neg Bool.false_ne_true, List.rdropWhile, List.rdropWhile, List.reverse_append,
        List.dropWhile_append_of_pos (fun c member => spaces' c (List.mem_reverse.mp member))]

theorem jsTrim_keepsEnds (f : List Char → List Char) (keeps : KeepsEnds isJsSpace f) (text : String) :
    jsTrim (String.ofList (f (jsTrim text).toList)) = jsTrim (String.ofList (f text.toList)) := by
  have whole : text.toList.takeWhile isJsSpace ++ (jsTrim text).toList ++ (text.toList.dropWhile isJsSpace).rtakeWhile isJsSpace =
      text.toList := by
    unfold jsTrim
    rw [String.toList_ofList, List.append_assoc, List.rdropWhile_append_rtakeWhile, List.takeWhile_append_dropWhile]
  obtain ⟨left, right, white, white', same⟩ := keeps (text.toList.takeWhile isJsSpace) (jsTrim text).toList
    ((text.toList.dropWhile isJsSpace).rtakeWhile isJsSpace) (fun _ member => List.mem_takeWhile_imp member)
    (fun _ member => List.mem_rtakeWhile_imp member)
  rw [whole] at same
  rw [same, jsTrim_between _ _ _ white white']

end Ends

end EduAi.Store
