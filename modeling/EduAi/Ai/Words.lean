import EduAi.Store.Text

set_option autoImplicit false

namespace EduAi.Ai

open EduAi.Store

def collapseSpaces (s : Units) : Units :=
  replaceRuns isSpace blank s

def join (words : List Units) : Units :=
  [blank].intercalate words

def wordsOf (s : Units) : List Units :=
  (s.splitOnP isSpace).filter (fun w => !w.isEmpty)

theorem wordsOf_space (c : UInt16) (s : Units) (space : isSpace c = true) : wordsOf (c :: s) = wordsOf s := by
  rw [wordsOf, List.splitOnP_cons_eq_if_modifyHead, if_pos space]
  rfl

theorem wordsOf_append_space (s : Units) (c : UInt16) (space : isSpace c = true) : wordsOf (s ++ [c]) = wordsOf s := by
  rw [wordsOf, List.splitOnP_append_cons s [] space, List.filter_append]
  simp [wordsOf]

theorem wordsOf_dropWhile (s : Units) : wordsOf (s.dropWhile isSpace) = wordsOf s := by
  induction s with
  | nil => rfl
  | cons c rest ih =>
      by_cases space : isSpace c = true
      · rw [List.dropWhile_cons_of_pos space, ih, wordsOf_space c rest space]
      · rw [List.dropWhile_cons_of_neg space]

theorem wordsOf_rdropWhile (s : Units) : wordsOf (s.rdropWhile isSpace) = wordsOf s := by
  induction s using List.reverseRecOn with
  | nil => rfl
  | append_singleton s c ih =>
      by_cases space : isSpace c = true
      · rw [List.rdropWhile_concat_pos _ _ _ space, ih, wordsOf_append_space s c space]
      · rw [List.rdropWhile_concat_neg _ _ _ space]

theorem wordsOf_trim (s : Units) : wordsOf (trim s) = wordsOf s := by
  rw [trim, strip, wordsOf_rdropWhile, wordsOf_dropWhile]

theorem normalized_split (s : Units) (some : collapseSpaces (trim s) ≠ []) :
    (collapseSpaces (trim s)).splitOn blank = wordsOf s := by
  have there : trim s ≠ [] := fun none => some ((replaceRuns_empty isSpace blank _).mpr none)
  rw [collapseSpaces, replaceRuns_split isSpace blank isSpace_blank (trim s) there (strip_starts isSpace s)
    (rdropWhile_ends isSpace _), ← wordsOf, wordsOf_trim]

theorem normalized_empty (s : Units) (none : collapseSpaces (trim s) = []) : wordsOf s = [] := by
  rw [← wordsOf_trim, (replaceRuns_empty isSpace blank _).mp none]
  rfl

structure Word (w : Units) : Prop where
  some : w ≠ []
  letters : ∀ c ∈ w, isSpace c = false

theorem wordsOf_word (s w : Units) (member : w ∈ wordsOf s) : Word w := by
  obtain ⟨piece, some⟩ := List.mem_filter.mp member
  exact ⟨by simpa using some, fun c inWord => (splitOnP_letters isSpace s w piece c inWord).2⟩

theorem wordsOf_join (words : List Units) (all : ∀ w ∈ words, Word w) : wordsOf (join words) = words := by
  induction words with
  | nil => rfl
  | cons w rest ih =>
      have here := all w List.mem_cons_self
      have kept : (!w.isEmpty) = true := by simpa using here.some
      cases rest with
      | nil =>
          rw [join, List.intercalate_singleton, wordsOf, List.splitOnP_eq_singleton here.letters]
          simp [kept]
      | cons v rest =>
          have split := List.splitOnP_append_cons_of_forall_mem here.letters blank isSpace_blank (join (v :: rest))
          have later := ih (fun x member => all x (List.mem_cons_of_mem _ member))
          rw [join, List.intercalate_cons_cons, List.append_assoc, List.singleton_append, ← join, wordsOf, split,
            List.filter_cons, if_pos kept, ← wordsOf, later]

end EduAi.Ai
