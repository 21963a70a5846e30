import Mathlib.Data.List.Chain
import Mathlib.Data.List.DropRight

set_option autoImplicit false

namespace EduAi.Store

-- A string of the source: its UTF-16 code units.
abbrev Units := List UInt16

instance lawfulUnits : LawfulBEq Units :=
  inferInstance

def ascii (s : String) : Units :=
  s.toList.map (fun c => c.toNat.toUInt16)

theorem each_of_all {α : Type} (P : α → Prop) [DecidablePred P] (l : List α) (all : l.all (fun x => decide (P x)) = true) :
    ∀ x ∈ l, P x := by
  intro x member
  exact of_decide_eq_true (List.all_eq_true.mp all x member)

def blank : UInt16 := 0x20

-- The code units that \s matches; trim takes the same ones away.
def isSpace (c : UInt16) : Bool :=
  [0x09, 0x0A, 0x0B, 0x0C, 0x0D, 0x20, 0xA0, 0x1680, 0x2000, 0x2001, 0x2002, 0x2003, 0x2004, 0x2005, 0x2006, 0x2007, 0x2008,
    0x2009, 0x200A, 0x2028, 0x2029, 0x202F, 0x205F, 0x3000, 0xFEFF].contains c

theorem isSpace_blank : isSpace blank = true := by
  decide

def strip {α : Type} (p : α → Bool) (s : List α) : List α :=
  (s.dropWhile p).rdropWhile p

def trim (s : Units) : Units :=
  strip isSpace s

def startsWith {α : Type} (p : α → Bool) (s : List α) : Bool :=
  s.head?.any p

def replaceRuns {α : Type} (p : α → Bool) (mark : α) : List α → List α
  | [] => []
  | c :: rest =>
      if p c then if startsWith p rest then replaceRuns p mark rest else mark :: replaceRuns p mark rest
      else c :: replaceRuns p mark rest

section Runs

variable (p : UInt16 → Bool) (mark : UInt16)

theorem dropWhile_starts (s : Units) : startsWith p (s.dropWhile p) = false := by
  induction s with
  | nil => rfl
  | cons c rest ih =>
      by_cases run : p c = true
      · rw [List.dropWhile_cons_of_pos run, ih]
      · rw [List.dropWhile_cons_of_neg run]
        simpa [startsWith] using run

theorem prefix_starts (s whole : Units) (begins : s <+: whole) (starts : startsWith p whole = false) :
    startsWith p s = false := by
  obtain ⟨removed, rfl⟩ := begins
  cases s with
  | nil => rfl
  | cons c rest => exact starts

theorem rdropWhile_ends (s : Units) : ∀ c ∈ (s.rdropWhile p).getLast?, p c = false := by
  intro c last
  have some : s.rdropWhile p ≠ [] := by
    intro none
    rw [none] at last
    cases last
  have ends := List.rdropWhile_last_not p s some
  rw [List.getLast?_eq_some_getLast some, Option.mem_some_iff] at last
  rw [last] at ends
  simpa using ends

theorem strip_starts (s : Units) : startsWith p (strip p s) = false :=
  prefix_starts p _ _ (List.rdropWhile_prefix p _) (dropWhile_starts p s)

theorem replaceRuns_empty (s : Units) : replaceRuns p mark s = [] ↔ s = [] := by
  induction s with
  | nil => simp [replaceRuns]
  | cons c rest ih =>
      rw [replaceRuns]
      by_cases run : p c = true
      · by_cases again : startsWith p rest = true
        · rw [if_pos run, if_pos again, ih]
          refine ⟨fun none => ?_, fun none => absurd none (by simp)⟩
          rw [none] at again
          cases again
        · rw [if_pos run, if_neg again]
          simp
      · rw [if_neg run]
        simp

theorem replaceRuns_mem (s : Units) (c : UInt16) (member : c ∈ replaceRuns p mark s) : c = mark ∨ p c = false := by
  induction s with
  | nil => cases member
  | cons d rest ih =>
      rw [replaceRuns] at member
      by_cases run : p d = true
      · by_cases again : startsWith p rest = true
        · rw [if_pos run, if_pos again] at member
          exact ih member
        · rw [if_pos run, if_neg again] at member
          rcases List.mem_cons.mp member with rfl | inRest
          · exact .inl rfl
          · exact ih inRest
      · rw [if_neg run] at member
        rcases List.mem_cons.mp member with rfl | inRest
        · exact .inr (by simpa using run)
        · exact ih inRest

theorem replaceRuns_starts (s : Units) (marked : p mark = true) : startsWith (· == mark) (replaceRuns p mark s) = startsWith p s := by
  induction s with
  | nil => rfl
  | cons c rest ih =>
      rw [replaceRuns]
      by_cases run : p c = true
      · by_cases again : startsWith p rest = true
        · rw [if_pos run, if_pos again, ih, again]
          exact run.symm
        · rw [if_pos run, if_neg again]
          simp [startsWith, run]
      · rw [if_neg run]
        have other : c ≠ mark := by
          intro same
          rw [same] at run
          exact run marked
        simp [startsWith, run, other]

theorem replaceRuns_single (s : Units) (marked : p mark = true) :
    (replaceRuns p mark s).IsChain (fun a b => ¬ (a = mark ∧ b = mark)) := by
  induction s with
  | nil => exact List.IsChain.nil
  | cons c rest ih =>
      rw [replaceRuns]
      by_cases run : p c = true
      · by_cases again : startsWith p rest = true
        · rw [if_pos run, if_pos again]
          exact ih
        · rw [if_pos run, if_neg again, List.isChain_cons]
          refine ⟨?_, ih⟩
          rintro d head ⟨_, same⟩
          have starts := replaceRuns_starts p mark rest marked
          rw [startsWith, head, same] at starts
          exact again (starts.symm.trans (by simp))
      · rw [if_neg run, List.isChain_cons]
        refine ⟨?_, ih⟩
        rintro d _ ⟨same, _⟩
        rw [same] at run
        exact run marked

theorem splitOnP_letters (s : Units) : ∀ w ∈ s.splitOnP p, ∀ c ∈ w, c ∈ s ∧ p c = false := by
  induction s with
  | nil => simp
  | cons c s ih =>
      obtain ⟨first, rest, pieces⟩ := List.exists_cons_of_ne_nil (List.splitOnP_ne_nil p s)
      rw [List.splitOnP_cons_eq_if_modifyHead, pieces]
      rw [pieces] at ih
      have older (w : Units) (member : w ∈ first :: rest) (d : UInt16) (inWord : d ∈ w) : d ∈ c :: s ∧ p d = false :=
        ⟨List.mem_cons_of_mem _ (ih w member d inWord).1, (ih w member d inWord).2⟩
      by_cases run : p c = true
      · rw [if_pos run]
        intro w member
        rcases List.mem_cons.mp member with rfl | inRest
        · simp
        · exact older w inRest
      · rw [if_neg run, List.modifyHead_cons]
        intro w member
        rcases List.mem_cons.mp member with rfl | inRest
        · intro d inWord
          rcases List.mem_cons.mp inWord with rfl | inFirst
          · exact ⟨List.mem_cons_self, by simpa using run⟩
          · exact older first List.mem_cons_self d inFirst
        · exact older w (List.mem_cons_of_mem _ inRest)

structure Split (s : Units) (first : Units) (rest : List Units) : Prop where
  marks : (replaceRuns p mark s).splitOn mark = first :: rest
  runs : ∃ tail, s.splitOnP p = first :: tail ∧ tail.filter (fun w => !w.isEmpty) = rest.filter (fun w => !w.isEmpty)
  leading : first = [] ↔ s = [] ∨ startsWith p s = true
  inner : (∀ c ∈ s.getLast?, p c = false) → ∀ w ∈ rest, w ≠ []

theorem getLast?_cons_some (c : UInt16) (s : Units) (some : s ≠ []) : (c :: s).getLast? = s.getLast? := by
  cases s with
  | nil => exact absurd rfl some
  | cons d rest => rw [List.getLast?_cons_cons]

variable (marked : p mark = true)

include marked in
theorem split_letter (c : UInt16) (s first : Units) (rest : List Units) (letter : p c = false)
    (split : Split p mark s first rest) : Split p mark (c :: s) (c :: first) rest := by
  have other : (c == mark) = false := by
    by_contra same
    rw [Bool.not_eq_false, beq_iff_eq] at same
    rw [same, marked] at letter
    cases letter
  obtain ⟨tail, runs, rests⟩ := split.runs
  refine ⟨?_, ⟨tail, ?_, rests⟩, ?_, ?_⟩
  · rw [replaceRuns, if_neg (by simp [letter]), List.splitOn_cons_eq_if_modifyHead, if_neg (by simp [other]), split.marks]
    rfl
  · rw [List.splitOnP_cons_eq_if_modifyHead, if_neg (by simp [letter]), runs]
    rfl
  · simp [startsWith, letter]
  · intro last
    by_cases none : s = []
    · refine split.inner ?_
      rw [none]
      simp
    · rw [getLast?_cons_some c s none] at last
      exact split.inner last

theorem split_run (c : UInt16) (s first : Units) (rest : List Units) (run : p c = true)
    (split : Split p mark s first rest) : ∃ rest', Split p mark (c :: s) [] rest' := by
  obtain ⟨tail, runs, rests⟩ := split.runs
  have pieces : (c :: s).splitOnP p = [] :: first :: tail := by
    rw [List.splitOnP_cons_eq_if_modifyHead, if_pos run, runs]
  have leads : startsWith p (c :: s) = true := run
  by_cases again : startsWith p s = true
  · have empty : first = [] := split.leading.mpr (.inr again)
    have some : s ≠ [] := by
      intro none
      rw [none] at again
      cases again
    refine ⟨rest, ?_, ⟨first :: tail, pieces, ?_⟩, by simp [leads], ?_⟩
    · rw [replaceRuns, if_pos run, if_pos again, split.marks, empty]
    · rw [empty]
      exact rests
    · rw [getLast?_cons_some c s some]
      exact split.inner
  · refine ⟨first :: rest, ?_, ⟨first :: tail, pieces, ?_⟩, by simp [leads], ?_⟩
    · rw [replaceRuns, if_pos run, if_neg again, List.splitOn_cons_eq_if_modifyHead, if_pos (by simp), split.marks]
    · rw [List.filter_cons, List.filter_cons, rests]
    · intro last w member
      by_cases none : s = []
      · have itself := last c (by simp [none])
        rw [run] at itself
        cases itself
      · rw [getLast?_cons_some c s none] at last
        rcases List.mem_cons.mp member with rfl | inRest
        · intro empty
          exact (split.leading.mp empty).elim none again
        · exact split.inner last w inRest

include marked in
theorem split_exists (s : Units) : ∃ first rest, Split p mark s first rest := by
  induction s with
  | nil => exact ⟨[], [], rfl, ⟨[], rfl, rfl⟩, by simp, by simp⟩
  | cons c s ih =>
      obtain ⟨first, rest, split⟩ := ih
      by_cases run : p c = true
      · exact ⟨[], split_run p mark c s first rest run split⟩
      · exact ⟨c :: first, rest, split_letter p mark marked c s first rest (by simpa using run) split⟩

include marked in
theorem replaceRuns_split (s : Units) (some : s ≠ []) (starts : startsWith p s = false)
    (ends : ∀ c ∈ s.getLast?, p c = false) :
    (replaceRuns p mark s).splitOn mark = (s.splitOnP p).filter (fun w => !w.isEmpty) := by
  obtain ⟨first, rest, split⟩ := split_exists p mark marked s
  obtain ⟨tail, runs, rests⟩ := split.runs
  have full : ∀ w ∈ first :: rest, w ≠ [] := by
    intro w member
    rcases List.mem_cons.mp member with rfl | inRest
    · intro empty
      rcases split.leading.mp empty with none | leads
      · exact some none
      · rw [starts] at leads
        cases leads
    · exact split.inner ends w inRest
  have kept : (first :: rest).filter (fun w => !w.isEmpty) = first :: rest := by
    rw [List.filter_eq_self]
    intro w member
    simpa using full w member
  have same : (first :: tail).filter (fun w => !w.isEmpty) = (first :: rest).filter (fun w => !w.isEmpty) := by
    rw [List.filter_cons, List.filter_cons, rests]
  rw [split.marks, runs, same, kept]

end Runs

section Ends

def KeepsEnds {α : Type} (p : α → Bool) (f : List α → List α) : Prop :=
  ∀ left middle right, (∀ c ∈ left, p c = true) → (∀ c ∈ right, p c = true) →
    ∃ left' right', (∀ c ∈ left', p c = true) ∧ (∀ c ∈ right', p c = true) ∧ f (left ++ middle ++ right) = left' ++ f middle ++ right'

variable {α : Type} {p : α → Bool} {f g : List α → List α} {mark : α}

theorem keepsEnds_id : KeepsEnds p id := by
  intro left middle right inP inP'
  exact ⟨left, right, inP, inP', rfl⟩

theorem keepsEnds_comp (keeps : KeepsEnds p f) (keeps' : KeepsEnds p g) : KeepsEnds p (g ∘ f) := by
  intro left middle right inP inP'
  obtain ⟨left₁, right₁, in₁, in₁', first⟩ := keeps left middle right inP inP'
  obtain ⟨left₂, right₂, in₂, in₂', second⟩ := keeps' left₁ (f middle) right₁ in₁ in₁'
  refine ⟨left₂, right₂, in₂, in₂', ?_⟩
  rw [Function.comp_apply, first, second]
  rfl

theorem keepsEnds_filter (keep : α → Bool) : KeepsEnds p (List.filter keep) := by
  intro left middle right inP inP'
  refine ⟨left.filter keep, right.filter keep, fun c member => inP c (List.mem_of_mem_filter member),
    fun c member => inP' c (List.mem_of_mem_filter member), ?_⟩
  rw [List.filter_append, List.filter_append]

theorem keepsEnds_map (h : α → α) (stays : ∀ c, p c = true → p (h c) = true) : KeepsEnds p (List.map h) := by
  have kept (ends : List α) (inP : ∀ c ∈ ends, p c = true) : ∀ c ∈ ends.map h, p c = true := by
    intro c member
    obtain ⟨d, inEnds, rfl⟩ := List.mem_map.mp member
    exact stays d (inP d inEnds)
  intro left middle right inP inP'
  refine ⟨left.map h, right.map h, kept left inP, kept right inP', ?_⟩
  rw [List.map_append, List.map_append]

theorem replaceRuns_run (c : α) (rest : List α) (inP : ∀ d ∈ c :: rest, p d = true) : replaceRuns p mark (c :: rest) = [mark] := by
  induction rest generalizing c with
  | nil =>
      rw [replaceRuns, if_pos (inP c List.mem_cons_self)]
      rfl
  | cons d rest ih =>
      have later : ∀ e ∈ d :: rest, p e = true := fun e member => inP e (List.mem_cons_of_mem c member)
      have again : startsWith p (d :: rest) = true := later d List.mem_cons_self
      rw [replaceRuns, if_pos (inP c List.mem_cons_self), if_pos again]
      exact ih d later

theorem replaceRuns_left (marked : p mark = true) (left rest : List α) (inP : ∀ c ∈ left, p c = true) :
    ∃ left', (∀ c ∈ left', p c = true) ∧ replaceRuns p mark (left ++ rest) = left' ++ replaceRuns p mark rest := by
  induction left with
  | nil => exact ⟨[], fun c member => absurd member List.not_mem_nil, rfl⟩
  | cons d left ih =>
      obtain ⟨left', in', same⟩ := ih (fun c member => inP c (List.mem_cons_of_mem d member))
      rw [List.cons_append, replaceRuns, if_pos (inP d List.mem_cons_self), same]
      by_cases again : startsWith p (left ++ rest) = true
      · rw [if_pos again]
        exact ⟨left', in', rfl⟩
      · rw [if_neg again]
        exact ⟨mark :: left', List.forall_mem_cons.mpr ⟨marked, in'⟩, rfl⟩

theorem replaceRuns_right (marked : p mark = true) (text right : List α) (inP : ∀ c ∈ right, p c = true) :
    ∃ right', (∀ c ∈ right', p c = true) ∧ replaceRuns p mark (text ++ right) = replaceRuns p mark text ++ right' := by
  have one : ∀ c ∈ [mark], p c = true := List.forall_mem_singleton.mpr marked
  have none : ∀ c ∈ ([] : List α), p c = true := fun c member => absurd member List.not_mem_nil
  induction text with
  | nil =>
      cases right with
      | nil => exact ⟨[], none, rfl⟩
      | cons c right => exact ⟨[mark], one, replaceRuns_run c right inP⟩
  | cons d rest ih =>
      obtain ⟨right', in', same⟩ := ih
      by_cases run : p d = true
      · cases rest with
        | nil =>
            refine ⟨[], none, ?_⟩
            rw [List.singleton_append, replaceRuns_run d right (List.forall_mem_cons.mpr ⟨run, inP⟩), replaceRuns_run d []
              (List.forall_mem_singleton.mpr run)]
            rfl
        | cons e rest =>
            refine ⟨right', in', ?_⟩
            have heads : startsWith p (e :: rest ++ right) = startsWith p (e :: rest) := rfl
            rw [List.cons_append, replaceRuns, replaceRuns, if_pos run, if_pos run, heads, same]
            by_cases again : startsWith p (e :: rest) = true
            · rw [if_pos again, if_pos again]
            · rw [if_neg again, if_neg again]
              rfl
      · refine ⟨right', in', ?_⟩
        rw [List.cons_append, replaceRuns, replaceRuns, if_neg run, if_neg run, same]
        rfl

theorem keepsEnds_replaceRuns (marked : p mark = true) : KeepsEnds p (replaceRuns p mark) := by
  intro left middle right inP inP'
  obtain ⟨left', in', begins⟩ := replaceRuns_left marked left (middle ++ right) inP
  obtain ⟨right', in'', stops⟩ := replaceRuns_right marked middle right inP'
  refine ⟨left', right', in', in'', ?_⟩
  rw [List.append_assoc, begins, stops, List.append_assoc]

end Ends

end EduAi.Store
