import EduAi.Store.Decimal
import Mathlib.Data.Finset.Card

set_option autoImplicit false

namespace EduAi.Learning

open EduAi.Store

def hyphen : UInt16 := 45

-- a-z and 0-9.
def isSlugChar (c : UInt16) : Bool :=
  decide (97 ≤ c.toNat ∧ c.toNat ≤ 122) || isDigit c

def isHyphen (c : UInt16) : Bool :=
  c == hyphen

def isMark (c : UInt16) : Bool :=
  decide (0x300 ≤ c.toNat ∧ c.toNat ≤ 0x36F)

section Title

-- String.prototype.toLowerCase and normalize('NFD') by the tables of Unicode.
variable (toLowerCase nfd : Units → Units)

def normalizedTitle (title : Units) : Units :=
  let folded := nfd ((toLowerCase (trim title)).map (fun c => if c = 0x111 then 100 else c))
  strip isHyphen (replaceRuns (fun c => !isSlugChar c) hyphen (folded.filter (fun c => !isMark c)))

def slugBase (title : Units) : Units :=
  let normalized := normalizedTitle toLowerCase nfd title
  ((if normalized.isEmpty then ascii "course" else normalized).take 120).rdropWhile isHyphen

end Title

def slugSuffix (index : Nat) : Units :=
  if index = 1 then [] else hyphen :: decimal index

def slugCandidate (base : Units) (index : Nat) : Units :=
  (base.take (120 - (slugSuffix index).length)).rdropWhile isHyphen ++ slugSuffix index

def firstFree (existing : Finset Units) (base : Units) : Nat → Nat → Option Units
  | 0, _ => none
  | iterations + 1, index =>
      let candidate := slugCandidate base index
      if candidate ∈ existing then firstFree existing base iterations (index + 1) else some candidate

def createUniqueCourseSlug (toLowerCase nfd : Units → Units) (existing : Finset Units) (iterations : Nat) (title : Units) :
    Option Units :=
  firstFree existing (slugBase toLowerCase nfd title) iterations 1

structure SlugForm (s : Units) : Prop where
  words : ∃ words : List Units, words ≠ [] ∧ (∀ w ∈ words, w ≠ [] ∧ ∀ c ∈ w, isSlugChar c = true) ∧
    s = [hyphen].intercalate words

structure Stem (s : Units) : Prop where
  some : s ≠ []
  chars : ∀ c ∈ s, isSlugChar c = true ∨ c = hyphen
  starts : startsWith isHyphen s = false
  single : s.IsChain (fun a b => ¬ (a = hyphen ∧ b = hyphen))

theorem hyphen_not_char : isSlugChar hyphen = false := by
  decide

theorem isHyphen_iff (c : UInt16) : isHyphen c = true ↔ c = hyphen := by
  simp [isHyphen]

theorem char_not_hyphen (c : UInt16) (char : isSlugChar c = true) : isHyphen c = false := by
  by_contra same
  rw [Bool.not_eq_false, isHyphen_iff] at same
  rw [same, hyphen_not_char] at char
  cases char

theorem digit_char (c : UInt16) (digit : isDigit c = true) : isSlugChar c = true := by
  rw [isSlugChar, digit, Bool.or_true]

theorem hyphens_kept (s : Units) (single : s.IsChain (fun a b => ¬ (a = hyphen ∧ b = hyphen))) :
    replaceRuns isHyphen hyphen s = s := by
  induction s with
  | nil => rfl
  | cons c rest ih =>
      have later := ih single.of_cons
      rw [replaceRuns]
      by_cases mark : isHyphen c = true
      · have here := (isHyphen_iff c).mp mark
        have alone : startsWith isHyphen rest = false := by
          cases rest with
          | nil => rfl
          | cons d rest =>
              have pair := List.isChain_cons_cons.mp single
              by_contra again
              rw [Bool.not_eq_false] at again
              exact pair.1 ⟨here, (isHyphen_iff d).mp again⟩
        rw [if_pos mark, alone, later, here]
        rfl
      · rw [if_neg mark, later]

theorem slug_form (s : Units) (stem : Stem s) (ends : ∀ c ∈ s.getLast?, isHyphen c = false) : SlugForm s := by
  have parts := replaceRuns_split isHyphen hyphen rfl s stem.some stem.starts ends
  rw [hyphens_kept s stem.single] at parts
  refine ⟨⟨s.splitOn hyphen, List.splitOn_ne_nil _ _, ?_, (List.intercalate_splitOn hyphen).symm⟩⟩
  intro w member
  have piece := member
  rw [parts] at piece
  refine ⟨by simpa using (List.mem_filter.mp piece).2, ?_⟩
  intro c inWord
  obtain ⟨inside, letter⟩ := splitOnP_letters isHyphen s w (List.mem_filter.mp piece).1 c inWord
  rcases stem.chars c inside with char | same
  · exact char
  · rw [(isHyphen_iff c).mpr same] at letter
    cases letter

theorem stem_start (s whole : Units) (stem : Stem whole) (begins : s <+: whole) (some : s ≠ []) : Stem s :=
  ⟨some, fun c member => stem.chars c (begins.subset member), prefix_starts isHyphen s whole begins stem.starts,
    stem.single.prefix begins⟩

theorem stem_trimmed (s : Units) (stem : Stem s) : Stem (s.rdropWhile isHyphen) := by
  refine stem_start _ s stem (List.rdropWhile_prefix isHyphen s) ?_
  intro none
  have all := List.rdropWhile_eq_nil_iff.mp none
  cases s with
  | nil => exact stem.some rfl
  | cons c rest =>
      have starts : isHyphen c = false := stem.starts
      rw [all c List.mem_cons_self] at starts
      cases starts

section Base

variable (toLowerCase nfd : Units → Units)

theorem normalized_stem (title : Units) (some : normalizedTitle toLowerCase nfd title ≠ []) :
    Stem (normalizedTitle toLowerCase nfd title) := by
  have marked : (!isSlugChar hyphen) = true := rfl
  unfold normalizedTitle at *
  dsimp only at *
  generalize (nfd ((toLowerCase (trim title)).map (fun c => if c = 0x111 then 100 else c))).filter (fun c => !isMark c) =
    folded at *
  have single := replaceRuns_single (fun c => !isSlugChar c) hyphen folded marked
  have chars := replaceRuns_mem (fun c => !isSlugChar c) hyphen folded
  have inside : strip isHyphen (replaceRuns (fun c => !isSlugChar c) hyphen folded) <:+:
      replaceRuns (fun c => !isSlugChar c) hyphen folded :=
    (List.rdropWhile_prefix isHyphen _).isInfix.trans (List.dropWhile_suffix isHyphen).isInfix
  refine ⟨some, ?_, strip_starts isHyphen _, single.infix inside⟩
  intro c member
  rcases chars c (inside.subset member) with same | letter
  · exact .inr same
  · exact .inl (by simpa using letter)

theorem course_stem : Stem (ascii "course") where
  some := by decide
  chars := each_of_all _ _ (by decide)
  starts := by decide
  single := by decide

theorem base_stem (title : Units) : Stem (slugBase toLowerCase nfd title) := by
  have whole : Stem (if (normalizedTitle toLowerCase nfd title).isEmpty then ascii "course"
      else normalizedTitle toLowerCase nfd title) := by
    by_cases none : normalizedTitle toLowerCase nfd title = []
    · rw [none]
      exact course_stem
    · rw [if_neg (by simpa using none)]
      exact normalized_stem toLowerCase nfd title none
  refine stem_trimmed _ (stem_start _ _ whole (List.take_prefix 120 _) ?_)
  intro none
  rcases List.take_eq_nil_iff.mp none with zero | empty
  · cases zero
  · exact whole.some empty

end Base

theorem digits_no_hyphen (index : Nat) (c : UInt16) (member : c ∈ decimal index) : isHyphen c = false :=
  char_not_hyphen c (digit_char c (decimal_digits index c member))

theorem numbered_form (front : Units) (index : Nat) (body : Stem front) (ends : ∀ c ∈ front.getLast?, isHyphen c = false) :
    SlugForm (front ++ hyphen :: decimal index) := by
  have some := List.ne_nil_of_length_pos (decimal_length_pos index)
  have noHyphen := digits_no_hyphen index
  refine slug_form _ ⟨?_, ?_, ?_, ?_⟩ ?_
  · simp
  · intro c member
    rcases List.mem_append.mp member with inFront | inSuffix
    · exact body.chars c inFront
    · rcases List.mem_cons.mp inSuffix with rfl | inDigits
      · exact .inr rfl
      · exact .inl (digit_char c (decimal_digits index c inDigits))
  · cases shape : front with
    | nil => exact absurd shape body.some
    | cons c rest =>
        have starts := body.starts
        rw [shape] at starts
        exact starts
  · rw [List.isChain_append, List.isChain_cons]
    refine ⟨body.single, ⟨?_, ?_⟩, ?_⟩
    · rintro d head ⟨_, same⟩
      have letter := noHyphen d (List.mem_of_mem_head? head)
      rw [(isHyphen_iff d).mpr same] at letter
      cases letter
    · refine List.Pairwise.isChain (List.pairwise_of_forall_mem_list ?_)
      rintro a memberA b _ ⟨same, _⟩
      have letter := noHyphen a memberA
      rw [(isHyphen_iff a).mpr same] at letter
      cases letter
    · rintro d last e _ ⟨same, _⟩
      have letter := ends d last
      rw [(isHyphen_iff d).mpr same] at letter
      cases letter
  · intro c last
    rw [List.getLast?_append_cons, getLast?_cons_some hyphen _ some] at last
    exact noHyphen c (List.mem_of_getLast? last)

theorem last_part_eq (x y : Units) (i j : Nat) (same : x ++ hyphen :: decimal i = y ++ hyphen :: decimal j) :
    decimal i = decimal j := by
  have part (z : Units) (k : Nat) : ((z ++ hyphen :: decimal k).reverse.takeWhile (fun c => !isHyphen c)).reverse = decimal k := by
    have all : ∀ c ∈ (decimal k).reverse, (!isHyphen c) = true := by
      intro c member
      simp [digits_no_hyphen k c (List.mem_reverse.mp member)]
    rw [List.reverse_append, List.reverse_cons, List.append_assoc, List.takeWhile_append_of_pos all]
    simp [isHyphen]
  rw [← part x i, same, part]

section Candidates

variable (base : Units) (stem : Stem base)

theorem suffix_length (index : Nat) (small : index < 10 ^ 16) : (slugSuffix index).length ≤ 17 := by
  have short := decimal_length_le index 16 small (by omega)
  rw [slugSuffix]
  by_cases first : index = 1
  · rw [if_pos first]
    exact Nat.zero_le _
  · rw [if_neg first, List.length_cons]
    omega

include stem in
theorem body_stem (index : Nat) (small : index < 10 ^ 16) :
    Stem ((base.take (120 - (slugSuffix index).length)).rdropWhile isHyphen) := by
  have short := suffix_length index small
  refine stem_trimmed _ (stem_start _ _ stem (List.take_prefix _ _) ?_)
  intro none
  rcases List.take_eq_nil_iff.mp none with zero | empty
  · omega
  · exact stem.some empty

theorem candidate_length (index : Nat) (small : index < 10 ^ 16) : (slugCandidate base index).length ≤ 120 := by
  have short := suffix_length index small
  have kept := (List.rdropWhile_prefix isHyphen (base.take (120 - (slugSuffix index).length))).length_le
  rw [List.length_take] at kept
  rw [slugCandidate, List.length_append]
  omega

include stem in
theorem candidate_form (index : Nat) (small : index < 10 ^ 16) : SlugForm (slugCandidate base index) := by
  have body := body_stem base stem index small
  have ends := rdropWhile_ends isHyphen (base.take (120 - (slugSuffix index).length))
  rw [slugCandidate]
  generalize (base.take (120 - (slugSuffix index).length)).rdropWhile isHyphen = front at *
  by_cases first : index = 1
  · rw [slugSuffix, if_pos first, List.append_nil]
    exact slug_form front body ends
  · rw [slugSuffix, if_neg first]
    exact numbered_form front index body ends

theorem candidate_injective (i j : Nat) (afterI : 2 ≤ i) (afterJ : 2 ≤ j)
    (same : slugCandidate base i = slugCandidate base j) : i = j := by
  rw [slugCandidate, slugCandidate, slugSuffix, slugSuffix, if_neg (by omega), if_neg (by omega)] at same
  exact decimal_injective i j (last_part_eq _ _ _ _ same)

end Candidates

section Loop

variable (existing : Finset Units) (base : Units)

theorem firstFree_some (iterations index : Nat) (slug : Units) (found : firstFree existing base iterations index = some slug) :
    slug ∉ existing ∧ ∃ k, k < iterations ∧ slug = slugCandidate base (index + k) := by
  induction iterations generalizing index with
  | zero => cases found
  | succ iterations ih =>
      rw [firstFree] at found
      by_cases taken : slugCandidate base index ∈ existing
      · rw [if_pos taken] at found
        obtain ⟨free, k, inside, same⟩ := ih (index + 1) found
        exact ⟨free, k + 1, by omega, by rw [same, Nat.add_assoc, Nat.add_comm 1 k]⟩
      · rw [if_neg taken] at found
        obtain rfl := Option.some.inj found
        exact ⟨taken, 0, by omega, rfl⟩

theorem firstFree_none (iterations index : Nat) (none : firstFree existing base iterations index = none) :
    ∀ k < iterations, slugCandidate base (index + k) ∈ existing := by
  induction iterations generalizing index with
  | zero => exact fun k inside => absurd inside (Nat.not_lt_zero k)
  | succ iterations ih =>
      intro k inside
      rw [firstFree] at none
      by_cases taken : slugCandidate base index ∈ existing
      · rw [if_pos taken] at none
        cases k with
        | zero => exact taken
        | succ k =>
            have later := ih (index + 1) none k (by omega)
            rw [Nat.add_assoc, Nat.add_comm 1 k] at later
            exact later
      · rw [if_neg taken] at none
        cases none

theorem firstFree_ends : ∃ slug, firstFree existing base (existing.card + 2) 1 = some slug := by
  cases searched : firstFree existing base (existing.card + 2) 1 with
  | some slug => exact ⟨slug, rfl⟩
  | none =>
      have taken := firstFree_none existing base (existing.card + 2) 1 searched
      have many := Finset.card_le_card_of_injOn (s := Finset.range (existing.card + 1)) (t := existing)
        (fun k => slugCandidate base (k + 2))
        (by
          intro k member
          have inside := Finset.mem_range.mp member
          have found := taken (k + 1) (by omega)
          rw [Nat.add_comm 1 (k + 1)] at found
          exact found)
        (by
          intro i _ j _ same
          have level := candidate_injective base (i + 2) (j + 2) (by omega) (by omega) same
          omega)
      rw [Finset.card_range] at many
      omega

end Loop

/-- Below 2^52 slugs the counter stays a number that the source adds to and prints exactly. -/
theorem createUniqueCourseSlug_free (toLowerCase nfd : Units → Units) (title : Units) (existing : Finset Units)
    (few : existing.card < 2 ^ 52) :
    ∃ slug, createUniqueCourseSlug toLowerCase nfd existing (existing.card + 2) title = some slug ∧
      slug ∉ existing ∧ slug.length ≤ 120 ∧ SlugForm slug := by
  obtain ⟨slug, found⟩ := firstFree_ends existing (slugBase toLowerCase nfd title)
  obtain ⟨free, k, inside, same⟩ := firstFree_some existing _ _ 1 slug found
  have small : 1 + k < 10 ^ 16 := by omega
  refine ⟨slug, found, free, ?_, ?_⟩
  · rw [same]
    exact candidate_length _ (1 + k) small
  · rw [same]
    exact candidate_form _ (base_stem toLowerCase nfd title) (1 + k) small

theorem createUniqueCourseSlug_free_sample :
    createUniqueCourseSlug id id {ascii "intro-to-ai", ascii "intro-to-ai-2"} 4 (ascii " intro to - ai! ") =
      some (ascii "intro-to-ai-3") ∧ SlugForm (ascii "intro-to-ai-3") := by
  have found : createUniqueCourseSlug id id {ascii "intro-to-ai", ascii "intro-to-ai-2"} 4 (ascii " intro to - ai! ") =
      some (ascii "intro-to-ai-3") := by
    decide +kernel
  obtain ⟨slug, answer, _, _, form⟩ := createUniqueCourseSlug_free id id (ascii " intro to - ai! ")
    {ascii "intro-to-ai", ascii "intro-to-ai-2"} (by decide)
  have count : ({ascii "intro-to-ai", ascii "intro-to-ai-2"} : Finset Units).card + 2 = 4 := by decide
  rw [count, found] at answer
  obtain rfl := Option.some.inj answer
  exact ⟨found, form⟩

end EduAi.Learning
