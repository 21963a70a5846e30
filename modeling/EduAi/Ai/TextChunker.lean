import EduAi.Ai.Words
import EduAi.Store.Overlaps
import Mathlib.Algebra.GroupWithZero.Nat

set_option autoImplicit false

namespace EduAi.Ai

open EduAi.Store

structure TextChunk where
  index : Nat
  text : Units
deriving DecidableEq, Repr

def defaultMaxChars : Int := 1200

def defaultOverlapChars : Int := 200

def chars (words : List Units) : Int :=
  (join words).length

def takeOverlap (words : List Units) (maxChars : Int) : List Units :=
  takeSuffix chars maxChars words

structure Chunking where
  chunks : List TextChunk
  current : List Units

def Chunking.pushed (s : Chunking) : List TextChunk :=
  s.chunks ++ [{ index := s.chunks.length, text := join s.current }]

def Chunking.take (maxChars overlapChars : Int) (s : Chunking) (word : Units) : Chunking :=
  let candidate := join (s.current ++ [word])
  if s.current.length > 0 ∧ (candidate.length : Int) > maxChars then
    { chunks := s.pushed, current := takeOverlap s.current overlapChars ++ [word] }
  else { s with current := s.current ++ [word] }

def chunkText (value : Units) (maxChars overlapChars : Int) : Except String (List TextChunk) :=
  if maxChars ≤ 0 then .error "maxChars must be greater than zero"
  else if overlapChars < 0 ∨ overlapChars ≥ maxChars then .error "overlapChars must be less than maxChars"
  else
    let normalized := collapseSpaces (trim value)
    if normalized.isEmpty then .ok []
    else
      let words := normalized.splitOn blank
      let s := words.foldl (Chunking.take maxChars overlapChars) { chunks := [], current := [] }
      .ok (if s.current.length > 0 then s.pushed else s.chunks)

def chunkSource (value : Units) : Except String (List TextChunk) :=
  chunkText value defaultMaxChars defaultOverlapChars

theorem join_length (words : List Units) : (join words).length = (words.map List.length).sum + (words.length - 1) := by
  induction words with
  | nil => rfl
  | cons w rest ih =>
      cases rest with
      | nil => simp [join, List.intercalate_singleton]
      | cons v rest =>
          rw [join, List.intercalate_cons_cons, ← join, List.length_append, List.length_append, ih]
          simp only [List.map_cons, List.sum_cons, List.length_cons, List.length_nil]
          omega

theorem chars_measures : Measures chars where
  empty := rfl
  grows part whole inside := by
    obtain ⟨front, back, rfl⟩ := inside
    unfold chars
    rw [join_length, join_length]
    simp only [List.map_append, List.sum_append, List.length_append]
    omega

def numbered (groups : List (List Units)) : List TextChunk :=
  groups.mapIdx (fun i words => { index := i, text := join words })

theorem numbered_append (groups : List (List Units)) (words : List Units) :
    numbered (groups ++ [words]) = numbered groups ++ [{ index := (numbered groups).length, text := join words }] := by
  rw [numbered, List.mapIdx_concat, numbered, List.length_mapIdx]

theorem take_grouping (maxChars overlapChars : Int) (words : List Units) :
    words.foldl (Chunking.take maxChars overlapChars) { chunks := [], current := [] } =
      { chunks := numbered (group chars maxChars overlapChars words).closed
        current := (group chars maxChars overlapChars words).current } := by
  induction words using List.reverseRecOn with
  | nil => rfl
  | append_singleton words word ih =>
      rw [List.foldl_append, List.foldl_cons, List.foldl_nil, ih, group_append]
      generalize group chars maxChars overlapChars words = g
      rw [Chunking.take, Grouping.add]
      by_cases cut : g.current ≠ [] ∧ chars (g.current ++ [word]) > maxChars
      · have exceeds : g.current.length > 0 ∧ ((join (g.current ++ [word])).length : Int) > maxChars :=
          ⟨List.length_pos_of_ne_nil cut.1, cut.2⟩
        rw [if_pos cut, if_pos exceeds, Chunking.pushed, numbered_append]
        rfl
      · have within : ¬ (g.current.length > 0 ∧ ((join (g.current ++ [word])).length : Int) > maxChars) := by
          intro exceeds
          exact cut ⟨List.ne_nil_of_length_pos exceeds.1, exceeds.2⟩
        rw [if_neg cut, if_neg within]

theorem chunkText_grouping (value : Units) (maxChars overlapChars : Int) (lower : 0 ≤ overlapChars)
    (upper : overlapChars < maxChars) : chunkText value maxChars overlapChars =
      .ok (numbered (group chars maxChars overlapChars (wordsOf value)).groups) := by
  rw [chunkText, if_neg (by omega), if_neg (by omega)]
  dsimp only
  by_cases none : collapseSpaces (trim value) = []
  · rw [none, normalized_empty value none]
    rfl
  · have some : (collapseSpaces (trim value)).isEmpty = false := by simpa using none
    rw [some, normalized_split value none, take_grouping]
    dsimp only
    generalize group chars maxChars overlapChars (wordsOf value) = g
    rw [Grouping.groups]
    by_cases rest : g.current ≠ []
    · rw [if_pos rest, if_pos (List.length_pos_of_ne_nil rest), Chunking.pushed, numbered_append]
      rfl
    · rw [if_neg rest, if_neg (fun longer => rest (List.ne_nil_of_length_pos longer)), List.append_nil]
      rfl

def chunkWords (chunk : TextChunk) : List Units :=
  wordsOf chunk.text

-- What chunkText promises of its answer: bounded chunks, each overlapping the one before, every word once, no gap in the
-- numbers.
structure Promised (value : Units) (maxChars overlapChars : Int) (chunks : List TextChunk) : Prop where
  bounded : (∀ w ∈ wordsOf value, (w.length : Int) ≤ maxChars) → ∀ chunk ∈ chunks, (chunk.text.length : Int) ≤ maxChars
  covers : Covers chars overlapChars (chunks.map chunkWords) (wordsOf value)
  indices : chunks.map (·.index) = List.range chunks.length

theorem numbered_texts (groups : List (List Units)) : (numbered groups).map (·.text) = groups.map join := by
  induction groups using List.reverseRecOn with
  | nil => rfl
  | append_singleton groups words ih => rw [numbered_append, List.map_append, ih, List.map_append, List.map_singleton, List.map_singleton]

theorem numbered_indices (groups : List (List Units)) : (numbered groups).map (·.index) = List.range (numbered groups).length := by
  induction groups using List.reverseRecOn with
  | nil => rfl
  | append_singleton groups words ih =>
      rw [numbered_append, List.map_append, ih, List.length_append, List.length_singleton, List.range_succ]
      rfl

theorem numbered_words (maxChars overlapChars : Int) (lower : 0 ≤ overlapChars) (value : Units) :
    (numbered (group chars maxChars overlapChars (wordsOf value)).groups).map chunkWords =
      (group chars maxChars overlapChars (wordsOf value)).groups := by
  have covers := group_covers maxChars overlapChars chars_measures lower (wordsOf value)
  have texts := numbered_texts (group chars maxChars overlapChars (wordsOf value)).groups
  generalize (group chars maxChars overlapChars (wordsOf value)).groups = groups at *
  have split : (numbered groups).map chunkWords = ((numbered groups).map (·.text)).map wordsOf := by
    rw [List.map_map]
    rfl
  rw [split, texts, List.map_map]
  refine (List.map_congr_left ?_).trans (List.map_id groups)
  intro g member
  exact wordsOf_join g (fun w inGroup => wordsOf_word value w (covers.mem _ _ _ _ g member w inGroup))

theorem numbered_bounded (groups : List (List Units)) (maxChars : Int) :
    (∀ chunk ∈ numbered groups, (chunk.text.length : Int) ≤ maxChars) ↔ ∀ g ∈ groups, chars g ≤ maxChars := by
  have texts := numbered_texts groups
  constructor
  · intro bounded g member
    have listed : join g ∈ (numbered groups).map (·.text) := by
      rw [texts]
      exact List.mem_map_of_mem member
    obtain ⟨chunk, inside, same⟩ := List.mem_map.mp listed
    have short := bounded chunk inside
    rw [same] at short
    exact short
  · intro bounded chunk member
    have listed : chunk.text ∈ groups.map join := by
      rw [← texts]
      exact List.mem_map_of_mem member
    obtain ⟨g, inside, same⟩ := List.mem_map.mp listed
    rw [← same]
    exact bounded g inside

theorem chars_single (w : Units) : chars [w] = w.length := by
  rw [chars, join_length]
  simp

def RoomAfterOverlap (words : List Units) (maxChars overlapChars : Int) : Prop :=
  ∀ front word back run, words = front ++ word :: back → run <:+ front → run ≠ [] →
    ((join run).length : Int) ≤ overlapChars → ((join (run ++ [word])).length : Int) ≤ maxChars

/-- The chunks keep their promises exactly when some word is longer than a chunk or every overlap leaves room for the
word that follows it. -/
theorem chunkText_promised (value : Units) (maxChars overlapChars : Int) (lower : 0 ≤ overlapChars)
    (upper : overlapChars < maxChars) : ∃ chunks, chunkText value maxChars overlapChars = .ok chunks ∧
      (Promised value maxChars overlapChars chunks ↔
        ((∀ w ∈ wordsOf value, (w.length : Int) ≤ maxChars) → RoomAfterOverlap (wordsOf value) maxChars overlapChars)) := by
  have answer := chunkText_grouping value maxChars overlapChars lower upper
  have covers := group_covers maxChars overlapChars chars_measures lower (wordsOf value)
  have words := numbered_words maxChars overlapChars lower value
  have exactly (short : ∀ w ∈ wordsOf value, (w.length : Int) ≤ maxChars) :=
    groups_bounded_iff maxChars overlapChars chars_measures lower (by omega) (wordsOf value)
      (fun w member => by rw [chars_single]; exact short w member)
  refine ⟨_, answer, ?_⟩
  constructor
  · intro promised short
    exact (exactly short).mp ((numbered_bounded _ maxChars).mp (promised.bounded short))
  · intro room
    refine ⟨?_, ?_, numbered_indices _⟩
    · intro short
      exact (numbered_bounded _ maxChars).mpr ((exactly short).mpr (room short))
    · rw [words]
      exact covers

theorem chunkText_promised_sample : ∃ chunks, chunkText (ascii "interval mandolins") 10 8 = .ok chunks ∧
    ¬ Promised (ascii "interval mandolins") 10 8 chunks := by
  obtain ⟨chunks, answer, exactly⟩ := chunkText_promised (ascii "interval mandolins") 10 8 (by decide) (by decide)
  refine ⟨chunks, answer, ?_⟩
  intro promised
  have short : ∀ w ∈ wordsOf (ascii "interval mandolins"), (w.length : Int) ≤ 10 := by decide +kernel
  have words : wordsOf (ascii "interval mandolins") = [ascii "interval"] ++ ascii "mandolins" :: [] := by decide +kernel
  have room := exactly.mp promised short _ _ _ [ascii "interval"] words (List.suffix_refl _) (by simp) (by decide +kernel)
  exact absurd room (by decide +kernel)

-- The first chunk is cut before the second word, and the whole of it is carried over to stand before that word.
theorem carried_chunk_too_long : ¬ ∀ (value : Units) (maxChars overlapChars : Int), 0 ≤ overlapChars →
    overlapChars < maxChars → ∃ chunks, chunkText value maxChars overlapChars = .ok chunks ∧
      Promised value maxChars overlapChars chunks := by
  intro claimed
  obtain ⟨chunks, answer, promised⟩ := claimed (ascii "interval mandolins") 10 8 (by decide) (by decide)
  have cut : chunkText (ascii "interval mandolins") 10 8 =
      .ok [{ index := 0, text := ascii "interval" }, { index := 1, text := ascii "interval mandolins" }] := by
    rfl
  rw [cut] at answer
  cases answer
  have long := promised.bounded (by decide +kernel) { index := 1, text := ascii "interval mandolins" } (by simp)
  exact absurd long (by decide +kernel)

end EduAi.Ai
