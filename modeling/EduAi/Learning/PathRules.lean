import EduAi.Learning.Graduation

set_option autoImplicit false

namespace EduAi.Learning

open EduAi.Store

structure Collation where
  localeCompare : Uuid → Uuid → Int
  flip : ∀ a b, 0 < localeCompare a b ↔ localeCompare b a < 0
  chain : ∀ a b c, localeCompare a b ≤ 0 → localeCompare b c ≤ 0 → localeCompare a c ≤ 0

section Order

variable (collation : Collation)

def compareCandidates (first second : LearningStepCandidate) : Int :=
  if first.position - second.position ≠ 0 then first.position - second.position
  else if (typeOrder first.type : Int) - typeOrder second.type ≠ 0 then (typeOrder first.type : Int) - typeOrder second.type
  else collation.localeCompare first.id second.id

def Precedes (a b : LearningStepCandidate) : Prop :=
  compareCandidates collation a b ≤ 0

instance : DecidableRel (Precedes collation) := fun a b => by
  unfold Precedes
  infer_instance

def collatedSteps (candidates : List LearningStepCandidate) : List LearningStep :=
  stepsAfter none (candidates.insertionSort (Precedes collation))

theorem compare_flip (a b : LearningStepCandidate) :
    0 < compareCandidates collation a b ↔ compareCandidates collation b a < 0 := by
  have ids := collation.flip a.id b.id
  unfold compareCandidates
  by_cases position : a.position - b.position ≠ 0
  · have turned : b.position - a.position ≠ 0 := by omega
    rw [if_pos position, if_pos turned]
    omega
  · have level : ¬ b.position - a.position ≠ 0 := by omega
    rw [if_neg position, if_neg level]
    by_cases type : (typeOrder a.type : Int) - typeOrder b.type ≠ 0
    · have turned : (typeOrder b.type : Int) - typeOrder a.type ≠ 0 := by omega
      rw [if_pos type, if_pos turned]
      omega
    · have alike : ¬ (typeOrder b.type : Int) - typeOrder a.type ≠ 0 := by omega
      rw [if_neg type, if_neg alike]
      exact ids

theorem precedes_total (a b : LearningStepCandidate) : Precedes collation a b ∨ Precedes collation b a := by
  have turned := compare_flip collation a b
  unfold Precedes
  omega

theorem precedes_trans (a b c : LearningStepCandidate) (first : Precedes collation a b) (second : Precedes collation b c) :
    Precedes collation a c := by
  have ids := collation.chain a.id b.id c.id
  unfold Precedes compareCandidates at *
  by_cases positions : a.position = b.position ∧ b.position = c.position
  · rw [if_neg (by omega)] at first second
    rw [if_neg (by omega)]
    by_cases types : typeOrder a.type = typeOrder b.type ∧ typeOrder b.type = typeOrder c.type
    · rw [if_neg (by omega)] at first second
      rw [if_neg (by omega)]
      exact ids first second
    · split at first <;> split at second <;> split <;> omega
  · split at first <;> split at second <;> split <;> omega

instance : Std.Total (Precedes collation) := ⟨precedes_total collation⟩

instance : IsTrans LearningStepCandidate (Precedes collation) := ⟨precedes_trans collation⟩

theorem compare_self (a : LearningStepCandidate) : compareCandidates collation a a = 0 := by
  have turned := compare_flip collation a a
  omega

theorem compare_level (a b : LearningStepCandidate) (level : compareCandidates collation a b = 0) :
    collation.localeCompare a.id b.id = 0 := by
  unfold compareCandidates at level
  by_cases position : a.position - b.position ≠ 0
  · rw [if_pos position] at level
    exact absurd level position
  · rw [if_neg position] at level
    by_cases type : (typeOrder a.type : Int) - typeOrder b.type ≠ 0
    · rw [if_pos type] at level
      exact absurd level type
    · rw [if_neg type] at level
      exact level

end Order

def collationBy {κ : Type} [LinearOrder κ] (key : Uuid → κ) : Collation where
  localeCompare a b := if key a < key b then -1 else if key a = key b then 0 else 1
  flip a b := by
    rcases lt_trichotomy (key a) (key b) with less | same | more
    · simp [less, not_lt_of_gt less, Ne.symm (ne_of_lt less)]
    · simp [same]
    · simp [more, not_lt_of_gt more, Ne.symm (ne_of_lt more)]
  chain a b c first second := by
    have nonpositive (x y : κ) : (if x < y then (-1 : Int) else if x = y then 0 else 1) ≤ 0 ↔ x ≤ y := by
      rcases lt_trichotomy x y with less | rfl | more
      · simp [less, le_of_lt less]
      · simp
      · simp [not_lt_of_gt more, Ne.symm (ne_of_lt more), not_le_of_gt more]
    exact (nonpositive _ _).mpr (le_trans ((nonpositive _ _).mp first) ((nonpositive _ _).mp second))

def uuidCollation : Collation :=
  collationBy (fun id => id)

theorem precedes_uuid (a b : LearningStepCandidate) : Precedes uuidCollation a b ↔ before a b := by
  have ids : uuidCollation.localeCompare a.id b.id ≤ 0 ↔ a.id ≤ b.id := by
    show (if a.id < b.id then (-1 : Int) else if a.id = b.id then 0 else 1) ≤ 0 ↔ a.id ≤ b.id
    rcases lt_trichotomy a.id b.id with less | same | more
    · simp [less, le_of_lt less]
    · simp [same]
    · simp [not_lt_of_gt more, Ne.symm (ne_of_lt more), not_le_of_gt more]
  unfold Precedes compareCandidates before
  by_cases position : a.position = b.position
  · rw [if_neg (by omega), if_pos position]
    by_cases type : typeOrder a.type = typeOrder b.type
    · rw [if_neg (by omega), if_pos type]
      exact ids
    · rw [if_pos (by omega), if_neg type]
      omega
  · rw [if_pos (by omega), if_neg position]
    omega

theorem collated_uuid (candidates : List LearningStepCandidate) :
    collatedSteps uuidCollation candidates = buildLearningPathSteps candidates := by
  have same : Precedes uuidCollation = before := by
    funext a b
    exact propext (precedes_uuid a b)
  have sorted : candidates.insertionSort (Precedes uuidCollation) = candidates.insertionSort before := by
    congr
  rw [collatedSteps, sorted, buildLearningPathSteps, sortedCandidates]

def Blocks (c : LearningStepCandidate) : Prop :=
  c.isRequired = true ∧ c.completed = false

instance : DecidablePred Blocks := fun c => by
  unfold Blocks
  infer_instance

theorem mem_stepsAfter (previousStep : Option LearningStepCandidate) (candidates : List LearningStepCandidate)
    (step : LearningStep) : step ∈ stepsAfter previousStep candidates ↔
      ∃ front c back, candidates = front ++ c :: back ∧ step = stepOf (previousStep.or (front.find? (Blocks ·))) c := by
  induction candidates generalizing previousStep with
  | nil => simp [stepsAfter]
  | cons candidate rest ih =>
      have next : (if previousStep.isNone = true ∧ candidate.isRequired = true ∧ ¬ candidate.completed = true then
          some candidate else previousStep) = previousStep.or ([candidate].find? (Blocks ·)) := by
        cases previousStep with
        | none => by_cases blocks : candidate.isRequired = true ∧ candidate.completed = false <;> simp [Blocks, blocks]
        | some previous => simp
      rw [stepsAfter, List.mem_cons, next, ih]
      constructor
      · rintro (rfl | ⟨front, c, back, rfl, rfl⟩)
        · exact ⟨[], candidate, rest, rfl, by simp⟩
        · refine ⟨candidate :: front, c, back, rfl, ?_⟩
          rw [Option.or_assoc, ← List.find?_append, List.singleton_append]
      · rintro ⟨front, c, back, split, rfl⟩
        cases front with
        | nil =>
            obtain ⟨rfl, rfl⟩ := List.cons.inj split
            exact .inl (by simp)
        | cons first front =>
            obtain ⟨rfl, rfl⟩ := List.cons.inj split
            refine .inr ⟨front, c, back, rfl, ?_⟩
            rw [Option.or_assoc, ← List.find?_append, List.singleton_append]

theorem stepOf_locked (previousStep : Option LearningStepCandidate) (c : LearningStepCandidate) :
    (stepOf previousStep c).status = .locked ↔ c.completed = false ∧ previousStep.isSome = true := by
  unfold stepOf
  by_cases done : c.completed = true
  · simp [done]
  · cases previousStep with
    | some previous => simp [done]
    | none => by_cases begun : c.inProgress = true <;> simp [done, begun]

structure Later (a b : LearningStepCandidate) : Prop where
  id : a.id = b.id
  type : a.type = b.type
  position : a.position = b.position
  isRequired : a.isRequired = b.isRequired
  completed : a.completed = true → b.completed = true

structure DistinctIds (collation : Collation) (ids : List Uuid) : Prop where
  nodup : ids.Nodup
  told : ∀ a ∈ ids, ∀ b ∈ ids, collation.localeCompare a b = 0 → a = b

section Rules

variable (collation : Collation) (candidates : List LearningStepCandidate)
variable (distinct : DistinctIds collation (candidates.map (·.id)))

include distinct in
theorem level_eq (a b : LearningStepCandidate) (memberA : a ∈ candidates) (memberB : b ∈ candidates)
    (level : compareCandidates collation a b = 0) : a = b := by
  have same := distinct.told a.id (List.mem_map_of_mem memberA) b.id (List.mem_map_of_mem memberB)
    (compare_level collation a b level)
  exact List.inj_on_of_nodup_map distinct.nodup memberA memberB same

theorem collated_perm : ((collatedSteps collation candidates).map (·.candidate)).Perm candidates := by
  rw [collatedSteps, stepsAfter_map]
  exact List.perm_insertionSort _ candidates

include distinct in
theorem collated_shuffled (shuffled : List LearningStepCandidate)
    (perm : shuffled.Perm candidates) : collatedSteps collation shuffled = collatedSteps collation candidates := by
  have sorted : shuffled.insertionSort (Precedes collation) = candidates.insertionSort (Precedes collation) := by
    refine List.Perm.eq_of_pairwise ?_ (List.pairwise_insertionSort _ shuffled) (List.pairwise_insertionSort _ candidates)
      ((List.perm_insertionSort _ shuffled).trans (perm.trans (List.perm_insertionSort _ candidates).symm))
    intro a b memberA memberB first second
    have listedA : a ∈ candidates := perm.mem_iff.mp ((List.mem_insertionSort _).mp memberA)
    have listedB : b ∈ candidates := (List.mem_insertionSort _).mp memberB
    have turned := compare_flip collation b a
    unfold Precedes at first second
    exact level_eq collation candidates distinct a b listedA listedB (by omega)
  rw [collatedSteps, sorted, collatedSteps]

include distinct in
theorem sorted_ascending :
    (candidates.insertionSort (Precedes collation)).Pairwise (fun a b => compareCandidates collation a b < 0) := by
  have perm := List.perm_insertionSort (Precedes collation) candidates
  have nodup : (candidates.insertionSort (Precedes collation)).Nodup :=
    perm.nodup_iff.mpr (List.Nodup.of_map _ distinct.nodup)
  refine ((List.pairwise_insertionSort (Precedes collation) candidates).and nodup).imp_of_mem ?_
  rintro a b memberA memberB ⟨most, different⟩
  refine lt_of_le_of_ne most ?_
  intro level
  exact different (level_eq collation candidates distinct a b (perm.mem_iff.mp memberA) (perm.mem_iff.mp memberB) level)

include distinct in
theorem mem_front (front back : List LearningStepCandidate) (b : LearningStepCandidate)
    (split : candidates.insertionSort (Precedes collation) = front ++ b :: back) (a : LearningStepCandidate) :
    a ∈ front ↔ a ∈ candidates ∧ compareCandidates collation a b < 0 := by
  have ascending := sorted_ascending collation candidates distinct
  have listed : a ∈ candidates ↔ a ∈ front ++ b :: back := by
    rw [← split]
    exact (List.mem_insertionSort _).symm
  rw [split] at ascending
  obtain ⟨_, rest, across⟩ := List.pairwise_append.mp ascending
  constructor
  · intro member
    exact ⟨listed.mpr (List.mem_append_left _ member), across a member b List.mem_cons_self⟩
  · rintro ⟨inside, less⟩
    rcases List.mem_append.mp (listed.mp inside) with inFront | later
    · exact inFront
    · rcases List.mem_cons.mp later with rfl | inBack
      · rw [compare_self] at less
        omega
      · have after : compareCandidates collation b a < 0 := List.rel_of_pairwise_cons rest inBack
        have turned := compare_flip collation b a
        omega

theorem find_blocks (front : List LearningStepCandidate) :
    (front.find? (Blocks ·)).isSome = true ↔ ∃ a ∈ front, Blocks a := by
  rw [List.find?_isSome]
  simp only [decide_eq_true_eq]

include distinct in
theorem collated_locked (step : LearningStep) (member : step ∈ collatedSteps collation candidates) :
    step.status = .locked ↔ step.candidate.completed = false ∧
      ∃ a ∈ candidates, Blocks a ∧ compareCandidates collation a step.candidate < 0 := by
  obtain ⟨front, c, back, split, rfl⟩ := (mem_stepsAfter none _ step).mp member
  have before_ := mem_front collation candidates distinct front back c split
  rw [Option.none_or, stepOf_locked, stepOf_candidate, find_blocks]
  constructor
  · rintro ⟨open_, a, inFront, blocks⟩
    obtain ⟨inside, less⟩ := (before_ a).mp inFront
    exact ⟨open_, a, inside, blocks, less⟩
  · rintro ⟨open_, a, inside, blocks, less⟩
    exact ⟨open_, a, (before_ a).mpr ⟨inside, less⟩, blocks⟩

theorem collated_mem (step : LearningStep) (member : step ∈ collatedSteps collation candidates) :
    step.candidate ∈ candidates :=
  (collated_perm collation candidates).mem_iff.mp (List.mem_map_of_mem member)

theorem collated_unstuck (blocked : ∃ c ∈ candidates, Blocks c) :
    ∃ step ∈ collatedSteps collation candidates, Blocks step.candidate ∧ step.status ≠ .locked := by
  obtain ⟨c, member, blocks⟩ := blocked
  have sorted : c ∈ candidates.insertionSort (Precedes collation) := (List.mem_insertionSort _).mpr member
  obtain ⟨first, found⟩ := Option.isSome_iff_exists.mp
    ((find_blocks (candidates.insertionSort (Precedes collation))).mpr ⟨c, sorted, blocks⟩)
  obtain ⟨holds, front, back, split, open_⟩ := List.find?_eq_some_iff_append.mp found
  refine ⟨stepOf (front.find? (Blocks ·)) first, (mem_stepsAfter none _ _).mpr ⟨front, first, back, split, rfl⟩, ?_, ?_⟩
  · rw [stepOf_candidate]
    exact of_decide_eq_true holds
  · rw [Ne, stepOf_locked, find_blocks]
    rintro ⟨_, a, inFront, blocksA⟩
    have passed := open_ a inFront
    simp [blocksA] at passed

theorem compare_later (a b c d : LearningStepCandidate) (left : Later a c) (right : Later b d) :
    compareCandidates collation a b = compareCandidates collation c d := by
  rw [compareCandidates, left.id, left.type, left.position, right.id, right.type, right.position, compareCandidates]

theorem later_ids (later : List LearningStepCandidate) (progress : List.Forall₂ Later candidates later) :
    later.map (·.id) = candidates.map (·.id) := by
  induction progress with
  | nil => rfl
  | cons same _ ih => rw [List.map_cons, List.map_cons, same.id, ih]

theorem later_mem (later : List LearningStepCandidate) (progress : List.Forall₂ Later candidates later)
    (b : LearningStepCandidate) (member : b ∈ later) : ∃ a ∈ candidates, Later a b := by
  induction progress with
  | nil => cases member
  | @cons a c _ _ same _ ih =>
      rcases List.mem_cons.mp member with rfl | inRest
      · exact ⟨a, List.mem_cons_self, same⟩
      · obtain ⟨found, inside, before_⟩ := ih inRest
        exact ⟨found, List.mem_cons_of_mem _ inside, before_⟩

include distinct in
theorem collated_stays_open (later : List LearningStepCandidate) (progress : List.Forall₂ Later candidates later)
    (step after : LearningStep) (member : step ∈ collatedSteps collation candidates)
    (memberAfter : after ∈ collatedSteps collation later) (same : after.candidate.id = step.candidate.id)
    (open_ : step.status ≠ .locked) : after.status ≠ .locked := by
  have ids := later_ids candidates later progress
  intro locked
  obtain ⟨undone, b, memberB, blocksB, less⟩ :=
    (collated_locked collation later (by rw [ids]; exact distinct) after memberAfter).mp locked
  obtain ⟨a, memberA, laterA⟩ := later_mem candidates later progress b memberB
  obtain ⟨c, memberC, laterC⟩ :=
    later_mem candidates later progress after.candidate (collated_mem collation later after memberAfter)
  have itself : c = step.candidate := by
    refine List.inj_on_of_nodup_map distinct.nodup memberC (collated_mem collation candidates step member) ?_
    exact laterC.id.trans same
  subst itself
  refine open_ ((collated_locked collation candidates distinct step member).mpr ⟨?_, a, memberA, ⟨?_, ?_⟩, ?_⟩)
  · exact Bool.eq_false_iff.mpr (fun done => absurd (laterC.completed done) (by simp [undone]))
  · exact laterA.isRequired.trans blocksB.1
  · exact Bool.eq_false_iff.mpr (fun done => absurd (laterA.completed done) (by simp [blocksB.2]))
  · rw [compare_later collation a step.candidate b after.candidate laterA laterC]
    exact less

theorem collated_completed (step : LearningStep) (member : step ∈ collatedSteps collation candidates) :
    step.status = .completed ↔ step.candidate.completed = true :=
  stepsAfter_completed none _ step member

theorem collated_required (p : LearningStepCandidate → Bool) :
    ((collatedSteps collation candidates).filter (fun s => p s.candidate)).length = (candidates.filter p).length := by
  have counted := ((collated_perm collation candidates).filter p).length_eq
  rw [List.filter_map, List.length_map] at counted
  exact counted

theorem collated_totalSteps : (calculateLearningPathProgress (collatedSteps collation candidates)).totalSteps =
    (candidates.filter (fun c => c.isRequired)).length :=
  collated_required collation candidates (fun c => c.isRequired)

theorem collated_completedSteps : (calculateLearningPathProgress (collatedSteps collation candidates)).completedSteps =
    (candidates.filter (fun c => c.isRequired && c.completed)).length := by
  rw [← collated_required collation candidates (fun c => c.isRequired && c.completed)]
  unfold calculateLearningPathProgress
  dsimp only
  rw [List.filter_filter]
  congr 1
  apply List.filter_congr
  intro step member
  have counted := collated_completed collation candidates step member
  by_cases done : step.candidate.completed = true
  · simp [counted.mpr done, done]
  · have open_ : step.status ≠ .completed := fun c => done (counted.mp c)
    simp [open_, done]

theorem collated_finished : (calculateLearningPathProgress (collatedSteps collation candidates)).completed = true ↔
    (∃ c ∈ candidates, c.isRequired = true) ∧ ∀ c ∈ candidates, c.isRequired = true → c.completed = true := by
  have total := collated_totalSteps collation candidates
  have done := collated_completedSteps collation candidates
  have both : (calculateLearningPathProgress (collatedSteps collation candidates)).completed = true ↔
      0 < (calculateLearningPathProgress (collatedSteps collation candidates)).totalSteps ∧
        (calculateLearningPathProgress (collatedSteps collation candidates)).completedSteps =
          (calculateLearningPathProgress (collatedSteps collation candidates)).totalSteps := by
    simp only [calculateLearningPathProgress, decide_eq_true_eq]
  have split : candidates.filter (fun c => c.isRequired && c.completed) =
      (candidates.filter (fun c => c.isRequired)).filter (fun c => c.completed) := by
    rw [List.filter_filter]
    exact List.filter_congr (fun c _ => Bool.and_comm _ _)
  rw [both, total, done, split, all_counted, List.length_pos_iff_exists_mem]
  simp only [List.mem_filter, and_imp]

include distinct in
theorem learning_path_rules :
    (∀ shuffled : List LearningStepCandidate, shuffled.Perm candidates →
      collatedSteps collation shuffled = collatedSteps collation candidates) ∧
    ((collatedSteps collation candidates).map (·.candidate)).Perm candidates ∧
    ((collatedSteps collation candidates).map (·.candidate)).Pairwise (fun a b => compareCandidates collation a b < 0) ∧
    (∀ step ∈ collatedSteps collation candidates, step.candidate.completed = false →
      (step.status = .locked ↔ ∃ a ∈ candidates, a.isRequired = true ∧ a.completed = false ∧
        compareCandidates collation a step.candidate < 0)) ∧
    (∀ later : List LearningStepCandidate, List.Forall₂ Later candidates later →
      ∀ step ∈ collatedSteps collation candidates, step.status ≠ .locked →
        ∀ after ∈ collatedSteps collation later, after.candidate.id = step.candidate.id → after.status ≠ .locked) ∧
    ((¬ ∀ c ∈ candidates, c.isRequired = true → c.completed = true) → ∃ step ∈ collatedSteps collation candidates,
      step.candidate.isRequired = true ∧ step.candidate.completed = false ∧ step.status ≠ .locked) ∧
    (let progress := calculateLearningPathProgress (collatedSteps collation candidates)
     progress.completedSteps = (candidates.filter (fun c => c.isRequired && c.completed)).length ∧
      progress.totalSteps = (candidates.filter (fun c => c.isRequired)).length ∧
      (progress.completed = true ↔ (∃ c ∈ candidates, c.isRequired = true) ∧
        ∀ c ∈ candidates, c.isRequired = true → c.completed = true)) := by
  refine ⟨collated_shuffled collation candidates distinct, collated_perm collation candidates,
    by rw [collatedSteps, stepsAfter_map]; exact sorted_ascending collation candidates distinct, ?_, ?_, ?_,
        collated_completedSteps collation candidates,
    collated_totalSteps collation candidates, collated_finished collation candidates⟩
  · intro step member undone
    rw [collated_locked collation candidates distinct step member]
    simp only [undone, true_and, Blocks, and_assoc]
  · intro later progress step member open_ after memberAfter same
    exact collated_stays_open collation candidates distinct later progress step after member memberAfter same open_
  · intro unfinished
    push Not at unfinished
    obtain ⟨c, member, required, undone⟩ := unfinished
    obtain ⟨step, listed, blocks, open_⟩ :=
      collated_unstuck collation candidates ⟨c, member, required, by simpa using undone⟩
    exact ⟨step, listed, blocks.1, blocks.2, open_⟩

end Rules

def sampleCandidate (id : Uuid) (type : LearningStepType) (position : Int) (isRequired completed : Bool) :
    LearningStepCandidate where
  id := id
  type := type
  title := id
  position := position
  isRequired := isRequired
  completed := completed
  inProgress := false
  lessonId := none

def sampleCandidates : List LearningStepCandidate :=
  [sampleCandidate "quiz" .quiz 1 true false, sampleCandidate "essay" .assignment 1 true false,
    sampleCandidate "extra" .lesson 2 false false, sampleCandidate "intro" .lesson 1 true true]

theorem sample_distinct : DistinctIds uuidCollation (sampleCandidates.map (·.id)) where
  nodup := by decide +kernel
  told := by decide +kernel

theorem learning_path_rules_sample :
    (collatedSteps uuidCollation sampleCandidates).map (·.status) = [.completed, .available, .locked, .locked] ∧
      ∃ step ∈ collatedSteps uuidCollation sampleCandidates,
        step.candidate.isRequired = true ∧ step.candidate.completed = false ∧ step.status ≠ .locked := by
  obtain ⟨_, _, _, _, _, unstuck, _⟩ := learning_path_rules uuidCollation sampleCandidates sample_distinct
  exact ⟨by decide +kernel, unstuck (by decide +kernel)⟩

def accentCollation : Collation :=
  collationBy (fun id => String.ofList (id.toList.flatMap (fun c => if c = '\u00e9' then ['e', '\u0301'] else [c])))

def composedStep : LearningStepCandidate :=
  sampleCandidate "\u00e9" .lesson 1 true false

def decomposedStep : LearningStepCandidate :=
  sampleCandidate "e\u0301" .lesson 1 true false

-- Different ids that are collated alike stay in the order in which they are listed.
theorem level_ids_keep_order : ([composedStep, decomposedStep].map (·.id)).Nodup ∧
    accentCollation.localeCompare composedStep.id decomposedStep.id = 0 ∧
    [decomposedStep, composedStep].Perm [composedStep, decomposedStep] ∧
    collatedSteps accentCollation [decomposedStep, composedStep] ≠ collatedSteps accentCollation [composedStep, decomposedStep] :=
  ⟨by decide +kernel, by decide +kernel, List.Perm.swap _ _ _, by decide +kernel⟩

end EduAi.Learning
