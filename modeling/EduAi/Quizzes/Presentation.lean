import EduAi.Quizzes.Attempts

set_option autoImplicit false

namespace EduAi.Quizzes

open EduAi.Store

theorem shuffleDeterministically_perm {T : Type} (items : List T) (seed : Units) :
    (shuffleDeterministically items seed).Perm items := by
  unfold shuffleDeterministically
  simpa using shuffleDown_perm xorshift UInt32.toNat (items.length - 1) (seedState seed) items.toArray

inductive SameOptions : Option Json → Option Json → Prop where
  | kept (options : Option Json) : SameOptions options options
  | reordered (shown stored : List Json) (perm : shown.Perm stored) : SameOptions (some (.array shown)) (some (.array stored))

section Presented

variable {P E : Type}

structure ShownAs (shown : StudentQuestion P) (question : Question P) : Prop where
  id : shown.id = question.id
  quizId : shown.quizId = question.quizId
  type : shown.type = question.type
  questionText : shown.questionText = question.questionText
  points : shown.points = question.points
  options : SameOptions shown.optionsJson question.optionsJson

def Presents (quiz : Quiz P) (shown : List (StudentQuestion P)) : Prop :=
  ∃ order : List (Question P), order.Perm quiz.questions ∧ List.Forall₂ ShownAs shown order

theorem shownOptions_same (quiz : Quiz P) (userId : Units) (count : Nat) (question : Question P) :
    SameOptions (shownOptions quiz userId count question) question.optionsJson := by
  unfold shownOptions
  split
  next options stored =>
    rw [stored]
    by_cases randomize : quiz.randomizeOptions = true
    · rw [if_pos randomize]
      exact .reordered _ _ (shuffleDeterministically_perm options _)
    · rw [if_neg randomize]
      exact .kept _
  next => exact .kept _

theorem shownQuestion_as (quiz : Quiz P) (userId : Units) (count : Nat) (question : Question P) (index : Nat) :
    ShownAs (shownQuestion quiz userId count question index) question where
  id := rfl
  quizId := rfl
  type := rfl
  questionText := rfl
  points := rfl
  options := shownOptions_same quiz userId count question

theorem mapIdx_shows (quiz : Quiz P) (userId : Units) (count : Nat) (order : List (Question P)) :
    List.Forall₂ ShownAs (order.mapIdx (fun index question => shownQuestion quiz userId count question index)) order := by
  rw [List.forall₂_iff_get]
  refine ⟨List.length_mapIdx, ?_⟩
  intro i _ inside
  simp only [List.get_eq_getElem, List.getElem_mapIdx]
  exact shownQuestion_as quiz userId count order[i] i

theorem getStudentQuiz_presents (quiz : Quiz P) (access step : Except E Unit) (count : Nat) (userId : Units)
    (shown : StudentQuiz P) (answered : getStudentQuiz (some quiz) access step count userId = .ok shown) :
    Presents quiz shown.questions := by
  obtain ⟨found, same, answered⟩ := (answered_bind _ _ _).mp answered
  obtain rfl := Except.ok.inj same
  obtain ⟨_, _, answered⟩ := (answered_bind _ _ _).mp answered
  obtain ⟨_, _, answered⟩ := (answered_bind _ _ _).mp answered
  obtain rfl := (answered_pure _ _).mp answered
  refine ⟨_, ?_, mapIdx_shows quiz userId count _⟩
  by_cases randomize : quiz.randomizeQuestions = true
  · rw [if_pos randomize]
    exact shuffleDeterministically_perm quiz.questions _
  · rw [if_neg randomize]

end Presented

section Reordered

variable {P : Type} (answers others : List Answer) (perm : others.Perm answers)

include perm

theorem answerIds_perm : (answerIds others).Perm (answerIds answers) :=
  perm.map Answer.questionId

theorem answerOf_perm (once : (answerIds answers).Nodup) (id : Units) : answerOf others id = answerOf answers id := by
  unfold answerOf
  have reversed : others.reverse.Perm answers.reverse :=
    (others.reverse_perm.trans perm).trans answers.reverse_perm.symm
  have onceToo : (answers.reverse.map Answer.questionId).Nodup := by
    rw [List.map_reverse, List.nodup_reverse]
    exact once
  rw [find_keyed_perm Answer.questionId answers.reverse others.reverse reversed onceToo id]

theorem find_perm (once : (answerIds answers).Nodup) (id : Units) :
    others.find? (fun a => a.questionId = id) = answers.find? (fun a => a.questionId = id) :=
  find_keyed_perm Answer.questionId answers others perm once id

theorem answeredOnce_perm (questions : List (Question P)) : answeredOnce questions others = answeredOnce questions answers := by
  have ids := answerIds_perm answers others perm
  unfold answeredOnce
  simp only [perm.length_eq, ids.dedup.length_eq, ids.mem_iff]

end Reordered

section Graded

variable {P E : Type} (toLowerCase : Units → Units) (scores : ScoreArithmetic P)

theorem answeredOnce_nodup (questions : List (Question P)) (answers : List Answer) (once : answeredOnce questions answers = true) :
    (answerIds answers).Nodup := by
  have distinct := (of_decide_eq_true once).2.1
  have same := (List.dedup_sublist (answerIds answers)).eq_of_length (distinct.trans (List.length_map Answer.questionId).symm)
  exact List.dedup_eq_self.mp same

theorem validateAnswerSet_ok (questions : List (Question P)) (answers : List Answer) (u : Unit)
    (valid : validateAnswerSet (E := E) questions answers = .ok u) : (answerIds answers).Nodup := by
  obtain ⟨_, once, _⟩ := (answered_bind _ _ _).mp valid
  exact answeredOnce_nodup questions answers ((answered_ensure _ _ _).mp once)

theorem validateAnswerSet_perm (questions : List (Question P)) (answers others : List Answer) (perm : others.Perm answers) :
    validateAnswerSet (E := E) questions others = validateAnswerSet questions answers := by
  unfold validateAnswerSet
  rw [answeredOnce_perm answers others perm]
  by_cases complete : answeredOnce questions answers = true
  · simp only [find_perm answers others perm (answeredOnce_nodup questions answers complete)]
  · unfold ensure
    rw [if_neg complete]
    rfl

theorem gradeAttempt_perm (quiz : Quiz P) (answers others : List Answer) (perm : others.Perm answers)
    (once : (answerIds answers).Nodup) :
    gradeAttempt toLowerCase scores quiz others = gradeAttempt toLowerCase scores quiz answers := by
  unfold gradeAttempt isCorrect
  simp only [answerOf_perm answers others perm once]

theorem gradedAttempt_perm (quiz : Quiz P) (count : Nat) (answers others : List Answer) (perm : others.Perm answers) :
    (gradedAttempt (E := E) toLowerCase scores quiz count others).map (·.response) =
      (gradedAttempt toLowerCase scores quiz count answers).map (·.response) := by
  unfold gradedAttempt
  rw [validateAnswerSet_perm quiz.questions answers others perm]
  cases valid : validateAnswerSet (E := E) quiz.questions answers with
  | error e => rfl
  | ok u =>
      have once := validateAnswerSet_ok quiz.questions answers u valid
      rw [gradeAttempt_perm toLowerCase scores quiz answers others perm once]
      cases ensure (quiz.maxAttempts.all (fun maxAttempts => (count : Int) < maxAttempts) = true)
        (QuizError.badRequest (E := E) "Quiz attempt limit reached") with
      | error e => rfl
      | ok _ => rfl

theorem submitAttempt_perm (found : Option (Quiz P)) (access step : Except E Unit) (count : Nat) (answers others : List Answer)
    (perm : others.Perm answers) :
    (submitAttempt toLowerCase scores found access step count others).map (·.response) =
      (submitAttempt toLowerCase scores found access step count answers).map (·.response) := by
  cases found with
  | none => rfl
  | some quiz =>
      cases access with
      | error e => rfl
      | ok _ =>
          cases step with
          | error e => rfl
          | ok _ => exact gradedAttempt_perm toLowerCase scores quiz count answers others perm

end Graded

section Choices

variable {P E : Type} (toLowerCase : Units → Units)

def optionsOf (question : Question P) : List Json :=
  match question.optionsJson with
  | some (.array options) => options
  | _ => []

theorem optionsOf_distinct (question : Question P) : ∀ option ∈ optionsOf question, option.Distinct := by
  unfold optionsOf
  split
  next options stored => exact distinctItems_mem options (question.values.2 _ stored)
  next => simp

theorem array_text (items others : List Json) (distinct : ∀ other ∈ others, other.Distinct) :
    canonicalJson toLowerCase (.array items) = canonicalJson toLowerCase (.array others) ↔
      items.map (canonicalJson toLowerCase) = others.map (canonicalJson toLowerCase) := by
  rw [canonicalJson, canonicalJson, canonicalItems_map, canonicalItems_map]
  constructor
  · intro same
    obtain ⟨level, _⟩ := listed_prefix (canonicalJson toLowerCase)
      (fun p q => canonicalJson toLowerCase p = canonicalJson toLowerCase q) 93 rfl (by decide) items others
      (fun p _ q member x y endsX endsY texts => by
        obtain ⟨_, rest⟩ := json_decodes toLowerCase p q x y (distinct q member) endsX endsY texts
        rw [rest] at texts
        exact ⟨List.append_cancel_right texts, rest⟩)
      (fun p rest z => canonicalJson_apart toLowerCase 93 (by decide) p rest z) [] [] (List.cons.inj same).2
    rw [← List.forall₂_eq_eq_eq, List.forall₂_map_left_iff, List.forall₂_map_right_iff]
    exact level
  · intro same
    rw [same]

theorem graded_iff (choice correct : List Json) (distinct : ∀ c ∈ correct, c.Distinct) :
    answersMatch toLowerCase (some (.array choice)) (.array correct) = true ↔
      choice.map (canonicalJson toLowerCase) = correct.map (canonicalJson toLowerCase) := by
  rw [← array_text toLowerCase choice correct distinct]
  exact decide_eq_true_iff

def listedOptions : Json → List Json
  | .array items => items
  | option => [option]

structure Chooses (options : List Json) (answer : Json) : Prop where
  compatible : isCompatibleAnswer .multipleChoice (some answer) = true
  offered : ∀ option ∈ listedOptions answer, option ∈ options

def ChoiceFree (options correct : List Json) : Prop :=
  ∀ first second : Json, Chooses options first → Chooses options second →
    (∀ option, option ∈ listedOptions first ↔ option ∈ listedOptions second) →
    answersMatch toLowerCase (some first) (.array correct) = answersMatch toLowerCase (some second) (.array correct)

def NothingRight (options correct : List Json) : Prop :=
  correct = [] ∨ ∃ c ∈ correct, ∀ option ∈ options, ¬ Alike toLowerCase option c

def OrderFree (options correct : List Json) : Prop :=
  ∀ choice listed : List Json, (∀ option ∈ choice, option ∈ options) → listed.Perm choice →
    answersMatch toLowerCase (some (.array listed)) (.array correct) = answersMatch toLowerCase (some (.array choice)) (.array correct)

def Unordered (options correct : List Json) : Prop :=
  (∀ c ∈ correct, ∀ d ∈ correct, Alike toLowerCase c d) ∨ ∃ c ∈ correct, ∀ option ∈ options, ¬ Alike toLowerCase option c

section Fixed

variable (options correct : List Json) (stored : ∀ option ∈ options, option.Distinct) (distinct : ∀ c ∈ correct, c.Distinct)

include distinct

theorem right_listed (answer : Json) (right : answersMatch toLowerCase (some answer) (.array correct) = true) :
    ∃ choice : List Json, answer = .array choice ∧ choice.map (canonicalJson toLowerCase) = correct.map (canonicalJson toLowerCase) := by
  have texts : canonicalJson toLowerCase answer = canonicalJson toLowerCase (.array correct) := of_decide_eq_true right
  have type : answer.type = .array := same_type toLowerCase answer (.array correct) [] [] (congrArg (· ++ []) texts)
  cases answer with
  | array choice => exact ⟨choice, rfl, (graded_iff toLowerCase choice correct distinct).mp right⟩
  | _ => cases type

theorem right_rearranged (alike : ∀ c ∈ correct, ∀ d ∈ correct, Alike toLowerCase c d) (choice listed : List Json)
    (perm : listed.Perm choice) (right : choice.map (canonicalJson toLowerCase) = correct.map (canonicalJson toLowerCase)) :
    listed.map (canonicalJson toLowerCase) = correct.map (canonicalJson toLowerCase) := by
  have inCorrect (a : Json) (member : a ∈ choice) : ∃ c ∈ correct, canonicalJson toLowerCase c = canonicalJson toLowerCase a := by
    have image := List.mem_map_of_mem (f := canonicalJson toLowerCase) member
    rw [right] at image
    exact List.mem_map.mp image
  have constant : ∀ a ∈ choice, ∀ b ∈ choice, canonicalJson toLowerCase a = canonicalJson toLowerCase b := by
    intro a memberA b memberB
    obtain ⟨c, listedC, textC⟩ := inCorrect a memberA
    obtain ⟨d, listedD, textD⟩ := inCorrect b memberB
    rw [← textC, ← textD]
    exact (text_alike toLowerCase c d (distinct c listedC) (distinct d listedD)).mpr (alike c listedC d listedD)
  rw [rearranged_of_constant (canonicalJson toLowerCase) choice constant listed perm, right]

include stored

theorem never_right (c : Json) (member : c ∈ correct) (unlike : ∀ option ∈ options, ¬ Alike toLowerCase option c)
    (choice : List Json) (inside : ∀ option ∈ choice, option ∈ options) :
    choice.map (canonicalJson toLowerCase) ≠ correct.map (canonicalJson toLowerCase) := by
  intro right
  have image := List.mem_map_of_mem (f := canonicalJson toLowerCase) member
  rw [← right] at image
  obtain ⟨a, listed, text⟩ := List.mem_map.mp image
  exact unlike a (inside a listed) ((text_alike toLowerCase a c (stored a (inside a listed)) (distinct c member)).mp text)

theorem right_choice (offered : ∀ c ∈ correct, ∃ option ∈ options, Alike toLowerCase option c) :
    ∃ choice : List Json, (∀ option ∈ choice, option ∈ options) ∧
      choice.map (canonicalJson toLowerCase) = correct.map (canonicalJson toLowerCase) := by
  refine exists_preimages (canonicalJson toLowerCase) options _ ?_
  intro t image
  obtain ⟨c, member, rfl⟩ := List.mem_map.mp image
  obtain ⟨option, listed, alike⟩ := offered c member
  exact List.mem_map.mpr ⟨option, listed, (text_alike toLowerCase option c (stored option listed) (distinct c member)).mpr alike⟩

theorem nothing_of_free (free : ChoiceFree toLowerCase options correct) : NothingRight toLowerCase options correct := by
  by_cases offered : ∃ c ∈ correct, ∀ option ∈ options, ¬ Alike toLowerCase option c
  · exact .inr offered
  · left
    push Not at offered
    obtain ⟨choice, inside, texts⟩ := right_choice toLowerCase options correct stored distinct offered
    cases choice with
    | nil => exact List.map_eq_nil_iff.mp texts.symm
    | cons option rest =>
        have same := free (.array (option :: rest)) (.array (option :: option :: rest)) ⟨rfl, inside⟩
          ⟨rfl, by simpa [listedOptions] using inside⟩ (by simp [listedOptions])
        rw [(graded_iff toLowerCase _ correct distinct).mpr texts, eq_comm, graded_iff toLowerCase _ correct distinct, ← texts] at same
        exact absurd (congrArg List.length same) (by simp)

theorem right_chosen (nothing : NothingRight toLowerCase options correct) (first second : Json) (chosen : Chooses options first)
    (same : ∀ option, option ∈ listedOptions first ↔ option ∈ listedOptions second)
    (right : answersMatch toLowerCase (some first) (.array correct) = true) :
    answersMatch toLowerCase (some second) (.array correct) = true := by
  obtain ⟨choice, rfl, texts⟩ := right_listed toLowerCase correct distinct first right
  rcases nothing with none | ⟨c, member, unlike⟩
  · subst none
    have empty : choice = [] := List.map_eq_nil_iff.mp texts
    subst empty
    have unnamed : ∀ option, option ∉ listedOptions second := fun option member => List.not_mem_nil ((same option).mpr member)
    cases second with
    | array items =>
        have nil : items = [] := List.eq_nil_iff_forall_not_mem.mpr unnamed
        rw [nil]
        exact right
    | _ => exact absurd List.mem_cons_self (unnamed _)
  · exact absurd texts (never_right toLowerCase options correct stored distinct c member unlike choice chosen.offered)

theorem choice_free_iff : ChoiceFree toLowerCase options correct ↔ NothingRight toLowerCase options correct := by
  constructor
  · exact nothing_of_free toLowerCase options correct stored distinct
  · intro nothing first second chosenFirst chosenSecond same
    rw [Bool.eq_iff_iff]
    exact ⟨right_chosen toLowerCase options correct stored distinct nothing first second chosenFirst same,
      right_chosen toLowerCase options correct stored distinct nothing second first chosenSecond (fun option => (same option).symm)⟩

theorem unordered_of_free (free : OrderFree toLowerCase options correct) : Unordered toLowerCase options correct := by
  by_cases offered : ∃ c ∈ correct, ∀ option ∈ options, ¬ Alike toLowerCase option c
  · exact .inr offered
  · left
    push Not at offered
    obtain ⟨choice, inside, texts⟩ := right_choice toLowerCase options correct stored distinct offered
    have right := (graded_iff toLowerCase choice correct distinct).mpr texts
    have constant := constant_of_rearranged (canonicalJson toLowerCase) choice (fun listed perm => by
      have same := free choice listed inside perm
      rw [right] at same
      rw [(graded_iff toLowerCase listed correct distinct).mp same, texts])
    have chosen (c : Json) (member : c ∈ correct) : ∃ a ∈ choice, canonicalJson toLowerCase a = canonicalJson toLowerCase c := by
      have image := List.mem_map_of_mem (f := canonicalJson toLowerCase) member
      rw [← texts] at image
      exact List.mem_map.mp image
    intro c memberC d memberD
    obtain ⟨a, listedA, textA⟩ := chosen c memberC
    obtain ⟨b, listedB, textB⟩ := chosen d memberD
    refine (text_alike toLowerCase c d (distinct c memberC) (distinct d memberD)).mp ?_
    rw [← textA, ← textB]
    exact constant a listedA b listedB

theorem order_free_iff : OrderFree toLowerCase options correct ↔ Unordered toLowerCase options correct := by
  constructor
  · exact unordered_of_free toLowerCase options correct stored distinct
  · intro unordered choice listed inside perm
    rw [Bool.eq_iff_iff, graded_iff toLowerCase listed correct distinct, graded_iff toLowerCase choice correct distinct]
    rcases unordered with alike | ⟨c, member, unlike⟩
    · exact ⟨right_rearranged toLowerCase correct distinct alike listed choice perm.symm,
        right_rearranged toLowerCase correct distinct alike choice listed perm⟩
    · have inside' : ∀ option ∈ listed, option ∈ options := fun option member => inside option (perm.mem_iff.mp member)
      exact iff_of_false (never_right toLowerCase options correct stored distinct c member unlike listed inside')
        (never_right toLowerCase options correct stored distinct c member unlike choice inside)

end Fixed

structure PresentationFree (scores : ScoreArithmetic P) (quiz : Quiz P) : Prop where
  presented : ∀ (access step : Except E Unit) (count : Nat) (userId : Units) (shown : StudentQuiz P),
    getStudentQuiz (some quiz) access step count userId = .ok shown → Presents quiz shown.questions
  scored : ∀ (access step : Except E Unit) (count : Nat) (answers others : List Answer), others.Perm answers →
    (submitAttempt toLowerCase scores (some quiz) access step count others).map (·.response) =
      (submitAttempt toLowerCase scores (some quiz) access step count answers).map (·.response)
  graded : ∀ question ∈ quiz.questions, question.type = .multipleChoice → ∀ correct, question.correctAnswerJson = .array correct →
    ChoiceFree toLowerCase (optionsOf question) correct

/-- Grades do not depend on the presentation exactly when no multiple choice question has anything right to choose. -/
theorem presentation_free_iff (scores : ScoreArithmetic P) (quiz : Quiz P) :
    PresentationFree (E := E) toLowerCase scores quiz ↔
      ∀ question ∈ quiz.questions, question.type = .multipleChoice → ∀ correct, question.correctAnswerJson = .array correct →
        NothingRight toLowerCase (optionsOf question) correct := by
  have parts (question : Question P) (correct : List Json) (shape : question.correctAnswerJson = .array correct) :
      ∀ c ∈ correct, c.Distinct := by
    have values := question.values.1
    rw [shape] at values
    exact distinctItems_mem correct values
  constructor
  · intro free question member type correct shape
    exact (choice_free_iff toLowerCase _ correct (optionsOf_distinct question) (parts question correct shape)).mp
      (free.graded question member type correct shape)
  · intro nothing
    refine ⟨fun access step count userId shown => getStudentQuiz_presents quiz access step count userId shown,
      fun access step count answers others => submitAttempt_perm toLowerCase scores (some quiz) access step count answers others, ?_⟩
    intro question member type correct shape
    exact (choice_free_iff toLowerCase _ correct (optionsOf_distinct question) (parts question correct shape)).mpr
      (nothing question member type correct shape)

end Choices

-- toLowerCase on ASCII.
def asciiLowerCase (s : Units) : Units :=
  s.map (fun c => if 65 ≤ c ∧ c ≤ 90 then c + 32 else c)

def wholeScores : ScoreArithmetic Int where
  zero := 0
  add := (· + ·)
  isZero := (· == 0)
  percent := fun score maxScore => score * 100 / maxScore
  atLeast := fun scorePercent passingScore => passingScore ≤ scorePercent
  roundScore := id

def optionTexts (texts : List String) : List Json :=
  texts.map (fun text => .string (ascii text))

def twoRightOptions : Question Int where
  id := ascii "question-1"
  quizId := ascii "quiz-1"
  type := .multipleChoice
  questionText := ascii "Which of these are prime?"
  optionsJson := some (.array (optionTexts ["2", "3", "4"]))
  correctAnswerJson := .array (optionTexts ["2", "3"])
  points := 1
  orderIndex := 1
  values := by simp [optionTexts, Json.Distinct, distinctItems]

def primesQuiz : Quiz Int where
  id := ascii "quiz-1"
  passingScore := 50
  maxAttempts := none
  randomizeQuestions := false
  randomizeOptions := true
  showCorrectAnswers := true
  questions := [twoRightOptions]

-- A learner who is shown 3 before 2 and answers in that order is marked wrong.
theorem reordered_choice_wrong : ¬ PresentationFree (E := Empty) asciiLowerCase wholeScores primesQuiz := by
  intro free
  have same := free.graded twoRightOptions List.mem_cons_self rfl (optionTexts ["2", "3"]) rfl (.array (optionTexts ["2", "3"]))
    (.array (optionTexts ["3", "2"])) ⟨rfl, by simp [listedOptions, optionsOf, twoRightOptions, optionTexts]⟩
    ⟨rfl, by simp [listedOptions, optionsOf, twoRightOptions, optionTexts]⟩
    (fun option => (List.Perm.swap _ _ _).mem_iff)
  exact absurd same (by decide +kernel)

end EduAi.Quizzes
