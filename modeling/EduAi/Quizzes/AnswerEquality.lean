import EduAi.Quizzes.CanonicalJson

set_option autoImplicit false

namespace EduAi.Quizzes

open EduAi.Store

def typeOfLead (c : UInt16) : Option JsonType :=
  if c = 110 then some .null
  else if c = 116 ∨ c = 102 then some .bool
  else if c = quoteMark then some .string
  else if c = 91 then some .array
  else if c = 123 then some .object
  else if isNumberUnit c then some .number
  else none

theorem typeOfLead_number (c : UInt16) (unit : isNumberUnit c = true) : typeOfLead c = some .number := by
  have letters : ∀ d ∈ [110, 116, 102, quoteMark, 91, 123], isNumberUnit d = false :=
    each_of_all _ _ (by decide)
  have others (d : UInt16) (member : d ∈ [110, 116, 102, quoteMark, 91, 123]) : c ≠ d := by
    intro same
    rw [same, letters d member] at unit
    cases unit
  unfold typeOfLead
  rw [if_neg (others _ (by simp)), if_neg (by simp [others 116, others 102]), if_neg (others _ (by simp)),
    if_neg (others _ (by simp)), if_neg (others _ (by simp)), if_pos unit]

section Canonical

variable (toLowerCase : Units → Units)

theorem canonicalJson_lead (a : Json) : ∃ c rest, canonicalJson toLowerCase a = c :: rest ∧ typeOfLead c = some a.type := by
  cases a with
  | null => exact ⟨_, _, rfl, rfl⟩
  | bool b => cases b <;> exact ⟨_, _, rfl, rfl⟩
  | number n =>
      obtain ⟨c, rest, shape⟩ := List.exists_cons_of_ne_nil n.some
      refine ⟨c, rest, shape, typeOfLead_number c ?_⟩
      have units := n.units
      rw [shape, List.all_cons, Bool.and_eq_true] at units
      exact units.1
  | string s => exact ⟨_, _, rfl, rfl⟩
  | array items => exact ⟨_, _, rfl, rfl⟩
  | object fields => exact ⟨_, _, rfl, rfl⟩

theorem same_type (a b : Json) (x y : Units) (same : canonicalJson toLowerCase a ++ x = canonicalJson toLowerCase b ++ y) :
    a.type = b.type := by
  obtain ⟨c, rest, shape, lead⟩ := canonicalJson_lead toLowerCase a
  obtain ⟨d, rest', shape', lead'⟩ := canonicalJson_lead toLowerCase b
  rw [shape, shape', List.cons_append, List.cons_append] at same
  rw [(List.cons.inj same).1, lead'] at lead
  exact (Option.some.inj lead).symm

theorem canonicalJson_apart (close : UInt16) (closing : typeOfLead close = none) (a : Json) (rest z : Units) :
    canonicalJson toLowerCase a ++ z ≠ close :: rest := by
  obtain ⟨c, more, shape, lead⟩ := canonicalJson_lead toLowerCase a
  rw [shape, List.cons_append]
  intro same
  rw [(List.cons.inj same).1, closing] at lead
  cases lead

theorem number_prefix (m n : JsonNumber) (x y : Units) (endsX : Ends x) (endsY : Ends y) (same : m.text ++ x = n.text ++ y) :
    m = n ∧ x = y := by
  have read (k : JsonNumber) (z : Units) (ends : Ends z) : (k.text ++ z).takeWhile isNumberUnit = k.text := by
    rw [List.takeWhile_append_of_pos (List.all_eq_true.mp k.units)]
    cases z with
    | nil => simp
    | cons c rest => rw [List.takeWhile_cons_of_neg (by simp [ends c rfl]), List.append_nil]
  have texts : m.text = n.text := by rw [← read m x endsX, same, read n y endsY]
  rw [texts] at same
  refine ⟨?_, List.append_cancel_left same⟩
  cases m
  cases n
  simp_all

def Decodes (a : Json) : Prop :=
  ∀ b x y, b.Distinct → Ends x → Ends y → canonicalJson toLowerCase a ++ x = canonicalJson toLowerCase b ++ y →
    Alike toLowerCase a b ∧ x = y

theorem array_decodes (items : List Json) (each : ∀ item ∈ items, Decodes toLowerCase item) :
    Decodes toLowerCase (.array items) := by
  intro b x y distinct endsX endsY same
  cases b with
  | array others =>
      have members := distinctItems_mem others distinct
      rw [canonicalJson, canonicalJson, canonicalItems_map, canonicalItems_map, List.cons_append, List.cons_append,
        List.append_assoc, List.append_assoc, List.singleton_append, List.singleton_append] at same
      obtain ⟨alike, rest⟩ := listed_prefix (canonicalJson toLowerCase) (Alike toLowerCase) 93 rfl (by decide) items others
        (fun p m q m' x y => each p m q x y (members q m'))
        (fun p rest z => canonicalJson_apart toLowerCase 93 (by decide) p rest z) x y (List.cons.inj same).2
      exact ⟨(alikeItems_forall toLowerCase items others).mpr alike, rest⟩
  | _ => exact absurd (same_type toLowerCase _ _ x y same) (by simp [Json.type])

def memberText (field : Units × Json) : Units :=
  fieldText (field.1, canonicalJson toLowerCase field.2)

def AlikeMember (p q : Units × Json) : Prop :=
  p.1 = q.1 ∧ Alike toLowerCase p.2 q.2

theorem object_text (fields : List (Units × Json)) : canonicalJson toLowerCase (.object fields) =
    123 :: ([comma].intercalate ((sortByKey fields).map (memberText toLowerCase)) ++ [125]) := by
  have shape : (fieldText ∘ fun f : Units × Json => (f.1, canonicalJson toLowerCase f.2)) = memberText toLowerCase := rfl
  rw [canonicalJson, canonicalFields_map, sortByKey_map, List.map_map, shape]

theorem field_decodes (p q : Units × Json) (x y : Units) (decodes : Decodes toLowerCase p.2) (distinct : q.2.Distinct)
    (endsX : Ends x) (endsY : Ends y) (same : memberText toLowerCase p ++ x = memberText toLowerCase q ++ y) :
    AlikeMember toLowerCase p q ∧ x = y := by
  rw [memberText, memberText, fieldText, fieldText, List.append_assoc, List.append_assoc, List.cons_append, List.cons_append] at same
  obtain ⟨keys, rest⟩ := quoted_prefix p.1 q.1 _ _ same
  obtain ⟨alike, ends⟩ := decodes q.2 x y distinct endsX endsY (List.cons.inj rest).2
  exact ⟨⟨keys, alike⟩, ends⟩

theorem object_decodes (fields : List (Units × Json)) (each : ∀ f ∈ fields, Decodes toLowerCase f.2) :
    Decodes toLowerCase (.object fields) := by
  intro b x y distinct endsX endsY same
  cases b with
  | object others =>
      have members := distinctFields_mem others distinct.2
      rw [object_text, object_text, List.cons_append, List.cons_append, List.append_assoc, List.append_assoc,
        List.singleton_append, List.singleton_append] at same
      obtain ⟨alike, rest⟩ := listed_prefix (memberText toLowerCase) (AlikeMember toLowerCase) 125 rfl (by decide)
        (sortByKey fields) (sortByKey others)
        (fun p m q m' x y endsX endsY => field_decodes toLowerCase p q x y
          (each p ((sortByKey_perm fields).mem_iff.mp m)) (members q ((sortByKey_perm others).mem_iff.mp m')) endsX endsY)
        (fun p rest z same => absurd (List.cons.inj same).1 (by decide)) x y (List.cons.inj same).2
      refine ⟨⟨?_, (alikeFields_iff toLowerCase fields others).mpr ?_⟩, rest⟩
      · rw [← (sortByKey_perm fields).length_eq, alike.length_eq, (sortByKey_perm others).length_eq]
      · intro f member
        have listed := (sortByKey_perm fields).mem_iff.mpr member
        obtain ⟨g, there, keys, values⟩ := forall₂_partner _ _ _ alike f listed
        refine ⟨g.2, ?_, values⟩
        rw [keys]
        exact (sortByKey_perm others).mem_iff.mp there
  | _ => exact absurd (same_type toLowerCase _ _ x y same) (by simp [Json.type])

mutual
theorem json_decodes : ∀ a : Json, Decodes toLowerCase a
  | .null => by
      intro b x y _ _ _ same
      cases b with
      | null => exact ⟨trivial, List.append_cancel_left same⟩
      | _ => exact absurd (same_type toLowerCase _ _ x y same) (by simp [Json.type])
  | .bool u => by
      intro b x y _ _ _ same
      cases b with
      | bool v =>
          cases u <;> cases v
          · exact ⟨rfl, List.append_cancel_left same⟩
          · exact absurd (List.cons.inj same).1 (by decide)
          · exact absurd (List.cons.inj same).1 (by decide)
          · exact ⟨rfl, List.append_cancel_left same⟩
      | _ => exact absurd (same_type toLowerCase _ _ x y same) (by simp [Json.type])
  | .number m => by
      intro b x y _ endsX endsY same
      cases b with
      | number n => exact number_prefix m n x y endsX endsY same
      | _ => exact absurd (same_type toLowerCase _ _ x y same) (by simp [Json.type])
  | .string s => by
      intro b x y _ _ _ same
      cases b with
      | string t => exact quoted_prefix _ _ x y same
      | _ => exact absurd (same_type toLowerCase _ _ x y same) (by simp [Json.type])
  | .array items => array_decodes toLowerCase items (items_decode items)
  | .object fields => object_decodes toLowerCase fields (fields_decode fields)
theorem items_decode : ∀ items : List Json, ∀ item ∈ items, Decodes toLowerCase item
  | [], _, member => absurd member List.not_mem_nil
  | first :: rest, item, member => by
      rcases List.mem_cons.mp member with same | inRest
      · rw [same]
        exact json_decodes first
      · exact items_decode rest item inRest
theorem fields_decode : ∀ fields : List (Units × Json), ∀ f ∈ fields, Decodes toLowerCase f.2
  | [], _, member => absurd member List.not_mem_nil
  | (key, value) :: rest, f, member => by
      rcases List.mem_cons.mp member with same | inRest
      · rw [same]
        exact json_decodes value
      · exact fields_decode rest f inRest
end

def Agrees (a : Json) : Prop :=
  ∀ b, b.Distinct → Alike toLowerCase a b → canonicalJson toLowerCase a = canonicalJson toLowerCase b

theorem array_agrees (items others : List Json) (each : ∀ item ∈ items, Agrees toLowerCase item)
    (distinct : distinctItems others) (alike : AlikeItems toLowerCase items others) :
    canonicalItems toLowerCase items = canonicalItems toLowerCase others := by
  induction items generalizing others with
  | nil =>
      cases others with
      | nil => rfl
      | cons other rest => cases alike
  | cons item items ih =>
      cases others with
      | nil => cases alike
      | cons other rest =>
          rw [canonicalItems, canonicalItems, each item List.mem_cons_self other distinct.1 alike.1,
            ih rest (fun x member => each x (List.mem_cons_of_mem _ member)) distinct.2 alike.2]

theorem object_agrees (fields others : List (Units × Json)) (keys : (fields.map (·.1)).Nodup)
    (each : ∀ f ∈ fields, Agrees toLowerCase f.2) (distinct : (Json.object others).Distinct)
    (alike : Alike toLowerCase (.object fields) (.object others)) :
    sortByKey (canonicalFields toLowerCase fields) = sortByKey (canonicalFields toLowerCase others) := by
  obtain ⟨level, partners⟩ := alike
  rw [canonicalFields_map, canonicalFields_map]
  have members := distinctFields_mem others distinct.2
  have inside : fields.map (fun f => (f.1, canonicalJson toLowerCase f.2)) ⊆
      others.map (fun f => (f.1, canonicalJson toLowerCase f.2)) := by
    intro pair member
    obtain ⟨f, listed, rfl⟩ := List.mem_map.mp member
    obtain ⟨other, there, holds⟩ := (alikeFields_iff toLowerCase fields others).mp partners f listed
    rw [each f listed other (members _ there) holds]
    exact List.mem_map.mpr ⟨(f.1, other), there, rfl⟩
  have once : (fields.map (fun f => (f.1, canonicalJson toLowerCase f.2))).Nodup := by
    refine List.Nodup.of_map (·.1) ?_
    rw [List.map_map]
    exact keys
  have perm := (List.subperm_of_subset once inside).perm_of_length_le (by rw [List.length_map, List.length_map, level])
  refine sortByKey_eq _ _ perm ?_
  rw [List.map_map]
  exact distinct.1

mutual
theorem json_agrees : ∀ a : Json, a.Distinct → Agrees toLowerCase a
  | .null, _ => by
      intro b _ alike
      cases b with
      | null => rfl
      | _ => cases alike
  | .bool u, _ => by
      intro b _ alike
      cases b with
      | bool v =>
          have same : u = v := alike
          rw [same]
      | _ => cases alike
  | .number m, _ => by
      intro b _ alike
      cases b with
      | number n =>
          have same : m = n := alike
          rw [same]
      | _ => cases alike
  | .string s, _ => by
      intro b _ alike
      cases b with
      | string t =>
          have same : toLowerCase (trim s) = toLowerCase (trim t) := alike
          rw [canonicalJson, canonicalJson, same]
      | _ => cases alike
  | .array items, distinct => by
      intro b distinctB alike
      cases b with
      | array others =>
          have texts := array_agrees toLowerCase items others (items_agree items distinct) distinctB alike
          rw [canonicalJson, canonicalJson, texts]
      | _ => cases alike
  | .object fields, distinct => by
      intro b distinctB alike
      cases b with
      | object others =>
          have texts := object_agrees toLowerCase fields others distinct.1 (fields_agree fields distinct.2) distinctB alike
          rw [canonicalJson, canonicalJson, texts]
      | _ => cases alike
theorem items_agree : ∀ items : List Json, distinctItems items → ∀ item ∈ items, Agrees toLowerCase item
  | [], _, _, member => absurd member List.not_mem_nil
  | first :: rest, distinct, item, member => by
      rcases List.mem_cons.mp member with same | inRest
      · rw [same]
        exact json_agrees first distinct.1
      · exact items_agree rest distinct.2 item inRest
theorem fields_agree : ∀ fields : List (Units × Json), distinctFields fields → ∀ f ∈ fields, Agrees toLowerCase f.2
  | [], _, _, member => absurd member List.not_mem_nil
  | (key, value) :: rest, distinct, f, member => by
      rcases List.mem_cons.mp member with same | inRest
      · rw [same]
        exact json_agrees value distinct.1
      · exact fields_agree rest distinct.2 f inRest
end

theorem ends_nil : Ends [] := by
  intro c member
  cases member

theorem text_alike (a b : Json) (distinctA : a.Distinct) (distinctB : b.Distinct) :
    canonicalJson toLowerCase a = canonicalJson toLowerCase b ↔ Alike toLowerCase a b := by
  constructor
  · intro same
    exact (json_decodes toLowerCase a b [] [] distinctB ends_nil ends_nil (by rw [same])).1
  · exact json_agrees toLowerCase a distinctA b distinctB

theorem alike_type (a b : Json) (alike : Alike toLowerCase a b) : a.type = b.type := by
  cases a <;> cases b <;> first | rfl | cases alike

-- The values of JSON: every object has each of its keys once.
def JsonValue : Type :=
  { a : Json // a.Distinct }

/-- Two values have the same canonical text exactly when they are alike, and then they have the same type. -/
theorem canonicalJson_injective (a b : JsonValue) :
    (canonicalJson toLowerCase a.1 = canonicalJson toLowerCase b.1 ↔ Alike toLowerCase a.1 b.1) ∧
      (canonicalJson toLowerCase a.1 = canonicalJson toLowerCase b.1 → a.1.type = b.1.type) := by
  have alike := text_alike toLowerCase a.1 b.1 a.2 b.2
  refine ⟨alike, ?_⟩
  intro same
  exact alike_type toLowerCase a.1 b.1 (alike.mp same)

end Canonical

end EduAi.Quizzes
