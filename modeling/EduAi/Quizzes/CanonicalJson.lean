import EduAi.Store.JsonText
import EduAi.Store.KeyOrder
import EduAi.Store.Table

set_option autoImplicit false

namespace EduAi.Quizzes

open EduAi.Store

def comma : UInt16 := 44

def colon : UInt16 := 58

def fieldText (field : Units × Units) : Units :=
  quoted field.1 ++ colon :: field.2

section Canonical

-- String.prototype.toLowerCase.
variable (toLowerCase : Units → Units)

mutual
def canonicalJson : Json → Units
  | .null => ascii "null"
  | .bool true => ascii "true"
  | .bool false => ascii "false"
  | .number n => n.text
  | .string s => quoted (toLowerCase (trim s))
  | .array items => 91 :: ([comma].intercalate (canonicalItems items) ++ [93])
  | .object fields => 123 :: ([comma].intercalate ((sortByKey (canonicalFields fields)).map fieldText) ++ [125])
def canonicalItems : List Json → List Units
  | [] => []
  | item :: rest => canonicalJson item :: canonicalItems rest
def canonicalFields : List (Units × Json) → List (Units × Units)
  | [] => []
  | (key, value) :: rest => (key, canonicalJson value) :: canonicalFields rest
end

def answersMatch (submitted : Option Json) (correct : Json) : Bool :=
  (submitted.map (canonicalJson toLowerCase)).getD (ascii "undefined") = canonicalJson toLowerCase correct

-- Equal but for the case and the outer spaces of string leaves and for the order of object keys.
mutual
def Alike : Json → Json → Prop
  | .null, .null => True
  | .bool b, .bool c => b = c
  | .number m, .number n => m = n
  | .string s, .string t => toLowerCase (trim s) = toLowerCase (trim t)
  | .array xs, .array ys => AlikeItems xs ys
  | .object fs, .object gs => fs.length = gs.length ∧ AlikeFields fs gs
  | _, _ => False
def AlikeItems : List Json → List Json → Prop
  | [], [] => True
  | x :: xs, y :: ys => Alike x y ∧ AlikeItems xs ys
  | _, _ => False
def AlikeFields : List (Units × Json) → List (Units × Json) → Prop
  | [], _ => True
  | (key, value) :: rest, fields => (∃ other, (key, other) ∈ fields ∧ Alike value other) ∧ AlikeFields rest fields
end

theorem canonicalItems_map (items : List Json) :
    canonicalItems toLowerCase items = items.map (canonicalJson toLowerCase) := by
  induction items with
  | nil => rfl
  | cons item rest ih => rw [canonicalItems, ih, List.map_cons]

theorem canonicalFields_map (fields : List (Units × Json)) :
    canonicalFields toLowerCase fields = fields.map (fun f => (f.1, canonicalJson toLowerCase f.2)) := by
  induction fields with
  | nil => rfl
  | cons field rest ih =>
      obtain ⟨key, value⟩ := field
      rw [canonicalFields, ih, List.map_cons]

theorem alikeItems_forall (xs ys : List Json) : AlikeItems toLowerCase xs ys ↔ List.Forall₂ (Alike toLowerCase) xs ys := by
  induction xs generalizing ys with
  | nil => cases ys <;> simp [AlikeItems]
  | cons x xs ih =>
      cases ys with
      | nil => simp [AlikeItems]
      | cons y ys => rw [AlikeItems, ih, List.forall₂_cons]

theorem alikeFields_iff (fs gs : List (Units × Json)) : AlikeFields toLowerCase fs gs ↔
    ∀ f ∈ fs, ∃ other, (f.1, other) ∈ gs ∧ Alike toLowerCase f.2 other := by
  induction fs with
  | nil => simp [AlikeFields]
  | cons f fs ih =>
      obtain ⟨key, value⟩ := f
      rw [AlikeFields, ih, List.forall_mem_cons]

end Canonical

def Ends (x : Units) : Prop :=
  ∀ c ∈ x.head?, isNumberUnit c = false

theorem ends_cons (c : UInt16) (rest : Units) (other : isNumberUnit c = false) : Ends (c :: rest) := by
  intro d first
  rw [List.head?_cons, Option.mem_some_iff] at first
  rw [← first]
  exact other

section Lists

variable {ι : Type} (text : ι → Units) (R : ι → ι → Prop)

theorem intercalate_cons (t : Units) (ts : List Units) :
    [comma].intercalate (t :: ts) = t ++ ts.flatMap (fun u => comma :: u) := by
  induction ts generalizing t with
  | nil => simp
  | cons u us ih =>
      rw [List.intercalate_cons_cons, ih, List.flatMap_cons, List.append_assoc]
      simp

theorem tail_ends (ps : List ι) (close : UInt16) (x : Units) (closing : isNumberUnit close = false) :
    Ends ((ps.map text).flatMap (fun u => comma :: u) ++ close :: x) := by
  cases ps with
  | nil => exact ends_cons close x closing
  | cons p ps =>
      rw [List.map_cons, List.flatMap_cons, List.append_assoc, List.cons_append]
      exact ends_cons comma _ rfl

theorem tails_prefix (close : UInt16) (closing : isNumberUnit close = false) (other : close ≠ comma) (ps qs : List ι)
    (each : ∀ p ∈ ps, ∀ q ∈ qs, ∀ x y, Ends x → Ends y → text p ++ x = text q ++ y → R p q ∧ x = y) (x y : Units)
    (same : (ps.map text).flatMap (fun u => comma :: u) ++ close :: x =
      (qs.map text).flatMap (fun u => comma :: u) ++ close :: y) : List.Forall₂ R ps qs ∧ x = y := by
  induction ps generalizing qs with
  | nil =>
      cases qs with
      | nil => exact ⟨.nil, (List.cons.inj same).2⟩
      | cons q qs =>
          rw [List.map_cons, List.flatMap_cons, List.append_assoc, List.cons_append] at same
          exact absurd (List.cons.inj same).1 other
  | cons p ps ih =>
      rw [List.map_cons, List.flatMap_cons, List.append_assoc, List.cons_append] at same
      cases qs with
      | nil => exact absurd (List.cons.inj same).1.symm other
      | cons q qs =>
          rw [List.map_cons, List.flatMap_cons, List.append_assoc, List.cons_append] at same
          obtain ⟨here, later⟩ := each p List.mem_cons_self q List.mem_cons_self _ _ (tail_ends text ps close x closing)
            (tail_ends text qs close y closing) (List.cons.inj same).2
          obtain ⟨rest, ends⟩ := ih qs (fun p' m q' m' => each p' (List.mem_cons_of_mem _ m) q' (List.mem_cons_of_mem _ m')) later
          exact ⟨.cons here rest, ends⟩

theorem listed_prefix (close : UInt16) (closing : isNumberUnit close = false) (other : close ≠ comma) (ps qs : List ι)
    (each : ∀ p ∈ ps, ∀ q ∈ qs, ∀ x y, Ends x → Ends y → text p ++ x = text q ++ y → R p q ∧ x = y)
    (apart : ∀ p rest z, text p ++ z ≠ close :: rest) (x y : Units)
    (same : [comma].intercalate (ps.map text) ++ close :: x = [comma].intercalate (qs.map text) ++ close :: y) :
    List.Forall₂ R ps qs ∧ x = y := by
  cases ps with
  | nil =>
      cases qs with
      | nil => exact ⟨.nil, (List.cons.inj same).2⟩
      | cons q qs =>
          rw [List.map_cons, intercalate_cons, List.append_assoc] at same
          exact absurd same.symm (apart q _ _)
  | cons p ps =>
      rw [List.map_cons, intercalate_cons, List.append_assoc] at same
      cases qs with
      | nil => exact absurd same (apart p _ _)
      | cons q qs =>
          rw [List.map_cons, intercalate_cons, List.append_assoc] at same
          obtain ⟨here, later⟩ := each p List.mem_cons_self q List.mem_cons_self _ _ (tail_ends text ps close x closing)
            (tail_ends text qs close y closing) same
          obtain ⟨rest, ends⟩ := tails_prefix text R close closing other ps qs
            (fun p' m q' m' => each p' (List.mem_cons_of_mem _ m) q' (List.mem_cons_of_mem _ m')) x y later
          exact ⟨.cons here rest, ends⟩

end Lists

end EduAi.Quizzes
