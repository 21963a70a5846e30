import EduAi.Store.CodeUnits
import Mathlib.Data.List.Sort
import Mathlib.Order.Lex

set_option autoImplicit false

namespace EduAi.Store

def keyLe {β : Type} (a b : Units × β) : Prop :=
  a.1.map UInt16.toNat ≤ b.1.map UInt16.toNat

instance {β : Type} : DecidableRel (keyLe (β := β)) := fun a b => by
  unfold keyLe
  infer_instance

def sortByKey {β : Type} (fields : List (Units × β)) : List (Units × β) :=
  fields.insertionSort keyLe

section Keys

variable {β : Type}

theorem keyLe_antisymm (a b : Units × β) (first : keyLe a b) (second : keyLe b a) : a.1 = b.1 := by
  have same := le_antisymm first second
  exact List.map_injective_iff.mpr (fun c d level => UInt16.toNat_inj.mp level) same

instance : Std.Total (keyLe (β := β)) := ⟨fun a b => le_total (a.1.map UInt16.toNat) (b.1.map UInt16.toNat)⟩

instance : IsTrans (Units × β) keyLe := ⟨fun _ _ _ first second => le_trans first second⟩

theorem sortByKey_perm (fields : List (Units × β)) : (sortByKey fields).Perm fields :=
  List.perm_insertionSort keyLe fields

theorem sortByKey_eq (fs gs : List (Units × β)) (perm : fs.Perm gs) (distinct : (gs.map (·.1)).Nodup) :
    sortByKey fs = sortByKey gs := by
  refine List.Perm.eq_of_pairwise ?_ (List.pairwise_insertionSort keyLe fs) (List.pairwise_insertionSort keyLe gs)
    ((sortByKey_perm fs).trans (perm.trans (sortByKey_perm gs).symm))
  intro a b memberA memberB first second
  have inA : a ∈ gs := perm.mem_iff.mp ((sortByKey_perm fs).mem_iff.mp memberA)
  have inB : b ∈ gs := (sortByKey_perm gs).mem_iff.mp memberB
  exact List.inj_on_of_nodup_map distinct inA inB (keyLe_antisymm a b first second)

theorem sortByKey_map {γ : Type} (g : β → γ) (fields : List (Units × β)) :
    sortByKey (fields.map (fun f => (f.1, g f.2))) = (sortByKey fields).map (fun f => (f.1, g f.2)) :=
  (List.map_insertionSort keyLe keyLe (fun f : Units × β => (f.1, g f.2)) fields (fun _ _ _ _ => Iff.rfl)).symm

end Keys

-- Whether a < b is false of the texts the other way round, as the source compares strings.
def textLe (a b : String) : Prop :=
  keyLe (unitsOf a, ()) (unitsOf b, ())

instance : DecidableRel textLe := fun a b => by
  unfold textLe
  infer_instance

theorem textLe_total (a b : String) : textLe a b ∨ textLe b a :=
  Std.Total.total (r := keyLe) (unitsOf a, ()) (unitsOf b, ())

theorem textLe_trans (a b c : String) (first : textLe a b) (second : textLe b c) : textLe a c :=
  le_trans first second

theorem textLe_antisymm (a b : String) (first : textLe a b) (second : textLe b a) : a = b :=
  unitsOf_injective a b (keyLe_antisymm (unitsOf a, ()) (unitsOf b, ()) first second)

end EduAi.Store
