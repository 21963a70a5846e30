import Mathlib.Data.List.Infix

set_option autoImplicit false

namespace EduAi.Store

section Suffixes

variable {α : Type} (size : List α → Int)

def growSuffix (bound : Int) : List α → List α → List α
  | [], suffix => suffix
  | item :: rest, suffix =>
      if size (item :: suffix) > bound then suffix else growSuffix bound rest (item :: suffix)

def takeSuffix (bound : Int) (items : List α) : List α :=
  growSuffix size bound items.reverse []

structure LongestSuffix (bound : Int) (items suffix : List α) : Prop where
  isSuffix : suffix <:+ items
  fits : size suffix ≤ bound
  most : ∀ other, other <:+ items → size other ≤ bound → other <:+ suffix

structure Measures : Prop where
  empty : size [] = 0
  grows : ∀ part whole, part <:+: whole → size part ≤ size whole

variable {size}

theorem growSuffix_longest (measures : Measures size) (bound : Int) (rest suffix : List α) (fits : size suffix ≤ bound) :
    LongestSuffix size bound (rest.reverse ++ suffix) (growSuffix size bound rest suffix) := by
  induction rest generalizing suffix with
  | nil => exact ⟨List.suffix_refl _, fits, fun other ends _ => ends⟩
  | cons item rest ih =>
      have shape : (item :: rest).reverse ++ suffix = rest.reverse ++ item :: suffix := by simp
      rw [shape, growSuffix]
      by_cases exceeds : size (item :: suffix) > bound
      · rw [if_pos exceeds]
        refine ⟨⟨rest.reverse ++ [item], by simp⟩, fits, ?_⟩
        intro other ends small
        have here : item :: suffix <:+ rest.reverse ++ item :: suffix := List.suffix_append _ _
        rcases List.suffix_or_suffix_of_suffix here ends with longer | shorter
        · have most := measures.grows _ _ longer.isInfix
          omega
        · rcases List.suffix_cons_iff.mp shorter with rfl | inside
          · omega
          · exact inside
      · rw [if_neg exceeds]
        exact ih (item :: suffix) (by omega)

theorem takeSuffix_longest (measures : Measures size) (bound : Int) (lower : 0 ≤ bound) (items : List α) :
    LongestSuffix size bound items (takeSuffix size bound items) := by
  have grown := growSuffix_longest measures bound items.reverse [] (by rw [measures.empty]; exact lower)
  rw [List.reverse_reverse, List.append_nil] at grown
  exact grown

end Suffixes

structure Grouping (α : Type) where
  closed : List (List α)
  current : List α

section Groups

variable {α : Type} (size : List α → Int) (limit bound : Int)

def Grouping.add (g : Grouping α) (item : α) : Grouping α :=
  if g.current ≠ [] ∧ size (g.current ++ [item]) > limit then
    { closed := g.closed ++ [g.current], current := takeSuffix size bound g.current ++ [item] }
  else { g with current := g.current ++ [item] }

def group (items : List α) : Grouping α :=
  items.foldl (Grouping.add size limit bound) { closed := [], current := [] }

def Grouping.groups (g : Grouping α) : List (List α) :=
  g.closed ++ if g.current ≠ [] then [g.current] else []

-- Each further group repeats the longest end of the last one that fits the bound and goes on from there.
inductive Covers : List (List α) → List α → Prop
  | none : Covers [] []
  | next (groups : List (List α)) (items overlap fresh : List α) : Covers groups items →
      LongestSuffix size bound (groups.getLastD []) overlap → fresh ≠ [] →
      Covers (groups ++ [overlap ++ fresh]) (items ++ fresh)

theorem mem_getLastD (groups : List (List α)) (item : α) (member : item ∈ groups.getLastD []) : ∃ g ∈ groups, item ∈ g := by
  rcases List.eq_nil_or_concat groups with rfl | ⟨front, last, rfl⟩
  · cases member
  · rw [List.concat_eq_append, List.getLastD_concat] at member
    exact ⟨last, by simp, member⟩

theorem Covers.mem (groups : List (List α)) (items : List α) (covers : Covers size bound groups items) :
    ∀ g ∈ groups, ∀ item ∈ g, item ∈ items := by
  induction covers with
  | none => simp
  | next groups items overlap fresh _ longest _ ih =>
      intro g member item inGroup
      rcases List.mem_append.mp member with old | last
      · exact List.mem_append_left _ (ih g old item inGroup)
      · rw [List.mem_singleton.mp last] at inGroup
        rcases List.mem_append.mp inGroup with carried | new
        · obtain ⟨earlier, inside, there⟩ := mem_getLastD groups item (longest.isSuffix.subset carried)
          exact List.mem_append_left _ (ih earlier inside item there)
        · exact List.mem_append_right _ new

theorem group_append (items : List α) (item : α) :
    group size limit bound (items ++ [item]) = (group size limit bound items).add size limit bound item := by
  rw [group, List.foldl_append, List.foldl_cons, List.foldl_nil, group]

def Covering (items : List α) (g : Grouping α) : Prop :=
  ∃ past overlap fresh, Covers size bound g.closed past ∧ LongestSuffix size bound (g.closed.getLastD []) overlap ∧
    g.current = overlap ++ fresh ∧ items = past ++ fresh ∧ (fresh = [] → g.current = [] ∧ items = [])

theorem Covering.groups (items : List α) (g : Grouping α) (covering : Covering size bound items g) :
    Covers size bound g.groups items := by
  obtain ⟨past, overlap, fresh, covers, longest, current, whole, started⟩ := covering
  rw [Grouping.groups]
  by_cases some : g.current ≠ []
  · rw [if_pos some, current, whole]
    exact .next _ _ _ _ covers longest (fun none => some (started none).1)
  · rw [if_neg some, List.append_nil, whole]
    have none : fresh = [] := (List.append_eq_nil_iff.mp (current.symm.trans (not_not.mp some))).2
    rw [none, List.append_nil]
    exact covers

variable {size}
variable (measures : Measures size) (lower : 0 ≤ bound)

include measures lower in
theorem group_covering (items : List α) : Covering size bound items (group size limit bound items) := by
  induction items using List.reverseRecOn with
  | nil =>
      have none : LongestSuffix size bound [] [] :=
        ⟨List.suffix_refl _, by rw [measures.empty]; exact lower, fun other ends _ => ends⟩
      exact ⟨[], [], [], .none, none, rfl, rfl, fun _ => ⟨rfl, rfl⟩⟩
  | append_singleton items item ih =>
      obtain ⟨past, overlap, fresh, covers, longest, current, whole, started⟩ := ih
      rw [group_append, Grouping.add]
      by_cases cut : (group size limit bound items).current ≠ [] ∧
          size ((group size limit bound items).current ++ [item]) > limit
      · rw [if_pos cut]
        have some : fresh ≠ [] := fun none => cut.1 (started none).1
        refine ⟨past ++ fresh, takeSuffix size bound (group size limit bound items).current, [item], ?_, ?_, rfl, ?_, ?_⟩
        · rw [current]
          exact .next _ _ _ _ covers longest some
        · rw [List.getLastD_concat]
          exact takeSuffix_longest measures bound lower _
        · rw [whole]
        · intro none
          cases none
      · rw [if_neg cut]
        refine ⟨past, overlap, fresh ++ [item], covers, longest, ?_, ?_, ?_⟩
        · rw [← List.append_assoc, ← current]
        · rw [whole, List.append_assoc]
        · intro none
          exact absurd none (by simp)

include measures lower in
theorem group_covers (items : List α) : Covers size bound (group size limit bound items).groups items :=
  Covering.groups size bound items _ (group_covering limit bound measures lower items)

include measures lower in
theorem add_keeps (g : Grouping α) (item : α) (run : List α) (inside : run <:+ g.current) (small : size run ≤ bound) :
    run ++ [item] <:+ (g.add size limit bound item).current := by
  have extended (current : List α) (ends : run <:+ current) : run ++ [item] <:+ current ++ [item] :=
    List.suffix_concat_iff.mpr (.inr ⟨run, rfl, ends⟩)
  rw [Grouping.add]
  by_cases cut : g.current ≠ [] ∧ size (g.current ++ [item]) > limit
  · rw [if_pos cut]
    exact extended _ ((takeSuffix_longest measures bound lower g.current).most run inside small)
  · rw [if_neg cut]
    exact extended _ inside

include measures lower in
theorem run_kept (items run : List α) (ends : run <:+ items) (small : size run ≤ bound) :
    run <:+ (group size limit bound items).current := by
  induction items using List.reverseRecOn generalizing run with
  | nil =>
      rw [List.suffix_nil.mp ends]
      exact List.nil_suffix
  | append_singleton items item ih =>
      rw [group_append]
      rcases List.suffix_concat_iff.mp ends with rfl | ⟨front, rfl, inside⟩
      · exact List.nil_suffix
      · have less : size front ≤ size (front ++ [item]) := measures.grows _ _ (List.prefix_append _ _).isInfix
        exact add_keeps limit bound measures lower _ item front (ih front inside (by omega)) (by omega)

include measures lower in
theorem current_suffix (items : List α) : (group size limit bound items).current <:+ items := by
  induction items using List.reverseRecOn with
  | nil => exact List.suffix_refl _
  | append_singleton items item ih =>
      rw [group_append, Grouping.add]
      by_cases cut : (group size limit bound items).current ≠ [] ∧
          size ((group size limit bound items).current ++ [item]) > limit
      · rw [if_pos cut]
        have taken := (takeSuffix_longest measures bound lower (group size limit bound items).current).isSuffix
        exact List.suffix_concat_iff.mpr (.inr ⟨_, rfl, taken.trans ih⟩)
      · rw [if_neg cut]
        exact List.suffix_concat_iff.mpr (.inr ⟨_, rfl, ih⟩)

omit measures lower in
theorem closed_stays (g : Grouping α) (rest : List α) :
    g.closed <+: (rest.foldl (Grouping.add size limit bound) g).closed := by
  induction rest generalizing g with
  | nil => exact List.prefix_refl _
  | cons item rest ih =>
      refine List.IsPrefix.trans ?_ (ih (g.add size limit bound item))
      rw [Grouping.add]
      by_cases cut : g.current ≠ [] ∧ size (g.current ++ [item]) > limit
      · rw [if_pos cut]
        exact List.prefix_append _ _
      · rw [if_neg cut]

theorem current_stays (g : Grouping α) (rest : List α) (some : g.current ≠ []) :
    ∃ p ∈ (rest.foldl (Grouping.add size limit bound) g).groups, g.current <+: p := by
  induction rest generalizing g with
  | nil =>
      refine ⟨g.current, ?_, List.prefix_refl _⟩
      rw [List.foldl_nil, Grouping.groups, if_pos some]
      exact List.mem_append_right _ List.mem_cons_self
  | cons item rest ih =>
      by_cases cut : g.current ≠ [] ∧ size (g.current ++ [item]) > limit
      · have closed : g.current ∈ (g.add size limit bound item).closed := by
          rw [Grouping.add, if_pos cut]
          exact List.mem_append_right _ List.mem_cons_self
        have stays : (g.add size limit bound item).closed <+: (rest.foldl (Grouping.add size limit bound) _).closed :=
          closed_stays limit bound (g.add size limit bound item) rest
        exact ⟨g.current, List.mem_append_left _ (stays.subset closed), List.prefix_refl _⟩
      · have grown : (g.add size limit bound item).current = g.current ++ [item] := by
          rw [Grouping.add, if_neg cut]
        obtain ⟨p, member, begins⟩ := ih (g.add size limit bound item) (by rw [grown]; simp)
        rw [grown] at begins
        exact ⟨p, member, (List.prefix_append _ _).trans begins⟩

variable (size)

def LeavesRoom (items : List α) : Prop :=
  ∀ front item back run, items = front ++ item :: back → run <:+ front → run ≠ [] → size run ≤ bound →
    size (run ++ [item]) ≤ limit

variable {size}

include measures lower in
theorem group_within (nonnegative : 0 ≤ limit) (items : List α) (singles : ∀ item ∈ items, size [item] ≤ limit)
    (room : LeavesRoom size limit bound items) :
    (∀ p ∈ (group size limit bound items).closed, size p ≤ limit) ∧ size (group size limit bound items).current ≤ limit := by
  induction items using List.reverseRecOn with
  | nil =>
      refine ⟨fun p member => absurd member (by simp [group]), ?_⟩
      have empty := measures.empty
      simp only [group, List.foldl_nil]
      omega
  | append_singleton items item ih =>
      have single := singles item (by simp)
      obtain ⟨closed, current⟩ := ih (fun x member => singles x (List.mem_append_left _ member)) (by
        intro front x back run split ends some small
        exact room front x (back ++ [item]) run (by rw [split, List.append_assoc, List.cons_append]) ends some small)
      have inside := current_suffix limit bound measures lower items
      rw [group_append, Grouping.add]
      generalize group size limit bound items = g at *
      by_cases cut : g.current ≠ [] ∧ size (g.current ++ [item]) > limit
      · rw [if_pos cut]
        have taken := takeSuffix_longest measures bound lower g.current
        constructor
        · intro p member
          rcases List.mem_append.mp member with old | new
          · exact closed p old
          · rw [List.mem_singleton.mp new]
            exact current
        · by_cases none : takeSuffix size bound g.current = []
          · rw [none]
            exact single
          · exact room items item [] _ rfl (taken.isSuffix.trans inside) none taken.fits
      · rw [if_neg cut]
        refine ⟨closed, ?_⟩
        show size (g.current ++ [item]) ≤ limit
        by_cases none : g.current = []
        · rw [none]
          exact single
        · by_contra exceeds
          exact cut ⟨none, by omega⟩

include measures lower in
theorem groups_bounded_iff (nonnegative : 0 ≤ limit) (items : List α) (singles : ∀ item ∈ items, size [item] ≤ limit) :
    (∀ p ∈ (group size limit bound items).groups, size p ≤ limit) ↔ LeavesRoom size limit bound items := by
  constructor
  · intro bounded front item back run split ends some small
    have kept := add_keeps limit bound measures lower (group size limit bound front) item run
      (run_kept limit bound measures lower front run ends small) small
    have there : ((group size limit bound front).add size limit bound item).current ≠ [] := by
      intro none
      rw [none] at kept
      exact absurd (List.suffix_nil.mp kept) (by simp)
    obtain ⟨p, member, begins⟩ := current_stays limit bound _ back there
    have whole : back.foldl (Grouping.add size limit bound) ((group size limit bound front).add size limit bound item) =
        group size limit bound items := by
      rw [split, group, group, List.foldl_append, List.foldl_cons]
    rw [whole] at member
    have first := measures.grows _ _ kept.isInfix
    have second := measures.grows _ _ begins.isInfix
    have third := bounded p member
    omega
  · intro room p member
    obtain ⟨closed, current⟩ := group_within limit bound measures lower nonnegative items singles room
    rcases List.mem_append.mp member with old | last
    · exact closed p old
    · by_cases some : (group size limit bound items).current ≠ []
      · rw [if_pos some] at last
        rw [List.mem_singleton.mp last]
        exact current
      · rw [if_neg some] at last
        cases last

end Groups

end EduAi.Store
