import SettingsCheck.Proofs.Queue

namespace SettingsCheck

open Std (LawfulEqOrd OrientedCmp OrientedOrd TransOrd)

/-- A list in which a property never comes back once it is lost. -/
theorem exists_split {α : Type} {p : α → Prop} {l : List α}
    (h : l.Pairwise fun a b => p b → p a) :
    ∃ first rest, l = first ++ rest ∧ (∀ a ∈ first, p a) ∧ ∀ a ∈ rest, ¬p a := by
  induction l with
  | nil => exact ⟨[], [], rfl, nofun, nofun⟩
  | cons a l ih =>
    obtain ⟨hlost, hl⟩ := List.pairwise_cons.mp h
    by_cases ha : p a
    · obtain ⟨first, rest, rfl, hfirst, hrest⟩ := ih hl
      exact ⟨a :: first, rest, rfl, List.forall_mem_cons.mpr ⟨ha, hfirst⟩, hrest⟩
    · refine ⟨[], a :: l, rfl, nofun, List.forall_mem_cons.mpr ⟨ha, ?_⟩⟩
      exact fun b hb hpb => ha (hlost b hb hpb)

namespace FieldPath

variable {path p q : FieldPath}

/-- A node comes before all that is below it. -/
theorem Below.isLE (h : path.Below p) : (compare path p).isLE := by
  obtain ⟨rest, hrest⟩ := h
  have hcompare : compareSteps path.steps p.steps = compareSteps [] rest := by
    rw [← compareSteps_append_left path.steps [], List.append_nil, hrest]
  change (compareSteps path.steps p.steps).isLE
  rw [hcompare]
  cases rest <;> rfl

theorem prefix_of_between {steps ps qs : List Step} (hp : (compareSteps steps ps).isLE)
    (hq : (compareSteps ps qs).isLE) (h : steps <+: qs) : steps <+: ps := by
  induction steps generalizing ps qs with
  | nil => exact List.nil_prefix
  | cons s steps ih =>
    obtain ⟨rest, rfl⟩ := h
    cases ps with
    | nil => cases hp
    | cons t ps =>
      rw [List.cons_append, compareSteps] at hq
      rw [compareSteps] at hp
      have hst := (Ordering.isLE_then_iff_and.mp hp).1
      have hts := (Ordering.isLE_then_iff_and.mp hq).1
      obtain rfl : s = t := Std.LawfulEqCmp.eq_of_compare (OrientedCmp.isLE_antisymm hst hts)
      have hself : Step.compare s s = .eq := Std.ReflCmp.compare_self
      rw [hself] at hp hq
      exact List.cons_prefix_cons.mpr ⟨rfl, ih hp hq (List.prefix_append steps rest)⟩

/-- What stands between a node and a place below it is below the node. -/
theorem Below.of_between (hp : (compare path p).isLE) (hpq : (compare p q).isLE)
    (h : path.Below q) : path.Below p :=
  prefix_of_between hp hpq h

/-- Places below children of a node are in the order of the steps to the children. -/
theorem isLE_step {a b : Step} (h : (compare p q).isLE) (hp : Below ⟨path.steps ++ [a]⟩ p)
    (hq : Below ⟨path.steps ++ [b]⟩ q) : (Step.compare a b).isLE := by
  by_contra hab
  have hqp := compare_below (OrientedCmp.lt_of_not_isLE hab) hq hp
  exact OrientedCmp.not_isLE_of_lt hqp h

theorem isLE_compare_names {a b : String} : (compare a b).isLE ↔ a ≤ b :=
  isLE_compareOfLessAndEq Std.le_antisymm Std.not_le fun _ _ => Std.le_total

theorem name_le (h : (compare p q).isLE) {a b : String} (hp : (path.key a).Below p)
    (hq : (path.key b).Below q) : a ≤ b :=
  isLE_compare_names.mp (isLE_step h hp hq)

theorem number_le (h : (compare p q).isLE) {i j : Nat} (hp : (path.index i).Below p)
    (hq : (path.index j).Below q) : i ≤ j :=
  Nat.isLE_compare.mp (isLE_step h hp hq)

/-- The names of a node come before its indices. -/
theorem not_index_before_name (h : (compare p q).isLE) {i : Nat} {name : String}
    (hp : (path.index i).Below p) : ¬(path.key name).Below q :=
  fun hq => nomatch isLE_step h hp hq

/-- What is below a node is at it, or below one of its names or indices. -/
theorem Below.cases (h : path.Below p) :
    p = path ∨ (∃ name, (path.key name).Below p) ∨ ∃ i, (path.index i).Below p := by
  obtain ⟨rest, hrest⟩ := h
  cases rest with
  | nil =>
    rw [List.append_nil] at hrest
    exact .inl (congrArg FieldPath.mk hrest.symm)
  | cons step rest =>
    have hchild : path.steps ++ [step] <+: p.steps :=
      ⟨rest, by rw [List.append_assoc, List.singleton_append, hrest]⟩
    cases step with
    | key name => exact .inr (.inl ⟨name, hchild⟩)
    | index i => exact .inr (.inr ⟨i, hchild⟩)

end FieldPath

namespace ValidationError

open FieldPath (Below)

/-- Errors at one place keep their order. -/
theorem filter_sortByPath (errors : List ValidationError) (place : FieldPath) :
    (sortByPath errors).filter (·.path = place) = errors.filter (·.path = place) := by
  have hsublist : (errors.filter (·.path = place)).Sublist (sortByPath errors) := by
    apply List.sublist_mergeSort
    · exact fun a b c hab hbc => Std.TransOrd.isLE_trans hab hbc
    · intro a b
      rw [OrientedOrd.eq_swap (a := b.path)]
      cases compare a.path b.path <;> rfl
    · refine List.pairwise_of_forall_mem_list fun a ha b hb => ?_
      have hplace : a.path = b.path := by
        rw [of_decide_eq_true (List.mem_filter.mp ha).2, of_decide_eq_true (List.mem_filter.mp hb).2]
      rw [hplace, Std.ReflOrd.compare_self]
      rfl
    · exact List.filter_sublist
  have hkept := hsublist.filter (·.path = place)
  rw [List.filter_filter] at hkept
  simp only [Bool.and_self] at hkept
  exact (hkept.eq_of_length ((sortByPath_perm errors).filter _).length_eq.symm).symm

/-- Below a node, the errors under its names go by the code points of the names and those under its
indices by number. -/
structure ChildrenInOrder (path : FieldPath) (named numbered : List ValidationError) : Prop where
  under_name : ∀ e ∈ named, ∃ name, (path.key name).Below e.path
  under_index : ∀ e ∈ numbered, ∃ i, (path.index i).Below e.path
  names_rise : named.Pairwise fun a b =>
    ∀ x y, (path.key x).Below a.path → (path.key y).Below b.path → x ≤ y
  indices_rise : numbered.Pairwise fun a b =>
    ∀ i j, (path.index i).Below a.path → (path.index j).Below b.path → i ≤ j

variable {path : FieldPath} {sorted : List ValidationError}

/-- What is below a node stands together. -/
theorem exists_block (path : FieldPath)
    (h : sorted.Pairwise fun a b => (compare a.path b.path).isLE) :
    ∃ before block after, sorted = before ++ block ++ after ∧ (∀ e ∈ block, path.Below e.path) ∧
      ∀ e ∈ before ++ after, ¬path.Below e.path := by
  have hbefore : sorted.Pairwise fun a b =>
      ¬(compare path b.path).isLE → ¬(compare path a.path).isLE :=
    h.imp fun hab hb ha => hb (TransOrd.isLE_trans ha hab)
  obtain ⟨before, rest, rfl, hearly, hlate⟩ := exists_split hbefore
  have hrest := (List.pairwise_append.mp h).2.1
  have hblock : rest.Pairwise fun a b => path.Below b.path → path.Below a.path :=
    hrest.imp_of_mem fun ha _ hab hb => hb.of_between (not_not.mp (hlate _ ha)) hab
  obtain ⟨block, after, rfl, hin, hout⟩ := exists_split hblock
  refine ⟨before, block, after, (List.append_assoc _ _ _).symm, hin, fun e he hbelow => ?_⟩
  rcases List.mem_append.mp he with he | he
  · exact hearly e he hbelow.isLE
  · exact hout e he hbelow

/-- Among what is below a node, the errors at the node come first. -/
theorem exists_children {block : List ValidationError}
    (h : block.Pairwise fun a b => (compare a.path b.path).isLE)
    (hin : ∀ e ∈ block, path.Below e.path) :
    ∃ named numbered, block = block.filter (·.path = path) ++ named ++ numbered ∧
      ChildrenInOrder path named numbered := by
  have hown : block.Pairwise fun a b => b.path = path → a.path = path := by
    refine h.imp_of_mem fun ha _ hab hb => ?_
    have hle : (compare _ path).isLE := hb ▸ hab
    exact LawfulEqOrd.eq_of_compare (OrientedCmp.isLE_antisymm hle (hin _ ha).isLE)
  obtain ⟨own, rest, rfl, hhere, haway⟩ := exists_split hown
  have hrest := (List.pairwise_append.mp h).2.1
  have hchild : ∀ e ∈ rest, (∃ name, (path.key name).Below e.path) ∨
      ∃ i, (path.index i).Below e.path :=
    fun e he => (hin e (List.mem_append_right _ he)).cases.resolve_left (haway e he)
  have hnames : rest.Pairwise fun a b =>
      (∃ name, (path.key name).Below b.path) → ∃ name, (path.key name).Below a.path := by
    refine hrest.imp_of_mem fun ha _ hab => ?_
    rintro ⟨name, hb⟩
    exact (hchild _ ha).resolve_right fun ⟨i, hi⟩ => FieldPath.not_index_before_name hab hi hb
  obtain ⟨named, numbered, rfl, hnamed, hnumbered⟩ := exists_split hnames
  obtain ⟨horder, hlast, -⟩ := List.pairwise_append.mp hrest
  refine ⟨named, numbered, ?_, hnamed, ?_, ?_, ?_⟩
  · have hkept : own.filter (·.path = path) = own :=
      List.filter_eq_self.mpr fun e he => decide_eq_true (hhere e he)
    have hdropped : (named ++ numbered).filter (·.path = path) = [] :=
      List.filter_eq_nil_iff.mpr fun e he => by simpa using haway e he
    rw [List.filter_append, hkept, hdropped, List.append_nil, List.append_assoc]
  · exact fun e he =>
      (hchild e (List.mem_append_right _ he)).resolve_left (hnumbered e he)
  · exact horder.imp fun hab x y hx hy => FieldPath.name_le hab hx hy
  · exact hlast.imp fun hab i j hi hj => FieldPath.number_le hab hi hj

/-- Sorting keeps the errors, and those at one place in their order. The errors of a subtree come in
one block: first those at its root, as they were found, then those below its names and those below
its indices. -/
theorem subtrees_in_blocks (errors : List ValidationError) (path : FieldPath) :
    (sortByPath errors).Perm errors ∧
      (∀ place, (sortByPath errors).filter (·.path = place) = errors.filter (·.path = place)) ∧
      ∃ before named numbered after,
        sortByPath errors =
          before ++ (errors.filter (·.path = path) ++ named ++ numbered) ++ after ∧
        (∀ e ∈ before ++ after, ¬path.Below e.path) ∧ ChildrenInOrder path named numbered := by
  have hsorted := pairwise_sortByPath errors
  obtain ⟨before, block, after, heq, hin, hout⟩ := exists_block path hsorted
  have hblock : block.Pairwise fun a b => (compare a.path b.path).isLE := by
    rw [heq] at hsorted
    exact (List.pairwise_append.mp (List.pairwise_append.mp hsorted).1).2.1
  obtain ⟨named, numbered, hsplit, hchildren⟩ := exists_children hblock hin
  have haway : ∀ part : List ValidationError, part ⊆ before ++ after →
      part.filter (·.path = path) = [] := by
    intro part hpart
    refine List.filter_eq_nil_iff.mpr fun e he => ?_
    simp only [decide_eq_true_eq]
    exact fun hplace => hout e (hpart he) (hplace ▸ Below.refl _)
  have hown : block.filter (·.path = path) = errors.filter (·.path = path) := by
    rw [← filter_sortByPath errors path, heq, List.filter_append, List.filter_append,
      haway before (List.subset_append_left _ _), haway after (List.subset_append_right _ _),
      List.nil_append, List.append_nil]
  refine ⟨sortByPath_perm errors, filter_sortByPath errors, before, named, numbered, after, ?_,
    hout, hchildren⟩
  rw [heq, ← hown, ← hsplit]

end ValidationError

end SettingsCheck
