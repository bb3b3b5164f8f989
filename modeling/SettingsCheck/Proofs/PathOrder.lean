import SettingsCheck.Finding

namespace SettingsCheck

open Std

instance : LawfulEqCmp Step.compare where
  compare_self {a} := by
    cases a with
    | key name => exact LawfulEqOrd.compare_eq_iff_eq.mpr (rfl : name = name)
    | index i => exact LawfulEqOrd.compare_eq_iff_eq.mpr (rfl : i = i)
  eq_of_compare {a b} h := by
    cases a <;> cases b
    · exact congrArg Step.key (LawfulEqOrd.compare_eq_iff_eq.mp h)
    · cases h
    · cases h
    · exact congrArg Step.index (LawfulEqOrd.compare_eq_iff_eq.mp h)

instance : TransCmp Step.compare where
  eq_swap {a b} := by
    cases a <;> cases b
    · exact OrientedOrd.eq_swap
    · rfl
    · rfl
    · exact OrientedOrd.eq_swap
  isLE_trans {a b c} hab hbc := by
    cases a with
    | key x =>
      cases c with
      | index => rfl
      | key z =>
        cases b with
        | key y => exact TransOrd.isLE_trans (a := x) (b := y) (c := z) hab hbc
        | index => cases hbc
    | index i =>
      cases b with
      | key => cases hab
      | index j =>
        cases c with
        | key => cases hbc
        | index k => exact TransOrd.isLE_trans (a := i) (b := j) (c := k) hab hbc

namespace FieldPath

theorem compareSteps_eq_compareLex (ps qs : List Step) :
    compareSteps ps qs = List.compareLex Step.compare ps qs := by
  induction ps generalizing qs with
  | nil => cases qs <;> rfl
  | cons p ps ih =>
    cases qs with
    | nil => rfl
    | cons q qs => rw [compareSteps, List.compareLex_cons_cons, ih]

theorem compare_eq (p q : FieldPath) :
    compare p q = List.compareLex Step.compare p.steps q.steps :=
  compareSteps_eq_compareLex p.steps q.steps

instance : TransOrd FieldPath where
  eq_swap {p q} := by
    rw [compare_eq, compare_eq]
    exact OrientedCmp.eq_swap
  isLE_trans {p q r} hpq hqr := by
    rw [compare_eq] at hpq hqr ⊢
    exact TransCmp.isLE_trans hpq hqr

instance : LawfulEqOrd FieldPath where
  compare_self {p} := by
    rw [compare_eq]
    exact ReflCmp.compare_self
  eq_of_compare {p q} h := by
    rw [compare_eq] at h
    obtain ⟨ps⟩ := p
    exact congrArg FieldPath.mk (LawfulEqCmp.eq_of_compare h)

end FieldPath

theorem pairwise_mergeSort_isLE {α : Type} (cmp : α → α → Ordering) [TransCmp cmp] (l : List α) :
    (l.mergeSort fun a b => (cmp a b).isLE).Pairwise fun a b => (cmp a b).isLE := by
  apply List.pairwise_mergeSort
  · intro a b c hab hbc
    exact TransCmp.isLE_trans hab hbc
  · intro a b
    have hswap : cmp a b = (cmp b a).swap := OrientedCmp.eq_swap
    rw [hswap]
    cases cmp b a <;> rfl

namespace ValidationError

theorem sortByPath_perm (errors : List ValidationError) : (sortByPath errors).Perm errors :=
  List.mergeSort_perm _ _

theorem sortByPathAndMessage_perm (errors : List ValidationError) :
    (sortByPathAndMessage errors).Perm errors :=
  List.mergeSort_perm _ _

theorem pairwise_sortByPath (errors : List ValidationError) :
    (sortByPath errors).Pairwise fun a b => (compare a.path b.path).isLE :=
  pairwise_mergeSort_isLE (compareOn ValidationError.path) errors

/-- Errors at different places are brought into strict order. -/
theorem pairwise_lt_sortByPath {errors : List ValidationError}
    (hn : (errors.map ValidationError.path).Nodup) :
    (sortByPath errors).Pairwise fun a b => compare a.path b.path = .lt := by
  have hsorted : ((sortByPath errors).map ValidationError.path).Nodup :=
    ((sortByPath_perm errors).map _).nodup_iff.mpr hn
  refine (pairwise_sortByPath errors).imp₂ (fun a b hle hne => ?_) (List.pairwise_map.mp hsorted)
  cases h : compare a.path b.path with
  | lt => rfl
  | eq => exact absurd (LawfulEqOrd.compare_eq_iff_eq.mp h) hne
  | gt => simp [h] at hle

/-- Of errors at different places there is one sorted list. -/
theorem sortByPath_eq_of_perm {errors others : List ValidationError}
    (hn : (errors.map ValidationError.path).Nodup) (hp : errors.Perm others) :
    sortByPath errors = sortByPath others := by
  have hm : (others.map ValidationError.path).Nodup := (hp.map _).nodup_iff.mp hn
  refine List.Perm.eq_of_pairwise ?_ (pairwise_lt_sortByPath hn) (pairwise_lt_sortByPath hm)
    ((sortByPath_perm errors).trans (hp.trans (sortByPath_perm others).symm))
  intro a b _ _ hab hba
  rw [OrientedOrd.eq_swap (a := b.path), hab] at hba
  cases hba

/-- What an error is sorted by. -/
def placeAndMessage (e : ValidationError) : FieldPath × String := (e.path, e.message)

/-- By place, and by message at one place. -/
def comparePlaceAndMessage : FieldPath × String → FieldPath × String → Ordering :=
  compareLex (compareOn Prod.fst) (compareOn Prod.snd)

instance : TransCmp comparePlaceAndMessage :=
  inferInstanceAs (TransCmp (compareLex (compareOn Prod.fst) (compareOn Prod.snd)))

theorem map_sortByPathAndMessage (errors : List ValidationError) :
    (sortByPathAndMessage errors).map placeAndMessage =
      (errors.map placeAndMessage).mergeSort fun a b => (comparePlaceAndMessage a b).isLE :=
  List.map_mergeSort fun _ _ _ _ => rfl

/-- The order in which errors come has no part in the places and messages of the sorted list. -/
theorem map_sortByPathAndMessage_eq_of_perm {errors others : List ValidationError}
    (hp : errors.Perm others) :
    (sortByPathAndMessage errors).map placeAndMessage =
      (sortByPathAndMessage others).map placeAndMessage := by
  rw [map_sortByPathAndMessage, map_sortByPathAndMessage]
  refine List.Perm.eq_of_pairwise ?_ (pairwise_mergeSort_isLE _ _) (pairwise_mergeSort_isLE _ _)
    ((List.mergeSort_perm _ _).trans ((hp.map _).trans (List.mergeSort_perm _ _).symm))
  intro a b _ _ hab hba
  have heq : comparePlaceAndMessage a b = .eq := OrientedCmp.isLE_antisymm hab hba
  obtain ⟨hplace, hmessage⟩ := compareLex_eq_eq.mp heq
  exact Prod.ext (LawfulEqOrd.compare_eq_iff_eq.mp hplace)
    (LawfulEqOrd.compare_eq_iff_eq.mp hmessage)

end ValidationError

end SettingsCheck
