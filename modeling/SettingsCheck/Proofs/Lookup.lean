import Mathlib.Data.List.Basic

namespace SettingsCheck

variable {α β : Type}

theorem lookup_cons_ne {a k : Nat} (h : a ≠ k) (b : β) (entries : List (Nat × β)) :
    ((k, b) :: entries).lookup a = entries.lookup a := by
  rw [List.lookup_cons, beq_false_of_ne h]

theorem lookup_update (entries : List (Nat × β)) (i j : Nat) (f : β → β) :
    (entries.map fun (k, b) => (k, if k = i then f b else b)).lookup j =
      if j = i then (entries.lookup j).map f else entries.lookup j := by
  induction entries with
  | nil => simp
  | cons entry rest ih =>
    obtain ⟨k, b⟩ := entry
    rw [List.map_cons]
    by_cases hk : j = k
    · subst hk
      by_cases hi : j = i <;> simp [List.lookup_cons_self, hi]
    · rw [lookup_cons_ne hk, lookup_cons_ne hk, ih]

theorem lookup_filter_ne (entries : List (Nat × β)) (i j : Nat) :
    (entries.filter (·.1 != i)).lookup j = if j = i then none else entries.lookup j := by
  induction entries with
  | nil => simp
  | cons entry rest ih =>
    obtain ⟨k, b⟩ := entry
    by_cases hk : k = i
    · rw [List.filter_cons_of_neg (by simp [hk]), ih]
      by_cases hj : j = i
      · simp [hj]
      · rw [lookup_cons_ne fun heq => hj (heq.trans hk)]
    · rw [List.filter_cons_of_pos (by simp [hk])]
      by_cases hj : j = k
      · simp [hj, hk]
      · rw [lookup_cons_ne hj, lookup_cons_ne hj, ih]

theorem lookup_filterMap_zipIdx (f : α → Option β) (l : List α) (n k : Nat) :
    ((l.zipIdx n).filterMap fun (a, i) => (f a).map (i, ·)).lookup k =
      if n ≤ k then l[k - n]?.bind f else none := by
  induction l generalizing n with
  | nil => simp
  | cons a l ih =>
    have htail : k ≠ n → (if n + 1 ≤ k then l[k - (n + 1)]?.bind f else none) =
        if n ≤ k then (a :: l)[k - n]?.bind f else none := by
      intro hne
      by_cases hle : n ≤ k
      · have hsub : k - n = k - (n + 1) + 1 := by omega
        rw [if_pos hle, if_pos (by omega), hsub, List.getElem?_cons_succ]
      · rw [if_neg hle, if_neg (by omega)]
    rw [List.zipIdx_cons]
    cases ha : f a with
    | none =>
      simp only [List.filterMap_cons, ha, Option.map_none, ih]
      by_cases hk : k = n
      · rw [if_neg (by omega), if_pos (by omega)]
        simp [hk, ha]
      · exact htail hk
    | some b =>
      simp only [List.filterMap_cons, ha, Option.map_some]
      by_cases hk : k = n
      · simp [hk, ha]
      · rw [lookup_cons_ne hk, ih, htail hk]

end SettingsCheck
