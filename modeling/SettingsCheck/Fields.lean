/-!
Named entries in the order of their names. `insert` replaces an entry of the same name, so a list
built by it holds each name once.
-/

namespace SettingsCheck

/-- Entries by name. Strings compare by code points. -/
abbrev Fields (α : Type) := List (String × α)

namespace Fields

variable {α β : Type}

def names (fields : Fields α) : List String := fields.map Prod.fst

/-- Every name stands once, and names rise. -/
def Ordered (fields : Fields α) : Prop := fields.names.Pairwise (· < ·)

instance (fields : Fields α) : Decidable fields.Ordered :=
  inferInstanceAs (Decidable (List.Pairwise _ _))

def get? (name : String) : Fields α → Option α
  | [] => none
  | (k, v) :: rest => if name = k then some v else get? name rest

def has (name : String) (fields : Fields α) : Bool := (fields.get? name).isSome

def insert (name : String) (value : α) : Fields α → Fields α
  | [] => [(name, value)]
  | (k, v) :: rest =>
    if name < k then (name, value) :: (k, v) :: rest
    else if name = k then (name, value) :: rest
    else (k, v) :: insert name value rest

/-- The entries of a list; of two with one name the later one stays. -/
def ofList (entries : List (String × α)) : Fields α :=
  entries.foldl (fun fields (name, value) => fields.insert name value) []

theorem Ordered.nodup {fields : Fields α} (h : fields.Ordered) : fields.names.Nodup := by
  refine List.Pairwise.imp ?_ h
  intro a b hlt heq
  exact String.lt_irrefl b (heq ▸ hlt)

theorem mem_of_get? {name : String} {value : α} {fields : Fields α}
    (h : fields.get? name = some value) : (name, value) ∈ fields := by
  induction fields with
  | nil => simp [get?] at h
  | cons entry rest ih =>
    obtain ⟨k, v⟩ := entry
    simp only [get?] at h
    split at h
    next hk => simp_all
    next => exact List.mem_cons_of_mem _ (ih h)

theorem get?_of_mem {name : String} {value : α} {fields : Fields α} (ho : fields.Ordered)
    (h : (name, value) ∈ fields) : fields.get? name = some value := by
  induction fields with
  | nil => cases h
  | cons entry rest ih =>
    obtain ⟨k, v⟩ := entry
    have hp := List.pairwise_cons.mp ho
    rcases List.mem_cons.mp h with heq | hm
    · cases heq
      exact if_pos rfl
    · have hlt : k < name := hp.1 name (List.mem_map_of_mem hm)
      have hne : name ≠ k := fun heq => String.lt_irrefl k (heq ▸ hlt)
      rw [get?, if_neg hne]
      exact ih hp.2 hm

theorem Ordered.value_unique {name : String} {a b : α} {fields : Fields α} (ho : fields.Ordered)
    (ha : (name, a) ∈ fields) (hb : (name, b) ∈ fields) : a = b := by
  have hget := get?_of_mem ho ha
  rw [get?_of_mem ho hb] at hget
  exact (Option.some_inj.mp hget).symm

theorem get?_eq_none_iff {name : String} {fields : Fields α} :
    fields.get? name = none ↔ name ∉ fields.names := by
  induction fields with
  | nil => simp [get?, names]
  | cons entry rest ih =>
    obtain ⟨k, v⟩ := entry
    simp only [get?, names, List.map_cons, List.mem_cons] at ih ⊢
    split
    next hk => simp [hk]
    next hk => simp [hk, ih]

theorem get?_map (f : String → α → β) (name : String) (fields : Fields α) :
    get? name (fields.map fun entry => (entry.1, f entry.1 entry.2)) =
      (fields.get? name).map (f name) := by
  induction fields with
  | nil => rfl
  | cons entry rest ih =>
    obtain ⟨k, v⟩ := entry
    simp only [List.map_cons, get?]
    split
    next hk => rw [hk]; rfl
    next => exact ih

theorem get?_insert (name other : String) (value : α) (fields : Fields α) :
    (fields.insert name value).get? other =
      if other = name then some value else fields.get? other := by
  induction fields with
  | nil => simp [insert, get?]
  | cons entry rest ih =>
    obtain ⟨k, v⟩ := entry
    simp only [insert]
    split
    · simp [get?]
    · split
      · rename_i h; subst h; simp only [get?]; split <;> rfl
      · rename_i h
        simp only [get?, ih]
        by_cases hk : other = k
        · subst hk; simp [Ne.symm h]
        · simp [hk]

theorem mem_names_insert {name other : String} {value : α} {fields : Fields α} :
    other ∈ (fields.insert name value).names ↔ other = name ∨ other ∈ fields.names := by
  induction fields with
  | nil => simp [insert, names]
  | cons entry rest ih =>
    obtain ⟨k, v⟩ := entry
    simp only [insert]
    split
    · simp [names]
    · split
      · rename_i h; subst h; simp [names]
      · simp only [names, List.map_cons, List.mem_cons] at ih ⊢
        rw [ih]; grind

theorem Ordered.insert {name : String} {value : α} {fields : Fields α} (h : fields.Ordered) :
    (fields.insert name value).Ordered := by
  induction fields with
  | nil => simp [Fields.insert, Ordered, names]
  | cons entry rest ih =>
    obtain ⟨k, v⟩ := entry
    have hk : ∀ n ∈ names rest, k < n := by simpa [Ordered, names] using (List.pairwise_cons.mp h).1
    have hr : Ordered rest := (List.pairwise_cons.mp h).2
    simp only [Fields.insert]
    split
    · rename_i hlt
      refine List.pairwise_cons.mpr ⟨fun n hn => ?_, h⟩
      rcases List.mem_cons.mp hn with rfl | hn
      · exact hlt
      · exact String.lt_trans hlt (hk n hn)
    · split
      · rename_i heq; subst heq; exact List.pairwise_cons.mpr ⟨hk, hr⟩
      · rename_i hnlt hne
        refine List.pairwise_cons.mpr ⟨fun n hn => ?_, ih hr⟩
        rcases mem_names_insert.mp hn with rfl | hn
        · exact Std.lt_of_le_of_ne (Std.not_lt.mp hnlt) (Ne.symm hne)
        · exact hk n hn

theorem ordered_ofList (entries : List (String × α)) : (ofList entries).Ordered := by
  have step : ∀ (l : List (String × α)) (start : Fields α), start.Ordered →
      Ordered (l.foldl (fun fields (name, value) => fields.insert name value) start) := by
    intro l
    induction l with
    | nil => intro start h; exact h
    | cons e l ih => intro start h; exact ih _ h.insert
  exact step entries [] List.Pairwise.nil

theorem insert_of_lt {name : String} {value : α} {fields : Fields α}
    (h : ∀ other ∈ fields.names, other < name) :
    fields.insert name value = fields ++ [(name, value)] := by
  induction fields with
  | nil => rfl
  | cons entry rest ih =>
    obtain ⟨k, v⟩ := entry
    have hk : k < name := h k List.mem_cons_self
    have hrest := ih fun other ho => h other (List.mem_cons_of_mem _ ho)
    have hnot : ¬name < k := fun hlt => String.lt_irrefl k (String.lt_trans hk hlt)
    have hne : name ≠ k := fun heq => String.lt_irrefl k (heq ▸ hk)
    rw [insert, if_neg hnot, if_neg hne, hrest, List.cons_append]

/-- Fields that are in order already stay as they are. -/
theorem ofList_of_ordered {fields : Fields α} (h : fields.Ordered) : ofList fields = fields := by
  have step : ∀ (l : List (String × α)) (start : Fields α), Ordered (start ++ l) →
      l.foldl (fun fields (name, value) => fields.insert name value) start = start ++ l := by
    intro l
    induction l with
    | nil => exact fun start _ => (List.append_nil start).symm
    | cons entry l ih =>
      intro start ho
      obtain ⟨name, value⟩ := entry
      have hlast : ∀ other ∈ start.names, other < name := by
        intro other hother
        rw [Ordered, names, List.map_append] at ho
        exact (List.pairwise_append.mp ho).2.2 other hother name List.mem_cons_self
      have hassoc : start ++ (name, value) :: l = start ++ [(name, value)] ++ l := by simp
      rw [List.foldl_cons]
      simp only [insert_of_lt hlast]
      rw [hassoc]
      exact ih _ (hassoc ▸ ho)
  exact step fields [] h

theorem mem_insert {name : String} {value : α} {fields : Fields α} {entry : String × α}
    (h : entry ∈ fields.insert name value) : entry = (name, value) ∨ entry ∈ fields := by
  induction fields with
  | nil => simpa [insert] using h
  | cons head rest ih =>
    obtain ⟨k, v⟩ := head
    simp only [insert] at h
    split at h
    · simpa using h
    · split at h
      · rcases List.mem_cons.mp h with h | h
        · exact .inl h
        · exact .inr (List.mem_cons_of_mem _ h)
      · rcases List.mem_cons.mp h with h | h
        · exact .inr (h ▸ List.mem_cons_self)
        · exact (ih h).imp id (List.mem_cons_of_mem _)

theorem mem_of_mem_ofList {entries : List (String × α)} {entry : String × α}
    (h : entry ∈ ofList entries) : entry ∈ entries := by
  have step : ∀ (l : List (String × α)) (start : Fields α),
      entry ∈ l.foldl (fun fields (name, value) => fields.insert name value) start →
      entry ∈ start ∨ entry ∈ l := by
    intro l
    induction l with
    | nil => intro start h; exact .inl h
    | cons e l ih =>
      intro start h
      rcases ih _ h with h | h
      · rcases mem_insert h with h | h
        · exact .inr (h ▸ List.mem_cons_self)
        · exact .inl h
      · exact .inr (List.mem_cons_of_mem _ h)
  exact (step entries [] h).resolve_left List.not_mem_nil

end Fields

end SettingsCheck
