import Mathlib.Data.List.Dedup
import Mathlib.Data.List.Nodup
import SettingsCheck.Fields

namespace SettingsCheck

variable {α β κ κ' : Type}

/-- The value of the last entry under a key. -/
inductive Last (key : κ) (value : α) : List (κ × α) → Prop
  | here {rest : List (κ × α)} : key ∉ rest.map Prod.fst → Last key value ((key, value) :: rest)
  | there {entry : κ × α} {rest : List (κ × α)} : Last key value rest →
    Last key value (entry :: rest)

theorem last_cons_iff {key k : κ} {value v : α} {rest : List (κ × α)} :
    Last key value ((k, v) :: rest) ↔
      Last key value rest ∨ (key = k ∧ value = v ∧ key ∉ rest.map Prod.fst) := by
  constructor
  · intro h
    cases h with
    | here hnot => exact .inr ⟨rfl, rfl, hnot⟩
    | there hrest => exact .inl hrest
  · rintro (hrest | ⟨rfl, rfl, hnot⟩)
    · exact .there hrest
    · exact .here hnot

/-- Where the keys differ, every entry is the last one under its key. -/
theorem last_iff_mem {entries : List (κ × α)} (h : (entries.map Prod.fst).Nodup) {key : κ}
    {value : α} : Last key value entries ↔ (key, value) ∈ entries := by
  induction entries with
  | nil => exact iff_of_false nofun nofun
  | cons entry rest ih =>
    obtain ⟨k, v⟩ := entry
    obtain ⟨hk, hrest⟩ := List.nodup_cons.mp h
    rw [last_cons_iff, ih hrest, List.mem_cons, Prod.mk.injEq]
    constructor
    · rintro (hmem | ⟨rfl, rfl, _⟩)
      · exact .inr hmem
      · exact .inl ⟨rfl, rfl⟩
    · rintro (⟨rfl, rfl⟩ | hmem)
      · exact .inr ⟨rfl, rfl, hk⟩
      · exact .inl hmem

namespace Fields

/-- Entries put in one after the other: one under the name asked for hides what was there. -/
theorem get?_foldl_insert (name : String) (entries : List (String × α)) (start : Fields α) :
    get? name (entries.foldl (fun fields (name, value) => fields.insert name value) start) =
      ((ofList entries).get? name).or (start.get? name) := by
  induction entries generalizing start with
  | nil => rfl
  | cons entry rest ih =>
    obtain ⟨k, v⟩ := entry
    rw [ofList, List.foldl_cons, List.foldl_cons, ih, ih (insert k v []), get?_insert,
      get?_insert, Option.or_assoc]
    congr 1
    split <;> simp [get?]

theorem get?_ofList_cons (name k : String) (v : α) (rest : List (String × α)) :
    (ofList ((k, v) :: rest)).get? name =
      ((ofList rest).get? name).or (if name = k then some v else none) := by
  rw [ofList, List.foldl_cons, get?_foldl_insert, get?_insert]
  rfl

theorem mem_names_ofList {name : String} {entries : List (String × α)} :
    name ∈ (ofList entries).names ↔ name ∈ entries.map Prod.fst := by
  rw [← not_iff_not, ← get?_eq_none_iff]
  induction entries with
  | nil => simp [ofList, get?]
  | cons entry rest ih =>
    obtain ⟨k, v⟩ := entry
    rw [get?_ofList_cons, Option.or_eq_none_iff, ih]
    simp only [ite_eq_right_iff, reduceCtorEq, imp_false, List.map_cons, List.mem_cons]
    tauto

/-- Fields made from a list have under each name the value of its last entry there. -/
theorem get?_ofList_iff {name : String} {value : α} {entries : List (String × α)} :
    (ofList entries).get? name = some value ↔ Last name value entries := by
  induction entries with
  | nil => exact iff_of_false nofun nofun
  | cons entry rest ih =>
    obtain ⟨k, v⟩ := entry
    rw [get?_ofList_cons, Option.or_eq_some_iff, get?_eq_none_iff, mem_names_ofList, ih,
      last_cons_iff]
    simp only [Option.ite_none_right_eq_some, Option.some.injEq]
    tauto

theorem mem_ofList_iff {name : String} {value : α} {entries : List (String × α)}
    (h : (entries.map Prod.fst).Nodup) :
    (name, value) ∈ ofList entries ↔ (name, value) ∈ entries := by
  rw [← last_iff_mem h, ← get?_ofList_iff]
  exact ⟨get?_of_mem (ordered_ofList entries), mem_of_get?⟩

/-- No entry is lost just if the names differ. -/
theorem length_ofList_eq_iff {entries : List (String × α)} :
    (ofList entries).length = entries.length ↔ (entries.map Prod.fst).Nodup := by
  have hperm : (ofList entries).names.Perm (entries.map Prod.fst).dedup := by
    rw [List.perm_ext_iff_of_nodup (ordered_ofList entries).nodup (List.nodup_dedup _)]
    exact fun name => mem_names_ofList.trans List.mem_dedup.symm
  have hlength : (ofList entries).length = (entries.map Prod.fst).dedup.length := by
    rw [← hperm.length_eq, names, List.length_map]
  have hall : entries.length = (entries.map Prod.fst).length := (List.length_map _).symm
  rw [hlength, hall, ← List.dedup_eq_self]
  exact ⟨(List.dedup_sublist _).eq_of_length, fun h => by rw [h]⟩

end Fields

section Matching

theorem getElem?_of_forall₂ {R : α → β → Prop} {xs : List α} {ys : List β}
    (h : List.Forall₂ R xs ys) {i : Nat} {x : α} (hx : xs[i]? = some x) :
    ∃ y, ys[i]? = some y ∧ R x y := by
  induction h generalizing i with
  | nil => simp at hx
  | cons hxy _ ih =>
    cases i with
    | zero =>
      cases hx
      exact ⟨_, rfl, hxy⟩
    | succ i => exact ih hx

variable {K : κ → κ' → Prop} {V : α → β → Prop} {es : List (κ × α)} {fs : List (κ' × β)}

/-- Entries one by one, with the keys and the values of a pair related. -/
def Matching (K : κ → κ' → Prop) (V : α → β → Prop) : List (κ × α) → List (κ' × β) → Prop :=
  List.Forall₂ fun e f => K e.1 f.1 ∧ V e.2 f.2

theorem Matching.keys (h : Matching K V es fs) :
    List.Forall₂ K (es.map Prod.fst) (fs.map Prod.fst) := by
  rw [List.forall₂_map_left_iff, List.forall₂_map_right_iff]
  exact List.Forall₂.imp (fun _ _ hkv => hkv.1) h

theorem Matching.flip (h : Matching K V es fs) : Matching (flip K) (flip V) fs es :=
  List.Forall₂.flip h

/-- What a list has last under a key, a matching one has last under the matching key. -/
theorem Matching.last (hK : Relator.BiUnique K) (h : Matching K V es fs) {k : κ} {k' : κ'}
    (hk : K k k') {x : α} (hx : Last k x es) : ∃ y, V x y ∧ Last k' y fs := by
  induction h with
  | nil => cases hx
  | @cons e f _ _ hef hrest ih =>
    rcases last_cons_iff.mp hx with hx | ⟨hkey, rfl, hnot⟩
    · obtain ⟨y, hxy, hy⟩ := ih hx
      exact ⟨y, hxy, .there hy⟩
    · -- no later key is this one, so none of those they match is its match
      have hkey' : f.1 = k' := hK.2 (hkey ▸ hef.1) hk
      have hnot' := (List.rel_mem hK hk (Matching.keys hrest)).not.mp hnot
      exact ⟨f.2, hef.2, hkey' ▸ .here (hkey' ▸ hnot')⟩

/-- The same from the other list. -/
theorem Matching.last_of_right (hK : Relator.BiUnique K) (h : Matching K V es fs) {k : κ}
    {k' : κ'} (hk : K k k') {y : β} (hy : Last k' y fs) : ∃ x, V x y ∧ Last k x es := by
  have hflip : Relator.BiUnique (fun k' k => K k k') :=
    ⟨fun _ _ _ ha hb => hK.2 ha hb, fun _ _ _ hb hc => hK.1 hb hc⟩
  exact h.flip.last hflip hk hy

theorem biUnique_eq : Relator.BiUnique (Eq : κ → κ → Prop) :=
  ⟨fun _ _ _ ha hb => ha.trans hb.symm, fun _ _ _ hb hc => hb.symm.trans hc⟩

theorem Fields.get?_of_matching {es : Fields α} {fs : Fields β} (h : Matching Eq V es fs)
    {name : String} {x : α} (hx : es.get? name = some x) :
    ∃ y, V x y ∧ fs.get? name = some y := by
  induction h with
  | nil => cases hx
  | @cons e f _ _ hef _ ih =>
    obtain ⟨k, v⟩ := e
    obtain ⟨_, w⟩ := f
    obtain ⟨rfl, hvw⟩ : k = _ ∧ V v w := hef
    simp only [Fields.get?] at hx ⊢
    split at hx
    next hname =>
      cases hx
      exact ⟨w, hvw, if_pos hname⟩
    next hname =>
      rw [if_neg hname]
      exact ih hx

end Matching

end SettingsCheck
