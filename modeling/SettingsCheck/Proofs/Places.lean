import SettingsCheck.Proofs.Reach
import Mathlib.Data.List.Nodup
import Mathlib.Data.List.Flatten

namespace SettingsCheck

namespace FieldPath

/-- At that path or under it. -/
def Below (path place : FieldPath) : Prop := path.steps <+: place.steps

variable {path place : FieldPath}

theorem Below.refl (path : FieldPath) : path.Below path := List.prefix_refl _

theorem Below.of_key {name : String} (h : (path.key name).Below place) : path.Below place :=
  (List.prefix_append _ _).trans h

theorem Below.of_index {i : Nat} (h : (path.index i).Below place) : path.Below place :=
  (List.prefix_append _ _).trans h

theorem step_unique {steps rest : List Step} {a b : Step} (ha : steps ++ [a] <+: rest)
    (hb : steps ++ [b] <+: rest) : a = b := by
  have hlen : (steps ++ [a]).length = (steps ++ [b]).length := by simp
  have heq := (List.prefix_of_prefix_length_le ha hb (Nat.le_of_eq hlen)).eq_of_length hlen
  simpa using heq

theorem Below.key_unique {a b : String} (ha : (path.key a).Below place)
    (hb : (path.key b).Below place) : a = b := by
  have heq := step_unique ha hb
  simpa using heq

theorem Below.index_unique {i j : Nat} (hi : (path.index i).Below place)
    (hj : (path.index j).Below place) : i = j := by
  have heq := step_unique hi hj
  simpa using heq

theorem key_injective : Function.Injective path.key := by
  intro a b h
  have hb : (path.key b).Below (path.key a) := h ▸ Below.refl _
  exact (Below.refl _).key_unique hb

theorem key_inj {above : FieldPath} {a b : String} :
    above.key a = path.key b ↔ above = path ∧ a = b := by
  cases above
  cases path
  simp [key, and_comm]

theorem below_key_iff {name : String} :
    place.Below (path.key name) ↔ place = path.key name ∨ place.Below path := by
  cases place
  simp [Below, key, List.prefix_concat_iff]

theorem below_index_iff {i : Nat} :
    place.Below (path.index i) ↔ place = path.index i ∨ place.Below path := by
  cases place
  simp [Below, index, List.prefix_concat_iff]

theorem key_ne_index {above : FieldPath} {name : String} {i : Nat} :
    above.key name ≠ path.index i := by
  simp [key, index]

end FieldPath

/-- Where an error or a queued check stands; warnings do not count. -/
def Event.place? : Event → Option FieldPath
  | .error e => some e.path
  | .warning _ => none
  | .queued c => some c.site.path

namespace Walk

def places (trace : List Happening) : List FieldPath :=
  trace.filterMap fun
    | .event e => e.place?
    | .crash => none

@[simp]
theorem places_nil : places [] = [] := rfl

@[simp]
theorem places_append (first rest : List Happening) :
    places (first ++ rest) = places first ++ places rest := List.filterMap_append

theorem places_flatMap {α : Type} (f : α → List Happening) (l : List α) :
    places (l.flatMap f) = l.flatMap fun x => places (f x) := List.filterMap_flatMap

/-- The places stand once each, and all of them below the path. -/
structure Apart (path : FieldPath) (places : List FieldPath) : Prop where
  nodup : places.Nodup
  below : ∀ place ∈ places, path.Below place

variable {registry : Registry} {root : Value}

theorem Apart.of_sublist {path : FieldPath} {places : List FieldPath}
    (h : places.Sublist [path]) : Apart path places :=
  ⟨(List.nodup_singleton path).sublist h, fun place hp => by
    have heq : place = path := by simpa using h.subset hp
    exact heq ▸ FieldPath.Below.refl path⟩

theorem places_validatorTrace (name : String) (validator : Validator) (site : Site)
    (value : Value) :
    places (validatorTrace name validator site value) =
      match (validator site value).verdict with
      | .refused _ => [site.path]
      | _ => [] := by
  have hw : places ((validator site value).warnings.map fun message =>
      .event (.warning ⟨site.path, message⟩)) = [] := by
    simp [places, List.filterMap_map, Event.place?]
  simp only [validatorTrace, places_append, hw, List.nil_append]
  cases (validator site value).verdict <;> rfl

theorem places_customTrace (name : String) (site : Site) (value : Value) :
    (places (customTrace registry name site value)).Sublist [site.path] := by
  unfold customTrace
  split
  next => exact List.Sublist.refl _
  next validator _ =>
    rw [places_validatorTrace]
    split <;> simp
  next dialogue _ => exact List.Sublist.refl _
  next validator dialogue _ =>
    rw [places_append, places_validatorTrace]
    cases (validator site value).verdict <;> simp [places, Event.place?]

theorem places_nodeTrace (fieldType : FieldType) (site : Site) (value : Value) :
    (places (nodeTrace registry fieldType site value)).Sublist [site.path] := by
  have hm : (places [.event (.error (.typeMismatch site.path (fieldType.mismatch value)))]).Sublist
      [site.path] := List.Sublist.refl _
  unfold nodeTrace
  split
  · exact hm
  · split
    · split
      · simp
      · exact hm
    · split
      · simp
      · exact hm
    · exact places_customTrace _ _ _
    · split
      · simp
      · exact hm

theorem places_absenceTrace (rule : Rule) (mapping : Mapping) (path : FieldPath) :
    (places (absenceTrace rule mapping path)).Sublist [path] := by
  unfold absenceTrace
  split
  · exact List.Sublist.refl _
  · simp

theorem places_unknownTrace (rules : List String) (path : FieldPath) (names : List String) :
    places (unknownTrace rules path names) =
      (names.filter (!rules.contains ·)).map path.key := by
  simp only [places, unknownTrace, List.filterMap_map]
  exact congrFun List.filterMap_eq_map' _

/-- The fields of a mapping keep apart if what lies below each of them does. -/
theorem apart_mappingTrace {rules : Rules} (hr : rules.Ordered) {mapping : Mapping}
    (hm : (Value.mapping mapping).Ordered) (path : FieldPath)
    (hfield : ∀ entry ∈ rules, ∀ value parent path, Value.Ordered value →
      Apart path (places (valueTrace registry root entry.2 value parent path))) :
    Apart path (places (mappingTrace registry root rules mapping path)) := by
  have hone : ∀ entry ∈ rules, Apart (path.key entry.1)
      (places (fieldTrace registry root entry.2 mapping (path.key entry.1)
        (mapping.get? entry.1))) := by
    intro entry he
    cases hv : mapping.get? entry.1 with
    | none => exact .of_sublist (places_absenceTrace _ _ _)
    | some value =>
      simp only [fieldTrace]
      split
      · exact hfield entry he value mapping _ (Value.ordered_of_get? hm hv)
      · exact .of_sublist (by simp)
  have hunknown : ∀ place ∈ (mapping.names.filter (!rules.names.contains ·)).map path.key,
      ∃ name, name ∉ rules.names ∧ place = path.key name := by
    intro place hp
    obtain ⟨name, hn, rfl⟩ := List.mem_map.mp hp
    exact ⟨name, by simpa using (List.mem_filter.mp hn).2, rfl⟩
  rw [mappingTrace, places_append, places_unknownTrace, fieldsTrace_eq_flatMap, places_flatMap]
  refine ⟨List.nodup_append.mpr ⟨?_, ?_, ?_⟩, ?_⟩
  · have hn : mapping.names.Nodup := Fields.Ordered.nodup hm.1
    exact (hn.filter _).map FieldPath.key_injective
  · refine List.nodup_flatMap.mpr ⟨fun entry he => (hone entry he).nodup, ?_⟩
    have hn : rules.names.Nodup := hr.nodup
    refine (List.pairwise_map.mp hn).imp_of_mem ?_
    intro a b ha hb hab place hpa hpb
    -- a place below two fields would make them one
    exact hab (FieldPath.Below.key_unique ((hone a ha).below place hpa)
      ((hone b hb).below place hpb))
  · intro place hp other ho heq
    obtain ⟨name, hn, rfl⟩ := hunknown place hp
    obtain ⟨entry, he, ho⟩ := List.mem_flatMap.mp ho
    have hbelow := (hone entry he).below other ho
    rw [← heq] at hbelow
    have hname := FieldPath.Below.key_unique (FieldPath.Below.refl _) hbelow
    exact hn (hname ▸ List.mem_map_of_mem he)
  · intro place hp
    rcases List.mem_append.mp hp with hp | hp
    · obtain ⟨name, _, rfl⟩ := hunknown place hp
      exact (FieldPath.Below.refl _).of_key
    · obtain ⟨entry, he, hp⟩ := List.mem_flatMap.mp hp
      exact ((hone entry he).below place hp).of_key

theorem apart_elementTraces {rule : Rule} {elements : List Value}
    (he : Value.ItemsOrdered elements) (parent : Mapping) (path : FieldPath)
    (hone : ∀ value path, Value.Ordered value →
      Apart path (places (valueTrace registry root rule value parent path))) :
    Apart path (places (itemsTrace registry root (some rule) elements parent path)) := by
  have hvalue : ∀ entry ∈ elements.zipIdx, Apart (path.index entry.2)
      (places (valueTrace registry root rule entry.1 parent (path.index entry.2))) :=
    fun entry hm => hone _ _ (Value.itemsOrdered_iff.mp he _ (List.fst_mem_of_mem_zipIdx hm))
  rw [itemsTrace, elementTraces_eq_flatMap, places_flatMap]
  refine ⟨List.nodup_flatMap.mpr ⟨fun entry hm => (hvalue entry hm).nodup, ?_⟩, ?_⟩
  · have hn : (elements.zipIdx.map Prod.snd).Nodup := by
      rw [List.zipIdx_map_snd]
      exact List.nodup_range'
    refine (List.pairwise_map.mp hn).imp_of_mem ?_
    intro a b ha hb hab place hpa hpb
    exact hab (FieldPath.Below.index_unique ((hvalue a ha).below place hpa)
      ((hvalue b hb).below place hpb))
  · intro place hp
    obtain ⟨entry, hm, hp⟩ := List.mem_flatMap.mp hp
    exact ((hvalue entry hm).below place hp).of_index

mutual
theorem apart_valueTrace : ∀ (rule : Rule), rule.Ordered → ∀ (value : Value) (parent : Mapping)
    (path : FieldPath), value.Ordered →
    Apart path (places (valueTrace registry root rule value parent path))
  | ⟨fieldType, _, properties, items, _, _, _⟩, hr, value, parent, path, hv => by
    have hnode : Apart path
        (places (nodeTrace registry fieldType ⟨root, parent, path⟩ value)) :=
      .of_sublist (places_nodeTrace _ _ _)
    unfold valueTrace
    split
    next mapping => exact apart_mappingTrace hr.1 hv path (apart_fields properties hr.2.1)
    next elements => exact apart_items items hr.2.2 elements parent path hv
    next => simpa using hnode

theorem apart_fields : ∀ (rules : List (String × Rule)), Rule.FieldsOrdered rules →
    ∀ entry ∈ rules, ∀ (value : Value) (parent : Mapping) (path : FieldPath), value.Ordered →
    Apart path (places (valueTrace registry root entry.2 value parent path))
  | [], _, _, he => by simp at he
  | (name, rule) :: rest, hr, entry, he => by
    rcases List.mem_cons.mp he with rfl | he
    · exact apart_valueTrace rule hr.1
    · exact apart_fields rest hr.2 entry he

theorem apart_items : ∀ (items : Option Rule), Rule.ItemsOrdered items →
    ∀ (elements : List Value) (parent : Mapping) (path : FieldPath), Value.ItemsOrdered elements →
    Apart path (places (itemsTrace registry root items elements parent path))
  | none, _, _, _, _, _ => by
    rw [itemsTrace]
    exact .of_sublist (by simp)
  | some rule, hr, elements, parent, path, he =>
    apart_elementTraces he parent path
      (fun value path hv => apart_valueTrace rule hr value parent path hv)
end

theorem places_of_events (events : List Event) :
    places (events.map .event) = events.filterMap Event.place? := by
  simp only [places, List.filterMap_map]
  rfl

end Walk

theorem Event.filterMap_place?_perm (events : List Event) :
    events.filterMap Event.place? |>.Perm
      ((events.filterMap Event.error?).map ValidationError.path ++
        (events.filterMap Event.queued?).map fun c => c.site.path) := by
  induction events with
  | nil => exact .nil
  | cons e events ih =>
    cases e with
    | error e => exact ih.cons _
    | warning w => exact ih
    | queued c => exact (ih.cons _).trans List.perm_middle.symm

namespace DocumentValidator

open Walk

variable (v : DocumentValidator) {document : Mapping}

/-- No two of the errors and queued checks of a walk have the same place, whatever the limit. -/
theorem nodup_paths (hd : (Value.mapping document).Ordered) (limit : Nat) :
    (((v.events document limit).filterMap Event.error?).map ValidationError.path ++
      ((v.events document limit).filterMap Event.queued?).map fun c => c.site.path).Nodup := by
  have htrace : (places (v.trace document)).Nodup :=
    (apart_mappingTrace v.schema.ordered.1 hd .root
      (apart_fields v.schema.fields v.schema.ordered.2)).nodup
  have hsub : ((v.events document limit).map Happening.event).Sublist (v.trace document) :=
    ((cut_isPrefix limit 0 _).sublist.map _).trans (heard_isPrefix _).sublist
  have hplaces := htrace.sublist (hsub.filterMap _)
  rw [show List.filterMap _ _ = (v.events document limit).filterMap Event.place? from
    places_of_events _] at hplaces
  exact (Event.filterMap_place?_perm _).nodup_iff.mp hplaces

end DocumentValidator

end SettingsCheck
