import SettingsCheck.Proofs.Cut

namespace SettingsCheck

/-- All of these siblings are there and true as booleans. -/
def AllTruthy (siblings : List String) (mapping : Mapping) : Prop :=
  ∀ name ∈ siblings, ∃ value, mapping.get? name = some value ∧ value.ansibleBool? = some true

theorem gateOpen_iff {siblings : List String} {mapping : Mapping} :
    gateOpen siblings mapping = true ↔ AllTruthy siblings mapping := by
  simp [gateOpen, AllTruthy, Value.isTruthy, Option.any_eq_true]

theorem Rule.validatedIn_iff {rule : Rule} {mapping : Mapping} :
    rule.validatedIn mapping = true ↔ AllTruthy rule.validateWhenTrue mapping :=
  gateOpen_iff

/-- The field has to be there: it is required, or has a gate for that and the gate is open. -/
def Rule.Due (rule : Rule) (mapping : Mapping) : Prop :=
  rule.required = true ∨
    rule.requiredWhenTrue ≠ [] ∧ AllTruthy rule.requiredWhenTrue mapping

theorem Rule.requiredIn_iff {rule : Rule} {mapping : Mapping} :
    rule.requiredIn mapping = true ↔ rule.Due mapping := by
  simp [Rule.requiredIn, Rule.Due, gateOpen_iff]

mutual
/-- A mapping of the document whose fields are checked by rules: the root, and what a checked
object holds. -/
inductive CheckedMapping (schema : Rules) (document : Mapping) :
    Rules → Mapping → FieldPath → Prop
  | root : CheckedMapping schema document schema document .root
  | object {rule : Rule} {mapping parent : Mapping} {path : FieldPath} :
    CheckedNode schema document rule (.mapping mapping) parent path →
    rule.fieldType = .object →
    CheckedMapping schema document rule.properties mapping path

/-- A value of the document that is checked by a rule: a field whose gate is open, or an element of
a checked array. The mapping beside it is the one that holds the field. -/
inductive CheckedNode (schema : Rules) (document : Mapping) :
    Rule → Value → Mapping → FieldPath → Prop
  | field {rules : Rules} {mapping : Mapping} {path : FieldPath} {name : String} {rule : Rule}
      {value : Value} :
    CheckedMapping schema document rules mapping path →
    (name, rule) ∈ rules →
    mapping.get? name = some value →
    AllTruthy rule.validateWhenTrue mapping →
    CheckedNode schema document rule value mapping (path.key name)
  | element {rule items : Rule} {elements : List Value} {parent : Mapping} {path : FieldPath}
      {i : Nat} {value : Value} :
    CheckedNode schema document rule (.sequence elements) parent path →
    rule.fieldType = .array →
    rule.items = some items →
    elements[i]? = some value →
    CheckedNode schema document items value parent (path.index i)
end

namespace Walk

variable {registry : Registry} {root : Value} {h : Happening}

theorem elementTraces_eq_flatMap (visit : Value → FieldPath → List Happening) (path : FieldPath)
    (elements : List Value) (i : Nat) :
    elementTraces visit path i elements =
      (elements.zipIdx i).flatMap fun entry => visit entry.1 (path.index entry.2) := by
  induction elements generalizing i with
  | nil => rfl
  | cons v rest ih => simp [elementTraces, ih]

theorem mem_elementTraces {visit : Value → FieldPath → List Happening} {path : FieldPath}
    {elements : List Value} :
    h ∈ elementTraces visit path 0 elements ↔
      ∃ i v, elements[i]? = some v ∧ h ∈ visit v (path.index i) := by
  rw [elementTraces_eq_flatMap, List.mem_flatMap]
  constructor
  · rintro ⟨⟨v, i⟩, hm, hv⟩
    exact ⟨i, v, List.mem_zipIdx_iff_getElem?.mp hm, hv⟩
  · rintro ⟨i, v, hm, hv⟩
    exact ⟨(v, i), List.mem_zipIdx_iff_getElem?.mpr hm, hv⟩

/-- What happens at one field of a mapping and below it. -/
def fieldTrace (registry : Registry) (root : Value) (rule : Rule) (mapping : Mapping)
    (path : FieldPath) : Option Value → List Happening
  | none => absenceTrace rule mapping path
  | some value =>
    if rule.validatedIn mapping then valueTrace registry root rule value mapping path else []

theorem fieldsTrace_eq_flatMap (rules : List (String × Rule)) (mapping : Mapping)
    (path : FieldPath) :
    fieldsTrace registry root rules mapping path =
      rules.flatMap fun entry =>
        fieldTrace registry root entry.2 mapping (path.key entry.1) (mapping.get? entry.1) := by
  induction rules with
  | nil => simp [fieldsTrace]
  | cons entry rest ih =>
    obtain ⟨name, rule⟩ := entry
    rw [fieldsTrace, ih, List.flatMap_cons]
    cases mapping.get? name <;> rfl

theorem nodeTrace_subset (rule : Rule) (value : Value) (parent : Mapping) (path : FieldPath) :
    nodeTrace registry rule.fieldType ⟨root, parent, path⟩ value ⊆
      valueTrace registry root rule value parent path := by
  obtain ⟨_, _, _, _, _, _, _⟩ := rule
  unfold valueTrace
  exact List.subset_append_left _ _

theorem valueTrace_object {rule : Rule} (ht : rule.fieldType = .object)
    (mapping parent : Mapping) (path : FieldPath) :
    valueTrace registry root rule (.mapping mapping) parent path =
      mappingTrace registry root rule.properties mapping path := by
  obtain ⟨_, _, _, _, _, _, _⟩ := rule
  cases ht
  rfl

theorem valueTrace_array {rule items : Rule} (ht : rule.fieldType = .array)
    (hi : rule.items = some items) (elements : List Value) (parent : Mapping) (path : FieldPath) :
    valueTrace registry root rule (.sequence elements) parent path =
      elementTraces (fun v path => valueTrace registry root items v parent path) path 0
        elements := by
  obtain ⟨_, _, _, _, _, _, _⟩ := rule
  cases ht
  cases hi
  rfl

theorem elementTrace_subset {rule items : Rule} (ht : rule.fieldType = .array)
    (hi : rule.items = some items) {elements : List Value} {i : Nat} {value : Value}
    (hv : elements[i]? = some value) (parent : Mapping) (path : FieldPath) :
    valueTrace registry root items value parent (path.index i) ⊆
      valueTrace registry root rule (.sequence elements) parent path := by
  intro h hm
  rw [valueTrace_array ht hi]
  exact mem_elementTraces.mpr ⟨i, value, hv, hm⟩

theorem fieldTrace_subset {rules : Rules} {name : String} {rule : Rule}
    (hr : (name, rule) ∈ rules) {mapping : Mapping} {path : FieldPath} {value? : Option Value}
    (hv : mapping.get? name = value?) :
    fieldTrace registry root rule mapping (path.key name) value? ⊆
      mappingTrace registry root rules mapping path := by
  intro h hm
  rw [mappingTrace, fieldsTrace_eq_flatMap]
  exact List.mem_append_right _ (List.mem_flatMap.mpr ⟨(name, rule), hr, hv ▸ hm⟩)

theorem fieldTrace_some {rule : Rule} {mapping : Mapping}
    (hg : AllTruthy rule.validateWhenTrue mapping) (path : FieldPath) (value : Value) :
    fieldTrace registry root rule mapping path (some value) =
      valueTrace registry root rule value mapping path :=
  if_pos (Rule.validatedIn_iff.mpr hg)

end Walk

open Walk

/-- What a walk without limit has to do: at each checked mapping the fields that are unknown or
missing, at each checked node what its value calls for. -/
inductive Occurs (registry : Registry) (schema : Rules) (document : Mapping) : Happening → Prop
  | unknown {rules : Rules} {mapping : Mapping} {path : FieldPath} {h : Happening} :
    CheckedMapping schema document rules mapping path →
    h ∈ unknownTrace rules.names path mapping.names →
    Occurs registry schema document h
  | absent {rules : Rules} {mapping : Mapping} {path : FieldPath} {name : String} {rule : Rule}
      {h : Happening} :
    CheckedMapping schema document rules mapping path →
    (name, rule) ∈ rules →
    mapping.get? name = none →
    h ∈ absenceTrace rule mapping (path.key name) →
    Occurs registry schema document h
  | node {rule : Rule} {value : Value} {parent : Mapping} {path : FieldPath} {h : Happening} :
    CheckedNode schema document rule value parent path →
    h ∈ nodeTrace registry rule.fieldType ⟨.mapping document, parent, path⟩ value →
    Occurs registry schema document h

namespace DocumentValidator

variable {v : DocumentValidator} {document : Mapping}

mutual
theorem trace_of_checkedMapping : ∀ {rules : Rules} {mapping : Mapping} {path : FieldPath},
    CheckedMapping v.schema.fields document rules mapping path →
    mappingTrace v.registry (.mapping document) rules mapping path ⊆ v.trace document
  | _, _, _, .root => List.Subset.refl _
  | _, mapping, path, .object hn ht => by
    rw [← valueTrace_object ht mapping _ path]
    exact trace_of_checkedNode hn

theorem trace_of_checkedNode : ∀ {rule : Rule} {value : Value} {parent : Mapping}
    {path : FieldPath}, CheckedNode v.schema.fields document rule value parent path →
    valueTrace v.registry (.mapping document) rule value parent path ⊆ v.trace document
  | _, _, _, _, .field hm hr hv hg => by
    rw [← fieldTrace_some hg]
    exact List.Subset.trans (fieldTrace_subset hr hv) (trace_of_checkedMapping hm)
  | _, _, parent, _, .element hn ht hi hv =>
    List.Subset.trans (elementTrace_subset ht hi hv parent _) (trace_of_checkedNode hn)
end

/-- Everything that a checked place calls for is in the trace. -/
theorem mem_trace_of_occurs {h : Happening}
    (ho : Occurs v.registry v.schema.fields document h) : h ∈ v.trace document := by
  cases ho with
  | unknown hm hu => exact trace_of_checkedMapping hm (List.mem_append_left _ hu)
  | absent hm hr hv ha => exact trace_of_checkedMapping hm (fieldTrace_subset hr hv ha)
  | node hn hm => exact trace_of_checkedNode hn (nodeTrace_subset _ _ _ _ hm)

mutual
theorem occurs_of_mem_valueTrace : ∀ (rule : Rule) (value : Value) (parent : Mapping)
    (path : FieldPath) {h : Happening},
    CheckedNode v.schema.fields document rule value parent path →
    h ∈ valueTrace v.registry (.mapping document) rule value parent path →
    Occurs v.registry v.schema.fields document h
  | ⟨fieldType, _, properties, items, _, _, _⟩, value, parent, path, h, hn, hm => by
    unfold valueTrace at hm
    rcases List.mem_append.mp hm with hm | hm
    · exact .node hn hm
    · split at hm
      next mapping =>
        have hc := CheckedMapping.object hn rfl
        rcases List.mem_append.mp hm with hm | hm
        · exact .unknown hc hm
        · exact occurs_of_mem_fieldsTrace properties _ _ hc (fun _ he => he) hm
      next elements => exact occurs_of_mem_itemsTrace items _ _ _ hn rfl rfl hm
      next => simp at hm

theorem occurs_of_mem_fieldsTrace {all : Rules} : ∀ (rules : List (String × Rule))
    (mapping : Mapping) (path : FieldPath) {h : Happening},
    CheckedMapping v.schema.fields document all mapping path → (∀ entry ∈ rules, entry ∈ all) →
    h ∈ fieldsTrace v.registry (.mapping document) rules mapping path →
    Occurs v.registry v.schema.fields document h
  | [], _, _, _, _, _, hm => by simp [fieldsTrace] at hm
  | (name, rule) :: rest, mapping, path, h, hc, hall, hm => by
    rw [fieldsTrace] at hm
    have hr : (name, rule) ∈ all := hall _ List.mem_cons_self
    rcases List.mem_append.mp hm with hm | hm
    · split at hm
      next hv => exact .absent hc hr hv hm
      next value hv =>
        split at hm
        next hg =>
          exact occurs_of_mem_valueTrace rule value mapping _
            (.field hc hr hv (Rule.validatedIn_iff.mp hg)) hm
        next => simp at hm
    · exact occurs_of_mem_fieldsTrace rest mapping path hc
        (fun entry he => hall entry (List.mem_cons_of_mem _ he)) hm

theorem occurs_of_mem_itemsTrace {rule : Rule} : ∀ (items : Option Rule) (elements : List Value)
    (parent : Mapping) (path : FieldPath) {h : Happening},
    CheckedNode v.schema.fields document rule (.sequence elements) parent path →
    rule.fieldType = .array → rule.items = items →
    h ∈ itemsTrace v.registry (.mapping document) items elements parent path →
    Occurs v.registry v.schema.fields document h
  | none, _, _, _, _, _, _, _, hm => by simp [itemsTrace] at hm
  | some items, elements, parent, path, h, hn, ht, hi, hm => by
    rw [itemsTrace] at hm
    obtain ⟨i, value, hv, hm⟩ := mem_elementTraces.mp hm
    exact occurs_of_mem_valueTrace items value parent _ (.element hn ht hi hv) hm
end

theorem mem_trace_iff {h : Happening} :
    h ∈ v.trace document ↔ Occurs v.registry v.schema.fields document h := by
  refine ⟨fun hm => ?_, mem_trace_of_occurs⟩
  have hc : CheckedMapping v.schema.fields document v.schema.fields document .root := .root
  rcases List.mem_append.mp hm with hm | hm
  · exact .unknown hc hm
  · exact occurs_of_mem_fieldsTrace _ _ _ hc (fun _ he => he) hm

end DocumentValidator

/-- Every custom type of the rule, at any depth, has a validator. -/
def Rule.Resolved (registry : Registry) (rule : Rule) : Prop :=
  ∃ path, ∀ entry ∈ rule.walk path, ∀ name,
    entry.2.fieldType = .custom name → registry.has name = true

namespace Rule.Resolved

variable {registry : Registry} {rule : Rule}

theorem has (h : rule.Resolved registry) {name : String} (ht : rule.fieldType = .custom name) :
    registry.has name = true := by
  obtain ⟨path, h⟩ := h
  obtain ⟨_, _, _, _, _, _, _⟩ := rule
  exact h _ List.mem_cons_self name ht

theorem walk_subset_walkFields {name : String} {properties : List (String × Rule)}
    (hr : (name, rule) ∈ properties) (path : String) :
    rule.walk (path ++ "." ++ name) ⊆ walkFields path properties := by
  induction properties with
  | nil => simp at hr
  | cons entry rest ih =>
    rw [walkFields]
    rcases List.mem_cons.mp hr with rfl | hr
    · exact List.subset_append_left _ _
    · exact List.Subset.trans (ih hr) (List.subset_append_right _ _)

theorem property (h : rule.Resolved registry) {entry : String × Rule}
    (he : entry ∈ rule.properties) : entry.2.Resolved registry := by
  obtain ⟨path, h⟩ := h
  obtain ⟨_, _, _, _, _, _, _⟩ := rule
  refine ⟨path ++ "." ++ entry.1, fun sub hs => h sub (List.mem_cons_of_mem _ ?_)⟩
  exact List.mem_append_left _ (walk_subset_walkFields he path hs)

theorem element (h : rule.Resolved registry) {items : Rule} (hi : rule.items = some items) :
    items.Resolved registry := by
  obtain ⟨path, h⟩ := h
  obtain ⟨_, _, _, _, _, _, _⟩ := rule
  cases hi
  refine ⟨path ++ "[]", fun sub hs => h sub (List.mem_cons_of_mem _ ?_)⟩
  exact List.mem_append_right _ hs

end Rule.Resolved

namespace DocumentValidator

variable {v : DocumentValidator} {document : Mapping}

theorem resolved_of_mem_fields {entry : String × Rule} (he : entry ∈ v.schema.fields) :
    entry.2.Resolved v.registry := by
  refine ⟨entry.1, fun sub hs name ht => v.resolved (sub.1, name) ?_⟩
  refine List.mem_filterMap.mpr ⟨sub, List.mem_flatMap.mpr ⟨entry, he, hs⟩, ?_⟩
  simp [ht]

mutual
theorem resolved_of_checkedMapping : ∀ {rules : Rules} {mapping : Mapping} {path : FieldPath},
    CheckedMapping v.schema.fields document rules mapping path →
    ∀ entry ∈ rules, entry.2.Resolved v.registry
  | _, _, _, .root, _, he => resolved_of_mem_fields he
  | _, _, _, .object hn _, _, he => (resolved_of_checkedNode hn).property he

theorem resolved_of_checkedNode : ∀ {rule : Rule} {value : Value} {parent : Mapping}
    {path : FieldPath}, CheckedNode v.schema.fields document rule value parent path →
    rule.Resolved v.registry
  | _, _, _, _, .field hm hr _ _ => resolved_of_checkedMapping hm _ hr
  | _, _, _, _, .element hn _ hi _ => (resolved_of_checkedNode hn).element hi
end

end DocumentValidator

end SettingsCheck
