import SettingsCheck.Proofs.Passing
import Mathlib.Logic.Relation

namespace SettingsCheck

mutual
/-- One change of a rule, at any depth, after which it asks for less. -/
inductive LoosensRule : Rule → Rule → Prop
  | optional {rule : Rule} : LoosensRule rule { rule with required := false }
  | ungated {rule : Rule} : LoosensRule rule { rule with requiredWhenTrue := [] }
  | properties {rule : Rule} {properties : Rules} :
    rule.fieldType = .object → LoosensFields rule.properties properties →
    LoosensRule rule { rule with properties }
  | items {rule items items' : Rule} :
    rule.items = some items → LoosensRule items items' →
    LoosensRule rule { rule with items := some items' }

/-- One such change among the fields of a mapping: of the rule of a field, or by a new field that
may be absent. -/
inductive LoosensFields : Rules → Rules → Prop
  | changed {before after : Rules} {name : String} {rule rule' : Rule} :
    LoosensRule rule rule' →
    LoosensFields (before ++ (name, rule) :: after) (before ++ (name, rule') :: after)
  | added {before after : Rules} {name : String} {rule : Rule} :
    name ∉ Fields.names (before ++ after) → rule.required = false → rule.requiredWhenTrue = [] →
    LoosensFields (before ++ after) (before ++ (name, rule) :: after)
end

theorem LoosensRule.validatedIn_eq {rule rule' : Rule} (h : LoosensRule rule rule')
    (mapping : Mapping) : rule'.validatedIn mapping = rule.validatedIn mapping := by
  cases h <;> rfl

theorem LoosensRule.requiredIn {rule rule' : Rule} (h : LoosensRule rule rule') {mapping : Mapping}
    (hr : rule'.requiredIn mapping = true) : rule.requiredIn mapping = true := by
  cases h with
  | optional => exact Bool.or_eq_true_iff.mpr (.inr hr)
  | ungated => exact Bool.or_eq_true_iff.mpr (.inl (by simpa [Rule.requiredIn] using hr))
  | properties => exact hr
  | items => exact hr

theorem LoosensFields.names_subset {rules rules' : Rules} (h : LoosensFields rules rules') :
    rules.names ⊆ rules'.names := by
  cases h with
  | changed => simp [Fields.names]
  | added =>
    intro name hn
    simp only [Fields.names, List.map_append, List.map_cons, List.mem_append, List.mem_cons] at hn ⊢
    exact hn.imp_right .inr

namespace Walk

theorem heard_append_of_crash {first : List Happening} (h : .crash ∈ first)
    (rest : List Happening) : heard (first ++ rest) = heard first := by
  induction first with
  | nil => cases h
  | cons x first ih =>
    cases x with
    | crash => rfl
    | event e =>
      have hfirst : .crash ∈ first := by simpa using h
      rw [List.cons_append, heard, heard, ih hfirst]

theorem heard_append_of_no_crash {first : List Happening} (h : .crash ∉ first)
    (rest : List Happening) : heard (first ++ rest) = heard first ++ heard rest := by
  induction first with
  | nil => rfl
  | cons x first ih =>
    cases x with
    | crash => exact absurd List.mem_cons_self h
    | event e =>
      have hfirst : .crash ∉ first := fun hm => h (List.mem_cons_of_mem _ hm)
      rw [List.cons_append, heard, heard, ih hfirst, List.cons_append]

theorem errorCount_append (first rest : List Event) :
    errorCount (first ++ rest) = errorCount first + errorCount rest := by
  rw [errorCount, List.filterMap_append, List.length_append, errorCount, errorCount]

/-- If the first trace has no error that is heard, then the second one shows the same. -/
def Follows (first second : List Happening) : Prop :=
  errorCount (heard first) = 0 →
    heard second = heard first ∧ (.crash ∈ second ↔ .crash ∈ first)

namespace Follows

variable {first second third rest rest' : List Happening}

theorem refl (trace : List Happening) : Follows trace trace := fun _ => ⟨rfl, Iff.rfl⟩

theorem of_eq (h : first = second) : Follows first second := h ▸ refl first

theorem trans (h : Follows first second) (h' : Follows second third) : Follows first third := by
  intro hnone
  obtain ⟨hheard, hcrash⟩ := h hnone
  obtain ⟨hheard', hcrash'⟩ := h' (hheard ▸ hnone)
  exact ⟨hheard'.trans hheard, hcrash'.trans hcrash⟩

theorem append (h : Follows first second) (h' : Follows rest rest') :
    Follows (first ++ rest) (second ++ rest') := by
  intro hnone
  by_cases hc : .crash ∈ first
  · -- nothing is heard of the rest
    rw [heard_append_of_crash hc] at hnone ⊢
    obtain ⟨hheard, hcrash⟩ := h hnone
    rw [heard_append_of_crash (hcrash.mpr hc), hheard]
    exact ⟨rfl, by simp [hc, hcrash]⟩
  · rw [heard_append_of_no_crash hc, errorCount_append, Nat.add_eq_zero_iff] at hnone
    obtain ⟨hheard, hcrash⟩ := h hnone.1
    obtain ⟨hheard', hcrash'⟩ := h' hnone.2
    rw [heard_append_of_no_crash hc, heard_append_of_no_crash (mt hcrash.mp hc), hheard, hheard']
    exact ⟨rfl, by simp [hcrash, hcrash']⟩

theorem flatMap {α : Type} {f g : α → List Happening} {l : List α}
    (h : ∀ x ∈ l, Follows (f x) (g x)) : Follows (l.flatMap f) (l.flatMap g) := by
  induction l with
  | nil => exact refl _
  | cons x l ih =>
    exact append (h x List.mem_cons_self) (ih fun y hy => h y (List.mem_cons_of_mem _ hy))

end Follows

variable {registry : Registry} {root : Value} {rules rules' : Rules} {mapping : Mapping}
  {path : FieldPath}

/-- Where no error is heard, the rules declare every field. -/
theorem declared_of_no_errors
    (h : errorCount (heard (mappingTrace registry root rules mapping path)) = 0) :
    mapping.names ⊆ rules.names := by
  have hcrash : ∀ names, .crash ∉ unknownTrace rules.names path names := by simp [unknownTrace]
  rw [mappingTrace, heard_append_of_no_crash (hcrash _), errorCount_append, Nat.add_eq_zero_iff,
    errorCount, List.length_eq_zero_iff, List.filterMap_eq_nil_iff] at h
  intro name hn
  refine Classical.byContradiction fun hr => ?_
  have hm : Happening.event (.error (.unknownField (path.key name))) ∈
      unknownTrace rules.names path mapping.names := mem_unknownTrace.mpr ⟨name, hn, hr, rfl⟩
  rw [← heard_eq_filterMap (hcrash _), List.mem_map] at hm
  obtain ⟨event, he, heq⟩ := hm
  cases heq
  cases h.1 _ he

theorem mappingTrace_of_declared (h : mapping.names ⊆ rules.names) :
    mappingTrace registry root rules mapping path =
      fieldsTrace registry root rules mapping path := by
  have hnone : unknownTrace rules.names path mapping.names = [] := by
    simpa [unknownTrace] using fun name hn => h hn
  rw [mappingTrace, hnone, List.nil_append]

/-- More rules do no harm to a mapping whose fields are all declared. -/
theorem follows_of_fieldsTrace (hnames : rules.names ⊆ rules'.names)
    (h : mapping.names ⊆ rules.names → Follows (fieldsTrace registry root rules mapping path)
      (fieldsTrace registry root rules' mapping path)) :
    Follows (mappingTrace registry root rules mapping path)
      (mappingTrace registry root rules' mapping path) := by
  intro hnone
  have hdeclared := declared_of_no_errors hnone
  rw [mappingTrace_of_declared hdeclared] at hnone ⊢
  rw [mappingTrace_of_declared (List.Subset.trans hdeclared hnames)]
  exact h hdeclared hnone

theorem fieldTrace_added {name : String} (hn : name ∉ mapping.names) {rule : Rule}
    (hr : rule.required = false) (hw : rule.requiredWhenTrue = []) :
    fieldTrace registry root rule mapping path (mapping.get? name) = [] := by
  simp [Fields.get?_eq_none_iff.mpr hn, fieldTrace, absenceTrace, Rule.requiredIn, hr, hw]

theorem follows_fieldTrace {rule rule' : Rule} (h : LoosensRule rule rule')
    (hvalue : ∀ value, Follows (valueTrace registry root rule value mapping path)
      (valueTrace registry root rule' value mapping path)) (value? : Option Value) :
    Follows (fieldTrace registry root rule mapping path value?)
      (fieldTrace registry root rule' mapping path value?) := by
  cases value? with
  | some value =>
    simp only [fieldTrace, h.validatedIn_eq]
    split
    · exact hvalue value
    · exact .refl _
  | none =>
    simp only [fieldTrace, absenceTrace, h.validatedIn_eq]
    cases hr' : rule'.requiredIn mapping with
    | true => exact .of_eq (by rw [h.requiredIn hr'])
    | false =>
      cases hr : rule.requiredIn mapping && rule.validatedIn mapping with
      | false => exact .refl _
      | true => exact fun hnone => absurd hnone (by simp [heard])

theorem valueTrace_with_properties {rule : Rule} (ht : rule.fieldType = .object)
    (properties : Rules) {value : Value} (hv : value.mapping? = none) (parent : Mapping) :
    valueTrace registry root { rule with properties } value parent path =
      valueTrace registry root rule value parent path := by
  obtain ⟨_, _, _, _, _, _, _⟩ := rule
  cases ht
  cases value <;> first | rfl | cases hv

theorem valueTrace_with_items {rule : Rule} (items : Option Rule) {value : Value}
    (hv : rule.fieldType = .array → value.sequence? = none) (parent : Mapping) :
    valueTrace registry root { rule with items } value parent path =
      valueTrace registry root rule value parent path := by
  obtain ⟨fieldType, _, _, _, _, _, _⟩ := rule
  cases fieldType with
  | array =>
    have hnone := hv rfl
    cases value <;> first | rfl | cases hnone
  | object => cases value <;> rfl
  | _ => rfl

mutual
theorem follows_valueTrace : ∀ {rule rule' : Rule}, LoosensRule rule rule' → ∀ (value : Value)
    (parent : Mapping) (path : FieldPath),
    Follows (valueTrace registry root rule value parent path)
      (valueTrace registry root rule' value parent path)
  | ⟨_, _, _, _, _, _, _⟩, _, .optional, _, _, _ => .refl _
  | ⟨_, _, _, _, _, _, _⟩, _, .ungated, _, _, _ => .refl _
  | rule, _, @LoosensRule.properties _ properties ht hp, value, parent, path => by
    cases hv : value.mapping? with
    | none => exact .of_eq (valueTrace_with_properties ht properties hv parent).symm
    | some mapping =>
      cases value <;> cases hv
      rw [valueTrace_object ht, @valueTrace_object _ _ { rule with properties } ht]
      exact follows_mappingTrace hp mapping path
  | rule, _, @LoosensRule.items _ _ items' hi hl, value, parent, path => by
    by_cases hv : rule.fieldType = .array → value.sequence? = none
    · exact .of_eq (valueTrace_with_items (some items') hv parent).symm
    · obtain ⟨ht, hs⟩ := Classical.not_imp.mp hv
      cases value with
      | sequence elements =>
        rw [valueTrace_array ht hi,
          @valueTrace_array _ _ { rule with items := some items' } _ ht rfl,
          elementTraces_eq_flatMap, elementTraces_eq_flatMap]
        exact .flatMap fun entry _ => follows_valueTrace hl entry.1 parent _
      | _ => exact absurd rfl hs

/-- The trace of a mapping stays as it is under rules that ask for less, if it has no error. -/
theorem follows_mappingTrace : ∀ {rules rules' : Rules}, LoosensFields rules rules' →
    ∀ (mapping : Mapping) (path : FieldPath),
    Follows (mappingTrace registry root rules mapping path)
      (mappingTrace registry root rules' mapping path)
  | _, _, .changed hl, mapping, path => by
    refine follows_of_fieldsTrace (LoosensFields.changed hl).names_subset fun _ => ?_
    simp only [fieldsTrace_eq_flatMap, List.flatMap_append, List.flatMap_cons]
    refine (Follows.refl _).append (.append ?_ (.refl _))
    exact follows_fieldTrace hl (fun value => follows_valueTrace hl value mapping _) _
  | _, _, .added hn hr hw, mapping, path => by
    refine follows_of_fieldsTrace (LoosensFields.added hn hr hw).names_subset fun hdeclared => ?_
    -- a field that the old rules do not declare is not there
    have habsent := fun hm => hn (hdeclared hm)
    simp only [fieldsTrace_eq_flatMap, List.flatMap_append, List.flatMap_cons,
      fieldTrace_added habsent hr hw, List.nil_append]
    exact .refl _
end

end Walk

namespace DocumentValidator

variable {v v' : DocumentValidator} {document : Mapping}

theorem checkStructure_of_follows (h : Walk.Follows (v.trace document) (v'.trace document))
    {options : Options} (hnone : (v.checkStructure options (.mapping document)).errors = []) :
    v'.checkStructure options (.mapping document) =
      v.checkStructure options (.mapping document) := by
  rw [checkStructure_mapping] at hnone
  have hcount : Walk.errorCount (Walk.heard (v.trace document)) = 0 :=
    List.length_eq_zero_iff.mpr (Walk.errors_eq_nil_of_cut hnone)
  obtain ⟨hheard, hcrash⟩ := h hcount
  have hevents : v'.events document options.limit = v.events document options.limit := by
    rw [events, events, hheard]
  have hcrashed : (v'.checkStructure options (.mapping document)).crashed =
      (v.checkStructure options (.mapping document)).crashed := by
    rw [Bool.eq_iff_iff, crashed_iff, crashed_iff, hheard, hcrash]
  rw [checkStructure_mapping, checkStructure_mapping] at hcrashed ⊢
  rw [hevents, StructuralOutcome.mk.injEq]
  exact ⟨rfl, rfl, rfl, rfl, hcrashed⟩

theorem follows_trace {rules rules' : Rules}
    (h : Relation.ReflTransGen LoosensFields rules rules') (registry : Registry) (root : Value)
    (mapping : Mapping) (path : FieldPath) :
    Walk.Follows (Walk.mappingTrace registry root rules mapping path)
      (Walk.mappingTrace registry root rules' mapping path) := by
  induction h with
  | refl => exact .refl _
  | tail _ hstep ih => exact ih.trans (Walk.follows_mappingTrace hstep mapping path)

/-- A document without errors stays without when its schema comes to ask for less: the outcome of
the check is the same, with its warnings and queued checks. -/
theorem clean_under_looser_schema (v v' : DocumentValidator) (hr : v'.registry = v.registry)
    (h : Relation.ReflTransGen LoosensFields v.schema.fields v'.schema.fields) (options : Options)
    (document : Mapping) (hnone : (v.checkStructure options (.mapping document)).errors = []) :
    v'.checkStructure options (.mapping document) =
      v.checkStructure options (.mapping document) := by
  refine checkStructure_of_follows ?_ hnone
  rw [trace, trace, hr]
  exact follows_trace h v.registry (.mapping document) document .root

end DocumentValidator

namespace Sample

/-- Rules of a service whose colour is free. -/
def colouredRules (enabled : Rule) (node : Rules) : Rules :=
  [("colour", { fieldType := .string, validateWhenTrue := ["enabled"] }), ("enabled", enabled),
    ("nodes",
      { fieldType := .array
        items := some (.object node)
        validateWhenTrue := ["enabled"] }),
    ("port", .ofType .number)]

/-- Here a node may have a label and need not have a token. -/
def looserRules : Rules :=
  colouredRules (.ofType .ansibleBool)
    [("label", .ofType .string), ("name", { fieldType := .custom "subdomain", required := true }),
      ("token", .ofType (.custom "token"))]

theorem looserRules_ordered : looserRules.Ordered ∧ Rule.FieldsOrdered looserRules := by
  simp only [looserRules, colouredRules, Rule.FieldsOrdered, Rule.ItemsOrdered, Rule.Ordered,
    Rule.object, Rule.ofType]
  decide

def looserValidator : DocumentValidator where
  schema := ⟨looserRules, looserRules_ordered, by decide⟩
  registry := registry
  resolved := by decide

theorem node_loosens {enabled : Rule} {node node' : Rules} (h : LoosensFields node node') :
    LoosensFields (colouredRules enabled node) (colouredRules enabled node') :=
  @LoosensFields.changed [_, _] _ _ _ _ (.items rfl (.properties rfl h))

theorem rules_loosen : Relation.ReflTransGen LoosensFields rules looserRules := by
  let name : String × Rule := ("name", { fieldType := .custom "subdomain", required := true })
  let node : Rules :=
    [name, ("token", { fieldType := .custom "token", requiredWhenTrue := ["name"] })]
  let free : Rules := [name, ("token", .ofType (.custom "token"))]
  have hcolour : LoosensFields rules
      (colouredRules { fieldType := .ansibleBool, required := true } node) :=
    @LoosensFields.added [] rules "colour" _ (by decide) rfl rfl
  have henabled : LoosensFields (colouredRules { fieldType := .ansibleBool, required := true } node)
      (colouredRules (.ofType .ansibleBool) node) :=
    @LoosensFields.changed [_] _ _ _ _ .optional
  have htoken : LoosensFields node free := @LoosensFields.changed [_] _ _ _ _ .ungated
  have hlabel : LoosensFields free (("label", .ofType .string) :: free) :=
    @LoosensFields.added [] free "label" _ (by decide) rfl rfl
  exact .head hcolour (.head henabled (.head (node_loosens htoken) (.single (node_loosens hlabel))))

def cleanDocument : Mapping :=
  [("enabled", .string "yes"),
    ("nodes", .sequence [.mapping [("name", .string "app"), ("token", .string "t")]])]

theorem one_check_under_looser_rules :
    let s := validator.checkStructure {} (.mapping cleanDocument)
    Relation.ReflTransGen LoosensFields rules looserRules ∧ s.errors = [] ∧ s.pending.length = 1 ∧
    looserValidator.checkStructure {} (.mapping cleanDocument) = s := by
  intro s
  have hnone : s.errors = [] := by decide
  exact ⟨rules_loosen, hnone, by decide,
    DocumentValidator.clean_under_looser_schema validator looserValidator rfl rules_loosen {}
      cleanDocument hnone⟩

end Sample

end SettingsCheck
