import SettingsCheck.Proofs.Location
import SettingsCheck.Proofs.View

namespace SettingsCheck

mutual
/-- Two mappings that differ at most behind closed gates. -/
inductive AlikeMapping : Rules → Mapping → Mapping → Prop
  | intro {rules : Rules} {mapping mapping' : Mapping} :
    mapping.names = mapping'.names →
    (∀ name value value', mapping.get? name = some value → mapping'.get? name = some value' →
      AlikeEntry rules mapping name value value') →
    AlikeMapping rules mapping mapping'

/-- The contents of one field: anything behind a closed gate, as long as its truth is the same. -/
inductive AlikeEntry : Rules → Mapping → String → Value → Value → Prop
  | same {rules : Rules} {mapping : Mapping} {name : String} {value : Value} :
    AlikeEntry rules mapping name value value
  | hidden {rules : Rules} {mapping : Mapping} {name : String} {rule : Rule}
      {value value' : Value} :
    (name, rule) ∈ rules → ¬AllTruthy rule.validateWhenTrue mapping →
    value.isTruthy = value'.isTruthy → AlikeEntry rules mapping name value value'
  | checked {rules : Rules} {mapping : Mapping} {name : String} {rule : Rule}
      {value value' : Value} :
    (name, rule) ∈ rules → AllTruthy rule.validateWhenTrue mapping →
    AlikeNode rule value value' → AlikeEntry rules mapping name value value'

/-- Two values that differ at most behind closed gates of the mappings in them. -/
inductive AlikeNode : Rule → Value → Value → Prop
  | same {rule : Rule} {value : Value} : AlikeNode rule value value
  | object {rule : Rule} {mapping mapping' : Mapping} :
    rule.fieldType = .object → AlikeMapping rule.properties mapping mapping' →
    AlikeNode rule (.mapping mapping) (.mapping mapping')
  | array {rule items : Rule} {elements elements' : List Value} :
    rule.fieldType = .array → rule.items = some items → elements.length = elements'.length →
    (∀ (i : Nat) (value value' : Value), elements[i]? = some value → elements'[i]? = some value' →
      AlikeNode items value value') →
    AlikeNode rule (.sequence elements) (.sequence elements')
end

/-- Every validator that is asked during the walk looks at nothing but the value. -/
def Registry.ValueOnly (registry : Registry) : Prop :=
  ∀ name validator, Consults registry name validator →
    ∀ site site' value, validator site value = validator site' value

theorem AlikeNode.isTruthy_eq {rule : Rule} {value value' : Value}
    (h : AlikeNode rule value value') : value.isTruthy = value'.isTruthy := by
  cases h <;> rfl

theorem AlikeEntry.isTruthy_eq {rules : Rules} {mapping : Mapping} {name : String}
    {value value' : Value} (h : AlikeEntry rules mapping name value value') :
    value.isTruthy = value'.isTruthy := by
  cases h with
  | same => rfl
  | hidden _ _ ht => exact ht
  | checked _ _ hn => exact hn.isTruthy_eq

namespace AlikeMapping

variable {rules : Rules} {mapping mapping' : Mapping}

theorem get?_eq_none (h : AlikeMapping rules mapping mapping') {name : String}
    (hv : mapping.get? name = none) : mapping'.get? name = none := by
  obtain ⟨hnames, _⟩ := h
  rwa [Fields.get?_eq_none_iff, hnames, ← Fields.get?_eq_none_iff] at hv

theorem exists_get? (h : AlikeMapping rules mapping mapping') {name : String} {value : Value}
    (hv : mapping.get? name = some value) :
    ∃ value', mapping'.get? name = some value' ∧ AlikeEntry rules mapping name value value' := by
  obtain ⟨hnames, hentries⟩ := h
  have hin : mapping'.get? name ≠ none := by
    rw [ne_eq, Fields.get?_eq_none_iff, ← hnames, ← Fields.get?_eq_none_iff, hv]
    exact Option.some_ne_none value
  obtain ⟨value', hv'⟩ := Option.ne_none_iff_exists'.mp hin
  exact ⟨value', hv', hentries name value value' hv hv'⟩

theorem gateOpen_eq (h : AlikeMapping rules mapping mapping') (siblings : List String) :
    gateOpen siblings mapping = gateOpen siblings mapping' := by
  unfold gateOpen
  congr 1
  funext name
  cases hv : mapping.get? name with
  | none => rw [h.get?_eq_none hv]
  | some value =>
    obtain ⟨value', hv', he⟩ := h.exists_get? hv
    rw [hv', Option.any_some, Option.any_some, he.isTruthy_eq]

theorem validatedIn_eq (h : AlikeMapping rules mapping mapping') (rule : Rule) :
    rule.validatedIn mapping = rule.validatedIn mapping' :=
  h.gateOpen_eq _

theorem requiredIn_eq (h : AlikeMapping rules mapping mapping') (rule : Rule) :
    rule.requiredIn mapping = rule.requiredIn mapping' := by
  rw [Rule.requiredIn, Rule.requiredIn, h.gateOpen_eq]

end AlikeMapping

/-- The check without what only its run looks at. -/
def PendingCheck.bare (c : PendingCheck) : PendingCheck :=
  ⟨c.validator, ⟨.null, [], c.site.path⟩, c.value, .done .accepted⟩

def Event.bare : Event → Option Event
  | .queued c => some (.queued c.bare)
  | event => some event

namespace Walk

theorem seesErrors_bare : SeesErrors Event.bare where
  error _ := rfl
  other event event' he hs := by
    cases event with
    | error e => cases he
    | warning w =>
      cases hs
      rfl
    | queued c =>
      cases hs
      rfl

theorem sameChecks_of_valueOnly {registry : Registry} (h : registry.ValueOnly)
    (root root' : Value) :
    SameChecks (Happening.seen Event.bare) (Happening.seen Event.bare) registry registry root root'
      fun _ _ => True where
  error _ := rfl
  refl _ := trivial
  custom name value path parent parent' _ := by
    have hsame : ∀ validator, Consults registry name validator →
        validator ⟨root, parent, path⟩ value = validator ⟨root', parent', path⟩ value :=
      fun validator hc => h name validator hc _ _ value
    unfold customTrace
    cases hg : registry.get? name with
    | none => rfl
    | some check =>
      cases check with
      | immediate validator => simp only [validatorTrace, hsame validator (.inl hg)]
      | deferred precheck dialogue =>
        cases precheck with
        | none => rfl
        | some validator =>
          simp only [validatorTrace, hsame validator (.inr ⟨dialogue, hg⟩), List.flatMap_append]
          congr 1
          split <;> rfl

variable {registry : Registry} {root root' : Value}

mutual
/-- The traces of mappings that differ at most behind closed gates are the same. -/
theorem bare_alikeMapping (h : registry.ValueOnly) :
    ∀ {rules : Rules} {mapping mapping' : Mapping}, AlikeMapping rules mapping mapping' →
    rules.Ordered → Rule.FieldsOrdered rules → ∀ path : FieldPath,
    (mappingTrace registry root rules mapping path).flatMap (Happening.seen Event.bare) =
      (mappingTrace registry root' rules mapping' path).flatMap (Happening.seen Event.bare)
  | rules, mapping, mapping', .intro hnames hentries, ho, hf, path => by
    have ha : AlikeMapping rules mapping mapping' := .intro hnames hentries
    have hfield : ∀ entry ∈ rules,
        (fieldTrace registry root entry.2 mapping (path.key entry.1)
          (mapping.get? entry.1)).flatMap (Happening.seen Event.bare) =
        (fieldTrace registry root' entry.2 mapping' (path.key entry.1)
          (mapping'.get? entry.1)).flatMap (Happening.seen Event.bare) := by
      -- a field is absent from both mappings or present in both
      rintro ⟨name, rule⟩ hr
      cases hv : mapping.get? name with
      | none =>
        rw [ha.get?_eq_none hv]
        simp only [fieldTrace, absenceTrace, ha.requiredIn_eq, ha.validatedIn_eq]
      | some value =>
        obtain ⟨value', hv', _⟩ := ha.exists_get? hv
        rw [hv']
        exact bare_alikeEntry h (hentries name value value' hv hv') ho hf hr ha _
    unfold mappingTrace
    rw [List.flatMap_append, List.flatMap_append, hnames,
      seen_unknownTrace (sameChecks_of_valueOnly h root root'), fieldsTrace_eq_flatMap,
      fieldsTrace_eq_flatMap, List.flatMap_assoc, List.flatMap_assoc, List.flatMap_congr hfield]

theorem bare_alikeEntry (h : registry.ValueOnly) : ∀ {rules : Rules} {mapping mapping' : Mapping}
    {name : String} {rule : Rule} {value value' : Value},
    AlikeEntry rules mapping name value value' → rules.Ordered → Rule.FieldsOrdered rules →
    (name, rule) ∈ rules → AlikeMapping rules mapping mapping' → ∀ path : FieldPath,
    (fieldTrace registry root rule mapping path (some value)).flatMap (Happening.seen Event.bare) =
      (fieldTrace registry root' rule mapping' path (some value')).flatMap
        (Happening.seen Event.bare)
  | _, _, _, _, rule, value, _, .same, _, _, _, ha, path => by
    simp only [fieldTrace, ha.validatedIn_eq]
    split
    · exact seen_valueTrace (sameChecks_of_valueOnly h root root') rule value path trivial
    · rfl
  | _, mapping, mapping', _, rule, _, _, .hidden hr hc _, ho, _, hr', ha, path => by
    cases ho.value_unique hr hr'
    -- the gate is closed in the other mapping, too, so neither content is walked
    have hshut : rule.validatedIn mapping = false := by
      rw [Bool.eq_false_iff, ne_eq, Rule.validatedIn_iff]
      exact hc
    have hshut' : rule.validatedIn mapping' = false := ha.validatedIn_eq rule ▸ hshut
    simp [fieldTrace, hshut, hshut']
  | _, mapping, mapping', _, rule, _, _, .checked hr hg hn, ho, hf, hr', ha, path => by
    have hnode := bare_alikeNode h hn (Rule.fieldsOrdered_iff.mp hf _ hr) mapping mapping' path
    cases ho.value_unique hr hr'
    have hg' : AllTruthy rule.validateWhenTrue mapping' := by
      rw [← Rule.validatedIn_iff] at hg ⊢
      rwa [← ha.validatedIn_eq]
    rwa [fieldTrace_some hg, fieldTrace_some hg']

theorem bare_alikeNode (h : registry.ValueOnly) : ∀ {rule : Rule} {value value' : Value},
    AlikeNode rule value value' → rule.Ordered → ∀ (parent parent' : Mapping) (path : FieldPath),
    (valueTrace registry root rule value parent path).flatMap (Happening.seen Event.bare) =
      (valueTrace registry root' rule value' parent' path).flatMap (Happening.seen Event.bare)
  | rule, value, _, .same, _, _, _, path =>
    seen_valueTrace (sameChecks_of_valueOnly h root root') rule value path trivial
  | _, _, _, .object ht hm, ho, _, _, path => by
    have hp := Rule.ordered_iff.mp ho
    rw [valueTrace_object ht, valueTrace_object ht]
    exact bare_alikeMapping h hm hp.1 hp.2.1 path
  | _, _, _, .array ht hi hl he, ho, parent, parent', path => by
    have hitems := (Rule.ordered_iff.mp ho).2.2
    rw [hi] at hitems
    rw [valueTrace_array ht hi, valueTrace_array ht hi]
    refine seen_elementTraces (List.forall₂_iff_get.mpr ⟨hl, fun i hlt hlt' path => ?_⟩) path 0
    exact bare_alikeNode h (he i _ _ (List.getElem?_eq_getElem hlt) (List.getElem?_eq_getElem hlt'))
      hitems parent parent' path
end

end Walk

/-- No field on the way to the place has a closed gate. -/
def OpenAlong (schema : Schema) (document : Mapping) (place : FieldPath) : Prop :=
  ∀ above name rules mapping rule, (above.key name).Below place →
    CheckedMapping schema.fields document rules mapping above → (name, rule) ∈ rules →
    AllTruthy rule.validateWhenTrue mapping

section Places

variable {schema : Schema} {document : Mapping}

theorem checkedMapping_unique {rules rules' : Rules} {mapping mapping' : Mapping}
    {path : FieldPath} (hm : CheckedMapping schema.fields document rules mapping path)
    (hm' : CheckedMapping schema.fields document rules' mapping' path) :
    rules = rules' ∧ mapping = mapping' := by
  obtain ⟨hat, rule, hrule, rfl⟩ := at?_of_checkedMapping hm
  obtain ⟨hat', rule', hrule', rfl⟩ := at?_of_checkedMapping hm'
  rw [hat] at hat'
  rw [hrule] at hrule'
  cases hat'
  cases hrule'
  exact ⟨rfl, rfl⟩

theorem openAlong_root : OpenAlong schema document .root := by
  intro above name _ _ _ hb
  have hlen := List.IsPrefix.length_le hb
  simp [FieldPath.key, FieldPath.root] at hlen

theorem OpenAlong.index {path : FieldPath} (h : OpenAlong schema document path) (i : Nat) :
    OpenAlong schema document (path.index i) := by
  intro above name rules mapping rule hb
  rcases FieldPath.below_index_iff.mp hb with heq | hb
  · exact absurd heq FieldPath.key_ne_index
  · exact h above name rules mapping rule hb

theorem OpenAlong.key {path : FieldPath} (h : OpenAlong schema document path) {rules : Rules}
    {mapping : Mapping} (hm : CheckedMapping schema.fields document rules mapping path)
    {name : String} (hg : ∀ rule, (name, rule) ∈ rules → AllTruthy rule.validateWhenTrue mapping) :
    OpenAlong schema document (path.key name) := by
  intro above name' rules' mapping' rule' hb hm' hr'
  rcases FieldPath.below_key_iff.mp hb with heq | hb
  · -- the field on the way is the last one
    obtain ⟨rfl, rfl⟩ := FieldPath.key_inj.mp heq
    obtain ⟨rfl, rfl⟩ := checkedMapping_unique hm hm'
    exact hg rule' hr'
  · exact h above name' rules' mapping' rule' hb hm' hr'

mutual
theorem openAlong_of_checkedMapping : ∀ {rules : Rules} {mapping : Mapping} {path : FieldPath},
    CheckedMapping schema.fields document rules mapping path → OpenAlong schema document path
  | _, _, _, .root => openAlong_root
  | _, _, _, .object hn _ => openAlong_of_checkedNode hn

theorem openAlong_of_checkedNode : ∀ {rule : Rule} {value : Value} {parent : Mapping}
    {path : FieldPath}, CheckedNode schema.fields document rule value parent path →
    OpenAlong schema document path
  | _, _, _, _, .field hm hr _ hg =>
    (openAlong_of_checkedMapping hm).key hm fun _ hr' =>
      (ordered_of_checkedMapping hm).1.value_unique hr hr' ▸ hg
  | _, _, _, _, .element hn _ _ _ => (openAlong_of_checkedNode hn).index _
end

end Places

namespace Registry

theorem checks_foldl_register (entries : List (String × Validator)) (registry : Registry) :
    (entries.foldl (fun registry (name, validator) =>
      registry.register name (.immediate validator)) registry).checks =
    (entries.map fun entry => (entry.1, Check.immediate entry.2)).foldl
      (fun fields (name, check) => Fields.insert name check fields) registry.checks := by
  induction entries generalizing registry with
  | nil => rfl
  | cons entry entries ih => exact ih (registry.register entry.1 (.immediate entry.2))

variable (surroundings : Surroundings)

theorem checks_withBuiltins :
    (withBuiltins surroundings).checks =
      Fields.ofList ((builtins surroundings).map fun entry => (entry.1, .immediate entry.2)) := by
  unfold withBuiltins Fields.ofList
  exact checks_foldl_register (builtins surroundings) empty

theorem builtins_ignore_site {entry : String × Validator} (he : entry ∈ builtins surroundings)
    (site site' : Site) (value : Value) : entry.2 site value = entry.2 site' value := by
  simp only [builtins, List.mem_cons, List.not_mem_nil, or_false] at he
  rcases he with rfl | rfl | rfl | rfl | rfl | rfl | rfl | rfl | rfl | rfl <;> rfl

theorem mem_builtins_of_get? {name : String} {check : Check}
    (h : (withBuiltins surroundings).get? name = some check) :
    ∃ entry ∈ builtins surroundings, entry.1 = name ∧ check = .immediate entry.2 := by
  have hmem := Fields.mem_of_get? h
  rw [checks_withBuiltins] at hmem
  obtain ⟨entry, he, heq⟩ := List.mem_map.mp (Fields.mem_of_mem_ofList hmem)
  exact ⟨entry, he, (Prod.mk.inj heq).1, (Prod.mk.inj heq).2.symm⟩

theorem valueOnly_withBuiltins : (withBuiltins surroundings).ValueOnly := by
  intro name validator hc site site' value
  rcases hc with hget | ⟨dialogue, hget⟩
  · obtain ⟨entry, he, _, heq⟩ := mem_builtins_of_get? surroundings hget
    cases heq
    exact builtins_ignore_site surroundings he site site' value
  · obtain ⟨entry, _, _, heq⟩ := mem_builtins_of_get? surroundings hget
    cases heq

end Registry

namespace DocumentValidator

variable {v : DocumentValidator} {document document' : Mapping}

theorem openAlong_of_judged {e : ValidationError}
    (h : Judged v.registry v.schema.fields document e) : OpenAlong v.schema document e.path := by
  cases h with
  | unknown hm _ hr =>
    exact (openAlong_of_checkedMapping hm).key hm fun rule hr' =>
      absurd (List.mem_map_of_mem hr') hr
  | missing hm hr _ hg _ =>
    exact (openAlong_of_checkedMapping hm).key hm fun rule hr' =>
      (ordered_of_checkedMapping hm).1.value_unique hr hr' ▸ hg
  | mistyped hn _ => exact openAlong_of_checkedNode hn
  | refused hn _ _ _ _ => exact openAlong_of_checkedNode hn

theorem openAlong_of_warning {w : Warning}
    (h : Occurs v.registry v.schema.fields document (.event (.warning w))) :
    OpenAlong v.schema document w.path := by
  obtain ⟨_, _, _, _, _, hn, _, _, hm⟩ := occurs_at_custom h rfl
  obtain ⟨_, _, _, _, rfl⟩ := Walk.warning_mem_customTrace.mp hm
  exact openAlong_of_checkedNode hn

theorem openAlong_of_queued {c : PendingCheck}
    (h : Occurs v.registry v.schema.fields document (.event (.queued c))) :
    OpenAlong v.schema document c.site.path := by
  obtain ⟨_, _, _, _, _, hn, _, _, hm⟩ := occurs_at_custom h rfl
  obtain ⟨_, _, _, _, rfl⟩ := Walk.queued_mem_customTrace.mp hm
  exact openAlong_of_checkedNode hn

theorem bare_trace (hv : v.registry.ValueOnly)
    (h : AlikeMapping v.schema.fields document document') :
    (v.trace document).flatMap (Walk.Happening.seen Event.bare) =
      (v.trace document').flatMap (Walk.Happening.seen Event.bare) :=
  Walk.bare_alikeMapping hv h v.schema.ordered.1 v.schema.ordered.2 .root

theorem outcome_alike (hv : v.registry.ValueOnly)
    (h : AlikeMapping v.schema.fields document document') (options : Options) :
    let s := v.checkStructure options (.mapping document)
    let s' := v.checkStructure options (.mapping document')
    s.errors = s'.errors ∧ s.warnings = s'.warnings ∧
      s.pending.map PendingCheck.bare = s'.pending.map PendingCheck.bare ∧
      s.fatal = s'.fatal ∧ s.crashed = s'.crashed := by
  intro s s'
  have hs : s = _ := v.checkStructure_mapping document options
  have hs' : s' = _ := v.checkStructure_mapping document' options
  have htrace := bare_trace hv h
  have hevents := seen_events Walk.seesErrors_bare htrace options.limit
  refine ⟨?_, ?_, ?_, ?_, seen_crashed Walk.seesErrors_bare htrace options⟩
  · rw [hs, hs']
    exact Walk.filterMap_eq_of_seen Event.error? hevents fun event => by cases event <;> rfl
  · rw [hs, hs']
    exact Walk.filterMap_eq_of_seen Event.warning? hevents fun event => by cases event <;> rfl
  · rw [hs, hs', List.map_filterMap, List.map_filterMap]
    exact Walk.filterMap_eq_of_seen Event.queued? hevents fun event => by cases event <;> rfl
  · rw [hs, hs']

/-- What stands behind a closed gate has no part in a structural check but for its truth as a
boolean: documents that differ only there have the same errors, warnings and queued checks. Nothing
is found behind a closed gate either. -/
theorem closed_gate_hides_content (v : DocumentValidator) (hv : v.registry.ValueOnly)
    (options : Options) :
    (∀ document document' : Value, AlikeNode (.object v.schema.fields) document document' →
      let s := v.checkStructure options document
      let s' := v.checkStructure options document'
      s.errors = s'.errors ∧ s.warnings = s'.warnings ∧
      s.pending.map (fun c => (c.validator, c.site.path, c.value)) =
        s'.pending.map (fun c => (c.validator, c.site.path, c.value)) ∧
      s.fatal = s'.fatal ∧ s.crashed = s'.crashed) ∧
    (∀ document : Mapping,
      let s := v.checkStructure options (.mapping document)
      (∀ e ∈ s.errors, OpenAlong v.schema document e.path) ∧
      (∀ w ∈ s.warnings, OpenAlong v.schema document w.path) ∧
      ∀ c ∈ s.pending, OpenAlong v.schema document c.site.path) ∧
    ∀ surroundings, (Registry.withBuiltins surroundings).ValueOnly := by
  refine ⟨fun document document' h => ?_, fun document => ?_, Registry.valueOnly_withBuiltins⟩
  · cases h with
    | same => exact ⟨rfl, rfl, rfl, rfl, rfl⟩
    | array ht _ _ _ => cases ht
    | object _ h =>
      obtain ⟨herrors, hwarnings, hpending, hfatal, hcrashed⟩ := outcome_alike hv h options
      refine ⟨herrors, hwarnings, ?_, hfatal, hcrashed⟩
      have hparts := congrArg (List.map fun c => (c.validator, c.site.path, c.value)) hpending
      rw [List.map_map, List.map_map] at hparts
      exact hparts
  · intro s
    have hs : s = _ := v.checkStructure_mapping document options
    rw [hs]
    refine ⟨fun e he => ?_, fun w hw => ?_, fun c hc => ?_⟩
    · exact openAlong_of_judged (occurs_error_iff.mp
        (occurs_of_mem_events (Event.mem_filterMap_error?.mp he)))
    · exact openAlong_of_warning (occurs_of_mem_events (Event.mem_filterMap_warning?.mp hw))
    · exact openAlong_of_queued (occurs_of_mem_events (Event.mem_filterMap_queued?.mp hc))

end DocumentValidator

namespace Sample

/-- A service that is switched off, with anything for nodes. -/
def switchedOff (nodes : Value) : Mapping :=
  [("colour", .string "red"), ("enabled", .string "no"), ("nodes", nodes), ("port", .float 1.5)]

theorem nodes_behind_gate (nodes : Value) :
    ¬AllTruthy ["enabled"] (switchedOff nodes) := by
  rintro h
  obtain ⟨value, hv, ht⟩ := h "enabled" (List.mem_singleton_self _)
  cases hv
  exact absurd ht (by decide)

theorem alike_switchedOff {nodes nodes' : Value} (h : nodes.isTruthy = nodes'.isTruthy) :
    AlikeMapping rules (switchedOff nodes) (switchedOff nodes') := by
  refine .intro rfl fun name value value' hv hv' => ?_
  by_cases hname : name = "nodes"
  · subst hname
    cases hv
    cases hv'
    exact .hidden (List.mem_cons_of_mem _ List.mem_cons_self) (nodes_behind_gate nodes) h
  · have hget : (switchedOff nodes).get? name = (switchedOff nodes').get? name := by
      simp only [switchedOff, Fields.get?, if_neg hname]
    rw [hget, hv'] at hv
    cases hv
    exact .same

theorem registry_valueOnly : registry.ValueOnly := by
  intro name validator hc site site' value
  rcases hc with hget | ⟨dialogue, hget⟩
  · have hone : name = "subdomain" ∧ validator = Builtin.subdomain := by
      simpa [registry] using Fields.mem_of_get? hget
    rw [hone.2]
    rfl
  · have hnone : False := by simpa [registry] using Fields.mem_of_get? hget
    exact hnone.elim

/-- A text and a list of nodes are alike behind the gate: neither of them is true. -/
theorem nodes_hidden :
    let nodes := Value.sequence [.mapping [("name", .string "-app")]]
    let s := validator.checkStructure {} (.mapping (switchedOff nodes))
    let s' := validator.checkStructure {} (.mapping (switchedOff (.string "secret")))
    registry.ValueOnly ∧
    AlikeNode (.object rules) (.mapping (switchedOff nodes))
      (.mapping (switchedOff (.string "secret"))) ∧
    s.errors.length = 2 ∧ s.errors = s'.errors ∧
    CheckedMapping rules (switchedOff nodes) rules (switchedOff nodes) .root ∧
    (∀ e ∈ s.errors, OpenAlong schema (switchedOff nodes) e.path) := by
  intro nodes s s'
  have halike : AlikeNode (.object rules) (.mapping (switchedOff nodes))
      (.mapping (switchedOff (.string "secret"))) :=
    .object rfl (alike_switchedOff (by decide))
  obtain ⟨hsame, hopen, _⟩ :=
    DocumentValidator.closed_gate_hides_content validator registry_valueOnly {}
  exact ⟨registry_valueOnly, halike, by decide, (hsame _ _ halike).1, .root,
    (hopen (switchedOff nodes)).1⟩

end Sample

end SettingsCheck
