import SettingsCheck.Proofs.Places

namespace SettingsCheck

/-- The values of a type. Numbers and booleans may be written as strings, and no type has null. -/
inductive HasType : FieldType → Value → Prop
  | string (s : String) : HasType .string (.string s)
  | number {value : Value} {n : Int} : value.integer? = some n → HasType .number value
  | float {value : Value} {x : Float} : value.float? = some x → HasType .float value
  | boolean (b : Bool) : HasType .boolean (.bool b)
  | ansibleBool {value : Value} {b : Bool} :
    value.ansibleBool? = some b → HasType .ansibleBool value
  | object (entries : Mapping) : HasType .object (.mapping entries)
  | array (items : List Value) : HasType .array (.sequence items)
  | custom {name : String} {value : Value} : value ≠ .null → HasType (.custom name) value

/-- The validator that is asked during the walk: one that answers at once, or the precheck of a
deferred check. -/
def Consults (registry : Registry) (name : String) (validator : Validator) : Prop :=
  registry.get? name = some (.immediate validator) ∨
    ∃ dialogue, registry.get? name = some (.deferred (some validator) dialogue)

/-- The errors that a document calls for. -/
inductive Judged (registry : Registry) (schema : Rules) (document : Mapping) :
    ValidationError → Prop
  | unknown {rules : Rules} {mapping : Mapping} {path : FieldPath} {name : String} :
    CheckedMapping schema document rules mapping path →
    name ∈ mapping.names → name ∉ rules.names →
    Judged registry schema document (.unknownField (path.key name))
  | missing {rules : Rules} {mapping : Mapping} {path : FieldPath} {name : String} {rule : Rule} :
    CheckedMapping schema document rules mapping path →
    (name, rule) ∈ rules → name ∉ mapping.names →
    AllTruthy rule.validateWhenTrue mapping → rule.Due mapping →
    Judged registry schema document (.missingField (path.key name))
  | mistyped {rule : Rule} {value : Value} {parent : Mapping} {path : FieldPath} :
    CheckedNode schema document rule value parent path →
    ¬HasType rule.fieldType value →
    Judged registry schema document (.typeMismatch path (rule.fieldType.mismatch value))
  | refused {rule : Rule} {value : Value} {parent : Mapping} {path : FieldPath} {name : String}
      {validator : Validator} {reason : String} :
    CheckedNode schema document rule value parent path →
    rule.fieldType = .custom name → value ≠ .null → Consults registry name validator →
    (validator ⟨.mapping document, parent, path⟩ value).verdict = .refused reason →
    Judged registry schema document (.custom path name reason)

/-- Some validator that is asked about a checked node breaks off. -/
def BreaksOff (registry : Registry) (schema : Rules) (document : Mapping) : Prop :=
  ∃ rule value parent path name validator,
    CheckedNode schema document rule value parent path ∧
    rule.fieldType = .custom name ∧ value ≠ .null ∧ Consults registry name validator ∧
    (validator ⟨.mapping document, parent, path⟩ value).verdict = .crashed

theorem Value.isNull_iff {value : Value} : value.isNull = true ↔ value = .null := by
  cases value <;> simp [Value.isNull]

theorem not_hasType_null (fieldType : FieldType) : ¬HasType fieldType .null := by
  intro h
  cases h with
  | number h => simp [Value.integer?] at h
  | float h => simp [Value.float?] at h
  | ansibleBool h => simp [Value.ansibleBool?] at h
  | custom h => exact h rfl

theorem accepts_iff_hasType {fieldType : FieldType} {value : Value} (ho : fieldType ≠ .object)
    (ha : fieldType ≠ .array) (hc : ∀ name, fieldType ≠ .custom name) :
    fieldType.accepts value = true ↔ HasType fieldType value := by
  cases fieldType with
  | string =>
    refine ⟨fun h => ?_, fun h => by cases h; rfl⟩
    obtain ⟨s, hs⟩ := Option.isSome_iff_exists.mp h
    cases value <;> first | exact .string _ | simp [Value.string?] at hs
  | number =>
    refine ⟨fun h => ?_, fun h => by cases h with | number h => simp [FieldType.accepts, h]⟩
    obtain ⟨n, hn⟩ := Option.isSome_iff_exists.mp h
    exact .number hn
  | float =>
    refine ⟨fun h => ?_, fun h => by cases h with | float h => simp [FieldType.accepts, h]⟩
    obtain ⟨x, hx⟩ := Option.isSome_iff_exists.mp h
    exact .float hx
  | boolean =>
    refine ⟨fun h => ?_, fun h => by cases h; rfl⟩
    cases value <;> first | exact .boolean _ | simp [FieldType.accepts] at h
  | ansibleBool =>
    refine ⟨fun h => ?_, fun h => by cases h with | ansibleBool h => simp [FieldType.accepts, h]⟩
    obtain ⟨b, hb⟩ := Option.isSome_iff_exists.mp h
    exact .ansibleBool hb
  | object => exact absurd rfl ho
  | array => exact absurd rfl ha
  | custom name => exact absurd rfl (hc name)

namespace Walk

variable {registry : Registry} {site : Site} {value : Value}

theorem nodeTrace_of_not_hasType {fieldType : FieldType} (h : ¬HasType fieldType value) :
    nodeTrace registry fieldType site value =
      [.event (.error (.typeMismatch site.path (fieldType.mismatch value)))] := by
  unfold nodeTrace
  by_cases hn : value.isNull = true
  · simp [hn]
  · have hv : value ≠ .null := fun heq => hn (Value.isNull_iff.mpr heq)
    simp only [hn]
    cases fieldType with
    | object =>
      cases value <;> first | rfl | exact absurd (.object _) h
    | array =>
      cases value <;> first | rfl | exact absurd (.array _) h
    | custom name => exact absurd (.custom hv) h
    | _ =>
      have hacc := mt (accepts_iff_hasType (by simp) (by simp) (by simp)).mp h
      simp [hacc]

theorem nodeTrace_of_hasType {fieldType : FieldType} (h : HasType fieldType value)
    (hc : ∀ name, fieldType ≠ .custom name) : nodeTrace registry fieldType site value = [] := by
  have hv : ¬value.isNull = true := fun hn =>
    not_hasType_null fieldType (Value.isNull_iff.mp hn ▸ h)
  unfold nodeTrace
  simp only [hv]
  cases fieldType with
  | object => cases h; rfl
  | array => cases h; rfl
  | custom name => exact absurd rfl (hc name)
  | _ =>
    have hacc := (accepts_iff_hasType (by simp) (by simp) hc).mpr h
    simp [hacc]

theorem nodeTrace_custom (name : String) (hv : value ≠ .null) :
    nodeTrace registry (.custom name) site value = customTrace registry name site value := by
  have hn : ¬value.isNull = true := fun hn => hv (Value.isNull_iff.mp hn)
  simp [nodeTrace, hn]

theorem mem_nodeTrace {fieldType : FieldType} {h : Happening} :
    h ∈ nodeTrace registry fieldType site value ↔
      (¬HasType fieldType value ∧
        h = .event (.error (.typeMismatch site.path (fieldType.mismatch value)))) ∨
      ∃ name, fieldType = .custom name ∧ value ≠ .null ∧
        h ∈ customTrace registry name site value := by
  by_cases ht : HasType fieldType value
  · have hv : value ≠ .null := fun hv => not_hasType_null _ (hv ▸ ht)
    by_cases hc : ∃ name, fieldType = .custom name
    · obtain ⟨name, rfl⟩ := hc
      simp [nodeTrace_custom name hv, ht, hv]
    · have hc' : ∀ name, fieldType ≠ .custom name := fun name heq => hc ⟨name, heq⟩
      simp [nodeTrace_of_hasType ht hc', ht, hc']
  · rw [nodeTrace_of_not_hasType ht, List.mem_singleton]
    refine ⟨fun h => .inl ⟨ht, h⟩, ?_⟩
    rintro (⟨_, h⟩ | ⟨name, rfl, hv, _⟩)
    · exact h
    · exact absurd (.custom hv) ht

theorem error_mem_validatorTrace {name : String} {validator : Validator} {e : ValidationError} :
    .event (.error e) ∈ validatorTrace name validator site value ↔
      ∃ reason, (validator site value).verdict = .refused reason ∧
        e = .custom site.path name reason := by
  cases hv : (validator site value).verdict <;> simp [validatorTrace, hv]

theorem crash_mem_validatorTrace {name : String} {validator : Validator} :
    .crash ∈ validatorTrace name validator site value ↔
      (validator site value).verdict = .crashed := by
  cases hv : (validator site value).verdict <;> simp [validatorTrace, hv]

theorem error_mem_customTrace {name : String} (hr : registry.has name = true)
    {e : ValidationError} :
    .event (.error e) ∈ customTrace registry name site value ↔
      ∃ validator reason, Consults registry name validator ∧
        (validator site value).verdict = .refused reason ∧ e = .custom site.path name reason := by
  unfold customTrace Consults
  cases hg : registry.get? name with
  | none =>
    rw [Registry.has, Fields.has, show registry.checks.get? name = none from hg] at hr
    simp at hr
  | some check =>
    cases check with
    | immediate validator => simp [error_mem_validatorTrace]
    | deferred precheck dialogue =>
      cases precheck with
      | none => simp
      | some validator => simp [error_mem_validatorTrace]

theorem crash_mem_customTrace {name : String} :
    .crash ∈ customTrace registry name site value ↔
      ∃ validator, Consults registry name validator ∧
        (validator site value).verdict = .crashed := by
  unfold customTrace Consults
  cases hg : registry.get? name with
  | none => simp
  | some check =>
    cases check with
    | immediate validator => simp [crash_mem_validatorTrace]
    | deferred precheck dialogue =>
      cases precheck with
      | none => simp
      | some validator => simp [crash_mem_validatorTrace]

theorem warning_mem_validatorTrace {name : String} {validator : Validator} {w : Warning} :
    .event (.warning w) ∈ validatorTrace name validator site value ↔
      ∃ message ∈ (validator site value).warnings, w = ⟨site.path, message⟩ := by
  cases hv : (validator site value).verdict <;> simp [validatorTrace, hv, eq_comm]

theorem warning_mem_customTrace {name : String} {w : Warning} :
    .event (.warning w) ∈ customTrace registry name site value ↔
      ∃ validator, Consults registry name validator ∧
        ∃ message ∈ (validator site value).warnings, w = ⟨site.path, message⟩ := by
  unfold customTrace Consults
  cases hg : registry.get? name with
  | none => simp
  | some check =>
    cases check with
    | immediate validator => simp [warning_mem_validatorTrace]
    | deferred precheck dialogue =>
      cases precheck with
      | none => simp
      | some validator => simp [warning_mem_validatorTrace]

theorem queued_mem_customTrace {name : String} {c : PendingCheck} :
    .event (.queued c) ∈ customTrace registry name site value ↔
      ∃ precheck dialogue, registry.get? name = some (.deferred precheck dialogue) ∧
        (∀ validator, precheck = some validator → (validator site value).verdict = .accepted) ∧
        c = ⟨name, site, value, dialogue site value⟩ := by
  have hvalidator : ∀ validator : Validator,
      .event (.queued c) ∉ validatorTrace name validator site value := by
    intro validator
    cases hv : (validator site value).verdict <;> simp [validatorTrace, hv]
  unfold customTrace
  cases hg : registry.get? name with
  | none => simp
  | some check =>
    cases check with
    | immediate validator => simp [hvalidator]
    | deferred precheck dialogue =>
      cases precheck with
      | none => simp
      | some validator => simp [hvalidator]

theorem mem_unknownTrace {rules names : List String} {path : FieldPath} {h : Happening} :
    h ∈ unknownTrace rules path names ↔
      ∃ name ∈ names, name ∉ rules ∧ h = .event (.error (.unknownField (path.key name))) := by
  simp only [unknownTrace, List.mem_map, List.mem_filter, Bool.not_eq_true', List.contains_eq_mem,
    decide_eq_false_iff_not]
  constructor
  · rintro ⟨name, ⟨hn, hr⟩, rfl⟩
    exact ⟨name, hn, hr, rfl⟩
  · rintro ⟨name, hn, hr, rfl⟩
    exact ⟨name, ⟨hn, hr⟩, rfl⟩

theorem mem_absenceTrace {rule : Rule} {mapping : Mapping} {path : FieldPath} {h : Happening} :
    h ∈ absenceTrace rule mapping path ↔
      rule.Due mapping ∧ AllTruthy rule.validateWhenTrue mapping ∧
        h = .event (.error (.missingField path)) := by
  unfold absenceTrace
  rw [← Rule.requiredIn_iff, ← Rule.validatedIn_iff]
  split
  next hg => simp_all
  next hg => simp_all

end Walk

open Walk

namespace DocumentValidator

variable {v : DocumentValidator} {document : Mapping}

theorem occurs_error_iff {e : ValidationError} :
    Occurs v.registry v.schema.fields document (.event (.error e)) ↔
      Judged v.registry v.schema.fields document e := by
  constructor
  · intro h
    cases h with
    | unknown hm hu =>
      obtain ⟨name, hn, hr, he⟩ := mem_unknownTrace.mp hu
      cases he
      exact .unknown hm hn hr
    | absent hm hr hv ha =>
      obtain ⟨hdue, hg, he⟩ := mem_absenceTrace.mp ha
      cases he
      exact .missing hm hr (Fields.get?_eq_none_iff.mp hv) hg hdue
    | node hn hm =>
      rcases mem_nodeTrace.mp hm with ⟨ht, he⟩ | ⟨name, hc, hv, hm⟩
      · cases he
        exact .mistyped hn ht
      · rw [error_mem_customTrace ((resolved_of_checkedNode hn).has hc)] at hm
        obtain ⟨validator, reason, hcons, href, rfl⟩ := hm
        exact .refused hn hc hv hcons href
  · intro h
    cases h with
    | unknown hm hn hr => exact .unknown hm (mem_unknownTrace.mpr ⟨_, hn, hr, rfl⟩)
    | missing hm hr hn hg hdue =>
      exact .absent hm hr (Fields.get?_eq_none_iff.mpr hn) (mem_absenceTrace.mpr ⟨hdue, hg, rfl⟩)
    | mistyped hn ht => exact .node hn (mem_nodeTrace.mpr (.inl ⟨ht, rfl⟩))
    | refused hn hc hv hcons href =>
      refine .node hn (mem_nodeTrace.mpr (.inr ⟨_, hc, hv, ?_⟩))
      rw [error_mem_customTrace ((resolved_of_checkedNode hn).has hc)]
      exact ⟨_, _, hcons, href, rfl⟩

theorem occurs_crash_iff :
    Occurs v.registry v.schema.fields document .crash ↔
      BreaksOff v.registry v.schema.fields document := by
  constructor
  · intro h
    cases h with
    | unknown hm hu =>
      obtain ⟨_, _, _, he⟩ := mem_unknownTrace.mp hu
      cases he
    | absent hm hr hv ha =>
      obtain ⟨_, _, he⟩ := mem_absenceTrace.mp ha
      cases he
    | node hn hm =>
      rcases mem_nodeTrace.mp hm with ⟨_, he⟩ | ⟨name, hc, hv, hm⟩
      · cases he
      · obtain ⟨validator, hcons, hcr⟩ := crash_mem_customTrace.mp hm
        exact ⟨_, _, _, _, name, validator, hn, hc, hv, hcons, hcr⟩
  · rintro ⟨rule, value, parent, path, name, validator, hn, hc, hv, hcons, hcr⟩
    refine .node hn (mem_nodeTrace.mpr (.inr ⟨name, hc, hv, ?_⟩))
    exact crash_mem_customTrace.mpr ⟨validator, hcons, hcr⟩

/-- Without limits the errors of a check are those that the document calls for, each of them once.
There is an answer unless a validator breaks off. -/
theorem structural_errors_exact (v : DocumentValidator) (options : Options) (document : Mapping)
    (hd : (Value.mapping document).Ordered) (hfast : options.failFast = false)
    (hmax : options.maxErrors = 0) :
    let s := v.checkStructure options (.mapping document)
    (s.crashed = true ↔ BreaksOff v.registry v.schema.fields document) ∧
    (s.crashed = false → s.fatal = false ∧ s.errors.Nodup ∧
      ∀ e, e ∈ s.errors ↔ Judged v.registry v.schema.fields document e) := by
  have hlimit : options.limit = 0 := by simp [Options.limit, hfast, hmax]
  have hcrash := v.crashed_iff_mem document hlimit
  rw [mem_trace_iff, occurs_crash_iff] at hcrash
  refine ⟨hcrash, fun hgoing => ?_⟩
  have hpaths := v.nodup_paths hd options.limit
  have hnone : Happening.crash ∉ v.trace document := fun hm =>
    absurd ((v.crashed_iff_mem document hlimit).mpr hm) (by simp [hgoing])
  rw [checkStructure_mapping, hlimit] at *
  refine ⟨rfl, (List.nodup_append.mp hpaths).1.of_map _, fun e => ?_⟩
  have hmem : e ∈ (v.events document 0).filterMap Event.error? ↔
      Happening.event (.error e) ∈ v.trace document := by
    rw [← heard_eq_filterMap hnone, ← events_zero]
    constructor
    · intro he
      obtain ⟨x, hx, hxe⟩ := List.mem_filterMap.mp he
      cases x <;> cases hxe
      exact List.mem_map_of_mem hx
    · intro he
      obtain ⟨x, hx, hxe⟩ := List.mem_map.mp he
      cases hxe
      exact List.mem_filterMap.mpr ⟨_, hx, rfl⟩
  rw [hmem, mem_trace_iff, occurs_error_iff]

end DocumentValidator

namespace Sample

/-- Nodes of a service behind a switch; their tokens are tested by a deferred check. -/
def rules : Rules :=
  [("enabled", { fieldType := .ansibleBool, required := true }),
    ("nodes",
      { fieldType := .array
        items := some (.object
          [("name", { fieldType := .custom "subdomain", required := true }),
            ("token", { fieldType := .custom "token", requiredWhenTrue := ["name"] })])
        validateWhenTrue := ["enabled"] }),
    ("port", .ofType .number)]

theorem rules_ordered : rules.Ordered ∧ Rule.FieldsOrdered rules := by
  simp only [rules, Rule.FieldsOrdered, Rule.ItemsOrdered, Rule.Ordered, Rule.object, Rule.ofType]
  decide

def schema : Schema := ⟨rules, rules_ordered, by decide⟩

def registry : Registry :=
  ⟨[("subdomain", .immediate Builtin.subdomain),
    ("token", .deferred none fun _ _ => .done .accepted)]⟩

def validator : DocumentValidator where
  schema := schema
  registry := registry
  resolved := by decide

def document : Mapping :=
  [("colour", .string "red"), ("enabled", .string "yes"),
    ("nodes", .sequence
      [.mapping [("name", .string "-app"), ("token", .string "t")], .mapping [], .null]),
    ("port", .float 1.5)]

theorem document_ordered : (Value.mapping document).Ordered := by
  simp only [document, Value.Ordered, Value.EntriesOrdered, Value.ItemsOrdered]
  decide

theorem five_errors_judged :
    (Value.mapping document).Ordered ∧
    (validator.checkStructure {} (.mapping document)).errors.length = 5 ∧
    (validator.checkStructure {} (.mapping document)).errors.Nodup ∧
    ∀ e, e ∈ (validator.checkStructure {} (.mapping document)).errors ↔
      Judged registry schema.fields document e := by
  have hgoing : (validator.checkStructure {} (.mapping document)).crashed = false := by
    decide
  obtain ⟨_, hjudged⟩ :=
    validator.structural_errors_exact {} document document_ordered rfl rfl
  obtain ⟨_, hnodup, hmem⟩ := hjudged hgoing
  exact ⟨document_ordered, by decide, hnodup, hmem⟩

end Sample

end SettingsCheck
