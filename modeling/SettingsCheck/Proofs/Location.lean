import SettingsCheck.Proofs.Judgement

namespace SettingsCheck

/-- The entry or element that a step leads to. -/
def Value.child? : Value → Step → Option Value
  | .mapping entries, .key name => Fields.get? name entries
  | .sequence items, .index i => items[i]?
  | _, _ => none

/-- The value that a path leads to. -/
def Value.at? (v : Value) (path : FieldPath) : Option Value := path.steps.foldlM Value.child? v

def Rule.child? (rule : Rule) : Step → Option Rule
  | .key name => Fields.get? name rule.properties
  | .index _ => rule.items

/-- The rule for what a path leads to; for the root it has the top-level fields as properties. -/
def Schema.ruleAt? (schema : Schema) (path : FieldPath) : Option Rule :=
  path.steps.foldlM Rule.child? (.object schema.fields)

theorem Value.at?_key (v : Value) (path : FieldPath) (name : String) :
    v.at? (path.key name) = (v.at? path).bind fun node => node.child? (.key name) := by
  simp [at?, FieldPath.key, List.foldlM_append, Option.bind_eq_bind]

theorem Value.at?_index (v : Value) (path : FieldPath) (i : Nat) :
    v.at? (path.index i) = (v.at? path).bind fun node => node.child? (.index i) := by
  simp [at?, FieldPath.index, List.foldlM_append]

theorem Schema.ruleAt?_key (schema : Schema) (path : FieldPath) (name : String) :
    schema.ruleAt? (path.key name) =
      (schema.ruleAt? path).bind fun rule => rule.child? (.key name) := by
  simp [ruleAt?, FieldPath.key, List.foldlM_append]

theorem Schema.ruleAt?_index (schema : Schema) (path : FieldPath) (i : Nat) :
    schema.ruleAt? (path.index i) =
      (schema.ruleAt? path).bind fun rule => rule.child? (.index i) := by
  simp [ruleAt?, FieldPath.index, List.foldlM_append]

theorem Rule.ordered_iff {rule : Rule} :
    rule.Ordered ↔ Fields.Ordered rule.properties ∧ FieldsOrdered rule.properties ∧
      Rule.ItemsOrdered rule.items := by
  obtain ⟨_, _, _, _, _, _, _⟩ := rule
  rfl

section Checked

variable {schema : Schema} {document : Mapping}

mutual
theorem ordered_of_checkedMapping : ∀ {rules : Rules} {mapping : Mapping} {path : FieldPath},
    CheckedMapping schema.fields document rules mapping path →
    rules.Ordered ∧ Rule.FieldsOrdered rules
  | _, _, _, .root => schema.ordered
  | _, _, _, .object hn _ =>
    have ho := Rule.ordered_iff.mp (ordered_of_checkedNode hn)
    ⟨ho.1, ho.2.1⟩

theorem ordered_of_checkedNode : ∀ {rule : Rule} {value : Value} {parent : Mapping}
    {path : FieldPath}, CheckedNode schema.fields document rule value parent path → rule.Ordered
  | _, _, _, _, .field hm hr _ _ =>
    Rule.fieldsOrdered_iff.mp (ordered_of_checkedMapping hm).2 _ hr
  | _, _, _, _, .element hn _ hi _ => by
    have ho := (Rule.ordered_iff.mp (ordered_of_checkedNode hn)).2.2
    rwa [hi] at ho
end

mutual
theorem at?_of_checkedMapping : ∀ {rules : Rules} {mapping : Mapping} {path : FieldPath},
    CheckedMapping schema.fields document rules mapping path →
    (Value.mapping document).at? path = some (.mapping mapping) ∧
      ∃ rule, schema.ruleAt? path = some rule ∧ rule.properties = rules
  | _, _, _, .root => ⟨rfl, _, rfl, rfl⟩
  | _, _, _, .object hn _ =>
    have hat := at?_of_checkedNode hn
    ⟨hat.1, _, hat.2, rfl⟩

theorem at?_of_checkedNode : ∀ {rule : Rule} {value : Value} {parent : Mapping}
    {path : FieldPath}, CheckedNode schema.fields document rule value parent path →
    (Value.mapping document).at? path = some value ∧ schema.ruleAt? path = some rule
  | _, _, _, _, .field hm hr hv _ => by
    obtain ⟨hat, above, hrule, rfl⟩ := at?_of_checkedMapping hm
    have hget := Fields.get?_of_mem (ordered_of_checkedMapping hm).1 hr
    rw [Value.at?_key, Schema.ruleAt?_key, hat, hrule]
    exact ⟨hv, hget⟩
  | _, _, _, _, .element hn _ hi hv => by
    obtain ⟨hat, hrule⟩ := at?_of_checkedNode hn
    rw [Value.at?_index, Schema.ruleAt?_index, hat, hrule]
    exact ⟨hv, hi⟩
end

/-- The path leads through the document, at least up to its last step. -/
def Leads (root : Value) (path : FieldPath) : Prop :=
  ∃ above step node, path.steps = above.steps ++ [step] ∧ root.at? above = some node

theorem leads_key {root node : Value} {path : FieldPath} (h : root.at? path = some node)
    (name : String) : Leads root (path.key name) :=
  ⟨path, .key name, node, rfl, h⟩

theorem leads_of_checkedNode {rule : Rule} {value : Value} {parent : Mapping} {path : FieldPath}
    (h : CheckedNode schema.fields document rule value parent path) :
    Leads (.mapping document) path := by
  cases h with
  | field hm _ _ _ => exact leads_key (at?_of_checkedMapping hm).1 _
  | element hn _ _ _ => exact ⟨_, .index _, _, rfl, (at?_of_checkedNode hn).1⟩

end Checked

/-- An error that holds of the node at its path, by the rule that the path leads to. -/
inductive Located (v : DocumentValidator) (document : Mapping) : ValidationError → Prop
  | unknown {path : FieldPath} {name : String} {value : Value} {rule : Rule} :
    (Value.mapping document).at? (path.key name) = some value →
    v.schema.ruleAt? path = some rule → name ∉ Fields.names rule.properties →
    Located v document (.unknownField (path.key name))
  | missing {path : FieldPath} {name : String} {mapping : Mapping} {rule : Rule} :
    (Value.mapping document).at? path = some (.mapping mapping) → mapping.get? name = none →
    v.schema.ruleAt? path = some rule → name ∈ Fields.names rule.properties →
    Located v document (.missingField (path.key name))
  | mistyped {path : FieldPath} {value : Value} {rule : Rule} :
    (Value.mapping document).at? path = some value →
    v.schema.ruleAt? path = some rule → ¬HasType rule.fieldType value →
    Located v document (.typeMismatch path (rule.fieldType.mismatch value))
  | refused {path : FieldPath} {value : Value} {rule : Rule} {name reason : String}
      {validator : Validator} {parent : Mapping} :
    (Value.mapping document).at? path = some value →
    v.schema.ruleAt? path = some rule → rule.fieldType = .custom name →
    Consults v.registry name validator →
    (validator ⟨.mapping document, parent, path⟩ value).verdict = .refused reason →
    Located v document (.custom path name reason)

namespace DocumentValidator

variable {v : DocumentValidator} {document : Mapping}

theorem occurs_of_mem_events {limit : Nat} {event : Event}
    (h : event ∈ v.events document limit) :
    Occurs v.registry v.schema.fields document (.event event) := by
  have hheard : event ∈ Walk.heard (v.trace document) := (Walk.cut_isPrefix _ _ _).subset h
  exact mem_trace_iff.mp ((Walk.heard_isPrefix _).subset (List.mem_map_of_mem hheard))

/-- Warnings and queued checks come from validators of checked nodes. -/
theorem occurs_at_custom {event : Event}
    (h : Occurs v.registry v.schema.fields document (.event event)) (he : event.error? = none) :
    ∃ rule value parent path name,
      CheckedNode v.schema.fields document rule value parent path ∧
      rule.fieldType = .custom name ∧ value ≠ .null ∧
      .event event ∈ Walk.customTrace v.registry name ⟨.mapping document, parent, path⟩ value := by
  cases h with
  | unknown _ hu =>
    obtain ⟨_, _, _, heq⟩ := Walk.mem_unknownTrace.mp hu
    cases heq
    cases he
  | absent _ _ _ ha =>
    obtain ⟨_, _, heq⟩ := Walk.mem_absenceTrace.mp ha
    cases heq
    cases he
  | node hn hm =>
    rcases Walk.mem_nodeTrace.mp hm with ⟨_, heq⟩ | ⟨name, hc, hv, hm⟩
    · cases heq
      cases he
    · exact ⟨_, _, _, _, name, hn, hc, hv, hm⟩

theorem located_of_judged {e : ValidationError}
    (h : Judged v.registry v.schema.fields document e) :
    Located v document e ∧ Leads (.mapping document) e.path := by
  cases h with
  | @unknown rules mapping path name hm hn hr =>
    obtain ⟨hat, rule, hrule, rfl⟩ := at?_of_checkedMapping hm
    have hsome : mapping.get? name ≠ none := fun hnone => Fields.get?_eq_none_iff.mp hnone hn
    obtain ⟨value, hv⟩ := Option.ne_none_iff_exists'.mp hsome
    have hentry : (Value.mapping document).at? (path.key name) = some value := by
      rw [Value.at?_key, hat]
      exact hv
    exact ⟨.unknown hentry hrule hr, leads_key hat name⟩
  | missing hm hr hn _ _ =>
    obtain ⟨hat, rule, hrule, rfl⟩ := at?_of_checkedMapping hm
    exact ⟨.missing hat (Fields.get?_eq_none_iff.mpr hn) hrule (List.mem_map_of_mem hr),
      leads_key hat _⟩
  | mistyped hn ht =>
    obtain ⟨hat, hrule⟩ := at?_of_checkedNode hn
    exact ⟨.mistyped hat hrule ht, leads_of_checkedNode hn⟩
  | refused hn hc _ hcons href =>
    obtain ⟨hat, hrule⟩ := at?_of_checkedNode hn
    exact ⟨.refused hat hrule hc hcons href, leads_of_checkedNode hn⟩

theorem located_warning {w : Warning}
    (h : Occurs v.registry v.schema.fields document (.event (.warning w))) :
    (∃ value, (Value.mapping document).at? w.path = some value) ∧
      Leads (.mapping document) w.path := by
  obtain ⟨_, _, _, _, _, hn, _, _, hm⟩ := occurs_at_custom h rfl
  obtain ⟨_, _, _, _, rfl⟩ := Walk.warning_mem_customTrace.mp hm
  exact ⟨⟨_, (at?_of_checkedNode hn).1⟩, leads_of_checkedNode hn⟩

theorem located_queued {c : PendingCheck}
    (h : Occurs v.registry v.schema.fields document (.event (.queued c))) :
    (Value.mapping document).at? c.site.path = some c.value ∧
      Leads (.mapping document) c.site.path := by
  obtain ⟨_, _, _, _, _, hn, _, _, hm⟩ := occurs_at_custom h rfl
  obtain ⟨_, _, _, _, rfl⟩ := Walk.queued_mem_customTrace.mp hm
  exact ⟨(at?_of_checkedNode hn).1, leads_of_checkedNode hn⟩

/-- Whatever a structural check finds, its path leads to the node that the finding is about, and no
two errors and queued checks have one path. -/
theorem findings_at_their_nodes (v : DocumentValidator) (options : Options) (document : Mapping)
    (hd : (Value.mapping document).Ordered) :
    let s := v.checkStructure options (.mapping document)
    let root := Value.mapping document
    (∀ e ∈ s.errors, Located v document e ∧ Leads root e.path) ∧
    (∀ w ∈ s.warnings, (∃ value, root.at? w.path = some value) ∧ Leads root w.path) ∧
    (∀ c ∈ s.pending, root.at? c.site.path = some c.value ∧ Leads root c.site.path) ∧
    (s.errors.map ValidationError.path ++ s.pending.map fun c => c.site.path).Nodup := by
  intro s root
  have hs := v.checkStructure_mapping document options
  simp only [s, hs]
  refine ⟨fun e he => ?_, fun w hw => ?_, fun c hc => ?_, v.nodup_paths hd options.limit⟩
  · exact located_of_judged (occurs_error_iff.mp
      (occurs_of_mem_events (Event.mem_filterMap_error?.mp he)))
  · exact located_warning (occurs_of_mem_events (Event.mem_filterMap_warning?.mp hw))
  · exact located_queued (occurs_of_mem_events (Event.mem_filterMap_queued?.mp hc))

end DocumentValidator

namespace Sample

theorem five_errors_located :
    let s := validator.checkStructure {} (.mapping document)
    (Value.mapping document).Ordered ∧ s.errors.length = 5 ∧ s.pending.length = 1 ∧
    (∀ e ∈ s.errors, Located validator document e ∧ Leads (.mapping document) e.path) ∧
    (∀ c ∈ s.pending, (Value.mapping document).at? c.site.path = some c.value) ∧
    (s.errors.map ValidationError.path ++ s.pending.map fun c => c.site.path).Nodup := by
  intro s
  obtain ⟨herrors, _, hpending, hnodup⟩ :=
    DocumentValidator.findings_at_their_nodes validator {} document document_ordered
  exact ⟨document_ordered, by decide, by decide, herrors,
    fun c hc => (hpending c hc).1, hnodup⟩

end Sample

end SettingsCheck
