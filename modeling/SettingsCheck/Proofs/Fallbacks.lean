import SettingsCheck.Proofs.Judgement
import SettingsCheck.Proofs.RuleListing
import SettingsCheck.Proofs.Shapes

namespace SettingsCheck

namespace Walk

/-- What is done in the two branches. -/
structure Fallbacks where
  /-- At an array without a rule for its elements. -/
  elements : List Value → Mapping → FieldPath → Progress → Progress
  /-- At a custom type without a validator. -/
  validator : String → Site → Value → Progress → Progress

/-- What a walk does there. -/
def Fallbacks.usual (s : Setting) : Fallbacks where
  elements _ _ _ p := p
  validator name site _ p :=
    p.addError s.limit
      (.custom site.path name ("no validator registered for type '" ++ name ++ "'"))

def runCustomWith (f : Fallbacks) (s : Setting) (name : String) (site : Site) (value : Value)
    (p : Progress) : Progress :=
  if s.registry.has name then runCustom s name site value p else f.validator name site value p

mutual
/-- A walk that does something of its own in the two branches, and elsewhere what a walk does. -/
def matchValueWith (f : Fallbacks) (s : Setting) :
    Rule → Value → Mapping → FieldPath → Progress → Progress
  | ⟨fieldType, _, properties, items, _, _, _⟩, value, parent, path, p =>
    let mismatch := p.addError s.limit (.typeMismatch path (fieldType.mismatch value))
    if value.isNull then mismatch
    else match fieldType with
      | .object => match value.mapping? with
        | some mapping =>
          matchFieldsWith f s properties mapping path
            (addUnknown s (properties.map Prod.fst) path mapping.names p)
        | none => mismatch
      | .array => match value.sequence? with
        | some elements => matchElementsWith f s items elements parent path p
        | none => mismatch
      | .custom name => runCustomWith f s name ⟨s.root, parent, path⟩ value p
      | scalar => if scalar.accepts value then p else mismatch

def matchFieldsWith (f : Fallbacks) (s : Setting) :
    List (String × Rule) → Mapping → FieldPath → Progress → Progress
  | [], _, _, p => p
  | (name, rule) :: rest, mapping, path, p =>
    if p.stopped then p
    else
      let p := match mapping.get? name with
        | none =>
          if rule.requiredIn mapping && rule.validatedIn mapping then
            p.addError s.limit (.missingField (path.key name))
          else p
        | some value =>
          if rule.validatedIn mapping then
            matchValueWith f s rule value mapping (path.key name) p
          else p
      matchFieldsWith f s rest mapping path p

def matchElementsWith (f : Fallbacks) (s : Setting) :
    Option Rule → List Value → Mapping → FieldPath → Progress → Progress
  | none, elements, parent, path, p => f.elements elements parent path p
  | some rule, elements, parent, path, p =>
    eachElement (fun v path p => matchValueWith f s rule v parent path p) path 0 elements p
end

def walkFieldsWith (f : Fallbacks) (s : Setting) (rules : Rules) (mapping : Mapping)
    (path : FieldPath) (p : Progress) : Progress :=
  matchFieldsWith f s rules mapping path (addUnknown s (rules.map Prod.fst) path mapping.names p)

end Walk

/-- The check of a document with other branches in the walk. -/
def DocumentValidator.checkStructureWith (f : Walk.Fallbacks) (v : DocumentValidator)
    (options : Options) (document : Value) : StructuralOutcome :=
  match document.mapping? with
  | none => v.checkStructure options document
  | some mapping =>
    (Walk.walkFieldsWith f ⟨v.registry, document, options.limit⟩ v.schema.fields mapping .root
      {}).outcome

/-- The rule and what it contains are well shaped, and their custom types have validators. -/
structure Rule.Complete (registry : Registry) (rule : Rule) : Prop where
  resolved : rule.Resolved registry
  shaped : ∃ path, rule.checkShape path = .ok ()

namespace Rule.Complete

variable {registry : Registry} {rule : Rule}

theorem property (h : rule.Complete registry) {entry : String × Rule}
    (he : entry ∈ rule.properties) : entry.2.Complete registry := by
  obtain ⟨path, hshape⟩ := h.shaped
  obtain ⟨_, hproperties, _⟩ := checkShape_eq_ok_iff.mp hshape
  exact ⟨h.resolved.property he, _, (checkRules_eq_ok_iff.mp hproperties entry he).2⟩

theorem element (h : rule.Complete registry) {items : Rule} (hi : rule.items = some items) :
    items.Complete registry := by
  obtain ⟨path, hshape⟩ := h.shaped
  obtain ⟨_, _, hitems⟩ := checkShape_eq_ok_iff.mp hshape
  exact ⟨h.resolved.element hi, _, (hitems items hi).2⟩

theorem exists_items (h : rule.Complete registry) (ht : rule.fieldType = .array) :
    ∃ items, rule.items = some items := by
  obtain ⟨path, hshape⟩ := h.shaped
  obtain ⟨hparts, _, _⟩ := checkShape_eq_ok_iff.mp hshape
  rw [Rule.HasItsParts, ht] at hparts
  exact Option.ne_none_iff_exists'.mp hparts.2

end Rule.Complete

namespace Walk

variable {f : Fallbacks} {s : Setting}

theorem runCustomWith_eq {name : String} {site : Site} {value : Value} {p : Progress}
    (h : f = .usual s ∨ s.registry.has name = true) :
    runCustomWith f s name site value p = runCustom s name site value p := by
  unfold runCustomWith
  by_cases hhas : s.registry.has name = true
  · rw [if_pos hhas]
  · have hf : f = .usual s := h.resolve_right hhas
    have hnone : s.registry.get? name = none := by
      simpa [Registry.has, Registry.get?, Fields.has] using hhas
    rw [if_neg hhas, hf, runCustom, hnone]
    rfl

mutual
/-- The branches make no difference if they are the usual ones, or if no rule leads there. -/
theorem matchValueWith_eq : ∀ (rule : Rule) (value : Value) (parent : Mapping) (path : FieldPath)
    (p : Progress), f = .usual s ∨ rule.Complete s.registry →
    matchValueWith f s rule value parent path p = matchValue s rule value parent path p
  | ⟨fieldType, required, properties, items, rw, vw, d⟩, value, parent, path, p, h => by
    unfold matchValueWith matchValue
    by_cases hn : value.isNull = true
    · simp only [hn, if_true]
    · simp only [hn, Bool.false_eq_true, if_false]
      cases fieldType with
      | object =>
        cases value.mapping? with
        | none => rfl
        | some mapping =>
          exact matchFieldsWith_eq properties mapping path _
            (h.imp_right fun hc _ he => hc.property he)
      | array =>
        cases value.sequence? with
        | none => rfl
        | some elements =>
          refine matchElementsWith_eq items elements parent path p (h.imp_right fun hc => ?_)
          obtain ⟨rule, hi⟩ := hc.exists_items rfl
          exact ⟨rule, hi, hc.element hi⟩
      | custom name => exact runCustomWith_eq (h.imp_right fun hc => hc.resolved.has rfl)
      | _ => rfl

theorem matchFieldsWith_eq : ∀ (rules : List (String × Rule)) (mapping : Mapping)
    (path : FieldPath) (p : Progress),
    f = .usual s ∨ (∀ entry ∈ rules, entry.2.Complete s.registry) →
    matchFieldsWith f s rules mapping path p = matchFields s rules mapping path p
  | [], _, _, _, _ => rfl
  | (name, rule) :: rest, mapping, path, p, h => by
    have hrule := h.imp_right fun hc => hc _ List.mem_cons_self
    have hrest := h.imp_right fun hc entry he => hc entry (List.mem_cons_of_mem _ he)
    unfold matchFieldsWith matchFields
    by_cases hstop : p.stopped = true
    · rw [if_pos hstop, if_pos hstop]
    · rw [if_neg hstop, if_neg hstop]
      cases mapping.get? name with
      | none => exact matchFieldsWith_eq rest mapping path _ hrest
      | some value =>
        have hvalue := matchValueWith_eq rule value mapping (path.key name) p hrule
        dsimp only
        rw [hvalue, matchFieldsWith_eq rest mapping path _ hrest]

theorem matchElementsWith_eq : ∀ (items : Option Rule) (elements : List Value) (parent : Mapping)
    (path : FieldPath) (p : Progress),
    f = .usual s ∨ (∃ rule, items = some rule ∧ rule.Complete s.registry) →
    matchElementsWith f s items elements parent path p =
      matchElements s items elements parent path p
  | none, elements, parent, path, p, h => by
    -- a complete array has a rule for its elements, so only the usual branch is left
    rcases h with rfl | ⟨_, hi, _⟩
    · rfl
    · cases hi
  | some rule, elements, parent, path, p, h => by
    have hrule : f = .usual s ∨ rule.Complete s.registry := by
      rcases h with hf | ⟨_, hi, hc⟩
      · exact .inl hf
      · cases hi
        exact .inr hc
    unfold matchElementsWith matchElements
    congr 1
    funext v path p
    exact matchValueWith_eq rule v parent path p hrule
end

theorem walkFieldsWith_eq {rules : Rules} (mapping : Mapping) (path : FieldPath) (p : Progress)
    (h : f = .usual s ∨ ∀ entry ∈ rules, entry.2.Complete s.registry) :
    walkFieldsWith f s rules mapping path p = walkFields s rules mapping path p :=
  matchFieldsWith_eq rules mapping path _ h

end Walk

namespace DocumentValidator

variable {schema : Schema} {registry : Registry}

theorem complete_of_mem_fields (v : DocumentValidator) {entry : String × Rule}
    (he : entry ∈ v.schema.fields) : entry.2.Complete v.registry :=
  ⟨resolved_of_mem_fields he, _, (checkRules_eq_ok_iff.mp v.schema.wellShaped entry he).2⟩

theorem checkStructureWith_eq (f : Walk.Fallbacks) (v : DocumentValidator) (options : Options)
    (document : Value) :
    v.checkStructureWith f options document = v.checkStructure options document := by
  unfold checkStructureWith checkStructure
  cases hm : document.mapping? with
  | none => rfl
  | some mapping =>
    have hwalk := Walk.walkFieldsWith_eq (f := f) (s := ⟨v.registry, document, options.limit⟩)
      mapping .root {} (.inr fun _ he => v.complete_of_mem_fields he)
    exact congrArg Walk.Progress.outcome hwalk

/-- A schema is turned down for the first custom type without a validator, in the order in which
they are listed. -/
theorem ofSchema_eq_error_iff {e : SchemaError} :
    ofSchema schema registry = .error e ↔ ∃ before path name after,
      schema.customTypes = before ++ (path, name) :: after ∧
      (∀ use ∈ before, registry.has use.2 = true) ∧ registry.has name = false ∧
      e = .unknownValidator path name := by
  unfold ofSchema
  constructor
  · intro h
    split at h
    next path name hfind =>
      obtain ⟨hmissing, before, after, hsplit, hbefore⟩ := List.find?_eq_some_iff_append.mp hfind
      cases h
      exact ⟨before, path, name, after, hsplit, by simpa using hbefore, by simpa using hmissing,
        rfl⟩
    next => cases h
  · rintro ⟨before, path, name, after, hsplit, hbefore, hmissing, rfl⟩
    have hfind : (schema.customTypes.find? fun use => !registry.has use.2) = some (path, name) :=
      List.find?_eq_some_iff_append.mpr
        ⟨by simpa using hmissing, before, after, hsplit, by simpa using hbefore⟩
    split
    next path' name' hfind' =>
      rw [hfind] at hfind'
      cases hfind'
      rfl
    next hnone =>
      rw [hfind] at hnone
      cases hnone

theorem ofSchema_eq_ok_iff {v : DocumentValidator} :
    ofSchema schema registry = .ok v ↔ v.schema = schema ∧ v.registry = registry := by
  unfold ofSchema
  constructor
  · intro h
    split at h
    next => cases h
    next =>
      cases h
      exact ⟨rfl, rfl⟩
  · rintro ⟨rfl, rfl⟩
    split
    next path name hfind =>
      have hmissing := List.find?_some hfind
      have hhas := v.resolved _ (List.mem_of_find?_eq_some hfind)
      simp [hhas] at hmissing
    next => rfl

end DocumentValidator

/-- The custom types of a schema are those of the listed rules, in the order of the listing. -/
theorem Schema.customTypes_eq (schema : Schema) :
    schema.customTypes = ((listing schema.fields).filter fun s => s.rule.fieldType.isCustom).map
      fun s => (placeText s.steps, s.rule.fieldType.name) := by
  unfold customTypes
  rw [← map_told_listing, List.filterMap_map, ← List.filterMap_eq_map', List.filterMap_filter]
  apply List.filterMap_congr
  intro s _
  simp only [Function.comp_apply, Standing.told]
  cases s.rule.fieldType <;> rfl

/-- A validator that was built never leads a walk to one of the two branches: whatever they did, the
check of a document would be the same. A schema is turned down only for a custom type without a
validator, the first in a list that has the rule of every custom type once. -/
theorem fallbacks_never_reached (schema : Schema) (registry : Registry) :
    (∀ s rules mapping path p, Walk.walkFieldsWith (.usual s) s rules mapping path p =
      Walk.walkFields s rules mapping path p) ∧
    (∀ v, DocumentValidator.ofSchema schema registry = .ok v →
      v.schema = schema ∧ v.registry = registry ∧ ∀ f options document,
        v.checkStructureWith f options document = v.checkStructure options document) ∧
    (∀ e, DocumentValidator.ofSchema schema registry = .error e ↔ ∃ before path name after,
      schema.customTypes = before ++ (path, name) :: after ∧
      (∀ use ∈ before, registry.has use.2 = true) ∧ registry.has name = false ∧
      e = .unknownValidator path name) ∧
    ∃ uses : List Standing,
      schema.customTypes = uses.map (fun s => (placeText s.steps, s.rule.fieldType.name)) ∧
      (uses.map Standing.steps).Nodup ∧
      ∀ s, s ∈ uses ↔ Stands schema.fields s.steps s.siblings s.rule ∧
        ∃ name, s.rule.fieldType = .custom name := by
  refine ⟨fun s rules mapping path p => Walk.walkFieldsWith_eq mapping path p (.inl rfl), ?_,
    fun e => DocumentValidator.ofSchema_eq_error_iff, ?_⟩
  · intro v hv
    obtain ⟨hschema, hregistry⟩ := DocumentValidator.ofSchema_eq_ok_iff.mp hv
    exact ⟨hschema, hregistry, fun f options document =>
      v.checkStructureWith_eq f options document⟩
  · refine ⟨_, schema.customTypes_eq, ?_, fun s => ?_⟩
    · exact (nodup_listing schema.ordered).sublist (List.filter_sublist.map _)
    · have hcustom : s.rule.fieldType.isCustom = true ↔
          ∃ name, s.rule.fieldType = .custom name := by
        cases s.rule.fieldType <;> simp [FieldType.isCustom]
      rw [List.mem_filter, mem_listing_iff, hcustom]

namespace Sample

def silent : Walk.Fallbacks where
  elements _ _ _ p := p
  validator _ _ _ p := p

/-- Silence in the two branches changes nothing for the nodes; without the check of their tokens
there is no validator for the schema. -/
theorem nodes_never_fall_back :
    DocumentValidator.ofSchema schema registry = .ok validator ∧
    validator.checkStructureWith silent {} (.mapping document) =
      validator.checkStructure {} (.mapping document) ∧
    (∃ uses : List Standing, schema.customTypes =
      uses.map (fun s => (placeText s.steps, s.rule.fieldType.name)) ∧ uses.length = 2) ∧
    DocumentValidator.ofSchema schema ⟨[("subdomain", .immediate Builtin.subdomain)]⟩ =
      .error (.unknownValidator "nodes[].token" "token") := by
  have hbuilt : DocumentValidator.ofSchema schema registry = .ok validator :=
    DocumentValidator.ofSchema_eq_ok_iff.mpr ⟨rfl, rfl⟩
  have htypes : schema.customTypes =
      [("nodes[].name", "subdomain")] ++ ("nodes[].token", "token") :: [] := by decide
  obtain ⟨_, hsame, _, uses, huses, _⟩ := fallbacks_never_reached schema registry
  obtain ⟨_, _, hsame⟩ := hsame validator hbuilt
  have hlength : uses.length = 2 := by simpa [htypes] using (congrArg List.length huses).symm
  obtain ⟨_, _, hrefused, _⟩ :=
    fallbacks_never_reached schema ⟨[("subdomain", .immediate Builtin.subdomain)]⟩
  refine ⟨hbuilt, hsame silent {} _, ⟨uses, huses, hlength⟩, (hrefused _).mpr ?_⟩
  exact ⟨_, _, _, _, htypes, by decide, by decide, rfl⟩

end Sample

end SettingsCheck
