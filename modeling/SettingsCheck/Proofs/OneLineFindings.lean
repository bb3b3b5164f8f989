import SettingsCheck.Proofs.Boundary
import SettingsCheck.Proofs.BuiltinMessages
import SettingsCheck.Proofs.Limits

namespace SettingsCheck

open Text (Unbroken)

theorem Text.unbroken_join {parts : List String} (h : ∀ part ∈ parts, Unbroken part) :
    Unbroken (String.join parts) := by
  rw [Unbroken, String.toList_join, List.mem_flatMap]
  rintro ⟨part, hpart, hmem⟩
  exact h part hpart hmem

namespace FieldPath

variable {path : FieldPath} {name : String}

/-- No name on the path has a line feed. -/
def Unbroken (path : FieldPath) : Prop := ∀ name, Step.key name ∈ path.steps → Text.Unbroken name

theorem unbroken_root : root.Unbroken := nofun

theorem Unbroken.key (h : path.Unbroken) (hname : Text.Unbroken name) :
    (path.key name).Unbroken := by
  intro other hother
  rcases List.mem_append.mp hother with hmem | hlast
  · exact h other hmem
  · cases List.mem_singleton.mp hlast
    exact hname

theorem Unbroken.index (h : path.Unbroken) (i : Nat) : (path.index i).Unbroken := by
  intro other hother
  rcases List.mem_append.mp hother with hmem | hlast
  · exact h other hmem
  · cases List.mem_singleton.mp hlast

theorem Unbroken.fieldName (h : path.Unbroken) (hname : path.fieldName? = some name) :
    Text.Unbroken name := by
  obtain ⟨step, hstep, heq⟩ := List.exists_of_findSome?_eq_some hname
  cases step with
  | key other =>
    cases heq
    exact h name (List.mem_reverse.mp hstep)
  | index i => cases heq

theorem Unbroken.text (h : path.Unbroken) : Text.Unbroken path.text := by
  have hlater : ∀ step ∈ path.steps, Text.Unbroken (laterStep step) := by
    intro step hstep
    cases step with
    | key name => exact (h name hstep).prepend rfl
    | index i =>
      exact (Text.unbroken_toString i).between rfl rfl
  unfold FieldPath.text
  split
  next => decide
  next first rest hsteps =>
    rw [hsteps] at hlater
    obtain ⟨hfirst, hrest⟩ := List.forall_mem_cons.mp hlater
    have hstart : Text.Unbroken (firstStep first) := by
      cases first with
      | key name => exact h name (hsteps ▸ List.mem_cons_self)
      | index i => exact hfirst
    refine hstart.append (Text.unbroken_join ?_)
    exact List.forall_mem_map.mpr hrest

end FieldPath

namespace ValidationError

variable {path : FieldPath} {name message : String}

theorem unbroken_text (hpath : path.Unbroken) {e : ValidationError} (he : e.path = path)
    (h : Unbroken e.message) : Unbroken e.text := by
  rw [text, he]
  exact (hpath.text.append (.literal rfl)).append h

theorem unbroken_unknownField (h : path.Unbroken) : Unbroken (unknownField path).text := by
  refine unbroken_text h rfl ?_
  unfold unknownField
  cases hname : path.fieldName? with
  | none => exact (.literal rfl : Unbroken "unknown field")
  | some name => exact (h.fieldName hname).between rfl rfl

theorem unbroken_missingField (h : path.Unbroken) : Unbroken (missingField path).text := by
  refine unbroken_text h rfl ?_
  unfold missingField
  cases hname : path.fieldName? with
  | none => exact (.literal rfl : Unbroken "required field is missing")
  | some name => exact (h.fieldName hname).between rfl rfl

end ValidationError

namespace Rule

mutual
/-- No name of a field has a line feed, at any depth. -/
def Unbroken : Rule → Prop
  | ⟨_, _, ps, items, _, _, _⟩ => FieldsUnbroken ps ∧ ItemsUnbroken items

def FieldsUnbroken : List (String × Rule) → Prop
  | [] => True
  | (name, rule) :: rest => Text.Unbroken name ∧ rule.Unbroken ∧ FieldsUnbroken rest

def ItemsUnbroken : Option Rule → Prop
  | none => True
  | some rule => rule.Unbroken
end

theorem fieldsUnbroken_iff {ps : List (String × Rule)} :
    FieldsUnbroken ps ↔ ∀ entry ∈ ps, Text.Unbroken entry.1 ∧ entry.2.Unbroken := by
  induction ps with
  | nil => simp [FieldsUnbroken]
  | cons entry rest ih => simp [FieldsUnbroken, ih, and_assoc]

theorem unbroken_iff {rule : Rule} :
    rule.Unbroken ↔ FieldsUnbroken rule.properties ∧ ItemsUnbroken rule.items := by
  obtain ⟨_, _, _, _, _, _, _⟩ := rule
  rfl

end Rule

section Checked

variable {schema : Rules} {document : Mapping}

mutual
/-- What a walk comes to has no line feeds if schema and document have none. -/
theorem unbroken_of_checkedMapping (hs : Rule.FieldsUnbroken schema)
    (hd : (Value.mapping document).Unbroken) : ∀ {rules : Rules} {mapping : Mapping}
    {path : FieldPath}, CheckedMapping schema document rules mapping path →
    Rule.FieldsUnbroken rules ∧ (Value.mapping mapping).Unbroken ∧ path.Unbroken
  | _, _, _, .root => ⟨hs, hd, FieldPath.unbroken_root⟩
  | _, _, _, .object hn _ =>
    have hnode := unbroken_of_checkedNode hs hd hn
    ⟨(Rule.unbroken_iff.mp hnode.1).1, hnode.2⟩

theorem unbroken_of_checkedNode (hs : Rule.FieldsUnbroken schema)
    (hd : (Value.mapping document).Unbroken) : ∀ {rule : Rule} {value : Value} {parent : Mapping}
    {path : FieldPath}, CheckedNode schema document rule value parent path →
    rule.Unbroken ∧ value.Unbroken ∧ path.Unbroken
  | _, _, _, _, .field hm hr hv _ => by
    obtain ⟨hrules, hmapping, hpath⟩ := unbroken_of_checkedMapping hs hd hm
    obtain ⟨hname, hrule⟩ := Rule.fieldsUnbroken_iff.mp hrules _ hr
    have hvalue := Value.entriesUnbroken_iff.mp hmapping _ (Fields.mem_of_get? hv)
    exact ⟨hrule, hvalue.2, hpath.key hname⟩
  | _, _, _, _, .element hn _ hi hv => by
    obtain ⟨hrule, hvalue, hpath⟩ := unbroken_of_checkedNode hs hd hn
    have hitems := (Rule.unbroken_iff.mp hrule).2
    rw [hi] at hitems
    exact ⟨hitems, Value.itemsUnbroken_iff.mp hvalue _ (List.mem_of_getElem? hv), hpath.index _⟩
end

end Checked

namespace Registry

variable {surroundings : Surroundings} {name : String}

theorem unbroken_of_has (h : (withBuiltins surroundings).has name = true) : Unbroken name := by
  obtain ⟨check, hcheck⟩ := Option.isSome_iff_exists.mp h
  obtain ⟨entry, he, rfl, _⟩ := mem_builtins_of_get? surroundings hcheck
  simp only [builtins, List.mem_cons, List.not_mem_nil, or_false] at he
  rcases he with rfl | rfl | rfl | rfl | rfl | rfl | rfl | rfl | rfl | rfl <;>
    exact .literal rfl

theorem oneLine_of_consults (hz : Unbroken surroundings.zoneinfo) {validator : Validator}
    (h : Consults (withBuiltins surroundings) name validator) (site : Site) {value : Value}
    (hv : value.Unbroken) : (validator site value).OneLine := by
  rcases h with hget | ⟨dialogue, hget⟩
  · obtain ⟨entry, he, _, heq⟩ := mem_builtins_of_get? surroundings hget
    cases heq
    exact oneLine_of_mem_builtins hz he site hv
  · obtain ⟨entry, _, _, heq⟩ := mem_builtins_of_get? surroundings hget
    cases heq

end Registry

namespace DocumentValidator

variable {v : DocumentValidator} {document : Mapping} {surroundings : Surroundings}

theorem unbroken_of_judged (hv : v.registry = Registry.withBuiltins surroundings)
    (hz : Unbroken surroundings.zoneinfo) (hs : Rule.FieldsUnbroken v.schema.fields)
    (hd : (Value.mapping document).Unbroken) {e : ValidationError}
    (h : Judged v.registry v.schema.fields document e) : Unbroken e.text := by
  cases h with
  | unknown hm hn hr =>
    obtain ⟨_, hmapping, hpath⟩ := unbroken_of_checkedMapping hs hd hm
    obtain ⟨entry, he, rfl⟩ := List.mem_map.mp hn
    have hname := (Value.entriesUnbroken_iff.mp hmapping entry he).1
    exact ValidationError.unbroken_unknownField (hpath.key hname)
  | missing hm hr _ _ _ =>
    obtain ⟨hrules, _, hpath⟩ := unbroken_of_checkedMapping hs hd hm
    have hname := (Rule.fieldsUnbroken_iff.mp hrules _ hr).1
    exact ValidationError.unbroken_missingField (hpath.key hname)
  | mistyped hn ht =>
    obtain ⟨_, hvalue, hpath⟩ := unbroken_of_checkedNode hs hd hn
    refine ValidationError.unbroken_text hpath rfl (FieldType.unbroken_mismatch ?_ hvalue)
    intro name hc
    have hhas := (resolved_of_checkedNode hn).has hc
    rw [hv] at hhas
    exact Registry.unbroken_of_has hhas
  | refused hn hc hnull hcons href =>
    obtain ⟨_, hvalue, hpath⟩ := unbroken_of_checkedNode hs hd hn
    rw [hv] at hcons
    have hreason := (Registry.oneLine_of_consults hz hcons _ hvalue).1 _ href
    exact ValidationError.unbroken_text hpath rfl hreason

theorem unbroken_of_warning (hv : v.registry = Registry.withBuiltins surroundings)
    (hz : Unbroken surroundings.zoneinfo) (hs : Rule.FieldsUnbroken v.schema.fields)
    (hd : (Value.mapping document).Unbroken) {w : Warning}
    (h : Occurs v.registry v.schema.fields document (.event (.warning w))) : Unbroken w.text := by
  obtain ⟨_, _, _, _, _, hn, _, _, hm⟩ := occurs_at_custom h rfl
  obtain ⟨_, hvalue, hpath⟩ := unbroken_of_checkedNode hs hd hn
  obtain ⟨validator, hcons, message, hmessage, rfl⟩ := Walk.warning_mem_customTrace.mp hm
  rw [hv] at hcons
  have hshown := (Registry.oneLine_of_consults hz hcons _ hvalue).2 message hmessage
  exact (hpath.text.append (.literal rfl)).append hshown

/-- Whatever a walk finds is on one line, and it leaves nothing to be run. -/
theorem unbroken_checkStructure (hv : v.registry = Registry.withBuiltins surroundings)
    (hz : Unbroken surroundings.zoneinfo) (hs : Rule.FieldsUnbroken v.schema.fields)
    (options : Options) {root : Value} (hd : root.Unbroken) :
    let s := v.checkStructure options root
    (∀ e ∈ s.errors, Unbroken e.text) ∧ (∀ w ∈ s.warnings, Unbroken w.text) ∧ s.pending = [] := by
  intro s
  cases root with
  | mapping document =>
    have hstructure := v.checkStructure_mapping document options
    simp only [s, hstructure]
    refine ⟨fun e he => ?_, fun w hw => ?_, ?_⟩
    · exact unbroken_of_judged hv hz hs hd (occurs_error_iff.mp
        (occurs_of_mem_events (Event.mem_filterMap_error?.mp he)))
    · exact unbroken_of_warning hv hz hs hd
        (occurs_of_mem_events (Event.mem_filterMap_warning?.mp hw))
    · refine List.eq_nil_iff_forall_not_mem.mpr fun c hc => ?_
      have hqueued := occurs_of_mem_events (Event.mem_filterMap_queued?.mp hc)
      obtain ⟨_, _, _, _, _, _, _, _, hm⟩ := occurs_at_custom hqueued rfl
      obtain ⟨precheck, dialogue, hget, _, _⟩ := Walk.queued_mem_customTrace.mp hm
      rw [hv] at hget
      obtain ⟨_, _, _, heq⟩ := Registry.mem_builtins_of_get? surroundings hget
      cases heq
  | _ =>
    refine ⟨List.forall_mem_singleton.mpr ?_, nofun, rfl⟩
    refine ValidationError.unbroken_text FieldPath.unbroken_root rfl ?_
    exact (Value.unbroken_kind _).prepend rfl

end DocumentValidator

theorem StructuralOutcome.report_of_no_pending {s : StructuralOutcome} (h : s.pending = [])
    (options : Options) (complete : PendingCheck → CheckRun.Completion)
    (cancel : CheckRun.Cancellation) :
    s.report options complete cancel = s.conclude options {} := by
  have hrun : s.toRun options = [] := by
    unfold toRun
    split
    · rfl
    · exact h
  have hchecks : s.checks options complete = [] := by rw [checks, hrun, List.map_nil]
  rw [report, hchecks]
  rfl

/-- Nothing that comes into a job from outside has a line feed. -/
structure Job.Unbroken (job : Job) : Prop where
  name : Text.Unbroken job.name
  fields : Rule.FieldsUnbroken job.validator.schema.fields
  document : ∀ document, job.document = .ok document → document.Unbroken
  unread : ∀ reason, job.document = .error reason → Text.Unbroken reason

namespace Job

theorem unbroken_report {job : Job} {surroundings : Surroundings} (h : job.Unbroken)
    (hv : job.validator.registry = Registry.withBuiltins surroundings)
    (hz : Text.Unbroken surroundings.zoneinfo) (complete : PendingCheck → CheckRun.Completion)
    (cancel : CheckRun.Cancellation) :
    (⟨job.name, job.report complete cancel⟩ : DocumentReport).Unbroken := by
  have hfatal : ∀ {reason : String}, Text.Unbroken reason →
      (⟨job.name, .fatal reason⟩ : DocumentReport).Unbroken := by
    intro reason hreason
    refine ⟨h.name, List.forall_mem_singleton.mpr ?_, nofun⟩
    exact ValidationError.unbroken_text FieldPath.unbroken_root rfl hreason
  unfold report
  split
  next reason hunread => exact hfatal (h.unread reason hunread)
  next document hread =>
    simp only
    split
    · exact hfatal (.literal rfl)
    · obtain ⟨herrors, hwarnings, hpending⟩ := DocumentValidator.unbroken_checkStructure hv hz
        h.fields job.options (h.document document hread)
      rw [StructuralOutcome.report_of_no_pending hpending]
      refine ⟨h.name, fun e he => ?_, hwarnings⟩
      have hmem := (StructuralOutcome.conclude_subperm _ {}).subset he
      rw [List.append_nil] at hmem
      exact herrors e hmem

end Job

/-- Where nothing has a line feed, a reader of the report finds a line for each document, error,
warning and cancellation, a blank line and the totals. Only the first line of a document looks like
a verdict. -/
theorem findings_take_a_line_each (surroundings : Surroundings) (jobs : List Job)
    (complete : Nat → PendingCheck → CheckRun.Completion) (cancel : CheckRun.Cancellation)
    (hv : ∀ job ∈ jobs, job.validator.registry = Registry.withBuiltins surroundings)
    (hz : Unbroken surroundings.zoneinfo) (hjobs : ∀ job ∈ jobs, job.Unbroken) :
    let b := checkBatch jobs complete cancel
    let shown := Text.split '\n' (b.humanText false)
    shown = b.lines.map ReportLine.text ∧
      shown.length = b.documents.length + b.totalErrors + b.totalWarnings +
        (b.documents.filter (·.report.cancelled)).length + 2 ∧
      shown.filter looksLikeVerdict = b.documents.map fun d => d.heading.text := by
  intro b shown
  have hdocuments : ∀ d ∈ b.documents, d.Unbroken := by
    intro d hd
    obtain ⟨⟨job, i⟩, hmem, rfl⟩ := List.mem_map.mp hd
    have hjob : job ∈ jobs := List.fst_mem_of_mem_zipIdx hmem
    exact Job.unbroken_report (hjobs job hjob) (hv job hjob) hz (complete i) cancel
  have hshown : shown = b.lines.map ReportLine.text := b.split_humanText_iff.mpr hdocuments
  refine ⟨hshown, ?_, ?_⟩
  · rw [hshown, List.length_map, b.length_lines]
  · rw [hshown, b.filter_looksLikeVerdict]

namespace Job.Sample

def rules : Rules :=
  [("name", .ofType (.custom "subdomain")), ("pin", .ofType (.custom "password"))]

theorem rules_ordered : rules.Ordered ∧ Rule.FieldsOrdered rules := by
  simp only [rules, Rule.FieldsOrdered, Rule.ItemsOrdered, Rule.Ordered, Rule.ofType]
  decide

def surroundings : Surroundings := ⟨fun _ => none, "/usr/share/zoneinfo"⟩

def validator : DocumentValidator where
  schema := ⟨rules, rules_ordered, by decide⟩
  registry := .withBuiltins surroundings
  resolved := by decide

/-- A job for a document with these entries. -/
def job (entries : Mapping) : Job := ⟨"d.json", .ok (.mapping entries), validator, {}⟩

theorem report_of_one_error (entries : Mapping) (e : ValidationError) {warnings : List Warning}
    (herrors : (validator.checkStructure {} (.mapping entries)).errors = [e])
    (hwarnings : (validator.checkStructure {} (.mapping entries)).warnings = warnings)
    (hcrashed : (validator.checkStructure {} (.mapping entries)).crashed = false)
    (hpending : (validator.checkStructure {} (.mapping entries)).pending = []) :
    checkBatch [job entries] (fun _ _ => ⟨none, .crashed⟩) .never =
      ⟨[⟨"d.json", { errors := [e], warnings }⟩]⟩ := by
  have hsort : ValidationError.sortByPath [e] = [e] := List.mergeSort_singleton e
  have hreport : (job entries).report (fun _ => ⟨none, .crashed⟩) .never =
      { errors := [e], warnings } := by
    simp only [Job.report, job, hcrashed, Bool.false_eq_true, if_false,
      StructuralOutcome.report_of_no_pending hpending]
    simp [StructuralOutcome.conclude, herrors, hwarnings, hsort]
  exact congrArg (fun r => (⟨[⟨"d.json", r⟩]⟩ : BatchReport)) hreport

/-- A name that begins with a hyphen, and a weak password. -/
def faulty : Mapping := [("name", .string "-app"), ("pin", .string "tiptoeing")]

theorem unbroken_faulty : (job faulty).Unbroken where
  name := .literal rfl
  fields := by
    have hname : Text.Unbroken "name" := .literal rfl
    have hpin : Text.Unbroken "pin" := .literal rfl
    simp [job, validator, rules, Rule.ofType, Rule.FieldsUnbroken, Rule.ItemsUnbroken,
      Rule.Unbroken, hname, hpin]
  document := by
    intro document hdocument
    cases hdocument
    have hplain : ∀ s, Text.words s = [s] → Text.Unbroken s → Builtin.Quotable s := by
      intro s hwords hs
      refine ⟨hs, fun type htype => ?_⟩
      simp [Builtin.payloadType?, hwords] at htype
    have happ := hplain "-app" (by decide) (.literal rfl)
    have hpin := hplain "tiptoeing" (by decide) (.literal rfl)
    have hnames : Text.Unbroken "name" ∧ Text.Unbroken "pin" := ⟨.literal rfl, .literal rfl⟩
    simp [Value.Unbroken, faulty, Value.EntriesUnbroken, hnames, happ, hpin]
  unread := nofun

theorem error_and_two_warnings_on_lines :
    (job faulty).validator.registry = Registry.withBuiltins surroundings ∧
    Text.Unbroken surroundings.zoneinfo ∧ (job faulty).Unbroken ∧
    let b := checkBatch [job faulty] (fun _ _ => ⟨none, .crashed⟩) .never
    b.totalErrors = 1 ∧ b.totalWarnings = 2 ∧
      (Text.split '\n' (b.humanText false)).length = 6 := by
  have hz : Text.Unbroken surroundings.zoneinfo := .literal rfl
  obtain ⟨_, hlength, _⟩ := findings_take_a_line_each surroundings [job faulty]
    (fun _ _ => ⟨none, .crashed⟩) .never (List.forall_mem_singleton.mpr rfl) hz
    (List.forall_mem_singleton.mpr unbroken_faulty)
  have hreport := report_of_one_error faulty
    (.custom (FieldPath.root.key "name") "subdomain" "subdomain '-app' cannot start with a hyphen")
    (by decide) rfl (by decide) rfl
  rw [hreport] at hlength ⊢
  exact ⟨rfl, hz, unbroken_faulty, rfl, rfl, hlength⟩

/-- The name of its entry reads like a report on another document. -/
def forged : Mapping := [("x\n✓ prod.json: valid\ny", .integer 1)]

theorem verdict_forged_by_name :
    ¬∀ (surroundings : Surroundings) (jobs : List Job)
      (complete : Nat → PendingCheck → CheckRun.Completion) (cancel : CheckRun.Cancellation),
      (∀ job ∈ jobs, job.validator.registry = Registry.withBuiltins surroundings) →
      let b := checkBatch jobs complete cancel
      let shown := Text.split '\n' (b.humanText false)
      shown.length = b.documents.length + b.totalErrors + b.totalWarnings +
        (b.documents.filter (·.report.cancelled)).length + 2 ∧
      shown.filter looksLikeVerdict = b.documents.map fun d => d.heading.text := by
  intro hclaim
  obtain ⟨hlength, -⟩ := hclaim surroundings [job forged] (fun _ _ => ⟨none, .crashed⟩) .never
    (List.forall_mem_singleton.mpr rfl)
  have hreport := report_of_one_error forged
    (.unknownField (FieldPath.root.key "x\n✓ prod.json: valid\ny"))
    (by decide) rfl (by decide) rfl
  rw [hreport] at hlength
  revert hlength
  decide +kernel

end Job.Sample

end SettingsCheck
