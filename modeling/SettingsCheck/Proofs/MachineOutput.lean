import SettingsCheck.Proofs.ExitCode
import SettingsCheck.Proofs.YamlSpelling
import Mathlib.Algebra.Ring.Nat

namespace SettingsCheck

variable {e : CommandError}

/-- The errors that follow a report. With any other a command ends before there is one. -/
def CommandError.followsReport : CommandError → Bool
  | validationFailed _ _ => true
  | cancelled => true
  | _ => false

theorem CommandError.exitCode_of_early (h : e.followsReport = false) :
    e.exitCode ≠ 0 ∧ e.exitCode ≠ 1 ∧ e.exitCode ≠ 130 := by
  cases e <;> simp_all [followsReport, exitCode]

/-- A step of a command that fails, if at all, before there is a report. -/
def FailsEarly {α : Type} (step : Except CommandError α) : Prop :=
  ∀ e, step = .error e → e.followsReport = false

namespace FailsEarly

variable {α : Type}

theorem ok (x : α) : FailsEarly (.ok x) := nofun

theorem error (h : e.followsReport = false) : FailsEarly (.error e : Except CommandError α) := by
  intro e' he
  cases he
  exact h

end FailsEarly

namespace Config

variable (files : FileView) (path : String)

theorem failsEarly_readFile : FailsEarly (readFile files path) := by
  unfold readFile
  split
  · exact .error rfl
  · split
    · exact .error rfl
    · exact .ok _

theorem failsEarly_ofText (text : String) : FailsEarly (ofText path text) := by
  unfold ofText
  split
  split
  · exact .ok _
  · exact .error rfl

theorem failsEarly_check (c : Config) : FailsEarly c.check := by
  unfold check
  split
  · exact .error rfl
  · split
    · exact .error rfl
    · split
      · exact .error rfl
      · split
        · exact .error rfl
        · exact .ok _

theorem failsEarly_ofFile : FailsEarly (ofFile files path) := by
  unfold ofFile
  split
  next e he => exact .error (failsEarly_readFile files path e he)
  next text _ =>
    split
    next e he => exact .error (failsEarly_ofText path text e he)
    next c _ =>
      dsimp only
      split
      next e he => exact .error (failsEarly_check _ e he)
      next => exact .ok _

theorem failsEarly_load (environment : Environment) (named : Option String) :
    FailsEarly (load files environment named) := by
  unfold load
  split
  · exact failsEarly_ofFile files _
  · split
    · exact failsEarly_ofFile files _
    · exact .ok _

end Config

namespace Command

open CheckRun CommandLine

section Preparation

variable (c : Context) (a : ValidateArguments) (registry : Registry)

theorem failsEarly_loadSchema (path : String) : FailsEarly (c.loadSchema registry path) := by
  unfold Context.loadSchema
  split
  next e he => exact .error (Config.failsEarly_readFile c.files path e he)
  next =>
    split
    · exact .error rfl
    · split
      · exact .error rfl
      · exact .ok _

theorem failsEarly_prepareTargets (options : Options) (list : List Target) :
    FailsEarly (prepareTargets c registry options list).jobs := by
  induction list with
  | nil => exact .ok _
  | cons target rest ih =>
    unfold prepareTargets
    split
    next e he => exact .error (failsEarly_loadSchema c registry target.schema e he)
    next validator _ =>
      dsimp only
      cases hrest : (prepareTargets c registry options rest).jobs with
      | error e => exact .error (ih e hrest)
      | ok jobs => exact .ok _

theorem failsEarly_targets (config : Config) : FailsEarly (targets a config) := by
  unfold targets
  split
  · exact .error rfl
  · split
    · exact .error rfl
    · exact .ok _
  · exact .error rfl
  · exact .ok _

theorem failsEarly_effectiveChecks (checks : ChecksConfig) :
    FailsEarly (effectiveChecks a checks) := by
  unfold effectiveChecks
  split
  · exact .error rfl
  · exact .ok _

theorem failsEarly_registry : FailsEarly c.registry := by
  unfold Context.registry
  split
  · exact .error rfl
  · exact .ok _

theorem failsEarly_prepare : FailsEarly (prepare c a).jobs := by
  unfold prepare
  split
  next e he => exact .error (failsEarly_targets a c.config e he)
  next list _ =>
    split
    next e he => exact .error (failsEarly_effectiveChecks a c.config.checks e he)
    next checks _ =>
      split
      next e he => exact .error (failsEarly_registry c e he)
      next registry _ => exact failsEarly_prepareTargets c registry checks.options list

theorem info_of_mem_prepareTargets {options : Options} {list : List Target} {m : Message}
    (h : m ∈ (prepareTargets c registry options list).messages) : ∃ text, m = .info text := by
  induction list with
  | nil => cases h
  | cons target rest ih =>
    unfold prepareTargets at h
    split at h
    · cases h
    · rcases List.mem_cons.mp h with rfl | h
      · exact ⟨_, rfl⟩
      · exact ih h

/-- Before the checks there are only messages about what is being done. -/
theorem info_of_mem_prepare {m : Message} (h : m ∈ (prepare c a).messages) :
    ∃ text, m = .info text := by
  unfold prepare at h
  split at h
  · cases h
  · split at h
    · cases h
    · split at h
      · cases h
      · exact info_of_mem_prepareTargets c _ h

end Preparation

/-- What a check of documents may leave behind. The deferred checks of all documents are under way
at once and end in any order, and the cancellation may come at any time. -/
inductive Leaves (s : Situation) (a : Arguments) (arguments : ValidateArguments)
    (complete : List Job → Nat → PendingCheck → Completion) (raised : Bool) : Finished → Prop
  | unconfigured {e : CommandError} :
    s.loadConfig a = .error e → Leaves s a arguments complete raised ⟨"", [], .error e⟩
  | refused {config : Config} {e : CommandError} :
    s.loadConfig a = .ok config →
    (prepare (s.context a config) arguments).jobs = .error e →
    Leaves s a arguments complete raised
      ⟨(s.writer a config).output (prepare (s.context a config) arguments).messages,
        s.loggingNotes a config, .error e⟩
  | reported {config : Config} {jobs : List Job} {b : BatchReport} :
    s.loadConfig a = .ok config →
    (prepare (s.context a config) arguments).jobs = .ok jobs →
    MayReportAll jobs (complete jobs) raised b →
    Leaves s a arguments complete raised
      ⟨(s.writer a config).output ((prepare (s.context a config) arguments).messages ++
          (conclude (s.context a config) arguments jobs b).messages),
        s.loggingNotes a config, (conclude (s.context a config) arguments jobs b).result⟩

/-- An error as a summary tells it. -/
def errorEntry (e : ValidationError) : Json :=
  .object ([("path", .string e.path.text), ("message", .string e.message),
    ("kind", .string e.kind.name)] ++
      (e.validator.map fun name => ("validator", .string name)).toList)

def warningEntry (w : Warning) : Json :=
  .object [("path", .string w.path.text), ("message", .string w.message)]

/-- What a summary tells of a document. -/
def documentEntry (d : DocumentReport) : Json :=
  .object [("name", .string d.name), ("errors", .array (d.report.errors.map errorEntry)),
    ("warnings", .array (d.report.warnings.map warningEntry)),
    ("async_checks_run", .integer d.report.checksRun), ("cancelled", .bool d.report.cancelled)]

/-- A text of a tree in a format for other programs. JSON is one line unless it is to be pretty. -/
def Serializes (tree : Json) (text : String) : OutputFormat → Prop
  | .json => tree.IsTextOf text ∧ '\n' ∉ text.toList
  | .jsonPretty => tree.IsTextOf text ∧ '\n' ∈ text.toList
  | .yaml => Yaml.IsTextOf text tree
  | .human => False

/-- The summary of the report on these targets is all that was written, and the exit code agrees
with it. -/
structure Summarized (format : OutputFormat) (list : List Target) (b : BatchReport)
    (f : Finished) : Prop where
  documents : b.documents.map DocumentReport.name = list.map Target.name
  agrees : ∃ (valid cancelled : Bool) (text : String),
    (valid = true ↔ ∀ d ∈ b.documents, d.report.errors = []) ∧
    (cancelled = true ↔ ∃ d ∈ b.documents, d.report.cancelled = true) ∧
    f.output = text ++ "\n" ∧
    Serializes (.object [("valid", .bool valid),
      ("total_errors", .integer ((b.documents.map fun d => d.report.errors.length).sum : Nat)),
      ("total_warnings", .integer ((b.documents.map fun d => d.report.warnings.length).sum : Nat)),
      ("cancelled", .bool cancelled),
      ("documents", .array (b.documents.map documentEntry))]) text format ∧
    f.exitCode = if cancelled then 130 else if valid then 0 else 1

section Summary

open Json (Floatless)

theorem toJson_error (e : ValidationError) : e.toJson = errorEntry e := by
  unfold ValidationError.toJson errorEntry
  cases e.validator <;> rfl

theorem toJson_document (d : DocumentReport) : d.toJson = documentEntry d := by
  have herrors : d.report.errors.map ValidationError.toJson = d.report.errors.map errorEntry :=
    List.map_congr_left fun e _ => toJson_error e
  rw [DocumentReport.toJson, herrors]
  rfl

theorem totalErrors_eq (b : BatchReport) :
    b.totalErrors = (b.documents.map fun d => d.report.errors.length).sum :=
  List.length_flatMap

theorem totalWarnings_eq (b : BatchReport) :
    b.totalWarnings = (b.documents.map fun d => d.report.warnings.length).sum :=
  List.length_flatMap

theorem summary_eq (b : BatchReport) : b.summary = .object [("valid", .bool b.isValid),
    ("total_errors", .integer ((b.documents.map fun d => d.report.errors.length).sum : Nat)),
    ("total_warnings", .integer ((b.documents.map fun d => d.report.warnings.length).sum : Nat)),
    ("cancelled", .bool b.cancelled),
    ("documents", .array (b.documents.map documentEntry))] := by
  have hdocuments : b.documents.map DocumentReport.toJson = b.documents.map documentEntry :=
    List.map_congr_left fun d _ => toJson_document d
  rw [BatchReport.summary, totalErrors_eq, totalWarnings_eq, hdocuments]

theorem floatless_errorEntry (e : ValidationError) : (errorEntry e).Floatless := by
  refine .object ?_
  cases e.validator <;> simp [Floatless.string]

theorem floatless_warningEntry (w : Warning) : (warningEntry w).Floatless :=
  .object (by simp [Floatless.string])

theorem floatless_documentEntry (d : DocumentReport) : (documentEntry d).Floatless := by
  have herrors : (Json.array (d.report.errors.map errorEntry)).Floatless :=
    .array (List.forall_mem_map.mpr fun e _ => floatless_errorEntry e)
  have hwarnings : (Json.array (d.report.warnings.map warningEntry)).Floatless :=
    .array (List.forall_mem_map.mpr fun w _ => floatless_warningEntry w)
  refine .object ?_
  simp [Floatless.string, Floatless.integer, Floatless.bool, herrors, hwarnings]

theorem floatless_summary (b : BatchReport) : b.summary.Floatless := by
  have hdocuments : (Json.array (b.documents.map documentEntry)).Floatless :=
    .array (List.forall_mem_map.mpr fun d _ => floatless_documentEntry d)
  rw [summary_eq]
  refine .object ?_
  simp [Floatless.bool, Floatless.integer, hdocuments]

/-- What is left of a summary without the blanks at its end is a text of it. -/
theorem serializes_summary (b : BatchReport) {format : OutputFormat} (h : format ≠ .human) :
    Serializes b.summary (Text.trimEnd (format.render b.summary)) format := by
  have hfloatless := floatless_summary b
  rw [b.trimEnd_render_summary h]
  cases format with
  | human => exact absurd rfl h
  | json => exact ⟨Json.isTextOf_compact hfloatless, Json.feed_not_mem_compact hfloatless⟩
  | jsonPretty => exact ⟨Json.isTextOf_pretty hfloatless, Json.feed_mem_pretty _ _ 0⟩
  | yaml => exact Yaml.Layout.isTextOf_block hfloatless

end Summary

section Writing

variable {w : Writer} {s : Situation} {a : Arguments} {arguments : ValidateArguments}
  {complete : List Job → Nat → PendingCheck → Completion} {raised : Bool} {f : Finished}

theorem output_append (w : Writer) (first rest : List Message) :
    w.output (first ++ rest) = w.output first ++ w.output rest := by
  rw [Writer.output, List.map_append, String.join_append]
  rfl

theorem output_of_info (hw : w.format ≠ .human) {messages : List Message}
    (h : ∀ m ∈ messages, ∃ text, m = .info text) : w.output messages = "" := by
  induction messages with
  | nil => rfl
  | cons m rest ih =>
    obtain ⟨hm, hrest⟩ := List.forall_mem_cons.mp h
    obtain ⟨text, rfl⟩ := hm
    have htext : w.text (.info text) = "" := by simp [Writer.text, Writer.showsStatus, hw]
    have hjoin := ih hrest
    rw [Writer.output] at hjoin ⊢
    rw [List.map_cons, String.join_cons, htext, hjoin]
    rfl

theorem output_conclude {c : Context} (hw : w.format ≠ .human) (hc : c.format = w.format)
    (jobs : List Job) (b : BatchReport) :
    w.output (conclude c arguments jobs b).messages =
      Text.trimEnd (w.format.render b.summary) ++ "\n" := by
  have hreport : w.text (.report b) = Text.trimEnd (w.format.render b.summary) ++ "\n" := by
    rw [Writer.text, if_pos hw]
    rfl
  have hwarning : ∀ text, w.text (.warning text) = "" := fun text => by
    rw [Writer.text, if_pos hw]
  have hhuman : (arguments.showDocuments && decide (c.format = .human)) = false := by
    simp [hc, hw]
  unfold conclude
  simp only [hhuman]
  cases b.cancelled <;> simp [Writer.output, hreport, hwarning]

theorem exitCode_of_verdict {b : BatchReport} (h : f.result = verdict b) :
    f.exitCode = if b.cancelled then 130 else if b.isValid then 0 else 1 := by
  rw [Finished.exitCode, h, verdict]
  cases b.cancelled <;> cases b.isValid <;> rfl

theorem names_of_prepared {c : Context} {registry : Registry} {options : Options}
    {list : List Target} {jobs : List Job} {complete : Nat → PendingCheck → Completion}
    {b : BatchReport} (hjobs : List.Forall₂ (Prepared c registry options) list jobs)
    (hreports : MayReportAll jobs complete raised b) :
    b.documents.map DocumentReport.name = list.map Target.name := by
  have htargets : list.map Target.name = jobs.map Job.name := by
    rw [← List.forall₂_eq_eq_eq, List.forall₂_map_left_iff, List.forall₂_map_right_iff]
    refine hjobs.imp ?_
    rintro target job ⟨validator, _, rfl⟩
    rfl
  have hnames : jobs.zipIdx.map (fun entry => entry.1.name) =
      b.documents.map DocumentReport.name := by
    rw [← List.forall₂_eq_eq_eq, List.forall₂_map_left_iff, List.forall₂_map_right_iff]
    exact hreports.imp fun entry d h => h.1.symm
  rw [htargets, ← hnames, ← List.zipIdx_map_fst 0 jobs, List.map_map, List.zipIdx_map_fst]
  rfl

/-- A run by the clock leaves what one of the possible runs leaves. -/
theorem leaves_run (s : Situation) (ha : a.command = .validate arguments)
    (complete : List Job → Nat → PendingCheck → Completion) (cancel : Cancellation) :
    Leaves s a arguments complete (cancel != .never) (run s a complete cancel) := by
  unfold run
  cases hconfig : s.loadConfig a with
  | error e => exact .unconfigured hconfig
  | ok config =>
    simp only [command, ha, validate]
    cases hjobs : (prepare (s.context a config) arguments).jobs with
    | error e => exact .refused hconfig hjobs
    | ok jobs =>
      refine .reported hconfig hjobs ?_
      unfold MayReportAll checkBatch
      rw [List.forall₂_map_right_iff, List.forall₂_same]
      exact fun entry _ => ⟨rfl, entry.1.mayReport_report _ _⟩

theorem silent_of_early {config : Config} {notes : List String}
    (hw : (s.writer a config).format ≠ .human)
    (hjobs : (prepare (s.context a config) arguments).jobs = .error e) :
    let f : Finished :=
      ⟨(s.writer a config).output (prepare (s.context a config) arguments).messages, notes,
        .error e⟩
    f.output = "" ∧ f.exitCode ≠ 0 ∧ f.exitCode ≠ 1 ∧ f.exitCode ≠ 130 := by
  intro f
  have hearly := failsEarly_prepare (s.context a config) arguments e hjobs
  have hsilent : f.output = "" := output_of_info hw fun m hm => info_of_mem_prepare _ _ hm
  exact ⟨hsilent, CommandError.exitCode_of_early hearly⟩

theorem summarized_of_report {config : Config} {notes : List String} {list : List Target}
    {registry : Registry} {options : Options} {jobs : List Job} {b : BatchReport}
    (hw : (s.writer a config).format ≠ .human)
    (hjobs : List.Forall₂ (Prepared (s.context a config) registry options) list jobs)
    (hreports : MayReportAll jobs (complete jobs) raised b) :
    Summarized (s.writer a config).format list b
      ⟨(s.writer a config).output ((prepare (s.context a config) arguments).messages ++
          (conclude (s.context a config) arguments jobs b).messages), notes,
        (conclude (s.context a config) arguments jobs b).result⟩ where
  documents := names_of_prepared hjobs hreports
  agrees := by
    have hsilent : (s.writer a config).output (prepare (s.context a config) arguments).messages =
        "" := output_of_info hw fun m hm => info_of_mem_prepare _ _ hm
    have hcancelled : b.cancelled = true ↔ ∃ d ∈ b.documents, d.report.cancelled = true := by
      simp [BatchReport.cancelled]
    refine ⟨b.isValid, b.cancelled, Text.trimEnd ((s.writer a config).format.render b.summary),
      isValid_iff, hcancelled, ?_, ?_, exitCode_of_verdict rfl⟩
    · rw [output_append, hsilent, output_conclude hw rfl, String.empty_append]
    · rw [← summary_eq]
      exact serializes_summary b hw

/-- In the formats for other programs a check of documents writes nothing if it ends before there is
a report; its exit code tells that then. Otherwise it writes one summary, of the targets in order,
and the exit code agrees with it. -/
theorem machine_output_one_summary (s : Situation) (a : Arguments) (arguments : ValidateArguments)
    (complete : List Job → Nat → PendingCheck → Completion)
    (ha : a.command = .validate arguments)
    (hmachine : ∀ config, s.loadConfig a = .ok config →
      a.output.getD config.outputFormat ≠ .human) :
    (∀ raised f, Leaves s a arguments complete raised f →
      (f.output = "" ∧ f.exitCode ≠ 0 ∧ f.exitCode ≠ 1 ∧ f.exitCode ≠ 130) ∨
      ∃ config list jobs b, s.loadConfig a = .ok config ∧ Targeted arguments config list ∧
        (prepare (s.context a config) arguments).jobs = .ok jobs ∧
        MayReportAll jobs (complete jobs) raised b ∧
        Summarized (a.output.getD config.outputFormat) list b f) ∧
    ∀ cancel, Leaves s a arguments complete (cancel != .never) (run s a complete cancel) := by
  refine ⟨fun raised f h => ?_, leaves_run s ha complete⟩
  -- the writer drops all messages but the report, which comes last and once
  cases h with
  | @unconfigured e hconfig =>
    have hearly := Config.failsEarly_load s.files s.environment a.config e hconfig
    exact .inl ⟨rfl, CommandError.exitCode_of_early hearly⟩
  | refused hconfig hjobs => exact .inl (silent_of_early (hmachine _ hconfig) hjobs)
  | @reported config jobs b hconfig hjobs hreports =>
    obtain ⟨list, registry, hlist, _, _, hprepared⟩ := prepare_eq_ok_iff.mp hjobs
    exact .inr ⟨config, list, jobs, b, hconfig, hlist, hjobs, hreports,
      summarized_of_report (hmachine config hconfig) hprepared hreports⟩

end Writing

namespace Sample

/-- The check of the site with YAML for its output. -/
def checkForScript : Arguments := { checkSite with output := some .yaml, quiet := true }

theorem site_told_to_script :
    let f := run situation checkForScript (fun _ => acceptedAfter 3) .never
    checkForScript.command = .validate site ∧
    (∀ config, situation.loadConfig checkForScript = .ok config →
      checkForScript.output.getD config.outputFormat ≠ .human) ∧
    f.exitCode = 0 ∧
    ∃ (b : BatchReport) (text : String), b.documents.map DocumentReport.name = ["site.json"] ∧
      (∀ d ∈ b.documents, d.report.errors = []) ∧ f.output = text ++ "\n" ∧
      Yaml.IsTextOf text (.object [("valid", .bool true),
        ("total_errors", .integer ((b.documents.map fun d => d.report.errors.length).sum : Nat)),
        ("total_warnings",
          .integer ((b.documents.map fun d => d.report.warnings.length).sum : Nat)),
        ("cancelled", .bool false), ("documents", .array (b.documents.map documentEntry))]) := by
  intro f
  have hmachine : ∀ config, situation.loadConfig checkForScript = .ok config →
      checkForScript.output.getD config.outputFormat ≠ .human := nofun
  have hzero : f.exitCode = 0 := by decide +kernel
  obtain ⟨hall, hruns⟩ :=
    machine_output_one_summary situation checkForScript site (fun _ => acceptedAfter 3) rfl hmachine
  refine ⟨rfl, hmachine, hzero, ?_⟩
  rcases hall _ _ (hruns .never) with ⟨_, hne, _⟩ | ⟨config, list, jobs, b, _, hlist, _, _, hb⟩
  · exact absurd hzero hne
  · obtain ⟨valid, cancelled, text, hvalid, hcancelled, houtput, htext, hcode⟩ := hb.agrees
    have hsite : list = [⟨"site.json", "site.json", "schema.json"⟩] :=
      (Except.ok.inj (targets_eq_ok_iff.mpr hlist)).symm
    have hnames := hb.documents
    rw [hsite] at hnames
    cases cancelled with
    | true => rw [hzero] at hcode; cases hcode
    | false =>
      cases valid with
      | true => exact ⟨b, text, hnames, hvalid.mp rfl, houtput, htext⟩
      | false => rw [hzero] at hcode; cases hcode

end Sample

end Command

end SettingsCheck
