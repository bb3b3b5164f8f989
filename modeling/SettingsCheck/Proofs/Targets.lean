import Mathlib.Data.List.Forall2
import SettingsCheck.Command.Run
import SettingsCheck.Proofs.Fallbacks

namespace SettingsCheck.Command

open CommandLine

/-- The documents of the command line with its schema, under their paths, or else those of the
settings, under their names. -/
inductive Targeted (a : ValidateArguments) (config : Config) : List Target → Prop
  | named {schema : String} : a.documents ≠ [] → a.schema = some schema →
    Targeted a config (a.documents.map fun path => ⟨path, path, schema⟩)
  | configured : a.documents = [] → a.schema = none → config.documents ≠ [] →
    Targeted a config (config.documents.map fun d =>
      ⟨d.name.getD ((FilePath.fileName? d.path).getD d.path), d.path, d.schema⟩)

/-- The file can be read, and its text says this, as JSON if the file is named so and as YAML if
not. -/
def Holds {ε α : Type} (files : FileView) (path : String) (ofJson ofYaml : String → Except ε α)
    (x : α) : Prop :=
  ∃ text, files.read path = .ok text ∧
    (FilePath.extension? path = some "json" ∧ ofJson text = .ok x ∨
      FilePath.extension? path ≠ some "json" ∧ ofYaml text = .ok x)

/-- The document of a target. -/
def Target.Reads (files : FileView) (target : Target) (document : Value) : Prop :=
  Holds files target.path Value.ofJsonText Value.ofYamlText document

/-- The schema of a target, with a validator for each custom type in it. -/
def Target.Demands (files : FileView) (registry : Registry) (target : Target)
    (validator : DocumentValidator) : Prop :=
  files.kind target.schema ≠ none ∧
    Holds files target.schema Schema.ofJsonText Schema.ofYamlText validator.schema ∧
    validator.registry = registry

/-- The checks that come with the program, and the remote ones as the settings have them. -/
def Registers (s : Situation) (config : Config) (registry : Registry) : Prop :=
  Remote.register (Registry.withBuiltins ⟨s.files.kind, s.zoneinfo⟩) config.checks.remote =
    .ok registry

/-- The deadline of a deferred check in nanoseconds. -/
def deadline (a : ValidateArguments) (config : Config) : Nat :=
  a.timeoutSecs.getD config.checks.timeoutSecs * 1000000000

def Offline (a : ValidateArguments) (config : Config) : Prop :=
  a.offline = true ∨ config.checks.offline = true

instance (a : ValidateArguments) (config : Config) : Decidable (Offline a config) :=
  inferInstanceAs (Decidable (_ ∨ _))

variable {s : Situation} {arguments : Arguments} {a : ValidateArguments} {config : Config}
  {c : Context} {registry : Registry} {options : Options}

theorem targets_eq_ok_iff {list : List Target} :
    targets a config = .ok list ↔ Targeted a config list := by
  constructor
  · intro h
    unfold targets at h
    cases hdocuments : a.documents with
    | nil =>
      cases hschema : a.schema with
      | some schema => simp [hdocuments, hschema] at h
      | none =>
        simp only [hdocuments, hschema] at h
        split at h
        · cases h
        next hsome =>
          cases h
          exact .configured hdocuments hschema (by simpa using hsome)
    | cons document rest =>
      cases hschema : a.schema with
      | none => simp [hdocuments, hschema] at h
      | some schema =>
        simp only [hdocuments, hschema, Except.ok.injEq] at h
        rw [← h, ← hdocuments]
        exact .named (by simp [hdocuments]) hschema
  · rintro (⟨hsome, hschema⟩ | ⟨hnone, hschema, hsome⟩)
    · obtain ⟨document, rest, hdocuments⟩ := List.exists_cons_of_ne_nil hsome
      simp only [targets, hdocuments, hschema]
    · simp only [targets, hnone, hschema, List.isEmpty_iff, hsome, if_false]
      rfl

/-- What a file that can be read holds. -/
theorem holds_iff {ε α : Type} {files : FileView} {path text : String}
    {ofJson ofYaml : String → Except ε α} {x : α} (h : files.read path = .ok text) :
    Holds files path ofJson ofYaml x ↔
      (if Context.isJsonFile path then ofJson text else ofYaml text) = .ok x := by
  unfold Holds Context.isJsonFile
  by_cases hjson : FilePath.extension? path = some "json" <;> simp [h, hjson]

theorem loadDocument_eq_ok_iff {target : Target} {document : Value} :
    c.loadDocument target.path = .ok document ↔ target.Reads c.files document := by
  unfold Context.loadDocument Target.Reads
  cases hread : c.files.read target.path with
  | error e => simp [Holds, hread]
  | ok text =>
    rw [holds_iff hread]
    simp only
    split <;> simp [*]

theorem readFile_eq_ok_iff {files : FileView} {path text : String} :
    Config.readFile files path = .ok text ↔
      files.kind path ≠ none ∧ files.read path = .ok text := by
  unfold Config.readFile
  cases files.kind path with
  | none => simp
  | some kind => cases files.read path <;> simp

theorem loadSchema_eq_ok_iff {target : Target} {validator : DocumentValidator} :
    c.loadSchema registry target.schema = .ok validator ↔
      target.Demands c.files registry validator := by
  unfold Context.loadSchema Target.Demands
  cases hread : Config.readFile c.files target.schema with
  | error e =>
    refine ⟨nofun, ?_⟩
    rintro ⟨hkind, ⟨text, htext, _⟩, _⟩
    cases hread.symm.trans (readFile_eq_ok_iff.mpr ⟨hkind, htext⟩)
  | ok text =>
    obtain ⟨hkind, htext⟩ := readFile_eq_ok_iff.mp hread
    rw [holds_iff htext]
    simp only
    split
    next e hparsed => simp [hparsed]
    next schema hparsed =>
      have hvalidator := @DocumentValidator.ofSchema_eq_ok_iff schema registry validator
      rw [hparsed, Except.ok.injEq, and_iff_right hkind, @eq_comm _ schema, ← hvalidator]
      split <;> simp [*]

/-- The job that a target becomes. -/
def Prepared (c : Context) (registry : Registry) (options : Options) (target : Target) (job : Job) :
    Prop :=
  ∃ validator, c.loadSchema registry target.schema = .ok validator ∧
    job = ⟨target.name, c.loadDocument target.path, validator, options⟩

theorem prepareTargets_eq_ok_iff {list : List Target} {jobs : List Job} :
    (prepareTargets c registry options list).jobs = .ok jobs ↔
      List.Forall₂ (Prepared c registry options) list jobs := by
  induction list generalizing jobs with
  | nil =>
    rw [List.forall₂_nil_left_iff, prepareTargets, Except.ok.injEq]
    exact eq_comm
  | cons target rest ih =>
    rw [List.forall₂_cons_left_iff]
    unfold prepareTargets
    cases hv : c.loadSchema registry target.schema with
    | error e =>
      refine ⟨nofun, ?_⟩
      rintro ⟨job, others, ⟨validator, hv', _⟩, _⟩
      rw [hv] at hv'
      cases hv'
    | ok validator =>
      simp only
      cases hrest : (prepareTargets c registry options rest).jobs with
      | error e =>
        refine ⟨nofun, ?_⟩
        rintro ⟨job, others, _, hothers, _⟩
        rw [ih.mpr hothers] at hrest
        cases hrest
      | ok others =>
        rw [Except.map, Except.ok.injEq]
        constructor
        · rintro rfl
          exact ⟨_, others, ⟨validator, hv, rfl⟩, ih.mp hrest, rfl⟩
        · rintro ⟨job, others', ⟨validator', hv', rfl⟩, hothers, rfl⟩
          rw [hv] at hv'
          rw [ih.mpr hothers] at hrest
          cases hv'
          cases hrest
          rfl

/-- How the documents of a run are checked. -/
def optionsOf (a : ValidateArguments) (config : Config) : Options where
  callTimeout := deadline a config
  runDeferred := !decide (Offline a config)
  failFast := a.failFast || config.checks.failFast
  maxErrors := a.maxErrors.getD config.checks.maxErrors

theorem effectiveChecks_eq_ok_iff {checks : ChecksConfig} :
    effectiveChecks a config.checks = .ok checks ↔ a.timeoutSecs ≠ some 0 ∧
      checks = { config.checks with
        offline := a.offline || config.checks.offline
        timeoutSecs := a.timeoutSecs.getD config.checks.timeoutSecs
        failFast := a.failFast || config.checks.failFast
        maxErrors := a.maxErrors.getD config.checks.maxErrors } := by
  unfold effectiveChecks
  by_cases hzero : a.timeoutSecs = some 0
  · simp [hzero]
  · rw [if_neg hzero, and_iff_right hzero, Except.ok.injEq]
    exact eq_comm

theorem prepare_eq_ok_iff {jobs : List Job} :
    (prepare (s.context arguments config) a).jobs = .ok jobs ↔ ∃ list registry,
      Targeted a config list ∧ a.timeoutSecs ≠ some 0 ∧ Registers s config registry ∧
      List.Forall₂ (Prepared (s.context arguments config) registry (optionsOf a config)) list
        jobs := by
  have hregistry : ∀ registry, (s.context arguments config).registry = .ok registry ↔
      Registers s config registry := by
    intro registry
    unfold Context.registry Registers
    cases hregister : Remote.register _ config.checks.remote <;>
      simp [Situation.context, Context.surroundings, hregister]
  have hoptions : ∀ checks, effectiveChecks a config.checks = .ok checks →
      checks.options = optionsOf a config := by
    intro checks hchecks
    obtain ⟨_, rfl⟩ := effectiveChecks_eq_ok_iff.mp hchecks
    have hdeferred : (!(a.offline || config.checks.offline)) = !decide (Offline a config) := by
      rw [Bool.eq_iff_iff, Bool.not_eq_true', Bool.not_eq_true', decide_eq_false_iff_not,
        ← Bool.not_eq_true, Bool.or_eq_true]
      rfl
    simp only [ChecksConfig.options, optionsOf, deadline, hdeferred]
  simp only [← targets_eq_ok_iff, ← hregistry]
  unfold prepare
  simp only [show (s.context arguments config).config = config from rfl]
  cases targets a config with
  | error e => simp
  | ok list =>
    cases hchecks : effectiveChecks a config.checks with
    | error e =>
      have hzero : a.timeoutSecs = some 0 := by
        by_contra hne
        cases hchecks.symm.trans (effectiveChecks_eq_ok_iff.mpr ⟨hne, rfl⟩)
      simp [hzero]
    | ok checks =>
      obtain ⟨hne, -⟩ := effectiveChecks_eq_ok_iff.mp hchecks
      cases (s.context arguments config).registry with
      | error e => simp
      | ok registry => simp [prepareTargets_eq_ok_iff, hoptions checks hchecks, hne]

end SettingsCheck.Command
