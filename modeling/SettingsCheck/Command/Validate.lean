import SettingsCheck.Command.Loading
import SettingsCheck.CommandLine.Arguments
import SettingsCheck.Redaction

namespace SettingsCheck.Command

open CommandLine (ValidateArguments)

/-- A document to check and the schema it must satisfy. -/
structure Target where
  name : String
  path : String
  schema : String
  deriving DecidableEq, Repr

/-- The documents of the command line, or else those of the configuration. -/
def targets (a : ValidateArguments) (config : Config) : Except CommandError (List Target) :=
  match a.documents, a.schema with
  | [], some _ => .error (.arguments "--schema needs at least one DOCUMENT")
  | [], none =>
    if config.documents.isEmpty then
      .error (.arguments
        ("nothing to validate: pass DOCUMENT paths with --schema or declare documents in " ++
          ".confgate.yaml"))
    else .ok (config.documents.map fun d => ⟨d.displayName, d.path, d.schema⟩)
  | _, none =>
    .error (.arguments "--schema is required when documents are named on the command line")
  | documents, some schema => .ok (documents.map fun path => ⟨path, path, schema⟩)

/-- The settings of the configuration under those of the command line. -/
def effectiveChecks (a : ValidateArguments) (checks : ChecksConfig) :
    Except CommandError ChecksConfig :=
  if a.timeoutSecs = some 0 then .error (.arguments "--timeout must be greater than zero")
  else .ok { checks with
    offline := a.offline || checks.offline
    timeoutSecs := a.timeoutSecs.getD checks.timeoutSecs
    failFast := a.failFast || checks.failFast
    maxErrors := a.maxErrors.getD checks.maxErrors }

/-- What is done before the checks: the messages, and the jobs unless something went wrong. -/
structure Preparation where
  messages : List Message
  jobs : Except CommandError (List Job)

/-- Reads the schemas and documents, one target after the other. -/
def prepareTargets (c : Context) (registry : Registry) (options : Options) :
    List Target → Preparation
  | [] => ⟨[], .ok []⟩
  | target :: rest =>
    match c.loadSchema registry target.schema with
    | .error e => ⟨[], .error e⟩
    | .ok validator =>
      let job : Job := ⟨target.name, c.loadDocument target.path, validator, options⟩
      let others := prepareTargets c registry options rest
      ⟨.info ("Validating " ++ target.path) :: others.messages, others.jobs.map (job :: ·)⟩

/-- The preparation of a run, or what is wrong with the arguments and settings. -/
def prepare (c : Context) (a : ValidateArguments) : Preparation :=
  match targets a c.config with
  | .error e => ⟨[], .error e⟩
  | .ok targets => match effectiveChecks a c.config.checks with
    | .error e => ⟨[], .error e⟩
    | .ok checks => match c.registry with
      | .error e => ⟨[], .error e⟩
      | .ok registry => prepareTargets c registry checks.options targets

/-- The documents that could be read, without their secrets. -/
def shownDocuments (jobs : List Job) : List Message :=
  jobs.flatMap fun job => match job.document with
    | .ok document =>
      [.heading ("Document: " ++ job.name), .data (Redaction.maskTree document.toJson)]
    | .error _ => []

/-- How a run ends with a report. -/
def verdict (report : BatchReport) : Except CommandError Unit :=
  if report.cancelled then .error .cancelled
  else if report.isValid then .ok ()
  else .error (.validationFailed report.totalErrors report.invalidDocuments.length)

/-- Says what was found. -/
def conclude (c : Context) (a : ValidateArguments) (jobs : List Job) (report : BatchReport) :
    Outcome where
  messages := .report report ::
    (if a.showDocuments && c.format = .human then shownDocuments jobs else []) ++
    (if report.cancelled then
      [.warning "Remote checks were cancelled; results are incomplete"]
    else [])
  result := verdict report

/-- Checks the documents, given how the deferred checks of the jobs end. -/
def validate (c : Context) (a : ValidateArguments)
    (complete : List Job → Nat → PendingCheck → CheckRun.Completion)
    (cancel : CheckRun.Cancellation) : Outcome :=
  let preparation := prepare c a
  match preparation.jobs with
  | .error e => ⟨preparation.messages, .error e⟩
  | .ok jobs =>
    let outcome := conclude c a jobs (checkBatch jobs (complete jobs) cancel)
    { outcome with messages := preparation.messages ++ outcome.messages }

/-- How the deferred checks end when one peer answers all of them, one after the other. -/
def completeWith (peer : Nat → Http.Request → Http.Answer) (jobs : List Job) :
    Nat → PendingCheck → CheckRun.Completion :=
  completionIn (Job.converseAll jobs peer)

/-- The requests that go out. Nothing is sent in a run that was cancelled before its start. -/
def requests (c : Context) (a : ValidateArguments) (peer : Nat → Http.Request → Http.Answer)
    (cancel : CheckRun.Cancellation) : List Http.Request :=
  match (prepare c a).jobs with
  | .error _ => []
  | .ok jobs =>
    if cancel = .before then []
    else (Job.converseAll jobs peer).flatMap (·.course.requests)

end SettingsCheck.Command
