import SettingsCheck.Report

namespace SettingsCheck

structure Job where
  name : String
  /-- The document, or why it could not be read. -/
  document : Except String Value
  validator : DocumentValidator
  options : Options := {}

structure DocumentReport where
  name : String
  report : Report
  deriving DecidableEq, Repr

namespace Job

/-- What the walk of a readable document left to be run. -/
def toRun (job : Job) : List PendingCheck :=
  match job.document with
  | .error _ => []
  | .ok document =>
    let s := job.validator.checkStructure job.options document
    if s.crashed then [] else s.toRun job.options

/-- The report of one document, given how its deferred checks end. -/
def report (job : Job) (complete : PendingCheck → CheckRun.Completion)
    (cancel : CheckRun.Cancellation) : Report :=
  match job.document with
  | .error reason => .fatal reason
  | .ok document =>
    let s := job.validator.checkStructure job.options document
    if s.crashed then .fatal "validation did not complete"
    else s.report job.options complete cancel

end Job

structure BatchReport where
  /-- In the order of the jobs. -/
  documents : List DocumentReport := []
  deriving DecidableEq, Repr

namespace BatchReport

def isValid (b : BatchReport) : Bool := b.documents.all (·.report.isValid)

def totalErrors (b : BatchReport) : Nat := (b.documents.flatMap (·.report.errors)).length

def totalWarnings (b : BatchReport) : Nat := (b.documents.flatMap (·.report.warnings)).length

def invalidDocuments (b : BatchReport) : List DocumentReport :=
  b.documents.filter (!·.report.isValid)

def cancelled (b : BatchReport) : Bool := b.documents.any (·.report.cancelled)

end BatchReport

/-- Checks the documents, given how the deferred checks of each job end. -/
def checkBatch (jobs : List Job) (complete : Nat → PendingCheck → CheckRun.Completion)
    (cancel : CheckRun.Cancellation) : BatchReport where
  documents := jobs.zipIdx.map fun (job, i) => ⟨job.name, job.report (complete i) cancel⟩

/-- One deferred check of a batch after its dialogue: the job, the place, and how it went. -/
structure Conversation where
  job : Nat
  path : FieldPath
  course : Http.Dialogue.Course Verdict

/-- Runs the dialogues one after the other with one peer. -/
def converse (peer : Nat → Http.Request → Http.Answer) :
    Nat → List (Nat × PendingCheck) → List Conversation
  | _, [] => []
  | n, (job, check) :: rest =>
    let course := check.dialogue.run peer n
    ⟨job, check.site.path, course⟩ :: converse peer (n + course.requests.length) rest

/-- The dialogues of a whole batch, in the order of jobs and of places. -/
def Job.converseAll (jobs : List Job) (peer : Nat → Http.Request → Http.Answer) :
    List Conversation :=
  converse peer 0 (jobs.zipIdx.flatMap fun (job, i) => job.toRun.map (i, ·))

/-- How a check ends, looked up among the dialogues that were run. -/
def completionIn (conversations : List Conversation) (job : Nat) (check : PendingCheck) :
    CheckRun.Completion :=
  match conversations.find? fun c => c.job == job && c.path == check.site.path with
  | some c => .ofCourse c.course
  | none => ⟨none, .crashed⟩

end SettingsCheck
