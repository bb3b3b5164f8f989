import SettingsCheck.Batch

/-!
Checking several documents side by side. Each document that could be read has a task of its own; the
tasks go on in any order, watch one cancellation, and are joined as they end. A joined task puts its
report into the slot of its document. The steps are those of a machine, as in the run of deferred
checks that each task contains.
-/

namespace SettingsCheck

/-- The checks that are run after the walk, as the run of them names them. -/
def StructuralOutcome.labels (s : StructuralOutcome) (options : Options) : List CheckLabel :=
  (s.toRun options).map fun c => ⟨c.validator, c.site.path⟩

/-- The report of a document that is checked alone, given whether the cancellation came before its
checks were dispatched, and how the run of its checks moves. There is none if a validator breaks off
during the walk. -/
def DocumentValidator.check (v : DocumentValidator) (options : Options) (document : Value)
    (before : Bool) (ms : List CheckRun.Move) : Option Report :=
  let s := v.checkStructure options document
  if s.crashed then none
  else some (s.conclude options (CheckRun.outcomeOf (s.labels options) before ms))

/-- The report of a job whose slot is empty when all tasks are joined. -/
def Report.incomplete : Report := .fatal "validation did not complete"

namespace BatchRun

/-- The task of a document that could be read. -/
inductive Task where
  | ready (validator : DocumentValidator) (options : Options) (document : Value)
  /-- The walk is over and the deferred checks are running. -/
  | checking (options : Options) (s : StructuralOutcome) (run : CheckRun.State)
  /-- There is no report if the task broke off. -/
  | ended (report : Option Report)

namespace Task

def ofJob? (job : Job) : Option Task :=
  match job.document with
  | .error _ => none
  | .ok document => some (.ready job.validator job.options document)

/-- Walks the document and dispatches the checks, unless the cancellation has been raised. -/
def begin (raised : Bool) : Task → Task
  | ready v options document =>
    let s := v.checkStructure options document
    if s.crashed then ended none
    else if (s.labels options).isEmpty || raised then
      ended (some (s.conclude options (CheckRun.outcomeOf (s.labels options) raised [])))
    else checking options s (.start (s.labels options))
  | task => task

/-- The run of the checks makes a move; it is not cancelled before the cancellation is raised. -/
def check (raised : Bool) (m : CheckRun.Move) : Task → Task
  | checking options s run =>
    if m = .cancels ∧ raised = false then checking options s run
    else if (run.move m).finished then ended (some (s.conclude options (run.move m).outcome))
    else checking options s (run.move m)
  | task => task

end Task

structure State where
  raised : Bool := false
  /-- The tasks that are not joined, each with the index of its slot. -/
  tasks : List (Nat × Task)
  /-- One for each job. -/
  slots : List (Option Report)

inductive Move where
  | raises
  | starts (i : Nat)
  | checks (i : Nat) (m : CheckRun.Move)
  /-- The collector takes what the task has returned. -/
  | joins (i : Nat)
  deriving DecidableEq, Repr

namespace State

/-- A document that could not be read has no task, and its slot is filled. -/
def start (jobs : List Job) : State where
  tasks := jobs.zipIdx.filterMap fun (job, i) => (Task.ofJob? job).map (i, ·)
  slots := jobs.map fun job => match job.document with
    | .error reason => some (.fatal reason)
    | .ok _ => none

def update (s : State) (i : Nat) (f : Task → Task) : State :=
  { s with tasks := s.tasks.map fun (j, task) => (j, if j = i then f task else task) }

/-- Only a task that has ended can be joined. -/
def join (s : State) (i : Nat) : State :=
  match s.tasks.lookup i with
  | some (.ended report) =>
    { s with
      tasks := s.tasks.filter (·.1 != i)
      slots := match report with
        | some report => s.slots.set i (some report)
        | none => s.slots }
  | _ => s

/-- A move that is not possible changes nothing. -/
def move (s : State) : Move → State
  | .raises => { s with raised := true }
  | .starts i => s.update i (.begin s.raised)
  | .checks i m => s.update i (.check s.raised m)
  | .joins i => s.join i

def moves (s : State) (ms : List Move) : State := ms.foldl move s

/-- The report of the batch, once no task is left. -/
def report (s : State) (jobs : List Job) : BatchReport where
  documents := (jobs.zip s.slots).map fun (job, slot) => ⟨job.name, slot.getD .incomplete⟩

theorem moves_append (s : State) (ms rest : List Move) :
    s.moves (ms ++ rest) = (s.moves ms).moves rest :=
  List.foldl_append

end State

end BatchRun

end SettingsCheck
