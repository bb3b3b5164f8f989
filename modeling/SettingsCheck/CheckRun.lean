import SettingsCheck.Walk

/-!
Running deferred checks side by side. Each check is a task of its own with a deadline; tasks send
reports, a collector takes them, and a cancellation ends the run early. The run is a machine whose
steps may come in any order; the virtual clock at the end is one way to order them.
-/

namespace SettingsCheck

/-- Which check a task runs, and for which place. -/
structure CheckLabel where
  validator : String
  path : FieldPath
  deriving DecidableEq, Repr

/-- What a task sends: acceptance, or the reason for a refusal. -/
inductive TaskResult where
  | accepted
  | refused (reason : String)
  deriving DecidableEq, Repr

def TaskResult.error? (label : CheckLabel) : TaskResult → Option ValidationError
  | accepted => none
  | refused reason => some (.remote label.path label.validator reason)

namespace CheckRun

structure State where
  /-- Tasks that have not ended. -/
  running : List Nat
  /-- Reports that were sent and not yet taken, in the order of sending. -/
  queue : List (Nat × TaskResult) := []
  /-- Tasks whose report was not taken. -/
  inFlight : List (Nat × CheckLabel)
  dispatched : Nat
  completed : Nat := 0
  errors : List ValidationError := []
  cancelled : Bool := false
  /-- The collector has stopped. -/
  finished : Bool := false

inductive Move where
  /-- A task ends and sends its report. -/
  | ends (id : Nat) (result : TaskResult)
  /-- A task ends without a report. -/
  | vanishes (id : Nat)
  /-- The collector takes the next report. -/
  | takes
  /-- The collector learns that no report can come any more. -/
  | closes
  | cancels
  deriving DecidableEq, Repr

/-- All checks are dispatched at once. -/
def State.start (labels : List CheckLabel) : State where
  running := List.range labels.length
  inFlight := labels.zipIdx.map fun (label, id) => (id, label)
  dispatched := labels.length

namespace State

/-- Takes note of a report; one of an unknown task is ignored. -/
def record (s : State) (id : Nat) (result : TaskResult) : State :=
  match s.inFlight.lookup id with
  | none => s
  | some label =>
    { s with
      inFlight := s.inFlight.filter (·.1 != id)
      completed := s.completed + 1
      errors := s.errors ++ (result.error? label).toList }

@[simp]
theorem record_queue (s : State) (id : Nat) (result : TaskResult) :
    (s.record id result).queue = s.queue := by
  unfold record
  split <;> rfl

@[simp]
theorem record_running (s : State) (id : Nat) (result : TaskResult) :
    (s.record id result).running = s.running := by
  unfold record
  split <;> rfl

@[simp]
theorem record_finished (s : State) (id : Nat) (result : TaskResult) :
    (s.record id result).finished = s.finished := by
  unfold record
  split <;> rfl

/-- The error of a check that the cancellation cut off. -/
def cutOff (label : CheckLabel) : ValidationError :=
  .remote label.path label.validator "cancelled before completion"

/-- Takes the reports that wait, all at once. -/
def drain (s : State) : State :=
  s.queue.foldl (fun s (id, result) => s.record id result) { s with queue := [] }

/-- Stops with an error for every check that is still in flight. -/
def writeOff (s : State) : State :=
  { s with
    running := []
    errors := s.errors ++ s.inFlight.map fun (_, label) => cutOff label
    inFlight := []
    cancelled := true
    finished := true }

/-- A move that is not possible changes nothing. -/
def move (s : State) (m : Move) : State :=
  if s.finished then s
  else match m with
    | .ends id result =>
      if s.running.contains id then
        { s with running := s.running.filter (· != id), queue := s.queue ++ [(id, result)] }
      else s
    | .vanishes id => { s with running := s.running.filter (· != id) }
    | .takes => match s.queue with
      | [] => s
      | (id, result) :: rest => { s with queue := rest }.record id result
    | .closes => if s.running.isEmpty && s.queue.isEmpty then { s with finished := true } else s
    | .cancels => s.drain.writeOff

theorem move_of_finished {s : State} (h : s.finished = true) (m : Move) : s.move m = s := by
  simp [move, h]

theorem move_ends_of_mem {s : State} (hf : s.finished = false) {id : Nat} (hid : id ∈ s.running)
    (result : TaskResult) :
    s.move (.ends id result) =
      { s with running := s.running.filter (· != id), queue := s.queue ++ [(id, result)] } := by
  simp [move, hf, hid]

theorem move_ends_of_not_mem {s : State} {id : Nat} (hid : id ∉ s.running) (result : TaskResult) :
    s.move (.ends id result) = s := by
  simp [move, hid]

theorem move_takes_of_nil {s : State} (hq : s.queue = []) : s.move .takes = s := by
  simp [move, hq]

theorem move_takes_of_cons {s : State} (hf : s.finished = false) {id : Nat} {result : TaskResult}
    {rest : List (Nat × TaskResult)} (hq : s.queue = (id, result) :: rest) :
    s.move .takes = ({ s with queue := rest } : State).record id result := by
  simp [move, hf, hq]

theorem move_closes_of_empty {s : State} (hf : s.finished = false) (hr : s.running = [])
    (hq : s.queue = []) : s.move .closes = { s with finished := true } := by
  simp [move, hf, hr, hq]

theorem move_closes_of_not_empty {s : State} (h : ¬(s.running = [] ∧ s.queue = [])) :
    s.move .closes = s := by
  simp only [move, Bool.and_eq_true, List.isEmpty_iff, if_neg h, ite_self]

theorem move_cancels {s : State} (hf : s.finished = false) :
    s.move .cancels = s.drain.writeOff := by
  simp [move, hf]

def moves (s : State) (ms : List Move) : State := ms.foldl move s

theorem moves_append (s : State) (ms rest : List Move) :
    s.moves (ms ++ rest) = (s.moves ms).moves rest :=
  List.foldl_append

theorem moves_of_finished {s : State} (h : s.finished = true) (ms : List Move) :
    s.moves ms = s := by
  induction ms with
  | nil => rfl
  | cons m ms ih => exact (congrArg (moves · ms) (move_of_finished h m)).trans ih

end State

structure Outcome where
  /-- In the order of paths and messages. -/
  errors : List ValidationError := []
  completed : Nat := 0
  dispatched : Nat := 0
  cancelled : Bool := false
  deriving DecidableEq, Repr

def State.outcome (s : State) : Outcome where
  errors := ValidationError.sortByPathAndMessage s.errors
  completed := s.completed
  dispatched := s.dispatched
  cancelled := s.cancelled

/-- What comes of some checks under a sequence of moves, if the cancellation was not raised before
the start. -/
def outcomeOf (labels : List CheckLabel) (cancelledBefore : Bool) (ms : List Move) : Outcome :=
  if labels.isEmpty then {}
  else if cancelledBefore then { cancelled := true }
  else ((State.start labels).moves ms).outcome

/-- When a check ends by itself, if ever, and with what verdict. -/
structure Completion where
  /-- In nanoseconds from the start. -/
  endsAt : Option Nat
  verdict : Verdict

def Completion.ofCourse (course : Http.Dialogue.Course Verdict) : Completion :=
  match course.result with
  | some verdict => ⟨some course.waited, verdict⟩
  | none => ⟨none, .crashed⟩

/-- Whole seconds as such, anything else in whole milliseconds. -/
def durationText (nanoseconds : Nat) : String :=
  let milliseconds := nanoseconds / 1000000
  if milliseconds % 1000 = 0 then toString (milliseconds / 1000) ++ "s"
  else toString milliseconds ++ "ms"

/-- What the task of a check sends under a deadline. -/
def taskResult (deadline : Nat) (c : Completion) : TaskResult :=
  let late := TaskResult.refused ("timed out after " ++ durationText deadline)
  match c.endsAt with
  | none => late
  | some t =>
    if deadline < t then late
    else match c.verdict with
      | .accepted => .accepted
      | .refused reason => .refused reason
      | .crashed => .refused "validator panicked"

/-- When the task of a check ends. -/
def taskEnd (deadline : Nat) (c : Completion) : Nat :=
  match c.endsAt with
  | none => deadline
  | some t => min t deadline

/-- When a run is cancelled. -/
inductive Cancellation where
  | never
  | before
  | after (nanoseconds : Nat)
  deriving DecidableEq, Repr

/-- The moves of a run in which each report is taken as soon as it is sent. A cancellation at the
time of the last report is still seen. -/
def clockedMoves (deadline : Nat) (completions : List Completion) (cancel : Cancellation) :
    List Move :=
  let tasks : List (Completion × Nat) :=
    completions.zipIdx.mergeSort fun a b => taskEnd deadline a.1 ≤ taskEnd deadline b.1
  let ended : List (Completion × Nat) := match cancel with
    | .after t => tasks.filter fun task => taskEnd deadline task.1 ≤ t
    | _ => tasks
  let closed : Bool := match cancel with
    | .after t => tasks.all fun task => taskEnd deadline task.1 < t
    | _ => true
  let ends := ended.flatMap fun (c, id) => [Move.ends id (taskResult deadline c), Move.takes]
  ends ++ [if closed then .closes else .cancels]

/-- The run of checks by the clock. -/
def clocked (deadline : Nat) (checks : List (CheckLabel × Completion)) (cancel : Cancellation) :
    Outcome :=
  outcomeOf (checks.map Prod.fst) (cancel == .before)
    (clockedMoves deadline (checks.map Prod.snd) cancel)

/-- How long such a run takes. -/
def elapsed (deadline : Nat) (checks : List (CheckLabel × Completion)) (cancel : Cancellation) :
    Nat :=
  let all := (checks.map fun (_, c) => taskEnd deadline c).foldl max 0
  match cancel with
  | .never => all
  | .before => 0
  | .after t => min t all

end CheckRun

end SettingsCheck
