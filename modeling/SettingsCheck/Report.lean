import SettingsCheck.CheckRun

namespace SettingsCheck

structure Options where
  /-- The deadline of each deferred check, in nanoseconds. -/
  callTimeout : Nat := 10000000000
  runDeferred : Bool := true
  /-- Stop at the first error. -/
  failFast : Bool := false
  /-- How many errors to report; zero for all. -/
  maxErrors : Nat := 0
  sortErrors : Bool := true
  deriving DecidableEq, Repr

/-- How many errors the walk may meet; zero for any number. -/
def Options.limit (options : Options) : Nat := if options.failFast then 1 else options.maxErrors

/-- A schema and a registry that has every validator the schema names. -/
structure DocumentValidator where
  schema : Schema
  registry : Registry
  resolved : ∀ use ∈ schema.customTypes, registry.has use.2

/-- The first custom type without a validator is the fault. -/
def DocumentValidator.ofSchema (schema : Schema) (registry : Registry) :
    Except SchemaError DocumentValidator :=
  match h : schema.customTypes.find? fun use => !registry.has use.2 with
  | some (path, name) => .error (.unknownValidator path name)
  | none => .ok ⟨schema, registry, fun use hu => by
      have := List.find?_eq_none.mp h use hu; simpa using this⟩

/-- What the walk found. -/
structure StructuralOutcome where
  errors : List ValidationError := []
  warnings : List Warning := []
  pending : List PendingCheck := []
  /-- The document is no mapping, so nothing could be walked. -/
  fatal : Bool := false
  /-- A validator broke off, and there is no answer. -/
  crashed : Bool := false

namespace Walk.Progress

/-- The events in the order in which they came. -/
def sequence (p : Progress) : List Event := p.events.reverse

def outcome (p : Progress) : StructuralOutcome where
  errors := p.sequence.filterMap Event.error?
  warnings := p.sequence.filterMap Event.warning?
  pending := p.sequence.filterMap Event.queued?
  crashed := p.stop == some .crash

end Walk.Progress

namespace DocumentValidator

/-- The walk through a mapping. -/
def walk (v : DocumentValidator) (limit : Nat) (root : Value) (mapping : Mapping) : Walk.Progress :=
  Walk.walkFields ⟨v.registry, root, limit⟩ v.schema.fields mapping .root {}

def checkStructure (v : DocumentValidator) (options : Options) (document : Value) :
    StructuralOutcome :=
  match document.mapping? with
  | none =>
    { errors := [.fatal ("document root must be a mapping, found " ++ document.kind)]
      fatal := true }
  | some mapping => (v.walk options.limit document mapping).outcome

end DocumentValidator

structure Report where
  errors : List ValidationError := []
  warnings : List Warning := []
  /-- How many deferred checks were dispatched. -/
  checksRun : Nat := 0
  cancelled : Bool := false
  deriving DecidableEq, Repr

namespace Report

def isValid (r : Report) : Bool := r.errors.isEmpty

/-- The report of a document that could not be checked. -/
def fatal (reason : String) : Report := { errors := [.fatal reason] }

end Report

namespace StructuralOutcome

/-- The checks that are run after the walk. -/
def toRun (s : StructuralOutcome) (options : Options) : List PendingCheck :=
  if s.fatal || (options.failFast && !s.errors.isEmpty) || !options.runDeferred then []
  else s.pending

/-- These checks as the run of them sees them, given how each ends. -/
def checks (s : StructuralOutcome) (options : Options)
    (complete : PendingCheck → CheckRun.Completion) : List (CheckLabel × CheckRun.Completion) :=
  (s.toRun options).map fun c => (⟨c.validator, c.site.path⟩, complete c)

/-- The report, given what came of the checks that were run. -/
def conclude (s : StructuralOutcome) (options : Options) (run : CheckRun.Outcome) : Report :=
  let errors := s.errors ++ run.errors
  let errors := if options.sortErrors then ValidationError.sortByPath errors else errors
  { errors := if options.maxErrors > 0 then errors.take options.maxErrors else errors
    warnings := s.warnings
    checksRun := run.dispatched
    cancelled := run.cancelled }

/-- The report of a run by the clock, given how each check ends. -/
def report (s : StructuralOutcome) (options : Options)
    (complete : PendingCheck → CheckRun.Completion) (cancel : CheckRun.Cancellation) : Report :=
  s.conclude options (CheckRun.clocked options.callTimeout (s.checks options complete) cancel)

end StructuralOutcome

end SettingsCheck
