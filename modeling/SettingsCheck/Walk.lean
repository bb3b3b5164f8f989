import SettingsCheck.Gate
import SettingsCheck.Registry
import SettingsCheck.Schema.Shape

/-!
The walk through a document and its schema. It meets the nodes in a fixed order and leaves a
sequence of events; once it has met as many errors as allowed it adds nothing more.
-/

namespace SettingsCheck

/-- A deferred check that waits for the end of the walk. -/
structure PendingCheck where
  validator : String
  site : Site
  value : Value
  dialogue : Http.Dialogue Verdict

inductive Event where
  | error (e : ValidationError)
  | warning (w : Warning)
  | queued (c : PendingCheck)

namespace Event

@[simp]
def error? : Event → Option ValidationError
  | error e => some e
  | _ => none

@[simp]
def warning? : Event → Option Warning
  | warning w => some w
  | _ => none

@[simp]
def queued? : Event → Option PendingCheck
  | queued c => some c
  | _ => none

end Event

/-- Why a walk adds nothing more. -/
inductive Stop where
  | enoughErrors
  /-- A validator broke off without an answer. -/
  | crash
  deriving DecidableEq, Repr

namespace Walk

/-- What does not change during a walk. A limit of zero allows any number of errors. -/
structure Setting where
  registry : Registry
  root : Value
  limit : Nat

structure Progress where
  /-- Latest first. -/
  events : List Event := []
  errors : Nat := 0
  stop : Option Stop := none

namespace Progress

def stopped (p : Progress) : Bool := p.stop.isSome

/-- Adds an event. A walk that has stopped takes no more errors; that it comes to no other event
then is up to the walk. -/
def add (limit : Nat) (p : Progress) : Event → Progress
  | .error e =>
    if p.stopped then p
    else
      { events := .error e :: p.events
        errors := p.errors + 1
        stop := if limit ≠ 0 ∧ limit ≤ p.errors + 1 then some .enoughErrors else none }
  | event => { p with events := event :: p.events }

def addError (limit : Nat) (p : Progress) (e : ValidationError) : Progress := p.add limit (.error e)

def addWarnings (limit : Nat) (path : FieldPath) (p : Progress) (messages : List String) :
    Progress :=
  messages.foldl (fun p message => p.add limit (.warning ⟨path, message⟩)) p

end Progress

open Progress

/-- An error for every name that the rules do not declare. -/
def addUnknown (s : Setting) (rules : List String) (path : FieldPath) (names : List String)
    (p : Progress) : Progress :=
  names.foldl (fun p name =>
    if rules.contains name then p else p.addError s.limit (.unknownField (path.key name))) p

/-- Runs a validator that answers at once; the flag says whether it accepted. -/
def runValidator (s : Setting) (name : String) (validator : Validator) (site : Site) (value : Value)
    (p : Progress) : Progress × Bool :=
  let judgement := validator site value
  let p := addWarnings s.limit site.path p judgement.warnings
  match judgement.verdict with
  | .accepted => (p, true)
  | .refused reason => (p.addError s.limit (.custom site.path name reason), false)
  | .crashed => ({ p with stop := some .crash }, false)

def runCustom (s : Setting) (name : String) (site : Site) (value : Value) (p : Progress) :
    Progress :=
  match s.registry.get? name with
  | none =>
    p.addError s.limit
      (.custom site.path name ("no validator registered for type '" ++ name ++ "'"))
  | some (.immediate validator) => (runValidator s name validator site value p).1
  | some (.deferred precheck dialogue) =>
    let (p, passed) := match precheck with
      | none => (p, true)
      | some validator => runValidator s name validator site value p
    if passed then p.add s.limit (.queued ⟨name, site, value, dialogue site value⟩) else p

/-- Visits the elements of an array in turn until the walk stops. -/
def eachElement (visit : Value → FieldPath → Progress → Progress) (path : FieldPath) :
    Nat → List Value → Progress → Progress
  | _, [], p => p
  | i, v :: rest, p =>
    if p.stopped then p else eachElement visit path (i + 1) rest (visit v (path.index i) p)

mutual
/-- A node that is looked at. -/
def matchValue (s : Setting) : Rule → Value → Mapping → FieldPath → Progress → Progress
  | ⟨fieldType, _, properties, items, _, _, _⟩, value, parent, path, p =>
    let mismatch := p.addError s.limit (.typeMismatch path (fieldType.mismatch value))
    if value.isNull then mismatch
    else match fieldType with
      | .object => match value.mapping? with
        | some mapping =>
          matchFields s properties mapping path
            (addUnknown s (properties.map Prod.fst) path mapping.names p)
        | none => mismatch
      | .array => match value.sequence? with
        | some elements => matchElements s items elements parent path p
        | none => mismatch
      | .custom name => runCustom s name ⟨s.root, parent, path⟩ value p
      | scalar => if scalar.accepts value then p else mismatch

/-- The fields that the rules of a mapping declare. -/
def matchFields (s : Setting) :
    List (String × Rule) → Mapping → FieldPath → Progress → Progress
  | [], _, _, p => p
  | (name, rule) :: rest, mapping, path, p =>
    if p.stopped then p
    else
      let p := match mapping.get? name with
        | none =>
          if rule.requiredIn mapping && rule.validatedIn mapping then
            p.addError s.limit (.missingField (path.key name))
          else p
        | some value =>
          if rule.validatedIn mapping then matchValue s rule value mapping (path.key name) p else p
      matchFields s rest mapping path p

/-- The elements of an array. -/
def matchElements (s : Setting) :
    Option Rule → List Value → Mapping → FieldPath → Progress → Progress
  | none, _, _, _, p => p
  | some rule, elements, parent, path, p =>
    eachElement (fun v path p => matchValue s rule v parent path p) path 0 elements p
end

/-- Walks the fields of a mapping, undeclared ones first. -/
def walkFields (s : Setting) (rules : Rules) (mapping : Mapping) (path : FieldPath) (p : Progress) :
    Progress :=
  matchFields s rules mapping path (addUnknown s (rules.map Prod.fst) path mapping.names p)

end Walk

end SettingsCheck
