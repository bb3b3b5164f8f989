import SettingsCheck.CommandError
import SettingsCheck.Text.Letters
import SettingsCheck.Source.Record

namespace SettingsCheck

/-- Variables of the environment. -/
abbrev Environment := String → Option String

inductive LogFormat where
  | compact
  | full
  | json
  deriving DecidableEq, Repr

namespace LogFormat

def name : LogFormat → String
  | compact => "compact"
  | full => "full"
  | json => "json"

def ofExactName? (name : String) : Option LogFormat :=
  match name with
  | "compact" => some compact
  | "full" => some full
  | "json" => some json
  | _ => none

/-- The format of a name in any case. -/
def ofName? (name : String) : Option LogFormat := ofExactName? (Text.lowerForWords name)

end LogFormat

/-- What a configuration file says about logging. -/
structure LoggingSettings where
  level : Option String := none
  format : Option String := none
  deriving DecidableEq, Repr

structure LoggingConfig where
  level : String := "warn"
  format : LogFormat := .compact
  ansi : Bool := true
  threadIds : Bool := false
  sourceLocation : Bool := false
  spanEvents : Bool := false
  /-- Levels for single modules, in the order of their names. -/
  moduleFilter : Fields String := []
  deriving DecidableEq, Repr

namespace LoggingConfig

/-- How much is logged for some number of requests for more. -/
def ofVerbosity : Nat → LoggingConfig
  | 0 => {}
  | 1 => { level := "info" }
  | 2 => { level := "debug", sourceLocation := true }
  | _ =>
    { level := "trace", format := .full, sourceLocation := true, threadIds := true
      spanEvents := true }

/-- The level of the settings counts unless more was asked for. -/
def withSettings (c : LoggingConfig) (settings : LoggingSettings) (verbosity : Nat) :
    LoggingConfig :=
  { c with
    level := if verbosity = 0 then settings.level.getD c.level else c.level
    format := (settings.format.bind LogFormat.ofName?).getD c.format }

def levelVariable : String := "RUST_LOG"

def formatVariable : String := "CONFGATE_LOG_FORMAT"

def withEnvironment (c : LoggingConfig) (environment : Environment) : LoggingConfig :=
  { c with
    level := (environment levelVariable).getD c.level
    format := ((environment formatVariable).bind LogFormat.ofName?).getD c.format }

/-- The complaint about a format in the environment that is none. -/
def formatWarning? (environment : Environment) : Option String :=
  match environment formatVariable with
  | none => none
  | some name =>
    if (LogFormat.ofName? name).isSome then none
    else some ("Warning: invalid " ++ formatVariable ++ " '" ++ name ++ "', using default")

def ofSource? (s : Source) : Option LoggingConfig := do
  let r ← s.record? ["level", "format", "ansi", "thread_ids", "source_location", "span_events",
    "module_filter"]
  return {
    level := ← r.required 0 Source.text?
    format := ← r.required 1 fun s => s.text?.bind LogFormat.ofExactName?
    ansi := ← r.required 2 Source.bool?
    threadIds := ← r.required 3 Source.bool?
    sourceLocation := ← r.required 4 Source.bool?
    spanEvents := ← r.required 5 Source.bool?
    moduleFilter := ← r.required 6 fun s => (s.tableOf? Source.text?).map Fields.ofList }

def toJson (c : LoggingConfig) : Json :=
  .object [("level", .string c.level), ("format", .string c.format.name), ("ansi", .bool c.ansi),
    ("thread_ids", .bool c.threadIds), ("source_location", .bool c.sourceLocation),
    ("span_events", .bool c.spanEvents),
    ("module_filter", .object (c.moduleFilter.map fun (name, level) => (name, .string level)))]

end LoggingConfig

namespace LogFilter

/-- A level by its name in any case or by its number; none is a level, too. -/
def isLevel (word : String) : Bool :=
  ["", "error", "warn", "info", "debug", "trace", "off"].contains (Text.lowerAscii word) ||
    (unsigned64? word).any (· ≤ 5)

def startsDirective (c : Char) : Bool :=
  Text.isAlphanumeric c || c == '-' || c == ':' || c == '_' || c == '['

/-- A level, a target, or a target with a level behind an equals sign. -/
def isDirective (piece : String) : Bool :=
  match (Text.trim piece).toList with
  | [] => true
  | c :: rest =>
    startsDirective c && match (c :: rest).dropWhile (· ≠ '=') with
      | [] => true
      | _ :: level => isLevel (String.ofList level)

def isFilter (level : String) : Bool := (Text.split ',' level).all isDirective

/-- Whether a filter can be made of the level and of the levels for single modules. -/
def check (c : LoggingConfig) : Except CommandError Unit :=
  if !isFilter c.level then .error (.config ("invalid log level '" ++ c.level ++ "'"))
  else if c.moduleFilter.all fun (name, level) => isDirective (name ++ "=" ++ level) then .ok ()
  else .error (.config "invalid filter directive")

end LogFilter

end SettingsCheck
