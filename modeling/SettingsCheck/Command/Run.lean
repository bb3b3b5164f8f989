import SettingsCheck.Command.Schema
import SettingsCheck.Command.Validate

namespace SettingsCheck.Command

open CommandLine (Arguments UsageError)

/-- What a run finds around itself. -/
structure Situation where
  files : FileView
  environment : Environment
  /-- Whether the output goes to a terminal. -/
  terminal : Bool := false

namespace Situation

def zoneinfo (s : Situation) : String :=
  (s.environment "ZONEINFO").getD "/usr/share/zoneinfo"

def useColour (s : Situation) (a : Arguments) : Bool := s.terminal && !a.noColour

def context (s : Situation) (a : Arguments) (config : Config) : Context where
  files := s.files
  zoneinfo := s.zoneinfo
  config := config
  format := a.output.getD config.outputFormat

def writer (s : Situation) (a : Arguments) (config : Config) : Writer where
  format := a.output.getD config.outputFormat
  colour := s.useColour a && config.output.colour
  quiet := a.quiet

/-- The logging that the arguments, the configuration and the environment ask for. -/
def logging (s : Situation) (a : Arguments) (config : Config) : LoggingConfig :=
  let asked := (LoggingConfig.ofVerbosity a.verbosity).withSettings config.logging a.verbosity
  let c := asked.withEnvironment s.environment
  { c with ansi := s.useColour a, level := if a.quiet then "error" else c.level }

/-- The complaints about the logging that was asked for. They do not end a run. -/
def loggingNotes (s : Situation) (a : Arguments) (config : Config) : List String :=
  (LoggingConfig.formatWarning? s.environment).toList ++
    match LogFilter.check (s.logging a config) with
    | .error e => ["Failed to initialize logging: " ++ e.message]
    | .ok () => []

def loadConfig (s : Situation) (a : Arguments) : Except CommandError Config :=
  Config.load s.files s.environment a.config

end Situation

/-- What a run leaves behind. -/
structure Finished where
  output : String
  /-- Lines on the error output before the last one. -/
  notes : List String
  result : Except CommandError Unit

namespace Finished

def exitCode (f : Finished) : Nat :=
  match f.result with
  | .ok () => 0
  | .error e => e.exitCode

/-- All lines on the error output. -/
def errorLines (colour : Bool) (f : Finished) : List String :=
  f.notes ++ match f.result with
    | .ok () => []
    | .error e =>
      e.line colour :: if e.hasHelpHint then ["", CommandError.helpHint] else []

end Finished

/-- The words that a shell may complete. -/
def completionWords : List String := Arguments.grammar.program.commands

/-- The command of some arguments. -/
def command (c : Context) (a : Arguments)
    (complete : List Job → Nat → PendingCheck → CheckRun.Completion)
    (cancel : CheckRun.Cancellation) : Outcome :=
  match a.command with
  | .validate arguments => validate c arguments complete cancel
  | .schema arguments => schema c arguments
  | .completions _ => ⟨completionWords.map .line, .ok ()⟩

/-- A run with some arguments. -/
def run (s : Situation) (a : Arguments)
    (complete : List Job → Nat → PendingCheck → CheckRun.Completion)
    (cancel : CheckRun.Cancellation) : Finished :=
  match s.loadConfig a with
  | .error e => ⟨"", [], .error e⟩
  | .ok config =>
    let outcome := command (s.context a config) a complete cancel
    ⟨(s.writer a config).output outcome.messages, s.loggingNotes a config, outcome.result⟩

/-- The requests that go out during a run. -/
def sent (s : Situation) (a : Arguments) (peer : Nat → Http.Request → Http.Answer)
    (cancel : CheckRun.Cancellation) : List Http.Request :=
  match s.loadConfig a, a.command with
  | .ok config, .validate arguments => requests (s.context a config) arguments peer cancel
  | _, _ => []

/-- What the program is called like. -/
def usage : String :=
  "Usage: " ++ Arguments.programName ++ " [OPTIONS] <" ++
    Text.joinWith "|" completionWords ++ "> [ARGUMENTS]\n"

/-- What is left on the output when there is no run. -/
def usageOutput : UsageError → String
  | .version title => title ++ " 0.1.0\n"
  | .help => usage
  | _ => ""

end SettingsCheck.Command
