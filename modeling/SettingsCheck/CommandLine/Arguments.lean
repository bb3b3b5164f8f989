import SettingsCheck.CommandLine.Matches
import SettingsCheck.Output.Format

namespace SettingsCheck.CommandLine

structure ValidateArguments where
  /-- The documents to check; those of the configuration if there are none. -/
  documents : List String := []
  /-- The schema of the named documents. -/
  schema : Option String := none
  offline : Bool := false
  timeoutSecs : Option Nat := none
  failFast : Bool := false
  maxErrors : Option Nat := none
  /-- Show each document after its report. -/
  showDocuments : Bool := false
  deriving DecidableEq, Repr

structure SchemaArguments where
  file : String
  showRules : Bool := false
  deriving DecidableEq, Repr

inductive Command where
  | validate (arguments : ValidateArguments)
  | schema (arguments : SchemaArguments)
  /-- Write completions for a shell. -/
  | completions (shell : String)
  deriving DecidableEq, Repr

structure Arguments where
  /-- How often more output was asked for. -/
  verbose : Nat := 0
  quiet : Bool := false
  /-- The configuration file. -/
  config : Option String := none
  output : Option OutputFormat := none
  noColour : Bool := false
  command : Command
  deriving DecidableEq, Repr

namespace Arguments

def verbosity (a : Arguments) : Nat := if a.quiet then 0 else a.verbose

def configVariable : String := "CONFGATE_CONFIG"

/-- The options that every command takes. -/
def globalOptions : List OptionSpec :=
  [{ long := "verbose", short := 'v', kind := .counter },
    { long := "quiet", short := 'q', kind := .flag },
    { long := "config", short := 'c', kind := .value .path, fallback := configVariable },
    { long := "output", short := 'o'
      kind := .value (.oneOf ["human", "json", "yaml", "json-pretty"]) },
    { long := "no-color", kind := .flag },
    { long := "help", short := 'h', kind := .help },
    { long := "version", short := 'V', kind := .version }]

def programName : String := "confgate"

def commandLevel (name : String) (options : List OptionSpec) (position : PositionSpec) : Level where
  title := programName ++ "-" ++ name
  options := options ++ globalOptions
  position := position
  exclusive := [("quiet", "verbose")]

def validateLevel : Level :=
  commandLevel "validate"
    [{ long := "schema", short := 's', kind := .value .path },
      { long := "offline", kind := .flag },
      { long := "timeout", kind := .value .natural },
      { long := "fail-fast", kind := .flag },
      { long := "max-errors", kind := .value .natural },
      { long := "show-documents", kind := .flag }]
    { name := "DOCUMENT", kind := .path, many := true }

def schemaLevel : Level :=
  commandLevel "schema" [{ long := "show", kind := .flag }]
    { name := "FILE", kind := .path, needed := true }

def shells : List String := ["bash", "zsh", "fish", "power-shell", "elvish"]

def completionsLevel : Level :=
  commandLevel "completions" [] { name := "SHELL", kind := .oneOf shells, needed := true }

def grammar : Grammar where
  program :=
    { title := programName
      options := globalOptions
      commands := ["validate", "schema", "completions"]
      exclusive := [("quiet", "verbose")] }
  command
    | "validate" => validateLevel
    | "schema" => schemaLevel
    | _ => completionsLevel

def text? (m : Matches) (name : String) : Option String := (m.texts name).head?

def natural? (m : Matches) (name : String) : Option Nat := (text? m name).bind unsigned64?

def commandOf (command : String) (m : Matches) : Command :=
  match command with
  | "validate" => .validate
    { documents := m.texts "DOCUMENT"
      schema := text? m "schema"
      offline := m.has "offline"
      timeoutSecs := natural? m "timeout"
      failFast := m.has "fail-fast"
      maxErrors := natural? m "max-errors"
      showDocuments := m.has "show-documents" }
  | "schema" => .schema { file := (text? m "FILE").getD "", showRules := m.has "show" }
  | _ => .completions ((text? m "SHELL").getD "")

def ofParsed (r : Parsed) : Arguments :=
  let m := r.everywhere
  { verbose := m.count "verbose"
    quiet := m.has "quiet"
    config := text? m "config"
    output := (text? m "output").bind OutputFormat.ofName?
    noColour := m.has "no-color"
    command := commandOf r.command r.behind }

/-- The arguments that some words give, with a few of them from the environment. -/
def ofWords (environment : String → Option String) (words : List String) :
    Except UsageError Arguments :=
  (grammar.read environment words).map ofParsed

end Arguments

end SettingsCheck.CommandLine
