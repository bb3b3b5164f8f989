import SettingsCheck.Http.Client
import SettingsCheck.Output.Colour
import SettingsCheck.Schema.Shape

namespace SettingsCheck

inductive CommandError where
  | validationFailed (errors documents : Nat)
  | io (reason : String)
  | fileNotFound (path : String)
  /-- A file that is not in the expected format; a reader's own words may tell why. -/
  | invalidFormat (path expected : String) (reason : Option String)
  | config (reason : String)
  /-- Arguments that do not go together. -/
  | arguments (reason : String)
  | schema (path : String) (error : SchemaError)
  | remoteSetup (error : Http.SetupError)
  | json (reason : String)
  | yaml (reason : String)
  | cancelled
  | other (message : String)
  deriving DecidableEq, Repr

namespace CommandError

def message : CommandError → String
  | validationFailed errors documents =>
    "validation failed: " ++ toString errors ++ " error(s) in " ++ toString documents ++
      " document(s)"
  | io reason => "IO error: " ++ reason
  | fileNotFound path => "File not found: " ++ path
  | invalidFormat path expected reason =>
    Text.withReason ("Invalid file format for " ++ path ++ ": expected " ++ expected) reason
  | config reason => "Configuration error: " ++ reason
  | arguments reason => "Invalid arguments: " ++ reason
  | schema path error => "Invalid schema " ++ path ++ ": " ++ error.message
  | remoteSetup error => "Provider setup failed: " ++ error.message
  | json reason => "JSON error: " ++ reason
  | yaml reason => "YAML error: " ++ reason
  | cancelled => "validation cancelled before all remote checks completed"
  | other message => message

def exitCode : CommandError → Nat
  | validationFailed _ _ => 1
  | io _ => 2
  | fileNotFound _ => 3
  | invalidFormat _ _ _ => 4
  | config _ => 5
  | arguments _ => 6
  | schema _ _ => 7
  | remoteSetup _ => 8
  | json _ => 12
  | yaml _ => 13
  | other _ => 99
  | cancelled => 130

/-- Whether it helps to point at the help. -/
def hasHelpHint : CommandError → Bool
  | arguments _ => true
  | _ => false

def helpHint : String := "For more information, try '--help'"

/-- The line on the error output. -/
def line (colour : Bool) (e : CommandError) : String :=
  (if colour then Colour.boldRed.paint "Error:" else "Error:") ++ " " ++ e.message

end CommandError

end SettingsCheck
