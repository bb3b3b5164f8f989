import SettingsCheck.Config
import SettingsCheck.Document.Conversion
import SettingsCheck.Output.Writer
import SettingsCheck.Schema.Record

namespace SettingsCheck.Command

/-- Where and how a command runs. -/
structure Context where
  files : FileView
  /-- The directory of the time zone database. -/
  zoneinfo : String
  config : Config
  format : OutputFormat

/-- What a command has to say, and how it ends. -/
structure Outcome where
  messages : List Message
  result : Except CommandError Unit

namespace Context

def surroundings (c : Context) : Surroundings := ⟨c.files.kind, c.zoneinfo⟩

/-- All validators. The remote checks are there even when they are not run, since schemas name
them. -/
def registry (c : Context) : Except CommandError Registry :=
  match Remote.register (Registry.withBuiltins c.surroundings) c.config.checks.remote with
  | .error e => .error (.remoteSetup e)
  | .ok registry => .ok registry

def isJsonFile (path : String) : Bool := FilePath.extension? path = some "json"

/-- The schema in a file, with a validator for each of its custom types. -/
def loadSchema (c : Context) (registry : Registry) (path : String) :
    Except CommandError DocumentValidator :=
  match Config.readFile c.files path with
  | .error e => .error e
  | .ok text =>
    match if isJsonFile path then Schema.ofJsonText text else Schema.ofYamlText text with
    | .error e => .error (.schema path e)
    | .ok schema => match DocumentValidator.ofSchema schema registry with
      | .error e => .error (.schema path e)
      | .ok validator => .ok validator

/-- The document in a file, or why there is none. -/
def loadDocument (c : Context) (path : String) : Except String Value :=
  match c.files.read path with
  | .error e => .error ("could not read " ++ path ++ ": " ++ e.message)
  | .ok text =>
    match if isJsonFile path then Value.ofJsonText text else Value.ofYamlText text with
    | .error e => .error ("could not parse " ++ path ++ ": " ++ e.message)
    | .ok document => .ok document

end Context

end SettingsCheck.Command
