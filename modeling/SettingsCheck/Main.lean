import SettingsCheck.Command.Run

/-!
The program: it looks at the environment and the files that a run may ask for, and writes what the
run leaves behind. It has no way to reach a network, so every peer of a remote check stays silent.
-/

namespace SettingsCheck.Program

open CommandLine (Arguments)

/-- What was seen under some paths. -/
abbrev Seen := List (String × Option FileKind × Except FileError String)

def viewOf (seen : Seen) : FileView where
  kind path := (seen.find? (·.1 == path)).bind (·.2.1)
  read path := match seen.find? (·.1 == path) with
    | some (_, _, contents) => contents
    | none => .error .missing

def fileError : IO.Error → FileError
  | .inappropriateType _ 21 _ => .isDirectory
  | .inappropriateType _ _ _ => .notDirectory
  | .permissionDenied _ _ _ => .denied
  | _ => .missing

/-- Looks at a path, and at the contents of a file if they are wanted. -/
def lookAt (contents : Bool) (path : String) :
    IO (String × Option FileKind × Except FileError String) := do
  try
    let handle ← IO.FS.Handle.mk path .read
    let _ ← handle.read 1
    if contents then
      let bytes ← IO.FS.readBinFile path
      return (path, some .file, ((String.fromUTF8? bytes).map Except.ok).getD (.error .notText))
    return (path, some .file, .ok "")
  catch e => match fileError e with
    | .isDirectory => return (path, some .directory, .error .isDirectory)
    | .denied => return (path, some .file, .error .denied)
    | other => return (path, none, .error other)

mutual
/-- All texts in a document. -/
def textsIn : Value → List String
  | .string s => [s]
  | .sequence items => textsInItems items
  | .mapping entries => textsInEntries entries
  | _ => []

def textsInItems : List Value → List String
  | [] => []
  | v :: rest => textsIn v ++ textsInItems rest

def textsInEntries : List (String × Value) → List String
  | [] => []
  | (_, v) :: rest => textsIn v ++ textsInEntries rest
end

/-- The files that a command reads. -/
def filesOf (config : Config) : CommandLine.Command → List String
  | .validate arguments => match Command.targets arguments config with
    | .ok targets => targets.flatMap fun target => [target.schema, target.path]
    | .error _ => []
  | .schema arguments => [arguments.file]
  | .completions _ => []

/-- The paths that validators may ask for when they see a text. -/
def pathsFor (zoneinfo text : String) : List String := [text, FilePath.join zoneinfo text]

/-- Looks at all that a run may ask for: the configuration, then the files it names, then the paths
in the documents. -/
def survey (s : Command.Situation) (a : Arguments) : IO Command.Situation := do
  let places := match a.config with
    | some path => [path]
    | none => Config.usualPlaces s.environment
  let seen ← places.mapM (lookAt true)
  let s := { s with files := viewOf seen }
  match s.loadConfig a with
  | .error _ => return s
  | .ok config =>
    let files := filesOf config a.command
    let seen := seen ++ (← files.mapM (lookAt true))
    let s := { s with files := viewOf seen }
    let documents := files.filterMap fun path => ((s.context a config).loadDocument path).toOption
    let paths := s.zoneinfo :: (documents.flatMap textsIn).flatMap (pathsFor s.zoneinfo)
    return { s with files := viewOf (seen ++ (← paths.mapM (lookAt false))) }

/-- The variables that a run looks at. -/
def environmentNames : List String :=
  [Arguments.configVariable, LoggingConfig.levelVariable, LoggingConfig.formatVariable, "ZONEINFO",
    "HOME", "XDG_CONFIG_HOME"]

def environment : IO Environment := do
  let found ← environmentNames.mapM fun name => do return (name, ← IO.getEnv name)
  return fun name => (found.find? (·.1 == name)).bind Prod.snd

end SettingsCheck.Program

open SettingsCheck in
def main (words : List String) : IO UInt32 := do
  let environment ← Program.environment
  match CommandLine.Arguments.ofWords environment words with
  | .error e =>
    IO.print (Command.usageOutput e)
    if e.exitCode ≠ 0 then IO.eprint ("error: " ++ e.message ++ "\n\n" ++ Command.usage)
    return e.exitCode.toUInt32
  | .ok arguments =>
    let terminal ← (← IO.getStdout).isTty
    let situation ← Program.survey
      { files := Program.viewOf [], environment, terminal } arguments
    let finished := Command.run situation arguments
      (Command.completeWith fun _ _ => Http.Answer.failed) .never
    IO.print finished.output
    for line in finished.errorLines (situation.useColour arguments) do
      IO.eprintln line
    return finished.exitCode.toUInt32
