import SettingsCheck.Files.Path
import SettingsCheck.Logging
import SettingsCheck.Output.Format
import SettingsCheck.Remote.Setup
import SettingsCheck.Report

namespace SettingsCheck

/-- A document and the schema that it must satisfy. -/
structure DocumentConfig where
  /-- The name in reports. -/
  name : Option String := none
  path : String
  schema : String
  deriving DecidableEq, Repr

namespace DocumentConfig

/-- The given name, or that of the file. -/
def displayName (d : DocumentConfig) : String :=
  d.name.getD ((FilePath.fileName? d.path).getD d.path)

def ofSource? (s : Source) : Option DocumentConfig := do
  let r ← s.record? ["name", "path", "schema"]
  return {
    name := ← r.optionalWithDefault 0 Source.text?
    path := ← r.required 1 Source.text?
    schema := ← r.required 2 Source.text? }

def toJson (d : DocumentConfig) : Json :=
  .object [("name", d.name.elim .null .string), ("path", .string d.path),
    ("schema", .string d.schema)]

/-- Follows the paths from a directory on. -/
def relativeTo (base : String) (d : DocumentConfig) : DocumentConfig :=
  { d with path := FilePath.join base d.path, schema := FilePath.join base d.schema }

end DocumentConfig

structure ChecksConfig where
  /-- Leave out the checks that need the network. -/
  offline : Bool := false
  /-- The deadline of each deferred check. -/
  timeoutSecs : Nat := 10
  failFast : Bool := false
  maxErrors : Nat := 0
  remote : Remote.RemoteConfig := {}

namespace ChecksConfig

def ownNames : List String := ["offline", "timeout_secs", "fail_fast", "max_errors"]

/-- A table with the settings of the remote checks among its entries. Those are read from what the
entries are by themselves. -/
def ofSource? (s : Source) : Option ChecksConfig := do
  let entries ← match s with
    | .table entries => some entries
    | .scalar r => if r.isEmpty then some [] else none
    | .list _ _ => none
  let isOwn (entry : Option String × Source) := entry.1.any ownNames.contains
  let r ← (Source.table (entries.filter isOwn)).record? ownNames
  let others ← (Source.table (entries.filter (!isOwn ·))).settle?
  return {
    offline := ← r.withDefault 0 false Source.bool?
    timeoutSecs := ← r.withDefault 1 10 (Source.below? unsignedLimit)
    failFast := ← r.withDefault 2 false Source.bool?
    maxErrors := ← r.withDefault 3 0 (Source.below? unsignedLimit)
    remote := ← Remote.RemoteConfig.ofSource? (.ofJson others) }

def toEntries (c : ChecksConfig) : List (String × Json) :=
  [("offline", .bool c.offline), ("timeout_secs", .integer c.timeoutSecs),
    ("fail_fast", .bool c.failFast), ("max_errors", .integer c.maxErrors)]

def options (c : ChecksConfig) : Options where
  callTimeout := c.timeoutSecs * 1000000000
  runDeferred := !c.offline
  failFast := c.failFast
  maxErrors := c.maxErrors

end ChecksConfig

structure OutputConfig where
  format : String := "human"
  colour : Bool := true
  deriving DecidableEq, Repr

def OutputConfig.ofSource? (s : Source) : Option OutputConfig := do
  let r ← s.record? ["format", "color"]
  return {
    format := ← r.withDefault 0 "human" Source.text?
    colour := ← r.withDefault 1 true Source.bool? }

def OutputConfig.toJson (c : OutputConfig) : Json :=
  .object [("format", .string c.format), ("color", .bool c.colour)]

def LoggingSettings.ofSource? (s : Source) : Option LoggingSettings := do
  let r ← s.record? ["level", "format"]
  return {
    level := ← r.optionalWithDefault 0 Source.text?
    format := ← r.optionalWithDefault 1 Source.text? }

def LoggingSettings.toJson (c : LoggingSettings) : Json :=
  .object [("level", c.level.elim .null .string), ("format", c.format.elim .null .string)]

structure Config where
  /-- The documents that are checked when none are named. -/
  documents : List DocumentConfig := []
  checks : ChecksConfig := {}
  output : OutputConfig := {}
  logging : LoggingSettings := {}

namespace Config

def ofSource? (s : Source) : Option Config := do
  let r ← s.record? ["documents", "checks", "output", "logging"]
  return {
    documents := ← r.withDefault 0 [] (Source.listOf? DocumentConfig.ofSource?)
    checks := ← r.withDefault 1 {} ChecksConfig.ofSource?
    output := ← r.withDefault 2 {} OutputConfig.ofSource?
    logging := ← r.withDefault 3 {} LoggingSettings.ofSource? }

def toJson (c : Config) : Json :=
  let remote := match c.checks.remote.toJson with
    | .object entries => entries
    | _ => []
  .object [("documents", .array (c.documents.map DocumentConfig.toJson)),
    ("checks", .object (c.checks.toEntries ++ remote)), ("output", c.output.toJson),
    ("logging", c.logging.toJson)]

def outputFormat (c : Config) : OutputFormat :=
  (OutputFormat.ofName? c.output.format).getD .human

/-- The first name that comes a second time. -/
def repeated? : List String → List String → Option String
  | _, [] => none
  | seen, name :: rest => if seen.contains name then some name else repeated? (name :: seen) rest

/-- Settings with which no run makes sense. -/
def check (c : Config) : Except CommandError Unit :=
  if c.checks.timeoutSecs = 0 then
    .error (.config "checks.timeout_secs must be greater than zero")
  else if (OutputFormat.ofName? c.output.format).isNone then
    .error (.config ("unknown output format '" ++ c.output.format ++ "'"))
  else match repeated? [] (c.documents.map DocumentConfig.displayName) with
    | some name => .error (.config ("document name '" ++ name ++ "' is used twice"))
    | none => match c.checks.remote.client.check with
      | .error e => .error (.config e.message)
      | .ok () => .ok ()

def isYamlFile (path : String) : Bool :=
  FilePath.extension? path = some "yaml" || FilePath.extension? path = some "yml"

/-- The configuration in a text, with the name of the format where it is none. -/
def ofText (path text : String) : Except CommandError Config :=
  let (expected, source) :=
    if isYamlFile path then ("YAML", Source.ofYamlText? text)
    else ("JSON", Source.ofJsonText? text)
  match source.bind ofSource? with
  | some c => .ok c
  | none => .error (.invalidFormat path expected none)

/-- Reads a file that has to be there. -/
def readFile (files : FileView) (path : String) : Except CommandError String :=
  if (files.kind path).isNone then .error (.fileNotFound path)
  else match files.read path with
    | .error e => .error (.io e.message)
    | .ok text => .ok text

/-- The configuration in a file. Its paths are followed from the directory of the file on. -/
def ofFile (files : FileView) (path : String) : Except CommandError Config :=
  match readFile files path with
  | .error e => .error e
  | .ok text => match ofText path text with
    | .error e => .error e
    | .ok c =>
      let base := FilePath.directory path
      let c := { c with documents := c.documents.map (DocumentConfig.relativeTo base) }
      match c.check with
      | .error e => .error e
      | .ok () => .ok c

/-- The directory with the settings of a user. -/
def userDirectory? (environment : Environment) : Option String :=
  match (environment "XDG_CONFIG_HOME").filter FilePath.isAbsolute with
  | some directory => some directory
  | none => ((environment "HOME").filter (· ≠ "")).map (FilePath.join · ".config")

/-- Where a configuration is looked for. -/
def usualPlaces (environment : Environment) : List String :=
  [".confgate.yaml", ".confgate.yml", ".confgate.json"] ++
    match userDirectory? environment with
    | some directory =>
      ["config.yaml", "config.json"].map (FilePath.join (FilePath.join directory "confgate"))
    | none => []

/-- The configuration in the named file or in the first of the usual places that is there. -/
def load (files : FileView) (environment : Environment) (named : Option String) :
    Except CommandError Config :=
  match named with
  | some path => ofFile files path
  | none => match (usualPlaces environment).find? fun path => (files.kind path).isSome with
    | some path => ofFile files path
    | none => .ok {}

end Config

end SettingsCheck
