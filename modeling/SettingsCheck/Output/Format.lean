import SettingsCheck.Json.Tree
import SettingsCheck.Yaml.Layout

namespace SettingsCheck

inductive OutputFormat where
  /-- For people: one line for each finding. -/
  | human
  | json
  | yaml
  | jsonPretty
  deriving DecidableEq, Repr

namespace OutputFormat

/-- The format of a name in any case. -/
def ofName? (name : String) : Option OutputFormat :=
  match Text.lowerAscii name with
  | "human" => some human
  | "json" => some json
  | "yaml" => some yaml
  | "json-pretty" | "json_pretty" => some jsonPretty
  | _ => none

/-- Data for people is JSON with one entry on a line. -/
def render (format : OutputFormat) (tree : Json) : String :=
  match format with
  | human | jsonPretty => tree.pretty 0
  | json => tree.compact
  | yaml => Yaml.Layout.textOf tree

end OutputFormat

end SettingsCheck
