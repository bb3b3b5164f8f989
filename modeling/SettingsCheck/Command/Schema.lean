import SettingsCheck.Command.Loading
import SettingsCheck.CommandLine.Arguments

namespace SettingsCheck.Command

open CommandLine (SchemaArguments)

/-- A custom type that a schema uses. -/
structure CustomTypeUse where
  path : String
  validator : String
  /-- Whether it needs the network. -/
  remote : Bool
  deriving DecidableEq, Repr

namespace CustomTypeUse

def toJson (use : CustomTypeUse) : Json :=
  .object [("path", .string use.path), ("validator", .string use.validator),
    ("remote", .bool use.remote)]

def message (use : CustomTypeUse) : Message :=
  .info (use.path ++ " uses " ++ (if use.remote then "remote check" else "check") ++ " '" ++
    use.validator ++ "'")

end CustomTypeUse

def customTypeUses (v : DocumentValidator) : List CustomTypeUse :=
  v.schema.customTypes.map fun (path, name) =>
    ⟨path, name, (v.registry.get? name).any Check.isDeferred⟩

/-- What other programs are told about a schema. -/
def schemaSummary (a : SchemaArguments) (v : DocumentValidator) : Json :=
  .object <| [("file", .string a.file), ("fields", .array (v.schema.fields.names.map .string)),
    ("custom_types", .array ((customTypeUses v).map CustomTypeUse.toJson))] ++
    if a.showRules then [("schema", v.schema.toJson)] else []

/-- What people are told about a schema. -/
def schemaMessages (a : SchemaArguments) (v : DocumentValidator) : List Message :=
  .success ("✓ " ++ a.file ++ " is a valid schema with " ++
    toString v.schema.fields.names.length ++ " top-level field(s)") ::
  (customTypeUses v).map CustomTypeUse.message ++
  if a.showRules then [.heading "Schema", .data v.schema.toJson] else []

def schema (c : Context) (a : SchemaArguments) : Outcome :=
  match c.registry with
  | .error e => ⟨[], .error e⟩
  | .ok registry => match c.loadSchema registry a.file with
    | .error e => ⟨[], .error e⟩
    | .ok v =>
      ⟨if c.format = .human then schemaMessages a v else [.data (schemaSummary a v)], .ok ()⟩

end SettingsCheck.Command
