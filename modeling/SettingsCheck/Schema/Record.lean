import SettingsCheck.Schema.Shape
import SettingsCheck.Source.Format

namespace SettingsCheck

namespace Rule

def fieldNames : List String :=
  ["type", "required", "properties", "items", "required_when_true", "validate_when_true",
    "description"]

/-- What a field of a rule says, as a change of the rule. -/
abbrev Change := Option (Rule → Rule)

/-- The rule that some fields describe: none of them unreadable or given twice, and a type. -/
def assemble (parts : List (String × Change)) : Option Rule :=
  let names := parts.map Prod.fst
  if !names.contains "type" || names.any fun name => names.count name > 1 then none
  else parts.foldlM (fun rule (_, change) => change.map (· rule)) (ofType .string)

/-- A field of a rule; the last two arguments read it as a rule and as rules. -/
def change (name : String) (s : Source) (asRule : Unit → Option Rule)
    (asRules : Unit → Option (List (String × Rule))) : Change :=
  if name = "type" then s.text?.map fun t rule => { rule with fieldType := .ofName t }
  else if name = "required" then s.bool?.map fun b rule => { rule with required := b }
  else if name = "properties" then (asRules ()).map fun ps rule => { rule with properties := ps }
  else if name = "items" then
    if s.isNull then some id else (asRule ()).map fun r rule => { rule with items := some r }
  else if name = "required_when_true" then
    (s.listOf? Source.text?).map fun names rule => { rule with requiredWhenTrue := names }
  else if name = "validate_when_true" then
    (s.listOf? Source.text?).map fun names rule => { rule with validateWhenTrue := names }
  else if name = "description" then
    if s.isNull then some id else s.text?.map fun d rule => { rule with description := some d }
  else none

mutual
def ofSource? : Source → Option Rule
  | .table entries => assemble (partsOfEntries entries)
  | .list fields items => if fields then assemble (partsOfItems fieldNames items) else none
  | .scalar _ => none

def partsOfEntries : List (Option String × Source) → List (String × Change)
  | [] => []
  | (name?, s) :: rest =>
    let name := name?.getD ""
    (name, change name s (fun _ => ofSource? s) (fun _ => rulesOfSource? s)) ::
      partsOfEntries rest

def partsOfItems : List String → List Source → List (String × Change)
  | _, [] => []
  | [], _ :: _ => [("", none)]
  | name :: names, s :: rest =>
    (name, change name s (fun _ => ofSource? s) (fun _ => rulesOfSource? s)) ::
      partsOfItems names rest

def rulesOfSource? : Source → Option (List (String × Rule))
  | .table entries => rulesOfEntries entries
  | .scalar r => if r.isEmpty then some [] else none
  | .list _ _ => none

def rulesOfEntries : List (Option String × Source) → Option (List (String × Rule))
  | [] => some []
  | (name?, s) :: rest => do
    let rule ← ofSource? s
    let rules ← rulesOfEntries rest
    return (← name?, rule) :: rules
end

mutual
/-- Fields that say nothing are left out, apart from the first two. -/
def toJson : Rule → Json
  | ⟨fieldType, required, properties, items, requiredWhenTrue, validateWhenTrue, description⟩ =>
    let strings (names : List String) : Json := .array (names.map .string)
    .object <| [("type", .string fieldType.name), ("required", .bool required)] ++
      (if properties.isEmpty then [] else [("properties", .object (rulesToJson properties))]) ++
      itemsToJson items ++
      (if requiredWhenTrue.isEmpty then []
        else [("required_when_true", strings requiredWhenTrue)]) ++
      (if validateWhenTrue.isEmpty then []
        else [("validate_when_true", strings validateWhenTrue)]) ++
      match description with
      | some d => [("description", .string d)]
      | none => []

def rulesToJson : List (String × Rule) → List (String × Json)
  | [] => []
  | (name, rule) :: rest => (name, toJson rule) :: rulesToJson rest

def itemsToJson : Option Rule → List (String × Json)
  | none => []
  | some rule => [("items", toJson rule)]
end

end Rule

namespace Schema

def toJson (schema : Schema) : Json := .object (Rule.rulesToJson schema.fields)

/-- The schema that a source describes; nothing to read it from is an error, too. -/
def ofSource (source : Option Source) : Except SchemaError Schema :=
  match source.bind Rule.rulesOfSource? with
  | none => .error (.parse none)
  | some rules => ofFields rules

/-- The schema in a JSON text. -/
def ofJsonText (text : String) : Except SchemaError Schema := ofSource (Source.ofJsonText? text)

/-- The schema in a YAML text. -/
def ofYamlText (text : String) : Except SchemaError Schema := ofSource (Source.ofYamlText? text)

end Schema

end SettingsCheck
