import SettingsCheck.Decimal.Reading
import SettingsCheck.Json.Reading
import SettingsCheck.Value
import SettingsCheck.Yaml.Tree

namespace SettingsCheck

inductive ValueError where
  /-- A name that is no scalar; the kind is that of the name. -/
  | unsupportedKey (kind : String)
  | unsupportedNumber (text : String)
  /-- The text is no YAML. -/
  | yaml
  /-- The text is no JSON. -/
  | json
  deriving DecidableEq, Repr

/-- The message; that about an unreadable text stops before the reader's own words. -/
def ValueError.message : ValueError → String
  | unsupportedKey kind => "unsupported mapping key of kind " ++ kind
  | unsupportedNumber text => "unsupported number: " ++ text
  | yaml => "YAML parse error"
  | json => "JSON parse error"

namespace Value

/-- An integer of a document. -/
def ofInteger (n : Int) : Except ValueError Value :=
  if fitsSigned n then .ok (integer n) else .error (.unsupportedNumber (toString n))

/-- The entries if all of them are there, else the first failure. -/
def allEntries : List (String × Except ValueError Value) → Except ValueError (List (String × Value))
  | [] => .ok []
  | (name, v) :: rest => match v with
    | .error e => .error e
    | .ok v => match allEntries rest with
      | .error e => .error e
      | .ok es => .ok ((name, v) :: es)

mutual
/-- The document that a JSON tree describes. Of two entries with one name only the later one
counts, and of several failures in an object the one with the least name. -/
def ofJson : Json → Except ValueError Value
  | .null => .ok null
  | .bool b => .ok (bool b)
  | .integer n => ofInteger n
  | .float x => .ok (float x)
  | .string s => .ok (string s)
  | .array items => match ofJsonItems items with
    | .error e => .error e
    | .ok vs => .ok (sequence vs)
  | .object entries => match allEntries (Fields.ofList (ofJsonEntries entries)) with
    | .error e => .error e
    | .ok es => .ok (mapping es)

def ofJsonItems : List Json → Except ValueError (List Value)
  | [] => .ok []
  | item :: rest => match ofJson item with
    | .error e => .error e
    | .ok v => match ofJsonItems rest with
      | .error e => .error e
      | .ok vs => .ok (v :: vs)

def ofJsonEntries : List (String × Json) → List (String × Except ValueError Value)
  | [] => []
  | (name, item) :: rest => (name, ofJson item) :: ofJsonEntries rest
end

/-- The text of a scalar that names an entry. Tags on it do not count. -/
def yamlName : Yaml.Tree → Except ValueError String
  | .null => .ok "null"
  | .bool b => .ok (toString b)
  | .integer n => .ok (toString n)
  | .float x => .ok (yamlFloat.render x)
  | .string s => .ok s
  | .sequence _ => .error (.unsupportedKey "array")
  | .mapping _ => .error (.unsupportedKey "object")
  | .tagged _ content => yamlName content

mutual
/-- The document that a YAML tree describes, without its tags. Of two entries whose names have one
text only the later one counts, and of several failures the first one. -/
def ofYaml : Yaml.Tree → Except ValueError Value
  | .null => .ok null
  | .bool b => .ok (bool b)
  | .integer n => ofInteger n
  | .float x => .ok (float x)
  | .string s => .ok (string s)
  | .sequence items => match ofYamlItems items with
    | .error e => .error e
    | .ok vs => .ok (sequence vs)
  | .mapping entries => match ofYamlEntries entries with
    | .error e => .error e
    | .ok es => .ok (mapping (Fields.ofList es))
  | .tagged _ content => ofYaml content

def ofYamlItems : List Yaml.Tree → Except ValueError (List Value)
  | [] => .ok []
  | item :: rest => match ofYaml item with
    | .error e => .error e
    | .ok v => match ofYamlItems rest with
      | .error e => .error e
      | .ok vs => .ok (v :: vs)

def ofYamlEntries : List (Yaml.Tree × Yaml.Tree) → Except ValueError (List (String × Value))
  | [] => .ok []
  | (key, item) :: rest => match yamlName key with
    | .error e => .error e
    | .ok name => match ofYaml item with
      | .error e => .error e
      | .ok v => match ofYamlEntries rest with
        | .error e => .error e
        | .ok es => .ok ((name, v) :: es)
end

/-- The document in a JSON text. -/
def ofJsonText (text : String) : Except ValueError Value :=
  match Json.parse? text with
  | none => .error .json
  | some j => ofJson j

/-- The document in a YAML text. -/
def ofYamlText (text : String) : Except ValueError Value :=
  match Yaml.Tree.ofText? text with
  | none => .error .yaml
  | some t => ofYaml t

mutual
/-- The tree that describes a document. -/
def toJson : Value → Json
  | null => .null
  | bool b => .bool b
  | integer n => .integer n
  | float x => .float x
  | string s => .string s
  | sequence items => .array (toJsonItems items)
  | mapping entries => .object (toJsonEntries entries)

def toJsonItems : List Value → List Json
  | [] => []
  | v :: rest => toJson v :: toJsonItems rest

def toJsonEntries : List (String × Value) → List (String × Json)
  | [] => []
  | (name, v) :: rest => (name, toJson v) :: toJsonEntries rest
end

end Value

end SettingsCheck
