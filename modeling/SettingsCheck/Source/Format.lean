import SettingsCheck.Json.Reading
import SettingsCheck.Source.Record
import SettingsCheck.Yaml.Tree

/-!
JSON and YAML as sources of records. A JSON value is read as what it is. A YAML scalar is a text,
and a plain one also whatever its word means; an empty one stands for a list or table without parts.
-/

namespace SettingsCheck.Source

def scalarOfJson (leaf : Json) : Reading :=
  let bare : Reading := { settled := leaf }
  match leaf with
  | .null => { bare with isNull := true }
  | .bool b => { bare with bool := b }
  | .integer n =>
    { bare with
      natural := if 0 ≤ n then some n.toNat else none
      number := Scientific.toFloat ⟨n < 0, n.natAbs, 0⟩ }
  | .float x => { bare with number := x }
  | .string s => { bare with text := s }
  | _ => bare

mutual
def ofJson : Json → Source
  | .array items => list true (ofJsonItems items)
  | .object entries => table (ofJsonEntries entries)
  | leaf => scalar (scalarOfJson leaf)

def ofJsonItems : List Json → List Source
  | [] => []
  | item :: rest => ofJson item :: ofJsonItems rest

def ofJsonEntries : List (String × Json) → List (Option String × Source)
  | [] => []
  | (name, item) :: rest => (some name, ofJson item) :: ofJsonEntries rest
end

open Yaml (Node Label Style coreTags)

/-- A literal block counts as a plain word where a core tag says so. -/
def readableAs (type : String) (label : Label) (style : Style) : Bool :=
  style = .plain || (style = .literal && label.tag = some (coreTags ++ type))

/-- What a scalar is by itself; one with a tag of its own is nothing that a record can hold. -/
def settledYaml? (label : Label) (style : Style) (s : String) : Option Json :=
  match Yaml.Tree.ofNode? (.scalar label style s) with
  | some .null => some .null
  | some (.bool b) => some (.bool b)
  | some (.integer n) => some (.integer n)
  | some (.float x) => some (.float x)
  | some (.string s) => some (.string s)
  | _ => none

def scalarOfYaml (label : Label) (style : Style) (s : String) : Reading :=
  let ifReadable {α : Type} (type : String) (word : Option α) : Option α :=
    if readableAs type label style then word else none
  { text := s
    bool := ifReadable "bool" (Yaml.boolWord? s)
    natural := ifReadable "int" ((Yaml.unsignedWord? s).filter (· < unsignedLimit))
    number := ifReadable "float" (Yaml.floatWord? s)
    isNull := style = .plain && match label.tag with
      | none => s = "" || Yaml.isNullWord s
      | some tag => tag = coreTags ++ "null" && Yaml.isNullWord s
    isEmpty := style = .plain && s = ""
    settled := settledYaml? label style s }

/-- The text of a scalar that names an entry. -/
def yamlKey? : Node Empty → Option String
  | .scalar _ _ s => some s
  | _ => none

mutual
def ofYaml : Node Empty → Source
  | .scalar label style s => scalar (scalarOfYaml label style s)
  | .sequence _ items => list false (ofYamlItems items)
  | .mapping _ entries => table (ofYamlEntries entries)

def ofYamlItems : List (Node Empty) → List Source
  | [] => []
  | item :: rest => ofYaml item :: ofYamlItems rest

def ofYamlEntries : List (Node Empty × Node Empty) → List (Option String × Source)
  | [] => []
  | (key, item) :: rest => (yamlKey? key, ofYaml item) :: ofYamlEntries rest
end

def ofJsonText? (text : String) : Option Source := (Json.parse? text).map ofJson

def ofYamlText? (text : String) : Option Source := (Node.ofText? text).map ofYaml

end SettingsCheck.Source
