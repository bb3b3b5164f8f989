import SettingsCheck.Json.Tree
import SettingsCheck.Yaml.Spelling

/-!
Trees of plain data as YAML: block style with a margin of two more blanks at each level, except that
a list under a name stays at the margin of the name.
-/

namespace SettingsCheck.Yaml.Layout

/-- Starts a new line with a margin. A block that ends in a line break has started it already. -/
def onNewLine (before : List Char) (indent : Nat) (after : List Char) : List Char :=
  before ++ (if endsWithBreak before then [] else ['\n']) ++ margin indent ++ after

/-- Whether a name can stand on one line with its colon. -/
def isSimpleName (name : String) : Bool :=
  !name.toList.any breaksLine && name.utf8ByteSize ≤ 128

/-- The text of a value without parts. -/
def leafText (indent : Nat) : Json → List Char
  | .bool b => (toString b).toList
  | .integer n => (toString n).toList
  | .float x => (yamlFloat.render x).toList
  | .string s => scalarText indent s
  | .array _ => "[]".toList
  | .object _ => "\x7b\x7d".toList
  | .null => "null".toList

/-- The lines of a list or mapping, one after the other. -/
def stack (indent : Nat) : List (List Char) → List Char
  | [] => []
  | line :: rest => rest.foldl (fun text line => onNewLine text indent line) line

mutual
/-- A value whose first line has begun, with the margin of its further lines. -/
def block (indent : Nat) : Json → List Char
  | .array (item :: rest) => stack indent (itemLines indent (item :: rest))
  | .object (entry :: rest) => stack indent (entryLines indent (entry :: rest))
  | leaf => leafText indent leaf

def itemLines (indent : Nat) : List Json → List (List Char)
  | [] => []
  | item :: rest => ('-' :: ' ' :: block (indent + 2) item) :: itemLines indent rest

def entryLines (indent : Nat) : List (String × Json) → List (List Char)
  | [] => []
  | (name, item) :: rest =>
    (if isSimpleName name then scalarText indent name ++ ':' :: named indent item
    else onNewLine ('?' :: ' ' :: scalarText (indent + 2) name) indent
      (':' :: ' ' :: block (indent + 2) item)) :: entryLines indent rest

/-- A value behind a name on the same line. -/
def named (indent : Nat) : Json → List Char
  | .array (item :: rest) => onNewLine [] indent (stack indent (itemLines indent (item :: rest)))
  | .object (entry :: rest) =>
    onNewLine [] (indent + 2) (stack (indent + 2) (entryLines (indent + 2) (entry :: rest)))
  | leaf => ' ' :: leafText (indent + 2) leaf
end

/-- The text of a tree as a document of its own. -/
def textOf (j : Json) : String :=
  String.ofList <| onNewLine (match j with
    | .array (_ :: _) | .object (_ :: _) => block 0 j
    | leaf => leafText 2 leaf) 0 []

end SettingsCheck.Yaml.Layout
