import SettingsCheck.Text.Blank
import SettingsCheck.Yaml.Anchor
import SettingsCheck.Yaml.Word

namespace SettingsCheck.Yaml

inductive Tree where
  | null
  | bool (b : Bool)
  /-- An integer of 64 bits, with the sign or without. -/
  | integer (n : Int)
  | float (x : Float)
  | string (s : String)
  | sequence (items : List Tree)
  | mapping (entries : List (Tree × Tree))
  | tagged (tag : String) (content : Tree)
  deriving Inhabited

namespace Tree

mutual
/-- Whether two keys are the same. Here a float that is no number is the same as itself, and
mappings are compared without their order. -/
def same : Tree → Tree → Bool
  | null, null => true
  | bool a, bool b => a == b
  | integer a, integer b => a == b
  | float a, float b => a == b || (a.isNaN && b.isNaN)
  | string a, string b => a == b
  | sequence a, sequence b => sameItems a b
  | mapping a, mapping b => a.length == b.length && sameEntries a b
  | tagged s a, tagged t b => s == t && same a b
  | _, _ => false

def sameItems : List Tree → List Tree → Bool
  | [], [] => true
  | a :: as, b :: bs => same a b && sameItems as bs
  | _, _ => false

/-- Whether each entry stands among the others. -/
def sameEntries : List (Tree × Tree) → List (Tree × Tree) → Bool
  | [], _ => true
  | (k, v) :: rest, others =>
    others.any (fun (k', v') => same k k' && same v v') && sameEntries rest others
end

/-- A plain word. Integers of more than 64 bits have no place in a tree. -/
def ofWord? (s : String) : Option Tree :=
  if s = "" || isNullWord s then some null
  else match boolWord? s with
    | some b => some (bool b)
    | none => match integerWord? s with
      | some (.fits n) => some (integer n)
      | some .tooWide => none
      | none =>
        if isZeroPadded s.toList then some (string s)
        else some ((floatWord? s).elim (string s) float)

/-- A scalar without a tag of its own. -/
def ofBareScalar? (style : Style) (s : String) : Option Tree :=
  if style = .plain then ofWord? s else some (string s)

/-- The types that core tags force. -/
def ofCoreTag? (tag s : String) : Option Tree :=
  if tag = coreTags ++ "bool" then (boolWord? s).map bool
  else if tag = coreTags ++ "int" then match integerWord? s with
    | some (.fits n) => some (integer n)
    | _ => none
  else if tag = coreTags ++ "float" then (floatWord? s).map float
  else if tag = coreTags ++ "null" then if isNullWord s then some null else none
  else some (string s)

/-- The name of a tag that marks a tree. -/
def mark? (label : Label) : Option String := label.tag.bind (Text.after? "!")

/-- Puts a tag on a tree; it must have a name. -/
def marked? (label : Label) (content : Option Tree) : Option Tree :=
  match mark? label with
  | none => content
  | some name => if name = "" then none else content.map (tagged name)

mutual
/-- The tree of a node; a mapping has each key once. -/
def ofNode? : Node Empty → Option Tree
  | .scalar label style s =>
    marked? label <| match label.tag with
      | some tag => if (mark? label).isSome then ofBareScalar? style s else ofCoreTag? tag s
      | none => ofBareScalar? style s
  | .sequence label items => marked? label ((ofItems? items).map sequence)
  | .mapping label entries => marked? label ((ofEntries? entries).map mapping)

def ofItems? : List (Node Empty) → Option (List Tree)
  | [] => some []
  | item :: rest => do
    let item ← ofNode? item
    return item :: (← ofItems? rest)

def ofEntries? : List (Node Empty × Node Empty) → Option (List (Tree × Tree))
  | [] => some []
  | (key, value) :: rest => do
    let key ← ofNode? key
    let value ← ofNode? value
    let rest ← ofEntries? rest
    if rest.any fun (k, _) => same key k then none else some ((key, value) :: rest)
end

def ofText? (text : String) : Option Tree := (Node.ofText? text).bind ofNode?

end Tree

end SettingsCheck.Yaml
