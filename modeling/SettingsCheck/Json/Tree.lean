import SettingsCheck.Decimal.Layout
import SettingsCheck.Text.Blank

/-!
Trees of plain data, and their text as JSON. Objects keep the order of their entries and may name
an entry twice.
-/

namespace SettingsCheck

inductive Json where
  | null
  | bool (b : Bool)
  | integer (n : Int)
  | float (x : Float)
  | string (s : String)
  | array (items : List Json)
  | object (entries : List (String × Json))
  deriving Inhabited

namespace Json

/-- The last entry of that name in an object. -/
def get? (j : Json) (name : String) : Option Json :=
  match j with
  | object entries => (entries.reverse.find? (·.1 == name)).map Prod.snd
  | _ => none

def string? : Json → Option String
  | string s => some s
  | _ => none

def array? : Json → Option (List Json)
  | array items => some items
  | _ => none

def escapeChar (c : Char) : List Char :=
  if c = '"' then ['\\', '"']
  else if c = '\\' then ['\\', '\\']
  else if c = '\n' then ['\\', 'n']
  else if c = '\r' then ['\\', 'r']
  else if c = '\t' then ['\\', 't']
  else if c = '\x08' then ['\\', 'b']
  else if c = '\x0c' then ['\\', 'f']
  else if c.toNat < 16 then "\\u000".toList ++ (Text.hex c.toNat).toList
  else if c.toNat < 32 then "\\u00".toList ++ (Text.hex c.toNat).toList
  else [c]

def quote (s : String) : String := "\"" ++ String.ofList (s.toList.flatMap escapeChar) ++ "\""

/-- The text of a value without parts. -/
def leafText : Json → String
  | bool b => toString b
  | integer n => toString n
  | float x => jsonFloat.render x
  | string s => quote s
  | _ => "null"

mutual
/-- Without any blanks. -/
def compact : Json → String
  | array items => "[" ++ compactItems true items ++ "]"
  | object entries => "\x7b" ++ compactEntries true entries ++ "\x7d"
  | leaf => leafText leaf

def compactItems (first : Bool) : List Json → String
  | [] => ""
  | item :: rest => (if first then "" else ",") ++ compact item ++ compactItems false rest

def compactEntries (first : Bool) : List (String × Json) → String
  | [] => ""
  | (name, item) :: rest =>
    (if first then "" else ",") ++ quote name ++ ":" ++ compact item ++ compactEntries false rest
end

def indent (depth : Nat) : String := "\n" ++ String.ofList (List.replicate (2 * depth) ' ')

mutual
/-- One entry on a line, two blanks deeper at each level; empty containers stay closed. -/
def pretty (depth : Nat) : Json → String
  | array [] => "[]"
  | array items => "[" ++ prettyItems true (depth + 1) items ++ indent depth ++ "]"
  | object [] => "\x7b\x7d"
  | object entries => "\x7b" ++ prettyEntries true (depth + 1) entries ++ indent depth ++ "\x7d"
  | leaf => leafText leaf

def prettyItems (first : Bool) (depth : Nat) : List Json → String
  | [] => ""
  | item :: rest =>
    (if first then "" else ",") ++ indent depth ++ pretty depth item ++ prettyItems false depth rest

def prettyEntries (first : Bool) (depth : Nat) : List (String × Json) → String
  | [] => ""
  | (name, item) :: rest =>
    (if first then "" else ",") ++ indent depth ++ quote name ++ ": " ++ pretty depth item ++
      prettyEntries false depth rest
end

end Json

end SettingsCheck
