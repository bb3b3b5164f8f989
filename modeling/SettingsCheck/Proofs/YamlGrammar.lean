import SettingsCheck.Json.Tree
import SettingsCheck.Yaml.Word

/-!
The part of the grammar of YAML 1.1 that block style needs: scalars in four spellings, and lists and
mappings whose entries stand at one column. The column of an entry is a number of blanks, and all
lines that belong to the entry are further to the right; only a list may stand at the column of its
name.
-/

namespace SettingsCheck.Yaml

def IsLineBreak (c : Char) : Prop :=
  c = '\n' ∨ c = '\r' ∨ c = '\u0085' ∨ c = '\u2028' ∨ c = '\u2029'

/-- The end of a word. -/
def IsGapChar (c : Char) : Prop := c = ' ' ∨ c = '\t' ∨ IsLineBreak c

/-- The characters that may be written as they are. -/
def Printable (c : Char) : Prop :=
  c = '\n' ∨ (0x20 ≤ c.toNat ∧ c.toNat ≤ 0x7E) ∨
    (0xA0 ≤ c.toNat ∧ c.toNat ≤ 0xFFFD ∧ c.toNat ≠ 0xFEFF) ∨ 0x10000 ≤ c.toNat

/-- The characters that do not begin a plain word. -/
def indicators : List Char :=
  [',', '[', ']', '\x7b', '\x7d', '#', '&', '*', '!', '|', '>', '\x27', '"', '%', '@', '\x60']

section Scalars

/-- A word that stands for itself: nothing in it means something else, and a reader takes it for no
null, truth value or number. -/
structure IsPlain (s : String) : Prop where
  printable : ∀ c ∈ s.toList, Printable c ∧ ¬IsLineBreak c
  starts : ∃ c rest, s.toList = c :: rest ∧ c ≠ ' ' ∧ c ∉ indicators ∧
    (c = '-' ∨ c = '?' → ∃ d ∈ rest.head?, ¬IsGapChar d)
  ends : s.toList.getLast? ≠ some ' '
  no_marker : ¬"---".toList <+: s.toList ∧ ¬"...".toList <+: s.toList
  colons : ∀ before after, s.toList = before ++ ':' :: after → ∃ d ∈ after.head?, ¬IsGapChar d
  signs : ∀ before after, s.toList = before ++ '#' :: after → ∃ d ∈ before.getLast?, ¬IsGapChar d
  untyped : isNullWord s = false ∧ boolWord? s = none ∧ integerWord? s = none ∧ floatWord? s = none

/-- Text between single quotes, which are doubled. A separator of lines or paragraphs keeps its
meaning; behind it the next line begins at the margin. -/
inductive SingleQuoted (margin : Nat) : List Char → List Char → Prop
  | nil : SingleQuoted margin [] []
  | quote {cs text : List Char} : SingleQuoted margin cs text →
    SingleQuoted margin ('\x27' :: cs) ('\x27' :: '\x27' :: text)
  | char {c : Char} {cs text : List Char} : c ≠ '\x27' → Printable c → ¬IsLineBreak c →
    (c = ' ' → ∀ d ∈ cs.head?, ¬IsLineBreak d) → SingleQuoted margin cs text →
    SingleQuoted margin (c :: cs) (c :: text)
  | lineBreak {c d : Char} {cs text : List Char} : c = '\u2028' ∨ c = '\u2029' → IsLineBreak d →
    SingleQuoted margin (d :: cs) text → SingleQuoted margin (c :: d :: cs) (c :: text)
  | line {c : Char} {cs text : List Char} : c = '\u2028' ∨ c = '\u2029' →
    (∀ d ∈ cs.head?, ¬IsLineBreak d ∧ d ≠ ' ') → SingleQuoted margin cs text →
    SingleQuoted margin (c :: cs) (c :: (List.replicate margin ' ' ++ text))

/-- The letters behind a backslash, and what they stand for. -/
def escapeLetters : List (Char × Char) :=
  [('0', '\x00'), ('a', '\x07'), ('b', '\x08'), ('t', '\t'), ('n', '\n'), ('v', '\x0b'),
    ('f', '\x0c'), ('r', '\r'), ('e', '\x1b'), ('"', '"'), ('\\', '\\'), ('N', '\u0085'),
    ('L', '\u2028'), ('P', '\u2029')]

/-- Text between double quotes, with escapes. -/
inductive DoubleQuoted : List Char → List Char → Prop
  | nil : DoubleQuoted [] []
  | char {c : Char} {cs text : List Char} : c ≠ '"' → c ≠ '\\' → Printable c → ¬IsLineBreak c →
    DoubleQuoted cs text → DoubleQuoted (c :: cs) (c :: text)
  | escape {e c : Char} {cs text : List Char} : (e, c) ∈ escapeLetters → DoubleQuoted cs text →
    DoubleQuoted (c :: cs) ('\\' :: e :: text)
  | code {mark c : Char} {digits cs text : List Char} :
    (mark, digits.length) ∈ [('x', 2), ('u', 4), ('U', 8)] →
    Text.numberIn? 16 digits = some c.toNat → DoubleQuoted cs text →
    DoubleQuoted (c :: cs) ('\\' :: mark :: (digits ++ text))

/-- Lines below a margin. Empty ones have none. The flag says whether a line begins here. -/
inductive Margined (margin : Nat) : Bool → List Char → List Char → Prop
  | nil {start : Bool} : Margined margin start [] []
  | lineBreak {start : Bool} {c : Char} {cs text : List Char} : Printable c → IsLineBreak c →
    Margined margin true cs text → Margined margin start (c :: cs) (c :: text)
  | first {c : Char} {cs text : List Char} : Printable c → ¬IsLineBreak c →
    Margined margin false cs text →
    Margined margin true (c :: cs) (List.replicate margin ' ' ++ c :: text)
  | next {c : Char} {cs text : List Char} : Printable c → ¬IsLineBreak c →
    Margined margin false cs text → Margined margin false (c :: cs) (c :: text)

/-- What is done with the line breaks at the end of a literal block: none of them counts, one does,
or all do. -/
inductive Chomps : List Char → List Char → Prop
  | strip {cs : List Char} : (∀ c ∈ cs.getLast?, ¬IsLineBreak c) → Chomps cs ['-']
  | clip {cs : List Char} {c d : Char} : ¬IsLineBreak c → IsLineBreak d → Chomps (cs ++ [c, d]) []
  | keep {cs : List Char} {c : Char} : IsLineBreak c → Chomps (cs ++ [c]) ['+']

/-- The texts of a scalar. The margin of further lines lies two columns right of the block that the
scalar belongs to. A literal block names it unless its first line shows it. -/
inductive Scalar (margin : Nat) (s : String) : List Char → Prop
  | plain : IsPlain s → Scalar margin s s.toList
  | single {text : List Char} : SingleQuoted margin s.toList text →
    Scalar margin s ('\x27' :: (text ++ ['\x27']))
  | double {text : List Char} : DoubleQuoted s.toList text →
    Scalar margin s ('"' :: (text ++ ['"']))
  | literal {mark chomping text : List Char} :
    mark = ['2'] ∨ mark = [] ∧ (∃ c ∈ s.toList.head?, c ≠ ' ' ∧ ¬IsLineBreak c) →
    Chomps s.toList chomping → Margined margin true s.toList text →
    Scalar margin s ('|' :: (mark ++ (chomping ++ '\n' :: text)))

end Scalars

/-- A text and, on a new line at a column, another one. A text that ends with a line break needs no
more of them. -/
inductive NextLine (column : Nat) (before after : List Char) : List Char → Prop
  | broken : (∃ c ∈ before.getLast?, IsLineBreak c) →
    NextLine column before after (before ++ (List.replicate column ' ' ++ after))
  | fresh : (∀ c ∈ before.getLast?, ¬IsLineBreak c) →
    NextLine column before after (before ++ '\n' :: (List.replicate column ' ' ++ after))

/-- The texts of a value without parts. -/
inductive Leaf (margin : Nat) : Json → List Char → Prop
  | null : Leaf margin .null "null".toList
  | true : Leaf margin (.bool true) "true".toList
  | false : Leaf margin (.bool false) "false".toList
  | integer {m : Int} : Leaf margin (.integer m) (toString m).toList
  | string {s : String} {text : List Char} : Scalar margin s text → Leaf margin (.string s) text
  | noItems : Leaf margin (.array []) ['[', ']']
  | noEntries : Leaf margin (.object []) ['\x7b', '\x7d']

mutual

/-- The texts of a value whose first line has begun at a column. A value without parts stands in a
list or mapping. -/
inductive Spells : Nat → Json → List Char → Prop
  | leaf {column : Nat} {j : Json} {text : List Char} : Leaf (column + 2) j text →
    Spells (column + 2) j text
  | list {column : Nat} {items : List Json} {text : List Char} : SpellsItems column items text →
    Spells column (.array items) text
  | mapping {column : Nat} {entries : List (String × Json)} {text : List Char} :
    SpellsEntries column entries text → Spells column (.object entries) text

/-- Items, each behind a dash. -/
inductive SpellsItems : Nat → List Json → List Char → Prop
  | last {column : Nat} {item : Json} {text : List Char} : Spells (column + 2) item text →
    SpellsItems column [item] ('-' :: ' ' :: text)
  | cons {column : Nat} {item : Json} {items : List Json} {text more whole : List Char} :
    Spells (column + 2) item text → SpellsItems column items more →
    NextLine column ('-' :: ' ' :: text) more whole → SpellsItems column (item :: items) whole

/-- Entries, one below the other. -/
inductive SpellsEntries : Nat → List (String × Json) → List Char → Prop
  | last {column : Nat} {entry : String × Json} {text : List Char} :
    SpellsEntry column entry text → SpellsEntries column [entry] text
  | cons {column : Nat} {entry : String × Json} {entries : List (String × Json)}
    {text more whole : List Char} : SpellsEntry column entry text →
    SpellsEntries column entries more → NextLine column text more whole →
    SpellsEntries column (entry :: entries) whole

/-- A name on one line with its colon, and the value behind it. A name that does not fit on a line
stands behind a question mark, and its value behind a colon on a line of its own. -/
inductive SpellsEntry : Nat → String × Json → List Char → Prop
  | named {column margin : Nat} {name : String} {item : Json} {key text : List Char} :
    Scalar margin name key → (∀ c ∈ key, ¬IsLineBreak c) → SpellsValue column item text →
    SpellsEntry column (name, item) (key ++ ':' :: text)
  | asked {column : Nat} {name : String} {item : Json} {key text whole : List Char} :
    Scalar (column + 2) name key → Spells (column + 2) item text →
    NextLine column ('?' :: ' ' :: key) (':' :: ' ' :: text) whole →
    SpellsEntry column (name, item) whole

/-- The value behind a name: on the same line, or from the next line on. -/
inductive SpellsValue : Nat → Json → List Char → Prop
  | leaf {column : Nat} {j : Json} {text : List Char} : Leaf (column + 2) j text →
    SpellsValue column j (' ' :: text)
  | list {column : Nat} {items : List Json} {text : List Char} : SpellsItems column items text →
    SpellsValue column (.array items) ('\n' :: (List.replicate column ' ' ++ text))
  | mapping {column : Nat} {entries : List (String × Json)} {text : List Char} :
    SpellsEntries (column + 2) entries text →
    SpellsValue column (.object entries) ('\n' :: (List.replicate (column + 2) ' ' ++ text))

end

/-- The text is that of a document with this list or mapping. -/
def IsTextOf (text : String) (j : Json) : Prop := Spells 0 j text.toList

end SettingsCheck.Yaml
