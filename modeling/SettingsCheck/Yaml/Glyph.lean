namespace SettingsCheck.Yaml

/-- A character and where it stands. -/
structure Glyph where
  char : Char
  /-- How many characters come before it. -/
  index : Nat
  line : Nat
  column : Nat

def isBreak (c : Char) : Bool := c == '\n' || c == '\u2028' || c == '\u2029'

def isBlank (c : Char) : Bool := c == ' ' || c == '\t'

/-- The characters that may stand in a text at all. -/
def isAllowed (c : Char) : Bool :=
  let n := c.toNat
  n == 0x9 || n == 0xA || n == 0xD || (0x20 ≤ n && n ≤ 0x7E) || n == 0x85 ||
    (0xA0 ≤ n && n ≤ 0xFFFD) || 0x10000 ≤ n

/-- Line breaks of one or two control characters become a line feed. -/
def glyphsFrom (index line column : Nat) : List Char → List Glyph
  | [] => []
  | '\r' :: '\n' :: rest => ⟨'\n', index, line, column⟩ :: glyphsFrom (index + 2) (line + 1) 0 rest
  | c :: rest =>
    let c := if c == '\r' || c == '\u0085' then '\n' else c
    ⟨c, index, line, column⟩ ::
      if isBreak c then glyphsFrom (index + 1) (line + 1) 0 rest
      else glyphsFrom (index + 1) line (column + 1) rest

/-- The glyphs of a text without its byte order mark. -/
def glyphs? (text : String) : Option (List Glyph) :=
  let cs := match text.toList with
    | '\uFEFF' :: rest => rest
    | cs => cs
  if cs.all isAllowed then some (glyphsFrom 0 0 0 cs) else none

/-- Whether the first character is one of these. -/
def startsWith (cs : List Char) : List Glyph → Bool
  | [] => false
  | g :: _ => cs.contains g.char

/-- Whether a word ends here: at a blank, a line break or the end. -/
def atWordEnd : List Glyph → Bool
  | [] => true
  | g :: _ => isBlank g.char || isBreak g.char

def chars (gs : List Glyph) : List Char := gs.map Glyph.char

/-- Whether a line starts here with three times a character and nothing else in that word. -/
def atMarker (c : Char) : List Glyph → Bool
  | a :: b :: d :: rest =>
    a.column == 0 && a.char == c && b.char == c && d.char == c && atWordEnd rest
  | _ => false

/-- Whether a document starts or ends here. -/
def atBoundary (gs : List Glyph) : Bool := atMarker '-' gs || atMarker '.' gs

/-- The digits and letters of names. -/
def isNameChar (c : Char) : Bool := c.isAlphanum || c == '_' || c == '-'

def isComma (c : Char) : Bool := [',', '[', ']', '\x7b', '\x7d'].contains c

end SettingsCheck.Yaml
