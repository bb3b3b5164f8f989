import SettingsCheck.Yaml.Token

/-!
Cutting a YAML text into tokens. Indentation becomes brackets, and a key is recognised by the colon
behind it, so its token is put in front of what was read already. Such a key has to stand on one
line and to be no longer than 1024 characters.
-/

namespace SettingsCheck.Yaml

/-- Where a key may have begun. -/
structure KeyStart where
  /-- How many tokens there are before it. -/
  place : Nat
  index : Nat
  line : Nat
  column : Nat
  /-- Whether nothing but a key fits there. -/
  required : Bool

structure Scanner where
  tokens : Array Token := #[]
  /-- The columns of the open blocks, innermost first. -/
  blocks : List Nat := []
  /-- The key that may have begun last on this level of brackets, and on the outer ones. -/
  keyStart : Option KeyStart := none
  outerStarts : List (Option KeyStart) := []
  /-- Whether a key may begin here. -/
  keyAllowed : Bool := true

/-- Skips blanks, comments and line breaks; a new line may begin with a key. Tabs do not count as
blanks where a key may begin. -/
def skipGap (inFlow : Bool) : Bool → Bool → List Glyph → Bool × List Glyph
  | _, keyAllowed, [] => (keyAllowed, [])
  | inComment, keyAllowed, g :: rest =>
    if isBreak g.char then skipGap inFlow false (keyAllowed || !inFlow) rest
    else if inComment || g.char == ' ' || (g.char == '\t' && (inFlow || !keyAllowed)) ||
        (g.char == '\uFEFF' && g.column == 0) then
      skipGap inFlow inComment keyAllowed rest
    else if g.char == '#' then skipGap inFlow true keyAllowed rest
    else (keyAllowed, g :: rest)

/-- Whether a plain scalar may begin with this character. -/
def beginsPlain (inFlow : Bool) (c : Char) (rest : List Glyph) : Bool :=
  !(isBlank c || isBreak c || "-?:,[]\x7b\x7d#&*!|>'\"%@\x60".toList.contains c) ||
    (c == '-' && !rest.head?.any (isBlank ·.char)) ||
    (!inFlow && (c == '?' || c == ':') && !atWordEnd rest)

namespace Scanner

def inFlow (s : Scanner) : Bool := !s.outerStarts.isEmpty

/-- The column of the innermost block, -1 outside of all. -/
def indent (s : Scanner) : Int :=
  match s.blocks with
  | [] => -1
  | n :: _ => n

def push (s : Scanner) (t : Token) : Scanner := { s with tokens := s.tokens.push t }

def insert (s : Scanner) (place : Nat) (t : Token) : Scanner :=
  { s with tokens := s.tokens.insertIdxIfInBounds place t }

/-- Closes the blocks that are indented deeper than a column. Brackets suspend this. -/
def closeBlocks (s : Scanner) (column : Int) : Scanner :=
  if s.inFlow then s
  else
    let closed := s.blocks.takeWhile fun (n : Nat) => column < n
    { s with
      blocks := s.blocks.drop closed.length
      tokens := s.tokens ++ (List.replicate closed.length Token.blockEnd).toArray }

/-- Opens a block at a column unless it is open already. -/
def openBlock (s : Scanner) (column place : Nat) (t : Token) : Scanner :=
  if s.inFlow || (column : Int) ≤ s.indent then s
  else { s with blocks := column :: s.blocks }.insert place t

/-- Gives up the key that may have begun. -/
def forgetKey (s : Scanner) : Option Scanner :=
  if s.keyStart.any KeyStart.required then none else some { s with keyStart := none }

/-- Notes that a key may begin with the next token. -/
def noteKey (s : Scanner) (g : Glyph) : Option Scanner :=
  if !s.keyAllowed then some s
  else s.forgetKey.map fun s =>
    { s with keyStart := some ⟨s.tokens.size, g.index, g.line, g.column,
        !s.inFlow && s.indent == g.column⟩ }

def keepFresh (g : Glyph) (start : Option KeyStart) : Option (Option KeyStart) :=
  match start with
  | none => some none
  | some k =>
    if k.line < g.line || k.index + 1024 < g.index then if k.required then none else some none
    else some (some k)

/-- Gives up all keys that began on an earlier line or too long ago. -/
def forgetStale (s : Scanner) (g : Glyph) : Option Scanner := do
  return { s with
    keyStart := ← keepFresh g s.keyStart
    outerStarts := ← s.outerStarts.mapM (keepFresh g) }

/-- A token that ends what was before it on the top level. -/
def boundary (s : Scanner) (t : Token) : Option Scanner :=
  (s.closeBlocks (-1)).forgetKey.map fun s => { s with keyAllowed := false }.push t

def openBracket (s : Scanner) (g : Glyph) (t : Token) : Option Scanner :=
  (s.noteKey g).map fun s =>
    { s with keyStart := none, outerStarts := s.keyStart :: s.outerStarts,
             keyAllowed := true }.push t

def closeBracket (s : Scanner) (t : Token) : Option Scanner :=
  s.forgetKey.map fun s =>
    let s := match s.outerStarts with
      | [] => s
      | k :: ks => { s with keyStart := k, outerStarts := ks }
    { s with keyAllowed := false }.push t

/-- A dash or a question mark, which open a block and end a key. -/
def indicator (s : Scanner) (g : Glyph) (block t : Token) (keyAllowed : Bool) : Option Scanner :=
  if !s.inFlow && !s.keyAllowed then none
  else (s.openBlock g.column s.tokens.size block).forgetKey.map fun s =>
    { s with keyAllowed }.push t

/-- A colon. If a key may have begun, it did. -/
def colon (s : Scanner) (g : Glyph) : Option Scanner :=
  match s.keyStart with
  | some k =>
    let s := (s.insert k.place .key).openBlock k.column k.place .blockMapping
    some ({ s with keyStart := none, keyAllowed := false }.push .value)
  | none =>
    if !s.inFlow && !s.keyAllowed then none
    else
      let s := s.openBlock g.column s.tokens.size .blockMapping
      some ({ s with keyAllowed := !s.inFlow }.push .value)

/-- A token that may be a key, or begin one. -/
def content (s : Scanner) (g : Glyph) (t : Token) : Option Scanner :=
  (s.noteKey g).map fun s => { s with keyAllowed := false }.push t

/-- The next token, which starts with the given character. -/
def next (s : Scanner) (g : Glyph) (rest : List Glyph) : Option (Scanner × List Glyph) := do
  let s ← s.forgetStale g
  let s := s.closeBlocks g.column
  let gs := g :: rest
  let c := g.char
  if g.column == 0 && c == '%' then
    let (t, rest) ← directive? rest
    return (← s.boundary t, rest)
  else if atMarker '-' gs then return (← s.boundary .documentStart, gs.drop 3)
  else if atMarker '.' gs then return (← s.boundary .documentEnd, gs.drop 3)
  else if c == '[' then return (← s.openBracket g .openSequence, rest)
  else if c == '\x7b' then return (← s.openBracket g .openMapping, rest)
  else if c == ']' then return (← s.closeBracket .closeSequence, rest)
  else if c == '\x7d' then return (← s.closeBracket .closeMapping, rest)
  else if c == ',' then
    return ({ ← s.forgetKey with keyAllowed := true }.push .comma, rest)
  else if c == '-' && atWordEnd rest then
    if s.inFlow then return ({ ← s.forgetKey with keyAllowed := true }.push .dash, rest)
    else return (← s.indicator g .blockSequence .dash true, rest)
  else if c == '?' && (s.inFlow || atWordEnd rest) then
    return (← s.indicator g .blockMapping .key (!s.inFlow), rest)
  else if c == ':' && (s.inFlow || atWordEnd rest) then return (← s.colon g, rest)
  else if c == '*' then
    let (name, rest) ← anchorName? rest
    return (← s.content g (.reference name), rest)
  else if c == '&' then
    let (name, rest) ← anchorName? rest
    return (← s.content g (.anchor name), rest)
  else if c == '!' then
    let (t, rest) ← tag? s.inFlow gs
    return (← s.content g t, rest)
  else if (c == '|' || c == '>') && !s.inFlow then
    let (text, rest) ← block (c == '>') s.indent rest
    let style := if c == '>' then Style.folded else .literal
    let t := Token.scalar style (String.ofList text)
    return ({ ← s.forgetKey with keyAllowed := true }.push t, rest)
  else if c == '"' || c == '\x27' then
    let (text, rest) ← quoted (c == '"') none 0 rest
    return (← s.content g (.scalar .quoted (String.ofList text)), rest)
  else if beginsPlain s.inFlow c rest then
    let p ← plain (s.indent + 1).toNat s.inFlow none gs
    let s ← s.content g (.scalar .plain (String.ofList p.text))
    return ({ s with keyAllowed := p.broken }, p.rest)
  else none

/-- All tokens; fuel is needed only to see that this ends, since each token takes a character. -/
def run : Nat → Scanner → List Glyph → Option (List Token)
  | 0, _, _ => none
  | fuel + 1, s, gs =>
    let (keyAllowed, gs) := skipGap s.inFlow false s.keyAllowed gs
    match gs with
    | [] => (s.closeBlocks (-1)).forgetKey.map (·.tokens.toList)
    | g :: rest => do
      let (s, rest) ← { s with keyAllowed }.next g rest
      run fuel s rest

end Scanner

def tokens? (text : String) : Option (List Token) := do
  let gs ← glyphs? text
  Scanner.run (gs.length + 1) {} gs

end SettingsCheck.Yaml
