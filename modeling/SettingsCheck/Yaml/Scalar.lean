import SettingsCheck.Text.Digits
import SettingsCheck.Yaml.Glyph

namespace SettingsCheck.Yaml

/-- How a scalar was written. -/
inductive Style where
  | plain
  | quoted
  | literal
  | folded
  deriving DecidableEq, Repr

/-- Blanks and line breaks between two characters of a scalar. -/
inductive Gap where
  | blanks (cs : List Char)
  /-- The line breaks of a gap; the first is missing if it was escaped. -/
  | breaks (first : Option Char) (more : List Char)

namespace Gap

/-- Blanks next to a line break do not count. -/
def add : Gap → Char → Gap
  | blanks cs, c => if isBreak c then breaks (some c) [] else blanks (cs ++ [c])
  | breaks first more, c => if isBreak c then breaks first (more ++ [c]) else breaks first more

/-- One line feed stands for a blank, and more of them for one less. -/
def text : Gap → List Char
  | blanks cs => cs
  | breaks (some '\n') [] => [' ']
  | breaks (some '\n') more => more
  | breaks first more => first.toList ++ more

def isBroken : Gap → Bool
  | blanks _ => false
  | breaks _ _ => true

end Gap

/-- A plain scalar and what follows it. -/
structure Plain where
  text : List Char
  /-- Whether there was a line break behind it. -/
  broken : Bool
  rest : List Glyph

/-- Whether a plain scalar ends before this character. -/
def endsPlain (inFlow : Bool) (c : Char) (rest : List Glyph) : Bool :=
  (c == ':' && atWordEnd rest) || (inFlow && isComma c)

/-- Reads on after a gap, if there is one; later lines have to be indented. -/
def plain (indent : Nat) (inFlow : Bool) : Option Gap → List Glyph → Option Plain
  | gap, [] => some ⟨[], gap.any Gap.isBroken, []⟩
  | gap, g :: rest =>
    if isBlank g.char || isBreak g.char then
      if g.char == '\t' && gap.any Gap.isBroken && g.column < indent then none
      else plain indent inFlow (some ((gap.getD (.blanks [])).add g.char)) rest
    else if gap.isSome &&
        (atBoundary (g :: rest) || g.char == '#' || (!inFlow && g.column < indent)) then
      some ⟨[], gap.any Gap.isBroken, g :: rest⟩
    else if inFlow && g.char == ':' &&
        rest.head?.any (fun g => g.char == '?' || isComma g.char) then
      none
    else if endsPlain inFlow g.char rest then some ⟨[], gap.any Gap.isBroken, g :: rest⟩
    else (plain indent inFlow none rest).map fun p =>
      { p with text := (gap.map Gap.text).getD [] ++ g.char :: p.text }

/-- The characters that stand for another one behind a backslash. -/
def escapes : List (Char × Char) :=
  [('0', '\x00'), ('a', '\x07'), ('b', '\x08'), ('t', '\t'), ('\t', '\t'), ('n', '\n'),
    ('v', '\x0b'), ('f', '\x0c'), ('r', '\r'), ('e', '\x1b'), (' ', ' '), ('"', '"'), ('/', '/'),
    ('\\', '\\'), ('N', '\u0085'), ('_', '\u00a0'), ('L', '\u2028'), ('P', '\u2029')]

/-- A character behind a backslash, and how many characters name it. -/
def escape? : List Glyph → Option (Char × Nat)
  | [] => none
  | g :: rest =>
    match escapes.lookup g.char with
    | some c => some (c, 1)
    | none => do
      let digits ← [('x', 2), ('u', 4), ('U', 8)].lookup g.char
      let code := chars (rest.take digits)
      if code.length < digits then none
      else return (← Text.charOf? (← Text.numberIn? 16 code), digits + 1)

/-- Text up to its closing quote. The number says how many characters were read ahead. -/
def quoted (double : Bool) : Option Gap → Nat → List Glyph → Option (List Char × List Glyph)
  | _, _, [] => none
  | gap, ahead + 1, _ :: rest => quoted double gap ahead rest
  | gap, 0, g :: rest =>
    let before := (gap.map Gap.text).getD []
    let goOn (c : Char) (ahead : Nat) :=
      (quoted double none ahead rest).map fun (cs, r) => (before ++ c :: cs, r)
    if isBlank g.char || isBreak g.char then
      quoted double (some ((gap.getD (.blanks [])).add g.char)) 0 rest
    else if gap.isSome && atBoundary (g :: rest) then none
    else if double && g.char == '"' then some (before, rest)
    else if double && g.char == '\\' then
      match rest with
      | [] => none
      | e :: _ =>
        if isBreak e.char then
          (quoted double (some (.breaks none [])) 1 rest).map fun (cs, r) => (before ++ cs, r)
        else do
          let (c, ahead) ← escape? rest
          goOn c ahead
    else if !double && g.char == '\x27' then
      if startsWith ['\x27'] rest then goOn '\x27' 1 else some (before, rest)
    else goOn g.char 0

/-- What becomes of the line breaks at the end of a block. -/
inductive Chomp where
  | strip
  | clip
  | keep
  deriving DecidableEq

def chomp? (c : Char) : Option Chomp :=
  if c == '-' then some .strip else if c == '+' then some .keep else none

/-- The chomping and the indentation that a block names, in any order. -/
def blockHeader? : List Glyph → Option (Chomp × Option Nat × List Glyph)
  | [] => some (.clip, none, [])
  | a :: rest =>
    let digit? (gs : List Glyph) : Option (Option Nat × List Glyph) := match gs with
      | [] => some (none, [])
      | d :: r =>
        if d.char == '0' then none
        else if d.char.isDigit then some (some (d.char.toNat - 48), r)
        else some (none, d :: r)
    match chomp? a.char with
    | some chomp => (digit? rest).map fun (indent, r) => (chomp, indent, r)
    | none => do
      let (indent, r) ← digit? (a :: rest)
      match indent, r with
      | some _, c :: r' => match chomp? c.char with
        | some chomp => return (chomp, indent, r')
        | none => return (.clip, indent, r)
      | _, _ => return (.clip, indent, r)

/-- The rest of a line may hold blanks and a comment. The comment needs no blank before it. -/
def lineEnd? (gs : List Glyph) : Option (List Glyph) :=
  match gs.dropWhile (isBlank ·.char) with
  | [] => some []
  | g :: rest =>
    if g.char == '#' then some ((rest.dropWhile (!isBreak ·.char)).drop 1)
    else if isBreak g.char then some rest
    else none

/-- Line breaks before the first line of a block, and the widest indentation among them. -/
def leadingBreaks (widest : Nat) : List Glyph → Option (List Char × Nat × List Glyph)
  | [] => some ([], widest, [])
  | g :: rest =>
    if g.char == ' ' then leadingBreaks (max widest (g.column + 1)) rest
    else if g.char == '\t' then none
    else if isBreak g.char then
      (leadingBreaks widest rest).map fun (cs, r) => (g.char :: cs, r)
    else some ([], widest, g :: rest)

/-- Line breaks between the lines of a block, and the indentation of the line that follows. -/
def innerBreaks (indent : Nat) : List Glyph → Option (List Char × List Glyph)
  | [] => some ([], [])
  | g :: rest =>
    if g.column < indent && g.char == ' ' then innerBreaks indent rest
    else if g.column < indent && g.char == '\t' then none
    else if isBreak g.char then (innerBreaks indent rest).map fun (cs, r) => (g.char :: cs, r)
    else some ([], g :: rest)

/-- The lines of a block. Each takes a character, so the count of characters is fuel enough. -/
def blockLines (isFolded : Bool) (chomp : Chomp) (indent : Nat) :
    Nat → Bool → Option Char → List Char → List Glyph → Option (List Char × List Glyph)
  | 0, _, _, _, _ => none
  | fuel + 1, afterBlank, lastBreak, breaks, gs =>
    match gs with
    | [] => some (tail lastBreak breaks, [])
    | g :: rest =>
      if g.column != indent then some (tail lastBreak breaks, g :: rest)
      else
        let joint :=
          if isFolded && lastBreak == some '\n' && !afterBlank && !isBlank g.char then
            (if breaks.isEmpty then [' '] else [])
          else lastBreak.toList
        let line := (g :: rest).takeWhile (!isBreak ·.char)
        let after := (g :: rest).dropWhile (!isBreak ·.char)
        do
          let (more, next) ← innerBreaks indent (after.drop 1)
          let (cs, r) ← blockLines isFolded chomp indent fuel (isBlank g.char)
            (after.head?.map Glyph.char) more next
          return (joint ++ breaks ++ chars line ++ cs, r)
where
  tail (lastBreak : Option Char) (breaks : List Char) : List Char :=
    (if chomp = .strip then [] else lastBreak.toList) ++ (if chomp = .keep then breaks else [])

/-- The text of a block behind its indicator. Without a number it is indented as its first line, and
always deeper than the text around it. -/
def block (isFolded : Bool) (outer : Int) (gs : List Glyph) : Option (List Char × List Glyph) := do
  let (chomp, increment, rest) ← blockHeader? gs
  let rest ← lineEnd? rest
  match increment with
  | some n =>
    let indent := ((max outer 0) + n).toNat
    let (breaks, rest) ← innerBreaks indent rest
    blockLines isFolded chomp indent (rest.length + 1) false none breaks rest
  | none =>
    let (breaks, widest, rest) ← leadingBreaks 0 rest
    let indent := max widest (max (outer + 1) 1).toNat
    blockLines isFolded chomp indent (rest.length + 1) false none breaks rest

end SettingsCheck.Yaml
