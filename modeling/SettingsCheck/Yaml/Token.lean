import SettingsCheck.Decimal.Reading
import SettingsCheck.Yaml.Scalar

namespace SettingsCheck.Yaml

inductive Token where
  | version (major minor : Nat)
  | tagShort (handle start : String)
  | documentStart
  | documentEnd
  | blockSequence
  | blockMapping
  | blockEnd
  | openSequence
  | closeSequence
  | openMapping
  | closeMapping
  | dash
  | comma
  | key
  | value
  | reference (name : String)
  | anchor (name : String)
  /-- A tag as its handle, which may be empty, and the rest. -/
  | tag (handle rest : String)
  | scalar (style : Style) (text : String)
  deriving DecidableEq, Repr

def nameChars (gs : List Glyph) : List Char × List Glyph :=
  (chars (gs.takeWhile (isNameChar ·.char)), gs.dropWhile (isNameChar ·.char))

/-- The name of an anchor or alias. -/
def anchorName? (gs : List Glyph) : Option (String × List Glyph) :=
  let (name, rest) := nameChars gs
  let stops := ['?', ':', ',', ']', '\x7d', '%', '@', '\x60']
  if name.isEmpty || !(atWordEnd rest || startsWith stops rest) then none
  else some (String.ofList name, rest)

/-- How many bytes a character has whose first byte this is, and its bits. -/
def leadByte? (n : Nat) : Option (Nat × Nat) :=
  if n < 0x80 then some (1, n)
  else if 0xC0 ≤ n && n < 0xE0 then some (2, n - 0xC0)
  else if 0xE0 ≤ n && n < 0xF0 then some (3, n - 0xE0)
  else if 0xF0 ≤ n && n < 0xF8 then some (4, n - 0xF0)
  else none

def isTagChar (withCommas : Bool) (c : Char) : Bool :=
  isNameChar c || ";/?:@&=+$.!~*'()".toList.contains c || (withCommas && [',', '[', ']'].contains c)

/-- The characters of a tag; `%XX` is a byte of one. Before the text comes how many bytes are still
missing to a character, and the bits of those that were read. -/
def tagText? (withCommas : Bool) : Nat → Nat → List Glyph → Option (List Char × List Glyph)
  | missing, _, [] => if missing = 0 then some ([], []) else none
  | missing, bits, g :: rest =>
    if g.char == '%' then
      match rest with
      | a :: b :: rest' => do
        let byte ← Text.numberIn? 16 [a.char, b.char]
        let (missing, bits) ←
          if missing = 0 then (leadByte? byte).map fun (size, bits) => (size - 1, bits)
          else if 0x80 ≤ byte && byte < 0xC0 then some (missing - 1, bits * 64 + (byte - 0x80))
          else none
        let (cs, r) ← tagText? withCommas missing bits rest'
        if missing = 0 then return ((← Text.charOf? bits) :: cs, r)
        else return (cs, r)
      | _ => none
    else if missing ≠ 0 then none
    else if isTagChar withCommas g.char then
      (tagText? withCommas 0 0 rest).map fun (cs, r) => (g.char :: cs, r)
    else some ([], g :: rest)

/-- An exclamation mark, name characters and perhaps another mark. -/
def tagHandle? : List Glyph → Option (List Char × List Glyph)
  | [] => none
  | g :: rest =>
    if g.char != '!' then none
    else
      let (name, rest) := nameChars rest
      if startsWith ['!'] rest then some ('!' :: name ++ ['!'], rest.drop 1)
      else some ('!' :: name, rest)

/-- A tag that starts here, with its exclamation mark. -/
def tag? (inFlow : Bool) (gs : List Glyph) : Option (Token × List Glyph) := do
  let (token, rest) ← match gs with
    | _ :: g :: rest =>
      if g.char == '<' then do
        let (text, rest) ← tagText? true 0 0 rest
        if text.isEmpty || !startsWith ['>'] rest then none
        else return (.tag "" (String.ofList text), rest.drop 1)
      else short
    | _ => short
  if (inFlow && startsWith [','] rest) || atWordEnd rest then return (token, rest) else none
where
  short : Option (Token × List Glyph) := do
    let (handle, rest) ← tagHandle? gs
    let (text, rest) ← tagText? false 0 0 rest
    if 1 < handle.length && handle.getLast? == some '!' then
      if text.isEmpty then none else return (.tag (String.ofList handle) (String.ofList text), rest)
    else
      let whole := handle.drop 1 ++ text
      if whole.isEmpty then return (.tag "" "!", rest)
      else return (.tag "!" (String.ofList whole), rest)

/-- A number of at most nine digits. -/
def versionNumber? (gs : List Glyph) : Option (Nat × List Glyph) :=
  let digits := chars (gs.takeWhile (isDecimalDigit ·.char))
  if digits.isEmpty || 9 < digits.length then none
  else some (digitsValue digits, gs.dropWhile (isDecimalDigit ·.char))

/-- A directive behind its percent sign. -/
def directive? (gs : List Glyph) : Option (Token × List Glyph) := do
  let (name, rest) := nameChars gs
  if name.isEmpty || !atWordEnd rest then none
  else
    let rest := rest.dropWhile (isBlank ·.char)
    let (token, rest) ←
      if name = "YAML".toList then do
        let (major, rest) ← versionNumber? rest
        if !startsWith ['.'] rest then none
        let (minor, rest) ← versionNumber? (rest.drop 1)
        return (Token.version major minor, rest)
      else if name = "TAG".toList then do
        let (handle, rest) ← tagHandle? rest
        if handle.length ≠ 1 && handle.getLast? ≠ some '!' then none
        match rest with
        | [] => none
        | g :: _ =>
          if !isBlank g.char then none
          let (start, rest) ← tagText? true 0 0 (rest.dropWhile (isBlank ·.char))
          if start.isEmpty || !atWordEnd rest then none
          return (Token.tagShort (String.ofList handle) (String.ofList start), rest)
      else none
    return (token, ← lineEnd? rest)

end SettingsCheck.Yaml
