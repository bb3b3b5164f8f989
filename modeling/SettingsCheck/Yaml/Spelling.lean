import SettingsCheck.Yaml.Glyph
import SettingsCheck.Yaml.Word

namespace SettingsCheck.Yaml

/-- The line breaks that a reader may find in a text; two of them are control characters. -/
def breaksLine (c : Char) : Bool := isBreak c || c == '\r' || c == '\u0085'

/-- The characters that can be written as they are. -/
def isPrintable (c : Char) : Bool :=
  let n := c.toNat
  n == 0xA || (0x20 ≤ n && n ≤ 0x7E) || (0xA0 ≤ n && n ≤ 0xFFFD && n ≠ 0xFEFF) || 0x10000 ≤ n

/-- The characters that mean something at the beginning of a scalar. -/
def isIndicator (c : Char) : Bool :=
  ['#', ',', '[', ']', '\x7b', '\x7d', '&', '*', '!', '|', '>', '\x27', '"', '%', '@',
    '\x60'].contains c

def isGap (c : Char) : Bool := isBlank c || breaksLine c

def startsWithGap : List Char → Bool
  | [] => true
  | c :: _ => isGap c

/-- A colon before a gap, or a number sign after one. -/
@[simp] def hasInnerIndicator (afterGap : Bool) : List Char → Bool
  | [] => false
  | c :: rest =>
    (c == ':' && startsWithGap rest) || (c == '#' && afterGap) || hasInnerIndicator (isGap c) rest

/-- Whether something in a text means more than itself when it is written plain. -/
def hasIndicator (cs : List Char) : Bool :=
  "---".toList.isPrefixOf cs || "...".toList.isPrefixOf cs || hasInnerIndicator true cs ||
    match cs with
    | [] => false
    | c :: rest => isIndicator c || ((c == '?' || c == '-') && startsWithGap rest)

/-- Whether a character of one class comes right before one of another. -/
def hasPair (p q : Char → Bool) : List Char → Bool
  | c :: d :: rest => (p c && q d) || hasPair p q (d :: rest)
  | _ => false

def endsWithSpace (cs : List Char) : Bool := cs.getLast? == some ' '

def canBePlain (cs : List Char) : Bool :=
  cs.all isPrintable && !cs.any breaksLine && !hasIndicator cs && cs.head? != some ' ' &&
    !endsWithSpace cs

def canBeQuoted (cs : List Char) : Bool :=
  cs.all isPrintable && !hasPair breaksLine (· == ' ') cs && !hasPair (· == ' ') breaksLine cs

def canBeLiteral (cs : List Char) : Bool :=
  cs.all isPrintable && !endsWithSpace cs && !hasPair (· == ' ') breaksLine cs

inductive Spelling where
  | plain
  /-- Between single quotes. -/
  | quoted
  /-- Between double quotes. -/
  | escaped
  /-- A block with the lines of the text. -/
  | literal
  deriving DecidableEq, Repr

/-- Whether a plain word is read as something else than a text. -/
def isTypedWord (s : String) : Bool :=
  s = "" || isNullWord s || (boolWord? s).isSome || (integerWord? s).isSome ||
    isZeroPadded s.toList || (floatWord? s).isSome

def Spelling.ofText (s : String) : Spelling :=
  let cs := s.toList
  if cs.contains '\n' then if canBeLiteral cs then literal else escaped
  else if canBePlain cs && !isTypedWord s then plain
  else if canBeQuoted cs then quoted
  else escaped

def upperHex (width n : Nat) : List Char :=
  let digits := (Nat.toDigits 16 n).map Char.toUpper
  List.replicate (width - digits.length) '0' ++ digits

def escapedChar (c : Char) : List Char :=
  let named := [('\x00', '0'), ('\x07', 'a'), ('\x08', 'b'), ('\t', 't'), ('\n', 'n'),
    ('\x0b', 'v'), ('\x0c', 'f'), ('\r', 'r'), ('\x1b', 'e'), ('"', '"'), ('\\', '\\'), ('\u0085', 'N'),
    ('\u2028', 'L'), ('\u2029', 'P')]
  match named.find? (·.1 == c) with
  | some (_, name) => ['\\', name]
  | none =>
    if isPrintable c then [c]
    else if c.toNat ≤ 0xFF then '\\' :: 'x' :: upperHex 2 c.toNat
    else if c.toNat ≤ 0xFFFF then '\\' :: 'u' :: upperHex 4 c.toNat
    else '\\' :: 'U' :: upperHex 8 c.toNat

def margin (indent : Nat) : List Char := List.replicate indent ' '

/-- The lines of a text below a margin; empty lines have none. -/
@[simp] def indented (indent : Nat) (afterBreak : Bool) : List Char → List Char
  | [] => []
  | c :: rest =>
    if breaksLine c then c :: indented indent true rest
    else (if afterBreak then margin indent else []) ++ c :: indented indent false rest

def endsWithBreak (cs : List Char) : Bool := cs.getLast?.any breaksLine

/-- A margin that a literal block has to name, since its first line does not show it. -/
def marginMark (cs : List Char) : List Char :=
  if cs.head?.any fun c => c == ' ' || breaksLine c then ['2'] else []

/-- How a literal block ends: with no line break, one, or more. -/
def endMark (cs : List Char) : List Char :=
  match cs.reverse with
  | [] => ['-']
  | [c] => if breaksLine c then ['+'] else ['-']
  | c :: d :: _ => if !breaksLine c then ['-'] else if breaksLine d then ['+'] else []

/-- The text of a scalar whose further lines have the given margin. -/
def scalarText (indent : Nat) (s : String) : List Char :=
  let cs := s.toList
  match Spelling.ofText s with
  | .plain => cs
  | .quoted =>
    let doubled := cs.flatMap fun c => if c == '\x27' then [c, c] else [c]
    '\x27' :: indented indent false doubled ++
      (if endsWithBreak cs then margin indent else []) ++ ['\x27']
  | .escaped => '"' :: cs.flatMap escapedChar ++ ['"']
  | .literal => '|' :: marginMark cs ++ endMark cs ++ '\n' :: indented indent true cs

end SettingsCheck.Yaml
