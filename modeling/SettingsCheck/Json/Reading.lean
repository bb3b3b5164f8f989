import SettingsCheck.Decimal.Reading
import SettingsCheck.Json.Tree

/-!
Reading JSON. The grammar is that of RFC 8259 without any extension, for texts of at most 127 nested
containers. Numbers without point and exponent stay integers as long as they fit in 64 bits.
-/

namespace SettingsCheck.Json

def skipBlanks (cs : List Char) : List Char :=
  cs.dropWhile fun c => c == ' ' || c == '\n' || c == '\t' || c == '\r'

/-- Four hexadecimal digits. -/
def unit? (a b c d : Char) : Option Nat := Text.numberIn? 16 [a, b, c, d]

def plainEscape? (c : Char) : Option Char :=
  if c = '"' || c = '\\' || c = '/' then some c
  else if c = 'b' then some '\x08'
  else if c = 'f' then some '\x0c'
  else if c = 'n' then some '\n'
  else if c = 'r' then some '\r'
  else if c = 't' then some '\t'
  else none

/-- The characters of a string up to its closing quote, and what follows. -/
def readString : List Char → Option (List Char × List Char)
  | [] => none
  | '"' :: rest => some ([], rest)
  | '\\' :: 'u' :: a :: b :: c :: d :: rest => do
    let high ← unit? a b c d
    if 0xDC00 ≤ high && high ≤ 0xDFFF then none
    else if 0xD800 ≤ high && high ≤ 0xDBFF then
      match rest with
      | '\\' :: 'u' :: e :: f :: g :: h :: rest' => do
        let low ← unit? e f g h
        if low < 0xDC00 || 0xDFFF < low then none
        else
          let c := Char.ofNat (0x10000 + (high - 0xD800) * 0x400 + (low - 0xDC00))
          (readString rest').map fun (cs, r) => (c :: cs, r)
      | _ => none
    else (readString rest).map fun (cs, r) => (Char.ofNat high :: cs, r)
  | '\\' :: c :: rest => do
    let plain ← plainEscape? c
    (readString rest).map fun (cs, r) => (plain :: cs, r)
  | c :: rest =>
    if c.toNat < 0x20 then none
    else (readString rest).map fun (cs, r) => (c :: cs, r)

/-- The digits of a number as far as they fit in 64 bits, and a power of ten. -/
structure Parts where
  significand : Nat := 0
  exponent : Int := 0
  full : Bool := false

def Parts.digit (p : Parts) (c : Char) : Option Nat :=
  let n := p.significand * 10 + (c.toNat - 48)
  if n < unsignedLimit then some n else none

/-- A digit before the point; once one did not fit, all later ones only count. -/
def Parts.addWhole (p : Parts) (c : Char) : Parts :=
  match if p.full then none else p.digit c with
  | some n => { p with significand := n }
  | none => { p with exponent := p.exponent + 1, full := true }

/-- A digit behind the point; once one did not fit, all later ones are left out. -/
def Parts.addFraction (p : Parts) (c : Char) : Parts :=
  match if p.full then none else p.digit c with
  | some n => { p with significand := n, exponent := p.exponent - 1 }
  | none => { p with full := true }

/-- One multiplication or division by a power of ten, after divisions by `1e308` while the exponent
is below that range. Nothing if the number is too large. -/
def scale : Nat → Float → Int → Option Float
  | 0, x, _ => some x
  | fuel + 1, x, e =>
    if e.natAbs ≤ 308 then
      let power := Float.ofScientific 1 false e.natAbs
      let y := if 0 ≤ e then x * power else x / power
      if y.isInf then none else some y
    else if x == 0 then some x
    else if 0 ≤ e then none
    else scale fuel (x / 1e308) (e + 308)

def floatOf (negative : Bool) (p : Parts) : Option Float :=
  (scale 8 (UInt64.ofNat p.significand).toFloat p.exponent).map fun x => if negative then -x else x

/-- A number without point and exponent. -/
def integerOf (negative : Bool) (p : Parts) : Option Json :=
  if p.full then (floatOf negative p).map float
  else if !negative then some (integer p.significand)
  else if p.significand = 0 || signedLimit < p.significand then (floatOf true p).map float
  else some (integer (-(p.significand : Int)))

/-- A number with an exponent. -/
def withExponent (negative : Bool) (p : Parts) (down : Bool) (digits : List Char) : Option Json :=
  let e := digitsValue digits
  if e < Nat.pow 2 31 then
    let exponent := if down then p.exponent - e else p.exponent + e
    (floatOf negative { p with exponent }).map float
  else if p.significand = 0 || down then some (float (if negative then -0.0 else 0.0))
  else none

def readNumber (cs : List Char) : Option (Json × List Char) := do
  let (negative, cs) := match cs with
    | '-' :: r => (true, r)
    | r => (false, r)
  let whole := cs.takeWhile isDecimalDigit
  let rest := cs.dropWhile isDecimalDigit
  if whole.isEmpty || (whole.length > 1 && whole.head? == some '0') then none
  let p := whole.foldl Parts.addWhole {}
  let (p, pointed, rest) ← match rest with
    | '.' :: r =>
      let fraction := r.takeWhile isDecimalDigit
      if fraction.isEmpty then none
      else some (fraction.foldl Parts.addFraction { p with full := false }, true,
        r.dropWhile isDecimalDigit)
    | r => some (p, false, r)
  match rest with
  | c :: r =>
    if c = 'e' || c = 'E' then
      let (down, r) := splitSign r
      let digits := r.takeWhile isDecimalDigit
      if digits.isEmpty then none
      else return (← withExponent negative p down digits, r.dropWhile isDecimalDigit)
    else if pointed then return (float (← floatOf negative p), rest)
    else return (← integerOf negative p, rest)
  | [] =>
    if pointed then return (float (← floatOf negative p), [])
    else return (← integerOf negative p, [])

/-- Items up to the closing bracket, at least one. Each takes a character, so the count of
characters is fuel enough. -/
def readItems (item : List Char → Option (Json × List Char)) :
    Nat → List Char → Option (List Json × List Char)
  | 0, _ => none
  | fuel + 1, cs => do
    let (v, rest) ← item cs
    match skipBlanks rest with
    | ',' :: r => (readItems item fuel r).map fun (vs, r) => (v :: vs, r)
    | ']' :: r => some ([v], r)
    | _ => none

/-- Entries up to the closing brace, at least one. -/
def readEntries (item : List Char → Option (Json × List Char)) :
    Nat → List Char → Option (List (String × Json) × List Char)
  | 0, _ => none
  | fuel + 1, cs =>
    match skipBlanks cs with
    | '"' :: r => do
      let (name, rest) ← readString r
      match skipBlanks rest with
      | ':' :: r => do
        let (v, rest) ← item r
        let entry := (String.ofList name, v)
        match skipBlanks rest with
        | ',' :: r => (readEntries item fuel r).map fun (es, r) => (entry :: es, r)
        | '\x7d' :: r => some ([entry], r)
        | _ => none
      | _ => none
    | _ => none

def readWord (word : String) (value : Json) (cs : List Char) : Option (Json × List Char) :=
  if word.toList.isPrefixOf cs then some (value, cs.drop word.length) else none

/-- A value that may nest as many containers as given. -/
def readValue : Nat → List Char → Option (Json × List Char)
  | 0, cs => readLeaf (skipBlanks cs)
  | depth + 1, cs =>
    match skipBlanks cs with
    | '[' :: rest => match skipBlanks rest with
      | ']' :: r => some (array [], r)
      | r => (readItems (readValue depth) r.length r).map fun (vs, r) => (array vs, r)
    | '\x7b' :: rest => match skipBlanks rest with
      | '\x7d' :: r => some (object [], r)
      | r => (readEntries (readValue depth) r.length r).map fun (es, r) => (object es, r)
    | cs => readLeaf cs
where
  /-- A value without parts. -/
  readLeaf (cs : List Char) : Option (Json × List Char) :=
    match cs with
    | 'n' :: _ => readWord "null" null cs
    | 't' :: _ => readWord "true" (bool true) cs
    | 'f' :: _ => readWord "false" (bool false) cs
    | '"' :: rest => (readString rest).map fun (s, r) => (string (String.ofList s), r)
    | _ => readNumber cs

/-- The tree of a whole text. -/
def parse? (text : String) : Option Json := do
  let (v, rest) ← readValue 127 text.toList
  if (skipBlanks rest).isEmpty then some v else none

end SettingsCheck.Json
