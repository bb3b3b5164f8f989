import SettingsCheck.Decimal.Reading
import SettingsCheck.Text.Digits

namespace SettingsCheck.Yaml

def isNullWord (s : String) : Bool := ["null", "Null", "NULL", "~"].contains s

def boolWord? (s : String) : Option Bool :=
  if ["true", "True", "TRUE"].contains s then some true
  else if ["false", "False", "FALSE"].contains s then some false
  else none

/-- A number with needless zeros before it, which is a text. -/
def isZeroPadded (cs : List Char) : Bool :=
  match (splitSign cs).2 with
  | '0' :: d :: rest => (d :: rest).all isDecimalDigit
  | _ => false

/-- Digits behind a mark for their radix, or decimal ones without needless zeros. -/
def magnitude? : List Char → Option Nat
  | '0' :: 'x' :: d :: rest => Text.numberIn? 16 (d :: rest)
  | '0' :: 'o' :: d :: rest => Text.numberIn? 8 (d :: rest)
  | '0' :: 'b' :: d :: rest => Text.numberIn? 2 (d :: rest)
  | cs => if isZeroPadded cs then none else natural? cs

/-- A number that has no minus. -/
def unsignedWord? (s : String) : Option Nat :=
  match s.toList with
  | '-' :: _ => none
  | '+' :: cs => magnitude? cs
  | cs => magnitude? cs

def negativeWord? (s : String) : Option Nat :=
  match s.toList with
  | '-' :: cs => magnitude? cs
  | _ => none

/-- Floats are finite, apart from the words for those that are not. -/
def floatWord? (s : String) : Option Float :=
  if [".inf", ".Inf", ".INF", "+.inf", "+.Inf", "+.INF"].contains s then
    some (Float.ofBits 0x7FF0000000000000)
  else if ["-.inf", "-.Inf", "-.INF"].contains s then some (Float.ofBits 0xFFF0000000000000)
  else if [".nan", ".NaN", ".NAN"].contains s then some (Float.ofBits 0x7FF8000000000000)
  else ((scientific? s.toList).map Scientific.toFloat).filter Float.isFinite

/-- An integer of at most 64 bits, with the sign or without. -/
inductive IntegerWord where
  | fits (n : Int)
  /-- One of up to 128 bits. -/
  | tooWide
  deriving DecidableEq, Repr

def integerWord? (s : String) : Option IntegerWord :=
  match unsignedWord? s, negativeWord? s with
  | some n, _ =>
    if n < unsignedLimit then some (.fits n)
    else if n < Nat.pow 2 128 then some .tooWide else none
  | none, some n =>
    if n ≤ signedLimit then some (.fits (-n))
    else if n ≤ Nat.pow 2 127 then some .tooWide else none
  | none, none => none

example : integerWord? "-0x1F" = some (.fits (-31)) := by decide
example : integerWord? "007" = none := by decide
example : integerWord? "+8" = some (.fits 8) := by decide
example : floatWord? "1e400" = none := by decide

end SettingsCheck.Yaml
