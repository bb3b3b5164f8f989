namespace SettingsCheck

def isDecimalDigit (c : Char) : Bool := '0' ≤ c && c ≤ '9'

def digitsValue (cs : List Char) : Nat := cs.foldl (fun n c => 10 * n + (c.toNat - 48)) 0

/-- One or more decimal digits. -/
def natural? (cs : List Char) : Option Nat :=
  if !cs.isEmpty && cs.all isDecimalDigit then some (digitsValue cs) else none

/-- An optional sign, and what follows it. -/
def splitSign : List Char → Bool × List Char
  | '+' :: r => (false, r)
  | '-' :: r => (true, r)
  | r => (false, r)

/-- How many integers of 64 bits are not negative. -/
def signedLimit : Nat := Nat.pow 2 63

def unsignedLimit : Nat := Nat.pow 2 64

def fitsSigned (n : Int) : Bool := -(signedLimit : Int) ≤ n && n < signedLimit

/-- An optional sign and decimal digits, of any length. -/
def integer? (s : String) : Option Int :=
  let (negative, digits) := splitSign s.toList
  (natural? digits).map fun n => if negative then -(n : Int) else n

/-- An integer of 64 bits with sign. -/
def signed64? (s : String) : Option Int := (integer? s).filter fitsSigned

/-- An integer of 64 bits without sign; a plus is allowed, a minus never. -/
def unsigned64? (s : String) : Option Nat :=
  let digits := match s.toList with
    | '+' :: r => r
    | r => r
  (natural? digits).filter (· < unsignedLimit)

/-- The number `±digits * 10 ^ exponent`. -/
structure Scientific where
  negative : Bool
  digits : Nat
  exponent : Int
  deriving DecidableEq, Repr

/-- The nearest float. Numbers of more than 310 places are beyond all floats and those whose first
digit stands after place 330 are nearest to zero, so neither needs a power of ten. -/
def Scientific.toFloat (x : Scientific) : Float :=
  let places : Int := (Nat.toDigits 10 x.digits).length + x.exponent
  let magnitude : Float :=
    if x.digits = 0 then 0
    else if places > 310 then Float.ofBits 0x7FF0000000000000
    else if places < -330 then 0
    else Float.ofScientific x.digits (x.exponent < 0) x.exponent.natAbs
  if x.negative then -magnitude else magnitude

/-- A signed exponent after its mark. -/
def exponent? (cs : List Char) : Option Int :=
  let (negative, digits) := splitSign cs
  (natural? digits).map fun n => if negative then -(n : Int) else n

/-- Digits with at most one point, at least one digit, and an optional exponent. -/
def scientific? (cs : List Char) : Option Scientific :=
  let (negative, rest) := splitSign cs
  let whole := rest.takeWhile isDecimalDigit
  let rest := rest.dropWhile isDecimalDigit
  let (fraction, rest) := match rest with
    | '.' :: r => (r.takeWhile isDecimalDigit, r.dropWhile isDecimalDigit)
    | r => ([], r)
  if whole.isEmpty && fraction.isEmpty then none
  else
    let digits := digitsValue (whole ++ fraction)
    let scale : Int := -(fraction.length : Int)
    match rest with
    | [] => some ⟨negative, digits, scale⟩
    | c :: r =>
      if c = 'e' || c = 'E' then (exponent? r).map fun e => ⟨negative, digits, scale + e⟩ else none

/-- A float: decimal digits, or `inf`, `infinity` and `nan` in any case. -/
def float? (s : String) : Option Float :=
  let (negative, rest) := splitSign s.toList
  let word := rest.map Char.toLower
  if word = "inf".toList || word = "infinity".toList then
    some (if negative then Float.ofBits 0xFFF0000000000000 else Float.ofBits 0x7FF0000000000000)
  else if word = "nan".toList then some (Float.ofBits 0x7FF8000000000000)
  else (scientific? s.toList).map Scientific.toFloat

example : signed64? "-9223372036854775808" = some (-9223372036854775808) := by decide
example : signed64? "9223372036854775808" = none := by decide
example : float? "1e400" = some (1 / 0) := by decide
example : float? "+.5" = some 0.5 := by decide
example : float? "." = none := by decide

end SettingsCheck
