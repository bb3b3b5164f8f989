import SettingsCheck.Decimal.Shortest

namespace SettingsCheck

/-- A format's decisions. The point stands after `point` digits (before the first one when it is
not positive), and `positional point` says whether the number is written without exponent. -/
structure FloatLayout where
  tie : Tie
  positional : Int → Bool
  /-- Whether a whole number gets `.0`. -/
  fraction : Bool
  /-- What stands before an exponent that is not negative. -/
  plus : String
  nan : String
  infinity : String
  negativeInfinity : String

namespace FloatLayout

/-- Digits with a point after the first `point` of them, zeros filled in on either side. -/
def positionalText (fraction : Bool) (digits : String) (point : Int) : String :=
  let n : Int := digits.length
  if n ≤ point then
    digits ++ String.ofList (List.replicate (point - n).toNat '0') ++
      (if fraction then ".0" else "")
  else if 0 < point then
    let (whole, rest) := digits.toList.splitAt point.toNat
    String.ofList whole ++ "." ++ String.ofList rest
  else
    "0." ++ String.ofList (List.replicate (-point).toNat '0') ++ digits

/-- One digit before the point, the others after it, and the exponent. -/
def exponentText (plus digits : String) (point : Int) : String :=
  let exponent := (if 1 ≤ point then plus else "") ++ toString (point - 1)
  match digits.toList with
  | [] => ""
  | [d] => String.ofList [d] ++ "e" ++ exponent
  | d :: rest => String.ofList (d :: '.' :: rest) ++ "e" ++ exponent

def render (l : FloatLayout) (x : Float) : String :=
  if x.isNaN then l.nan
  else
    let negative := x.toBits >>> 63 == 1
    if x.isInf then (if negative then l.negativeInfinity else l.infinity)
    else
      let b := Binary.ofBits x.toBits
      let text :=
        if b.m = 0 then (if l.fraction then "0.0" else "0")
        else
          let d := b.shortest l.tie
          let digits := toString d.digits
          let point : Int := digits.length + d.exponent
          if l.positional point then positionalText l.fraction digits point
          else exponentText l.plus digits point
      if negative then "-" ++ text else text

end FloatLayout

/-- Floats in messages: all digits positional, whole numbers without a point. -/
def plainFloat : FloatLayout := ⟨.up, fun _ => true, false, "", "NaN", "inf", "-inf"⟩

/-- Positional from `0.00001` up to sixteen digits before the point. -/
def inShortRange (point : Int) : Bool := -5 < point && point ≤ 16

/-- Floats in YAML. -/
def yamlFloat : FloatLayout := ⟨.even, inShortRange, true, "", ".nan", ".inf", "-.inf"⟩

/-- Floats in JSON, which has no text for those that are no numbers. -/
def jsonFloat : FloatLayout := ⟨.even, inShortRange, true, "+", "null", "null", "null"⟩

example : plainFloat.render 0.1 = "0.1" := by decide
example : plainFloat.render 1e21 = "1000000000000000000000" := by decide
example : plainFloat.render (Float.ofBits 1) =
    "0." ++ String.ofList (List.replicate 323 '0') ++ "5" := by decide +kernel
example : plainFloat.render (-0.0) = "-0" := by decide
example : plainFloat.render 1125899906842624.25 = "1125899906842624.3" := by decide
example : yamlFloat.render 1e16 = "1e16" := by decide
example : yamlFloat.render 1125899906842624.25 = "1125899906842624.2" := by decide
example : jsonFloat.render 1e16 = "1e+16" := by decide
example : jsonFloat.render 1e15 = "1000000000000000.0" := by decide
example : jsonFloat.render 123456789.5 = "123456789.5" := by decide
example : jsonFloat.render 1.5e-7 = "1.5e-7" := by decide
example : jsonFloat.render 0.00001 = "0.00001" := by decide
example : jsonFloat.render 9007199254740993 = "9007199254740992.0" := by decide

end SettingsCheck
