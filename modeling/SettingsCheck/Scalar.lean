import SettingsCheck.Decimal.Layout
import SettingsCheck.Decimal.Reading
import SettingsCheck.Schema.Rule
import SettingsCheck.Text.Blank
import SettingsCheck.Value

namespace SettingsCheck

namespace Value

/-- A boolean, or one of `yes`, `true`, `on`, `1` and their opposites in any case. -/
def ansibleBool? : Value → Option Bool
  | bool b => some b
  | string s =>
    let word := Text.lowerAscii s
    if ["yes", "true", "on", "1"].contains word then some true
    else if ["no", "false", "off", "0"].contains word then some false
    else none
  | _ => none

/-- An integer, or a string that is one. -/
def integer? : Value → Option Int
  | integer n => some n
  | string s => signed64? s
  | _ => none

/-- A finite float, or a string that is one and is no integer. -/
def float? : Value → Option Float
  | float x => if x.isFinite then some x else none
  | string s => if (signed64? s).isSome then none else (SettingsCheck.float? s).filter (·.isFinite)
  | _ => none

end Value

namespace FieldType

def expectation : FieldType → String
  | string => "a string"
  | number => "an integer or integer string"
  | float => "a fractional number or float string"
  | boolean => "a boolean"
  | ansibleBool => "a boolean or one of yes/no/true/false/on/off/1/0"
  | object => "an object"
  | array => "an array"
  | custom name => name

/-- What was found in place of the type; short scalars are quoted. -/
def mismatch (type : FieldType) (value : Value) : String :=
  let found := match value with
    | .string s => if s.utf8ByteSize ≤ 40 then "string \"" ++ s ++ "\"" else "string"
    | .integer n => "integer " ++ toString n
    | .float x => "float " ++ plainFloat.render x
    | .bool b => "boolean " ++ toString b
    | other => other.kind
  "expected " ++ type.expectation ++ ", found " ++ found

/-- Whether the value passes as a scalar type; the other types are not decided here. -/
def accepts (type : FieldType) (value : Value) : Bool :=
  match type with
  | string => value.string?.isSome
  | boolean => match value with
    | .bool _ => true
    | _ => false
  | number => value.integer?.isSome
  | float => value.float?.isSome
  | ansibleBool => value.ansibleBool?.isSome
  | object | array | custom _ => true

end FieldType

end SettingsCheck
