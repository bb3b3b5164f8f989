import SettingsCheck.Scalar
import SettingsCheck.Validator

namespace SettingsCheck.Builtin

/-- A check of the integer that a value stands for. -/
def onInteger (check : Int → Except String Unit) : Validator := fun _ value =>
  match value.integer? with
  | some n => .ofExcept (check n)
  | none => .refuse (FieldType.number.mismatch value)

def wholeNumber : Validator := onInteger fun n =>
  if n < 0 then .error ("must be a whole number (0 or greater), got " ++ toString n) else .ok ()

def positiveNumber : Validator := onInteger fun n =>
  if n ≤ 0 then .error ("must be a positive number (greater than 0), got " ++ toString n)
  else .ok ()

end SettingsCheck.Builtin
