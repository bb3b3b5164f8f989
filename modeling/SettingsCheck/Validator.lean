import SettingsCheck.Finding
import SettingsCheck.Schema.Rule
import SettingsCheck.Value

namespace SettingsCheck

/-- Where a value stands: in which document, in which mapping, at which path. -/
structure Site where
  root : Value
  /-- The mapping that holds the field; for the elements of an array, the one that holds the
  outermost array. -/
  parent : Mapping
  path : FieldPath

inductive Verdict where
  | accepted
  | refused (reason : String)
  /-- The validator broke off without an answer. -/
  | crashed
  deriving DecidableEq, Repr

structure Judgement where
  verdict : Verdict
  warnings : List String := []
  deriving DecidableEq, Repr

namespace Judgement

def accept : Judgement := ⟨.accepted, []⟩

def refuse (reason : String) : Judgement := ⟨.refused reason, []⟩

def ofExcept : Except String Unit → Judgement
  | .ok () => accept
  | .error reason => refuse reason

end Judgement

/-- A validator that answers at once. -/
abbrev Validator := Site → Value → Judgement

end SettingsCheck
