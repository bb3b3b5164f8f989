import SettingsCheck.Scalar

/-!
Gates between the fields of one mapping. A gate names siblings and is open when all of them are
true; a sibling that is missing or no boolean closes it.
-/

namespace SettingsCheck

/-- Whether the value is true as a boolean. -/
def Value.isTruthy (value : Value) : Bool := value.ansibleBool? == some true

def gateOpen (siblings : List String) (parent : Mapping) : Bool :=
  siblings.all fun name => (parent.get? name).any Value.isTruthy

namespace Rule

/-- Whether the field has to be there. -/
def requiredIn (rule : Rule) (parent : Mapping) : Bool :=
  rule.required || (!rule.requiredWhenTrue.isEmpty && gateOpen rule.requiredWhenTrue parent)

/-- Whether the field is looked at. -/
def validatedIn (rule : Rule) (parent : Mapping) : Bool := gateOpen rule.validateWhenTrue parent

end Rule

end SettingsCheck
