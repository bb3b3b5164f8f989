import SettingsCheck.Scalar
import SettingsCheck.Validator

namespace SettingsCheck.Builtin

/-- A check of the text of a string value; other values are refused. -/
def onText (check : String → Except String Unit) : Validator := fun _ value =>
  match value with
  | .string s => .ofExcept (check s)
  | other => .refuse (FieldType.string.mismatch other)

/-- Refuses with a reason when the condition holds. -/
def refuseIf (condition : Bool) (reason : String) : Except String Unit :=
  if condition then .error reason else .ok ()

variable {condition : Bool} {reason s : String}

@[simp]
theorem refuseIf_eq_ok_iff : refuseIf condition reason = .ok () ↔ condition = false := by
  cases condition <;> simp [refuseIf]

/-- For checks that are made one after the other. -/
theorem bind_eq_ok_iff {first : Except String Unit} {next : Unit → Except String Unit} :
    (first >>= next) = .ok () ↔ first = .ok () ∧ next () = .ok () := by
  cases first <;> simp [bind, Except.bind]

theorem onText_accepted_iff {check : String → Except String Unit} {site : Site} :
    (onText check site (.string s)).verdict = .accepted ↔ check s = .ok () := by
  rw [onText]
  cases check s <;> simp [Judgement.ofExcept, Judgement.accept, Judgement.refuse]

end SettingsCheck.Builtin
