import SettingsCheck.Builtin.Text
import SettingsCheck.Text.Letters

namespace SettingsCheck.Builtin

/-- How many of the four classes occur: lower case, upper case, ASCII digits, and what is no letter
or number. -/
def characterClasses (password : List Char) : Nat :=
  [Text.isLower, Text.isUpper, Char.isDigit, fun c => !Text.isAlphanumeric c].countP fun p =>
    password.any p

def password : Validator := fun _ value =>
  match value with
  | .string s =>
    let cs := s.toList
    if cs.length < 8 then .refuse "password must be at least 8 characters long"
    else if Text.trimWhile Text.isBlank cs ≠ cs then
      .refuse "password must not start or end with whitespace"
    else
      let classes := characterClasses cs
      let short := "password is shorter than the recommended 12 characters"
      let plain := "password uses " ++ toString classes ++
        " of 4 character classes; mixing lower case, upper case, digits and symbols is recommended"
      ⟨.accepted, (if cs.length < 12 then [short] else []) ++ (if classes < 3 then [plain] else [])⟩
  | other => .refuse (FieldType.string.mismatch other)

end SettingsCheck.Builtin
