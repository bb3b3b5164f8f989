import SettingsCheck.Builtin.Text

namespace SettingsCheck.Builtin

def isAsciiLetter (c : Char) : Bool := c.isAlpha

def isAsciiLetterOrDigit (c : Char) : Bool := c.isAlphanum

def isLabelChar (c : Char) : Bool := isAsciiLetterOrDigit c || c == '-'

/-- The first fault of a label, which the noun names. -/
def checkLabel (noun : String) (label : List Char) : Except String Unit := do
  let named := noun ++ " '" ++ String.ofList label ++ "'"
  refuseIf label.isEmpty (noun ++ " cannot be empty")
  refuseIf ((String.ofList label).utf8ByteSize > 63) (named ++ " is longer than 63 characters")
  match label.find? (!isLabelChar ·) with
  | some bad =>
    .error (named ++ " contains invalid character '" ++ String.singleton bad ++
      "'; only letters, digits and hyphens are allowed")
  | none => pure ()
  refuseIf (label.head? == some '-') (named ++ " cannot start with a hyphen")
  refuseIf (label.getLast? == some '-') (named ++ " cannot end with a hyphen")
  refuseIf (Text.cutAt ['-', '-'] label).isSome (named ++ " cannot contain consecutive hyphens")

def checkLabels (name : String) : List (List Char) → Except String Unit
  | [] => .ok ()
  | label :: rest =>
    match checkLabel "label" label with
    | .error reason => .error ("domain '" ++ name ++ "': " ++ reason)
    | .ok () => checkLabels name rest

/-- The first fault of a domain name. -/
def checkDomain (name : String) : Except String Unit := do
  refuseIf (name == "") "domain cannot be empty"
  refuseIf (name.utf8ByteSize > 253) "domain is longer than 253 characters"
  let labels := Text.pieces (· == '.') name.toList
  refuseIf (labels.length < 2) ("domain '" ++ name ++ "' must contain at least one dot")
  checkLabels name labels
  let last := labels.getLast?.getD []
  refuseIf (!last.all isAsciiLetter)
    ("domain '" ++ name ++ "' has a non-alphabetic top-level label '" ++ String.ofList last ++ "'")

/-- A single label such as `files-01`. -/
def subdomain : Validator := onText fun s => checkLabel "subdomain" s.toList

/-- A full domain name such as `example.com`. -/
def domain : Validator := onText checkDomain

end SettingsCheck.Builtin
