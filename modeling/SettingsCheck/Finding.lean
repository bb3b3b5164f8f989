import SettingsCheck.FieldPath

namespace SettingsCheck

inductive ErrorKind where
  /-- The document as a whole cannot be checked. -/
  | fatal
  | unknownField
  | missingField
  | typeMismatch
  /-- A validator refused the value on the spot. -/
  | custom
  /-- A deferred check refused the value. -/
  | remote
  deriving DecidableEq, Repr

namespace ErrorKind

def words : ErrorKind → String
  | fatal => "fatal"
  | unknownField => "unknown field"
  | missingField => "missing field"
  | typeMismatch => "type mismatch"
  | custom => "custom"
  | remote => "remote"

/-- The name of the kind in reports. -/
def name : ErrorKind → String
  | fatal => "fatal"
  | unknownField => "unknown_field"
  | missingField => "missing_field"
  | typeMismatch => "type_mismatch"
  | custom => "custom"
  | remote => "remote"

end ErrorKind

structure ValidationError where
  path : FieldPath
  message : String
  kind : ErrorKind
  /-- The validator that refused the value, for errors that come from one. -/
  validator : Option String := none
  deriving DecidableEq, Repr

namespace ValidationError

def fatal (message : String) : ValidationError := ⟨.root, message, .fatal, none⟩

def unknownField (path : FieldPath) : ValidationError :=
  let message := match path.fieldName? with
    | some name => "unknown field '" ++ name ++ "'"
    | none => "unknown field"
  ⟨path, message, .unknownField, none⟩

def missingField (path : FieldPath) : ValidationError :=
  let message := match path.fieldName? with
    | some name => "required field '" ++ name ++ "' is missing"
    | none => "required field is missing"
  ⟨path, message, .missingField, none⟩

def typeMismatch (path : FieldPath) (message : String) : ValidationError :=
  ⟨path, message, .typeMismatch, none⟩

def custom (path : FieldPath) (validator message : String) : ValidationError :=
  ⟨path, message, .custom, some validator⟩

/-- The message of a deferred check begins with the validator's name. -/
def remote (path : FieldPath) (validator message : String) : ValidationError :=
  ⟨path, validator ++ ": " ++ message, .remote, some validator⟩

def text (e : ValidationError) : String := e.path.text ++ ": " ++ e.message

/-- In the order of paths; errors at one place keep their order. -/
def sortByPath (errors : List ValidationError) : List ValidationError :=
  errors.mergeSort fun a b => (compare a.path b.path).isLE

/-- In the order of paths, and of messages at one place. -/
def sortByPathAndMessage (errors : List ValidationError) : List ValidationError :=
  errors.mergeSort fun a b =>
    ((compare a.path b.path).then (compare a.message b.message)).isLE

def ofKind (kind : ErrorKind) (errors : List ValidationError) : List ValidationError :=
  errors.filter (·.kind == kind)

/-- A numbered list under a count. -/
def listText (errors : List ValidationError) : String :=
  toString errors.length ++ " validation error(s):" ++
    String.join (errors.mapIdx fun i e => "\n" ++ toString (i + 1) ++ ". " ++ e.text)

end ValidationError

structure Warning where
  path : FieldPath
  message : String
  deriving DecidableEq, Repr

def Warning.text (w : Warning) : String := w.path.text ++ ": " ++ w.message

end SettingsCheck
