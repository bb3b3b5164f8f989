import SettingsCheck.Builtin.Hostname
import SettingsCheck.Builtin.Key
import SettingsCheck.Builtin.Number
import SettingsCheck.Builtin.Password
import SettingsCheck.Builtin.Schedule
import SettingsCheck.Builtin.WebAddress
import SettingsCheck.Http.Dialogue

namespace SettingsCheck

inductive Check where
  | immediate (validator : Validator)
  /-- Talks to a peer after the document has been walked. The precheck decides during the walk
  whether it is worth it. -/
  | deferred (precheck : Option Validator) (dialogue : Site → Value → Http.Dialogue Verdict)

def Check.isDeferred : Check → Bool
  | .immediate _ => false
  | .deferred _ _ => true

structure Registry where
  checks : Fields Check := []

namespace Registry

def empty : Registry := {}

def get? (registry : Registry) (name : String) : Option Check := registry.checks.get? name

def has (registry : Registry) (name : String) : Bool := registry.checks.has name

/-- A check of the same name is replaced. -/
def register (registry : Registry) (name : String) (check : Check) : Registry :=
  ⟨registry.checks.insert name check⟩

def immediateNames (registry : Registry) : List String :=
  (registry.checks.filter (!·.2.isDeferred)).map Prod.fst

def deferredNames (registry : Registry) : List String :=
  (registry.checks.filter (·.2.isDeferred)).map Prod.fst

/-- The validators that are always there. -/
def builtins (surroundings : Surroundings) : List (String × Validator) :=
  [("subdomain", Builtin.subdomain),
    ("domain", Builtin.domain),
    ("whole_number", Builtin.wholeNumber),
    ("positive_number", Builtin.positiveNumber),
    ("url", Builtin.url),
    ("ssh_public_key", Builtin.sshPublicKey),
    ("cron_special_time", Builtin.cronSpecialTime),
    ("timezone", Builtin.timezone surroundings),
    ("rclone_template", Builtin.rcloneTemplate surroundings),
    ("password", Builtin.password)]

def withBuiltins (surroundings : Surroundings) : Registry :=
  (builtins surroundings).foldl
    (fun registry (name, validator) => registry.register name (.immediate validator)) empty

end Registry

end SettingsCheck
