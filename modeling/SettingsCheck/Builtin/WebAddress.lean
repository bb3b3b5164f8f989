import SettingsCheck.Builtin.Text
import SettingsCheck.Url.Address

namespace SettingsCheck.Builtin

def checkUrl (s : String) : Except String Unit :=
  if s = "" then .error "URL cannot be empty"
  else match s.toList.find? fun c => Text.isBlank c || Text.isControl c with
    | some bad => .error ("URL contains invalid character " ++ Text.quotedBlank bad)
    | none => match Url.Address.parse s with
      | .error e => .error ("'" ++ s ++ "' is not a valid URL: " ++ e.message)
      | .ok address =>
        if address.scheme ≠ "http" && address.scheme ≠ "https" then
          .error ("URL scheme must be http or https, got '" ++ address.scheme ++ "'")
        else refuseIf ((address.host.map Url.Host.text).getD "" = "")
          ("URL '" ++ s ++ "' has no host")

/-- An absolute web address. -/
def url : Validator := onText checkUrl

end SettingsCheck.Builtin
