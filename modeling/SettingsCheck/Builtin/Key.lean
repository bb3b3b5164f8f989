import SettingsCheck.Base64
import SettingsCheck.Builtin.Text

namespace SettingsCheck.Builtin

def sshKeyTypes : List String :=
  ["ssh-ed25519", "ssh-rsa", "ssh-dss", "ecdsa-sha2-nistp256", "ecdsa-sha2-nistp384",
    "ecdsa-sha2-nistp521", "sk-ssh-ed25519@openssh.com", "sk-ecdsa-sha2-nistp256@openssh.com"]

/-- A number written in bytes, the highest first. -/
def bigEndian (bytes : List UInt8) : Nat := bytes.foldl (fun n b => 256 * n + b.toNat) 0

/-- The bytes behind the length at the start. -/
def lengthPrefixed? (blob : List UInt8) : Option (List UInt8) :=
  let rest := blob.drop 4
  if blob.length < 4 then none
  else
    let n := bigEndian (blob.take 4)
    if rest.length < n then none else some (rest.take n)

/-- The type that a payload starts with. -/
def embeddedType? (blob : List UInt8) : Option String := do
  String.fromUTF8? ⟨(← lengthPrefixed? blob).toArray⟩

def checkKeyLine (line : String) : Except String Unit :=
  match Text.words line with
  | type :: payload :: _ =>
    if !sshKeyTypes.contains type then .error ("unsupported SSH key type '" ++ type ++ "'")
    else match Base64.decode payload.toUTF8.toList with
      | .error e => .error ("SSH key payload is not valid base64: " ++ e.message)
      | .ok blob => match embeddedType? blob with
        | none => .error "SSH key payload is truncated"
        | some embedded =>
          refuseIf (embedded ≠ type)
            ("SSH key declares type '" ++ type ++ "' but its payload encodes '" ++ embedded ++ "'")
  | _ => .error "SSH public key must have the form '<type> <base64-key> [comment]'"

def sshPublicKey : Validator := onText checkKeyLine

end SettingsCheck.Builtin
