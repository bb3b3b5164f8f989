import SettingsCheck.Builtin.Text
import SettingsCheck.Files.Path

namespace SettingsCheck.Builtin

def cronSpecialTimes : List String :=
  ["annually", "daily", "hourly", "monthly", "reboot", "weekly", "yearly"]

def cronSpecialTime : Validator := onText fun s =>
  refuseIf (!cronSpecialTimes.contains s)
    ("'" ++ s ++ "' is not a cron special time; expected one of " ++
      Text.joinWith ", " cronSpecialTimes)

def isZoneChar (c : Char) : Bool := c.isAlphanum || c == '_' || c == '-' || c == '+'

/-- `Area/Location`, with more parts allowed. -/
def hasZoneShape (name : List Char) : Bool :=
  match Text.pieces (· == '/') name with
  | area :: rest =>
    !area.isEmpty && area.all Char.isAlpha && !rest.isEmpty &&
      rest.all fun part => !part.isEmpty && part.all isZoneChar
  | [] => false

/-- A zone of the database, or anything of the right shape when there is no database. -/
def timezone (surroundings : Surroundings) : Validator := fun _ value =>
  match value with
  | .string s =>
    if s = "UTC" || s = "Local" then .accept
    else if !hasZoneShape s.toList then
      .refuse ("'" ++ s ++ "' is not a valid timezone; expected an IANA name such as Europe/Berlin")
    else if surroundings.kind surroundings.zoneinfo ≠ some .directory then
      ⟨.accepted, ["timezone database not found at " ++ surroundings.zoneinfo ++ "; '" ++ s ++
        "' was only checked for shape"]⟩
    else if surroundings.kind (FilePath.join surroundings.zoneinfo s) = some .file then .accept
    else .refuse ("unknown timezone '" ++ s ++ "'")
  | other => .refuse (FieldType.string.mismatch other)

def rcloneTemplates : List String :=
  ["azureblob", "b2", "box", "crypt", "drive", "dropbox", "ftp", "gcs", "onedrive", "pcloud", "s3",
    "sftp", "swift", "webdav"]

/-- A known template, or a file. -/
def rcloneTemplate (surroundings : Surroundings) : Validator := onText fun s =>
  if rcloneTemplates.contains s then .ok ()
  else match surroundings.kind s with
    | some .file => .ok ()
    | some .directory => .error ("rclone template path '" ++ s ++ "' is not a regular file")
    | none =>
      .error ("'" ++ s ++ "' is neither a known rclone template (" ++
        Text.joinWith ", " rcloneTemplates ++ ") nor an existing template file")

end SettingsCheck.Builtin
