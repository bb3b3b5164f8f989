import SettingsCheck.Files

namespace SettingsCheck.FilePath

def isAbsolute (path : String) : Bool := path.toList.head? == some '/'

/-- The last name on a path, unless it leads upwards. -/
def fileName? (path : String) : Option String :=
  (FileTree.place path).getLast?.filter (· ≠ "..")

/-- What stands behind the last dot of the file name; a name that begins with its only dot has no
extension. -/
def extension? (path : String) : Option String :=
  match fileName? path with
  | none => none
  | some name =>
    let backwards := name.toList.reverse
    match backwards.dropWhile (· ≠ '.') with
    | _ :: _ :: _ => some (String.ofList (backwards.takeWhile (· ≠ '.')).reverse)
    | _ => none

/-- The directory that a path of a file names, empty for the working directory. -/
def directory (path : String) : String :=
  match (Text.split '/' path).dropLast with
  | [] => ""
  | first :: rest =>
    let rest := (rest.reverse.dropWhile fun name => name = "" || name = ".").reverse
    if first = "" && rest.isEmpty then "/" else Text.joinWith "/" (first :: rest)

/-- A path that is followed from a directory on. -/
def join (base path : String) : String :=
  if isAbsolute path then path
  else if base = "" || base.toList.getLast? = some '/' then base ++ path
  else base ++ "/" ++ path

example : fileName? "a/b/" = some "b" := by decide
example : extension? ".yaml" = none := by decide
example : extension? "a.d/c.tar.gz" = some "gz" := by decide
example : directory "./c.json" = "." := by decide
example : directory "a//b/./c.json" = "a//b" := by decide
example : join "" "x" = "x" := by decide

end SettingsCheck.FilePath
