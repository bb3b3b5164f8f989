import SettingsCheck.Text.Blank

namespace SettingsCheck

inductive FileKind where
  | file
  | directory
  deriving DecidableEq, Repr

inductive FileError where
  | missing
  | isDirectory
  | notDirectory
  | denied
  /-- The contents are not encoded as UTF-8. -/
  | notText
  deriving DecidableEq, Repr

def FileError.message : FileError → String
  | missing => "No such file or directory (os error 2)"
  | isDirectory => "Is a directory (os error 21)"
  | notDirectory => "Not a directory (os error 20)"
  | denied => "Permission denied (os error 13)"
  | notText => "stream did not contain valid UTF-8"

/-- Files with their contents, and directories that are there even when nothing is in them. Places
are lists of names from the working directory on. -/
structure FileTree where
  files : List (List String × String) := []
  directories : List (List String) := []

namespace FileTree

/-- The names on a path, blank ones and single dots left out. -/
def place (path : String) : List String :=
  (Text.split '/' path).filter fun name => name ≠ "" && name ≠ "."

/-- The tree of some named files; a name that ends in a slash is a directory. -/
def ofNamed (entries : List (String × String)) : FileTree where
  files := (entries.filter (!·.1.endsWith "/")).map fun (name, text) => (place name, text)
  directories := (entries.filter (·.1.endsWith "/")).map fun (name, _) => place name

/-- The directories above the working directory are there, but nothing is known of what else they
hold. -/
def kindAt (tree : FileTree) (here : List String) : Option FileKind :=
  if here.all (· == "..") then some .directory
  else if (tree.files.find? (·.1 == here)).isSome then some .file
  else if (tree.files.map (·.1) ++ tree.directories).any here.isPrefixOf then some .directory
  else none

/-- Follows names from a place; every place on the way has to be a directory. -/
def follow (tree : FileTree) : List String → List String → Except FileError (List String)
  | here, [] => .ok here
  | here, name :: rest =>
    match tree.kindAt here with
    | none => .error .missing
    | some .file => .error .notDirectory
    | some .directory =>
      if name = "" || name = "." then follow tree here rest
      else if name = ".." then
        follow tree (if here.all (· == "..") then here ++ [".."] else here.dropLast) rest
      else follow tree (here ++ [name]) rest

/-- The place that a path leads to. The root of the file system is there and holds nothing. -/
def resolve (tree : FileTree) (path : String) : Except FileError (List String) :=
  if path = "" || path.toList.contains '\x00' then .error .missing
  else if path.startsWith "/" then
    if (place path).all (· == "..") then .ok [".."] else .error .missing
  else tree.follow [] (Text.split '/' path)

def kind? (tree : FileTree) (path : String) : Option FileKind :=
  match tree.resolve path with
  | .ok here => tree.kindAt here
  | .error _ => none

def read (tree : FileTree) (path : String) : Except FileError String :=
  match tree.resolve path with
  | .error e => .error e
  | .ok here =>
    match tree.kindAt here with
    | none => .error .missing
    | some .directory => .error .isDirectory
    | some .file => match tree.files.find? (·.1 == here) with
      | some (_, text) => .ok text
      | none => .error .missing

end FileTree

/-- What a run can see of the files. -/
structure FileView where
  kind : String → Option FileKind
  read : String → Except FileError String

def FileTree.view (tree : FileTree) : FileView := ⟨tree.kind?, tree.read⟩

/-- What validators may ask about their surroundings. -/
structure Surroundings where
  kind : String → Option FileKind
  /-- The directory of the time zone database. -/
  zoneinfo : String

end SettingsCheck
