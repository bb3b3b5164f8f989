namespace SettingsCheck

inductive Step where
  | key (name : String)
  | index (i : Nat)
  deriving DecidableEq, Repr

/-- Names come before indices; names go by code points and indices by number. -/
def Step.compare : Step → Step → Ordering
  | .key a, .key b => Ord.compare a b
  | .key _, .index _ => .lt
  | .index _, .key _ => .gt
  | .index i, .index j => Ord.compare i j

instance : Ord Step := ⟨Step.compare⟩

/-- The steps from the root, outermost first. -/
structure FieldPath where
  steps : List Step
  deriving DecidableEq, Repr

namespace FieldPath

def root : FieldPath := ⟨[]⟩

def key (path : FieldPath) (name : String) : FieldPath := ⟨path.steps ++ [.key name]⟩

def index (path : FieldPath) (i : Nat) : FieldPath := ⟨path.steps ++ [.index i]⟩

def isRoot (path : FieldPath) : Bool := path.steps.isEmpty

/-- Step by step; a path comes before its extensions. -/
def compareSteps : List Step → List Step → Ordering
  | [], [] => .eq
  | [], _ :: _ => .lt
  | _ :: _, [] => .gt
  | a :: as, b :: bs => (Step.compare a b).then (compareSteps as bs)

instance : Ord FieldPath := ⟨fun p q => compareSteps p.steps q.steps⟩

/-- The last name on the path. -/
def fieldName? (path : FieldPath) : Option String :=
  path.steps.reverse.findSome? fun
    | .key name => some name
    | .index _ => none

/-- A step that is not the first one. -/
def laterStep : Step → String
  | .key name => "." ++ name
  | .index i => "[" ++ toString i ++ "]"

def firstStep : Step → String
  | .key name => name
  | .index i => laterStep (.index i)

/-- Names joined by points, indices in brackets; the root has a text of its own. -/
def text (path : FieldPath) : String :=
  match path.steps with
  | [] => "(root)"
  | first :: rest => firstStep first ++ String.join (rest.map laterStep)

example : text ⟨[.key "a", .key "b", .index 2, .key "c"]⟩ = "a.b[2].c" := by decide

end FieldPath

end SettingsCheck
