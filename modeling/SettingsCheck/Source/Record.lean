import SettingsCheck.Json.Tree

/-!
Data that records are read from, whatever its format is: scalars, lists and tables. A record is a
table with named fields, each named at most once and unknown names left aside, or, in some formats,
a list of the fields in their order.
-/

namespace SettingsCheck

/-- What a scalar may be read as. A format that leaves the type of its scalars open has several
readings of one. -/
structure Reading where
  text : Option String := none
  bool : Option Bool := none
  natural : Option Nat := none
  number : Option Float := none
  /-- Whether it says that an optional thing is not there. -/
  isNull : Bool := false
  /-- Whether it stands for a list or table without parts. -/
  isEmpty : Bool := false
  /-- What it is when nothing is expected of it. -/
  settled : Option Json := none

inductive Source where
  | scalar (r : Reading)
  /-- A list, and whether it may list the fields of a record. -/
  | list (fields : Bool) (items : List Source)
  /-- Entries with their names; a name that is no text is missing. -/
  | table (entries : List (Option String × Source))

namespace Source

variable {α : Type}

def reading? : Source → Option Reading
  | scalar r => some r
  | _ => none

def text? (s : Source) : Option String := s.reading?.bind Reading.text

def bool? (s : Source) : Option Bool := s.reading?.bind Reading.bool

/-- A number without sign below a bound. -/
def below? (bound : Nat) (s : Source) : Option Nat :=
  (s.reading?.bind Reading.natural).filter (· < bound)

def number? (s : Source) : Option Float := s.reading?.bind Reading.number

def isNull (s : Source) : Bool := s.reading?.any Reading.isNull

def listOf? (read : Source → Option α) : Source → Option (List α)
  | scalar r => if r.isEmpty then some [] else none
  | list _ items => items.mapM read
  | table _ => none

/-- Entries of any names. -/
def tableOf? (read : Source → Option α) : Source → Option (List (String × α))
  | scalar r => if r.isEmpty then some [] else none
  | list _ _ => none
  | table entries => entries.mapM fun (name, s) => do return (← name, ← read s)

mutual
/-- What a source is when nothing is expected of it. -/
def settle? : Source → Option Json
  | scalar r => r.settled
  | list _ items => (settleItems? items).map .array
  | table entries => (settleEntries? entries).map .object

def settleItems? : List Source → Option (List Json)
  | [] => some []
  | item :: rest => do
    let item ← settle? item
    return item :: (← settleItems? rest)

def settleEntries? : List (Option String × Source) → Option (List (String × Json))
  | [] => some []
  | (name, item) :: rest => do
    let item ← settle? item
    return (← name, item) :: (← settleEntries? rest)
end

/-- The fields of a record, in the order of their names. -/
structure Record where
  values : List (Option Source)
  /-- Whether the fields were listed. -/
  listed : Bool

def record? (names : List String) : Source → Option Record
  | scalar r => if r.isEmpty then some ⟨names.map fun _ => none, false⟩ else none
  | list fields items =>
    if !fields || items.length > names.length then none
    else some ⟨items.map some ++ List.replicate (names.length - items.length) none, true⟩
  | table entries =>
    if entries.any (·.1.isNone) ||
        names.any fun name => (entries.filter (·.1 == some name)).length > 1 then none
    else some ⟨names.map fun name => (entries.find? (·.1 == some name)).map Prod.snd, false⟩

namespace Record

def value? (r : Record) (i : Nat) : Option Source := (r.values[i]?).join

def required (r : Record) (i : Nat) (read : Source → Option α) : Option α := (r.value? i).bind read

/-- A field that has a default when it is missing. -/
def withDefault (r : Record) (i : Nat) (default : α) (read : Source → Option α) : Option α :=
  match r.value? i with
  | none => some default
  | some s => read s

/-- A field that may be null. -/
def optional (r : Record) (i : Nat) (read : Source → Option α) : Option (Option α) :=
  match r.value? i with
  | none => if r.listed then none else some none
  | some s => if s.isNull then some none else (read s).map some

/-- A field that may be null, and that is null when it is missing. -/
def optionalWithDefault (r : Record) (i : Nat) (read : Source → Option α) : Option (Option α) :=
  match r.value? i with
  | none => some none
  | some s => if s.isNull then some none else (read s).map some

end Record

end Source

end SettingsCheck
