import SettingsCheck.CommandLine.Grammar
import SettingsCheck.Text.Blank

/-!
Reading a command line by its grammar, word by word. The value of an option is looked at when the
next option, word or the end shows that it is complete, so of two faults the one that is noticed
first counts.
-/

namespace SettingsCheck.CommandLine

/-- What is given for an option or position. -/
inductive Given where
  | flag
  | counter (n : Nat)
  | values (texts : List String)
  /-- A value from the environment. -/
  | fromEnvironment (text : String)
  deriving DecidableEq, Repr

/-- What is given, by the names of options and positions. -/
abbrev Matches := List (String × Given)

namespace Matches

def get? (m : Matches) (name : String) : Option Given := (m.find? (·.1 == name)).map Prod.snd

def has (m : Matches) (name : String) : Bool := (m.get? name).isSome

def without (m : Matches) (name : String) : Matches := m.filter (·.1 != name)

def texts (m : Matches) (name : String) : List String :=
  match m.get? name with
  | some (.values texts) => texts
  | some (.fromEnvironment text) => [text]
  | _ => []

def count (m : Matches) (name : String) : Nat :=
  match m.get? name with
  | some (.counter n) => n
  | _ => 0

end Matches

/-- An option or position whose values are not complete. -/
inductive Pending where
  | option (name : String) (kind : ValueKind) (value : Option String)
  | position (spec : PositionSpec) (words : List String)

structure Progress where
  given : Matches := []
  pending : Option Pending := none
  /-- How many words for positions there were. -/
  words : Nat := 0
  /-- Whether all further words are for positions. -/
  plain : Bool := false

namespace Progress

/-- Whether an option still waits for its value. -/
def awaits (p : Progress) : Bool :=
  match p.pending with
  | some (.option _ _ none) => true
  | _ => false

/-- Enters the value of an option; a second one is a fault. -/
def enter (p : Progress) (name : String) (kind : ValueKind) (value : String) :
    Except UsageError Progress :=
  if p.given.has name then .error .conflict
  else match kind.check value with
    | .error e => .error e
    | .ok () => .ok { p with given := p.given ++ [(name, .values [value])] }

/-- Looks at the values that were pending. -/
def close (p : Progress) : Except UsageError Progress :=
  let closed := { p with pending := none }
  match p.pending with
  | none => .ok p
  | some (.option _ _ none) => .error .invalidValue
  | some (.option name kind (some value)) => closed.enter name kind value
  | some (.position spec words) => match spec.kind.checkAll words with
    | .error e => .error e
    | .ok () =>
      let all := p.given.texts spec.name ++ words
      .ok { closed with given := p.given.without spec.name ++ [(spec.name, .values all)] }

/-- The most that a counter counts. -/
def countLimit : Nat := 255

/-- Meets an option that takes no value. -/
def meet (level : Level) (p : Progress) (o : OptionSpec) : Except UsageError Progress :=
  match p.close with
  | .error e => .error e
  | .ok p => match o.kind with
    | .help => .error .help
    | .version => .error (.version level.title)
    | .counter =>
      let n := min (p.given.count o.long + 1) countLimit
      .ok { p with given := p.given.without o.long ++ [(o.long, .counter n)] }
    | _ =>
      if p.given.has o.long then .error .conflict
      else .ok { p with given := p.given ++ [(o.long, .flag)] }

/-- Meets an option with a value, which may be attached to it. -/
def meetValue (p : Progress) (o : OptionSpec) (kind : ValueKind) (attached : Option String) :
    Except UsageError Progress :=
  match p.close with
  | .error e => .error e
  | .ok p => match attached with
    | some value => p.enter o.long kind value
    | none => .ok { p with pending := some (.option o.long kind none) }

def meetLong (level : Level) (p : Progress) (name : String) (attached : Option String) :
    Except UsageError Progress :=
  match level.long? name with
  | none => .error .unknownArgument
  | some o => match o.kind with
    | .value kind => p.meetValue o kind attached
    | _ => if attached.isSome then .error .tooManyValues else p.meet level o

/-- Letters behind one dash; what follows the letter of an option with a value is the value. -/
def meetShorts (level : Level) : Progress → List Char → Except UsageError Progress
  | p, [] => .ok p
  | p, c :: rest => match level.short? c with
    | none => .error .unknownArgument
    | some o => match o.kind with
      | .value kind => p.meetValue o kind <| match rest with
        | [] => none
        | '=' :: value => some (String.ofList value)
        | value => some (String.ofList value)
      | _ => match p.meet level o with
        | .error e => .error e
        | .ok p => meetShorts level p rest

/-- Meets a word that is no option and no command. -/
def meetWord (level : Level) (p : Progress) (word : String) : Except UsageError Progress :=
  match level.position with
  | some spec =>
    if !spec.many && p.words ≠ 0 then .error .unknownArgument
    else match p.pending with
      | some (.position _ words) =>
        .ok { p with pending := some (.position spec (words ++ [word])), words := p.words + 1 }
      | _ => match p.close with
        | .error e => .error e
        | .ok p => .ok { p with pending := some (.position spec [word]), words := p.words + 1 }
  | none =>
    if level.commands.isEmpty || (p.plain && level.isCommand word) then .error .unknownArgument
    else .error .invalidCommand

/-- A word that is the value of the option before it, or for a position. -/
def meetPlain (level : Level) (p : Progress) (word : String) : Except UsageError Progress :=
  match p.pending with
  | some (.option name kind none) =>
    if p.plain then p.meetWord level word
    else .ok { p with pending := some (.option name kind (some word)) }
  | _ => p.meetWord level word

/-- Meets a word that is no command. -/
def meetAny (level : Level) (p : Progress) (word : String) : Except UsageError Progress :=
  if p.plain then p.meetPlain level word
  else if word = "--" then .ok { p with plain := true }
  else match word.toList with
    | '-' :: '-' :: rest =>
      p.meetLong level (String.ofList (rest.takeWhile (· ≠ '='))) <|
        match rest.dropWhile (· ≠ '=') with
        | [] => none
        | _ :: value => some (String.ofList value)
    | '-' :: c :: rest => p.meetShorts level (c :: rest)
    | _ => p.meetPlain level word

/-- Meets the words up to a command. -/
def meetAll (level : Level) :
    Progress → List String → Except UsageError (Progress × Option (String × List String))
  | p, [] => .ok (p, none)
  | p, word :: rest =>
    if !p.plain && !p.awaits && level.isCommand word then .ok (p, some (word, rest))
    else match p.meetAny level word with
      | .error e => .error e
      | .ok p => meetAll level p rest

end Progress

namespace Level

/-- Takes the values of missing options from the environment. -/
def fill (environment : String → Option String) (given : Matches) :
    List OptionSpec → Except UsageError Matches
  | [] => .ok given
  | o :: rest => match o.fallback.bind environment, o.kind with
    | some value, .value kind =>
      if given.has o.long then fill environment given rest
      else match kind.check value with
        | .error e => .error e
        | .ok () => fill environment (given ++ [(o.long, .fromEnvironment value)]) rest
    | _, _ => fill environment given rest

/-- Closes the level and checks what is given as a whole. -/
def finish (level : Level) (environment : String → Option String) (p : Progress)
    (hasCommand : Bool) : Except UsageError Matches :=
  match p.close with
  | .error e => .error e
  | .ok p => match fill environment p.given level.options with
    | .error e => .error e
    | .ok given =>
      if !level.commands.isEmpty && !hasCommand then
        .error (if given.isEmpty then .nothingGiven else .missingCommand)
      else if level.exclusive.any fun (a, b) => given.has a && given.has b then .error .conflict
      else if level.position.any fun spec => spec.needed && !given.has spec.name then
        .error .missingArgument
      else .ok given

end Level

/-- A program and its commands. -/
structure Grammar where
  program : Level
  command : String → Level

/-- What is given before a command, the command, and what is given behind it. -/
structure Parsed where
  before : Matches
  command : String
  behind : Matches

namespace Grammar

/-- Someone asks for help, perhaps on a command. -/
def explain (g : Grammar) : List String → UsageError
  | [] => .help
  | [word] => if g.program.isCommand word then .help else .invalidCommand
  | _ => .invalidCommand

/-- Reads the words of a command line. The words behind the command are checked before those in
front of it. -/
def read (g : Grammar) (environment : String → Option String) (words : List String) :
    Except UsageError Parsed :=
  match Progress.meetAll g.program {} words with
  | .error e => .error e
  | .ok (p, none) => match g.program.finish environment p false with
    | .error e => .error e
    | .ok _ => .error .missingCommand
  | .ok (p, some (command, rest)) =>
    if command = "help" then .error (g.explain rest)
    else
      let level := g.command command
      match Progress.meetAll level {} rest with
      | .error e => .error e
      | .ok (q, _) => match level.finish environment q false with
        | .error e => .error e
        | .ok behind => match g.program.finish environment p true with
          | .error e => .error e
          | .ok before => .ok ⟨before, command, behind⟩

end Grammar

/-- What is given for an option that may stand on both sides of the command: first behind it, then
before it, then in the environment. -/
def Parsed.everywhere (r : Parsed) : Matches :=
  let isWritten : String × Given → Bool
    | (_, .fromEnvironment _) => false
    | _ => true
  r.behind.filter isWritten ++ r.before.filter isWritten ++ r.before

end SettingsCheck.CommandLine
