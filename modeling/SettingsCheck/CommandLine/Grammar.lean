import SettingsCheck.Decimal.Reading

namespace SettingsCheck.CommandLine

/-- Why the words are no command line, or ask for something else than a run. -/
inductive UsageError where
  | unknownArgument
  /-- A value is missing, empty, or none of the possible ones. -/
  | invalidValue
  /-- A value is no number. -/
  | invalidNumber
  /-- A value for an option that takes none. -/
  | tooManyValues
  /-- An option comes twice, or with another one that excludes it. -/
  | conflict
  | invalidCommand
  | missingArgument
  | missingCommand
  /-- There is nothing at all on the command line. -/
  | nothingGiven
  | help
  /-- The version is asked for, under the given title. -/
  | version (title : String)
  deriving DecidableEq, Repr

def UsageError.exitCode : UsageError → Nat
  | help | version _ => 0
  | _ => 2

def UsageError.message : UsageError → String
  | unknownArgument => "unexpected argument"
  | invalidValue => "invalid or missing value"
  | invalidNumber => "value is not a number"
  | tooManyValues => "unexpected value"
  | conflict => "argument cannot be used with the others"
  | invalidCommand => "unrecognized subcommand"
  | missingArgument => "a required argument was not provided"
  | missingCommand => "a subcommand is required but was not provided"
  | nothingGiven => "no arguments"
  | help => "help"
  | version title => title

inductive ValueKind where
  | path
  | natural
  | oneOf (names : List String)
  deriving DecidableEq, Repr

def ValueKind.check (kind : ValueKind) (value : String) : Except UsageError Unit :=
  match kind with
  | path => if value = "" then .error .invalidValue else .ok ()
  | natural => if (unsigned64? value).isNone then .error .invalidNumber else .ok ()
  | oneOf names => if names.contains value then .ok () else .error .invalidValue

/-- The first fault among some values. -/
def ValueKind.checkAll (kind : ValueKind) : List String → Except UsageError Unit
  | [] => .ok ()
  | value :: rest => match kind.check value with
    | .error e => .error e
    | .ok () => kind.checkAll rest

inductive OptionKind where
  /-- It is there or not. -/
  | flag
  /-- It counts how often it is there. -/
  | counter
  | value (kind : ValueKind)
  | help
  | version
  deriving DecidableEq, Repr

structure OptionSpec where
  /-- The name behind two dashes. -/
  long : String
  /-- The letter behind one dash. -/
  short : Option Char := none
  kind : OptionKind
  /-- The variable of the environment that gives a value to an option that is missing. -/
  fallback : Option String := none
  deriving DecidableEq, Repr

/-- The words that are no options. -/
structure PositionSpec where
  name : String
  kind : ValueKind
  many : Bool := false
  needed : Bool := false
  deriving DecidableEq, Repr

/-- What may stand behind the name of the program, or behind that of a command. -/
structure Level where
  title : String
  options : List OptionSpec
  position : Option PositionSpec := none
  /-- The commands, one of which has to follow; none at the level of a command. -/
  commands : List String := []
  /-- Options that exclude each other. -/
  exclusive : List (String × String) := []
  deriving DecidableEq, Repr

namespace Level

def long? (level : Level) (name : String) : Option OptionSpec :=
  level.options.find? (·.long == name)

def short? (level : Level) (letter : Char) : Option OptionSpec :=
  level.options.find? (·.short == some letter)

/-- Whether a word is a command; where there are commands, one of them explains the others. -/
def isCommand (level : Level) (word : String) : Bool :=
  level.commands.contains word || (!level.commands.isEmpty && word = "help")

end Level

end SettingsCheck.CommandLine
