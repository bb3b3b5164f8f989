import SettingsCheck.Fields
import SettingsCheck.Text.Blank

namespace SettingsCheck.Remote

inductive Challenge where
  /-- The login is sent to the server itself. -/
  | basic
  /-- A token is fetched at the realm first. -/
  | bearer (realm : String) (params : Fields String)
  deriving DecidableEq, Repr

namespace Challenge

def isSeparator (c : Char) : Bool := Text.isBlank c || c == ','

/-- A value in quotes up to the closing one, and what follows. -/
def quotedValue (cs : List Char) : List Char × List Char :=
  (cs.takeWhile (· ≠ '"'), (cs.dropWhile (· ≠ '"')).drop 1)

/-- A value without quotes, up to a comma. -/
def bareValue (cs : List Char) : List Char × List Char :=
  (Text.trimWhile Text.isBlank (cs.takeWhile (· ≠ ',')), cs.dropWhile (· ≠ ','))

def readValue : List Char → List Char × List Char
  | '"' :: rest => quotedValue rest
  | cs => bareValue cs

/-- Reads parameters in turn; one without a name ends the list. Each takes a character, so the count
of characters is fuel enough. -/
def readParams : Nat → List Char → List (String × String)
  | 0, _ => []
  | fuel + 1, cs =>
    let cs := cs.dropWhile isSeparator
    let key := Text.trimWhile Text.isBlank (cs.takeWhile (· ≠ '='))
    if key.isEmpty then []
    else
      let (value, rest) := readValue ((cs.dropWhile (· ≠ '=')).drop 1)
      (Text.lowerAscii (String.ofList key), String.ofList value) :: readParams fuel rest

/-- The challenge in a header, if it is of a known scheme. -/
def parse? (header : String) : Option Challenge :=
  let cs := Text.trimWhile Text.isBlank header.toList
  let scheme := (String.ofList (cs.takeWhile (!Text.isBlank ·))).toLower
  let rest := (cs.dropWhile (!Text.isBlank ·)).drop 1
  if scheme = "basic" then some .basic
  else if scheme = "bearer" then
    let params := Fields.ofList (readParams (rest.length + 1) rest)
    (params.get? "realm").map fun realm => .bearer realm (params.filter (·.1 ≠ "realm"))
  else none

end Challenge

end SettingsCheck.Remote
