import SettingsCheck.Url.Host

namespace SettingsCheck.Url

inductive UrlPath where
  /-- What follows the scheme when the address has no hierarchy, as in `mailto:x`. -/
  | whole (s : String)
  | segments (parts : List String)
  deriving DecidableEq, Repr

structure Address where
  scheme : String
  username : String := ""
  password : String := ""
  host : Option Host := none
  port : Option Nat := none
  path : UrlPath
  query : Option String := none
  fragment : Option String := none
  deriving DecidableEq, Repr

/-- The port that goes without saying. -/
def defaultPort (scheme : String) : Option Nat :=
  if scheme = "http" || scheme = "ws" then some 80
  else if scheme = "https" || scheme = "wss" then some 443
  else if scheme = "ftp" then some 21
  else none

/-- Schemes whose addresses have a host and also take a backslash for a slash. -/
def isWebScheme (scheme : String) : Bool := (defaultPort scheme).isSome || scheme = "file"

namespace Address

def isSlash (web : Bool) (c : Char) : Bool := c == '/' || (web && c == '\\')

/-- A scheme, if the text starts with one, in lower case. -/
def splitScheme (cs : List Char) : Option (String × List Char) :=
  match cs with
  | [] => none
  | first :: _ =>
    if !first.isAlpha then none
    else
      let isSchemeChar (c : Char) := c.isAlphanum || c == '+' || c == '-' || c == '.'
      match cs.dropWhile isSchemeChar with
      | ':' :: rest => some (Text.lowerAscii (String.ofList (cs.takeWhile isSchemeChar)), rest)
      | _ => none

def isSingleDot (s : List Char) : Bool :=
  let l := s.map Char.toLower
  l == ".".toList || l == "%2e".toList

def isDoubleDot (s : List Char) : Bool :=
  let l := s.map Char.toLower
  [ "..", ".%2e", "%2e.", "%2e%2e" ].any (·.toList == l)

/-- Appends segments to a path, resolving the ones that are dots. -/
def resolve : List (List Char) → List String → List String
  | [], path => path
  | [last], path =>
    if isDoubleDot last then path.dropLast ++ [""]
    else if isSingleDot last then path ++ [""]
    else path ++ [String.ofList (percentEncode inPath last)]
  | s :: rest, path =>
    if isDoubleDot s then resolve rest path.dropLast
    else if isSingleDot s then resolve rest path
    else resolve rest (path ++ [String.ofList (percentEncode inPath s)])

/-- What follows the path. -/
structure Tail where
  query : Option String := none
  fragment : Option String := none

def readTail (web : Bool) (cs : List Char) : Tail :=
  let beforeHash := cs.takeWhile (· ≠ '#')
  let fragment := match cs.dropWhile (· ≠ '#') with
    | '#' :: f => some (String.ofList (percentEncode inFragment f))
    | _ => none
  let query := match beforeHash with
    | '?' :: q => some (String.ofList (percentEncode (if web then inWebQuery else inQuery) q))
    | _ => none
  ⟨query, fragment⟩

def endsPath (c : Char) : Bool := c == '?' || c == '#'

/-- Path, query and fragment, the path appended to a given one. -/
def withPath (a : Address) (web : Bool) (start : List String) (cs : List Char) : Address :=
  let pathText := cs.takeWhile (!endsPath ·)
  let tail := readTail web (cs.dropWhile (!endsPath ·))
  { a with
    path := .segments (resolve (Text.pieces (isSlash web) pathText) start)
    query := tail.query
    fragment := tail.fragment }

/-- Path, query and fragment after a host. A web address has at least the root as its path. -/
def withPathAfterHost (a : Address) (web : Bool) (cs : List Char) : Address :=
  match cs with
  | c :: rest =>
    if isSlash web c then a.withPath web [] rest
    else if web then a.withPath web [] cs
    else
      let tail := readTail web cs
      { a with path := .segments [], query := tail.query, fragment := tail.fragment }
  | [] => { a with path := .segments (if web then [""] else []) }

/-- Digits up to the end of the host part. -/
def readPort (scheme : String) (cs : List Char) : Except UrlError (Option Nat) :=
  if cs.isEmpty then .ok none
  else if !cs.all (fun c => '0' ≤ c && c ≤ '9') then .error .invalidPort
  else
    let n := cs.foldl (fun n c => 10 * n + (c.toNat - 48)) 0
    if n > 65535 then .error .invalidPort
    else .ok (if defaultPort scheme = some n then none else some n)

/-- Cuts the port from a host; colons in brackets belong to the host. -/
def splitPort : Bool → List Char → List Char × Option (List Char)
  | _, [] => ([], none)
  | inside, c :: rest =>
    if c = ':' && !inside then ([], some rest)
    else
      let inside := if c = '[' then true else if c = ']' then false else inside
      let (host, port) := splitPort inside rest
      (c :: host, port)

/-- The user part ends at the last `@`. -/
def splitUser (cs : List Char) : Option (List Char) × List Char :=
  if cs.contains '@' then
    let host := (cs.reverse.takeWhile (· ≠ '@')).reverse
    (some (cs.take (cs.length - host.length - 1)), host)
  else (none, cs)

/-- User, host, port and all that follows, after the slashes. -/
def readAuthority (scheme : String) (cs : List Char) : Except UrlError Address := do
  let web := isWebScheme scheme
  let isEnd (c : Char) := isSlash web c || endsPath c
  let authority := cs.takeWhile (!isEnd ·)
  let rest := cs.dropWhile (!isEnd ·)
  let (user, hostPart) := splitUser authority
  let (hostText, portText) := splitPort false hostPart
  if hostText.isEmpty && (web || portText.isSome || user.any (!·.isEmpty)) then
    throw .emptyHost
  let host ← if web then Host.web? hostText else Host.other? hostText
  let port ← readPort scheme (portText.getD [])
  let user := user.getD []
  let encode (s : List Char) := String.ofList (percentEncode inUserInfo s)
  let a : Address :=
    { scheme
      username := encode (user.takeWhile (· ≠ ':'))
      password := encode ((user.dropWhile (· ≠ ':')).drop 1)
      host := some host
      port
      path := .segments [] }
  return a.withPathAfterHost web rest

/-- A file address; its host may be empty. -/
def readFile (cs : List Char) : Except UrlError Address := do
  match cs with
  | a :: b :: rest =>
    if isSlash true a && isSlash true b then
      let isEnd (c : Char) := isSlash true c || endsPath c
      let hostText := rest.takeWhile (!isEnd ·)
      let host ← if hostText.isEmpty then pure (Host.name "") else Host.web? hostText
      let host := if host = .name "localhost" then .name "" else host
      return ({ scheme := "file", host := some host, path := .segments [] } : Address
        ).withPathAfterHost
        true (rest.dropWhile (!isEnd ·))
    else
      return { scheme := "file", host := some (.name ""), path := .segments [] : Address }
        |>.withPathAfterHost true cs
  | _ =>
    return { scheme := "file", host := some (.name ""), path := .segments [] : Address }
      |>.withPathAfterHost true cs

/-- An address with a scheme. -/
def readAfterScheme (scheme : String) (cs : List Char) : Except UrlError Address :=
  if scheme = "file" then readFile cs
  else if isWebScheme scheme then readAuthority scheme (cs.dropWhile (isSlash true))
  else match cs with
    | '/' :: '/' :: rest => readAuthority scheme rest
    | '/' :: rest => .ok ({ scheme, path := .segments [] : Address }.withPath false [] rest)
    | _ =>
      let pathText := cs.takeWhile (!endsPath ·)
      let tail := readTail false (cs.dropWhile (!endsPath ·))
      .ok { scheme
            path := .whole (String.ofList (percentEncode inOpaque pathText))
            query := tail.query
            fragment := tail.fragment }

/-- Blanks at the ends and line breaks within are dropped. -/
def clean (s : String) : List Char :=
  (Text.trimWhile (·.toNat ≤ 0x20) s.toList).filter fun c => c ≠ '\t' && c ≠ '\n' && c ≠ '\r'

def parse (s : String) : Except UrlError Address :=
  let cs := clean s
  match splitScheme cs with
  | some (scheme, rest) => readAfterScheme scheme rest
  | none => .error .relativeWithoutBase

/-- Resolves a reference that has no scheme of its own. -/
def relative (base : Address) (cs : List Char) : Except UrlError Address :=
  let web := isWebScheme base.scheme
  match base.path, cs with
  | _, '#' :: _ => .ok { base with fragment := (readTail web cs).fragment }
  | .whole _, _ => .error .relativeWithOpaqueBase
  | .segments _, [] => .ok { base with fragment := none }
  | .segments _, '?' :: _ =>
    let tail := readTail web cs
    .ok { base with query := tail.query, fragment := tail.fragment }
  | .segments parts, c :: rest =>
    if isSlash web c then
      match rest with
      | d :: rest' =>
        if isSlash web d then
          if base.scheme = "file" then readFile cs
          else readAuthority base.scheme (if web then rest'.dropWhile (isSlash true) else rest')
        else .ok (base.withPath web [] rest)
      | [] => .ok (base.withPath web [] rest)
    else .ok (base.withPath web parts.dropLast cs)

/-- Resolves a reference against a base. -/
def join (base : Address) (reference : String) : Except UrlError Address :=
  let cs := clean reference
  match splitScheme cs with
  | some (scheme, rest) =>
    let slashes := (rest.takeWhile (isSlash true)).length
    if scheme = base.scheme && isWebScheme scheme && slashes < 2 then base.relative rest
    else readAfterScheme scheme rest
  | none => base.relative cs

def pathText (a : Address) : String :=
  match a.path with
  | .whole s => s
  | .segments parts => String.join (parts.map ("/" ++ ·))

/-- The part of an address that a request names. -/
def target (a : Address) : String :=
  a.pathText ++ (match a.query with
    | some q => "?" ++ q
    | none => "")

def text (a : Address) : String :=
  let authority := match a.host with
    | none => match a.path with
      | .segments ("" :: _ :: _) => "/."
      | _ => ""
    | some host =>
      let user :=
        if a.username = "" && a.password = "" then ""
        else a.username ++ (if a.password = "" then "" else ":" ++ a.password) ++ "@"
      let port := match a.port with
        | some n => ":" ++ toString n
        | none => ""
      "//" ++ user ++ host.text ++ port
  let fragment := match a.fragment with
    | some f => "#" ++ f
    | none => ""
  a.scheme ++ ":" ++ authority ++ a.target ++ fragment

/-- Adds a name and a value to the query. -/
def addQuery (a : Address) (name value : String) : Address :=
  let pair := formEncode name ++ "=" ++ formEncode value
  { a with query := some <| match a.query with
      | none => pair
      | some "" => pair
      | some q => q ++ "&" ++ pair }

end Address

end SettingsCheck.Url
