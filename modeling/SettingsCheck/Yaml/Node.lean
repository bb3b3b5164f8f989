import SettingsCheck.Yaml.TokenList

namespace SettingsCheck.Yaml

/-- What stands before a node. -/
structure Label where
  anchor : Option String := none
  tag : Option String := none
  deriving Inhabited

/-- A node; `ref` is what an alias says about its target. -/
inductive Node (ref : Type) where
  | reference (target : ref)
  | scalar (label : Label) (style : Style) (text : String)
  | sequence (label : Label) (items : List (Node ref))
  | mapping (label : Label) (entries : List (Node ref × Node ref))

def Node.empty {ref : Type} (label : Label) : Node ref := .scalar label .plain ""

/-- What the handles of tags are short for. -/
abbrev Handles := List (String × String)

def coreTags : String := "tag:yaml.org,2002:"

def standardHandles : Handles := [("!", "!"), ("!!", coreTags)]

/-- A tag in full. -/
def fullTag? (handles : Handles) (handle rest : String) : Option String :=
  if handle = "" then some rest else (handles.lookup handle).map (· ++ rest)

/-- An anchor and a tag, in any order. -/
def label? (handles : Handles) : List Token → Option (Label × List Token)
  | .anchor a :: .tag h r :: rest => (fullTag? handles h r).map fun t => (⟨some a, some t⟩, rest)
  | .tag h r :: .anchor a :: rest => (fullTag? handles h r).map fun t => (⟨some a, some t⟩, rest)
  | .anchor a :: rest => some (⟨some a, none⟩, rest)
  | .tag h r :: rest => (fullTag? handles h r).map fun t => (⟨none, some t⟩, rest)
  | rest => some ({}, rest)

/-- What may stand at a place. -/
inductive Place where
  /-- Between brackets. -/
  | flow
  | block
  /-- The key or value of a block, where a sequence needs no indentation. -/
  | entry
  deriving DecidableEq

/-- Whether one of these tokens is next, where nothing stands for an empty scalar. -/
def absent (stops : List Token) : List Token → Bool
  | [] => true
  | t :: _ => stops.contains t

/- Fuel is needed only to see that this ends: of two calls within each other at least one takes a
token. -/
mutual
def node? (handles : Handles) : Nat → Place → List Token → Option (Node String × List Token)
  | 0, _, _ => none
  | fuel + 1, place, ts =>
    match ts with
    | .reference name :: rest => some (.reference name, rest)
    | _ => do
      let (label, rest) ← label? handles ts
      match rest with
      | .dash :: _ =>
        if place = .entry then
          let (items, r) ← bareItems? handles fuel rest
          return (.sequence label items, r)
        else emptyNode? label rest
      | .scalar style text :: r =>
        let tag := if label.tag = some "!" then none else label.tag
        return (.scalar { label with tag } style text, r)
      | .openSequence :: r =>
        let (items, r) ← flowItems? handles fuel true r
        return (.sequence label items, r)
      | .openMapping :: r =>
        let (entries, r) ← flowEntries? handles fuel true r
        return (.mapping label entries, r)
      | .blockSequence :: r =>
        if place = .flow then emptyNode? label rest
        else
          let (items, r) ← blockItems? handles fuel r
          return (.sequence label items, r)
      | .blockMapping :: r =>
        if place = .flow then emptyNode? label rest
        else
          let (entries, r) ← blockEntries? handles fuel r
          return (.mapping label entries, r)
      | _ => emptyNode? label rest

/-- An anchor or tag alone makes a node. -/
def emptyNode? (label : Label) (rest : List Token) : Option (Node String × List Token) :=
  if label.anchor.isSome || label.tag.isSome then some (.empty label, rest) else none

/-- A node unless one of these tokens is next. -/
def nodeUnless (handles : Handles) : Nat → Place → List Token → List Token →
    Option (Node String × List Token)
  | 0, _, _, _ => none
  | fuel + 1, place, stops, ts =>
    if absent stops ts then some (.empty {}, ts) else node? handles fuel place ts

def blockItems? (handles : Handles) : Nat → List Token → Option (List (Node String) × List Token)
  | fuel + 1, .dash :: ts => do
    let (item, ts) ← nodeUnless handles fuel .block [.dash, .blockEnd] ts
    let (items, ts) ← blockItems? handles fuel ts
    return (item :: items, ts)
  | _, .blockEnd :: ts => some ([], ts)
  | _, _ => none

/-- Items at the indentation of the mapping around them. -/
def bareItems? (handles : Handles) : Nat → List Token → Option (List (Node String) × List Token)
  | 0, _ => none
  | fuel + 1, .dash :: ts => do
    let (item, ts) ← nodeUnless handles fuel .block [.dash, .key, .value, .blockEnd] ts
    let (items, ts) ← bareItems? handles fuel ts
    return (item :: items, ts)
  | _, ts => some ([], ts)

def blockEntries? (handles : Handles) : Nat → List Token →
    Option (List (Node String × Node String) × List Token)
  | fuel + 1, .key :: ts => do
    let (key, ts) ← nodeUnless handles fuel .entry [.key, .value, .blockEnd] ts
    let (value, ts) ← blockValue? handles fuel ts
    let (entries, ts) ← blockEntries? handles fuel ts
    return ((key, value) :: entries, ts)
  | _, .blockEnd :: ts => some ([], ts)
  | _, _ => none

def blockValue? (handles : Handles) : Nat → List Token → Option (Node String × List Token)
  | fuel + 1, .value :: ts => nodeUnless handles fuel .entry [.key, .value, .blockEnd] ts
  | _, ts => some (.empty {}, ts)

/-- Items up to the closing bracket, with a comma before each but the first one. A key among them
makes a mapping of one entry. -/
def flowItems? (handles : Handles) : Nat → Bool → List Token →
    Option (List (Node String) × List Token)
  | 0, _, _ => none
  | fuel + 1, first, ts =>
    match ts with
    | .closeSequence :: ts => some ([], ts)
    | _ => do
      let ts ← afterComma? first ts
      match ts with
      | .closeSequence :: ts => return ([], ts)
      | .key :: ts =>
        let (entry, ts) ← pair? handles fuel ts
        let (items, ts) ← flowItems? handles fuel false ts
        return (.mapping {} [entry] :: items, ts)
      | _ =>
        let (item, ts) ← node? handles fuel .flow ts
        let (items, ts) ← flowItems? handles fuel false ts
        return (item :: items, ts)

def afterComma? (first : Bool) (ts : List Token) : Option (List Token) :=
  if first then some ts
  else match ts with
    | .comma :: ts => some ts
    | _ => none

/-- A key and its value between brackets of a sequence. A key that is left out takes the token that
follows with it. -/
def pair? (handles : Handles) : Nat → List Token →
    Option ((Node String × Node String) × List Token)
  | 0, _ => none
  | fuel + 1, ts => do
    let (key, ts) ←
      if absent [.value, .comma, .closeSequence] ts then some (Node.empty {}, ts.drop 1)
      else node? handles fuel .flow ts
    match ts with
    | .value :: ts =>
      let (value, ts) ← nodeUnless handles fuel .flow [.comma, .closeSequence] ts
      return ((key, value), ts)
    | _ => return ((key, .empty {}), ts)

/-- Entries up to the closing brace, with a comma before each but the first one. -/
def flowEntries? (handles : Handles) : Nat → Bool → List Token →
    Option (List (Node String × Node String) × List Token)
  | 0, _, _ => none
  | fuel + 1, first, ts =>
    match ts with
    | .closeMapping :: ts => some ([], ts)
    | _ => do
      let ts ← afterComma? first ts
      match ts with
      | .closeMapping :: ts => return ([], ts)
      | .key :: ts =>
        let (key, ts) ← nodeUnless handles fuel .flow [.value, .comma, .closeMapping] ts
        let (value, ts) ← flowValue? handles fuel ts
        let (entries, ts) ← flowEntries? handles fuel false ts
        return ((key, value) :: entries, ts)
      | _ =>
        let (key, ts) ← node? handles fuel .flow ts
        let (entries, ts) ← flowEntries? handles fuel false ts
        return ((key, .empty {}) :: entries, ts)

def flowValue? (handles : Handles) : Nat → List Token → Option (Node String × List Token)
  | fuel + 1, .value :: ts => nodeUnless handles fuel .flow [.comma, .closeMapping] ts
  | _, ts => some (.empty {}, ts)
end

/-- The directives before a document. Versions 1.1 and 1.2 are known. -/
def directives? : Bool → Handles → List Token → Option (Handles × List Token)
  | versioned, handles, .version major minor :: rest =>
    if versioned || major ≠ 1 || (minor ≠ 1 && minor ≠ 2) then none
    else directives? true handles rest
  | versioned, handles, .tagShort handle start :: rest =>
    if (handles.lookup handle).isSome then none
    else directives? versioned ((handle, start) :: handles) rest
  | _, handles, rest => some (handles, rest)

def isDirective : Token → Bool
  | .version _ _ | .tagShort _ _ => true
  | _ => false

/-- The first document of a text. A text without tokens holds an empty scalar. -/
def root? (ts : List Token) : Option (Node String × List Token) :=
  let fuel := 3 * ts.length + 3
  let startsOther (t : Token) := isDirective t || t == .documentStart || t == .documentEnd
  match ts with
  | [] => some (.empty {}, [])
  | t :: _ =>
    if isDirective t || t == .documentStart then do
      let (handles, rest) ← directives? false [] ts
      match rest with
      | .documentStart :: rest =>
        if rest.head?.all startsOther then return (.empty {}, rest)
        else node? (handles ++ standardHandles) fuel .block rest
      | _ => none
    else node? standardHandles fuel .block ts

/-- The document of a text that holds no second one. -/
def document? (ts : List Token) : Option (Node String) := do
  let (root, rest) ← root? ts
  if (rest.dropWhile (· == .documentEnd)).isEmpty then some root else none

end SettingsCheck.Yaml
