import SettingsCheck.Json.Tree

namespace SettingsCheck.Redaction

def isQuote (c : Char) : Bool := c == '\x27' || c == '"'

def isSeparator (c : Char) : Bool := c == '=' || c == ':' || Text.isBlank c

/-- The lower-case letter that a character stands for; the Kelvin sign is a k, the long s an s. -/
def plainLetter (c : Char) : Char :=
  if c == '\u212A' then 'k' else if c == '\u017F' then 's' else c.toLower

/-- A keyword, and the secrets that may stand behind it. -/
structure Pattern where
  /-- The spellings of the keyword in lower case. -/
  keywords : List (List Char)
  /-- The characters of a secret. -/
  isSecret : Char → Bool
  /-- How long a secret is at least. -/
  least : Nat

namespace Pattern

/-- The keyword at the beginning of a text, as it is written there, and the rest of the text. -/
def cutWord : List Char → List Char → Option (List Char × List Char)
  | [], s => some ([], s)
  | _ :: _, [] => none
  | w :: word, c :: s =>
    if plainLetter c == w then (cutWord word s).map fun (written, rest) => (c :: written, rest)
    else none

def dropQuote : List Char → List Char
  | c :: rest => if isQuote c then rest else c :: rest
  | [] => []

/-- What comes after a secret and the quote that may close it. -/
def afterSecret? (p : Pattern) (s : List Char) : Option (List Char) :=
  if (s.takeWhile p.isSecret).length < p.least then none
  else some (dropQuote (s.dropWhile p.isSecret))

/-- What comes after a secret, with a quote before it or without. -/
def afterQuotedSecret? (p : Pattern) (s : List Char) : Option (List Char) :=
  match s with
  | c :: rest => if isQuote c then (p.afterSecret? rest).or (p.afterSecret? s) else p.afterSecret? s
  | [] => p.afterSecret? []

/-- What comes after one or more separators and a secret. As many separators are taken as leave a
secret behind them; the others belong to the secret. -/
def afterAssignment? (p : Pattern) : List Char → Option (List Char)
  | [] => none
  | c :: s => if isSeparator c then (p.afterAssignment? s).or (p.afterQuotedSecret? s) else none

/-- The keyword at the beginning of a text, and what comes after its secret. -/
def cut? (p : Pattern) (s : List Char) : Option (List Char × List Char) :=
  p.keywords.findSome? fun word =>
    (cutWord word s).bind fun (written, rest) =>
      (p.afterAssignment? rest).map fun rest => (written, rest)

theorem length_le_of_cutWord {word s written rest : List Char}
    (h : cutWord word s = some (written, rest)) : rest.length ≤ s.length := by
  induction word generalizing s written with
  | nil => cases h; exact Nat.le_refl _
  | cons w word ih =>
    cases s with
    | nil => simp [cutWord] at h
    | cons c s =>
      simp only [cutWord] at h
      split at h
      · obtain ⟨_, hc, ha⟩ := Option.map_eq_some_iff.mp h
        cases ha
        exact Nat.le_succ_of_le (ih hc)
      · exact nomatch h

theorem length_dropQuote_le (s : List Char) : (dropQuote s).length ≤ s.length := by
  cases s with
  | nil => exact Nat.le_refl _
  | cons c s => simp only [dropQuote]; split <;> simp

theorem length_le_of_afterSecret? {p : Pattern} {s rest : List Char}
    (h : p.afterSecret? s = some rest) : rest.length ≤ s.length := by
  unfold afterSecret? at h
  split at h
  · exact nomatch h
  · cases h
    exact Nat.le_trans (length_dropQuote_le _) (List.dropWhile_suffix _).length_le

theorem length_le_of_afterQuotedSecret? {p : Pattern} {s rest : List Char}
    (h : p.afterQuotedSecret? s = some rest) : rest.length ≤ s.length := by
  cases s with
  | nil => exact length_le_of_afterSecret? h
  | cons c s =>
    simp only [afterQuotedSecret?] at h
    split at h
    · rcases Option.or_eq_some_iff.mp h with h | ⟨_, h⟩
      · exact Nat.le_succ_of_le (length_le_of_afterSecret? h)
      · exact length_le_of_afterSecret? h
    · exact length_le_of_afterSecret? h

/-- There is at least one separator. -/
theorem length_lt_of_afterAssignment? {p : Pattern} {s rest : List Char}
    (h : p.afterAssignment? s = some rest) : rest.length < s.length := by
  induction s with
  | nil => exact nomatch h
  | cons c s ih =>
    simp only [afterAssignment?] at h
    split at h
    · rcases Option.or_eq_some_iff.mp h with h | ⟨_, h⟩
      · exact Nat.lt_succ_of_lt (ih h)
      · exact Nat.lt_succ_of_le (length_le_of_afterQuotedSecret? h)
    · exact nomatch h

theorem length_lt_of_cut? {p : Pattern} {s : List Char} {found : List Char × List Char}
    (h : p.cut? s = some found) : found.2.length < s.length := by
  obtain ⟨word, _, h⟩ := List.exists_of_findSome?_eq_some h
  obtain ⟨⟨written, rest⟩, hw, h⟩ := Option.bind_eq_some_iff.mp h
  obtain ⟨after, ha, rfl⟩ := Option.map_eq_some_iff.mp h
  exact Nat.lt_of_lt_of_le (length_lt_of_afterAssignment? ha) (length_le_of_cutWord hw)

/-- Masks every secret, from left to right; the keywords stay as they are. -/
def mask (p : Pattern) (s : List Char) : List Char :=
  match h : p.cut? s with
  | some (written, rest) =>
    have := length_lt_of_cut? h
    written ++ "=***".toList ++ p.mask rest
  | none => match s with
    | [] => []
    | c :: s => c :: p.mask s
termination_by s.length

end Pattern

/-- Letters and digits, and what is folded into them. -/
def isWordChar (c : Char) : Bool := (plainLetter c).isAlphanum

def apiKeys : Pattern where
  keywords := ["api_key".toList, "api-key".toList, "apikey".toList]
  isSecret c := isWordChar c || c == '_' || c == '-'
  least := 10

def tokens : Pattern where
  keywords := ["token".toList, "bearer".toList]
  isSecret c := isWordChar c || c == '_' || c == '.' || c == '-'
  least := 10

def passwords : Pattern where
  keywords := ["password".toList, "passwd".toList, "pwd".toList]
  isSecret c := !Text.isBlank c && !isQuote c
  least := 3

def maskText (s : String) : String :=
  String.ofList (passwords.mask (tokens.mask (apiKeys.mask s.toList)))

/-- Whether a name tells that a secret stands under it. -/
def isSensitiveName (name : String) : Bool :=
  ["key", "token", "password", "passwd", "secret", "credential", "auth"].any
    (Text.holds (Text.lowerForWords name))

/-- A leaf without its secrets. Floats that are no numbers are shown as null. -/
def maskLeaf : Json → Json
  | .string s => .string (maskText s)
  | .float x => if x.isFinite then .float x else .null
  | leaf => leaf

def isNull : Json → Bool
  | .null => true
  | .float x => !x.isFinite
  | _ => false

mutual
/-- A tree without its secrets. -/
def maskTree : Json → Json
  | .array items => .array (maskItems items)
  | .object entries => .object (maskEntries entries)
  | leaf => maskLeaf leaf

def maskItems : List Json → List Json
  | [] => []
  | item :: rest => maskTree item :: maskItems rest

def maskEntries : List (String × Json) → List (String × Json)
  | [] => []
  | (name, item) :: rest =>
    (name, if isSensitiveName name && !isNull item then .string "***" else maskTree item) ::
      maskEntries rest
end

end SettingsCheck.Redaction
