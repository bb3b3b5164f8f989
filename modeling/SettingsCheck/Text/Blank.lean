import SettingsCheck.Text.Digits

namespace SettingsCheck.Text

/-- The White_Space property. -/
def isBlank (c : Char) : Bool :=
  let n := c.toNat
  (9 ≤ n && n ≤ 13) || n == 0x20 || n == 0x85 || n == 0xA0 || n == 0x1680 ||
    (0x2000 ≤ n && n ≤ 0x200A) || n == 0x2028 || n == 0x2029 || n == 0x202F || n == 0x205F ||
    n == 0x3000

def isControl (c : Char) : Bool := c.toNat < 0x20 || (0x7F ≤ c.toNat && c.toNat < 0xA0)

/-- Drops the characters of a class from the end. -/
def dropEndWhile (p : Char → Bool) (s : List Char) : List Char :=
  (s.reverse.dropWhile p).reverse

/-- Drops the characters of a class from both ends. -/
def trimWhile (p : Char → Bool) (s : List Char) : List Char :=
  dropEndWhile p (s.dropWhile p)

def trim (s : String) : String := String.ofList (trimWhile isBlank s.toList)

def trimEnd (s : String) : String := String.ofList (dropEndWhile isBlank s.toList)

/-- The pieces between the characters of a class; there is one piece more than there are cuts. -/
def pieces (p : Char → Bool) : List Char → List (List Char)
  | [] => [[]]
  | c :: r =>
    if p c then [] :: pieces p r
    else match pieces p r with
      | [] => [[c]]
      | w :: ws => (c :: w) :: ws

/-- The words of a text: its maximal runs without blanks. -/
def words (s : String) : List String :=
  ((pieces isBlank s.toList).filter (!·.isEmpty)).map String.ofList

def split (sep : Char) (s : String) : List String := (pieces (· == sep) s.toList).map String.ofList

/-- Cuts a list at the first place where the text stands; the text itself is left out. -/
def cutAt (needle : List Char) : List Char → Option (List Char × List Char)
  | [] => if needle = [] then some ([], []) else none
  | c :: r =>
    if needle.isPrefixOf (c :: r) then some ([], (c :: r).drop needle.length)
    else (cutAt needle r).map fun (a, b) => (c :: a, b)

/-- Whether a text holds another one. -/
def holds (s needle : String) : Bool := (cutAt needle.toList s.toList).isSome

theorem isSome_cutAt_iff {needle s : List Char} :
    (cutAt needle s).isSome = true ↔ needle <:+: s := by
  induction s with
  | nil => simp [cutAt]
  | cons c r ih =>
    rw [List.infix_cons_iff, ← ih, cutAt]
    by_cases h : needle.isPrefixOf (c :: r) = true
    · simp [h, List.isPrefixOf_iff_prefix.mp h]
    · have hno : ¬needle <+: c :: r := fun hp => h (List.isPrefixOf_iff_prefix.mpr hp)
      simp [h, hno]

theorem holds_iff {s needle : String} : holds s needle = true ↔ needle.toList <:+: s.toList :=
  isSome_cutAt_iff

/-- Puts another text wherever the needle stands, from left to right; some characters are skipped
first. -/
def replaceFrom (needle other : List Char) : Nat → List Char → List Char
  | _, [] => []
  | skip + 1, _ :: r => replaceFrom needle other skip r
  | 0, c :: r =>
    if needle.isPrefixOf (c :: r) then other ++ replaceFrom needle other (needle.length - 1) r
    else c :: replaceFrom needle other 0 r

/-- Puts another text wherever a needle stands, which is not empty. -/
def replace (needle other s : String) : String :=
  String.ofList (replaceFrom needle.toList other.toList 0 s.toList)

example : replace "ab" "b" "aabab" = "abb" := by decide

/-- The rest of a text after a given beginning. -/
def after? (start s : String) : Option String :=
  if start.toList.isPrefixOf s.toList then some (String.ofList (s.toList.drop start.length))
  else none

/-- Lower case for the ASCII letters; all other characters stay. -/
def lowerAscii (s : String) : String := String.ofList (s.toList.map Char.toLower)

/-- Lower case of a text that is going to be compared with ASCII words. Outside ASCII only the
Kelvin sign and the dotted capital I have a lower case with an ASCII letter in it. -/
def lowerForWords (s : String) : String :=
  String.ofList <| s.toList.flatMap fun c =>
    if c.toNat == 0x212A then ['k']
    else if c.toNat == 0x130 then ['i', '\u0307']
    else [c.toLower]

/-- The text of a blank or control character between single quotes. -/
def quotedBlank (c : Char) : String :=
  if c = ' ' then "' '"
  else if c = '\n' then "'\\n'"
  else if c = '\t' then "'\\t'"
  else if c = '\r' then "'\\r'"
  else if c = '\x00' then "'\\0'"
  else "'\\u\x7b" ++ hex c.toNat ++ "\x7d'"

/-- A message with a reason behind it, where there is one. -/
def withReason (message : String) (reason : Option String) : String :=
  match reason with
  | some reason => message ++ ": " ++ reason
  | none => message

def joinWith (sep : String) (parts : List String) : String := String.intercalate sep parts

end SettingsCheck.Text
