import SettingsCheck.Text.Blank
import SettingsCheck.Url.NameTable
import SettingsCheck.Url.Percent
import SettingsCheck.Url.Punycode

namespace SettingsCheck.Url

inductive UrlError where
  | emptyHost
  | invalidName
  | invalidPort
  | invalidIpv4
  | invalidIpv6
  | invalidDomainCharacter
  | relativeWithoutBase
  | relativeWithOpaqueBase
  deriving DecidableEq, Repr

def UrlError.message : UrlError → String
  | emptyHost => "empty host"
  | invalidName => "invalid international domain name"
  | invalidPort => "invalid port number"
  | invalidIpv4 => "invalid IPv4 address"
  | invalidIpv6 => "invalid IPv6 address"
  | invalidDomainCharacter => "invalid domain character"
  | relativeWithoutBase => "relative URL without a base"
  | relativeWithOpaqueBase => "relative URL with a cannot-be-a-base base"

inductive Host where
  | name (s : String)
  | ipv4 (n : Nat)
  | ipv6 (pieces : List Nat)
  deriving DecidableEq, Repr

/-- Characters that stand for something else in an address and so in no host. -/
def forbiddenInHost (c : Char) : Bool :=
  ['\x00', '\t', '\n', '\r', ' ', '#', '/', ':', '<', '>', '?', '@', '[', '\\', ']', '^',
    '|'].contains c

def forbiddenInName (c : Char) : Bool :=
  forbiddenInHost c || c.toNat ≤ 0x1F || c == '%' || c.toNat == 0x7F

namespace Host

/-- Lower case, and the other forms of characters outside ASCII. -/
def nameForms (cs : List Char) : Option (List Char) :=
  (cs.mapM fun c => if c.toNat < 0x80 then some [c.toLower] else nameForm c).map List.flatten

/-- A label in ASCII; one that claims to be encoded has to be so. -/
def asciiLabel (label : List Char) : Option (List Char) :=
  if label.any (0x80 ≤ ·.toNat) then some ("xn--".toList ++ Punycode.encode label)
  else if "xn--".toList.isPrefixOf label then do
    let decoded ← Punycode.decode (label.drop 4)
    if decoded.all (·.toNat < 0x80) then none
    else if (← nameForms decoded) = decoded then some label
    else none
  else some label

/-- A name in ASCII. -/
def asciiName (s : String) : Option String := do
  let forms ← nameForms s.toList
  if forms.any fun c => c.toNat < 0x80 && forbiddenInName c then none
  else
    let labels ← (Text.pieces (· == '.') forms).mapM asciiLabel
    some (".".intercalate (labels.map String.ofList))

/-- A number of a version 4 address: hexadecimal after `0x`, octal after `0`, else decimal. -/
def ipv4Number? (cs : List Char) : Option Nat :=
  let (radix, digits) := match cs with
    | '0' :: 'x' :: r => (16, r)
    | '0' :: 'X' :: r => (16, r)
    | '0' :: d :: r => (8, d :: r)
    | r => (10, r)
  if cs.isEmpty then none
  else Text.numberIn? radix digits

/-- Whether the last label makes the name a version 4 address. -/
def endsInNumber (labels : List (List Char)) : Bool :=
  let last := match labels.reverse with
    | [] :: r => r.head?
    | l => l.head?
  match last with
  | none => false
  | some l => (!l.isEmpty && l.all (fun c => '0' ≤ c && c ≤ '9')) || (ipv4Number? l).isSome

/-- All numbers but the last one are bytes; the last one fills the rest. -/
def ipv4? (labels : List (List Char)) : Option Nat := do
  let labels := if labels.getLast? = some [] && labels.length > 1 then labels.dropLast else labels
  if labels.length > 4 then none
  else
    let numbers ← labels.mapM ipv4Number?
    let last ← numbers.getLast?
    let bytes := numbers.dropLast
    if bytes.any (255 < ·) || Nat.pow 256 (4 - bytes.length) ≤ last then none
    else some (bytes.foldl (fun n b => 256 * n + b) 0 * Nat.pow 256 (4 - bytes.length) + last)

/-- A group of up to four hexadecimal digits. -/
def ipv6Group? (cs : List Char) : Option Nat :=
  if cs.isEmpty || cs.length > 4 then none
  else Text.numberIn? 16 cs

/-- Four decimal bytes without needless zeros, as two groups. -/
def ipv6Tail? (cs : List Char) : Option (List Nat) := do
  let bytes ← (Text.pieces (· == '.') cs).mapM fun part =>
    if part.isEmpty || part.length > 3 || !part.all (fun c => '0' ≤ c && c ≤ '9') ||
        (part.length > 1 && part.head? == some '0') then none
    else
      let n := part.foldl (fun n c => 10 * n + (c.toNat - 48)) 0
      if n ≤ 255 then some n else none
  match bytes with
  | [a, b, c, d] => some [256 * a + b, 256 * c + d]
  | _ => none

/-- The groups between colons, none of them empty; the last one may be a version 4 address. -/
def ipv6Groups? (cs : List Char) : Option (List Nat) :=
  if cs.isEmpty then some []
  else do
    let parts := Text.pieces (· == ':') cs
    let last ← parts.getLast?
    let front ← parts.dropLast.mapM ipv6Group?
    let back ← if last.contains '.' then ipv6Tail? last else (ipv6Group? last).map ([·])
    some (front ++ back)

/-- Eight groups; one run of zeros may be left out at a double colon. -/
def ipv6? (cs : List Char) : Option (List Nat) := do
  match Text.cutAt "::".toList cs with
  | none =>
    let groups ← ipv6Groups? cs
    if groups.length = 8 then some groups else none
  | some (front, back) =>
    if front.contains '.' then none
    else
      let front ← ipv6Groups? front
      let back ← ipv6Groups? back
      let missing := 8 - (front.length + back.length)
      if missing = 0 then none else some (front ++ List.replicate missing 0 ++ back)

/-- The host of a web address. -/
def web? (cs : List Char) : Except UrlError Host :=
  match cs with
  | [] => .error .emptyHost
  | '[' :: rest =>
    if rest.getLast? = some ']' then
      match ipv6? rest.dropLast with
      | some groups => .ok (.ipv6 groups)
      | none => .error .invalidIpv6
    else .error .invalidIpv6
  | _ =>
    let bytes := percentDecode (utf8Bytes (String.ofList cs))
    match (String.fromUTF8? ⟨bytes.toArray⟩).bind asciiName with
    | none => .error .invalidName
    | some "" => .error .emptyHost
    | some s =>
      let labels := Text.pieces (· == '.') s.toList
      if endsInNumber labels then
        match ipv4? labels with
        | some n => .ok (.ipv4 n)
        | none => .error .invalidIpv4
      else .ok (.name s)

/-- The host of any other address; its text is kept. -/
def other? (cs : List Char) : Except UrlError Host :=
  match cs with
  | '[' :: rest =>
    if rest.getLast? = some ']' then
      match ipv6? rest.dropLast with
      | some groups => .ok (.ipv6 groups)
      | none => .error .invalidIpv6
    else .error .invalidIpv6
  | _ =>
    if cs.any forbiddenInHost then .error .invalidDomainCharacter
    else .ok (.name (String.ofList (percentEncode inOpaque cs)))

/-- The start and length of the first longest run of at least two zeros. -/
def zeroRun (groups : List Nat) : Option (Nat × Nat) :=
  let runs := (List.range groups.length).map fun i =>
    (i, ((groups.drop i).takeWhile (· == 0)).length)
  runs.foldl (fun best run =>
    if run.2 < 2 then best
    else match best with
      | none => some run
      | some b => if b.2 < run.2 then some run else best) none

def groupsText (groups : List Nat) : String := ":".intercalate (groups.map Text.hex)

def text : Host → String
  | name s => s
  | ipv4 n =>
    ".".intercalate ([n / 16777216, n / 65536 % 256, n / 256 % 256, n % 256].map toString)
  | ipv6 groups =>
    let body := match zeroRun groups with
      | none => groupsText groups
      | some (i, n) => groupsText (groups.take i) ++ "::" ++ groupsText (groups.drop (i + n))
    "[" ++ body ++ "]"

end Host

end SettingsCheck.Url
