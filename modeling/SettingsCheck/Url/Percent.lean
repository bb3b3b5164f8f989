import SettingsCheck.Text.Digits

namespace SettingsCheck.Url

def upperHexDigit (n : Nat) : Char := if n < 10 then Char.ofNat (48 + n) else Char.ofNat (55 + n)

def percentByte (b : UInt8) : List Char :=
  ['%', upperHexDigit (b.toNat / 16), upperHexDigit (b.toNat % 16)]

def utf8Bytes (s : String) : List UInt8 := s.toUTF8.toList

/-- The bytes of a character, each as `%XX`. -/
def percentChar (c : Char) : List Char := (utf8Bytes (String.singleton c)).flatMap percentByte

/-- Encodes the characters of a class and everything outside ASCII. -/
def percentEncode (needed : Char → Bool) (cs : List Char) : List Char :=
  cs.flatMap fun c => if c.toNat ≥ 0x7F || c.toNat < 0x20 || needed c then percentChar c else [c]

def inFragment (c : Char) : Bool := [' ', '"', '<', '>', '\x60'].contains c

def inQuery (c : Char) : Bool := [' ', '"', '#', '<', '>'].contains c

/-- Queries of web addresses also encode the apostrophe. -/
def inWebQuery (c : Char) : Bool := inQuery c || c == '\x27'

def inPath (c : Char) : Bool := inFragment c || ['#', '?', '\x7b', '\x7d'].contains c

def inUserInfo (c : Char) : Bool :=
  inPath c || ['/', ':', ';', '=', '@', '[', '\\', ']', '^', '|'].contains c

/-- Characters below the printable ones only. -/
def inOpaque (_ : Char) : Bool := false

/-- Reads `%XX` back; a percent sign without two digits stands for itself. -/
def percentDecode : List UInt8 → List UInt8
  | [] => []
  | b :: rest =>
    if b = 37 then
      match rest with
      | x :: y :: rest' =>
        match Text.hexDigit? (Char.ofNat x.toNat), Text.hexDigit? (Char.ofNat y.toNat) with
        | some h, some l => UInt8.ofNat (16 * h + l) :: percentDecode rest'
        | _, _ => b :: percentDecode (x :: y :: rest')
      | rest' => b :: rest'
    else b :: percentDecode rest

/-- One value of a form: letters, digits and `*-._` as they are, a blank as a plus. -/
def formEncode (s : String) : String :=
  String.ofList <| s.toList.flatMap fun c =>
    if c == ' ' then ['+']
    else if (c.isAlphanum && c.toNat < 0x80) || ['*', '-', '.', '_'].contains c then [c]
    else percentChar c

example : formEncode "a b&c=d.é" = "a+b%26c%3Dd.%C3%A9" := by decide +kernel

end SettingsCheck.Url
