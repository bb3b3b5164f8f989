/-!
Base 64 with the standard alphabet. Groups of four symbols stand for three bytes; the last group is
filled with `=`, and bits that it does not need are zero, so each byte string has one written form.
-/

namespace SettingsCheck.Base64

inductive DecodeError where
  /-- The text is one symbol longer than whole groups. -/
  | invalidLength
  | invalidByte (offset : Nat) (byte : UInt8)
  | invalidLastSymbol (offset : Nat) (byte : UInt8)
  | invalidPadding
  deriving DecidableEq, Repr

def DecodeError.message : DecodeError → String
  | invalidLength => "Encoded text cannot have a 6-bit remainder."
  | invalidByte offset byte =>
    "Invalid byte " ++ toString byte.toNat ++ ", offset " ++ toString offset ++ "."
  | invalidLastSymbol offset byte =>
    "Invalid last symbol " ++ toString byte.toNat ++ ", offset " ++ toString offset ++ "."
  | invalidPadding => "Invalid padding"

/-- The byte that fills up the last group. -/
def pad : UInt8 := 61

/-- The symbol of a number below 64. -/
def symbol (n : Nat) : UInt8 :=
  if n < 26 then UInt8.ofNat (65 + n)
  else if n < 52 then UInt8.ofNat (71 + n)
  else if n < 62 then UInt8.ofNat (n - 4)
  else if n = 62 then 43 else 47

def value? (b : UInt8) : Option Nat :=
  let n := b.toNat
  if 65 ≤ n && n ≤ 90 then some (n - 65)
  else if 97 ≤ n && n ≤ 122 then some (n - 71)
  else if 48 ≤ n && n ≤ 57 then some (n + 4)
  else if n = 43 then some 62
  else if n = 47 then some 63
  else none

def encode : List UInt8 → List UInt8
  | [] => []
  | [a] => [symbol (a.toNat / 4), symbol (a.toNat % 4 * 16), pad, pad]
  | [a, b] =>
    [symbol (a.toNat / 4), symbol (a.toNat % 4 * 16 + b.toNat / 16), symbol (b.toNat % 16 * 4), pad]
  | a :: b :: c :: rest =>
    symbol (a.toNat / 4) :: symbol (a.toNat % 4 * 16 + b.toNat / 16) ::
      symbol (b.toNat % 16 * 4 + c.toNat / 64) :: symbol (c.toNat % 64) :: encode rest

/-- The values of the symbols and the number of pads. Pads stand at the third or fourth place of
a group with nothing but pads behind them; the first one out of place is reported. -/
def scan (i : Nat) (firstPad : Option Nat) : List UInt8 → Except DecodeError (List Nat × Nat)
  | [] => .ok ([], 0)
  | b :: rest =>
    if b = pad then
      if i % 4 < 2 then .error (.invalidByte (firstPad.getD i) pad)
      else (scan (i + 1) (some (firstPad.getD i)) rest).map fun (values, pads) => (values, pads + 1)
    else match firstPad with
      | some p => .error (.invalidByte p pad)
      | none => match value? b with
        | none => .error (.invalidByte i b)
        | some v => (scan (i + 1) none rest).map fun (values, pads) => (v :: values, pads)

/-- The bytes of whole groups, and of a last group of two or three symbols. -/
def assemble : List Nat → List UInt8
  | a :: b :: c :: d :: rest =>
    UInt8.ofNat (a * 4 + b / 16) :: UInt8.ofNat (b % 16 * 16 + c / 4) ::
      UInt8.ofNat (c % 4 * 64 + d) :: assemble rest
  | [a, b, c] => [UInt8.ofNat (a * 4 + b / 16), UInt8.ofNat (b % 16 * 16 + c / 4)]
  | [a, b] => [UInt8.ofNat (a * 4 + b / 16)]
  | _ => []

/-- The bits of the last symbol that belong to no byte. -/
def unusedBits (values : List Nat) : Nat :=
  let last := values.getLast?.getD 0
  if values.length % 4 = 2 then last % 16
  else if values.length % 4 = 3 then last % 4
  else 0

def decode (text : List UInt8) : Except DecodeError (List UInt8) :=
  let last := text.getLast?.getD pad
  if text.length % 4 = 1 then
    if last ≠ pad && (value? last).isNone then .error (.invalidByte (text.length - 1) last)
    else .error .invalidLength
  else match scan 0 none text with
    | .error e => .error e
    | .ok (values, pads) =>
      if (values.length + pads) % 4 ≠ 0 then .error .invalidPadding
      else if unusedBits values ≠ 0 then
        let i := values.length - 1
        .error (.invalidLastSymbol i ((text[i]?).getD pad))
      else .ok (assemble values)

/-- The written form of a text's bytes. -/
def encodeText (s : String) : String :=
  String.ofList ((encode s.toUTF8.toList).map fun b => Char.ofNat b.toNat)

example : encodeText "bot:correct" = "Ym90OmNvcnJlY3Q=" := by decide +kernel
example : decode [65, 65, 66, 61] = .error (.invalidLastSymbol 2 66) := rfl

end SettingsCheck.Base64
