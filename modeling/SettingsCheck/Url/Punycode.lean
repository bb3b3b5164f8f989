/-!
Labels of host names in ASCII letters: the characters outside ASCII follow the others as
a sequence of distances, written in digits whose weights adapt to the sizes met before.
-/

namespace SettingsCheck.Url.Punycode

def digitChar (d : Nat) : Char := if d < 26 then Char.ofNat (97 + d) else Char.ofNat (22 + d)

def digitValue? (c : Char) : Option Nat :=
  if 'a' ≤ c && c ≤ 'z' then some (c.toNat - 97)
  else if 'A' ≤ c && c ≤ 'Z' then some (c.toNat - 65)
  else if '0' ≤ c && c ≤ '9' then some (c.toNat - 22)
  else none

/-- The threshold of the digit at place `k`. -/
def threshold (k bias : Nat) : Nat :=
  if k ≤ bias then 1 else if bias + 26 ≤ k then 26 else k - bias

def adaptLoop : Nat → Nat → Nat → Nat × Nat
  | 0, delta, k => (delta, k)
  | fuel + 1, delta, k => if delta > 455 then adaptLoop fuel (delta / 35) (k + 36) else (delta, k)

def adapt (delta count : Nat) (first : Bool) : Nat :=
  let delta := if first then delta / 700 else delta / 2
  let delta := delta + delta / count
  let (delta, k) := adaptLoop delta.log2 delta 0
  k + 36 * delta / (delta + 38)

def encodeDelta : Nat → Nat → Nat → Nat → List Char
  | 0, _, _, _ => []
  | fuel + 1, q, k, bias =>
    let t := threshold k bias
    if q < t then [digitChar q]
    else digitChar (t + (q - t) % (36 - t)) :: encodeDelta fuel ((q - t) / (36 - t)) (k + 36) bias

structure State where
  n : Nat := 128
  delta : Nat := 0
  bias : Nat := 72
  handled : Nat
  output : List Char := []

/-- Writes all occurrences of the code point `m`, the least one not yet written. -/
def encodePoint (cs : List Char) (basic m : Nat) (s : State) : State :=
  let start := { s with delta := s.delta + (m - s.n) * (s.handled + 1), n := m }
  let s := cs.foldl (fun s c =>
    if c.toNat < m then { s with delta := s.delta + 1 }
    else if c.toNat = m then
      { s with
        output := s.output ++ encodeDelta (s.delta.log2 + 2) s.delta 36 s.bias
        bias := adapt s.delta (s.handled + 1) (s.handled == basic)
        delta := 0
        handled := s.handled + 1 }
    else s) start
  { s with delta := s.delta + 1, n := m + 1 }

/-- Writes the code points from `s.n` on, the least one first. -/
def encodePoints (cs : List Char) (basic : Nat) : Nat → State → State
  | 0, s => s
  | fuel + 1, s =>
    match ((cs.map Char.toNat).filter (s.n ≤ ·)).min? with
    | none => s
    | some m => encodePoints cs basic fuel (encodePoint cs basic m s)

def encode (cs : List Char) : List Char :=
  let basic := cs.filter (·.toNat < 128)
  let s := encodePoints cs basic.length cs.length { handled := basic.length }
  basic ++ (if basic.isEmpty then [] else ['-']) ++ s.output

/-- Reads one distance. -/
def decodeDelta : List Char → Nat → Nat → Nat → Nat → Option (Nat × List Char)
  | [], _, _, _, _ => none
  | c :: rest, i, w, k, bias => do
    let d ← digitValue? c
    let i := i + d * w
    let t := threshold k bias
    if i ≥ Nat.pow 2 32 then none
    else if d < t then some (i, rest)
    else decodeDelta rest i (w * (36 - t)) (k + 36) bias

def decodeLoop : Nat → List Char → Nat → Nat → Nat → List Char → Option (List Char)
  | 0, _, _, _, _, _ => none
  | fuel + 1, input, n, i, bias, output =>
    if input.isEmpty then some output
    else do
      let (next, rest) ← decodeDelta input i 1 36 bias
      let count := output.length + 1
      let bias := adapt (next - i) count (i == 0)
      let n := n + next / count
      let place := next % count
      if n > 0x10FFFF || (0xD800 ≤ n && n ≤ 0xDFFF) then none
      else
        let output := output.take place ++ Char.ofNat n :: output.drop place
        decodeLoop fuel rest n (place + 1) bias output

/-- The characters of a label written by `encode`; nothing if it is not one. -/
def decode (cs : List Char) : Option (List Char) :=
  let tail := (cs.reverse.takeWhile (· ≠ '-')).reverse
  let (basic, digits) :=
    if tail.length = cs.length then ([], cs)
    else (cs.take (cs.length - tail.length - 1), tail)
  if basic.any (128 ≤ ·.toNat) then none
  else decodeLoop (digits.length + 1) digits 128 0 72 basic

example : encode "bücher".toList = "bcher-kva".toList := by decide
example : decode "bcher-kva".toList = some "bücher".toList := by decide
example : encode "é".toList = "9ca".toList := by decide
example : encode "例え".toList = "r8jz45g".toList := by decide

end SettingsCheck.Url.Punycode
