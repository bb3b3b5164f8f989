/-!
The shortest decimal that reads back as a given float. A finite float is `m * 2 ^ q`; the reals that
round to it form an interval, closed exactly when `m` is even, and the shortest decimal is the
first multiple of a power of ten inside it, the powers taken in falling order.
-/

namespace SettingsCheck

/-- The number `digits * 10 ^ exponent`. -/
structure Decimal where
  digits : Nat
  exponent : Int
  deriving DecidableEq, Repr

/-- What to take when the value lies midway between two decimals of the same length. -/
inductive Tie where
  | up
  | even
  deriving DecidableEq

/-- The number `m * 2 ^ q`; `narrow` says that the float below is only half as far away as the one
above. -/
structure Binary where
  m : Nat
  q : Int
  narrow : Bool
  deriving DecidableEq

namespace Binary

/-- The magnitude of a finite float. -/
def ofBits (bits : UInt64) : Binary :=
  let e := ((bits >>> 52) &&& 0x7FF).toNat
  let f := (bits &&& 0xFFFFFFFFFFFFF).toNat
  if e = 0 then ⟨f, -1074, false⟩ else ⟨Nat.pow 2 52 + f, (e : Int) - 1075, f = 0 && e > 1⟩

/-- The value, and one unit of its last place, as numerators over a common denominator, once the
value is divided by `10 ^ g`. -/
structure Scaled where
  value : Nat
  unit : Nat
  den : Nat

def scaled (x : Binary) (g : Int) : Scaled :=
  let unit := Nat.pow 2 x.q.toNat * Nat.pow 10 (-g).toNat
  ⟨x.m * unit, unit, Nat.pow 2 (-x.q).toNat * Nat.pow 10 g.toNat⟩

/-- Whether `c * 10 ^ g` lies among the reals that round to the value. -/
def readsBack (x : Binary) (g : Int) (c : Nat) : Bool :=
  let s := x.scaled g
  let low := if x.narrow then s.unit else 2 * s.unit
  if x.m % 2 = 0 then
    4 * s.value ≤ 4 * c * s.den + low && 4 * c * s.den ≤ 4 * s.value + 2 * s.unit
  else
    4 * s.value < 4 * c * s.den + low && 4 * c * s.den < 4 * s.value + 2 * s.unit

/-- The multiple of `10 ^ g` next to the value that reads back, the nearer one if both do. -/
def onGrid (x : Binary) (tie : Tie) (g : Int) : Option Nat :=
  let s := x.scaled g
  let below := s.value / s.den
  let rest := 2 * (s.value % s.den)
  match x.readsBack g below, x.readsBack g (below + 1) with
  | false, false => none
  | true, false => some below
  | false, true => some (below + 1)
  | true, true =>
    if rest < s.den then some below
    else if s.den < rest then some (below + 1)
    else match tie with
      | .up => some (below + 1)
      | .even => some (below + below % 2)

/-- The least `k` with the value below `10 ^ k`, looked for upwards from `k`. -/
def magnitude (x : Binary) : Nat → Int → Int
  | 0, k => k
  | fuel + 1, k =>
    let s := x.scaled k
    if s.value < s.den then k else magnitude x fuel (k + 1)

/-- Tries grids from the coarsest on. -/
def search (x : Binary) (tie : Tie) (k : Int) : List Nat → Option Decimal
  | [] => none
  | n :: rest =>
    match x.onGrid tie (k - n) with
    | some c => some ⟨c, k - n⟩
    | none => search x tie k rest

end Binary

/-- Moves the zeros at the end of the digits into the exponent. -/
def Decimal.strip : Nat → Decimal → Decimal
  | 0, d => d
  | fuel + 1, d =>
    if d.digits ≠ 0 ∧ d.digits % 10 = 0 then strip fuel ⟨d.digits / 10, d.exponent + 1⟩ else d

/-- The shortest decimal of a value other than zero. If no grid of up to seventeen digits had a hit
the exact value would be the answer. -/
def Binary.shortest (x : Binary) (tie : Tie) : Decimal :=
  let bits : Int := x.m.log2 + x.q
  let k := x.magnitude 4 (bits * 30103 / 100000 - 1)
  match x.search tie k (List.range' 1 17) with
  | some d => d.strip 20
  | none => ⟨x.m * Nat.pow 2 x.q.toNat * Nat.pow 5 (-x.q).toNat, -((-x.q).toNat : Int)⟩

end SettingsCheck
