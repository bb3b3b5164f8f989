import SettingsCheck.Http.Failure

namespace SettingsCheck.Http

structure RetryPolicy where
  /-- How many tries may follow the first one. -/
  maxAttempts : Nat := 2
  /-- The first wait, in milliseconds. -/
  baseDelay : Nat := 250
  /-- The longest wait, in milliseconds. -/
  maxDelay : Nat := 2000
  /-- Whether waits vary by chance. -/
  jitter : Bool := true
  multiplier : Float := 2

/-- The state of a series of tries: how many were repeated, and the next wait in nanoseconds. -/
structure Retry where
  attempts : Nat := 0
  interval : Nat

namespace Retry

def billion : Float := 1000000000

/-- Nanoseconds as a float. -/
def toFloat (nanoseconds : Nat) : Float :=
  (UInt64.ofNat (nanoseconds / 1000000000)).toFloat * billion +
    (UInt64.ofNat (nanoseconds % 1000000000)).toFloat

/-- Whole nanoseconds, seconds and rest cut off apart. -/
def ofFloat (x : Float) : Nat :=
  (x / billion).toUInt64.toNat * 1000000000 + x.toUInt64.toNat % 1000000000

def maxInterval (policy : RetryPolicy) : Nat := policy.maxDelay * 1000000

def start (policy : RetryPolicy) : Retry := { interval := policy.baseDelay * 1000000 }

/-- The interval after the next one. -/
def nextInterval (policy : RetryPolicy) (interval : Nat) : Nat :=
  let x := toFloat interval
  if toFloat (maxInterval policy) / policy.multiplier ≤ x then maxInterval policy
  else ofFloat (x * policy.multiplier)

/-- The interval, moved by up to half of it when waits vary; `chance` lies between 0 and 1. -/
def varied (policy : RetryPolicy) (chance : Float) (interval : Nat) : Nat :=
  if policy.jitter then
    let x := toFloat interval
    let delta := 0.5 * x
    ofFloat (x - delta + chance * (2 * delta + 1))
  else interval

/-- The wait before the next try in nanoseconds, or nothing if there is none. A wait that the peer
asked for leaves the intervals as they are. -/
def next (policy : RetryPolicy) (chance : Float) (s : Retry) (f : Failure) : Option Nat × Retry :=
  if policy.maxAttempts ≤ s.attempts || !f.kind.isRetryable then (none, s)
  else match f.retryAfter with
    | some seconds =>
      (some (min (seconds * 1000000000) (maxInterval policy)),
        { s with attempts := s.attempts + 1 })
    | none =>
      (some (min (varied policy chance s.interval) (maxInterval policy)),
        ⟨s.attempts + 1, nextInterval policy s.interval⟩)

/-- Makes a request until it succeeds or no further try is left. The fuel is the number of tries
that may follow. -/
def series {α : Type} (policy : RetryPolicy) (chances : Nat → Float)
    (request : Dialogue (Except Failure α)) : Nat → Retry → Dialogue (Except Failure α)
  | 0, _ => request
  | fuel + 1, s => request.bind fun
    | .ok a => .done (.ok a)
    | .error f => match next policy (chances s.attempts) s f with
      | (none, _) => .done (.error f)
      | (some wait, s) => .pause wait (series policy chances request fuel s)

def execute {α : Type} (policy : RetryPolicy) (chances : Nat → Float)
    (request : Dialogue (Except Failure α)) : Dialogue (Except Failure α) :=
  series policy chances request policy.maxAttempts (start policy)

end Retry

end SettingsCheck.Http
