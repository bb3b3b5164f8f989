import SettingsCheck.Url.Address

/-!
Dialogues with a peer over the network: requests, answers, waiting, and an end. What a dialogue
does depends on the peer through the answers alone, so a run of it is a function of the peer.

A request here is one call of the client, and its answer what that call comes to: redirects on the
way are followed by the client itself and do not show.
-/

namespace SettingsCheck.Http

structure Request where
  address : Url.Address
  /-- The values of the `Authorization` headers, in the order in which they are put. -/
  authorization : List String := []
  deriving DecidableEq, Repr

structure Response where
  status : Nat
  /-- In the order received; a name may stand more than once. -/
  headers : List (String × String) := []
  body : String
  deriving DecidableEq, Repr

/-- What one call of the client comes to, redirects included. -/
inductive Answer where
  | response (r : Response)
  /-- The connection failed, so there is no response. -/
  | failed
  deriving DecidableEq, Repr

inductive Dialogue (α : Type) where
  | done (result : α)
  | ask (request : Request) (next : Answer → Dialogue α)
  /-- Waits for some nanoseconds. -/
  | pause (nanoseconds : Nat) (next : Dialogue α)
  /-- Never ends. -/
  | hang

namespace Dialogue

variable {α β : Type}

def bind (d : Dialogue α) (f : α → Dialogue β) : Dialogue β :=
  match d with
  | done a => f a
  | ask request next => ask request fun answer => (next answer).bind f
  | pause n next => pause n (next.bind f)
  | hang => hang

instance : Monad Dialogue where
  pure := done
  bind := bind

/-- How a dialogue went: its result, unless it hung, the time spent waiting, and what was asked. -/
structure Course (α : Type) where
  result : Option α
  waited : Nat
  requests : List Request

/-- A run with a peer that has answered `n` requests before. -/
def run (peer : Nat → Request → Answer) : Nat → Dialogue α → Course α
  | _, done a => ⟨some a, 0, []⟩
  | n, ask request next =>
    let c := run peer (n + 1) (next (peer n request))
    { c with requests := request :: c.requests }
  | n, pause t next =>
    let c := run peer n next
    { c with waited := t + c.waited }
  | _, hang => ⟨none, 0, []⟩

end Dialogue

end SettingsCheck.Http
