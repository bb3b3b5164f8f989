import Mathlib.Data.Nat.Count
import Mathlib.Order.Bounds.Basic
import SettingsCheck.Proofs.Tries

namespace SettingsCheck.Http

namespace Dialogue

variable {α β : Type} {peer : Nat → Request → Answer}

/-- What a dialogue does towards the outside. -/
inductive Deed where
  | asked (request : Request)
  | waited (nanoseconds : Nat)

def Deed.request? : Deed → Option Request
  | asked request => some request
  | waited _ => none

def Deed.wait? : Deed → Option Nat
  | asked _ => none
  | waited t => some t

/-- The requests and the waits of a dialogue, in their order. -/
def deeds (peer : Nat → Request → Answer) : Nat → Dialogue α → List Deed
  | _, done _ => []
  | n, ask request next => .asked request :: deeds peer (n + 1) (next (peer n request))
  | n, pause t next => .waited t :: deeds peer n next
  | _, hang => []

/-- The deeds hold all that a course tells beside the result. -/
theorem course_eq_deeds (d : Dialogue α) (n : Nat) :
    (d.run peer n).requests = (d.deeds peer n).filterMap Deed.request? ∧
      (d.run peer n).waited = ((d.deeds peer n).filterMap Deed.wait?).foldr (· + ·) 0 := by
  induction d generalizing n with
  | done a => exact ⟨rfl, rfl⟩
  | ask request next ih =>
    obtain ⟨hrequests, hwaited⟩ := ih (peer n request) (n + 1)
    exact ⟨congrArg (request :: ·) hrequests, hwaited⟩
  | pause t next ih =>
    obtain ⟨hrequests, hwaited⟩ := ih n
    exact ⟨hrequests, congrArg (t + ·) hwaited⟩
  | hang => exact ⟨rfl, rfl⟩

/-- A dialogue that ends with `a` goes on as what follows from `a`. -/
theorem bind_of_result {d : Dialogue α} {f : α → Dialogue β} {n : Nat} {a : α}
    (h : (d.run peer n).result = some a) :
    ((d.bind f).run peer n).result =
        ((f a).run peer (n + (d.run peer n).requests.length)).result ∧
      (d.bind f).deeds peer n =
        d.deeds peer n ++ (f a).deeds peer (n + (d.run peer n).requests.length) := by
  induction d generalizing n with
  | done b =>
    cases h
    exact ⟨rfl, rfl⟩
  | ask request next ih =>
    obtain ⟨hresult, hdeeds⟩ := ih (peer n request) h
    have hlater : n + ((ask request next).run peer n).requests.length =
        n + 1 + ((next (peer n request)).run peer (n + 1)).requests.length := by
      simp only [run, List.length_cons]
      omega
    rw [hlater]
    exact ⟨hresult, congrArg (Deed.asked request :: ·) hdeeds⟩
  | pause t next ih =>
    obtain ⟨hresult, hdeeds⟩ := ih h
    exact ⟨hresult, congrArg (Deed.waited t :: ·) hdeeds⟩
  | hang => cases h

theorem bind_of_no_result {d : Dialogue α} {f : α → Dialogue β} {n : Nat}
    (h : (d.run peer n).result = none) :
    ((d.bind f).run peer n).result = none ∧ (d.bind f).deeds peer n = d.deeds peer n := by
  induction d generalizing n with
  | done b => cases h
  | ask request next ih =>
    obtain ⟨hresult, hdeeds⟩ := ih (peer n request) h
    exact ⟨hresult, congrArg (Deed.asked request :: ·) hdeeds⟩
  | pause t next ih =>
    obtain ⟨hresult, hdeeds⟩ := ih h
    exact ⟨hresult, congrArg (Deed.waited t :: ·) hdeeds⟩
  | hang => exact ⟨rfl, rfl⟩

end Dialogue

open Dialogue (Deed)

namespace Retry

variable {α : Type}

/-- A failure that may be gone the next time: the server failed, there was no connection, or there
were too many requests. -/
def MayPass (f : Failure) : Prop :=
  f.kind = .server ∨ f.kind = .network ∨ f.kind = .rateLimit

theorem isRetryable_iff {f : Failure} : f.kind.isRetryable = true ↔ MayPass f := by
  unfold MayPass
  cases f.kind <;> decide

theorem isRetryable_eq_false_iff {f : Failure} : f.kind.isRetryable = false ↔ ¬MayPass f := by
  rw [← isRetryable_iff, Bool.not_eq_true]

/-- What comes of a try, if it ends at all, is a failure that may be gone the next time. -/
def Repeats (outcome : Option (Except Failure α)) : Prop :=
  ∃ f, outcome = some (.error f) ∧ MayPass f

/-- A failure after which the peer did not say how long to wait. -/
def unhinted : Option (Except Failure α) → Bool
  | some (.error f) => f.retryAfter.isNone
  | _ => false

/-- The interval after so many tries: it has moved on once for each failure without a hint. -/
def intervalAfter (policy : RetryPolicy) (outcome : Nat → Option (Except Failure α)) (first : Nat)
    (k : Nat) : Nat :=
  (nextInterval policy)^[Nat.count (fun i => unhinted (outcome i)) k] first

theorem intervalAfter_succ (policy : RetryPolicy) (outcome : Nat → Option (Except Failure α))
    (first k : Nat) :
    intervalAfter policy outcome first (k + 1) =
      intervalAfter policy (fun i => outcome (i + 1))
        (if unhinted (outcome 0) then nextInterval policy first else first) k := by
  have hcount := Nat.count_succ' (fun i => unhinted (outcome i)) k
  unfold intervalAfter
  rw [hcount]
  cases unhinted (outcome 0) with
  | true => rw [if_pos rfl, if_pos rfl, Function.iterate_succ_apply]
  | false => rw [if_neg Bool.false_ne_true, if_neg Bool.false_ne_true, Nat.add_zero]

section Series

variable (peer : Nat → Request → Answer) (request : Dialogue (Except Failure α))

/-- How many requests the peer has answered when a try begins, if it had answered `n` before the
first one. -/
def tryStart : Nat → Nat → Nat
  | n, 0 => n
  | n, k + 1 => tryStart (n + (request.run peer n).requests.length) k

/-- What comes of a try, counted from 0; nothing if it never ends. -/
def outcome (n k : Nat) : Option (Except Failure α) :=
  (request.run peer (tryStart peer request n k)).result

def tryDeeds (n k : Nat) : List Deed := request.deeds peer (tryStart peer request n k)

/-- Tries with a wait after each of them but the last. -/
def inTurn (tries : Nat → List Deed) (wait : Nat → Nat) (last : Nat) : List Deed :=
  (List.range last).flatMap (fun k => tries k ++ [.waited (wait k)]) ++ tries last

theorem inTurn_succ (tries : Nat → List Deed) (wait : Nat → Nat) (last : Nat) :
    inTurn tries wait (last + 1) =
      tries 0 ++
        .waited (wait 0) :: inTurn (fun k => tries (k + 1)) (fun k => wait (k + 1)) last := by
  simp [inTurn, List.range_succ_eq_map, List.flatMap_map]

/-- The series is over with this try, counted from 0: the policy allows no more, or none would
help. -/
def LastTry (repeats n : Nat) : Nat → Prop :=
  IsLeast {k | k = repeats ∨ ¬Repeats (outcome peer request n k)}

variable {peer request} {n : Nat}

theorem lastTry_zero {repeats : Nat}
    (h : repeats = 0 ∨ ¬Repeats (outcome peer request n 0)) :
    LastTry peer request repeats n 0 :=
  ⟨h.imp Eq.symm id, fun _ _ => Nat.zero_le _⟩

theorem LastTry.succ {repeats last : Nat} (hfirst : Repeats (outcome peer request n 0))
    (h : LastTry peer request repeats (n + (request.run peer n).requests.length) last) :
    LastTry peer request (repeats + 1) n (last + 1) := by
  obtain ⟨hmem, hleast⟩ := h
  refine ⟨hmem.imp (congrArg (· + 1)) id, fun k hk => ?_⟩
  cases k with
  | zero =>
    obtain hzero | hover := hk
    · cases hzero
    · exact absurd hfirst hover
  | succ k =>
    have hk' : k ∈ {k | k = repeats ∨ ¬Repeats (outcome peer request
        (n + (request.run peer n).requests.length) k)} := hk.imp Nat.succ.inj id
    exact Nat.succ_le_succ (hleast hk')

/-- A first try that is not worth repeating is the whole series. -/
theorem series_of_not_repeats (policy : RetryPolicy) (chances : Nat → Float) (repeats : Nat)
    (s : Retry) (h : ¬Repeats (outcome peer request n 0)) :
    ((series policy chances request repeats s).run peer n).result = outcome peer request n 0 ∧
      (series policy chances request repeats s).deeds peer n = tryDeeds peer request n 0 := by
  cases repeats with
  | zero => exact ⟨rfl, rfl⟩
  | succ repeats =>
    unfold series
    cases hfirst : (request.run peer n).result with
    | none =>
      rw [(Dialogue.bind_of_no_result hfirst).1, (Dialogue.bind_of_no_result hfirst).2]
      exact ⟨hfirst.symm, rfl⟩
    | some first =>
      rw [(Dialogue.bind_of_result hfirst).1, (Dialogue.bind_of_result hfirst).2]
      cases first with
      | ok a => exact ⟨hfirst.symm, List.append_nil _⟩
      | error f =>
        have hf : f.kind.isRetryable = false :=
          isRetryable_eq_false_iff.mpr fun hpass => h ⟨f, hfirst, hpass⟩
        simp only [next_of_not_retryable _ hf]
        exact ⟨hfirst.symm, List.append_nil _⟩

/-- What a series does, if so many repeats are left. -/
theorem series_accounts (peer : Nat → Request → Answer) (request : Dialogue (Except Failure α))
    (policy : RetryPolicy) (chances : Nat → Float) (n : Nat) (s : Retry) (repeats : Nat)
    (hs : s.attempts + repeats = policy.maxAttempts) :
    ∃ last wait, LastTry peer request repeats n last ∧
      ((series policy chances request repeats s).run peer n).result =
        outcome peer request n last ∧
      (series policy chances request repeats s).deeds peer n =
        inTurn (tryDeeds peer request n) wait last ∧
      ∀ k < last, ∃ f, outcome peer request n k = some (.error f) ∧
        wait k = waitAfter policy (chances (s.attempts + k))
          (intervalAfter policy (outcome peer request n) s.interval k) f := by
  -- on the repeats that are left, from one try to the next
  induction repeats generalizing n s with
  | zero => exact ⟨0, fun _ => 0, lastTry_zero (.inl rfl), rfl, rfl, nofun⟩
  | succ repeats ih =>
    by_cases hrepeats : Repeats (outcome peer request n 0)
    case neg =>
      obtain ⟨hresult, hdeeds⟩ :=
        series_of_not_repeats policy chances (repeats + 1) s hrepeats
      exact ⟨0, fun _ => 0, lastTry_zero (.inr hrepeats), hresult, hdeeds, nofun⟩
    obtain ⟨f, hfirst, hf⟩ := id hrepeats
    have hrun : (request.run peer n).result = some (.error f) := hfirst
    have hleft : s.attempts < policy.maxAttempts := by omega
    have hnext := next_of_retryable (chances s.attempts) hleft (isRetryable_iff.mpr hf)
    obtain ⟨last, wait, hlast, hresult, hdeeds, hwait⟩ :=
      ih (n + (request.run peer n).requests.length)
        ⟨s.attempts + 1, if f.retryAfter.isNone then nextInterval policy s.interval
          else s.interval⟩ (by simp only; omega)
    refine ⟨last + 1,
      fun | 0 => waitAfter policy (chances s.attempts) s.interval f | k + 1 => wait k,
      hlast.succ hrepeats, ?_, ?_, fun k hk => ?_⟩
    · unfold series
      rw [(Dialogue.bind_of_result hrun).1]
      simp only [hnext]
      exact hresult
    · unfold series
      rw [(Dialogue.bind_of_result hrun).2, inTurn_succ]
      simp only [hnext]
      exact congrArg (tryDeeds peer request n 0 ++ Deed.waited _ :: ·) hdeeds
    · cases k with
      | zero => exact ⟨f, hfirst, rfl⟩
      | succ k =>
        obtain ⟨g, hg, hgwait⟩ := hwait k (by omega)
        refine ⟨g, hg, ?_⟩
        have hchance : s.attempts + (k + 1) = s.attempts + 1 + k := by omega
        rw [intervalAfter_succ, hfirst, hchance]
        exact hgwait

theorem execute_deeds (peer : Nat → Request → Answer) (request : Dialogue (Except Failure α))
    (policy : RetryPolicy) (chances : Nat → Float) (n : Nat) :
    ∃ last wait, LastTry peer request policy.maxAttempts n last ∧
      ((execute policy chances request).run peer n).result = outcome peer request n last ∧
      (execute policy chances request).deeds peer n =
        inTurn (tryDeeds peer request n) wait last ∧
      ∀ k < last, ∃ f, outcome peer request n k = some (.error f) ∧
        wait k = waitAfter policy (chances k)
          (intervalAfter policy (outcome peer request n) (policy.baseDelay * 1000000) k) f := by
  obtain ⟨last, wait, hlast, hresult, hdeeds, hwait⟩ :=
    series_accounts peer request policy chances n (start policy) policy.maxAttempts
      (Nat.zero_add _)
  refine ⟨last, wait, hlast, hresult, hdeeds, fun k hk => ?_⟩
  obtain ⟨f, hf, hfwait⟩ := hwait k hk
  have hattempts : (start policy).attempts + k = k := Nat.zero_add k
  rw [hattempts] at hfwait
  exact ⟨f, hf, hfwait⟩

end Series

theorem waitAfter_le (policy : RetryPolicy) (chance : Float) (interval : Nat) (f : Failure) :
    waitAfter policy chance interval f ≤ policy.maxDelay * 1000000 :=
  Nat.min_le_right _ _

theorem waitAfter_of_hint {policy : RetryPolicy} {f : Failure} {seconds : Nat}
    (h : f.retryAfter = some seconds) (chance : Float) (interval : Nat) :
    waitAfter policy chance interval f =
      min (seconds * 1000000000) (policy.maxDelay * 1000000) := by
  rw [waitAfter, h]

theorem waitAfter_of_no_hint {policy : RetryPolicy} {f : Failure} (h : f.retryAfter = none)
    (hjitter : policy.jitter = false) (chance : Float) (interval : Nat) :
    waitAfter policy chance interval f = min interval (policy.maxDelay * 1000000) := by
  have hvaried : varied policy chance interval = interval := if_neg (by simp [hjitter])
  rw [waitAfter, h, hvaried]

/-- A request whose outcome is the one that the peer's status names. -/
def numbered (r : Request) (outcomes : Nat → Except Failure α) : Dialogue (Except Failure α) :=
  .ask r fun
    | .response answer => .done (outcomes answer.status)
    | .failed => .hang

/-- Every answer of this peer tells how many there were before. -/
def counting (n : Nat) (_ : Request) : Answer := .response { status := n, body := "" }

theorem outcome_numbered (r : Request) (outcomes : Nat → Except Failure α) (n k : Nat) :
    outcome counting (numbered r outcomes) n k = some (outcomes (n + k)) := by
  induction k generalizing n with
  | zero => rfl
  | succ k ih =>
    have hstart : n + (k + 1) = n + 1 + k := by omega
    rw [hstart]
    exact ih (n + 1)

/-- Whatever the tries come to, the request is made until one of them is final or no more are
allowed, and the last outcome is returned. No wait is longer than the policy's maximum. A wait that
the peer asks for is kept up to that, and without chance the others are the growing intervals. -/
theorem execute_accounts (policy : RetryPolicy) (chances : Nat → Float) :
    (∀ outcomes : Nat → Except Failure α, ∃ peer request, ∀ k,
      outcome peer request 0 k = some (outcomes k)) ∧
    (∀ (peer : Nat → Request → Answer) (request : Dialogue (Except Failure α)) (n : Nat),
      ∃ last wait, LastTry peer request policy.maxAttempts n last ∧
        ((execute policy chances request).run peer n).result = outcome peer request n last ∧
        (execute policy chances request).deeds peer n =
          inTurn (tryDeeds peer request n) wait last ∧
        ∀ k < last, ∃ f, outcome peer request n k = some (.error f) ∧
          wait k ≤ policy.maxDelay * 1000000 ∧
          (∀ seconds, f.retryAfter = some seconds →
            wait k = min (seconds * 1000000000) (policy.maxDelay * 1000000)) ∧
          (f.retryAfter = none → policy.jitter = false →
            wait k = min (intervalAfter policy (outcome peer request n)
              (policy.baseDelay * 1000000) k) (policy.maxDelay * 1000000))) ∧
    ∀ (chance : Float) (s : Retry) (f : Failure), ¬MayPass f →
      next policy chance s f = (none, s) := by
  refine ⟨fun outcomes => ?_, fun peer request n => ?_, fun chance s f hf => ?_⟩
  · let r : Request := ⟨{ scheme := "https", path := .whole "" }, []⟩
    refine ⟨counting, numbered r outcomes, fun k => ?_⟩
    rw [outcome_numbered, Nat.zero_add]
  · obtain ⟨last, wait, hlast, hresult, hdeeds, hwait⟩ :=
      execute_deeds peer request policy chances n
    refine ⟨last, wait, hlast, hresult, hdeeds, fun k hk => ?_⟩
    obtain ⟨f, hf, hfwait⟩ := hwait k hk
    refine ⟨f, hf, ?_, fun seconds hhint => ?_, fun hnone hjitter => ?_⟩
    · rw [hfwait]
      exact waitAfter_le ..
    · rw [hfwait]
      exact waitAfter_of_hint hhint ..
    · rw [hfwait]
      exact waitAfter_of_no_hint hnone hjitter ..
  · exact next_of_not_retryable chance (isRetryable_eq_false_iff.mpr hf)

end Retry

end SettingsCheck.Http
