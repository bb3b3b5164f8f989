import SettingsCheck.Proofs.Requests

namespace SettingsCheck.Http

namespace Dialogue

variable {α β : Type} {peer : Nat → Request → Answer}

/-- With this peer, which has answered `n` requests before, the dialogue makes these requests and
ends with this result. -/
structure Ends (peer : Nat → Request → Answer) (n : Nat) (d : Dialogue α) (result : α)
    (requests : List Request) : Prop where
  result : (d.run peer n).result = some result
  requests : (d.run peer n).requests = requests

namespace Ends

variable {n : Nat}

theorem done (a : α) : Ends peer n (.done a) a [] := ⟨rfl, rfl⟩

theorem ask {request : Request} {next : Answer → Dialogue α} {a : α} {requests : List Request}
    (h : Ends peer (n + 1) (next (peer n request)) a requests) :
    Ends peer n (.ask request next) a (request :: requests) :=
  ⟨h.result, congrArg (request :: ·) h.requests⟩

theorem pause {d : Dialogue α} {a : α} {requests : List Request} (t : Nat)
    (h : Ends peer n d a requests) : Ends peer n (.pause t d) a requests :=
  ⟨h.result, h.requests⟩

theorem bind {d : Dialogue α} {f : α → Dialogue β} {a : α} {b : β}
    {requests more : List Request} (hd : Ends peer n d a requests)
    (hf : Ends peer (n + requests.length) (f a) b more) :
    Ends peer n (d.bind f) b (requests ++ more) := by
  induction d generalizing n requests with
  | done a' =>
    obtain ⟨hresult, rfl⟩ := hd
    cases hresult
    exact hf
  | ask request next ih =>
    obtain ⟨hresult, rfl⟩ := hd
    refine ask (ih _ ⟨hresult, rfl⟩ ?_)
    rwa [run, List.length_cons, Nat.add_comm _ 1, ← Nat.add_assoc] at hf
  | pause t next ih =>
    obtain ⟨hresult, rfl⟩ := hd
    exact pause t (ih ⟨hresult, rfl⟩ hf)
  | hang => cases hd.result

theorem bind_done {d : Dialogue α} {f : α → Dialogue β} {a : α} {b : β} {requests : List Request}
    (hd : Ends peer n d a requests) (hf : f a = .done b) : Ends peer n (d.bind f) b requests := by
  have hend : Ends peer (n + requests.length) (f a) b [] := hf ▸ done b
  simpa using hd.bind hend

end Ends

end Dialogue

/-- The statuses that say to try again: 429 and the 500s. -/
def isTransient (status : Nat) : Bool := status = 429 || (500 ≤ status && status < 600)

theorem isRetryable_of_isTransient {status : Nat} (h : isTransient status = true) :
    (FailureKind.ofStatus status).isRetryable = true := by
  have hcases : status = 429 ∨ 500 ≤ status ∧ status < 600 := by simpa [isTransient] using h
  obtain rfl | ⟨hlow, hhigh⟩ := hcases
  · rfl
  · have hserver : FailureKind.ofStatus status = .server := by
      unfold FailureKind.ofStatus
      rw [if_neg (by simp; omega), if_neg (by omega), if_neg (by simp; omega),
        if_pos (by simp; omega)]
    rw [hserver]
    rfl

/-- A status of the 200s. -/
def Response.Succeeds (r : Response) : Prop := 200 ≤ r.status ∧ r.status < 300

theorem Response.isSuccess_iff {r : Response} : r.isSuccess = true ↔ r.Succeeds := by
  simp [isSuccess, Succeeds]

namespace Answer

def response? : Answer → Option Response
  | response r => some r
  | failed => none

/-- Neither a broken connection nor a status that says to try again. -/
def settles (a : Answer) : Bool := a.response?.any fun r => !isTransient r.status

end Answer

/-- What comes of a request: how often it is made, and the answer that settles it. -/
structure Exchange where
  tries : Nat
  answer : Option Response

/-- The exchange with a peer that has answered `n` requests before, if `repeats` tries may follow
the first one. -/
def exchange (peer : Nat → Request → Answer) (request : Request) (repeats n : Nat) : Exchange :=
  match (List.range (repeats + 1)).find? fun k => (peer (n + k) request).settles with
  | some k => ⟨k + 1, (peer (n + k) request).response?⟩
  | none => ⟨repeats + 1, none⟩

variable {peer : Nat → Request → Answer} {request : Request} {n : Nat}

theorem exchange_of_settles (h : (peer n request).settles = true) (repeats : Nat) :
    exchange peer request repeats n = ⟨1, (peer n request).response?⟩ := by
  have hfirst : (List.range (repeats + 1)).find? (fun k => (peer (n + k) request).settles) =
      some 0 := by
    rw [List.range_succ_eq_map]
    exact List.find?_cons_of_pos h
  rw [exchange, hfirst]
  rfl

theorem exchange_zero (h : (peer n request).settles = false) :
    exchange peer request 0 n = ⟨1, none⟩ := by
  simp [exchange, List.range_succ, h]

theorem exchange_succ (h : (peer n request).settles = false) (repeats : Nat) :
    exchange peer request (repeats + 1) n =
      ⟨(exchange peer request repeats (n + 1)).tries + 1,
        (exchange peer request repeats (n + 1)).answer⟩ := by
  have hrest : (List.range (repeats + 1 + 1)).find? (fun k => (peer (n + k) request).settles) =
      ((List.range (repeats + 1)).find? fun k =>
        (peer (n + 1 + k) request).settles).map (· + 1) := by
    rw [List.range_succ_eq_map, List.find?_cons_of_neg (by simp [h]), List.find?_map]
    simp only [Function.comp_def, Nat.add_assoc, Nat.add_comm 1]
  unfold exchange
  rw [hrest]
  cases (List.range (repeats + 1)).find? fun k => (peer (n + 1 + k) request).settles with
  | none => rfl
  | some k => simp [Nat.add_assoc, Nat.add_comm 1]

/-- What a try makes of its answer. -/
def tried (request : Request) : Answer → Except Failure Response
  | .failed => .error (.network request.address)
  | .response r => if isTransient r.status then .error (.ofResponse r) else .ok r

theorem tried_of_settles {a : Answer} (h : a.settles = true) :
    ∃ r, tried request a = .ok r ∧ a.response? = some r := by
  cases a with
  | failed => cases h
  | response r => exact ⟨r, if_neg (by simpa [Answer.settles, Answer.response?] using h), rfl⟩

theorem tried_of_not_settles {a : Answer} (h : a.settles = false) :
    ∃ f, tried request a = .error f ∧ f.kind.isRetryable = true := by
  cases a with
  | failed => exact ⟨_, rfl, rfl⟩
  | response r =>
    have hagain : isTransient r.status = true := by
      simpa [Answer.settles, Answer.response?] using h
    exact ⟨_, if_pos hagain, isRetryable_of_isTransient hagain⟩

section Series

variable {address : Url.Address} {credentials : Option Credentials}

theorem ends_tryOnce (hb : Request.build address credentials = .ok request) :
    (tryOnce address credentials).Ends peer n (tried request (peer n request)) [request] := by
  unfold tryOnce
  rw [hb]
  refine .ask ?_
  cases peer n request with
  | failed => exact .done _
  | response r =>
    by_cases hs : isTransient r.status = true
    · rw [tried, if_pos hs]
      unfold isTransient at hs
      simp only [if_pos hs]
      exact .done _
    · rw [tried, if_neg hs]
      unfold isTransient at hs
      simp only [if_neg hs]
      exact .done _

theorem ends_tryOnce_of_error {f : Failure} (hb : Request.build address credentials = .error f) :
    (tryOnce address credentials).Ends peer n (.error f) [] := by
  unfold tryOnce
  rw [hb]
  exact .done _

/-- A request that cannot be built is no reason to try again. -/
theorem not_isRetryable_of_build {f : Failure}
    (hb : Request.build address credentials = .error f) : f.kind.isRetryable = false := by
  unfold Request.build at hb
  simp only at hb
  split at hb
  · cases hb
    rfl
  · split at hb
    · cases hb
      rfl
    · cases hb

namespace Retry

variable {policy : RetryPolicy} {s : Retry} {f : Failure}

/-- The wait after a failure that is worth another try. -/
def waitAfter (policy : RetryPolicy) (chance : Float) (interval : Nat) (f : Failure) : Nat :=
  min (match f.retryAfter with
    | some seconds => seconds * 1000000000
    | none => varied policy chance interval) (policy.maxDelay * 1000000)

/-- After a failure that is worth another try, one more repeat is used up. -/
theorem next_of_retryable (chance : Float) (hleft : s.attempts < policy.maxAttempts)
    (hf : f.kind.isRetryable = true) :
    next policy chance s f = (some (waitAfter policy chance s.interval f),
      ⟨s.attempts + 1, if f.retryAfter.isNone then nextInterval policy s.interval
        else s.interval⟩) := by
  have hgo : ¬(policy.maxAttempts ≤ s.attempts || !f.kind.isRetryable) = true := by
    simp [hf, hleft]
  unfold next
  rw [if_neg hgo]
  cases hhint : f.retryAfter with
  | none => simp [waitAfter, maxInterval, hhint]
  | some seconds => simp [waitAfter, maxInterval, hhint]

theorem next_of_not_retryable (chance : Float) (hf : f.kind.isRetryable = false) :
    next policy chance s f = (none, s) := by
  unfold next
  rw [if_pos (by simp [hf])]

/-- A first answer that settles the request ends the series. -/
theorem ends_series_of_settles (chances : Nat → Float)
    (hb : Request.build address credentials = .ok request)
    (hsettles : (peer n request).settles = true) (repeats : Nat) :
    ∃ r, (peer n request).response? = some r ∧
      (series policy chances (tryOnce address credentials) repeats s).Ends peer n (.ok r)
        [request] := by
  obtain ⟨r, htried, hr⟩ := @tried_of_settles request _ hsettles
  have htry := @ends_tryOnce peer request n address credentials hb
  rw [htried] at htry
  refine ⟨r, hr, ?_⟩
  cases repeats with
  | zero => exact htry
  | succ repeats => exact htry.bind_done rfl

/-- A series of tries is the exchange of its request: it goes on while no answer settles the request
and a try is left. -/
theorem ends_series (chances : Nat → Float)
    (hb : Request.build address credentials = .ok request) (repeats : Nat)
    (hs : s.attempts + repeats = policy.maxAttempts) :
    ∃ result, (series policy chances (tryOnce address credentials) repeats s).Ends peer n result
        (List.replicate (exchange peer request repeats n).tries request) ∧
      ∀ r, result = .ok r ↔ (exchange peer request repeats n).answer = some r := by
  -- on the tries that are left; the state of the series counts those that were made
  induction repeats generalizing n s with
  | zero =>
    cases hsettles : (peer n request).settles with
    | true =>
      obtain ⟨r, hr, hends⟩ := ends_series_of_settles chances hb hsettles 0
      rw [exchange_of_settles hsettles, hr]
      exact ⟨.ok r, hends, by simp⟩
    | false =>
      obtain ⟨f, htried, _⟩ := @tried_of_not_settles request _ hsettles
      have htry := @ends_tryOnce peer request n address credentials hb
      rw [htried] at htry
      rw [exchange_zero hsettles]
      exact ⟨.error f, htry, by simp⟩
  | succ repeats ih =>
    cases hsettles : (peer n request).settles with
    | true =>
      obtain ⟨r, hr, hends⟩ := ends_series_of_settles chances hb hsettles (repeats + 1)
      rw [exchange_of_settles hsettles, hr]
      exact ⟨.ok r, hends, by simp⟩
    | false =>
      obtain ⟨f, htried, hf⟩ := @tried_of_not_settles request _ hsettles
      have htry := @ends_tryOnce peer request n address credentials hb
      rw [htried] at htry
      have hleft : s.attempts < policy.maxAttempts := by omega
      obtain ⟨result, hends, hiff⟩ := @ih (n + 1)
        ⟨s.attempts + 1, if f.retryAfter.isNone then nextInterval policy s.interval
          else s.interval⟩ (by simp only; omega)
      rw [exchange_succ hsettles]
      refine ⟨result, htry.bind ?_, hiff⟩
      simp only [next_of_retryable _ hleft hf]
      exact .pause _ hends

theorem ends_series_of_error (chances : Nat → Float) {f : Failure}
    (hb : Request.build address credentials = .error f) (repeats : Nat) :
    (series policy chances (tryOnce address credentials) repeats s).Ends peer n (.error f) [] := by
  have htry := @ends_tryOnce_of_error peer n address credentials f hb
  cases repeats with
  | zero => exact htry
  | succ repeats =>
    refine htry.bind_done ?_
    simp only [next_of_not_retryable _ (not_isRetryable_of_build hb)]

end Retry

end Series

namespace Client

variable (client : Client) {address : Url.Address} {credentials : Option Credentials}

theorem ends_send (hb : Request.build address credentials = .ok request) :
    ∃ result, (client.send address credentials).Ends peer n result
        (List.replicate (exchange peer request client.retry.maxAttempts n).tries request) ∧
      ∀ r, result = .ok r ↔
        (exchange peer request client.retry.maxAttempts n).answer = some r :=
  Retry.ends_series client.chances hb client.retry.maxAttempts (Nat.zero_add _)

theorem ends_send_of_error {f : Failure} (hb : Request.build address credentials = .error f) :
    (client.send address credentials).Ends peer n (.error f) [] :=
  Retry.ends_series_of_error client.chances hb client.retry.maxAttempts

/-- The requests that are made to an address with some headers; none if nothing can be sent. -/
def tries (peer : Nat → Request → Answer) (address : Url.Address) (headers : List String)
    (n : Nat) : List Request :=
  match requestTo address headers with
  | none => []
  | some request => List.replicate (exchange peer request client.retry.maxAttempts n).tries request

theorem authorization_of_mem_tries {headers : List String}
    (h : request ∈ client.tries peer address headers n) :
    request.authorization = (withoutLogin address).2 ++ headers := by
  unfold tries at h
  cases hto : requestTo address headers with
  | none => simp [hto] at h
  | some made =>
    simp only [hto] at h
    obtain rfl : request = made := List.eq_of_mem_replicate h
    exact authorization_of_requestTo hto

/-- The answer that settles the request, if one of its tries is answered so. -/
def finalAnswer (peer : Nat → Request → Answer) (address : Url.Address) (headers : List String)
    (n : Nat) : Option Response :=
  (requestTo address headers).bind fun request =>
    (exchange peer request client.retry.maxAttempts n).answer

theorem ends_send_tries (peer : Nat → Request → Answer) (address : Url.Address)
    (credentials : Option Credentials) (n : Nat) :
    let headers := (credentials.map Credentials.header).toList
    ∃ result, (client.send address credentials).Ends peer n result
        (client.tries peer address headers n) ∧
      ∀ r, result = .ok r ↔ client.finalAnswer peer address headers n = some r := by
  intro headers
  unfold tries finalAnswer
  cases hb : Request.build address credentials with
  | error f =>
    have hnone : requestTo address headers = none := requestTo_eq_none_iff.mpr ⟨f, hb⟩
    have hends := @ends_send_of_error peer n client address credentials f hb
    rw [hnone]
    exact ⟨.error f, hends, by simp⟩
  | ok request =>
    have hsome : requestTo address headers = some request := requestTo_eq_some_iff.mpr hb
    rw [hsome]
    exact client.ends_send hb

/-- Without credentials. -/
theorem ends_send_bare (peer : Nat → Request → Answer) (address : Url.Address) (n : Nat) :
    ∃ result, (client.send address none).Ends peer n result (client.tries peer address [] n) ∧
      ∀ r, result = .ok r ↔ client.finalAnswer peer address [] n = some r :=
  client.ends_send_tries peer address none n

theorem ends_send_login (peer : Nat → Request → Answer) (address : Url.Address)
    (username password : String) (n : Nat) :
    ∃ result, (client.send address (some (.basic username password))).Ends peer n result
        (client.tries peer address [loginHeader username password] n) ∧
      ∀ r, result = .ok r ↔
        client.finalAnswer peer address [loginHeader username password] n = some r :=
  client.ends_send_tries peer address (some (.basic username password)) n

theorem decodeBody_eq_ok_iff {α : Type} {read : Source → Option α} {r : Response} {a : α} :
    decodeBody read r = .ok a ↔
      r.Succeeds ∧ (Source.ofJsonText? r.body).bind read = some a := by
  unfold decodeBody
  rw [← Response.isSuccess_iff]
  cases r.isSuccess with
  | false => simp
  | true => cases (Source.ofJsonText? r.body).bind read <;> simp

theorem ends_getJson {α : Type} (read : Source → Option α)
    (hb : Request.build address credentials = .ok request) :
    ∃ result, (client.getJson read address credentials).Ends peer n result
        (List.replicate (exchange peer request client.retry.maxAttempts n).tries request) ∧
      ∀ a, result = .ok a ↔ ∃ r,
        (exchange peer request client.retry.maxAttempts n).answer = some r ∧
          r.Succeeds ∧ (Source.ofJsonText? r.body).bind read = some a := by
  obtain ⟨sent, hends, hiff⟩ := @ends_send peer request n client address credentials hb
  cases sent with
  | error f =>
    refine ⟨.error f, hends.bind_done rfl, fun a => ?_⟩
    simp [← hiff]
  | ok r =>
    refine ⟨decodeBody read r, hends.bind_done rfl, fun a => ?_⟩
    simp [← hiff, decodeBody_eq_ok_iff]

theorem ends_getJson_of_error {α : Type} (read : Source → Option α) {f : Failure}
    (hb : Request.build address credentials = .error f) :
    (client.getJson read address credentials).Ends peer n (.error f) [] :=
  (@ends_send_of_error peer n client address credentials f hb).bind_done rfl

end Client

end SettingsCheck.Http
