import SettingsCheck.Proofs.Tries
import SettingsCheck.Remote.ZoneToken

namespace SettingsCheck.Remote

open Http (Request Response Answer Dialogue Client exchange requestTo
  authorization_of_requestTo withPairs)

/-- A call to the API: its request, unless none can be made, and how its result is read. -/
structure Call (α : Type) where
  request? : Option Request
  read : Source → Option α

namespace Call

variable {α : Type} (peer : Nat → Request → Answer) (repeats n : Nat)

/-- The tries of the call with a peer that has answered `n` requests before. -/
def made (call : Call α) : List Request :=
  match call.request? with
  | none => []
  | some request => List.replicate (exchange peer request repeats n).tries request

/-- The answer of the call is a success with this result. -/
def Good (call : Call α) (a : α) : Prop :=
  ∃ request r errors, call.request? = some request ∧
    (exchange peer request repeats n).answer = some r ∧ r.Succeeds ∧
    (Source.ofJsonText? r.body).bind (Envelope.ofSource? call.read) = some ⟨true, errors, some a⟩

variable {peer repeats n}

theorem Good.unique {call : Call α} {a b : α} (ha : call.Good peer repeats n a)
    (hb : call.Good peer repeats n b) : a = b := by
  obtain ⟨_, _, _, hrequest, hanswer, _, hread⟩ := ha
  obtain ⟨_, _, _, hrequest', hanswer', _, hread'⟩ := hb
  cases hrequest.symm.trans hrequest'
  cases hanswer.symm.trans hanswer'
  cases hread.symm.trans hread'
  rfl

end Call

theorem Envelope.open?_eq_ok_iff {α : Type} {e : Envelope α} {purpose : String} {a : α} :
    e.open? purpose = .ok a ↔ ∃ errors, e = ⟨true, errors, some a⟩ := by
  obtain ⟨success, errors, result⟩ := e
  cases success with
  | false => simp [Envelope.open?]
  | true => cases result <;> simp [Envelope.open?]

namespace ZoneTokenCheck

variable (c : ZoneTokenCheck) (peer : Nat → Request → Answer) (token : String)

/-- The request of a call to the API, with the token in its header. There is none if its address
cannot be joined, or if the token may not stand in a header. -/
def request? (path : String) (query : List (String × String)) : Option Request :=
  (c.api.join path).toOption.bind fun address =>
    requestTo (withPairs address query) ["Bearer " ++ token]

/-- The last header of the request holds the token. -/
def Bears (token : String) (request : Request) : Prop :=
  ∃ own, request.authorization = own ++ ["Bearer " ++ token]

theorem bears_of_mem_made {α : Type} {path : String} {query : List (String × String)}
    {read : Source → Option α} {repeats n : Nat} {request : Request}
    (h : request ∈ (⟨c.request? token path query, read⟩ : Call α).made peer repeats n) :
    Bears token request := by
  unfold Call.made at h
  cases hrequest : c.request? token path query with
  | none => simp [hrequest] at h
  | some made =>
    simp only [hrequest] at h
    obtain rfl : request = made := List.eq_of_mem_replicate h
    obtain ⟨address, -, hmade⟩ := Option.bind_eq_some_iff.mp hrequest
    exact ⟨_, authorization_of_requestTo hmade⟩

theorem ends_request {α : Type} (purpose path : String) (query : List (String × String))
    (read : Source → Option α) (n : Nat) :
    let call : Call α := ⟨c.request? token path query, read⟩
    ∃ result, (c.request token purpose path query read).Ends peer n result
        (call.made peer c.client.retry.maxAttempts n) ∧
      ∀ a, result = .ok a ↔ call.Good peer c.client.retry.maxAttempts n a := by
  intro call
  unfold request
  cases hjoin : c.api.join path with
  | error e =>
    have hnone : call.request? = none := by simp [call, request?, hjoin, Except.toOption]
    refine ⟨.error ("invalid Cloudflare API path '" ++ path ++ "': " ++ e.message), ?_, fun a => ?_⟩
    · rw [Call.made, hnone]
      exact .done _
    · simp [Call.Good, hnone]
  | ok address =>
    obtain ⟨target, htarget⟩ : ∃ target, target = withPairs address query := ⟨_, rfl⟩
    have hcall : call.request? = requestTo target ["Bearer " ++ token] := by
      simp only [call, request?, hjoin, Except.toOption, Option.bind_some, htarget]
    simp only
    rw [← withPairs, ← htarget]
    cases hb : Request.build target (some (.bearer token)) with
    | error f =>
      have hnone : call.request? = none := hcall.trans (Http.requestTo_eq_none_iff.mpr ⟨f, hb⟩)
      have hends := @Client.ends_getJson_of_error peer n c.client target _ _
        (Envelope.ofSource? read) f hb
      refine ⟨.error (describe purpose f), ?_, fun a => ?_⟩
      · rw [Call.made, hnone]
        exact hends.bind_done rfl
      · simp [Call.Good, hnone]
    | ok request =>
      have hsome : call.request? = some request :=
        hcall.trans (Http.requestTo_eq_some_iff.mpr hb)
      obtain ⟨read?, hends, hiff⟩ := @Client.ends_getJson peer request n c.client target _ _
        (Envelope.ofSource? read) hb
      have hgood : ∀ a, call.Good peer c.client.retry.maxAttempts n a ↔
          ∃ errors, read? = .ok ⟨true, errors, some a⟩ := by
        intro a
        simp only [hiff]
        constructor
        · rintro ⟨q, r, errors, hq, hanswer, hsuccess, hread⟩
          cases hsome.symm.trans hq
          exact ⟨errors, r, hanswer, hsuccess, hread⟩
        · rintro ⟨errors, r, hanswer, hsuccess, hread⟩
          exact ⟨request, r, errors, hsome, hanswer, hsuccess, hread⟩
      rw [Call.made, hsome]
      cases read? with
      | error f =>
        refine ⟨.error (describe purpose f), hends.bind_done rfl, fun a => ?_⟩
        simp [hgood]
      | ok envelope =>
        refine ⟨envelope.open? purpose, hends.bind_done rfl, fun a => ?_⟩
        rw [hgood, Envelope.open?_eq_ok_iff]
        simp

def verification : Call String :=
  ⟨c.request? token "user/tokens/verify" [], oneText? "status"⟩

def lookup (candidate : String) : Call (List Zone) :=
  ⟨c.request? token "zones" [("name", candidate)], Source.listOf? Zone.ofSource?⟩

def encryption (zone : Zone) : Call String :=
  ⟨c.request? token ("zones/" ++ zone.id ++ "/settings/ssl") [], oneText? "value"⟩

section Search

variable (start : Nat) (candidates : List String)

/-- The requests of the first `k` lookups, each made after the tries of those before it. -/
def lookups : Nat → List Request
  | 0 => []
  | k + 1 => match candidates[k]? with
    | none => lookups k
    | some candidate => lookups k ++
      (c.lookup token candidate).made peer c.client.retry.maxAttempts (start + (lookups k).length)

/-- The lookup of a candidate is good and lists these zones. -/
def Lists (k : Nat) (candidate : String) (zones : List Zone) : Prop :=
  candidates[k]? = some candidate ∧ (c.lookup token candidate).Good peer c.client.retry.maxAttempts
    (start + (c.lookups peer token start candidates k).length) zones

/-- The lookup is good, and no zone that it lists has the name of the candidate. -/
def Misses (k : Nat) : Prop :=
  ∃ candidate zones, c.Lists peer token start candidates k candidate zones ∧
    ∀ zone ∈ zones, zone.name ≠ candidate

/-- The lookup is good, and this is the first zone with the name of the candidate. -/
def Finds (k : Nat) (zone : Zone) : Prop :=
  ∃ candidate zones, c.Lists peer token start candidates k candidate zones ∧
    zones.find? (·.name == candidate) = some zone

/-- How the search for the zone goes: what it finds, and which requests it makes. -/
inductive Searched : Option Zone → List Request → Prop
  | exhausted :
    (∀ i < candidates.length, c.Misses peer token start candidates i) →
    Searched none (c.lookups peer token start candidates candidates.length)
  | failed {k : Nat} :
    (∀ i < k, c.Misses peer token start candidates i) → k < candidates.length →
    (∀ candidate zones, ¬c.Lists peer token start candidates k candidate zones) →
    Searched none (c.lookups peer token start candidates (k + 1))
  | found {k : Nat} {zone : Zone} :
    (∀ i < k, c.Misses peer token start candidates i) →
    c.Finds peer token start candidates k zone →
    Searched (some zone) (c.lookups peer token start candidates (k + 1))

variable {c peer token start candidates}

theorem Lists.unique {k : Nat} {a b : String} {zones others : List Zone}
    (h : c.Lists peer token start candidates k a zones)
    (h' : c.Lists peer token start candidates k b others) : a = b ∧ zones = others := by
  obtain ⟨hk, hgood⟩ := h
  obtain ⟨hk', hgood'⟩ := h'
  cases hk.symm.trans hk'
  exact ⟨rfl, hgood.unique hgood'⟩

theorem Misses.not_finds {k : Nat} (h : c.Misses peer token start candidates k) (zone : Zone) :
    ¬c.Finds peer token start candidates k zone := by
  rintro ⟨candidate, zones, hlists, hfind⟩
  obtain ⟨other, others, hlists', hnone⟩ := h
  obtain ⟨rfl, rfl⟩ := hlists.unique hlists'
  have hname := List.find?_some hfind
  exact hnone zone (List.mem_of_find?_eq_some hfind) (by simpa using hname)

theorem Finds.unique {k : Nat} {zone other : Zone} (h : c.Finds peer token start candidates k zone)
    (h' : c.Finds peer token start candidates k other) : zone = other := by
  obtain ⟨_, _, hlists, hfind⟩ := h
  obtain ⟨_, _, hlists', hfind'⟩ := h'
  obtain ⟨rfl, rfl⟩ := hlists.unique hlists'
  exact Option.some.inj (hfind.symm.trans hfind')

theorem Finds.lt_length {k : Nat} {zone : Zone} (h : c.Finds peer token start candidates k zone) :
    k < candidates.length := by
  obtain ⟨_, _, ⟨hk, _⟩, _⟩ := h
  exact (List.getElem?_eq_some_iff.mp hk).1

/-- A search has one end. -/
theorem Searched.of_finds {k : Nat} {zone : Zone} {result : Option Zone} {requests : List Request}
    (h : c.Searched peer token start candidates result requests)
    (hmisses : ∀ i < k, c.Misses peer token start candidates i)
    (hfinds : c.Finds peer token start candidates k zone) :
    result = some zone ∧ requests = c.lookups peer token start candidates (k + 1) := by
  cases h with
  | exhausted hall => exact absurd hfinds ((hall k hfinds.lt_length).not_finds zone)
  | @failed j hmisses' _ hfails =>
    rcases Nat.lt_trichotomy j k with hlt | rfl | hgt
    · obtain ⟨_, _, hlists, _⟩ := hmisses j hlt
      exact absurd hlists (hfails _ _)
    · obtain ⟨_, _, hlists, _⟩ := hfinds
      exact absurd hlists (hfails _ _)
    · exact absurd hfinds ((hmisses' k hgt).not_finds zone)
  | @found j other hmisses' hfinds' =>
    rcases Nat.lt_trichotomy j k with hlt | rfl | hgt
    · exact absurd hfinds' ((hmisses j hlt).not_finds other)
    · exact ⟨congrArg some (hfinds'.unique hfinds), rfl⟩
    · exact absurd hfinds ((hmisses' k hgt).not_finds zone)

theorem lookups_succ {k : Nat} {candidate : String} (hk : candidates[k]? = some candidate) :
    c.lookups peer token start candidates (k + 1) = c.lookups peer token start candidates k ++
      (c.lookup token candidate).made peer c.client.retry.maxAttempts
        (start + (c.lookups peer token start candidates k).length) := by
  rw [lookups, hk]

theorem bears_of_mem_lookups (k : Nat) :
    ∀ request ∈ c.lookups peer token start candidates k, Bears token request := by
  induction k with
  | zero => exact nofun
  | succ k ih =>
    cases hk : candidates[k]? with
    | none =>
      rw [lookups, hk]
      exact ih
    | some candidate =>
      rw [lookups_succ hk, List.forall_mem_append]
      exact ⟨ih, fun _ => c.bears_of_mem_made peer token⟩

theorem Searched.bears {result : Option Zone} {requests : List Request}
    (h : c.Searched peer token start candidates result requests) :
    ∀ request ∈ requests, Bears token request := by
  cases h <;> exact bears_of_mem_lookups _

theorem ends_lookup (candidate : String) (n : Nat) :
    ∃ result, (c.request token "zone lookup failed" "zones" [("name", candidate)]
        (Source.listOf? Zone.ofSource?)).Ends peer n result
        ((c.lookup token candidate).made peer c.client.retry.maxAttempts n) ∧
      ∀ zones, result = .ok zones ↔
        (c.lookup token candidate).Good peer c.client.retry.maxAttempts n zones :=
  c.ends_request peer token _ _ _ _ n

/-- From any candidate on, if those before it were missed. -/
theorem ends_findZone_drop (domain : String) {k : Nat} (hk : k ≤ candidates.length)
    (hmisses : ∀ i < k, c.Misses peer token start candidates i) :
    ∃ result zone? more, (c.findZone token domain (candidates.drop k)).Ends peer
        (start + (c.lookups peer token start candidates k).length) result more ∧
      c.Searched peer token start candidates zone?
        (c.lookups peer token start candidates k ++ more) ∧
      ∀ zone, result = .ok zone ↔ zone? = some zone := by
  -- on the number of candidates that are left
  induction hn : candidates.length - k generalizing k with
  | zero =>
    obtain rfl : k = candidates.length := by omega
    rw [List.drop_length]
    refine ⟨_, none, [], .done _, ?_, by simp⟩
    rw [List.append_nil]
    exact .exhausted hmisses
  | succ left ih =>
    have hlt : k < candidates.length := by omega
    have hget : candidates[k]? = some candidates[k] := List.getElem?_eq_getElem hlt
    obtain ⟨result, hends, hgood⟩ := @ends_lookup c peer token candidates[k]
      (start + (c.lookups peer token start candidates k).length)
    have hnext : c.lookups peer token start candidates (k + 1) = _ := lookups_succ hget
    rw [List.drop_eq_getElem_cons hlt, findZone]
    cases result with
    | error reason =>
      refine ⟨.error reason, none, _, hends.bind_done rfl, ?_, by simp⟩
      rw [← hnext]
      refine .failed hmisses hlt ?_
      rintro candidate zones ⟨hcandidate, hzones⟩
      cases hget.symm.trans hcandidate
      exact absurd ((hgood zones).mpr hzones) (by simp)
    | ok zones =>
      have hlists : c.Lists peer token start candidates k candidates[k] zones :=
        ⟨hget, (hgood zones).mp rfl⟩
      cases hfind : zones.find? (·.name == candidates[k]) with
      | some zone =>
        refine ⟨.ok zone, some zone, _, hends.bind_done (by simp only [hfind]), ?_, by simp⟩
        rw [← hnext]
        exact .found hmisses ⟨_, zones, hlists, hfind⟩
      | none =>
        have hmiss : c.Misses peer token start candidates k := by
          refine ⟨_, zones, hlists, fun zone hz => ?_⟩
          simpa using List.find?_eq_none.mp hfind zone hz
        have hmisses' : ∀ i < k + 1, c.Misses peer token start candidates i := by
          intro i hi
          rcases Nat.lt_or_eq_of_le (Nat.le_of_lt_succ hi) with hi | rfl
          · exact hmisses i hi
          · exact hmiss
        obtain ⟨result, zone?, more, hrest, hsearched, hiff⟩ := @ih (k + 1) hlt hmisses' (by omega)
        rw [hnext, List.append_assoc] at hsearched
        rw [hnext, List.length_append, ← Nat.add_assoc] at hrest
        exact ⟨result, zone?, _, hends.bind (by simpa only [hfind] using hrest), hsearched, hiff⟩

theorem ends_findZone (domain : String) :
    ∃ result zone? requests, (c.findZone token domain candidates).Ends peer start result requests ∧
      c.Searched peer token start candidates zone? requests ∧
      ∀ zone, result = .ok zone ↔ zone? = some zone :=
  ends_findZone_drop domain (Nat.zero_le _) (by simp)

end Search

section Whole

variable (n : Nat) (domain : String)

/-- The requests of the first call. -/
def verifying : List Request :=
  (c.verification token).made peer c.client.retry.maxAttempts n

def Verified : Prop :=
  (c.verification token).Good peer c.client.retry.maxAttempts n "active"

/-- The zone is said to encrypt the way to the origin. -/
def Encrypted (zone : Zone) : Prop :=
  ∃ mode, (mode = "full" ∨ mode = "strict") ∧
    (c.encryption token zone).Good peer c.client.retry.maxAttempts n mode

/-- How a check goes: whether it accepts, and which requests it makes. -/
inductive Proceeds : Bool → List Request → Prop
  | unverified : ¬c.Verified peer token n → Proceeds false (c.verifying peer token n)
  | unlisted {requests : List Request} :
    c.Verified peer token n →
    c.Searched peer token (n + (c.verifying peer token n).length) (zoneCandidates domain) none
      requests →
    Proceeds false (c.verifying peer token n ++ requests)
  | judged {zone : Zone} {requests : List Request} {accepted : Bool} :
    c.Verified peer token n →
    c.Searched peer token (n + (c.verifying peer token n).length) (zoneCandidates domain)
      (some zone) requests →
    (accepted = true ↔ c.Encrypted peer token
      (n + (c.verifying peer token n).length + requests.length) zone) →
    Proceeds accepted (c.verifying peer token n ++ (requests ++
      (c.encryption token zone).made peer c.client.retry.maxAttempts
        (n + (c.verifying peer token n).length + requests.length)))

variable {c peer token n domain}

theorem ends_verifyToken :
    ∃ result, (c.verifyToken token).Ends peer n result (c.verifying peer token n) ∧
      (result = .ok () ↔ c.Verified peer token n) := by
  obtain ⟨result, hends, hgood⟩ := c.ends_request peer token "token verification failed"
    "user/tokens/verify" [] (oneText? "status") n
  have hactive : result = .ok "active" ↔ c.Verified peer token n := hgood "active"
  unfold verifyToken
  cases result with
  | error reason =>
    refine ⟨.error reason, hends.bind_done rfl, ?_⟩
    simp [← hactive]
  | ok status =>
    refine ⟨_, hends.bind_done rfl, ?_⟩
    rw [← hactive]
    by_cases hs : status = "active" <;> simp [hs]

theorem ends_checkEncryption {zone : Zone} :
    ∃ result, (c.checkEncryption token zone).Ends peer n result
        ((c.encryption token zone).made peer c.client.retry.maxAttempts n) ∧
      (result = .ok () ↔ c.Encrypted peer token n zone) := by
  obtain ⟨result, hends, hgood⟩ := c.ends_request peer token "reading SSL settings failed"
    ("zones/" ++ zone.id ++ "/settings/ssl") [] (oneText? "value") n
  have hencrypted : c.Encrypted peer token n zone ↔
      ∃ mode, (mode = "full" ∨ mode = "strict") ∧ result = .ok mode :=
    exists_congr fun mode => and_congr_right fun _ => (hgood mode).symm
  rw [hencrypted]
  unfold checkEncryption
  cases result with
  | error reason =>
    refine ⟨.error reason, hends.bind_done rfl, ?_⟩
    simp
  | ok mode =>
    refine ⟨_, hends.bind_done rfl, ?_⟩
    by_cases hm : mode = "full" ∨ mode = "strict" <;> simp [acceptedModes, hm]

theorem ends_check {site : Site}
    (hdomain : (site.root.get? c.domainField).bind Value.string? = some domain) :
    ∃ result accepted requests, (c.check site (.string token)).Ends peer n result requests ∧
      c.Proceeds peer token n domain accepted requests ∧ (result = .ok () ↔ accepted = true) := by
  obtain ⟨verified, hverify, hverified⟩ := @ends_verifyToken c peer token n
  unfold check
  simp only [Value.string?, hdomain]
  cases verified with
  | error reason =>
    refine ⟨.error reason, false, _, hverify.bind_done rfl, .unverified ?_, by simp⟩
    simp [← hverified]
  | ok verified =>
    have hactive : c.Verified peer token n := hverified.mp rfl
    obtain ⟨found, zone?, searching, hfind, hsearched, hfound⟩ :=
      @ends_findZone c peer token (n + (c.verifying peer token n).length) (zoneCandidates domain)
        domain
    cases found with
    | error reason =>
      have hnone : zone? = none := by
        cases zone? with
        | none => rfl
        | some zone => exact absurd ((hfound zone).mpr rfl) (by simp)
      rw [hnone] at hsearched
      exact ⟨.error reason, false, _, hverify.bind (hfind.bind_done rfl),
        .unlisted hactive hsearched, by simp⟩
    | ok zone =>
      rw [(hfound zone).mp rfl] at hsearched
      obtain ⟨result, hencryption, hiff⟩ := @ends_checkEncryption c peer token
        (n + (c.verifying peer token n).length + searching.length) zone
      have hok : result = .ok () ↔ result.toBool = true := by
        cases result <;> simp [Except.toBool]
      exact ⟨result, result.toBool, _, hverify.bind (hfind.bind hencryption),
        .judged hactive hsearched (hok.symm.trans hiff), hok⟩

/-- A check accepts if its token is verified, and if the first candidate that a lookup does not miss
is found and has its encryption on. -/
theorem Proceeds.accepted_iff {accepted : Bool} {requests : List Request}
    (h : c.Proceeds peer token n domain accepted requests) :
    accepted = true ↔ c.Verified peer token n ∧ ∃ j zone,
      (∀ i < j, c.Misses peer token (n + (c.verifying peer token n).length)
        (zoneCandidates domain) i) ∧
      c.Finds peer token (n + (c.verifying peer token n).length) (zoneCandidates domain) j zone ∧
      c.Encrypted peer token (n + (c.verifying peer token n).length +
        (c.lookups peer token (n + (c.verifying peer token n).length) (zoneCandidates domain)
          (j + 1)).length) zone := by
  cases h with
  | unverified hno => simp [hno]
  | unlisted _ hsearched =>
    refine ⟨by simp, ?_⟩
    rintro ⟨_, j, zone, hmisses, hfinds, _⟩
    cases (hsearched.of_finds hmisses hfinds).1
  | judged hactive hsearched hiff =>
    rw [hiff]
    constructor
    · intro hencrypted
      cases hsearched with
      | found hmisses hfinds => exact ⟨hactive, _, _, hmisses, hfinds, hencrypted⟩
    · rintro ⟨_, j, zone, hmisses, hfinds, hencrypted⟩
      obtain ⟨hzone, rfl⟩ := hsearched.of_finds hmisses hfinds
      cases hzone
      exact hencrypted

theorem Proceeds.bears {accepted : Bool} {requests : List Request}
    (h : c.Proceeds peer token n domain accepted requests) :
    ∀ request ∈ requests, Bears token request := by
  have hverifying : ∀ request ∈ c.verifying peer token n, Bears token request :=
    fun _ => c.bears_of_mem_made peer token
  cases h with
  | unverified => exact hverifying
  | unlisted _ hsearched => exact List.forall_mem_append.mpr ⟨hverifying, hsearched.bears⟩
  | judged _ hsearched _ =>
    rw [List.forall_mem_append, List.forall_mem_append]
    exact ⟨hverifying, hsearched.bears, fun _ => c.bears_of_mem_made peer token⟩

end Whole

end ZoneTokenCheck

namespace Sample

def zoneCheck : ZoneTokenCheck where
  client := { retry := {} }
  api := { scheme := "https", host := some (.name "api.test"), path := .segments ["v4", ""] }
  domainField := "domain"

def site : Site := ⟨.mapping [("domain", .string "app.example.org")], [], .root⟩

def success (result : String) : Answer :=
  .response { status := 200, body := "\x7b\"success\":true,\"result\":" ++ result ++ "\x7d" }

def parentZone : Answer := success "[\x7b\"id\":\"7\",\"name\":\"example.org\"\x7d]"

/-- The first try breaks, the domain itself is no zone, and the lookup of its parent is repeated. -/
def answers : List Answer :=
  [.failed, success "\x7b\"status\":\"active\"\x7d", parentZone,
    .response { status := 503, body := "" }, parentZone, success "\x7b\"value\":\"strict\"\x7d"]

def peer (n : Nat) (_ : Request) : Answer := answers[n]?.getD .failed

end Sample

end SettingsCheck.Remote
