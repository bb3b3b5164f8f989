import SettingsCheck.Base64
import SettingsCheck.Http.Retry
import SettingsCheck.Source.Format

namespace SettingsCheck.Http

structure ClientConfig where
  requestTimeoutSecs : Nat := 8
  connectTimeoutSecs : Nat := 4
  retry : RetryPolicy := {}
  userAgent : String := "confgate/0.1.0"

def RetryPolicy.ofSource? (s : Source) : Option RetryPolicy := do
  let r ← s.record? ["max_attempts", "base_delay", "max_delay", "jitter", "multiplier"]
  return {
    maxAttempts := ← r.withDefault 0 2 (Source.below? (Nat.pow 2 32))
    baseDelay := ← r.withDefault 1 250 (Source.below? unsignedLimit)
    maxDelay := ← r.withDefault 2 2000 (Source.below? unsignedLimit)
    jitter := ← r.withDefault 3 true Source.bool?
    multiplier := ← r.withDefault 4 2 Source.number? }

def RetryPolicy.toJson (p : RetryPolicy) : Json :=
  .object [("max_attempts", .integer p.maxAttempts), ("base_delay", .integer p.baseDelay),
    ("max_delay", .integer p.maxDelay), ("jitter", .bool p.jitter),
    ("multiplier", .float p.multiplier)]

/-- Why a remote check cannot be set up. -/
inductive SetupError where
  | config (reason : String)
  /-- The client could not be built. -/
  | client
  | url (text : String) (error : Url.UrlError)
  deriving DecidableEq, Repr

def SetupError.message : SetupError → String
  | config reason => "invalid provider configuration: " ++ reason
  | client => "failed to create HTTP client: builder error"
  | url text error => "invalid URL '" ++ text ++ "': " ++ error.message

namespace ClientConfig

def ofSource? (s : Source) : Option ClientConfig := do
  let r ← s.record? ["request_timeout_secs", "connect_timeout_secs", "retry", "user_agent"]
  return {
    requestTimeoutSecs := ← r.withDefault 0 8 (Source.below? unsignedLimit)
    connectTimeoutSecs := ← r.withDefault 1 4 (Source.below? unsignedLimit)
    retry := ← r.withDefault 2 {} RetryPolicy.ofSource?
    userAgent := ← r.withDefault 3 "confgate/0.1.0" Source.text? }

def toJson (c : ClientConfig) : Json :=
  .object [("request_timeout_secs", .integer c.requestTimeoutSecs),
    ("connect_timeout_secs", .integer c.connectTimeoutSecs), ("retry", c.retry.toJson),
    ("user_agent", .string c.userAgent)]

def check (c : ClientConfig) : Except SetupError Unit :=
  if c.requestTimeoutSecs = 0 || c.connectTimeoutSecs = 0 then
    .error (.config "timeouts cannot be zero")
  else if c.requestTimeoutSecs < c.connectTimeoutSecs then
    .error (.config "request timeout should be >= connect timeout")
  else .ok ()

end ClientConfig

/-- Whether a text may stand in a header. -/
def isHeaderText (s : String) : Bool :=
  s.toList.all fun c => c == '\t' || (0x20 ≤ c.toNat && c.toNat ≠ 0x7F)

structure Client where
  retry : RetryPolicy
  /-- Where variation of waits comes from. -/
  chances : Nat → Float := fun _ => 0.5

def Client.ofConfig (c : ClientConfig) : Except SetupError Client :=
  match c.check with
  | .error e => .error e
  | .ok () => if isHeaderText c.userAgent then .ok { retry := c.retry } else .error .client

/-- A login, or a token. -/
inductive Credentials where
  | basic (username password : String)
  | bearer (token : String)
  deriving DecidableEq, Repr

def Credentials.header : Credentials → String
  | basic username password => "Basic " ++ Base64.encodeText (username ++ ":" ++ password)
  | bearer token => "Bearer " ++ token

/-- The text behind percent signs, if it is text. -/
def decoded? (s : String) : Option String :=
  String.fromUTF8? ⟨(Url.percentDecode (Url.utf8Bytes s)).toArray⟩

/-- An address without the login in it, and the header for that login. A name that is no text stays
where it is, and such a password counts as none. -/
def withoutLogin (address : Url.Address) : Url.Address × List String :=
  let password := if address.password = "" then none else decoded? address.password
  match decoded? address.username with
  | none => (address, [])
  | some username =>
    if username = "" && password.isNone then (address, [])
    else ({ address with username := "", password := "" },
      [(Credentials.basic username (password.getD "")).header])

/-- A request as it goes out. The header for a login in the address stands in front of the one with
the credentials. -/
def Request.build (address : Url.Address) (credentials : Option Credentials) :
    Except Failure Request :=
  let (bare, own) := withoutLogin address
  let given := (credentials.map Credentials.header).toList
  if !(given.all isHeaderText) then .error ⟨none, .unknown, "builder error", none⟩
  else if bare.scheme ≠ "http" && bare.scheme ≠ "https" then
    .error ⟨none, .unknown, "builder error for url (" ++ bare.text ++ ")", none⟩
  else .ok ⟨bare, own ++ given⟩

/-- One try, a single call of the client with the redirects that it follows. Network failures, 429
and the 500s are failures; any other response is an answer. -/
def tryOnce (address : Url.Address) (credentials : Option Credentials) :
    Dialogue (Except Failure Response) :=
  match Request.build address credentials with
  | .error f => .done (.error f)
  | .ok request => .ask request fun
    | .failed => .done (.error (.network request.address))
    | .response r =>
      if r.status = 429 || (500 ≤ r.status && r.status < 600) then .done (.error (.ofResponse r))
      else .done (.ok r)

namespace Client

def send (client : Client) (address : Url.Address) (credentials : Option Credentials) :
    Dialogue (Except Failure Response) :=
  Retry.execute client.retry client.chances (tryOnce address credentials)

/-- The body of a successful response, read as a record. -/
def decodeBody {α : Type} (read : Source → Option α) (r : Response) : Except Failure α :=
  if !r.isSuccess then .error (.ofResponse r)
  else match (Source.ofJsonText? r.body).bind read with
    | some a => .ok a
    | none => .error (.invalidResponse "unexpected response body: error decoding response body")

def getJson {α : Type} (client : Client) (read : Source → Option α) (address : Url.Address)
    (credentials : Option Credentials) : Dialogue (Except Failure α) :=
  (client.send address credentials).bind fun
    | .error f => .done (.error f)
    | .ok r => .done (decodeBody read r)

end Client

end SettingsCheck.Http
