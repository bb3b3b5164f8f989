import SettingsCheck.Decimal.Reading
import SettingsCheck.Http.Dialogue
import SettingsCheck.Json.Reading

namespace SettingsCheck.Http

/-- The registered reason phrase of a status. -/
def reason? (status : Nat) : Option String :=
  [(100, "Continue"), (101, "Switching Protocols"), (102, "Processing"), (200, "OK"),
    (201, "Created"), (202, "Accepted"), (203, "Non Authoritative Information"),
    (204, "No Content"), (205, "Reset Content"), (206, "Partial Content"), (207, "Multi-Status"),
    (208, "Already Reported"), (226, "IM Used"), (300, "Multiple Choices"),
    (301, "Moved Permanently"), (302, "Found"), (303, "See Other"), (304, "Not Modified"),
    (305, "Use Proxy"), (307, "Temporary Redirect"), (308, "Permanent Redirect"),
    (400, "Bad Request"), (401, "Unauthorized"), (402, "Payment Required"), (403, "Forbidden"),
    (404, "Not Found"), (405, "Method Not Allowed"), (406, "Not Acceptable"),
    (407, "Proxy Authentication Required"), (408, "Request Timeout"), (409, "Conflict"),
    (410, "Gone"), (411, "Length Required"), (412, "Precondition Failed"),
    (413, "Payload Too Large"), (414, "URI Too Long"), (415, "Unsupported Media Type"),
    (416, "Range Not Satisfiable"), (417, "Expectation Failed"), (418, "I'm a teapot"),
    (421, "Misdirected Request"), (422, "Unprocessable Entity"), (423, "Locked"),
    (424, "Failed Dependency"), (425, "Too Early"), (426, "Upgrade Required"),
    (428, "Precondition Required"), (429, "Too Many Requests"),
    (431, "Request Header Fields Too Large"), (451, "Unavailable For Legal Reasons"),
    (500, "Internal Server Error"), (501, "Not Implemented"), (502, "Bad Gateway"),
    (503, "Service Unavailable"), (504, "Gateway Timeout"), (505, "HTTP Version Not Supported"),
    (506, "Variant Also Negotiates"), (507, "Insufficient Storage"), (508, "Loop Detected"),
    (510, "Not Extended"), (511, "Network Authentication Required")].lookup status

inductive FailureKind where
  | client
  | server
  | network
  | rateLimit
  | authentication
  /-- The response had a body that could not be used. -/
  | invalidResponse
  | unknown
  deriving DecidableEq, Repr

namespace FailureKind

def name : FailureKind → String
  | client => "ClientError"
  | server => "ServerError"
  | network => "NetworkError"
  | rateLimit => "RateLimitError"
  | authentication => "AuthenticationError"
  | invalidResponse => "InvalidResponse"
  | unknown => "Unknown"

def ofStatus (status : Nat) : FailureKind :=
  if status = 401 || status = 403 then authentication
  else if status = 429 then rateLimit
  else if 400 ≤ status && status < 500 then client
  else if 500 ≤ status && status < 600 then server
  else unknown

/-- Whether the same request may succeed later. -/
def isRetryable : FailureKind → Bool
  | server | network | rateLimit => true
  | _ => false

end FailureKind

structure Failure where
  status : Option Nat
  kind : FailureKind
  message : String
  /-- For how many seconds the peer asked to wait. -/
  retryAfter : Option Nat
  deriving DecidableEq, Repr

namespace Response

def isSuccess (r : Response) : Bool := 200 ≤ r.status && r.status < 300

/-- The first header of that name, if it is plain text. -/
def header? (r : Response) (name : String) : Option String := do
  let (_, value) ← r.headers.find? fun h => Text.lowerAscii h.1 == name
  if value.toList.all fun c => c == '\t' || (0x20 ≤ c.toNat && c.toNat < 0x7F) then some value
  else none

end Response

namespace Failure

/-- The message in the usual shapes of error bodies. -/
def bodyMessage? (body : String) : Option String := do
  let json ← Json.parse? body
  let first := do
    let errors ← (← json.get? "errors").array?
    (← (← errors.head?).get? "message").string?
  match first with
  | some message => some message
  | none =>
    match json.get? "message" with
    | some j => j.string?
    | none => (← json.get? "error").string?

def ofResponse (r : Response) : Failure where
  status := some r.status
  kind := .ofStatus r.status
  message := (bodyMessage? r.body).getD ((reason? r.status).getD "unexpected status")
  retryAfter := (r.header? "retry-after").bind unsigned64?

def invalidResponse (message : String) : Failure := ⟨none, .invalidResponse, message, none⟩

/-- No connection, or one that broke. -/
def network (address : Url.Address) : Failure :=
  ⟨none, .network, "error sending request for url (" ++ address.text ++ ")", none⟩

def text (f : Failure) : String :=
  match f.status with
  | some status => "HTTP " ++ toString status ++ ": " ++ f.message
  | none => f.message

end Failure

end SettingsCheck.Http
