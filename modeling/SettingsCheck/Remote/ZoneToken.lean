import SettingsCheck.Http.Client
import SettingsCheck.Registry

namespace SettingsCheck.Remote

open Http (Dialogue Failure Client)

/-- The zones that a domain may belong to, the most specific one first. -/
def zoneCandidates (domain : String) : List String :=
  let trimmed := Text.dropEndWhile (· == '.') domain.toList
  let labels := (Text.pieces (· == '.') trimmed).filter (!·.isEmpty)
  (List.range (labels.length - 1)).map fun start =>
    ".".intercalate ((labels.drop start).map String.ofList)

/-- The frame around every result of the API. -/
structure Envelope (α : Type) where
  success : Bool
  /-- The messages of the errors. -/
  errors : List String
  result : Option α

namespace Envelope

variable {α : Type}

def message? (s : Source) : Option String := do
  (← s.record? ["message"]).required 0 Source.text?

def ofSource? (read : Source → Option α) (s : Source) : Option (Envelope α) := do
  let r ← s.record? ["success", "errors", "result"]
  return ⟨← r.required 0 Source.bool?, ← r.withDefault 1 [] (Source.listOf? message?),
    ← r.optional 2 read⟩

/-- The result, if the request was successful and there is one. -/
def open? (e : Envelope α) (purpose : String) : Except String α :=
  if !e.success then
    .error (purpose ++ ": " ++ e.errors.head?.getD "request was not successful")
  else match e.result with
    | some a => .ok a
    | none => .error (purpose ++ ": response did not include a result")

end Envelope

structure Zone where
  id : String
  name : String
  deriving DecidableEq, Repr

def Zone.ofSource? (s : Source) : Option Zone := do
  let r ← s.record? ["id", "name"]
  return ⟨← r.required 0 Source.text?, ← r.required 1 Source.text?⟩

/-- A record with one text in it. -/
def oneText? (field : String) (s : Source) : Option String := do
  (← s.record? [field]).required 0 Source.text?

structure ZoneTokenCheck where
  client : Client
  api : Url.Address
  /-- The top-level field with the domain. -/
  domainField : String

/-- The text without slashes at its end. -/
def trimSlashes (s : String) : String := String.ofList (Text.dropEndWhile (· == '/') s.toList)

namespace ZoneTokenCheck

def ofConfig (client : Client) (apiUrl domainField : String) :
    Except Http.SetupError ZoneTokenCheck :=
  match Url.Address.parse (trimSlashes apiUrl ++ "/") with
  | .error e => .error (.url apiUrl e)
  | .ok api => .ok ⟨client, api, domainField⟩

def describe (purpose : String) (f : Failure) : String :=
  match f.kind with
  | .authentication => purpose ++ ": API token was rejected (" ++ f.text ++ ")"
  | .network => "could not reach the Cloudflare API: " ++ f.text
  | _ => purpose ++ ": " ++ f.text

/-- One request to the API; the result of its answer. -/
def request {α : Type} (c : ZoneTokenCheck) (token purpose path : String)
    (query : List (String × String)) (read : Source → Option α) : Dialogue (Except String α) :=
  match c.api.join path with
  | .error e => .done (.error ("invalid Cloudflare API path '" ++ path ++ "': " ++ e.message))
  | .ok address =>
    let address := query.foldl (fun a (name, value) => a.addQuery name value) address
    (c.client.getJson (Envelope.ofSource? read) address (some (.bearer token))).bind fun
      | .error f => .done (.error (describe purpose f))
      | .ok envelope => .done (envelope.open? purpose)

def verifyToken (c : ZoneTokenCheck) (token : String) : Dialogue (Except String Unit) :=
  (c.request token "token verification failed" "user/tokens/verify" [] (oneText? "status")).bind fun
    | .error reason => .done (.error reason)
    | .ok status =>
      .done (if status = "active" then .ok ()
        else .error ("API token is not active (status: " ++ status ++ ")"))

/-- Asks for one candidate after the other until one of them is a zone of the token. -/
def findZone (c : ZoneTokenCheck) (token domain : String) :
    List String → Dialogue (Except String Zone)
  | [] => .done (.error ("no zone for domain '" ++ domain ++ "' is accessible with this API token"))
  | candidate :: rest =>
    (c.request token "zone lookup failed" "zones" [("name", candidate)]
      (Source.listOf? Zone.ofSource?)).bind fun
      | .error reason => .done (.error reason)
      | .ok zones => match zones.find? (·.name == candidate) with
        | some zone => .done (.ok zone)
        | none => findZone c token domain rest

def acceptedModes : List String := ["full", "strict"]

def checkEncryption (c : ZoneTokenCheck) (token : String) (zone : Zone) :
    Dialogue (Except String Unit) :=
  (c.request token "reading SSL settings failed" ("zones/" ++ zone.id ++ "/settings/ssl") []
    (oneText? "value")).bind fun
    | .error reason => .done (.error reason)
    | .ok mode =>
      .done (if acceptedModes.contains mode then .ok ()
        else .error ("zone '" ++ zone.name ++ "' uses SSL mode '" ++ mode ++
          "'; expected one of " ++ Text.joinWith ", " acceptedModes))

/-- Whether it is worth asking: a token that is not blank, and a domain. -/
def precheck (c : ZoneTokenCheck) (site : Site) (value : Value) : Except String Unit :=
  if (value.string?.map Text.trim).getD "" = "" then .error "API token must be a non-empty string"
  else if ((site.root.get? c.domainField).bind Value.string?).getD "" = "" then
    .error ("top-level field '" ++ c.domainField ++ "' is required to verify the API token")
  else .ok ()

def check (c : ZoneTokenCheck) (site : Site) (value : Value) : Dialogue (Except String Unit) :=
  match value.string? with
  | none => .done (.error "API token must be a string")
  | some token => match (site.root.get? c.domainField).bind Value.string? with
    | none => .done (.error ("top-level field '" ++ c.domainField ++ "' is missing"))
    | some domain => (c.verifyToken token).bind fun
      | .error reason => .done (.error reason)
      | .ok () => (c.findZone token domain (zoneCandidates domain)).bind fun
        | .error reason => .done (.error reason)
        | .ok zone => c.checkEncryption token zone

end ZoneTokenCheck

end SettingsCheck.Remote
