import SettingsCheck.Remote.Challenge
import SettingsCheck.Remote.ZoneToken

namespace SettingsCheck.Remote

open Http (Dialogue Failure Client Response)

structure RegistryLogin where
  registry : String
  username : String
  password : String
  deriving DecidableEq, Repr

namespace RegistryLogin

def field (mapping : Mapping) (name : String) : Except String String :=
  match (mapping.get? name).bind Value.string? with
  | some s =>
    if s = "" then .error ("registry credentials need a non-empty '" ++ name ++ "'") else .ok s
  | none => .error ("registry credentials need a non-empty '" ++ name ++ "'")

def ofMapping (mapping : Mapping) : Except String RegistryLogin := do
  return ⟨← field mapping "registry", ← field mapping "username", ← field mapping "password"⟩

def ofValue (value : Value) : Except String RegistryLogin :=
  match value.mapping? with
  | some mapping => ofMapping mapping
  | none => .error "expected an object with registry, username, password"

/-- Where the registry is probed; it is taken to speak `https` unless it names a scheme. -/
def probeAddress (login : RegistryLogin) : Except String Url.Address :=
  let base :=
    if Text.holds login.registry "://" then login.registry else "https://" ++ login.registry
  let invalid (e : Url.UrlError) :=
    "invalid registry address '" ++ login.registry ++ "': " ++ e.message
  match Url.Address.parse (trimSlashes base ++ "/") with
  | .error e => .error (invalid e)
  | .ok address => match address.join "v2/" with
    | .error e => .error (invalid e)
    | .ok probe => .ok probe

def credentials (login : RegistryLogin) : Http.Credentials := .basic login.username login.password

/-- The reason when the registry does not take the login. -/
def rejection (login : RegistryLogin) : String :=
  "registry '" ++ login.registry ++ "' rejected the credentials for user '" ++ login.username ++ "'"

end RegistryLogin

structure TokenResponse where
  token : Option String
  accessToken : Option String

def TokenResponse.ofSource? (s : Source) : Option TokenResponse := do
  let r ← s.record? ["token", "access_token"]
  return ⟨← r.optional 0 Source.text?, ← r.optional 1 Source.text?⟩

namespace ImageRegistry

def describe (f : Failure) : String :=
  match f.kind with
  | .network => "could not reach registry: " ++ f.text
  | _ => "registry request failed: " ++ f.text

/-- The answer to a request with the login. -/
def expectAccepted (login : RegistryLogin) (r : Response) : Except String Unit :=
  if r.isSuccess then .ok ()
  else if r.status = 401 || r.status = 403 then .error login.rejection
  else .error (describe (.ofResponse r))

def answerBasic (client : Client) (login : RegistryLogin) (probe : Url.Address) :
    Dialogue (Except String Unit) :=
  (client.send probe (some login.credentials)).bind fun
    | .error f => .done (.error (describe f))
    | .ok r => .done (expectAccepted login r)

/-- Where a token is asked for. -/
def tokenAddress (login : RegistryLogin) (realm : Url.Address) (params : Fields String) :
    Url.Address :=
  let asked := ["service", "scope"].filterMap fun name => (params.get? name).map (name, ·)
  (asked ++ [("account", login.username)]).foldl
    (fun a (name, value) => a.addQuery name value) realm

/-- Whether a token was issued. -/
def issued (r : Response) : Except String Unit :=
  match (Source.ofJsonText? r.body).bind TokenResponse.ofSource? with
  | none =>
    .error "registry token endpoint returned an unexpected body: error decoding response body"
  | some t =>
    if (t.token <|> t.accessToken).getD "" = "" then
      .error "registry token endpoint did not issue a token"
    else .ok ()

def answerBearer (client : Client) (login : RegistryLogin) (realm : String)
    (params : Fields String) : Dialogue (Except String Unit) :=
  match Url.Address.parse realm with
  | .error e =>
    .done (.error ("registry sent an invalid token realm '" ++ realm ++ "': " ++ e.message))
  | .ok address =>
    (client.send (tokenAddress login address params) (some login.credentials)).bind fun
      | .error f => .done (.error (describe f))
      | .ok r =>
        .done (match expectAccepted login r with
          | .error reason => .error reason
          | .ok () => issued r)

def check (client : Client) (value : Value) : Dialogue (Except String Unit) :=
  match RegistryLogin.ofValue value with
  | .error reason => .done (.error reason)
  | .ok login => match login.probeAddress with
    | .error reason => .done (.error reason)
    | .ok probe => (client.send probe none).bind fun
      | .error f => .done (.error (describe f))
      | .ok r =>
        if r.isSuccess then .done (.ok ())
        else if r.status ≠ 401 then .done (.error (describe (.ofResponse r)))
        else match (r.header? "www-authenticate").bind Challenge.parse? with
          | some .basic => answerBasic client login probe
          | some (.bearer realm params) => answerBearer client login realm params
          | none =>
            .done (.error "registry returned 401 without a supported authentication challenge")

def precheck (value : Value) : Except String Unit := (RegistryLogin.ofValue value).map fun _ => ()

end ImageRegistry

end SettingsCheck.Remote
