import SettingsCheck.Remote.ImageRegistry

namespace SettingsCheck.Remote

open Http (ClientConfig)

structure RemoteConfig where
  cloudflareApiUrl : String := "https://api.cloudflare.com/client/v4/"
  /-- The top-level field with the domain that the token is checked for. -/
  domainField : String := "domain"
  client : ClientConfig := {}

namespace RemoteConfig

def ofSource? (s : Source) : Option RemoteConfig := do
  let r ← s.record? ["cloudflare_api_url", "domain_field", "client"]
  return {
    cloudflareApiUrl := ← r.withDefault 0 "https://api.cloudflare.com/client/v4/" Source.text?
    domainField := ← r.withDefault 1 "domain" Source.text?
    client := ← r.withDefault 2 {} ClientConfig.ofSource? }

def toJson (c : RemoteConfig) : Json :=
  .object [("cloudflare_api_url", .string c.cloudflareApiUrl),
    ("domain_field", .string c.domainField), ("client", c.client.toJson)]

end RemoteConfig

def verdict : Except String Unit → Verdict
  | .ok () => .accepted
  | .error reason => .refused reason

/-- A dialogue that ends with a verdict. -/
def judged (d : Http.Dialogue (Except String Unit)) : Http.Dialogue Verdict :=
  d.bind fun result => .done (verdict result)

def zoneTokenName : String := "cloudflare_api_token"

def imageRegistryName : String := "container_registry"

/-- The check of a token as a registry holds it. -/
def ZoneTokenCheck.entry (zone : ZoneTokenCheck) : Check :=
  .deferred (some fun site value => .ofExcept (zone.precheck site value))
    fun site value => judged (zone.check site value)

/-- The check of a login as a registry holds it. -/
def ImageRegistry.entry (client : Http.Client) : Check :=
  .deferred (some fun _ value => .ofExcept (ImageRegistry.precheck value))
    fun _ value => judged (ImageRegistry.check client value)

/-- Builds both checks and enters them. A step that fails leaves the registry as the steps before it
have made it. -/
def setUp (config : RemoteConfig) : EStateM Http.SetupError Registry Unit := do
  let client ← MonadExcept.ofExcept (Http.Client.ofConfig config.client)
  let zone ← MonadExcept.ofExcept
    (ZoneTokenCheck.ofConfig client config.cloudflareApiUrl config.domainField)
  modify (·.register zoneTokenName zone.entry)
  modify (·.register imageRegistryName (ImageRegistry.entry client))

/-- The registry with both checks in it. -/
def register (registry : Registry) (config : RemoteConfig) : Except Http.SetupError Registry :=
  match (setUp config).run registry with
  | .error e _ => .error e
  | .ok () after => .ok after

end SettingsCheck.Remote
