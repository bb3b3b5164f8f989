import SettingsCheck.Proofs.Trimming
import SettingsCheck.Remote.Setup

namespace SettingsCheck

theorem Registry.get?_register (registry : Registry) (name other : String) (check : Check) :
    (registry.register name check).get? other =
      if other = name then some check else registry.get? other :=
  Fields.get?_insert name other check registry.checks

namespace Remote

open Http (Client ClientConfig SetupError isHeaderText)

variable {config : RemoteConfig} {registry : Registry}

/-- The registry with two checks under the names of the remote ones. -/
def withBoth (registry : Registry) (client : Client) (zone : ZoneTokenCheck) : Registry :=
  (registry.register zoneTokenName zone.entry).register imageRegistryName
    (ImageRegistry.entry client)

section Both

variable (registry : Registry) (client : Client) (zone : ZoneTokenCheck)

theorem get?_withBoth_zoneToken :
    (withBoth registry client zone).get? zoneTokenName = some zone.entry := by
  have hnames : zoneTokenName ≠ imageRegistryName := by decide
  rw [withBoth, Registry.get?_register, if_neg hnames, Registry.get?_register, if_pos rfl]

theorem get?_withBoth_imageRegistry :
    (withBoth registry client zone).get? imageRegistryName =
      some (ImageRegistry.entry client) := by
  rw [withBoth, Registry.get?_register, if_pos rfl]

theorem get?_withBoth_other {name : String} (hzone : name ≠ zoneTokenName)
    (himage : name ≠ imageRegistryName) :
    (withBoth registry client zone).get? name = registry.get? name := by
  rw [withBoth, Registry.get?_register, if_neg himage, Registry.get?_register, if_neg hzone]

end Both

/-- A step that may fail is followed by the others just if it succeeds. -/
theorem run_ofExcept_bind {ε σ α β : Type} (x : Except ε α) (f : α → EStateM ε σ β) (s : σ) :
    (MonadExcept.ofExcept x >>= f).run s =
      match x with
      | .error e => .error e s
      | .ok a => (f a).run s := by
  cases x <;> rfl

theorem run_setUp (config : RemoteConfig) (registry : Registry) :
    (setUp config).run registry =
      match Client.ofConfig config.client with
      | .error e => .error e registry
      | .ok client =>
        match ZoneTokenCheck.ofConfig client config.cloudflareApiUrl config.domainField with
        | .error e => .error e registry
        | .ok zone => .ok () (withBoth registry client zone) := by
  rw [setUp, run_ofExcept_bind]
  cases Client.ofConfig config.client with
  | error e => dsimp only
  | ok client =>
    dsimp only
    rw [run_ofExcept_bind]
    cases ZoneTokenCheck.ofConfig client config.cloudflareApiUrl config.domainField with
    | error e => dsimp only
    | ok zone =>
      dsimp only
      rw [withBoth, EStateM.run_bind, EStateM.run_modify]
      exact EStateM.run_modify _ _

section Address

/-- The same text with exactly one slash at its end. -/
def OneSlash (url normal : String) : Prop :=
  ∃ (base : List Char) (n : Nat), base.getLast? ≠ some '/' ∧
    url.toList = base ++ List.replicate n '/' ∧ normal.toList = base ++ ['/']

theorem getLast?_ne_slash_iff {base : List Char} :
    base.getLast? ≠ some '/' ↔ Text.dropEndWhile (· == '/') base = base := by
  refine Iff.trans ?_ List.rdropWhile_eq_self_iff.symm
  simp only [beq_iff_eq]
  constructor
  · exact fun h hsome hlast => h (hlast ▸ List.getLast?_eq_some_getLast hsome)
  · intro h hlast
    have hsome : base ≠ [] := by
      rintro rfl
      cases hlast
    rw [List.getLast?_eq_some_getLast hsome] at hlast
    exact h hsome (Option.some_inj.mp hlast)

theorem oneSlash_iff {url normal : String} :
    OneSlash url normal ↔ normal = trimSlashes url ++ "/" := by
  have htrimmed : (trimSlashes url ++ "/").toList =
      Text.dropEndWhile (· == '/') url.toList ++ ['/'] := by
    rw [trimSlashes, String.toList_append, String.toList_ofList]
    rfl
  constructor
  · rintro ⟨base, n, hbase, hurl, hnormal⟩
    have hslashes : ∀ c ∈ List.replicate n '/', (c == '/') = true :=
      fun c hc => beq_of_eq (List.eq_of_mem_replicate hc)
    apply String.toList_injective
    rw [hnormal, htrimmed, hurl, Text.dropEndWhile_append_of_pos hslashes,
      getLast?_ne_slash_iff.mp hbase]
  · rintro rfl
    obtain ⟨slashes, hurl, hall⟩ := Text.exists_dropEndWhile (· == '/') url.toList
    have hrest : slashes = List.replicate slashes.length '/' :=
      List.eq_replicate_length.mpr fun c hc => eq_of_beq (hall c hc)
    refine ⟨_, slashes.length, ?_, hrest ▸ hurl, htrimmed⟩
    exact getLast?_ne_slash_iff.mpr (List.rdropWhile_idempotent _ _)

end Address

/-- No timeout is zero, and a request is given at least the time for its connection. -/
def TimeoutsFit (c : ClientConfig) : Prop :=
  0 < c.connectTimeoutSecs ∧ c.connectTimeoutSecs ≤ c.requestTimeoutSecs

/-- What keeps the checks from being set up. Of several reasons the first one counts: the timeouts,
then the name that the client gives itself, then the address. -/
inductive FirstFault (config : RemoteConfig) : SetupError → Prop
  | zero : config.client.requestTimeoutSecs = 0 ∨ config.client.connectTimeoutSecs = 0 →
      FirstFault config (.config "timeouts cannot be zero")
  | short : config.client.requestTimeoutSecs ≠ 0 → config.client.connectTimeoutSecs ≠ 0 →
      config.client.requestTimeoutSecs < config.client.connectTimeoutSecs →
      FirstFault config (.config "request timeout should be >= connect timeout")
  | client : TimeoutsFit config.client → ¬isHeaderText config.client.userAgent →
      FirstFault config .client
  | address {normal : String} {e : Url.UrlError} : TimeoutsFit config.client →
      isHeaderText config.client.userAgent → OneSlash config.cloudflareApiUrl normal →
      Url.Address.parse normal = .error e → FirstFault config (.url config.cloudflareApiUrl e)

theorem client_ofConfig (c : ClientConfig) : Client.ofConfig c =
    if c.requestTimeoutSecs = 0 ∨ c.connectTimeoutSecs = 0 then
      .error (.config "timeouts cannot be zero")
    else if c.requestTimeoutSecs < c.connectTimeoutSecs then
      .error (.config "request timeout should be >= connect timeout")
    else if isHeaderText c.userAgent then .ok { retry := c.retry }
    else .error .client := by
  simp only [Client.ofConfig, ClientConfig.check, Bool.or_eq_true, decide_eq_true_eq]
  by_cases hzero : c.requestTimeoutSecs = 0 ∨ c.connectTimeoutSecs = 0
  · simp only [if_pos hzero]
  · simp only [if_neg hzero]
    by_cases hshort : c.requestTimeoutSecs < c.connectTimeoutSecs
    · simp only [if_pos hshort]
    · simp only [if_neg hshort]

theorem client_of_timeoutsFit {c : ClientConfig} (h : TimeoutsFit c) : Client.ofConfig c =
    if isHeaderText c.userAgent then .ok { retry := c.retry } else .error .client := by
  obtain ⟨hconnect, hrequest⟩ := h
  rw [client_ofConfig, if_neg (by omega), if_neg (Nat.not_lt.mpr hrequest)]

theorem run_setUp_of_fault {e : SetupError} (h : FirstFault config e) (registry : Registry) :
    (setUp config).run registry = .error e registry := by
  rw [run_setUp]
  cases h with
  | zero hzero => rw [client_ofConfig, if_pos hzero]
  | short hrequest hconnect hshort =>
    rw [client_ofConfig, if_neg (not_or.mpr ⟨hrequest, hconnect⟩), if_pos hshort]
  | client hfit hheader => rw [client_of_timeoutsFit hfit, if_neg hheader]
  | address hfit hheader hslash hparse =>
    rw [client_of_timeoutsFit hfit, if_pos hheader]
    rw [oneSlash_iff.mp hslash] at hparse
    simp only [ZoneTokenCheck.ofConfig, hparse]

/-- A configuration that nothing is wrong with. -/
structure Sound (config : RemoteConfig) (api : Url.Address) : Prop where
  timeouts : TimeoutsFit config.client
  header : isHeaderText config.client.userAgent
  address : ∃ normal, OneSlash config.cloudflareApiUrl normal ∧ Url.Address.parse normal = .ok api

theorem run_setUp_of_sound {api : Url.Address} (h : Sound config api) (registry : Registry) :
    (setUp config).run registry =
      .ok () (withBoth registry { retry := config.client.retry }
        ⟨{ retry := config.client.retry }, api, config.domainField⟩) := by
  obtain ⟨normal, hslash, hparse⟩ := h.address
  rw [oneSlash_iff.mp hslash] at hparse
  rw [run_setUp, client_of_timeoutsFit h.timeouts, if_pos h.header]
  simp only [ZoneTokenCheck.ofConfig, hparse]

theorem exists_fault_or_sound (config : RemoteConfig) :
    (∃ e, FirstFault config e) ∨ ∃ api, Sound config api := by
  by_cases hzero : config.client.requestTimeoutSecs = 0 ∨ config.client.connectTimeoutSecs = 0
  · exact .inl ⟨_, .zero hzero⟩
  obtain ⟨hrequest, hconnect⟩ := not_or.mp hzero
  by_cases hshort : config.client.requestTimeoutSecs < config.client.connectTimeoutSecs
  · exact .inl ⟨_, .short hrequest hconnect hshort⟩
  have hfit : TimeoutsFit config.client := ⟨Nat.pos_of_ne_zero hconnect, Nat.not_lt.mp hshort⟩
  by_cases hheader : isHeaderText config.client.userAgent
  · have hslash : OneSlash config.cloudflareApiUrl _ := oneSlash_iff.mpr rfl
    cases hparse : Url.Address.parse (trimSlashes config.cloudflareApiUrl ++ "/") with
    | error e => exact .inl ⟨_, .address hfit hheader hslash hparse⟩
    | ok api => exact .inr ⟨api, hfit, hheader, _, hslash, hparse⟩
  · exact .inl ⟨_, .client hfit hheader⟩

/-- Nothing is wrong with the settings as they come. -/
theorem exists_sound_default : ∃ api, Sound {} api := by
  have hparsed : (Url.Address.parse
      (trimSlashes ({} : RemoteConfig).cloudflareApiUrl ++ "/")).toOption.isSome = true := by
    decide +kernel
  cases hparse : Url.Address.parse (trimSlashes ({} : RemoteConfig).cloudflareApiUrl ++ "/") with
  | ok api =>
    exact ⟨api, ⟨by decide, by decide⟩, by decide, _, oneSlash_iff.mpr rfl, hparse⟩
  | error e =>
    rw [hparse] at hparsed
    cases hparsed

theorem register_eq_ok {full : Registry} (h : register registry config = .ok full) :
    ∃ client zone, zone.domainField = config.domainField ∧
      full = withBoth registry client zone := by
  rw [register] at h
  rcases exists_fault_or_sound config with ⟨e, hfault⟩ | ⟨api, hsound⟩
  · rw [run_setUp_of_fault hfault] at h
    cases h
  · rw [run_setUp_of_sound hsound] at h
    cases h
    exact ⟨_, ⟨_, api, config.domainField⟩, rfl, rfl⟩

namespace Sample

/-- A registry in which the name of one remote check is taken already. -/
def taken : Registry :=
  (Registry.empty.register "domain" (.immediate Builtin.domain)).register zoneTokenName
    (.immediate Builtin.password)

def noAddress : RemoteConfig := { cloudflareApiUrl := "not a url" }

theorem firstFault_noAddress : FirstFault noAddress (.url "not a url" .relativeWithoutBase) :=
  .address ⟨by decide, by decide⟩ (by decide) (oneSlash_iff.mpr rfl) (by decide)

end Sample

end Remote

end SettingsCheck
