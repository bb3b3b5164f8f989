import SettingsCheck.Proofs.Queue
import SettingsCheck.Proofs.RemoteSetup

namespace SettingsCheck

namespace Http.Dialogue

variable {α β : Type} {P : α → Prop} {Q : β → Prop}

/-- The dialogue ends like this, if it ends, whatever the peer answers. -/
def Ensures (P : α → Prop) : Dialogue α → Prop
  | done a => P a
  | ask _ next => ∀ answer, Ensures P (next answer)
  | pause _ next => Ensures P next
  | hang => True

theorem ensures_true (d : Dialogue α) : d.Ensures fun _ => True := by
  induction d with
  | done a => trivial
  | ask request next ih => exact ih
  | pause t next ih => exact ih
  | hang => trivial

theorem Ensures.bind {d : Dialogue α} {f : α → Dialogue β} (hd : d.Ensures P)
    (hf : ∀ a, P a → (f a).Ensures Q) : (d.bind f).Ensures Q := by
  induction d with
  | done a => exact hf a hd
  | ask request next ih => exact fun answer => ih answer (hd answer)
  | pause t next ih => exact ih hd
  | hang => trivial

theorem Ensures.of_run {d : Dialogue α} (hd : d.Ensures P) {peer : Nat → Request → Answer} {n : Nat}
    {a : α} (h : (d.run peer n).result = some a) : P a := by
  induction d generalizing n with
  | done b =>
    cases h
    exact hd
  | ask request next ih => exact ih (peer n request) (hd (peer n request)) h
  | pause t next ih => exact ih hd h
  | hang => cases h

end Http.Dialogue

namespace Remote

open Http (Dialogue Failure Client Response Request Answer)

/-- The reasons of a check that cannot read its value, or finds no domain in the document. -/
inductive ShapeFault : String → Prop
  | token : ShapeFault "API token must be a string"
  | domain (field : String) : ShapeFault ("top-level field '" ++ field ++ "' is missing")
  | login : ShapeFault "expected an object with registry, username, password"
  | part (name : String) : ShapeFault ("registry credentials need a non-empty '" ++ name ++ "'")

/-- One of the words stands at the start of the text. -/
def OpensWith (words : List String) (s : String) : Prop :=
  ∃ word ∈ words, word.toList <+: s.toList

theorem opensWith_self {words : List String} {word : String} (h : word ∈ words) :
    OpensWith words word :=
  ⟨word, h, List.prefix_rfl⟩

theorem OpensWith.append {words : List String} {s : String} (h : OpensWith words s)
    (rest : String) : OpensWith words (s ++ rest) := by
  obtain ⟨word, hword, hs⟩ := h
  refine ⟨word, hword, ?_⟩
  rw [String.toList_append]
  exact hs.trans (List.prefix_append _ _)

/-- How reasons about the shape start. -/
def shapeWords : List String :=
  ["API token must be a string", "top-level field '",
    "expected an object with registry, username, password",
    "registry credentials need a non-empty '"]

theorem ShapeFault.opensWith {reason : String} (h : ShapeFault reason) :
    OpensWith shapeWords reason := by
  cases h with
  | token => exact opensWith_self (by simp [shapeWords])
  | domain field => exact ((opensWith_self (by simp [shapeWords])).append field).append _
  | login => exact opensWith_self (by simp [shapeWords])
  | part name => exact ((opensWith_self (by simp [shapeWords])).append name).append _

/-- How the reasons of a check start once it has read its value. -/
def lateWords : List String :=
  ["token verification failed", "zone lookup failed", "reading SSL settings failed",
    "could not reach the Cloudflare API: ", "invalid Cloudflare API path '",
    "API token is not active (status: ", "no zone for domain '", "zone '",
    "could not reach registry: ", "registry request failed: ", "registry '",
    "invalid registry address '", "registry sent an invalid token realm '",
    "registry token endpoint returned an unexpected body: error decoding response body",
    "registry token endpoint did not issue a token",
    "registry returned 401 without a supported authentication challenge"]

theorem words_apart : ∀ start ∈ shapeWords, ∀ word ∈ lateWords,
    ¬(start.toList <+: word.toList ∨ word.toList <+: start.toList) := by
  decide +kernel

theorem ShapeFault.not_opensWith {reason : String} (h : ShapeFault reason) :
    ¬OpensWith lateWords reason := by
  rintro ⟨word, hword, hlate⟩
  obtain ⟨start, hstart, hshape⟩ := h.opensWith
  -- of two starts of one text, one is a start of the other
  exact words_apart start hstart word hword (List.prefix_or_prefix_of_prefix hshape hlate)

/-- If this is a failure, it came after the value was read. -/
def FailsLate {α : Type} (r : Except String α) : Prop :=
  ∀ reason, r = .error reason → OpensWith lateWords reason

theorem failsLate_ok {α : Type} (a : α) : FailsLate (Except.ok a) := nofun

theorem failsLate_error {α : Type} {reason : String} (h : OpensWith lateWords reason) :
    FailsLate (Except.error reason : Except String α) := by
  rintro _ ⟨⟩
  exact h

/-- A step whose failure is passed on as it is. -/
theorem ensures_failsLate_bind {α β : Type} {d : Dialogue (Except String α)}
    {f : Except String α → Dialogue (Except String β)} (hd : d.Ensures FailsLate)
    (hpass : ∀ reason, f (.error reason) = .done (.error reason))
    (hf : ∀ a, (f (.ok a)).Ensures FailsLate) : (d.bind f).Ensures FailsLate := by
  refine hd.bind fun result hresult => ?_
  cases result with
  | ok a => exact hf a
  | error reason =>
    rw [hpass]
    exact failsLate_error (hresult reason rfl)

namespace ZoneTokenCheck

variable (c : ZoneTokenCheck) (token : String)

theorem opensWith_describe {purpose : String} (h : purpose ∈ lateWords) (f : Failure) :
    OpensWith lateWords (describe purpose f) := by
  unfold describe
  split
  · exact (((opensWith_self h).append _).append _).append _
  · exact (opensWith_self (by simp [lateWords])).append _
  · exact ((opensWith_self h).append _).append _

theorem failsLate_open? {α : Type} {purpose : String} (h : purpose ∈ lateWords) (e : Envelope α) :
    FailsLate (e.open? purpose) := by
  unfold Envelope.open?
  split
  · exact failsLate_error (((opensWith_self h).append _).append _)
  · split
    · exact failsLate_ok _
    · exact failsLate_error ((opensWith_self h).append _)

theorem ensures_request {α : Type} {purpose : String} (h : purpose ∈ lateWords) (path : String)
    (query : List (String × String)) (read : Source → Option α) :
    (c.request token purpose path query read).Ensures FailsLate := by
  unfold request
  split
  · exact failsLate_error
      ((((opensWith_self (by simp [lateWords])).append _).append _).append _)
  · refine (Http.Dialogue.ensures_true _).bind fun result _ => ?_
    cases result with
    | ok envelope => exact failsLate_open? h envelope
    | error f => exact failsLate_error (opensWith_describe h f)

theorem ensures_verifyToken : (c.verifyToken token).Ensures FailsLate := by
  refine ensures_failsLate_bind (c.ensures_request token (by simp [lateWords]) _ _ _)
    (fun _ => rfl) fun status => ?_
  simp only
  split
  · exact failsLate_ok _
  · exact failsLate_error (((opensWith_self (by simp [lateWords])).append _).append _)

theorem ensures_findZone (domain : String) (candidates : List String) :
    (c.findZone token domain candidates).Ensures FailsLate := by
  induction candidates with
  | nil => exact failsLate_error (((opensWith_self (by simp [lateWords])).append _).append _)
  | cons candidate rest ih =>
    refine ensures_failsLate_bind (c.ensures_request token (by simp [lateWords]) _ _ _)
      (fun _ => rfl) fun zones => ?_
    simp only
    split
    · exact failsLate_ok _
    · exact ih

theorem ensures_checkEncryption (zone : Zone) :
    (c.checkEncryption token zone).Ensures FailsLate := by
  refine ensures_failsLate_bind (c.ensures_request token (by simp [lateWords]) _ _ _)
    (fun _ => rfl) fun mode => ?_
  simp only
  split
  · exact failsLate_ok _
  · have hstart : OpensWith lateWords "zone '" := opensWith_self (by simp [lateWords])
    exact failsLate_error (((((hstart.append _).append _).append _).append _).append _)

/-- With a token and a domain the check does not fail before it has asked. -/
theorem ensures_check {site : Site} {value : Value} {domain : String}
    (htoken : value.string? = some token)
    (hdomain : (site.root.get? c.domainField).bind Value.string? = some domain) :
    (c.check site value).Ensures FailsLate := by
  unfold check
  simp only [htoken, hdomain]
  generalize zoneCandidates domain = candidates
  refine ensures_failsLate_bind (c.ensures_verifyToken token) (fun _ => rfl) fun _ => ?_
  refine ensures_failsLate_bind (c.ensures_findZone token domain candidates) (fun _ => rfl) fun zone => ?_
  exact c.ensures_checkEncryption token zone

theorem reads_of_precheck {site : Site} {value : Value} (h : c.precheck site value = .ok ()) :
    ∃ token domain, value.string? = some token ∧
      (site.root.get? c.domainField).bind Value.string? = some domain := by
  unfold precheck at h
  split at h
  · cases h
  next htoken =>
    split at h
    · cases h
    next hdomain =>
      cases hvalue : value.string? with
      | none => simp [hvalue] at htoken
      | some token =>
        cases hfield : (site.root.get? c.domainField).bind Value.string? with
        | none => simp [hfield] at hdomain
        | some domain => exact ⟨token, domain, rfl, rfl⟩

end ZoneTokenCheck

namespace ImageRegistry

variable (client : Client) (login : RegistryLogin)

theorem opensWith_describe (f : Failure) : OpensWith lateWords (describe f) := by
  unfold describe
  split <;> exact (opensWith_self (by simp [lateWords])).append _

theorem failsLate_expectAccepted (r : Response) : FailsLate (expectAccepted login r) := by
  unfold expectAccepted
  split
  · exact failsLate_ok _
  · split
    · have hstart : OpensWith lateWords "registry '" := opensWith_self (by simp [lateWords])
      exact failsLate_error ((((hstart.append _).append _).append _).append _)
    · exact failsLate_error (opensWith_describe _)

theorem failsLate_issued (r : Response) : FailsLate (issued r) := by
  unfold issued
  split
  · exact failsLate_error (opensWith_self (by simp [lateWords]))
  · split
    · exact failsLate_error (opensWith_self (by simp [lateWords]))
    · exact failsLate_ok _

theorem ensures_answerBasic (probe : Url.Address) :
    (answerBasic client login probe).Ensures FailsLate := by
  refine (Http.Dialogue.ensures_true _).bind fun result _ => ?_
  cases result with
  | ok r => exact failsLate_expectAccepted login r
  | error f => exact failsLate_error (opensWith_describe f)

theorem ensures_answerBearer (realm : String) (params : Fields String) :
    (answerBearer client login realm params).Ensures FailsLate := by
  unfold answerBearer
  split
  · exact failsLate_error
      ((((opensWith_self (by simp [lateWords])).append _).append _).append _)
  · refine (Http.Dialogue.ensures_true _).bind fun result _ => ?_
    cases result with
    | error f => exact failsLate_error (opensWith_describe f)
    | ok r =>
      unfold Http.Dialogue.Ensures
      split
      next reason hr => exact failsLate_error (failsLate_expectAccepted login r reason hr)
      next => exact failsLate_issued r

theorem failsLate_probeAddress : FailsLate login.probeAddress := by
  unfold RegistryLogin.probeAddress
  simp only
  split
  · exact failsLate_error
      ((((opensWith_self (by simp [lateWords])).append _).append _).append _)
  · split
    · exact failsLate_error
        ((((opensWith_self (by simp [lateWords])).append _).append _).append _)
    · exact failsLate_ok _

/-- With a login the check does not fail before it has an address to ask. -/
theorem ensures_check {value : Value} (hlogin : RegistryLogin.ofValue value = .ok login) :
    (check client value).Ensures FailsLate := by
  unfold check
  simp only [hlogin]
  split
  next reason hprobe => exact failsLate_error (failsLate_probeAddress login reason hprobe)
  next probe _ =>
    refine (Http.Dialogue.ensures_true _).bind fun result _ => ?_
    cases result with
    | error f => exact failsLate_error (opensWith_describe f)
    | ok r =>
      simp only
      split
      · exact failsLate_ok _
      · split
        · exact failsLate_error (opensWith_describe _)
        · split
          · exact ensures_answerBasic client login probe
          · exact ensures_answerBearer client login _ _
          · exact failsLate_error (opensWith_self (by simp [lateWords]))

end ImageRegistry

theorem ensures_judged {d : Dialogue (Except String Unit)} (h : d.Ensures FailsLate) :
    (judged d).Ensures fun verdict =>
      ∀ reason, verdict = .refused reason → OpensWith lateWords reason := by
  refine h.bind fun result hresult => ?_
  cases result with
  | ok _ => exact fun _ hreason => nomatch hreason
  | error reason =>
    rintro _ ⟨⟩
    exact hresult reason rfl

/-- Under the names of the remote checks the registry has those of this configuration. -/
def Offers (registry : Registry) (config : RemoteConfig) : Prop :=
  ∃ base full, register base config = .ok full ∧
    registry.get? zoneTokenName = full.get? zoneTokenName ∧
    registry.get? imageRegistryName = full.get? imageRegistryName

theorem Offers.checks {registry : Registry} {config : RemoteConfig} (h : Offers registry config) :
    ∃ (client : Client) (zone : ZoneTokenCheck), zone.domainField = config.domainField ∧
      registry.get? zoneTokenName =
        some (.deferred (some fun site value => .ofExcept (zone.precheck site value))
          fun site value => judged (zone.check site value)) ∧
      registry.get? imageRegistryName =
        some (.deferred (some fun _ value => .ofExcept (ImageRegistry.precheck value))
          fun _ value => judged (ImageRegistry.check client value)) := by
  obtain ⟨base, full, hfull, hzone, himage⟩ := h
  obtain ⟨client, zone, hfield, rfl⟩ := register_eq_ok hfull
  exact ⟨client, zone, hfield, hzone.trans (get?_withBoth_zoneToken base client zone),
    himage.trans (get?_withBoth_imageRegistry base client zone)⟩

theorem eq_ok_of_accepted {r : Except String Unit}
    (h : (Judgement.ofExcept r).verdict = .accepted) : r = .ok () := by
  cases r with
  | ok _ => rfl
  | error reason => cases h

theorem login_of_precheck {value : Value} (h : ImageRegistry.precheck value = .ok ()) :
    ∃ login, RegistryLogin.ofValue value = .ok login := by
  unfold ImageRegistry.precheck at h
  cases hlogin : RegistryLogin.ofValue value with
  | ok login => exact ⟨login, rfl⟩
  | error reason =>
    rw [hlogin] at h
    cases h

section Queued

variable {registry : Registry} {config : RemoteConfig} {schema : Rules} {mapping : Mapping}
  {c : PendingCheck}

theorem zone_of_deferred (h : Offers registry config) (hc : Deferred registry schema mapping c)
    (hname : c.validator = zoneTokenName) :
    ∃ (zone : ZoneTokenCheck) (token domain : String), zone.domainField = config.domainField ∧
      c.value.string? = some token ∧
      (c.site.root.get? zone.domainField).bind Value.string? = some domain ∧
      c.dialogue = judged (zone.check c.site c.value) := by
  obtain ⟨_, zone, hfield, hzone, _⟩ := h.checks
  obtain ⟨_, _, _, hget, hpre⟩ := hc
  cases hname
  cases hzone.symm.trans hget
  obtain ⟨token, domain, htoken, hdomain⟩ :=
    zone.reads_of_precheck (eq_ok_of_accepted (hpre _ rfl))
  exact ⟨zone, token, domain, hfield, htoken, hdomain, rfl⟩

theorem login_of_deferred (h : Offers registry config) (hc : Deferred registry schema mapping c)
    (hname : c.validator = imageRegistryName) :
    ∃ (client : Client) (login : RegistryLogin), RegistryLogin.ofValue c.value = .ok login ∧
      c.dialogue = judged (ImageRegistry.check client c.value) := by
  obtain ⟨client, _, _, _, himage⟩ := h.checks
  obtain ⟨_, _, _, hget, hpre⟩ := hc
  cases hname
  cases himage.symm.trans hget
  obtain ⟨login, hlogin⟩ := login_of_precheck (eq_ok_of_accepted (hpre _ rfl))
  exact ⟨client, login, hlogin, rfl⟩

end Queued

end Remote

namespace DocumentValidator

open Remote

theorem deferred_of_mem_pending {v : DocumentValidator} {options : Options} {document : Value}
    {c : PendingCheck} (h : c ∈ (v.checkStructure options document).pending) :
    ∃ mapping, document = .mapping mapping ∧
      Deferred v.registry v.schema.fields mapping c := by
  cases document with
  | mapping mapping =>
    rw [checkStructure_mapping] at h
    exact ⟨mapping, rfl,
      occurs_queued_iff.mp (occurs_of_mem_events (Event.mem_filterMap_queued?.mp h))⟩
  | _ => cases h

/-- A queued remote check can read its value and, where it needs one, finds a domain in the
document. So it never ends with a reason that is about their shape, whatever its peer answers and
however deep its field stands. -/
theorem queued_reads (v : DocumentValidator) (config : RemoteConfig)
    (h : Offers v.registry config) (options : Options) (document : Value) :
    ∀ c ∈ (v.checkStructure options document).pending,
      c.site.root = document ∧
      (c.validator = zoneTokenName →
        (∃ token, c.value.string? = some token) ∧
        ∃ domain, (document.get? config.domainField).bind Value.string? = some domain) ∧
      (c.validator = imageRegistryName → ∃ login, RegistryLogin.ofValue c.value = .ok login) ∧
      (c.validator = zoneTokenName ∨ c.validator = imageRegistryName →
        ∀ peer n reason, (c.dialogue.run peer n).result = some (.refused reason) →
          ¬ShapeFault reason) := by
  intro c hc
  obtain ⟨mapping, rfl, hdeferred⟩ := deferred_of_mem_pending hc
  have hroot : c.site.root = .mapping mapping := by
    obtain ⟨_, _, _, _, _⟩ := hdeferred
    rfl
  refine ⟨hroot, fun hname => ?_, fun hname => ?_, fun hname peer n reason hreason hshape => ?_⟩
  · obtain ⟨zone, token, domain, hfield, htoken, hdomain, _⟩ := zone_of_deferred h hdeferred hname
    rw [hfield, hroot] at hdomain
    exact ⟨⟨token, htoken⟩, domain, hdomain⟩
  · obtain ⟨_, login, hlogin, _⟩ := login_of_deferred h hdeferred hname
    exact ⟨login, hlogin⟩
  · refine hshape.not_opensWith ?_
    obtain hname | hname := hname
    · obtain ⟨zone, token, _, _, htoken, hdomain, hdialogue⟩ := zone_of_deferred h hdeferred hname
      rw [hdialogue] at hreason
      exact (ensures_judged (zone.ensures_check token htoken hdomain)).of_run hreason reason rfl
    · obtain ⟨client, login, hlogin, hdialogue⟩ := login_of_deferred h hdeferred hname
      rw [hdialogue] at hreason
      exact (ensures_judged (ImageRegistry.ensures_check client login hlogin)).of_run hreason
        reason rfl

end DocumentValidator

namespace Sample

open Remote

/-- The remote checks as they come without settings of their own. -/
def remoteRegistry : Registry := (register .empty {}).toOption.getD .empty

theorem register_remoteRegistry : register .empty {} = .ok remoteRegistry := by
  obtain ⟨api, hsound⟩ := exists_sound_default
  rw [remoteRegistry, register, run_setUp_of_sound hsound]
  rfl

/-- Both logins of a site stand in one object. -/
def accessRules : Rules :=
  [("access",
      { fieldType := .object
        properties :=
          [("images", { fieldType := .custom imageRegistryName }),
            ("zone", { fieldType := .custom zoneTokenName })] }),
    ("domain", { fieldType := .string })]

theorem accessRules_ordered : accessRules.Ordered ∧ Rule.FieldsOrdered accessRules := by
  simp only [accessRules, Rule.FieldsOrdered, Rule.ItemsOrdered, Rule.Ordered]
  decide +kernel

def accessValidator : DocumentValidator where
  schema := ⟨accessRules, accessRules_ordered, by decide +kernel⟩
  registry := remoteRegistry
  resolved := by decide +kernel

def accessDocument : Value :=
  .mapping
    [("access", .mapping
        [("images", .mapping
            [("password", .string "p"), ("registry", .string "images.test"),
              ("username", .string "u")]),
          ("zone", .string "t")]),
      ("domain", .string "example.org")]

theorem both_logins_read :
    Offers accessValidator.registry {} ∧
    let pending := (accessValidator.checkStructure {} accessDocument).pending
    (pending.map fun c => c.validator) = [imageRegistryName, zoneTokenName] ∧
    ∀ c ∈ pending, ∀ peer n reason,
      (c.dialogue.run peer n).result = some (.refused reason) → ¬ShapeFault reason := by
  have hoffers : Offers accessValidator.registry {} :=
    ⟨.empty, remoteRegistry, register_remoteRegistry, rfl, rfl⟩
  have hnames : ((accessValidator.checkStructure {} accessDocument).pending.map
      fun c => c.validator) = [imageRegistryName, zoneTokenName] := by decide +kernel
  refine ⟨hoffers, hnames, fun c hc => ?_⟩
  have hname : c.validator ∈ [imageRegistryName, zoneTokenName] := hnames ▸ List.mem_map_of_mem hc
  have hreads := accessValidator.queued_reads {} hoffers {} accessDocument c hc
  exact hreads.2.2.2 (by simpa [or_comm] using hname)

end Sample

end SettingsCheck
