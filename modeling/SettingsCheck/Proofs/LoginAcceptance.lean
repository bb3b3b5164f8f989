import SettingsCheck.Proofs.RemoteSetup
import SettingsCheck.Proofs.Tries

namespace SettingsCheck.Remote

open Http (Request Response Answer Dialogue Client loginHeader withPairs)

/-- A header of that name, whatever case it is written in, in front of all others of the name. -/
def FirstHeader (r : Response) (name value : String) : Prop :=
  ∃ before written after, r.headers = before ++ (written, value) :: after ∧
    Text.lowerAscii written = name ∧ ∀ h ∈ before, Text.lowerAscii h.1 ≠ name

/-- Tabs and what can be printed of ASCII. -/
def PlainText (s : String) : Prop := ∀ c ∈ s.toList, c = '\t' ∨ 0x20 ≤ c.toNat ∧ c.toNat < 0x7F

theorem header?_eq_some_iff {r : Response} {name value : String} :
    r.header? name = some value ↔ FirstHeader r name value ∧ PlainText value := by
  have hplain : (value.toList.all fun c => c == '\t' || (0x20 ≤ c.toNat && c.toNat < 0x7F)) = true ↔
      PlainText value := by
    simp [PlainText, List.all_eq_true]
  unfold Response.header?
  constructor
  · intro h
    obtain ⟨⟨written, found⟩, hfind, hvalue⟩ := Option.bind_eq_some_iff.mp h
    obtain ⟨hall, hfound⟩ := Option.ite_none_right_eq_some.mp hvalue
    obtain rfl : found = value := Option.some.inj hfound
    obtain ⟨hname, before, after, hheaders, hbefore⟩ := List.find?_eq_some_iff_append.mp hfind
    refine ⟨⟨before, written, after, hheaders, by simpa using hname, fun h hmem => ?_⟩,
      hplain.mp hall⟩
    simpa using hbefore h hmem
  · rintro ⟨⟨before, written, after, hheaders, hname, hbefore⟩, hvalue⟩
    have hfind : r.headers.find? (fun h => Text.lowerAscii h.1 == name) = some (written, value) :=
      List.find?_eq_some_iff_append.mpr
        ⟨by simpa using hname, before, after, hheaders, fun h hmem => by simpa using hbefore h hmem⟩
    rw [hfind]
    exact if_pos (hplain.mpr hvalue)

/-- The first header that may hold a challenge holds this one. -/
def Challenges (r : Response) (challenge : Challenge) : Prop :=
  ∃ value, FirstHeader r "www-authenticate" value ∧ PlainText value ∧
    Challenge.parse? value = some challenge

theorem challenges_iff {r : Response} {challenge : Challenge} :
    Challenges r challenge ↔
      (r.header? "www-authenticate").bind Challenge.parse? = some challenge := by
  simp only [Challenges, Option.bind_eq_some_iff, header?_eq_some_iff, and_assoc]

theorem Challenges.unique {r : Response} {challenge other : Challenge}
    (h : Challenges r challenge) (h' : Challenges r other) : challenge = other :=
  Option.some.inj ((challenges_iff.mp h).symm.trans (challenges_iff.mp h'))

namespace RegistryLogin

/-- The value is a mapping with these three texts, none of which is empty. -/
def GivenBy (login : RegistryLogin) (value : Value) : Prop :=
  ∃ mapping : Mapping, value = .mapping mapping ∧
    (mapping.get? "registry" = some (.string login.registry) ∧ login.registry ≠ "") ∧
    (mapping.get? "username" = some (.string login.username) ∧ login.username ≠ "") ∧
    mapping.get? "password" = some (.string login.password) ∧ login.password ≠ ""

theorem field_eq_ok_iff {mapping : Mapping} {name text : String} :
    field mapping name = .ok text ↔ mapping.get? name = some (.string text) ∧ text ≠ "" := by
  unfold field
  cases hvalue : mapping.get? name with
  | none => simp
  | some value =>
    cases value with
    | string s =>
      by_cases hs : s = ""
      · simp only [hs, Option.bind_some, Value.string?, if_true, Option.some.injEq,
          Value.string.injEq]
        simp +contextual
      · simp only [hs, Option.bind_some, Value.string?, if_false, Except.ok.injEq,
          Option.some.injEq, Value.string.injEq]
        refine (and_iff_left_of_imp ?_).symm
        rintro rfl
        exact hs
    | _ => simp [Value.string?]

theorem ofValue_eq_ok_iff {value : Value} {login : RegistryLogin} :
    ofValue value = .ok login ↔ login.GivenBy value := by
  obtain ⟨registry, username, password⟩ := login
  unfold GivenBy
  simp only [← field_eq_ok_iff]
  cases value with
  | mapping mapping =>
    simp only [ofValue, Value.mapping?, ofMapping, Value.mapping.injEq, exists_eq_left']
    cases field mapping "registry" with
    | error _ => simp [bind, Except.bind]
    | ok r => cases field mapping "username" with
      | error _ => simp [bind, Except.bind]
      | ok u => cases field mapping "password" with
        | error _ => simp [bind, Except.bind]
        | ok p => simp [bind, Except.bind, pure, Except.pure]
  | _ => simp [ofValue, Value.mapping?]

/-- Where a registry is probed: at `v2/` below its address, over `https` unless the address names a
scheme. -/
def ProbedAt (registry : String) (probe : Url.Address) : Prop :=
  ∃ base normal address,
    ("://".toList <:+: registry.toList ∧ base = registry ∨
      ¬"://".toList <:+: registry.toList ∧ base = "https://" ++ registry) ∧
    OneSlash base normal ∧ Url.Address.parse normal = .ok address ∧ address.join "v2/" = .ok probe

theorem probeAddress_eq_ok_iff {login : RegistryLogin} {probe : Url.Address} :
    login.probeAddress = .ok probe ↔ ProbedAt login.registry probe := by
  have hbase (base : String) :
      ("://".toList <:+: login.registry.toList ∧ base = login.registry ∨
        ¬"://".toList <:+: login.registry.toList ∧ base = "https://" ++ login.registry) ↔
      base = if Text.holds login.registry "://" then login.registry
        else "https://" ++ login.registry := by
    rw [← Text.holds_iff]
    cases Text.holds login.registry "://" <;> simp
  unfold ProbedAt probeAddress
  simp only [hbase, oneSlash_iff, exists_and_left, exists_eq_left]
  cases Url.Address.parse _ with
  | error e => simp
  | ok address => cases hjoin : address.join "v2/" <;> simp [hjoin]

/-- The header with the login in it. -/
def header (login : RegistryLogin) : String := loginHeader login.username login.password

end RegistryLogin

namespace ImageRegistry

/-- The body is a record that names a token, not empty. The access token counts where there is no
other. -/
def Issues (r : Response) : Prop :=
  ∃ source fields token accessToken issued, Source.ofJsonText? r.body = some source ∧
    source.record? ["token", "access_token"] = some fields ∧
    fields.optional 0 Source.text? = some token ∧
    fields.optional 1 Source.text? = some accessToken ∧
    (token = some issued ∨ token = none ∧ accessToken = some issued) ∧ issued ≠ ""

theorem ofSource?_eq_some_iff {s : Source} {t : TokenResponse} :
    TokenResponse.ofSource? s = some t ↔ ∃ fields,
      s.record? ["token", "access_token"] = some fields ∧
      fields.optional 0 Source.text? = some t.token ∧
      fields.optional 1 Source.text? = some t.accessToken := by
  obtain ⟨token, accessToken⟩ := t
  simp [TokenResponse.ofSource?, Option.bind_eq_some_iff]

theorem expectAccepted_eq_ok_iff {login : RegistryLogin} {r : Response} :
    expectAccepted login r = .ok () ↔ r.Succeeds := by
  unfold expectAccepted
  rw [← Response.isSuccess_iff]
  cases r.isSuccess with
  | true => simp
  | false =>
    simp only [Bool.false_eq_true, if_false, iff_false]
    split <;> exact nofun

theorem issued_eq_ok_iff {r : Response} : issued r = .ok () ↔ Issues r := by
  have hissues : Issues r ↔ ∃ t token,
      (Source.ofJsonText? r.body).bind TokenResponse.ofSource? = some t ∧
      (t.token = some token ∨ t.token = none ∧ t.accessToken = some token) ∧ token ≠ "" := by
    simp only [Option.bind_eq_some_iff, ofSource?_eq_some_iff]
    constructor
    · rintro ⟨source, fields, token, accessToken, text, hs, hr, ht, ha, htext, hne⟩
      exact ⟨⟨token, accessToken⟩, text, ⟨source, hs, fields, hr, ht, ha⟩, htext, hne⟩
    · rintro ⟨t, text, ⟨source, hs, fields, hr, ht, ha⟩, htext, hne⟩
      exact ⟨source, fields, t.token, t.accessToken, text, hs, hr, ht, ha, htext, hne⟩
  rw [hissues]
  unfold issued
  cases (Source.ofJsonText? r.body).bind TokenResponse.ofSource? with
  | none => simp
  | some t =>
    obtain ⟨token, accessToken⟩ := t
    cases token with
    | some token => by_cases h : token = "" <;> simp [h]
    | none => cases accessToken with
      | some token => by_cases h : token = "" <;> simp [h]
      | none => simp

variable (client : Client) (peer : Nat → Request → Answer) (login : RegistryLogin)
  (probe : Url.Address) (n : Nat)

/-- What is asked for in the query of a realm: what the challenge says of the service and of the
scope, and the user. -/
def asked (params : Fields String) : List (String × String) :=
  (params.get? "service").toList.map (("service", ·)) ++
    ((params.get? "scope").toList.map (("scope", ·)) ++ [("account", login.username)])

theorem tokenAddress_eq (realm : Url.Address) (params : Fields String) :
    tokenAddress login realm params = withPairs realm (asked login params) := by
  unfold tokenAddress withPairs asked
  cases hservice : params.get? "service" <;> cases hscope : params.get? "scope" <;>
    simp [hservice, hscope]

/-- How many requests the peer has answered when the probe is over. -/
def afterProbe : Nat := n + (client.tries peer probe [] n).length

/-- After this response to the probe, the login is to be sent to an address. -/
inductive Demands (r : Response) : Url.Address → Prop
  | basic : r.status = 401 → Challenges r .basic → Demands r probe
  | bearer {realm : String} {params : Fields String} {address : Url.Address} :
    r.status = 401 → Challenges r (.bearer realm params) →
    Url.Address.parse realm = .ok address → Demands r (withPairs address (asked login params))

/-- The final answer to the request with the login that is made after the probe. -/
def answerToLogin (address : Url.Address) : Option Response :=
  client.finalAnswer peer address [login.header] (afterProbe client peer probe n)

/-- The ways in which a peer lets a login pass. -/
inductive Admits : Prop
  | anonymously {r : Response} :
    client.finalAnswer peer probe [] n = some r → r.Succeeds → Admits
  | byLogin {r a : Response} :
    client.finalAnswer peer probe [] n = some r → r.status = 401 → Challenges r .basic →
    answerToLogin client peer login probe n probe = some a → a.Succeeds → Admits
  | byToken {r a : Response} {realm : String} {params : Fields String} {address : Url.Address} :
    client.finalAnswer peer probe [] n = some r → r.status = 401 →
    Challenges r (.bearer realm params) → Url.Address.parse realm = .ok address →
    answerToLogin client peer login probe n (withPairs address (asked login params)) = some a →
    a.Succeeds → Issues a → Admits

/-- The requests of a check: those of the probe, without a header for the login, and, if its final
answer demands the login somewhere, those with that header to there. -/
inductive Proceeds : List Request → Prop
  | probed :
    (∀ r, client.finalAnswer peer probe [] n = some r →
      ∀ address, ¬Demands login probe r address) →
    Proceeds (client.tries peer probe [] n)
  | answered {r : Response} {address : Url.Address} :
    client.finalAnswer peer probe [] n = some r → Demands login probe r address →
    Proceeds (client.tries peer probe [] n ++
      client.tries peer address [login.header] (afterProbe client peer probe n))

variable {client peer login probe n}

theorem Demands.status {r : Response} {address : Url.Address}
    (h : Demands login probe r address) : r.status = 401 := by
  cases h <;> assumption

/-- A success is no demand. -/
theorem not_succeeds_of_unauthorized {r : Response} (h : r.status = 401) : ¬r.Succeeds := by
  simp [Response.Succeeds, h]

theorem ends_answerBasic :
    ∃ result, (answerBasic client login probe).Ends peer n result
        (client.tries peer probe [login.header] n) ∧
      (result = .ok () ↔ ∃ a, client.finalAnswer peer probe [login.header] n = some a ∧
        a.Succeeds) := by
  obtain ⟨sent, hends, hiff⟩ := client.ends_send_login peer probe login.username login.password n
  simp only [RegistryLogin.header, ← hiff]
  unfold answerBasic
  cases sent with
  | error f =>
    refine ⟨.error (describe f), hends.bind_done rfl, ?_⟩
    simp
  | ok r =>
    refine ⟨expectAccepted login r, hends.bind_done rfl, ?_⟩
    simp [expectAccepted_eq_ok_iff]

theorem ends_answerBearer {realm : String} {params : Fields String} {address : Url.Address}
    (hrealm : Url.Address.parse realm = .ok address) :
    ∃ result, (answerBearer client login realm params).Ends peer n result
        (client.tries peer (withPairs address (asked login params)) [login.header] n) ∧
      (result = .ok () ↔ ∃ a,
        client.finalAnswer peer (withPairs address (asked login params)) [login.header] n = some a ∧
          a.Succeeds ∧ Issues a) := by
  obtain ⟨sent, hends, hiff⟩ := client.ends_send_login peer (withPairs address (asked login params))
    login.username login.password n
  simp only [RegistryLogin.header, ← hiff]
  unfold answerBearer
  simp only [hrealm, tokenAddress_eq]
  cases sent with
  | error f =>
    refine ⟨.error (describe f), hends.bind_done rfl, ?_⟩
    simp
  | ok r =>
    refine ⟨_, hends.bind_done rfl, ?_⟩
    have haccepted := @expectAccepted_eq_ok_iff login r
    cases hresult : expectAccepted login r with
    | error reason =>
      have hno : ¬r.Succeeds := by simp [← haccepted, hresult]
      simp [hno]
    | ok _ =>
      have hyes : r.Succeeds := haccepted.mp hresult
      simp [hyes, issued_eq_ok_iff]

/-- A registry whose final answer to the probe is no challenge decides by that answer alone. -/
theorem admits_iff_of_no_demand {r : Response}
    (hfinal : client.finalAnswer peer probe [] n = some r)
    (hno : ∀ address, ¬Demands login probe r address) :
    Admits client peer login probe n ↔ r.Succeeds := by
  constructor
  · intro hadmits
    cases hadmits with
    | anonymously h hsuccess =>
      cases hfinal.symm.trans h
      exact hsuccess
    | byLogin h hstatus hchallenge =>
      cases hfinal.symm.trans h
      exact absurd (.basic hstatus hchallenge) (hno _)
    | byToken h hstatus hchallenge hrealm =>
      cases hfinal.symm.trans h
      exact absurd (.bearer hstatus hchallenge hrealm) (hno _)
  · exact .anonymously hfinal

/-- Without a demand, the check is over with the probe. -/
theorem over_of_no_demand {r : Response} {result : Except String Unit}
    (hfinal : client.finalAnswer peer probe [] n = some r)
    (hno : ∀ address, ¬Demands login probe r address)
    (hresult : result = .ok () ↔ r.Succeeds) :
    Proceeds client peer login probe n (client.tries peer probe [] n) ∧
      (result = .ok () ↔ Admits client peer login probe n) := by
  refine ⟨.probed fun r' h => ?_, hresult.trans (admits_iff_of_no_demand hfinal hno).symm⟩
  cases hfinal.symm.trans h
  exact hno

theorem admits_iff_of_basic {r : Response}
    (hfinal : client.finalAnswer peer probe [] n = some r) (hstatus : r.status = 401)
    (hchallenge : Challenges r .basic) :
    Admits client peer login probe n ↔
      ∃ a, answerToLogin client peer login probe n probe = some a ∧ a.Succeeds := by
  constructor
  · intro hadmits
    cases hadmits with
    | anonymously h hsuccess =>
      cases hfinal.symm.trans h
      exact absurd hsuccess (not_succeeds_of_unauthorized hstatus)
    | byLogin _ _ _ ha hsuccess => exact ⟨_, ha, hsuccess⟩
    | byToken h _ hother =>
      cases hfinal.symm.trans h
      cases hchallenge.unique hother
  · rintro ⟨a, ha, hsuccess⟩
    exact .byLogin hfinal hstatus hchallenge ha hsuccess

theorem admits_iff_of_bearer {r : Response} {realm : String} {params : Fields String}
    {address : Url.Address} (hfinal : client.finalAnswer peer probe [] n = some r)
    (hstatus : r.status = 401) (hchallenge : Challenges r (.bearer realm params))
    (hrealm : Url.Address.parse realm = .ok address) :
    Admits client peer login probe n ↔
      ∃ a, answerToLogin client peer login probe n (withPairs address (asked login params)) =
        some a ∧ a.Succeeds ∧ Issues a := by
  constructor
  · intro hadmits
    cases hadmits with
    | anonymously h hsuccess =>
      cases hfinal.symm.trans h
      exact absurd hsuccess (not_succeeds_of_unauthorized hstatus)
    | byLogin h _ hother =>
      cases hfinal.symm.trans h
      cases hchallenge.unique hother
    | byToken h _ hother hrealm' ha hsuccess hissues =>
      cases hfinal.symm.trans h
      cases hchallenge.unique hother
      cases hrealm.symm.trans hrealm'
      exact ⟨_, ha, hsuccess, hissues⟩
  · rintro ⟨a, ha, hsuccess, hissues⟩
    exact .byToken hfinal hstatus hchallenge hrealm ha hsuccess hissues

/-- After a refused probe the login goes to where a challenge demands it. Without a challenge that
can be answered, the check is over. -/
theorem ends_challenged {r : Response}
    (hfinal : client.finalAnswer peer probe [] n = some r) (hstatus : r.status = 401) :
    ∃ result more, (match (r.header? "www-authenticate").bind Challenge.parse? with
        | some .basic => answerBasic client login probe
        | some (.bearer realm params) => answerBearer client login realm params
        | none =>
          .done (.error "registry returned 401 without a supported authentication challenge")).Ends
        peer (afterProbe client peer probe n) result more ∧
      Proceeds client peer login probe n (client.tries peer probe [] n ++ more) ∧
      (result = .ok () ↔ Admits client peer login probe n) := by
  have hfailed : ¬r.Succeeds := not_succeeds_of_unauthorized hstatus
  have hover (reason : String) (hno : ∀ address, ¬Demands login probe r address) :
      Proceeds client peer login probe n (client.tries peer probe [] n ++ []) ∧
        (Except.error reason = .ok () ↔ Admits client peer login probe n) := by
    rw [List.append_nil]
    exact over_of_no_demand hfinal hno (by simp [hfailed])
  have hwritten : ∀ challenge, Challenges r challenge ↔
      (r.header? "www-authenticate").bind Challenge.parse? = some challenge :=
    fun _ => challenges_iff
  cases hchallenge : (r.header? "www-authenticate").bind Challenge.parse? with
  | none =>
    have hnone : ∀ challenge, ¬Challenges r challenge := by simp [hwritten, hchallenge]
    refine ⟨_, [], .done _, hover _ ?_⟩
    rintro _ (⟨_, h⟩ | ⟨_, h, _⟩) <;> exact hnone _ h
  | some challenge =>
    have hthis : Challenges r challenge := (hwritten challenge).mpr hchallenge
    cases challenge with
    | basic =>
      obtain ⟨result, hbasic, hresult⟩ :=
        @ends_answerBasic client peer login probe (afterProbe client peer probe n)
      exact ⟨result, _, hbasic, .answered hfinal (.basic hstatus hthis),
        hresult.trans (admits_iff_of_basic hfinal hstatus hthis).symm⟩
    | bearer realm params => cases hrealm : Url.Address.parse realm with
      | error e =>
        simp only [answerBearer, hrealm]
        refine ⟨_, [], .done _, hover _ ?_⟩
        rintro _ (⟨_, h⟩ | ⟨_, h, hother⟩)
        · cases hthis.unique h
        · cases hthis.unique h
          cases hrealm.symm.trans hother
      | ok address =>
        obtain ⟨result, hbearer, hresult⟩ := @ends_answerBearer client peer login
          (afterProbe client peer probe n) realm params address hrealm
        exact ⟨result, _, hbearer, .answered hfinal (.bearer hstatus hthis hrealm),
          hresult.trans (admits_iff_of_bearer hfinal hstatus hthis hrealm).symm⟩

theorem ends_check {value : Value} (hlogin : login.GivenBy value)
    (hprobe : RegistryLogin.ProbedAt login.registry probe) :
    ∃ result requests, (check client value).Ends peer n result requests ∧
      Proceeds client peer login probe n requests ∧
      (result = .ok () ↔ Admits client peer login probe n) := by
  obtain ⟨sent, hends, hiff⟩ := client.ends_send_bare peer probe n
  unfold check
  simp only [RegistryLogin.ofValue_eq_ok_iff.mpr hlogin,
    RegistryLogin.probeAddress_eq_ok_iff.mpr hprobe]
  cases sent with
  | error f =>
    have hnone : ∀ r, client.finalAnswer peer probe [] n ≠ some r := by simp [← hiff]
    refine ⟨_, _, hends.bind_done rfl, .probed fun r h => absurd h (hnone r), ?_⟩
    constructor
    · exact nofun
    · intro hadmits
      cases hadmits <;> exact absurd ‹client.finalAnswer peer probe [] n = _› (hnone _)
  | ok r =>
    have hfinal : client.finalAnswer peer probe [] n = some r := (hiff r).mp rfl
    by_cases hsuccess : r.Succeeds
    · refine ⟨.ok (), _, hends.bind_done (if_pos (Response.isSuccess_iff.mpr hsuccess)),
        over_of_no_demand hfinal (fun _ hdemands => ?_) (by simp [hsuccess])⟩
      exact not_succeeds_of_unauthorized hdemands.status hsuccess
    have hfailed : r.isSuccess = false := by rwa [← Bool.not_eq_true, Response.isSuccess_iff]
    by_cases hstatus : r.status = 401
    · obtain ⟨result, more, hmore, hproceeds, hresult⟩ :=
        @ends_challenged client peer login probe n r hfinal hstatus
      refine ⟨result, _, hends.bind ?_, hproceeds, hresult⟩
      simp only [hfailed, hstatus, Bool.false_eq_true, if_false, ne_eq, not_true]
      exact hmore
    · refine ⟨.error (describe (.ofResponse r)), _, hends.bind_done ?_,
        over_of_no_demand hfinal (fun _ h => hstatus h.status) (by simp [hsuccess])⟩
      simp [hfailed, hstatus]

end ImageRegistry

namespace Sample

def loginValue : Value :=
  .mapping [("password", .string "secret"), ("registry", .string "images.test"),
    ("username", .string "bot")]

def loginProbe : Url.Address :=
  { scheme := "https", host := some (.name "images.test"), path := .segments ["v2", ""] }

def imageClient : Client := { retry := {} }

def tokenChallenge : Answer :=
  .response
    { status := 401
      headers :=
        [("WWW-Authenticate", "Bearer realm=\"https://auth.test/token\",service=\"images\"")]
      body := "" }

/-- The probe is repeated after a broken connection, the request for a token after a 503. -/
def imageAnswers : List Answer :=
  [.failed, tokenChallenge, .response { status := 503, body := "" },
    .response { status := 200, body := "\x7b\"token\":null,\"access_token\":\"t\"\x7d" }]

def imagePeer (n : Nat) (_ : Request) : Answer := imageAnswers[n]?.getD .failed

end Sample

end SettingsCheck.Remote
