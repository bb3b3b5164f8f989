import SettingsCheck.Proofs.LastEntries
import SettingsCheck.Proofs.WrittenParameters

namespace SettingsCheck.Remote.Challenge

open Text (isBlank)

section Ending

variable (w : Written)

/-- The parameter at the end of a text that was cut off there: behind the sign of a value without
characters no blanks are left. -/
def Written.atEnd : Written :=
  if w.parameter.valueText = [] then { w with afterSign := .none } else w

theorem parameter_atEnd : w.atEnd.parameter = w.parameter := by
  unfold Written.atEnd
  split <;> rfl

theorem detached_of_atEnd (h : w.atEnd.Detached) : w.Detached := by
  unfold Written.atEnd at h
  split at h
  · exact absurd rfl h.2
  · exact h

theorem seen_atEnd : w.atEnd.seen = w.seen := by
  unfold Written.atEnd
  split
  next hnone =>
    have hempty : w.parameter.value = [] := by
      unfold Parameter.valueText at hnone
      split at hnone
      · cases hnone
      · exact hnone
    simp [Written.seen, Written.seenValue, hnone, hempty]
  · rfl

theorem text_eq_atEnd_append :
    ∃ trail, (∀ c ∈ trail, isBlank c = true) ∧ w.text = w.atEnd.text ++ trail := by
  unfold Written.atEnd
  split
  next hnone =>
    refine ⟨w.afterSign.1, w.afterSign.2, ?_⟩
    simp [Written.text, hnone, Blanks.none]
  · exact ⟨[], by simp, (List.append_nil _).symm⟩

theorem Parameter.exists_valueText {p : Parameter} (h : p.valueText ≠ []) :
    ∃ before c, p.valueText = before ++ [c] ∧ isBlank c = false := by
  unfold valueText at h ⊢
  split at h
  next hquoted => exact ⟨'"' :: p.value, '"', if_pos hquoted, by decide⟩
  next hbare =>
    obtain hnone | ⟨before, c, hvalue⟩ := List.eq_nil_or_concat' p.value
    · exact absurd hnone h
    · have hc : c ∈ p.value := by simp [hvalue]
      exact ⟨before, c, (if_neg hbare).trans hvalue,
        ((p.value_plain c hc).2 (by simpa using hbare)).1⟩

theorem exists_text_atEnd :
    ∃ before c, w.atEnd.text = before ++ [c] ∧ isBlank c = false := by
  unfold Written.atEnd
  split
  next hnone =>
    refine ⟨w.parameter.key ++ w.beforeSign.1, '=', ?_, by decide⟩
    simp [Written.text, hnone, Blanks.none]
  next hsome =>
    obtain ⟨before, c, hvalue, hc⟩ := w.parameter.exists_valueText hsome
    refine ⟨w.parameter.key ++ w.beforeSign.1 ++ '=' :: (w.afterSign.1 ++ before), c, ?_, hc⟩
    simp [Written.text, hvalue]

theorem listText_concat (init : List Written) :
    ∃ before, ∀ w, listText (init ++ [w]) = before ++ w.text := by
  induction init with
  | nil => exact ⟨[], fun _ => rfl⟩
  | cons v init ih =>
    obtain ⟨before, hbefore⟩ := ih
    refine ⟨v.text ++ v.beforeComma.1 ++ ',' :: (v.afterComma.1 ++ before), fun w => ?_⟩
    rw [List.cons_append, listText, hbefore]
    · simp
    · simp

theorem length_le_listText (ws : List Written) : ws.length ≤ (listText ws).length := by
  induction ws with
  | nil => exact Nat.zero_le _
  | cons w ws ih =>
    cases ws with
    | nil =>
      simp only [listText, Written.text, List.length_cons, List.length_nil, List.length_append]
      omega
    | cons next ws =>
      rw [listText]
      · simp only [List.length_cons, List.length_append] at ih ⊢
        omega
      · exact List.cons_ne_nil _ _

end Ending

/-- A challenge of this scheme with these parameters. -/
def header (scheme : String) (ws : List Written) : String :=
  scheme ++ " " ++ String.ofList (listText ws)

section Header

variable {scheme : String} {ws : List Written}

theorem isBlank_of_scheme (h : scheme.toLower = "bearer") :
    ∀ c ∈ scheme.toList, isBlank c = false := by
  intro c hc
  have hlower : c.toLower ∈ "bearer".toList := by
    rw [← h, Text.toList_toLower]
    exact List.mem_map_of_mem hc
  have hall : "bearer".toList.all (!isBlank ·) = true := by decide
  have hplain : ∀ d ∈ "bearer".toList, isBlank d = false := by simpa using hall
  cases hblank : isBlank c with
  | false => rfl
  | true =>
    rw [Text.toLower_of_isBlank hblank] at hlower
    exact hblank ▸ hplain c hlower

/-- A header without the blanks at its ends: behind the scheme, a blank and the parameters. -/
theorem exists_trimmed (hscheme : ∀ c ∈ scheme.toList, isBlank c = false)
    (hne : scheme.toList ≠ []) (ws : List Written) :
    ∃ rest ws', Text.trimWhile isBlank (header scheme ws).toList = scheme.toList ++ rest ∧
      (∀ c ∈ rest.head?, isBlank c = true) ∧ rest.drop 1 = listText ws' ∧
      ws'.map Written.seen = ws.map Written.seen ∧
      ((∀ w ∈ ws, w.Detached → ',' ∉ w.parameter.value) →
        ∀ w ∈ ws', w.Detached → ',' ∉ w.parameter.value) := by
  have htext : (header scheme ws).toList = scheme.toList ++ ' ' :: listText ws := by
    simp [header]
  have hblank : isBlank ' ' = true := by decide
  have hstart : (header scheme ws).toList.dropWhile isBlank = (header scheme ws).toList := by
    obtain ⟨c, rest, hc⟩ := List.exists_cons_of_ne_nil hne
    rw [htext, hc]
    exact List.dropWhile_cons_of_neg (by simp [hscheme c (by simp [hc])])
  rw [Text.trimWhile, hstart, htext]
  obtain rfl | ⟨init, w, rfl⟩ := List.eq_nil_or_concat' ws
  · refine ⟨[], [], ?_, by simp, rfl, rfl, by simp⟩
    rw [listText, Text.dropEndWhile_append_of_pos (by simp [hblank]),
      Text.dropEndWhile_eq_self_of_neg hscheme, List.append_nil]
  · obtain ⟨before, hbefore⟩ := listText_concat init
    obtain ⟨trail, htrail, hw⟩ := text_eq_atEnd_append w
    obtain ⟨visible, c, hc, hvisible⟩ := exists_text_atEnd w
    refine ⟨' ' :: (before ++ w.atEnd.text), init ++ [w.atEnd], ?_, ?_, ?_, ?_, ?_⟩
    · have hsplit : scheme.toList ++ ' ' :: listText (init ++ [w]) =
          scheme.toList ++ ' ' :: (before ++ visible) ++ [c] ++ trail := by
        simp [hbefore, hw, hc]
      rw [hsplit, Text.dropEndWhile_append_of_pos htrail,
        Text.dropEndWhile_concat_of_neg hvisible, hc]
      simp
    · rintro _ ⟨⟩
      exact hblank
    · exact (hbefore w.atEnd).symm
    · simp [seen_atEnd]
    · intro hcomma v hv
      obtain hv | rfl := List.mem_append.mp hv |>.imp_right List.mem_singleton.mp
      · exact hcomma v (List.mem_append_left _ hv)
      · rw [parameter_atEnd]
        exact fun hdetached => hcomma w (by simp) (detached_of_atEnd w hdetached)

/-- The challenge that these parameters make. -/
def ofEntries (entries : List (String × String)) : Option Challenge :=
  ((Fields.ofList entries).get? "realm").map fun realm =>
    .bearer realm ((Fields.ofList entries).filter (·.1 ≠ "realm"))

theorem parse?_header (hscheme : scheme.toLower = "bearer")
    (hcomma : ∀ w ∈ ws, w.Detached → ',' ∉ w.parameter.value) :
    parse? (header scheme ws) = ofEntries (ws.map Written.seen) := by
  have hplain := isBlank_of_scheme hscheme
  have hne : scheme.toList ≠ [] := by
    intro hnil
    have hlower := Text.toList_toLower scheme
    rw [hscheme, hnil] at hlower
    revert hlower
    decide
  obtain ⟨rest, ws', htrim, hrest, hlist, hseen, hcomma'⟩ := exists_trimmed hplain hne ws
  have hinside : ∀ c ∈ scheme.toList, (!isBlank c) = true := fun c hc => by simp [hplain c hc]
  have hend : ∀ c ∈ rest.head?, (!isBlank c) = false := fun c hc => by simp [hrest c hc]
  have hfuel : ws'.length ≤ (listText ws').length + 1 :=
    (length_le_listText ws').trans (Nat.le_succ _)
  have hread : readParams ((listText ws').length + 1) (listText ws') = ws.map Written.seen := by
    rw [← hseen]
    exact readParams_listText [] (hcomma' hcomma) (by simp) hfuel
  unfold parse?
  simp only [htrim]
  rw [Text.takeWhile_upTo hinside hend, Text.dropWhile_upTo hinside hend, hlist,
    String.ofList_toList, hscheme, hread]
  rfl

theorem map_seen (h : ∀ w ∈ ws, ¬w.Detached) :
    ws.map Written.seen = ws.map fun w => w.parameter.entry :=
  List.map_congr_left fun w hw => Written.seen_eq_entry (h w hw)

theorem ordered_others (fields : Fields String) (h : fields.Ordered) :
    Fields.Ordered (fields.filter (·.1 ≠ "realm")) :=
  List.Pairwise.sublist (List.filter_sublist.map _) h

/-- Whatever the order of the parameters, the letters of scheme and keys, and the blanks around the
commas, what is read are the values that were written. -/
theorem parameters_read (hscheme : scheme.toLower = "bearer")
    (hnames : (ws.map fun w => w.parameter.name).Nodup) (hattached : ∀ w ∈ ws, ¬w.Detached) :
    (∀ w ∈ ws, w.parameter.name = "realm" →
      ∃ params, parse? (header scheme ws) =
          some (.bearer (String.ofList w.parameter.value) params) ∧ params.Ordered ∧
        ∀ name value, (name, value) ∈ params ↔
          name ≠ "realm" ∧ (name, value) ∈ ws.map fun w => w.parameter.entry) ∧
    ((∀ w ∈ ws, w.parameter.name ≠ "realm") → parse? (header scheme ws) = none) := by
  have hparse : parse? (header scheme ws) = ofEntries (ws.map fun w => w.parameter.entry) := by
    rw [parse?_header hscheme fun w hw hdetached => absurd hdetached (hattached w hw),
      map_seen hattached]
  have hkeys : ((ws.map fun w => w.parameter.entry).map Prod.fst).Nodup := by
    rw [List.map_map]
    exact hnames
  have hordered := Fields.ordered_ofList (ws.map fun w => w.parameter.entry)
  rw [hparse]
  refine ⟨fun w hw hrealm => ?_, fun hnone => ?_⟩
  · have hmem : ("realm", String.ofList w.parameter.value) ∈ ws.map fun w => w.parameter.entry :=
      hrealm ▸ List.mem_map_of_mem hw
    have hget := Fields.get?_of_mem hordered ((Fields.mem_ofList_iff hkeys).mpr hmem)
    refine ⟨_, by rw [ofEntries, hget]; rfl, ordered_others _ hordered, fun name value => ?_⟩
    rw [List.mem_filter, Fields.mem_ofList_iff hkeys, and_comm]
    simp
  · have hget : (Fields.ofList (ws.map fun w => w.parameter.entry)).get? "realm" = none := by
      rw [Fields.get?_eq_none_iff, Fields.mem_names_ofList]
      intro hmem
      obtain ⟨_, hentry, hname⟩ := List.mem_map.mp hmem
      obtain ⟨w, hw, rfl⟩ := List.mem_map.mp hentry
      exact hnone w hw hname
    rw [ofEntries, hget]
    rfl

namespace Sample

def spaces : Blanks := ⟨[' ', '\t'], by simp [isBlank]⟩

def realm : Parameter where
  key := ['R', 'e', 'a', 'l', 'm']
  value := ['a', ',', ' ', 'b', '=', 'c']
  quoted := true
  key_ne_nil := by decide
  key_plain := by simp [isBlank]
  value_plain := by simp [isBlank]

def service : Parameter where
  key := ['s', 'e', 'r', 'v', 'i', 'c', 'e']
  value := ['x', '=', '1']
  quoted := false
  key_ne_nil := by decide
  key_plain := by simp [isBlank]
  value_plain := by simp [isBlank]

def bareThenQuoted : List Written :=
  [{ parameter := service, beforeComma := spaces, afterComma := spaces }, { parameter := realm }]

theorem realm_with_comma_read :
    header "bEARER" bareThenQuoted = "bEARER service=x=1 \t, \tRealm=\"a, b=c\"" ∧
    ∃ params, parse? (header "bEARER" bareThenQuoted) = some (.bearer "a, b=c" params) ∧
      ∀ name value, (name, value) ∈ params ↔
        name ≠ "realm" ∧ (name, value) ∈ [("service", "x=1"), ("realm", "a, b=c")] := by
  have hattached : ∀ w ∈ bareThenQuoted, ¬w.Detached := by
    simp [bareThenQuoted, Written.Detached, service, Blanks.none]
  have hscheme : "bEARER".toLower = "bearer" := by decide +kernel
  have hnames : (bareThenQuoted.map fun w => w.parameter.name).Nodup := by decide
  obtain ⟨hread, _⟩ := parameters_read hscheme hnames hattached
  obtain ⟨params, hparse, _, hparams⟩ :=
    hread { parameter := realm } (by simp [bareThenQuoted]) (by decide)
  exact ⟨by decide, params, hparse, hparams⟩

end Sample

def Parameter.plain (p : Parameter) : Written := { parameter := p }

theorem parse?_plain (hscheme : scheme.toLower = "bearer") (ws : List Written) :
    parse? (header scheme (ws.map fun w => w.parameter.plain)) =
      ofEntries (ws.map fun w => w.parameter.entry) := by
  have hattached : ∀ w ∈ ws.map fun w => w.parameter.plain, ¬w.Detached := by
    intro w hw
    obtain ⟨v, _, rfl⟩ := List.mem_map.mp hw
    exact fun hdetached => hdetached.2 rfl
  rw [parse?_header hscheme fun w hw hdetached => absurd hdetached (hattached w hw),
    map_seen hattached, List.map_map]
  rfl

/-- A challenge tells all of the entries that it was made from. -/
theorem mem_of_ofEntries_eq {es fs : List (String × String)} (hes : (es.map Prod.fst).Nodup)
    (hfs : (fs.map Prod.fst).Nodup) (hrealm : "realm" ∈ es.map Prod.fst)
    (h : ofEntries es = ofEntries fs) {entry : String × String} (he : entry ∈ es) :
    entry ∈ fs := by
  obtain ⟨name, value⟩ := entry
  have hkept := (Fields.mem_ofList_iff hes).mpr he
  refine (Fields.mem_ofList_iff hfs).mp ?_
  unfold ofEntries at h
  cases hget : (Fields.ofList es).get? "realm" with
  | none => exact absurd (Fields.mem_names_ofList.mpr hrealm) (Fields.get?_eq_none_iff.mp hget)
  | some realm =>
    rw [hget, Option.map_some, eq_comm, Option.map_eq_some_iff] at h
    obtain ⟨other, hother, heq⟩ := h
    obtain ⟨rfl, hparams⟩ := Challenge.bearer.inj heq
    by_cases hname : name = "realm"
    · subst hname
      rw [Fields.get?_of_mem (Fields.ordered_ofList es) hkept] at hget
      cases hget
      exact Fields.mem_of_get? hother
    · have hmem : (name, value) ∈ (Fields.ofList es).filter (·.1 ≠ "realm") :=
        List.mem_filter.mpr ⟨hkept, by simp [hname]⟩
      rw [← hparams] at hmem
      exact (List.mem_filter.mp hmem).1

/-- Blanks around commas and signs change nothing as long as none of them stands between a sign and
an opening quote. Any that does changes what is read, if the keys differ, a realm is given, and the
value holds no comma at which it would be cut. -/
theorem blanks_harmless_iff (hscheme : scheme.toLower = "bearer") (ws : List Written) :
    ((∀ w ∈ ws, ¬w.Detached) →
      parse? (header scheme ws) =
        parse? (header scheme (ws.map fun w => w.parameter.plain))) ∧
    ((ws.map fun w => w.parameter.name).Nodup → (∃ w ∈ ws, w.parameter.name = "realm") →
      (∀ w ∈ ws, w.Detached → ',' ∉ w.parameter.value) →
      (parse? (header scheme ws) =
          parse? (header scheme (ws.map fun w => w.parameter.plain)) ↔
        ∀ w ∈ ws, ¬w.Detached)) := by
  have hharmless : (∀ w ∈ ws, ¬w.Detached) → parse? (header scheme ws) =
      parse? (header scheme (ws.map fun w => w.parameter.plain)) := by
    intro hattached
    rw [parse?_plain hscheme, ← map_seen hattached]
    exact parse?_header hscheme fun w hw hdetached => absurd hdetached (hattached w hw)
  refine ⟨hharmless, fun hnames hrealm hcomma => ⟨fun heq w hw hdetached => ?_, hharmless⟩⟩
  rw [parse?_header hscheme hcomma, parse?_plain hscheme] at heq
  have hseen : ((ws.map Written.seen).map Prod.fst).Nodup := by
    rw [List.map_map]
    exact hnames
  have hentries : ((ws.map fun w => w.parameter.entry).map Prod.fst).Nodup := by
    rw [List.map_map]
    exact hnames
  have hgiven : "realm" ∈ (ws.map Written.seen).map Prod.fst := by
    obtain ⟨v, hv, hname⟩ := hrealm
    rw [List.map_map]
    exact hname ▸ List.mem_map_of_mem hv
  -- under the key of `w` stand the value as it was seen and the value as it was meant
  have hmem := mem_of_ofEntries_eq hseen hentries hgiven heq (List.mem_map_of_mem hw)
  have hmeant : w.parameter.entry ∈ ws.map fun w => w.parameter.entry := List.mem_map_of_mem hw
  have hvalue := (Fields.ordered_ofList _).value_unique
    ((Fields.mem_ofList_iff hentries).mpr hmem) ((Fields.mem_ofList_iff hentries).mpr hmeant)
  exact Written.seen_ne_entry hdetached hvalue

namespace Sample

def address : Parameter where
  key := ['r', 'e', 'a', 'l', 'm']
  value := ['h', 't', 't', 'p', 's', ':', '/', '/', 'a', '.', 't', 'e', 's', 't']
  quoted := true
  key_ne_nil := by decide
  key_plain := by simp [isBlank]
  value_plain := by simp [isBlank]

def spacedService : Written where
  parameter := service
  beforeSign := spaces
  afterSign := spaces
  beforeComma := spaces
  afterComma := spaces

def spacedAddress : Written := { parameter := address, beforeSign := spaces }

def detachedAddress : Written := { parameter := address, afterSign := spaces }

theorem only_blanks_before_quotes_matter :
    parse? (header "Bearer" [spacedService, spacedAddress]) =
      parse? (header "Bearer" [service.plain, address.plain]) ∧
    parse? (header "Bearer" [spacedService, detachedAddress]) ≠
      parse? (header "Bearer" [service.plain, address.plain]) := by
  have hscheme : "Bearer".toLower = "bearer" := by decide +kernel
  obtain ⟨hharmless, _⟩ := blanks_harmless_iff hscheme [spacedService, spacedAddress]
  obtain ⟨_, hexact⟩ := blanks_harmless_iff hscheme [spacedService, detachedAddress]
  refine ⟨hharmless ?_, fun heq => ?_⟩
  · simp [spacedService, spacedAddress, Written.Detached, service, Blanks.none]
  · have hrealm : ∃ w ∈ [spacedService, detachedAddress], w.parameter.name = "realm" :=
      ⟨detachedAddress, by simp, by decide⟩
    have hcomma : ∀ w ∈ [spacedService, detachedAddress],
        w.Detached → ',' ∉ w.parameter.value := by
      simp [spacedService, detachedAddress, Written.Detached, service, address]
    have hattached := (hexact (by decide) hrealm hcomma).mp heq
    exact hattached detachedAddress (by simp) ⟨rfl, List.cons_ne_nil _ _⟩

/-- The quotes of a realm behind a blank become a part of it. -/
theorem quotes_kept_behind_blank :
    parse? "Bearer realm= \"https://auth.test/token\"" =
      some (.bearer "\"https://auth.test/token\"" []) ∧
    parse? "Bearer realm=\"https://auth.test/token\"" =
      some (.bearer "https://auth.test/token" []) := by
  decide +kernel

end Sample

end Header

end SettingsCheck.Remote.Challenge
