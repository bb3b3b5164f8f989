import SettingsCheck.Proofs.Judgement
import SettingsCheck.Proofs.View

namespace SettingsCheck

def Check.adjust (f : Validator → Validator) : Check → Check
  | .immediate validator => .immediate (f validator)
  | .deferred precheck dialogue => .deferred (precheck.map f) dialogue

namespace Registry

/-- The same names, with other validators. -/
def adjust (f : String → Validator → Validator) (registry : Registry) : Registry :=
  ⟨registry.checks.map fun entry => (entry.1, entry.2.adjust (f entry.1))⟩

/-- Validators that give the same verdicts, and one warning each time that they are asked: their
name. -/
def recording : Registry → Registry :=
  adjust fun name validator site value => ⟨(validator site value).verdict, [name]⟩

/-- Every custom check is queued at once, so that its place in a trace shows. -/
def marking (registry : Registry) : Registry :=
  ⟨registry.checks.map fun entry => (entry.1, .deferred none fun _ _ => .done .accepted)⟩

variable {f : String → Validator → Validator} {registry : Registry}

theorem get?_adjust (name : String) :
    (registry.adjust f).get? name = (registry.get? name).map (Check.adjust (f name)) :=
  Fields.get?_map (fun name => Check.adjust (f name)) name registry.checks

theorem get?_marking (name : String) :
    registry.marking.get? name =
      (registry.get? name).map fun _ => .deferred none fun _ _ => .done .accepted :=
  Fields.get?_map (fun _ _ => Check.deferred none fun _ _ => .done .accepted) name registry.checks

theorem has_adjust (name : String) : (registry.adjust f).has name = registry.has name := by
  have hget := @get?_adjust f registry name
  unfold Registry.get? at hget
  rw [has, has, Fields.has, Fields.has, hget, Option.isSome_map]

theorem marking_adjust : (registry.adjust f).marking = registry.marking := by
  simp [marking, adjust]

end Registry

namespace Walk

variable {f : String → Validator → Validator} {registry : Registry} {limit : Nat}
  {p q : Progress} {name : String} {site : Site} {value : Value}

theorem customTrace_adjust (h : ∀ validator, Consults registry name validator →
    f name validator site value = validator site value) :
    customTrace (registry.adjust f) name site value = customTrace registry name site value := by
  unfold customTrace
  rw [Registry.get?_adjust]
  match hg : registry.get? name with
  | none => rfl
  | some (.immediate validator) =>
    have hsame := h validator (.inl hg)
    simp [Check.adjust, validatorTrace, hsame]
  | some (.deferred none dialogue) => rfl
  | some (.deferred (some validator) dialogue) =>
    have hsame := h validator (.inr ⟨dialogue, hg⟩)
    simp [Check.adjust, validatorTrace, hsame]

theorem customTrace_recording {validator : Validator} (h : Consults registry name validator) :
    ∃ rest, customTrace registry.recording name site value =
      .event (.warning ⟨site.path, name⟩) :: rest := by
  unfold customTrace Registry.recording
  rw [Registry.get?_adjust]
  rcases h with hg | ⟨dialogue, hg⟩
  · rw [hg]
    exact ⟨_, rfl⟩
  · rw [hg]
    exact ⟨_, rfl⟩

end Walk

/-- The event unless it is a warning. -/
def Event.unwarned? : Event → Option Event
  | .warning _ => none
  | event => some event

namespace Walk

variable {f : String → Validator → Validator} {registry : Registry} {limit : Nat}
  {p q : Progress}

theorem seesErrors_unwarned? : SeesErrors Event.unwarned? where
  error _ := rfl
  other event event' he hs := by
    cases event with
    | error e => cases he
    | warning w => cases hs
    | queued c =>
      cases hs
      rfl

theorem unwarned_validatorTrace (name : String) (validator : Validator) (site : Site)
    (value : Value) (messages : List String) :
    (validatorTrace name (fun site value => ⟨(validator site value).verdict, messages⟩) site
      value).flatMap (Happening.seen Event.unwarned?) =
    (validatorTrace name validator site value).flatMap (Happening.seen Event.unwarned?) := by
  have hnone : ∀ messages : List String, (messages.map fun message =>
      Happening.event (.warning ⟨site.path, message⟩)).flatMap
        (Happening.seen Event.unwarned?) = [] := by
    simp [Happening.seen, Event.unwarned?]
  simp only [validatorTrace, List.flatMap_append, hnone]

theorem unwarned_customTrace (name : String) (site : Site) (value : Value) :
    (customTrace registry.recording name site value).flatMap (Happening.seen Event.unwarned?) =
      (customTrace registry name site value).flatMap (Happening.seen Event.unwarned?) := by
  unfold customTrace Registry.recording
  rw [Registry.get?_adjust]
  match registry.get? name with
  | none => rfl
  | some (.immediate validator) => exact unwarned_validatorTrace name validator site value _
  | some (.deferred none dialogue) => rfl
  | some (.deferred (some validator) dialogue) =>
    simp only [Option.map_some, Check.adjust, List.flatMap_append, unwarned_validatorTrace]

theorem sameChecks_recording (registry : Registry) (root : Value) :
    SameChecks (Happening.seen Event.unwarned?) (Happening.seen Event.unwarned?)
      registry.recording registry root root Eq where
  error _ := rfl
  refl _ := rfl
  custom name value path _ _ hb := by
    subst hb
    exact unwarned_customTrace name _ value

/-- Puts what a custom check does where it is marked. -/
def Happening.unmark (registry : Registry) : Happening → List Happening
  | .event (.queued c) => customTrace registry c.validator c.site c.value
  | h => [h]

theorem sameChecks_marking (registry : Registry) (root : Value) :
    SameChecks (Happening.unmark registry) (fun h => [h]) registry.marking registry root root
      Eq where
  error _ := rfl
  refl _ := rfl
  custom name value path _ _ hb := by
    subst hb
    rw [List.flatMap_singleton']
    conv_lhs => unfold customTrace
    rw [Registry.get?_marking]
    cases hg : registry.get? name with
    | none => simp [customTrace, hg, Happening.unmark]
    | some check => simp [Happening.unmark]

/-- Equally far along, with whatever warnings. -/
structure Progress.Level (p q : Progress) : Prop where
  errors : p.errors = q.errors
  stop : p.stop = q.stop

namespace Progress

theorem Level.stopped (h : Level p q) : p.stopped = q.stopped := by
  rw [Progress.stopped, Progress.stopped, h.stop]

theorem Level.replay (h : Level p q) (happening : Happening) :
    Level (p.replay limit happening) (q.replay limit happening) := by
  cases hq : q.stopped with
  | true => rwa [replay_of_stopped (h.stopped.trans hq), replay_of_stopped hq]
  | false =>
    have hp := h.stopped.trans hq
    match happening with
    | .crash =>
      rw [replay_crash hp, replay_crash hq]
      exact ⟨h.errors, rfl⟩
    | .event (.error e) =>
      rw [replay_event hp, replay_event hq, add_error_of_going hp, add_error_of_going hq, h.errors]
      exact ⟨rfl, rfl⟩
    | .event (.warning w) =>
      rw [replay_event hp, replay_event hq]
      exact ⟨h.errors, h.stop⟩
    | .event (.queued c) =>
      rw [replay_event hp, replay_event hq]
      exact ⟨h.errors, h.stop⟩

theorem Level.replay_warning (h : Level p q) (w : Warning) :
    Level (p.replay limit (.event (.warning w))) q := by
  unfold Progress.replay
  split
  · exact h
  · exact ⟨h.errors, h.stop⟩

/-- Warnings have no part in how far a walk comes. -/
theorem Level.replayAll_unwarned (h : Level p q) (trace : List Happening) :
    Level (p.replayAll limit trace)
      (q.replayAll limit (trace.flatMap (Happening.seen Event.unwarned?))) := by
  induction trace generalizing p q with
  | nil => exact h
  | cons happening trace ih =>
    rw [List.flatMap_cons, replayAll_append, replayAll_cons]
    match happening with
    | .event (.warning w) => exact ih (h.replay_warning w)
    | .event (.error e) => exact ih (h.replay _)
    | .event (.queued c) => exact ih (h.replay _)
    | .crash => exact ih (h.replay _)

theorem Level.replayAll (h : Level p q) {trace trace' : List Happening}
    (ht : trace.flatMap (Happening.seen Event.unwarned?) =
      trace'.flatMap (Happening.seen Event.unwarned?)) :
    Level (p.replayAll limit trace) (q.replayAll limit trace') := by
  have hp := @Level.replayAll_unwarned limit p q h trace
  have hq := @Level.replayAll_unwarned limit q q ⟨rfl, rfl⟩ trace'
  rw [← ht] at hq
  exact ⟨hp.errors.trans hq.errors.symm, hp.stop.trans hq.stop.symm⟩

theorem events_subset_replayAll (trace : List Happening) :
    p.events ⊆ (p.replayAll limit trace).events := by
  induction trace generalizing p with
  | nil => exact List.Subset.refl _
  | cons happening trace ih =>
    refine List.Subset.trans ?_ ih
    cases hp : p.stopped with
    | true =>
      rw [replay_of_stopped hp]
      exact List.Subset.refl _
    | false =>
      match happening with
      | .crash =>
        rw [replay_crash hp]
        exact List.Subset.refl _
      | .event (.error e) =>
        rw [replay_event hp, add_error_of_going hp]
        exact List.subset_cons_self _ _
      | .event (.warning w) =>
        rw [replay_event hp]
        exact List.subset_cons_self _ _
      | .event (.queued c) =>
        rw [replay_event hp]
        exact List.subset_cons_self _ _

end Progress

open Progress

theorem unwarned_unmark (h : Happening) :
    (h.unmark registry.recording).flatMap (Happening.seen Event.unwarned?) =
      (h.unmark registry).flatMap (Happening.seen Event.unwarned?) := by
  match h with
  | .event (.queued c) => exact unwarned_customTrace _ _ _
  | .event (.error e) => rfl
  | .event (.warning w) => rfl
  | .crash => rfl

/-- A walk does not notice that validators are changed, if they answer as before wherever the
recording ones are asked. -/
theorem replayAll_adjust (marked : List Happening) (hl : Level p q)
    (hsame : ∀ name validator site value,
      .warning ⟨site.path, name⟩ ∈
        (q.replayAll limit (marked.flatMap (Happening.unmark registry.recording))).events →
      f name validator site value = validator site value) :
    p.replayAll limit (marked.flatMap (Happening.unmark (registry.adjust f))) =
      p.replayAll limit (marked.flatMap (Happening.unmark registry)) := by
  induction marked generalizing p q with
  | nil => rfl
  | cons h rest ih =>
    rw [List.flatMap_cons, replayAll_append] at hsame ⊢
    rw [List.flatMap_cons, replayAll_append]
    cases hs : p.stopped with
    | true =>
      -- nothing is asked any more, but nothing that happens counts either
      simp only [replayAll_of_stopped hs]
    | false =>
      have hhead : h.unmark (registry.adjust f) = h.unmark registry := by
        match h with
        | .event (.error e) => rfl
        | .event (.warning w) => rfl
        | .crash => rfl
        | .event (.queued c) =>
          refine customTrace_adjust fun validator hc => hsame _ _ _ _ ?_
          -- the call is the first thing that is recorded
          obtain ⟨tail, htail⟩ :=
            @customTrace_recording registry c.validator c.site c.value validator hc
          refine events_subset_replayAll _ ?_
          rw [Happening.unmark, htail, replayAll_cons]
          refine events_subset_replayAll _ ?_
          rw [replay_event (hl.stopped ▸ hs), add_other rfl]
          exact List.mem_cons_self
      rw [hhead]
      exact ih (hl.replayAll (unwarned_unmark h).symm) hsame

end Walk

open Walk

namespace DocumentValidator

def adjust (f : String → Validator → Validator) (v : DocumentValidator) : DocumentValidator where
  schema := v.schema
  registry := v.registry.adjust f
  resolved use hu := (Registry.has_adjust use.2).trans (v.resolved use hu)

/-- The same check with validators that record when they are asked. -/
def recording : DocumentValidator → DocumentValidator :=
  adjust fun name validator site value => ⟨(validator site value).verdict, [name]⟩

/-- The events of a structural check, in the order in which they come. -/
def pass (v : DocumentValidator) (options : Options) (document : Mapping) : List Event :=
  (v.walk options.limit (.mapping document) document).sequence

variable (v : DocumentValidator) (document : Mapping)

theorem pass_eq_events (options : Options) :
    v.pass options document = v.events document options.limit :=
  v.sequence_walk document options.limit

theorem trace_recording :
    (v.recording.trace document).flatMap (Happening.seen Event.unwarned?) =
      (v.trace document).flatMap (Happening.seen Event.unwarned?) :=
  seen_mappingTrace (sameChecks_recording v.registry (.mapping document)) v.schema.fields document
    .root

theorem unwarned_pass_recording (options : Options) :
    (v.recording.pass options document).filterMap Event.unwarned? =
      (v.pass options document).filterMap Event.unwarned? := by
  rw [pass_eq_events, pass_eq_events]
  exact seen_events seesErrors_unwarned? (v.trace_recording document) options.limit

theorem trace_eq_flatMap_unmark :
    v.trace document =
      (mappingTrace v.registry.marking (.mapping document) v.schema.fields document .root).flatMap
        (Happening.unmark v.registry) := by
  rw [seen_mappingTrace (sameChecks_marking v.registry (.mapping document)),
    List.flatMap_singleton']
  rfl

/-- Validators that are not asked may be replaced by any others. -/
theorem checkStructure_adjust {f : String → Validator → Validator} {options : Options}
    (h : ∀ name validator site value,
      .warning ⟨site.path, name⟩ ∈ v.recording.pass options document →
      f name validator site value = validator site value) :
    (v.adjust f).checkStructure options (.mapping document) =
      v.checkStructure options (.mapping document) := by
  have hwalk : (v.adjust f).walk options.limit (.mapping document) document =
      v.walk options.limit (.mapping document) document := by
    have hmarked : (v.adjust f).registry.marking = v.registry.marking := Registry.marking_adjust
    have hrecorded : v.recording.registry.marking = v.registry.marking := Registry.marking_adjust
    rw [walk_eq_replayAll, walk_eq_replayAll, trace_eq_flatMap_unmark, trace_eq_flatMap_unmark,
      hmarked]
    refine replayAll_adjust _ ⟨rfl, rfl⟩ fun name validator site value hm => h _ _ _ _ ?_
    rw [pass, Progress.sequence, List.mem_reverse, walk_eq_replayAll, trace_eq_flatMap_unmark,
      hrecorded]
    exact hm
  unfold checkStructure
  simp only [Value.mapping?, hwalk]

end DocumentValidator

end SettingsCheck
