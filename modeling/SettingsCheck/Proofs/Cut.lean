import SettingsCheck.Proofs.Trace

namespace SettingsCheck

namespace Event

theorem mem_filterMap_error? {events : List Event} {e : ValidationError} :
    e ∈ events.filterMap Event.error? ↔ .error e ∈ events := by
  rw [List.mem_filterMap]
  refine ⟨?_, fun h => ⟨_, h, rfl⟩⟩
  rintro ⟨event, hm, he⟩
  cases event <;> cases he
  exact hm

theorem mem_filterMap_warning? {events : List Event} {w : Warning} :
    w ∈ events.filterMap Event.warning? ↔ .warning w ∈ events := by
  rw [List.mem_filterMap]
  refine ⟨?_, fun h => ⟨_, h, rfl⟩⟩
  rintro ⟨event, hm, he⟩
  cases event <;> cases he
  exact hm

theorem mem_filterMap_queued? {events : List Event} {c : PendingCheck} :
    c ∈ events.filterMap Event.queued? ↔ .queued c ∈ events := by
  rw [List.mem_filterMap]
  refine ⟨?_, fun h => ⟨_, h, rfl⟩⟩
  rintro ⟨event, hm, he⟩
  cases event <;> cases he
  exact hm

end Event

namespace Walk

/-- The events before the first crash. -/
def heard : List Happening → List Event
  | [] => []
  | .event e :: rest => e :: heard rest
  | .crash :: _ => []

/-- The events up to the error that meets the limit, when `met` errors came before. A limit of zero
is none. -/
def cut (limit : Nat) : Nat → List Event → List Event
  | _, [] => []
  | met, .error e :: rest =>
    .error e :: if limit ≠ 0 ∧ limit ≤ met + 1 then [] else cut limit (met + 1) rest
  | met, .warning w :: rest => .warning w :: cut limit met rest
  | met, .queued c :: rest => .queued c :: cut limit met rest

def errorCount (events : List Event) : Nat := (events.filterMap Event.error?).length

@[simp]
theorem errorCount_nil : errorCount [] = 0 := rfl

@[simp]
theorem errorCount_cons_error (e : ValidationError) (events : List Event) :
    errorCount (.error e :: events) = errorCount events + 1 := by
  simp [errorCount]

theorem errorCount_cons_of_other {event : Event} (he : event.error? = none) (events : List Event) :
    errorCount (event :: events) = errorCount events := by
  rw [errorCount, List.filterMap_cons_none he, errorCount]

theorem cut_cons_of_other {limit met : Nat} {event : Event} (he : event.error? = none)
    (events : List Event) : cut limit met (event :: events) = event :: cut limit met events := by
  cases event with
  | error e => cases he
  | warning w => rfl
  | queued c => rfl

theorem heard_eq_filterMap {trace : List Happening} (h : Happening.crash ∉ trace) :
    (heard trace).map Happening.event = trace := by
  induction trace with
  | nil => rfl
  | cons x trace ih =>
    cases x with
    | event e => simp [heard, ih (fun hc => h (List.mem_cons_of_mem _ hc))]
    | crash => simp at h

theorem heard_isPrefix (trace : List Happening) : (heard trace).map Happening.event <+: trace := by
  induction trace with
  | nil => exact List.prefix_refl _
  | cons x trace ih =>
    cases x with
    | event e => simpa [heard] using ih
    | crash => exact List.nil_prefix

theorem cut_isPrefix (limit met : Nat) (events : List Event) : cut limit met events <+: events := by
  induction events generalizing met with
  | nil => exact List.prefix_refl _
  | cons e events ih =>
    cases e with
    | error e =>
      simp only [cut, List.prefix_cons_inj]
      split
      · exact List.nil_prefix
      · exact ih _
    | warning w => simpa [cut] using ih met
    | queued c => simpa [cut] using ih met

theorem cut_zero (met : Nat) (events : List Event) : cut 0 met events = events := by
  induction events generalizing met with
  | nil => rfl
  | cons e events ih => cases e <;> simp [cut, ih]

/-- A limit that is not reached drops nothing. -/
theorem cut_of_length_lt {limit met : Nat} {events : List Event}
    (h : met + (events.filterMap Event.error?).length < limit) : cut limit met events = events := by
  induction events generalizing met with
  | nil => rfl
  | cons e events ih =>
    cases e with
    | error e =>
      have hlen : met + 1 + (events.filterMap Event.error?).length < limit := by
        simp only [List.filterMap_cons, Event.error?, List.length_cons] at h
        omega
      have hopen : ¬(limit ≠ 0 ∧ limit ≤ met + 1) := by omega
      simp [cut, hopen, ih hlen]
    | warning w => rw [cut, ih (by simpa [List.filterMap_cons] using h)]
    | queued c => rw [cut, ih (by simpa [List.filterMap_cons] using h)]

/-- Of the errors just as many are kept as the limit leaves room for. -/
theorem errors_cut {limit met : Nat} (hroom : met < limit) (events : List Event) :
    (cut limit met events).filterMap Event.error? =
      (events.filterMap Event.error?).take (limit - met) := by
  induction events generalizing met with
  | nil => simp [cut]
  | cons e events ih =>
    cases e with
    | error e =>
      obtain ⟨k, hk⟩ : ∃ k, limit - met = k + 1 := ⟨limit - met - 1, by omega⟩
      simp only [cut, List.filterMap_cons, Event.error?, hk, List.take_succ_cons]
      by_cases hlast : limit ≤ met + 1
      · have hk0 : k = 0 := by omega
        have hstop : limit ≠ 0 ∧ limit ≤ met + 1 := by omega
        simp [hstop, hk0]
      · have hopen : ¬(limit ≠ 0 ∧ limit ≤ met + 1) := by omega
        have hrest : limit - (met + 1) = k := by omega
        rw [if_neg hopen, ih (by omega), hrest]
    | warning w => simpa [cut, List.filterMap_cons] using ih hroom
    | queued c => simpa [cut, List.filterMap_cons] using ih hroom

namespace Progress

variable {limit : Nat} {p : Progress}

theorem add_error_of_going (hp : p.stopped = false) (e : ValidationError) :
    p.add limit (.error e) =
      { events := .error e :: p.events
        errors := p.errors + 1
        stop := if limit ≠ 0 ∧ limit ≤ p.errors + 1 then some .enoughErrors else none } := by
  simp [add, hp]

theorem add_other {e : Event} (he : e.error? = none) :
    p.add limit e = { p with events := e :: p.events } := by
  cases e with
  | error e => simp at he
  | warning w => rfl
  | queued c => rfl

theorem sequence_replayAll (hp : p.stopped = false) (trace : List Happening) :
    (p.replayAll limit trace).sequence = p.sequence ++ cut limit p.errors (heard trace) := by
  induction trace generalizing p with
  | nil => simp [heard, cut]
  | cons h trace ih =>
    cases h with
    | crash =>
      have hs : ({ p with stop := some .crash } : Progress).stopped = true := rfl
      rw [replayAll_cons, replay_crash hp, replayAll_of_stopped hs]
      simp [heard, cut, sequence]
    | event event =>
      rw [replayAll_cons, replay_event hp, heard]
      cases he : event.error? with
      | none =>
        have hg : ({ p with events := event :: p.events } : Progress).stopped = false := hp
        rw [add_other he, ih hg, cut_cons_of_other he]
        simp [sequence]
      | some e =>
        cases event <;> cases he
        rw [add_error_of_going hp]
        by_cases hlast : limit ≠ 0 ∧ limit ≤ p.errors + 1
        · rw [if_pos hlast, replayAll_of_stopped rfl]
          simp [cut, hlast, sequence]
        · rw [if_neg hlast, ih rfl]
          simp [cut, hlast, sequence]

/-- A validator that breaks off is met just if it comes before the last error that is allowed. -/
theorem stop_eq_crash_iff {trace : List Happening}
    (hp : p.stopped = false) (hroom : limit = 0 ∨ p.errors < limit) :
    (p.replayAll limit trace).stop = some .crash ↔
      Happening.crash ∈ trace ∧ (limit = 0 ∨ p.errors + errorCount (heard trace) < limit) := by
  induction trace generalizing p with
  | nil =>
    have hgoing : p.stop ≠ some .crash := fun hs => by simp [Progress.stopped, hs] at hp
    simp [hgoing]
  | cons h trace ih =>
    cases h with
    | crash =>
      have hs : ({ p with stop := some .crash } : Progress).stopped = true := rfl
      rw [replayAll_cons, replay_crash hp, replayAll_of_stopped hs]
      simpa [heard] using hroom
    | event event =>
      rw [replayAll_cons, replay_event hp, heard, List.mem_cons, or_iff_right (by simp)]
      cases he : event.error? with
      | none =>
        have hg : ({ p with events := event :: p.events } : Progress).stopped = false := hp
        rw [add_other he, ih hg hroom, errorCount_cons_of_other he]
      | some e =>
        cases event <;> cases he
        rw [add_error_of_going hp, errorCount_cons_error]
        by_cases hlast : limit ≠ 0 ∧ limit ≤ p.errors + 1
        · rw [if_pos hlast, replayAll_of_stopped rfl]
          have hfull : ¬(limit = 0 ∨ p.errors + (errorCount (heard trace) + 1) < limit) := by omega
          simp [hfull]
        · rw [if_neg hlast, ih rfl (by simp only; omega)]
          simp only [show p.errors + 1 + errorCount (heard trace) =
            p.errors + (errorCount (heard trace) + 1) by omega]

end Progress

end Walk

namespace DocumentValidator

open Walk

variable (v : DocumentValidator) (mapping : Mapping)

def trace : List Happening :=
  mappingTrace v.registry (.mapping mapping) v.schema.fields mapping .root

/-- The events of a walk under a limit. -/
def events (limit : Nat) : List Event := cut limit 0 (heard (v.trace mapping))

theorem walk_eq_replayAll (limit : Nat) :
    v.walk limit (.mapping mapping) mapping = Progress.replayAll limit {} (v.trace mapping) :=
  walkFields_eq_replayAll _ _ _

theorem sequence_walk (limit : Nat) :
    (v.walk limit (.mapping mapping) mapping).sequence = v.events mapping limit := by
  rw [walk_eq_replayAll, Progress.sequence_replayAll rfl]
  rfl

theorem checkStructure_mapping (options : Options) :
    v.checkStructure options (.mapping mapping) =
      { errors := (v.events mapping options.limit).filterMap Event.error?
        warnings := (v.events mapping options.limit).filterMap Event.warning?
        pending := (v.events mapping options.limit).filterMap Event.queued?
        crashed := (v.walk options.limit (.mapping mapping) mapping).stop == some .crash } := by
  unfold checkStructure
  simp only [Value.mapping?, Progress.outcome, sequence_walk]

theorem crashed_iff {options : Options} :
    (v.checkStructure options (.mapping mapping)).crashed = true ↔
      Happening.crash ∈ v.trace mapping ∧
        (options.limit = 0 ∨ errorCount (heard (v.trace mapping)) < options.limit) := by
  have hroom : options.limit = 0 ∨ ({} : Progress).errors < options.limit := by
    simp only
    omega
  rw [checkStructure_mapping, walk_eq_replayAll, beq_iff_eq,
    Progress.stop_eq_crash_iff rfl hroom, Nat.zero_add]

theorem crashed_imp_mem {options : Options}
    (h : (v.checkStructure options (.mapping mapping)).crashed = true) :
    Happening.crash ∈ v.trace mapping :=
  ((v.crashed_iff mapping).mp h).1

/-- Without a limit a walk reaches every crash on its way. -/
theorem crashed_iff_mem {options : Options} (hlimit : options.limit = 0) :
    (v.checkStructure options (.mapping mapping)).crashed = true ↔
      Happening.crash ∈ v.trace mapping := by
  rw [crashed_iff, and_iff_left (.inl hlimit)]

theorem events_zero : v.events mapping 0 = heard (v.trace mapping) := cut_zero 0 _

theorem events_isPrefix (limit : Nat) : v.events mapping limit <+: v.events mapping 0 := by
  rw [events_zero]
  exact cut_isPrefix limit 0 _

end DocumentValidator

end SettingsCheck
