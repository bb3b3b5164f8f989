import SettingsCheck.Proofs.Canonical
import SettingsCheck.Proofs.Location

namespace SettingsCheck

namespace FieldPath

theorem compareSteps_append_left (steps ps qs : List Step) :
    compareSteps (steps ++ ps) (steps ++ qs) = compareSteps ps qs := by
  induction steps with
  | nil => rfl
  | cons a steps ih =>
    have hself : Step.compare a a = .eq := Std.ReflCmp.compare_self
    rw [List.cons_append, List.cons_append, compareSteps, hself, ih]
    rfl

/-- Places below two children of a node are in the order of the children. -/
theorem compare_below {path p q : FieldPath} {a b : Step} (hab : Step.compare a b = .lt)
    (hp : Below ⟨path.steps ++ [a]⟩ p) (hq : Below ⟨path.steps ++ [b]⟩ q) :
    compare p q = .lt := by
  obtain ⟨ps, hps⟩ := hp
  obtain ⟨qs, hqs⟩ := hq
  have happend : compareSteps p.steps q.steps = compareSteps (a :: ps) (b :: qs) := by
    rw [← hps, ← hqs, List.append_assoc, List.append_assoc, compareSteps_append_left]
    rfl
  exact happend.trans (by rw [compareSteps, hab]; rfl)

end FieldPath

namespace Walk

/-- The checks that are queued. -/
def queue (trace : List Happening) : List PendingCheck :=
  trace.filterMap fun
    | .event e => e.queued?
    | .crash => none

@[simp]
theorem queue_nil : queue [] = [] := rfl

@[simp]
theorem queue_append (first rest : List Happening) :
    queue (first ++ rest) = queue first ++ queue rest := List.filterMap_append

theorem queue_flatMap {α : Type} (f : α → List Happening) (l : List α) :
    queue (l.flatMap f) = l.flatMap fun x => queue (f x) := List.filterMap_flatMap

theorem queue_sublist {trace longer : List Happening} (h : trace.Sublist longer) :
    (queue trace).Sublist (queue longer) := h.filterMap _

theorem queue_of_events (events : List Event) :
    queue (events.map .event) = events.filterMap Event.queued? := by
  simp only [queue, List.filterMap_map]
  rfl

/-- A queued check is one of the findings that have a place. -/
theorem paths_queue_sublist (trace : List Happening) :
    ((queue trace).map fun c => c.site.path).Sublist (places trace) := by
  induction trace with
  | nil => exact List.Sublist.refl _
  | cons h trace ih =>
    cases h with
    | crash => exact ih
    | event e =>
      cases e with
      | error e => exact ih.cons _
      | warning w => exact ih
      | queued c => exact ih.cons_cons _

theorem queue_unknownTrace (rules : List String) (path : FieldPath) (names : List String) :
    queue (unknownTrace rules path names) = [] := by
  simp [queue, unknownTrace, List.filterMap_map]

theorem queue_absenceTrace (rule : Rule) (mapping : Mapping) (path : FieldPath) :
    queue (absenceTrace rule mapping path) = [] := by
  unfold absenceTrace
  split <;> rfl

/-- The checks stand in the order of their places, and all of these are below the path. -/
structure InOrder (path : FieldPath) (checks : List PendingCheck) : Prop where
  ascending : checks.Pairwise fun a b => compare a.site.path b.site.path = .lt
  below : ∀ c ∈ checks, path.Below c.site.path

theorem InOrder.of_sublist {path : FieldPath} {checks : List PendingCheck}
    (h : (checks.map fun c => c.site.path).Sublist [path]) : InOrder path checks where
  ascending := List.pairwise_map.mp
    ((List.pairwise_singleton (fun p q => compare p q = .lt) path).sublist h)
  below c hc := by
    have heq : c.site.path = path := by simpa using h.subset (List.mem_map_of_mem hc)
    exact heq ▸ FieldPath.Below.refl path

/-- Children that are met in their order leave their checks in order. -/
theorem InOrder.flatMap {α : Type} {path : FieldPath} (step : α → Step) {l : List α}
    {checks : α → List PendingCheck}
    (hstep : l.Pairwise fun a b => Step.compare (step a) (step b) = .lt)
    (hone : ∀ a ∈ l, InOrder ⟨path.steps ++ [step a]⟩ (checks a)) :
    InOrder path (l.flatMap checks) where
  ascending := by
    refine List.pairwise_flatMap.mpr ⟨fun a ha => (hone a ha).ascending, ?_⟩
    refine hstep.imp_of_mem fun {a b} ha hb hab p hp q hq => ?_
    exact FieldPath.compare_below hab ((hone a ha).below p hp) ((hone b hb).below q hq)
  below c hc := by
    obtain ⟨a, ha, hc⟩ := List.mem_flatMap.mp hc
    exact (List.prefix_append _ _).trans ((hone a ha).below c hc)

variable {registry : Registry} {root : Value}

theorem inOrder_mappingTrace {rules : Rules} (hr : rules.Ordered) (mapping : Mapping)
    (path : FieldPath)
    (hfield : ∀ entry ∈ rules, ∀ value parent path,
      InOrder path (queue (valueTrace registry root entry.2 value parent path))) :
    InOrder path (queue (mappingTrace registry root rules mapping path)) := by
  rw [mappingTrace, queue_append, queue_unknownTrace, List.nil_append, fieldsTrace_eq_flatMap,
    queue_flatMap]
  refine InOrder.flatMap (fun entry => .key entry.1) ?_ fun entry he => ?_
  · exact (List.pairwise_map.mp hr).imp fun {a b} hab =>
      show compare a.1 b.1 = .lt from if_pos hab
  · cases mapping.get? entry.1 with
    | none => exact .of_sublist (by simp [fieldTrace, queue_absenceTrace])
    | some value =>
      simp only [fieldTrace]
      split
      · exact hfield entry he value mapping _
      · exact .of_sublist (by simp)

theorem inOrder_elementTraces (rule : Rule) (elements : List Value) (parent : Mapping)
    (path : FieldPath)
    (hone : ∀ value path,
      InOrder path (queue (valueTrace registry root rule value parent path))) :
    InOrder path (queue (itemsTrace registry root (some rule) elements parent path)) := by
  rw [itemsTrace, elementTraces_eq_flatMap, queue_flatMap]
  refine InOrder.flatMap (fun entry => .index entry.2) ?_ fun entry _ => hone _ _
  have hn : (elements.zipIdx.map Prod.snd).Pairwise (· < ·) := by
    rw [List.zipIdx_map_snd]
    exact List.pairwise_lt_range'
  exact (List.pairwise_map.mp hn).imp fun hab => Nat.compare_eq_lt.mpr hab

mutual
/-- Whatever a rule reaches is queued in the order of the places. -/
theorem inOrder_valueTrace : ∀ (rule : Rule), rule.Ordered → ∀ (value : Value) (parent : Mapping)
    (path : FieldPath), InOrder path (queue (valueTrace registry root rule value parent path))
  | ⟨fieldType, _, properties, items, _, _, _⟩, hr, value, parent, path => by
    have hnode : InOrder path (queue (nodeTrace registry fieldType ⟨root, parent, path⟩ value)) :=
      .of_sublist ((paths_queue_sublist _).trans (places_nodeTrace _ _ _))
    unfold valueTrace
    split
    next mapping => exact inOrder_mappingTrace hr.1 mapping path (inOrder_fields properties hr.2.1)
    next elements => exact inOrder_items items hr.2.2 elements parent path
    next => simpa using hnode

theorem inOrder_fields : ∀ (rules : List (String × Rule)), Rule.FieldsOrdered rules →
    ∀ entry ∈ rules, ∀ (value : Value) (parent : Mapping) (path : FieldPath),
    InOrder path (queue (valueTrace registry root entry.2 value parent path))
  | [], _, _, he => by simp at he
  | (name, rule) :: rest, hr, entry, he => by
    rcases List.mem_cons.mp he with rfl | he
    · exact inOrder_valueTrace rule hr.1
    · exact inOrder_fields rest hr.2 entry he

theorem inOrder_items : ∀ (items : Option Rule), Rule.ItemsOrdered items →
    ∀ (elements : List Value) (parent : Mapping) (path : FieldPath),
    InOrder path (queue (itemsTrace registry root items elements parent path))
  | none, _, _, _, _ => by
    rw [itemsTrace]
    exact .of_sublist (by simp)
  | some rule, hr, elements, parent, path =>
    inOrder_elementTraces rule elements parent path
      (fun value path => inOrder_valueTrace rule hr value parent path)
end

end Walk

/-- The deferred checks that a document calls for: one for every checked node whose type has such a
check, unless its value is null or the precheck does not accept it. -/
inductive Deferred (registry : Registry) (schema : Rules) (document : Mapping) :
    PendingCheck → Prop
  | node {rule : Rule} {value : Value} {parent : Mapping} {path : FieldPath} {name : String}
      {precheck : Option Validator} {dialogue : Site → Value → Http.Dialogue Verdict} :
    CheckedNode schema document rule value parent path →
    rule.fieldType = .custom name → value ≠ .null →
    registry.get? name = some (.deferred precheck dialogue) →
    (∀ validator, precheck = some validator →
      (validator ⟨.mapping document, parent, path⟩ value).verdict = .accepted) →
    Deferred registry schema document
      ⟨name, ⟨.mapping document, parent, path⟩, value,
        dialogue ⟨.mapping document, parent, path⟩ value⟩

/-- The nearest mapping above a place: the steps from it to the place are a name and, where the name
leads to an array, indices. -/
def Encloses (root : Value) (mapping : Mapping) (place : FieldPath) : Prop :=
  ∃ (above : FieldPath) (name : String) (indices : List Nat),
    place.steps = above.steps ++ .key name :: indices.map .index ∧
    root.at? above = some (.mapping mapping)

theorem encloses_key {root : Value} {mapping : Mapping} {path : FieldPath}
    (h : root.at? path = some (.mapping mapping)) (name : String) :
    Encloses root mapping (path.key name) :=
  ⟨path, name, [], rfl, h⟩

theorem Encloses.index {root : Value} {mapping : Mapping} {place : FieldPath}
    (h : Encloses root mapping place) (i : Nat) : Encloses root mapping (place.index i) := by
  obtain ⟨above, name, indices, hsteps, hat⟩ := h
  refine ⟨above, name, indices ++ [i], ?_, hat⟩
  simp [FieldPath.index, hsteps]

theorem encloses_of_checkedNode {schema : Schema} {document : Mapping} :
    ∀ {rule : Rule} {value : Value} {parent : Mapping} {path : FieldPath},
    CheckedNode schema.fields document rule value parent path →
    Encloses (.mapping document) parent path
  | _, _, _, _, .element hn _ _ _ => (encloses_of_checkedNode hn).index _
  | _, _, _, _, .field hm _ _ _ => encloses_key (at?_of_checkedMapping hm).1 _

namespace DocumentValidator

variable {v : DocumentValidator} {document : Mapping}

theorem occurs_queued_iff {c : PendingCheck} :
    Occurs v.registry v.schema.fields document (.event (.queued c)) ↔
      Deferred v.registry v.schema.fields document c := by
  constructor
  · intro h
    obtain ⟨_, _, _, _, _, hn, ht, hv, hm⟩ := occurs_at_custom h rfl
    obtain ⟨_, _, hget, hpre, rfl⟩ := Walk.queued_mem_customTrace.mp hm
    exact .node hn ht hv hget hpre
  · rintro ⟨hn, ht, hv, hget, hpre⟩
    have hm := Walk.queued_mem_customTrace.mpr ⟨_, _, hget, hpre, rfl⟩
    exact .node hn (Walk.mem_nodeTrace.mpr (.inr ⟨_, ht, hv, hm⟩))

/-- A walk without limit that nothing breaks off leaves all that occurs. -/
theorem mem_events_zero_iff (hnone : Walk.Happening.crash ∉ v.trace document) {event : Event} :
    event ∈ v.events document 0 ↔ Occurs v.registry v.schema.fields document (.event event) := by
  rw [← mem_trace_iff, ← Walk.heard_eq_filterMap hnone, ← events_zero]
  refine ⟨List.mem_map_of_mem, fun h => ?_⟩
  obtain ⟨_, hm, heq⟩ := List.mem_map.mp h
  cases heq
  exact hm

/-- The queue is in the order of the places, whatever the limits. -/
theorem pairwise_pending (v : DocumentValidator) (options : Options) (document : Value) :
    (v.checkStructure options document).pending.Pairwise fun a b =>
      compare a.site.path b.site.path = .lt := by
  cases document with
  | mapping m =>
    have htrace : Walk.InOrder .root (Walk.queue (v.trace m)) :=
      Walk.inOrder_mappingTrace v.schema.ordered.1 m .root
        (Walk.inOrder_fields v.schema.fields v.schema.ordered.2)
    have hsub : ((v.events m options.limit).map Walk.Happening.event).Sublist (v.trace m) :=
      ((Walk.cut_isPrefix _ 0 _).sublist.map _).trans (Walk.heard_isPrefix _).sublist
    have hqueue := Walk.queue_sublist hsub
    rw [Walk.queue_of_events] at hqueue
    rw [checkStructure_mapping]
    exact htrace.ascending.sublist hqueue
  | _ => exact .nil

end DocumentValidator

namespace CheckRun

theorem State.dispatched_record (s : State) (id : Nat) (result : TaskResult) :
    (s.record id result).dispatched = s.dispatched := by
  unfold record
  split <;> rfl

theorem State.dispatched_drain (s : State) : s.drain.dispatched = s.dispatched := by
  have hfold : ∀ (queue : List (Nat × TaskResult)) (r : State),
      (queue.foldl (fun r entry => r.record entry.1 entry.2) r).dispatched = r.dispatched := by
    intro queue
    induction queue with
    | nil => exact fun _ => rfl
    | cons entry rest ih => exact fun r => (ih _).trans (r.dispatched_record _ _)
  exact hfold s.queue _

theorem State.dispatched_move (s : State) (m : Move) : (s.move m).dispatched = s.dispatched := by
  unfold move
  split
  · rfl
  · cases m with
    | ends id result => simp only; split <;> rfl
    | vanishes id => rfl
    | takes =>
      simp only
      split
      next => rfl
      next => exact State.dispatched_record _ _ _
    | closes => simp only; split <;> rfl
    | cancels => exact s.dispatched_drain

/-- No move starts a task or takes one back. -/
theorem State.dispatched_moves (s : State) (ms : List Move) :
    (s.moves ms).dispatched = s.dispatched := by
  induction ms generalizing s with
  | nil => rfl
  | cons m ms ih => exact (ih _).trans (s.dispatched_move m)

theorem dispatched_outcomeOf (labels : List CheckLabel) (before : Bool) (ms : List Move) :
    (outcomeOf labels before ms).dispatched = if before then 0 else labels.length := by
  unfold outcomeOf
  cases labels with
  | nil => simp
  | cons label rest =>
    cases before with
    | true => rfl
    | false => exact State.dispatched_moves _ _

end CheckRun

namespace StructuralOutcome

/-- None of the queued checks is run: they are switched off, the document could not be walked, the
walk stopped at its first error, or the run is cancelled before it begins. -/
def Skips (s : StructuralOutcome) (options : Options) (before : Bool) : Prop :=
  options.runDeferred = false ∨ s.fatal = true ∨ (options.failFast = true ∧ s.errors ≠ []) ∨
    before = true

theorem toRun_of_not_skips {s : StructuralOutcome} {options : Options} {before : Bool}
    (h : ¬s.Skips options before) : s.toRun options = s.pending ∧ before = false := by
  unfold toRun
  simp only [Skips, not_or, not_and] at h
  obtain ⟨hdeferred, hfatal, hhalted, hbefore⟩ := h
  simp_all

theorem toRun_of_skips {s : StructuralOutcome} {options : Options} {before : Bool}
    (h : s.Skips options before) : s.toRun options = [] ∨ before = true := by
  unfold toRun
  obtain hdeferred | hfatal | ⟨hfast, herrors⟩ | hbefore := h
  · simp [hdeferred]
  · simp [hfatal]
  · simp [hfast, herrors]
  · exact .inr hbefore

theorem checksRun_conclude (s : StructuralOutcome) (options : Options)
    (complete : PendingCheck → CheckRun.Completion) (before : Bool) (ms : List CheckRun.Move) :
    (s.conclude options
      (CheckRun.outcomeOf ((s.checks options complete).map Prod.fst) before ms)).checksRun =
      if before then 0 else (s.toRun options).length := by
  rw [conclude, CheckRun.dispatched_outcomeOf, checks, List.length_map, List.length_map]

end StructuralOutcome

/-- The queue of a walk without limits is exact: the checks that the document calls for, once each
and in the order of their places, each with the whole document and the nearest mapping above it. A
run dispatches the whole queue, in whatever order its tasks move, unless it skips all of it. -/
theorem DocumentValidator.queue_exact (v : DocumentValidator) (options : Options) :
    (∀ document : Mapping, options.failFast = false → options.maxErrors = 0 →
      let root := Value.mapping document
      let s := v.checkStructure options root
      (s.crashed = true ↔ BreaksOff v.registry v.schema.fields document) ∧
      (s.crashed = false →
        (∀ c, c ∈ s.pending ↔ Deferred v.registry v.schema.fields document c) ∧
        s.pending.Pairwise (fun a b => compare a.site.path b.site.path = .lt) ∧
        ∀ c ∈ s.pending, c.site.root = root ∧ root.at? c.site.path = some c.value ∧
          Encloses root c.site.parent c.site.path)) ∧
    ∀ (document : Value) (complete : PendingCheck → CheckRun.Completion) (before : Bool)
      (ms : List CheckRun.Move),
      let s := v.checkStructure options document
      let checks := s.checks options complete
      let r := s.conclude options (CheckRun.outcomeOf (checks.map Prod.fst) before ms)
      (¬s.Skips options before → r.checksRun = s.pending.length ∧
        checks = s.pending.map fun c => (⟨c.validator, c.site.path⟩, complete c)) ∧
      (s.Skips options before → r.checksRun = 0) := by
  constructor
  · intro document hfast hmax root s
    have hlimit : options.limit = 0 := by simp [Options.limit, hfast, hmax]
    have hcrash := v.crashed_iff_mem document hlimit
    have hbreaks := hcrash.trans (mem_trace_iff.trans occurs_crash_iff)
    refine ⟨hbreaks, fun hgoing => ?_⟩
    have hnone : Walk.Happening.crash ∉ v.trace document := fun hm =>
      absurd (hcrash.mpr hm) (by simpa [s] using hgoing)
    have hmem : ∀ c, c ∈ s.pending ↔ Deferred v.registry v.schema.fields document c := by
      intro c
      rw [show s = _ from v.checkStructure_mapping document options, hlimit]
      exact Event.mem_filterMap_queued?.trans ((mem_events_zero_iff hnone).trans occurs_queued_iff)
    refine ⟨hmem, v.pairwise_pending options root, fun c hc => ?_⟩
    obtain ⟨hn, _, _, _, _⟩ := (hmem c).mp hc
    exact ⟨rfl, (at?_of_checkedNode hn).1, encloses_of_checkedNode hn⟩
  · intro document complete before ms s checks r
    have hrun : r.checksRun = if before then 0 else (s.toRun options).length :=
      s.checksRun_conclude options complete before ms
    refine ⟨fun hruns => ?_, fun hskips => ?_⟩
    · obtain ⟨hall, hbefore⟩ := StructuralOutcome.toRun_of_not_skips hruns
      rw [hrun, hall, hbefore]
      refine ⟨rfl, ?_⟩
      simp only [checks, StructuralOutcome.checks, hall]
    · obtain hnone | hbefore := StructuralOutcome.toRun_of_skips hskips
      · simp [hrun, hnone]
      · simp [hrun, hbefore]

namespace Sample

/-- A table of cells, whose contents are tested by a deferred check if they look right. -/
def tableRules : Rules :=
  [("rows",
    { fieldType := .array
      items := some { fieldType := .array, items := some { fieldType := .custom "cell" } } })]

theorem tableRules_ordered : tableRules.Ordered ∧ Rule.FieldsOrdered tableRules := by
  simp only [tableRules, Rule.FieldsOrdered, Rule.ItemsOrdered, Rule.Ordered]
  decide

def notBlank : Validator := fun _ value =>
  if value.string? = some "" then .refuse "blank" else .accept

def tableValidator : DocumentValidator where
  schema := ⟨tableRules, tableRules_ordered, by decide⟩
  registry := ⟨[("cell", .deferred (some notBlank) fun _ _ => .done .accepted)]⟩
  resolved := by decide

def table : Mapping :=
  [("rows", .sequence
    [.sequence [.string "a", .null, .string ""], .sequence [], .sequence [.string "b"]])]

/-- The place of a cell. -/
def cell (row column : Nat) : FieldPath := ((FieldPath.root.key "rows").index row).index column

theorem two_cells_queued :
    let s := tableValidator.checkStructure {} (.mapping table)
    s.errors.length = 2 ∧ (s.pending.map fun c => c.site.path) = [cell 0 0, cell 2 0] ∧
    (∀ c, c ∈ s.pending ↔ Deferred tableValidator.registry tableRules table c) ∧
    (∀ c ∈ s.pending, Encloses (.mapping table) c.site.parent c.site.path) ∧
    ∀ ms, (s.conclude {} (CheckRun.outcomeOf
      ((s.checks {} fun _ => ⟨none, .crashed⟩).map Prod.fst) false ms)).checksRun = 2 := by
  intro s
  obtain ⟨hqueue, hrun⟩ := tableValidator.queue_exact {}
  obtain ⟨_, hexact⟩ := hqueue table rfl rfl
  have hgoing : s.crashed = false := by decide
  obtain ⟨hmem, _, hplaces⟩ := hexact hgoing
  have hlength : s.pending.length = 2 := by decide
  have hruns : ¬s.Skips {} false := by
    have hfatal : s.fatal = false := by decide
    simp [StructuralOutcome.Skips, hfatal]
  refine ⟨by decide, by decide, hmem, fun c hc => (hplaces c hc).2.2, fun ms => ?_⟩
  exact ((hrun _ _ _ ms).1 hruns).1.trans hlength

end Sample

end SettingsCheck
