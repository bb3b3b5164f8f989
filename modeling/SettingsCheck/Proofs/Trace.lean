import SettingsCheck.Report

/-!
The trace of a walk: everything a walk would do if neither a limit nor a crash stopped it. It is a
plain function of the schema and the document, and the walk is its replay under a limit.
-/

namespace SettingsCheck.Walk

inductive Happening where
  | event (e : Event)
  /-- A validator breaks off without an answer. -/
  | crash

/-- The steps of the walk at one node, without what lies below it. -/
def unknownTrace (rules : List String) (path : FieldPath) (names : List String) : List Happening :=
  (names.filter (!rules.contains ·)).map fun name =>
    .event (.error (.unknownField (path.key name)))

def validatorTrace (name : String) (validator : Validator) (site : Site) (value : Value) :
    List Happening :=
  let judgement := validator site value
  judgement.warnings.map (fun message => .event (.warning ⟨site.path, message⟩)) ++
    match judgement.verdict with
    | .accepted => []
    | .refused reason => [.event (.error (.custom site.path name reason))]
    | .crashed => [.crash]

def customTrace (registry : Registry) (name : String) (site : Site) (value : Value) :
    List Happening :=
  match registry.get? name with
  | none =>
    [.event (.error
      (.custom site.path name ("no validator registered for type '" ++ name ++ "'")))]
  | some (.immediate validator) => validatorTrace name validator site value
  | some (.deferred none dialogue) => [.event (.queued ⟨name, site, value, dialogue site value⟩)]
  | some (.deferred (some validator) dialogue) =>
    validatorTrace name validator site value ++
      if (validator site value).verdict = .accepted then
        [.event (.queued ⟨name, site, value, dialogue site value⟩)]
      else []

/-- What happens at a node itself. -/
def nodeTrace (registry : Registry) (fieldType : FieldType) (site : Site) (value : Value) :
    List Happening :=
  let mismatch := [Happening.event (.error (.typeMismatch site.path (fieldType.mismatch value)))]
  if value.isNull then mismatch
  else match fieldType with
    | .object => if value.mapping?.isSome then [] else mismatch
    | .array => if value.sequence?.isSome then [] else mismatch
    | .custom name => customTrace registry name site value
    | scalar => if scalar.accepts value then [] else mismatch

/-- What happens at a field that the mapping does not have. -/
def absenceTrace (rule : Rule) (mapping : Mapping) (path : FieldPath) : List Happening :=
  if rule.requiredIn mapping && rule.validatedIn mapping then
    [.event (.error (.missingField path))]
  else []

/-- The traces of the elements of an array, from the one with index `i` on. -/
def elementTraces (visit : Value → FieldPath → List Happening) (path : FieldPath) :
    Nat → List Value → List Happening
  | _, [] => []
  | i, v :: rest => visit v (path.index i) ++ elementTraces visit path (i + 1) rest

mutual
def valueTrace (registry : Registry) (root : Value) :
    Rule → Value → Mapping → FieldPath → List Happening
  | ⟨fieldType, _, properties, items, _, _, _⟩, value, parent, path =>
    nodeTrace registry fieldType ⟨root, parent, path⟩ value ++
      match fieldType, value with
      | .object, .mapping mapping =>
        unknownTrace (properties.map Prod.fst) path (Fields.names mapping) ++
          fieldsTrace registry root properties mapping path
      | .array, .sequence elements => itemsTrace registry root items elements parent path
      | _, _ => []

def fieldsTrace (registry : Registry) (root : Value) :
    List (String × Rule) → Mapping → FieldPath → List Happening
  | [], _, _ => []
  | (name, rule) :: rest, mapping, path =>
    (match mapping.get? name with
      | none => absenceTrace rule mapping (path.key name)
      | some value =>
        if rule.validatedIn mapping then
          valueTrace registry root rule value mapping (path.key name)
        else []) ++ fieldsTrace registry root rest mapping path

def itemsTrace (registry : Registry) (root : Value) :
    Option Rule → List Value → Mapping → FieldPath → List Happening
  | none, _, _, _ => []
  | some rule, elements, parent, path =>
    elementTraces (fun v path => valueTrace registry root rule v parent path) path 0 elements
end

/-- The trace of a mapping whose fields the rules declare. -/
def mappingTrace (registry : Registry) (root : Value) (rules : Rules) (mapping : Mapping)
    (path : FieldPath) : List Happening :=
  unknownTrace rules.names path mapping.names ++ fieldsTrace registry root rules mapping path

namespace Progress

/-- Nothing more happens to a walk that has stopped. -/
def replay (limit : Nat) (p : Progress) (h : Happening) : Progress :=
  if p.stopped then p
  else match h with
    | .event e => p.add limit e
    | .crash => { p with stop := some .crash }

def replayAll (limit : Nat) (p : Progress) (trace : List Happening) : Progress :=
  trace.foldl (replay limit) p

variable {limit : Nat} {p : Progress}

@[simp]
theorem replayAll_nil : p.replayAll limit [] = p := rfl

@[simp]
theorem replayAll_cons (h : Happening) (trace : List Happening) :
    p.replayAll limit (h :: trace) = (p.replay limit h).replayAll limit trace := rfl

theorem replayAll_append (first rest : List Happening) :
    p.replayAll limit (first ++ rest) = (p.replayAll limit first).replayAll limit rest :=
  List.foldl_append

theorem replay_of_stopped (hp : p.stopped = true) (h : Happening) : p.replay limit h = p :=
  if_pos hp

theorem replay_event (hp : p.stopped = false) (e : Event) :
    p.replay limit (.event e) = p.add limit e := by
  simp [replay, hp]

theorem replay_crash (hp : p.stopped = false) :
    p.replay limit .crash = { p with stop := some .crash } := by
  simp [replay, hp]

theorem addError_eq_replay (e : ValidationError) :
    p.addError limit e = p.replay limit (.event (.error e)) := by
  cases hp : p.stopped with
  | true => simp [addError, add, replay, hp]
  | false => exact (replay_event hp _).symm

theorem replayAll_of_stopped (hp : p.stopped = true) (trace : List Happening) :
    p.replayAll limit trace = p := by
  induction trace with
  | nil => rfl
  | cons h trace ih => rw [replayAll_cons, replay_of_stopped hp, ih]

theorem addWarnings_eq_replayAll (hp : p.stopped = false) (path : FieldPath)
    (messages : List String) :
    addWarnings limit path p messages =
      p.replayAll limit (messages.map fun message => .event (.warning ⟨path, message⟩)) := by
  unfold addWarnings
  induction messages generalizing p with
  | nil => rfl
  | cons message messages ih =>
    rw [List.foldl_cons, List.map_cons, replayAll_cons, replay_event hp]
    exact ih hp

/-- Warnings never stop a walk. -/
theorem stopped_addWarnings (path : FieldPath) (messages : List String) :
    (addWarnings limit path p messages).stopped = p.stopped := by
  unfold addWarnings
  induction messages generalizing p with
  | nil => rfl
  | cons message messages ih => rw [List.foldl_cons, ih]; rfl

end Progress

open Progress

variable {s : Setting} {p : Progress}

theorem addUnknown_eq_replayAll (rules : List String) (path : FieldPath) (names : List String) :
    addUnknown s rules path names p = p.replayAll s.limit (unknownTrace rules path names) := by
  unfold addUnknown unknownTrace
  induction names generalizing p with
  | nil => rfl
  | cons name names ih =>
    rw [List.foldl_cons, ih, List.filter_cons]
    by_cases hr : name ∈ rules
    · simp [hr]
    · simp [hr, addError_eq_replay]

theorem runValidator_eq_replayAll {name : String} {validator : Validator} {site : Site}
    {value : Value} (hp : p.stopped = false) :
    runValidator s name validator site value p =
      (p.replayAll s.limit (validatorTrace name validator site value),
        decide ((validator site value).verdict = .accepted)) := by
  have hw : (addWarnings s.limit site.path p (validator site value).warnings).stopped = false :=
    (stopped_addWarnings _ _).trans hp
  unfold runValidator validatorTrace
  rw [replayAll_append, ← addWarnings_eq_replayAll hp]
  cases hv : (validator site value).verdict with
  | accepted => simp [hv]
  | refused reason => simp [hv, addError_eq_replay]
  | crashed => simp [hv, replay_crash hw]

/-- A validator that accepts leaves the walk going, so its check is queued. -/
theorem stopped_validatorTrace {name : String} {validator : Validator} {site : Site} {value : Value}
    (hp : p.stopped = false) (ha : (validator site value).verdict = .accepted) :
    (p.replayAll s.limit (validatorTrace name validator site value)).stopped = false := by
  have htrace : validatorTrace name validator site value =
      (validator site value).warnings.map fun message =>
        .event (.warning ⟨site.path, message⟩) := by
    simp [validatorTrace, ha]
  rw [htrace, ← addWarnings_eq_replayAll hp, stopped_addWarnings, hp]

theorem runCustom_eq_replayAll {name : String} {site : Site} {value : Value}
    (hp : p.stopped = false) :
    runCustom s name site value p =
      p.replayAll s.limit (customTrace s.registry name site value) := by
  unfold runCustom customTrace
  match s.registry.get? name with
  | none => exact addError_eq_replay _
  | some (.immediate validator) => simp only [runValidator_eq_replayAll hp]
  | some (.deferred none dialogue) => simp [replay_event hp]
  | some (.deferred (some validator) dialogue) =>
    simp only [runValidator_eq_replayAll hp]
    by_cases ha : (validator site value).verdict = .accepted
    · simp [ha, replayAll_append, replay_event (stopped_validatorTrace hp ha)]
    · simp [ha]

theorem eachElement_eq_replayAll {visit : Value → FieldPath → Progress → Progress}
    {trace : Value → FieldPath → List Happening} {path : FieldPath}
    (hvisit : ∀ v path p, Progress.stopped p = false →
      visit v path p = p.replayAll s.limit (trace v path)) (elements : List Value) (i : Nat) :
    eachElement visit path i elements p =
      p.replayAll s.limit (elementTraces trace path i elements) := by
  induction elements generalizing i p with
  | nil => rfl
  | cons v rest ih =>
    unfold eachElement elementTraces
    split
    next hp => exact (replayAll_of_stopped hp _).symm
    next hp =>
      rw [ih, hvisit v _ p (by simpa using hp), replayAll_append]

mutual
/-- A walk that is still going does at a node what the trace says. -/
theorem matchValue_eq_replayAll : ∀ (rule : Rule) (value : Value) (parent : Mapping)
    (path : FieldPath) (p : Progress), p.stopped = false →
    matchValue s rule value parent path p =
      p.replayAll s.limit (valueTrace s.registry s.root rule value parent path)
  | ⟨fieldType, _, properties, items, _, _, _⟩, value, parent, path, p, hp => by
    unfold matchValue valueTrace nodeTrace
    by_cases hn : value.isNull = true
    · -- null is a mismatch for every type, before the types are told apart
      cases value <;> simp_all [Value.isNull, addError_eq_replay]
    · simp only [hn, Bool.false_eq_true, if_false]
      cases fieldType with
      | object =>
        cases value with
        | mapping mapping =>
          simp only [Value.mapping?, Option.isSome_some, if_true, replayAll_append]
          rw [← addUnknown_eq_replayAll]
          exact matchFields_eq_replayAll properties mapping path _
        | _ => simp_all [Value.isNull, Value.mapping?, addError_eq_replay]
      | array =>
        cases value with
        | sequence elements =>
          simp only [Value.sequence?, Option.isSome_some, if_true]
          exact matchElements_eq_replayAll items elements parent path p
        | _ => simp_all [Value.isNull, Value.sequence?, addError_eq_replay]
      | custom name => simp [runCustom_eq_replayAll hp]
      | _ =>
        simp only [List.append_nil]
        split
        · rfl
        · exact addError_eq_replay _

theorem matchFields_eq_replayAll : ∀ (rules : List (String × Rule)) (mapping : Mapping)
    (path : FieldPath) (p : Progress),
    matchFields s rules mapping path p =
      p.replayAll s.limit (fieldsTrace s.registry s.root rules mapping path)
  | [], _, _, _ => rfl
  | (name, rule) :: rest, mapping, path, p => by
    unfold matchFields fieldsTrace
    by_cases hp : p.stopped = true
    · simp [hp, replayAll_of_stopped]
    · have hp : p.stopped = false := by simpa using hp
      simp only [hp, Bool.false_eq_true, if_false]
      rw [replayAll_append, matchFields_eq_replayAll rest]
      congr 1
      cases mapping.get? name with
      | none =>
        simp only [absenceTrace]
        split <;> simp [addError_eq_replay]
      | some value =>
        simp only
        split
        · exact matchValue_eq_replayAll rule value mapping _ p hp
        · rfl

theorem matchElements_eq_replayAll : ∀ (items : Option Rule) (elements : List Value)
    (parent : Mapping) (path : FieldPath) (p : Progress),
    matchElements s items elements parent path p =
      p.replayAll s.limit (itemsTrace s.registry s.root items elements parent path)
  | none, _, _, _, _ => rfl
  | some rule, elements, parent, path, p => by
    unfold matchElements itemsTrace
    exact eachElement_eq_replayAll
      (fun v path p hp => matchValue_eq_replayAll rule v parent path p hp) elements 0
end

theorem walkFields_eq_replayAll (rules : Rules) (mapping : Mapping) (path : FieldPath) :
    walkFields s rules mapping path p =
      p.replayAll s.limit (mappingTrace s.registry s.root rules mapping path) := by
  unfold walkFields mappingTrace
  rw [matchFields_eq_replayAll, addUnknown_eq_replayAll, replayAll_append]
  rfl

end SettingsCheck.Walk
