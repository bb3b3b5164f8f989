import SettingsCheck.Proofs.Reach
import Mathlib.Data.List.Forall2

/-!
What observers see of a trace. If the validators look the same to two observers, then so do the
traces of a value, whatever the registries, the documents around the value and the mappings beside
it.
-/

namespace SettingsCheck

namespace Walk

section Traces

variable {α : Type} {view view' : Happening → List α} {registry registry' : Registry}
  {root root' : Value} {Beside : Mapping → Mapping → Prop}

/-- The validators of two registries look the same to two observers, if the mappings beside their
values correspond. -/
structure SameChecks (view view' : Happening → List α) (registry registry' : Registry)
    (root root' : Value) (Beside : Mapping → Mapping → Prop) : Prop where
  error : ∀ e, view (.event (.error e)) = view' (.event (.error e))
  refl : ∀ mapping, Beside mapping mapping
  custom : ∀ (name : String) (value : Value) (path : FieldPath) {parent parent' : Mapping},
    Beside parent parent' →
    (customTrace registry name ⟨root, parent, path⟩ value).flatMap view =
      (customTrace registry' name ⟨root', parent', path⟩ value).flatMap view'

theorem seen_nodeTrace (h : SameChecks view view' registry registry' root root' Beside)
    {parent parent' : Mapping} (hb : Beside parent parent') (fieldType : FieldType) (value : Value)
    (path : FieldPath) :
    (nodeTrace registry fieldType ⟨root, parent, path⟩ value).flatMap view =
      (nodeTrace registry' fieldType ⟨root', parent', path⟩ value).flatMap view' := by
  have hmismatch :
      [Happening.event (.error (.typeMismatch path (fieldType.mismatch value)))].flatMap view =
      [Happening.event (.error (.typeMismatch path (fieldType.mismatch value)))].flatMap view' := by
    rw [List.flatMap_cons, List.flatMap_cons, h.error, List.flatMap_nil, List.flatMap_nil]
  unfold nodeTrace
  cases value.isNull with
  | true => exact hmismatch
  | false =>
    cases fieldType with
    | custom name => exact h.custom name value path hb
    | _ =>
      simp only [Bool.false_eq_true, if_false]
      split
      · rfl
      · exact hmismatch

theorem seen_unknownTrace (h : SameChecks view view' registry registry' root root' Beside)
    (rules : List String) (path : FieldPath) (names : List String) :
    (unknownTrace rules path names).flatMap view =
      (unknownTrace rules path names).flatMap view' := by
  simp only [unknownTrace, List.flatMap_map, h.error]

theorem seen_absenceTrace (h : SameChecks view view' registry registry' root root' Beside)
    (rule : Rule) (mapping : Mapping) (path : FieldPath) :
    (absenceTrace rule mapping path).flatMap view =
      (absenceTrace rule mapping path).flatMap view' := by
  unfold absenceTrace
  split
  · rw [List.flatMap_cons, List.flatMap_cons, h.error, List.flatMap_nil, List.flatMap_nil]
  · rfl

theorem seen_elementTraces {visit visit' : Value → FieldPath → List Happening}
    {elements elements' : List Value}
    (h : List.Forall₂ (fun value value' => ∀ path,
      (visit value path).flatMap view = (visit' value' path).flatMap view') elements elements')
    (path : FieldPath) (i : Nat) :
    (elementTraces visit path i elements).flatMap view =
      (elementTraces visit' path i elements').flatMap view' := by
  induction h generalizing i with
  | nil => rfl
  | cons hvalue _ ih =>
    rw [elementTraces, elementTraces, List.flatMap_append, List.flatMap_append, hvalue, ih]

mutual
theorem seen_valueTrace (h : SameChecks view view' registry registry' root root' Beside) :
    ∀ (rule : Rule) (value : Value) {parent parent' : Mapping} (path : FieldPath),
    Beside parent parent' →
    (valueTrace registry root rule value parent path).flatMap view =
      (valueTrace registry' root' rule value parent' path).flatMap view'
  | ⟨fieldType, _, properties, items, _, _, _⟩, value, parent, parent', path, hb => by
    unfold valueTrace
    rw [List.flatMap_append, List.flatMap_append, seen_nodeTrace h hb]
    congr 1
    split
    next mapping =>
      rw [List.flatMap_append, List.flatMap_append, seen_unknownTrace h,
        seen_fieldsTrace h properties]
    next elements => exact seen_itemsTrace h items elements path hb
    next => rfl

theorem seen_fieldsTrace (h : SameChecks view view' registry registry' root root' Beside) :
    ∀ (rules : List (String × Rule)) (mapping : Mapping) (path : FieldPath),
    (fieldsTrace registry root rules mapping path).flatMap view =
      (fieldsTrace registry' root' rules mapping path).flatMap view'
  | [], _, _ => by rw [fieldsTrace, fieldsTrace, List.flatMap_nil, List.flatMap_nil]
  | (name, rule) :: rest, mapping, path => by
    unfold fieldsTrace
    rw [List.flatMap_append, List.flatMap_append, seen_fieldsTrace h rest]
    congr 1
    split
    · exact seen_absenceTrace h rule mapping _
    · split
      · exact seen_valueTrace h rule _ _ (h.refl mapping)
      · rfl

theorem seen_itemsTrace (h : SameChecks view view' registry registry' root root' Beside) :
    ∀ (items : Option Rule) (elements : List Value) {parent parent' : Mapping} (path : FieldPath),
    Beside parent parent' →
    (itemsTrace registry root items elements parent path).flatMap view =
      (itemsTrace registry' root' items elements parent' path).flatMap view'
  | none, _, _, _, _, _ => by
    rw [itemsTrace, itemsTrace, List.flatMap_nil, List.flatMap_nil]
  | some rule, elements, _, _, path, hb => by
    rw [itemsTrace, itemsTrace]
    exact seen_elementTraces
      (List.forall₂_same.mpr fun value _ path => seen_valueTrace h rule value path hb) path 0
end

theorem seen_mappingTrace (h : SameChecks view view' registry registry' root root' Beside)
    (rules : Rules) (mapping : Mapping) (path : FieldPath) :
    (mappingTrace registry root rules mapping path).flatMap view =
      (mappingTrace registry' root' rules mapping path).flatMap view' := by
  unfold mappingTrace
  rw [List.flatMap_append, List.flatMap_append, seen_unknownTrace h, seen_fieldsTrace h]

end Traces

/-- What an observer of events sees of a trace. No crash is overlooked. -/
def Happening.seen (view : Event → Option Event) : Happening → List Happening
  | .event e => ((view e).map .event).toList
  | .crash => [.crash]

/-- The observer sees every error as it is, and takes nothing else for one. -/
structure SeesErrors (view : Event → Option Event) : Prop where
  error : ∀ e, view (.error e) = some (.error e)
  other : ∀ event event', event.error? = none → view event = some event' → event'.error? = none

variable {view : Event → Option Event} {limit met : Nat}

theorem heard_flatMap_seen (trace : List Happening) :
    heard (trace.flatMap (Happening.seen view)) = (heard trace).filterMap view := by
  induction trace with
  | nil => rfl
  | cons h trace ih =>
    cases h with
    | crash => rfl
    | event event =>
      rw [List.flatMap_cons, heard]
      cases hs : view event with
      | none =>
        rw [List.filterMap_cons_none hs, ← ih]
        simp [Happening.seen, hs]
      | some event' =>
        rw [List.filterMap_cons_some hs, ← ih]
        simp [Happening.seen, hs, heard]

theorem cut_filterMap (hv : SeesErrors view) (events : List Event) :
    cut limit met (events.filterMap view) = (cut limit met events).filterMap view := by
  induction events generalizing met with
  | nil => rfl
  | cons event events ih =>
    cases he : event.error? with
    | some e =>
      cases event <;> cases he
      rw [List.filterMap_cons_some (hv.error e), cut, cut, List.filterMap_cons_some (hv.error e)]
      split
      · rfl
      · rw [ih]
    | none =>
      rw [cut_cons_of_other he]
      cases hs : view event with
      | none => rw [List.filterMap_cons_none hs, List.filterMap_cons_none hs, ih]
      | some event' =>
        rw [List.filterMap_cons_some hs, List.filterMap_cons_some hs,
          cut_cons_of_other (hv.other event event' he hs), ih]

theorem filterMap_error?_seen (hv : SeesErrors view) (events : List Event) :
    (events.filterMap view).filterMap Event.error? = events.filterMap Event.error? := by
  rw [List.filterMap_filterMap]
  refine List.filterMap_congr fun event _ => ?_
  cases he : event.error? with
  | some e =>
    cases event <;> cases he
    rw [hv.error e]
    rfl
  | none =>
    cases hs : view event with
    | none => rfl
    | some event' => exact hv.other event event' he hs

/-- What a function makes of the events that are seen does not tell apart what looks the same. -/
theorem filterMap_eq_of_seen {α : Type} (f : Event → Option α) {g : Event → Option α}
    {events events' : List Event} (h : events.filterMap view = events'.filterMap view)
    (hfg : ∀ event, (view event).bind f = g event) :
    events.filterMap g = events'.filterMap g := by
  have hcongr : g = fun event => (view event).bind f := funext fun event => (hfg event).symm
  rw [hcongr, ← List.filterMap_filterMap, h, List.filterMap_filterMap]

theorem crash_mem_flatMap_seen (view : Event → Option Event) {trace : List Happening} :
    .crash ∈ trace.flatMap (Happening.seen view) ↔ .crash ∈ trace := by
  rw [List.mem_flatMap]
  refine ⟨?_, fun h => ⟨_, h, List.mem_singleton_self _⟩⟩
  rintro ⟨h, hm, hc⟩
  cases h with
  | crash => exact hm
  | event event => cases hs : view event <;> simp [Happening.seen, hs] at hc

end Walk

namespace DocumentValidator

open Walk

variable {v v' : DocumentValidator} {document document' : Mapping} {view : Event → Option Event}

/-- If the traces of two checks look the same, then so do their events under any limit. -/
theorem seen_events (hv : SeesErrors view)
    (h : (v.trace document).flatMap (Happening.seen view) =
      (v'.trace document').flatMap (Happening.seen view)) (limit : Nat) :
    (v.events document limit).filterMap view = (v'.events document' limit).filterMap view := by
  rw [events, events, ← cut_filterMap hv, ← cut_filterMap hv, ← heard_flatMap_seen,
    ← heard_flatMap_seen, h]

theorem seen_crashed (hv : SeesErrors view)
    (h : (v.trace document).flatMap (Happening.seen view) =
      (v'.trace document').flatMap (Happening.seen view)) (options : Options) :
    (v.checkStructure options (.mapping document)).crashed =
      (v'.checkStructure options (.mapping document')).crashed := by
  have hcrash : .crash ∈ v.trace document ↔ .crash ∈ v'.trace document' := by
    rw [← crash_mem_flatMap_seen view, h, crash_mem_flatMap_seen]
  have hcount : errorCount (heard (v.trace document)) =
      errorCount (heard (v'.trace document')) := by
    have hevents := seen_events hv h 0
    rw [events_zero, events_zero] at hevents
    rw [errorCount, errorCount, ← filterMap_error?_seen hv, hevents, filterMap_error?_seen hv]
  rw [Bool.eq_iff_iff, crashed_iff, crashed_iff, hcrash, hcount]

end DocumentValidator

end SettingsCheck
