import SettingsCheck.Proofs.RuleListing
import SettingsCheck.Proofs.Shapes

namespace SettingsCheck

/-- The text for the rule that has the fault. -/
def SchemaError.path? : SchemaError → Option String
  | missingProperties path => some path
  | missingItems path => some path
  | unexpectedProperties path _ => some path
  | unexpectedItems path _ => some path
  | presenceRuleOnItems path => some path
  | unknownSibling path _ => some path
  | unknownValidator path _ => some path
  | parse _ => none

namespace Rule

/-- A part that the rule lacks or should not have. -/
def partsFault? (rule : Rule) (text : String) : Option SchemaError :=
  match rule.fieldType with
  | .object =>
    if rule.properties.isEmpty then some (.missingProperties text)
    else if rule.items.isSome then some (.unexpectedItems text rule.fieldType.name)
    else none
  | .array =>
    if !rule.properties.isEmpty then some (.unexpectedProperties text rule.fieldType.name)
    else if rule.items.isNone then some (.missingItems text)
    else none
  | _ =>
    if !rule.properties.isEmpty then some (.unexpectedProperties text rule.fieldType.name)
    else if rule.items.isSome then some (.unexpectedItems text rule.fieldType.name)
    else none

/-- What keeps the rule from standing where it does. -/
def placeFault? (rule : Rule) (siblings : Option Rules) (text : String) : Option SchemaError :=
  match siblings with
  | some siblings =>
    ((rule.requiredWhenTrue ++ rule.validateWhenTrue).find? (!siblings.names.contains ·)).map
      (.unknownSibling text)
  | none => if rule.speaksOfPresence then some (.presenceRuleOnItems text) else none

variable {rule : Rule} {text : String} {e : SchemaError}

theorem partsFault?_eq_none_iff : rule.partsFault? text = none ↔ rule.HasItsParts := by
  obtain ⟨fieldType, _, properties, items, _, _, _⟩ := rule
  cases fieldType <;> cases properties <;> cases items <;> simp [partsFault?, HasItsParts]

theorem placeFault?_eq_none_iff {siblings : Option Rules} :
    rule.placeFault? siblings text = none ↔ rule.Suits siblings := by
  cases siblings with
  | none => simp [placeFault?, suits_none_iff]
  | some siblings =>
    rw [placeFault?, Option.map_eq_none_iff, List.find?_eq_none]
    simp only [Suits, Bool.not_eq_true', Bool.not_eq_false, List.contains_iff_mem]

theorem path?_of_partsFault? (h : rule.partsFault? text = some e) : e.path? = some text := by
  unfold partsFault? at h
  split at h <;> split_ifs at h <;> cases h <;> rfl

theorem path?_of_placeFault? {siblings : Option Rules}
    (h : rule.placeFault? siblings text = some e) : e.path? = some text := by
  cases siblings with
  | none =>
    unfold placeFault? at h
    split_ifs at h
    cases h
    rfl
  | some siblings =>
    obtain ⟨sibling, _, rfl⟩ := Option.map_eq_some_iff.mp h
    rfl

end Rule

/-- The text of a place one step further down, as a check of fields makes it. -/
def RuleStep.extendChecked (text : String) : RuleStep → String
  | .field name => fieldPlace text name
  | .element => text ++ "[]"

def checkedText (steps : List RuleStep) : String := steps.foldl RuleStep.extendChecked ""

theorem checkedText_append (steps : List RuleStep) (step : RuleStep) :
    checkedText (steps ++ [step]) = step.extendChecked (checkedText steps) := by
  simp [checkedText]

namespace Standing

/-- What is wrong with the rule in its place. -/
def fault? (s : Standing) : Option SchemaError :=
  (s.rule.placeFault? s.siblings (checkedText s.steps)).or
    (s.rule.partsFault? (checkedText s.steps))

variable {s : Standing}

theorem fault?_eq_none_iff :
    s.fault? = none ↔ s.rule.HasItsParts ∧ s.rule.Suits s.siblings := by
  rw [fault?, Option.or_eq_none_iff, Rule.placeFault?_eq_none_iff, Rule.partsFault?_eq_none_iff,
    and_comm]

theorem path?_of_fault? {e : SchemaError} (h : s.fault? = some e) :
    e.path? = some (checkedText s.steps) := by
  rcases Option.or_eq_some_iff.mp h with hplace | ⟨_, hparts⟩
  · exact Rule.path?_of_placeFault? hplace
  · exact Rule.path?_of_partsFault? hparts

end Standing

section Order

/-- The outcome of a check that met this fault, or none. -/
def settled : Option SchemaError → Except SchemaError Unit
  | none => .ok ()
  | some e => .error e

theorem settled_eq_error_iff {fault : Option SchemaError} {e : SchemaError} :
    settled fault = .error e ↔ fault = some e := by
  cases fault <;> simp [settled]

/-- The first fault below a rule. -/
def Rule.faultBelow? (rule : Rule) (steps : List RuleStep) : Option SchemaError :=
  (fieldStandings steps rule.properties rule.properties ++
    itemStandings steps rule.items).findSome? Standing.fault?

theorem findSome?_standings (rule : Rule) (steps : List RuleStep) (siblings : Option Rules) :
    (rule.standings steps siblings).findSome? Standing.fault? =
      (rule.placeFault? siblings (checkedText steps)).or
        ((rule.partsFault? (checkedText steps)).or (rule.faultBelow? steps)) := by
  rw [standings_eq_cons, List.findSome?_cons, ← Option.or_assoc]
  cases h : Standing.fault? ⟨steps, siblings, rule⟩ with
  | none =>
    rw [Standing.fault?] at h
    rw [h, Option.none_or]
    rfl
  | some e =>
    rw [Standing.fault?] at h
    rw [h, Option.some_or]

mutual
/-- A check of a rule finds the fault of the rule itself, or the first one below it. -/
theorem checkShape_eq_settled : ∀ (rule : Rule) (steps : List RuleStep),
    rule.checkShape (checkedText steps) =
      settled ((rule.partsFault? (checkedText steps)).or (rule.faultBelow? steps))
  | ⟨fieldType, required, properties, items, rw, vw, d⟩, steps => by
    have hproperties := checkRules_eq_settled properties properties steps
    have hitems := checkItems_eq_settled items steps
    have hnone : fieldStandings steps [] [] = [] := by rw [fieldStandings]
    -- the parts of the rule tell whether it is at fault itself or the check goes on below it
    cases fieldType with
    | object =>
      cases properties <;> cases items <;>
        simp_all [Rule.checkShape, Rule.partsFault?, Rule.faultBelow?, settled, itemStandings,
          Fields.names]
    | array =>
      cases properties <;> cases items <;>
        simp_all [Rule.checkShape, Rule.partsFault?, Rule.faultBelow?, settled, checkItems]
    | _ =>
      cases properties <;> cases items <;>
        simp_all [Rule.checkShape, Rule.partsFault?, Rule.faultBelow?, settled, itemStandings]

theorem checkRules_eq_settled : ∀ (rules : List (String × Rule)) (siblings : Rules)
    (steps : List RuleStep), checkRules siblings.names (checkedText steps) rules =
      settled ((fieldStandings steps siblings rules).findSome? Standing.fault?)
  | [], _, _ => by rw [checkRules, fieldStandings]; rfl
  | (name, rule) :: rest, siblings, steps => by
    have htext : checkedText (steps ++ [.field name]) = fieldPlace (checkedText steps) name :=
      checkedText_append steps _
    have hrule := checkShape_eq_settled rule (steps ++ [.field name])
    have hrest := checkRules_eq_settled rest siblings steps
    rw [checkRules, fieldStandings, List.findSome?_append, findSome?_standings, htext, hrest]
    rw [htext] at hrule
    rw [hrule, Rule.placeFault?]
    cases (rule.requiredWhenTrue ++ rule.validateWhenTrue).find? (!siblings.names.contains ·) with
    | some sibling => rfl
    | none =>
      rw [Option.map_none, Option.none_or]
      cases (rule.partsFault? (fieldPlace (checkedText steps) name)).or
        (rule.faultBelow? (steps ++ [.field name])) <;> rfl

theorem checkItems_eq_settled : ∀ (items : Option Rule) (steps : List RuleStep),
    items.isSome = true → checkItems (checkedText steps) items =
      settled ((itemStandings steps items).findSome? Standing.fault?)
  | none, _, h => by cases h
  | some rule, steps, _ => by
    have htext : checkedText (steps ++ [.element]) = checkedText steps ++ "[]" :=
      checkedText_append steps _
    have hrule := checkShape_eq_settled rule (steps ++ [.element])
    rw [checkItems, itemStandings, findSome?_standings, htext, Rule.placeFault?]
    rw [htext] at hrule
    rw [hrule]
    cases rule.speaksOfPresence <;> rfl
end

end Order

section Texts

variable {text : String} {steps : List RuleStep}

theorem extend_ne_empty (text : String) (step : RuleStep) : step.extend text ≠ "" := by
  cases step <;> simp [RuleStep.extend, String.append_eq_empty_iff]

theorem extendChecked_of_ne_empty (h : text ≠ "") (step : RuleStep) :
    step.extendChecked text = step.extend text := by
  cases step with
  | field name => exact if_neg h
  | element => rfl

theorem foldl_extendChecked_of_ne_empty (h : text ≠ "") :
    steps.foldl RuleStep.extendChecked text = steps.foldl RuleStep.extend text := by
  induction steps generalizing text with
  | nil => rfl
  | cons step rest ih =>
    rw [List.foldl_cons, List.foldl_cons, extendChecked_of_ne_empty h]
    exact ih (extend_ne_empty text step)

theorem checkedText_cons_field {name : String} (h : name ≠ "") :
    checkedText (.field name :: steps) = placeText (.field name :: steps) := by
  have hfirst : fieldPlace "" name = name := if_pos rfl
  rw [checkedText, List.foldl_cons, RuleStep.extendChecked, hfirst]
  exact foldl_extendChecked_of_ne_empty h

theorem checkedText_cons_element :
    checkedText (.element :: steps) = placeText (.element :: steps) := by
  have hfirst : "[]" ≠ "" := by decide
  have hstep : RuleStep.extendChecked "" .element = "[]" := rfl
  rw [checkedText, List.foldl_cons, hstep, foldl_extendChecked_of_ne_empty hfirst]
  rfl

/-- A check leaves out the fields without a name with which the place begins. -/
theorem checkedText_eq (steps : List RuleStep) :
    checkedText steps = placeText (steps.dropWhile (· == .field "")) := by
  induction steps with
  | nil => rfl
  | cons step rest ih =>
    cases step with
    | element => exact checkedText_cons_element
    | field name =>
      by_cases hname : name = ""
      · subst hname
        exact ih
      · have hstep : (RuleStep.field name == .field "") = false := by simpa using hname
        rw [List.dropWhile_cons_of_neg (by simp [hstep])]
        exact checkedText_cons_field hname

theorem foldl_extend_append (a b : String) :
    steps.foldl RuleStep.extend (a ++ b) = a ++ steps.foldl RuleStep.extend b := by
  induction steps generalizing b with
  | nil => rfl
  | cons step rest ih =>
    have hstep : step.extend (a ++ b) = a ++ step.extend b := by
      cases step <;> simp [RuleStep.extend, String.append_assoc]
    rw [List.foldl_cons, List.foldl_cons, hstep, ih]

theorem placeText_below_nameless (name : String) (steps : List RuleStep) :
    placeText (.field "" :: .field name :: steps) = "." ++ placeText (.field name :: steps) := by
  have hstep : RuleStep.extend "" (.field name) = "." ++ name := by simp [RuleStep.extend]
  rw [placeText, List.foldl_cons, hstep, foldl_extend_append]
  rfl

theorem length_checkedText_le (steps : List RuleStep) :
    (checkedText steps).length ≤ (placeText steps).length := by
  induction steps with
  | nil => exact Nat.le_refl _
  | cons step rest ih =>
    cases step with
    | element => exact Nat.le_of_eq (congrArg String.length checkedText_cons_element)
    | field name =>
      by_cases hname : name = ""
      · -- the walk has a dot for every field below one without a name, the check has none
        subst hname
        cases rest with
        | nil => exact Nat.le_refl _
        | cons next rest =>
          refine Nat.le_trans ih ?_
          cases next with
          | element => exact Nat.le_refl _
          | field name =>
            rw [placeText_below_nameless, String.length_append]
            exact Nat.le_add_left _ _
      · exact Nat.le_of_eq (congrArg String.length (checkedText_cons_field hname))

/-- The two texts differ where a field stands below one without a name. -/
theorem checkedText_eq_placeText_iff :
    checkedText steps = placeText steps ↔
      ∀ name rest, steps ≠ .field "" :: .field name :: rest := by
  constructor
  · rintro h name rest rfl
    have hle := length_checkedText_le (.field name :: rest)
    have hchecked : checkedText (.field "" :: .field name :: rest) =
      checkedText (.field name :: rest) := rfl
    rw [← hchecked, h, placeText_below_nameless, String.length_append] at hle
    have hdot : ".".length = 1 := rfl
    omega
  · intro h
    match steps, h with
    | [], _ => rfl
    | .element :: rest, _ => exact checkedText_cons_element
    | .field name :: rest, h =>
      by_cases hname : name = ""
      · subst hname
        match rest, h with
        | [], _ => rfl
        | .element :: rest, _ => exact checkedText_cons_element
        | .field name :: rest, h => exact absurd rfl (h name rest)
      · exact checkedText_cons_field hname

end Texts

namespace Schema

variable {entries : List (String × Rule)}

theorem ofFields_eq_error_iff {e : SchemaError} :
    ofFields entries = .error e ↔
      (listing (Fields.ofList (Rule.fieldsInOrder entries))).findSome? Standing.fault? =
        some e := by
  have hcheck := checkRules_eq_settled (Fields.ofList (Rule.fieldsInOrder entries))
    (Fields.ofList (Rule.fieldsInOrder entries)) []
  rw [← settled_eq_error_iff, listing, ← hcheck]
  have htext : checkedText [] = "" := rfl
  rw [htext]
  unfold ofFields
  constructor
  · intro h
    dsimp only at h
    split at h
    next e' he =>
      cases h
      exact he
    next => cases h
  · intro h
    dsimp only
    split
    next e' he =>
      rw [h] at he
      cases he
      rfl
    next hok =>
      rw [h] at hok
      cases hok

/-- Fields are turned down for the first rule with a fault in the order in which the walk through
them meets the rules. The error has a text for the place of that rule in which the leading fields
without a name are left out, so it is that of the walk just if no field stands below such a one. -/
theorem first_fault_told (entries : List (String × Rule)) :
    let fields := Fields.ofList (Rule.fieldsInOrder entries)
    (listing fields).map Standing.told = (fields.flatMap fun (name, rule) => rule.walk name) ∧
    (∀ e, ofFields entries = .error e ↔ ∃ before s after,
      listing fields = before ++ s :: after ∧
      (∀ b ∈ before, b.rule.HasItsParts ∧ b.rule.Suits b.siblings) ∧ s.fault? = some e) ∧
    ∀ (s : Standing) (e : SchemaError), s.fault? = some e →
      ¬(s.rule.HasItsParts ∧ s.rule.Suits s.siblings) ∧
      e.path? = some (placeText (s.steps.dropWhile (· == .field ""))) ∧
      (e.path? = some s.told.1 ↔ ∀ name rest, s.steps ≠ .field "" :: .field name :: rest) := by
  intro fields
  refine ⟨map_told_listing fields, fun e => ?_, fun s e he => ?_⟩
  · rw [ofFields_eq_error_iff, List.findSome?_eq_some_iff]
    constructor
    · rintro ⟨before, s, after, hsplit, hs, hbefore⟩
      exact ⟨before, s, after, hsplit, fun b hb => Standing.fault?_eq_none_iff.mp (hbefore b hb),
        hs⟩
    · rintro ⟨before, s, after, hsplit, hbefore, hs⟩
      exact ⟨before, s, after, hsplit, hs,
        fun b hb => Standing.fault?_eq_none_iff.mpr (hbefore b hb)⟩
  · have hpath := Standing.path?_of_fault? he
    refine ⟨fun hwell => ?_, ?_, ?_⟩
    · rw [Standing.fault?_eq_none_iff.mpr hwell] at he
      cases he
    · rw [hpath, checkedText_eq]
    · rw [hpath, Option.some_inj]
      exact checkedText_eq_placeText_iff

end Schema

namespace Sample

/-- Remotes that are to be objects of no particular shape. -/
def remotes : List (String × Rule) :=
  [("rclone", .object [("remotes", .array (.object [])), ("kind", .ofType .string)]),
    ("name", .ofType .string)]

theorem remotes_named :
    let fields := Fields.ofList (Rule.fieldsInOrder remotes)
    let s : Standing := ⟨[.field "rclone", .field "remotes", .element], none, .object []⟩
    (fields.flatMap fun (name, rule) => rule.walk name).map Prod.fst =
      ["name", "rclone", "rclone.kind", "rclone.remotes", s.told.1] ∧
    Schema.ofFields remotes = .error (.missingProperties s.told.1) ∧
    ¬(s.rule.HasItsParts ∧ s.rule.Suits s.siblings) ∧ s.told.1 = "rclone.remotes[]" := by
  intro fields s
  obtain ⟨_, hfirst, hnamed⟩ := Schema.first_fault_told remotes
  have hfault : s.fault? = some (.missingProperties s.told.1) := by decide
  obtain ⟨hill, _, _⟩ := hnamed s _ hfault
  have hsplit : listing fields = (listing fields).take 4 ++ [s] := rfl
  have hsound : ∀ b ∈ (listing fields).take 4, b.fault? = none := by decide
  have herror := (hfirst _).mpr ⟨_, s, [], hsplit,
    fun b hb => Standing.fault?_eq_none_iff.mp (hsound b hb), hfault⟩
  exact ⟨by decide, herror, hill, by decide⟩

/-- An object without properties below a field without a name. -/
def nameless : List (String × Rule) := [("", .object [("x", .object [])])]

/-- The walk has no rule with the text that is in the error. -/
theorem nameless_named_otherwise :
    Schema.ofFields nameless = .error (.missingProperties "x") ∧
    ((Fields.ofList (Rule.fieldsInOrder nameless)).flatMap fun (name, rule) =>
      rule.walk name).map Prod.fst = ["", ".x"] :=
  ⟨Schema.ofFields_eq_error_iff.mpr (by decide), by decide⟩

end Sample

end SettingsCheck
