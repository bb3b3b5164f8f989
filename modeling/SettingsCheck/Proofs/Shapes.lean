import SettingsCheck.Schema.Shape

namespace SettingsCheck

/-- A rule somewhere among the fields, and the mapping of rules in which it stands. A rule for the
elements of an array stands in none. -/
inductive Declares (fields : Rules) : Option Rules → Rule → Prop
  | field {name : String} {rule : Rule} :
    (name, rule) ∈ fields → Declares fields (some fields) rule
  | property {place : Option Rules} {above rule : Rule} {name : String} :
    Declares fields place above → (name, rule) ∈ above.properties →
    Declares fields (some above.properties) rule
  | element {place : Option Rules} {above rule : Rule} :
    Declares fields place above → above.items = some rule → Declares fields none rule

namespace Rule

/-- The rule has the parts of its type and no others. -/
def HasItsParts (rule : Rule) : Prop :=
  match rule.fieldType with
  | .object => rule.properties ≠ [] ∧ rule.items = none
  | .array => rule.properties = [] ∧ rule.items ≠ none
  | _ => rule.properties = [] ∧ rule.items = none

/-- In a mapping, gates name fields of that mapping. A rule of array elements has no gates and is
not required. -/
def Suits (rule : Rule) : Option Rules → Prop
  | some siblings =>
    ∀ name ∈ rule.requiredWhenTrue ++ rule.validateWhenTrue, name ∈ siblings.names
  | none => rule.required = false ∧ rule.requiredWhenTrue = [] ∧ rule.validateWhenTrue = []

theorem suits_none_iff {rule : Rule} : rule.Suits none ↔ rule.speaksOfPresence = false := by
  simp [Suits, speaksOfPresence, and_assoc]

end Rule

/-- All rules among the fields, at any depth, are as they should be. -/
def WellFormed (fields : Rules) : Prop :=
  ∀ place rule, Declares fields place rule → rule.HasItsParts ∧ rule.Suits place

section Checks

variable {names : List String} {rules : List (String × Rule)}

theorem checkRules_eq_ok_iff {parent : String} :
    checkRules names parent rules = .ok () ↔ ∀ entry ∈ rules,
      (∀ name ∈ entry.2.requiredWhenTrue ++ entry.2.validateWhenTrue, name ∈ names) ∧
      entry.2.checkShape (fieldPlace parent entry.1) = .ok () := by
  induction rules with
  | nil => simp [checkRules]
  | cons entry rest ih =>
    obtain ⟨name, rule⟩ := entry
    rw [List.forall_mem_cons, ← ih, checkRules]
    cases hfind : (rule.requiredWhenTrue ++ rule.validateWhenTrue).find? (!names.contains ·) with
    | some sibling =>
      have hout : sibling ∉ names := by simpa using List.find?_some hfind
      have hmem := List.mem_of_find?_eq_some hfind
      simp only [reduceCtorEq, false_iff]
      exact fun h => hout (h.1.1 sibling hmem)
    | none =>
      have hin : ∀ name ∈ rule.requiredWhenTrue ++ rule.validateWhenTrue, name ∈ names := by
        simpa using List.find?_eq_none.mp hfind
      cases hshape : rule.checkShape (fieldPlace parent name) with
      | error e => simp
      | ok u => exact ⟨fun h => ⟨⟨hin, rfl⟩, h⟩, fun h => h.2⟩

theorem checkShape_eq_ok_iff {rule : Rule} {path : String} :
    rule.checkShape path = .ok () ↔ rule.HasItsParts ∧
      checkRules (rule.properties.map Prod.fst) path rule.properties = .ok () ∧
      ∀ items, rule.items = some items →
        items.Suits none ∧ items.checkShape (path ++ "[]") = .ok () := by
  obtain ⟨fieldType, required, properties, items, requiredWhenTrue, validateWhenTrue,
    description⟩ := rule
  have hnone : checkRules [] path [] = .ok () := by rw [checkRules]
  conv => lhs; unfold Rule.checkShape
  unfold Rule.HasItsParts
  cases fieldType with
  | object => cases properties <;> cases items <;> simp
  | array =>
    cases properties with
    | cons => simp
    | nil =>
      cases items with
      | none => simp [checkItems]
      | some items =>
        cases hpresence : items.speaksOfPresence <;>
          simp [checkItems, hpresence, hnone, Rule.suits_none_iff]
  | _ => cases properties <;> cases items <;> simp [hnone]

end Checks

section Fields

variable {fields : Rules}

/-- Where the fields pass, so does every rule among them. -/
theorem checked_of_declares (h : checkRules fields.names "" fields = .ok ()) {place : Option Rules}
    {rule : Rule} (hs : Declares fields place rule) :
    rule.Suits place ∧ ∃ path, rule.checkShape path = .ok () := by
  induction hs with
  | field hr =>
    obtain ⟨hgates, hshape⟩ := checkRules_eq_ok_iff.mp h _ hr
    exact ⟨hgates, _, hshape⟩
  | property _ hr ih =>
    obtain ⟨_, path, habove⟩ := ih
    have hproperties := (checkShape_eq_ok_iff.mp habove).2.1
    obtain ⟨hgates, hshape⟩ := checkRules_eq_ok_iff.mp hproperties _ hr
    exact ⟨hgates, _, hshape⟩
  | element _ hi ih =>
    obtain ⟨_, path, habove⟩ := ih
    obtain ⟨hsuits, hshape⟩ := (checkShape_eq_ok_iff.mp habove).2.2 _ hi
    exact ⟨hsuits, _, hshape⟩

mutual
/-- Where every rule among the fields is as it should be, a check passes each of them. -/
theorem checkShape_of_declares (h : WellFormed fields) : ∀ (rule : Rule) {place : Option Rules}
    (path : String), Declares fields place rule → rule.checkShape path = .ok ()
  | ⟨_, _, properties, items, _, _, _⟩, _, path, hs =>
    checkShape_eq_ok_iff.mpr ⟨(h _ _ hs).1,
      checkRules_of_declares h properties path (fun _ hr => .property hs hr),
      checkItems_of_declares h items path (fun _ hi => .element hs hi)⟩

theorem checkRules_of_declares (h : WellFormed fields) {siblings : Rules} :
    ∀ (rules : List (String × Rule)) (path : String),
    (∀ entry ∈ rules, Declares fields (some siblings) entry.2) →
    checkRules siblings.names path rules = .ok ()
  | [], _, _ => by rw [checkRules]
  | (name, rule) :: rest, path, hs => by
    have hrule := hs _ List.mem_cons_self
    have hrest := checkRules_of_declares h rest path fun _ he => hs _ (List.mem_cons_of_mem _ he)
    refine checkRules_eq_ok_iff.mpr (List.forall_mem_cons.mpr ⟨⟨(h _ _ hrule).2, ?_⟩, ?_⟩)
    · exact checkShape_of_declares h rule _ hrule
    · exact checkRules_eq_ok_iff.mp hrest

theorem checkItems_of_declares (h : WellFormed fields) : ∀ (items : Option Rule) (path : String),
    (∀ rule, items = some rule → Declares fields none rule) →
    ∀ rule, items = some rule → rule.Suits none ∧ rule.checkShape (path ++ "[]") = .ok ()
  | some rule, _, hs, _, rfl =>
    ⟨(h _ _ (hs rule rfl)).2, checkShape_of_declares h rule _ (hs rule rfl)⟩
end

theorem checkRules_eq_ok_iff_wellFormed :
    checkRules fields.names "" fields = .ok () ↔ WellFormed fields := by
  constructor
  · intro h place rule hs
    obtain ⟨hsuits, path, hshape⟩ := checked_of_declares h hs
    exact ⟨(checkShape_eq_ok_iff.mp hshape).1, hsuits⟩
  · exact fun h => checkRules_of_declares h fields "" fun _ hr => .field hr

end Fields

namespace Schema

/-- Fields make a schema just if every rule among them, at any depth, has the parts of its type and
suits its place. The schema has these fields. -/
theorem ofFields_ok_iff (entries : List (String × Rule)) :
    let fields := Fields.ofList (Rule.fieldsInOrder entries)
    ((∃ schema, ofFields entries = .ok schema) ↔ WellFormed fields) ∧
    ∀ schema, ofFields entries = .ok schema → schema.fields = fields := by
  intro fields
  have hfields : ∀ schema, ofFields entries = .ok schema → schema.fields = fields :=
    fun schema h => ofFields_eq_ok_iff.mp h
  refine ⟨?_, hfields⟩
  rw [← checkRules_eq_ok_iff_wellFormed]
  constructor
  · rintro ⟨schema, h⟩
    exact hfields schema h ▸ schema.wellShaped
  · intro h
    have hordered : fields.Ordered ∧ Rule.FieldsOrdered fields :=
      ⟨Fields.ordered_ofList _, Rule.fieldsOrdered_ofList (Rule.fieldsOrdered_inOrder entries)⟩
    exact ⟨⟨fields, hordered, h⟩, ofFields_eq_ok_iff.mpr rfl⟩

end Schema

end SettingsCheck
