import SettingsCheck.Schema.Rule
import SettingsCheck.Text.Blank

/-!
Well-formed schemas. Objects have properties, arrays have items, other rules have neither; the rule
of array elements says nothing about presence; gates name fields of the same mapping.
-/

namespace SettingsCheck

/-- What is wrong with a schema, and at which rule. -/
inductive SchemaError where
  | missingProperties (path : String)
  | missingItems (path : String)
  | unexpectedProperties (path : String) (type : String)
  | unexpectedItems (path : String) (type : String)
  | presenceRuleOnItems (path : String)
  | unknownSibling (path sibling : String)
  | unknownValidator (path name : String)
  /-- The definition is not a schema text at all; a reader's own words may tell why. -/
  | parse (reason : Option String)
  deriving DecidableEq, Repr

namespace SchemaError

def message : SchemaError → String
  | missingProperties path =>
    "schema rule '" ++ path ++ "' has type object but declares no properties"
  | missingItems path => "schema rule '" ++ path ++ "' has type array but declares no items"
  | unexpectedProperties path type =>
    "schema rule '" ++ path ++ "' of type " ++ type ++ " cannot declare properties"
  | unexpectedItems path type =>
    "schema rule '" ++ path ++ "' of type " ++ type ++ " cannot declare items"
  | presenceRuleOnItems path =>
    "schema rule '" ++ path ++
      "' describes array elements and cannot declare required or conditional gates"
  | unknownSibling path sibling =>
    "schema rule '" ++ path ++ "' references unknown sibling '" ++ sibling ++
      "' in a conditional gate"
  | unknownValidator path name =>
    "schema rule '" ++ path ++ "' uses type '" ++ name ++
      "' but no validator with that name is registered"
  | parse reason => Text.withReason "schema definition could not be parsed" reason

end SchemaError

/-- The place of a field; those of the top level go by their names alone. -/
def fieldPlace (parent name : String) : String :=
  if parent = "" then name else parent ++ "." ++ name

/-- Whether the rule speaks of presence, by itself or through gates. -/
def Rule.speaksOfPresence (rule : Rule) : Bool :=
  rule.required || !rule.requiredWhenTrue.isEmpty || !rule.validateWhenTrue.isEmpty

mutual
/-- The first fault of a rule and of the rules below it. -/
def Rule.checkShape (path : String) : Rule → Except SchemaError Unit
  | ⟨fieldType, _, properties, items, _, _, _⟩ =>
    match fieldType with
    | .object =>
      if properties.isEmpty then .error (.missingProperties path)
      else if items.isSome then .error (.unexpectedItems path fieldType.name)
      else checkRules (properties.map Prod.fst) path properties
    | .array =>
      if !properties.isEmpty then .error (.unexpectedProperties path fieldType.name)
      else checkItems path items
    | _ =>
      if !properties.isEmpty then .error (.unexpectedProperties path fieldType.name)
      else if items.isSome then .error (.unexpectedItems path fieldType.name)
      else .ok ()

def checkItems (path : String) : Option Rule → Except SchemaError Unit
  | none => .error (.missingItems path)
  | some rule =>
    if rule.speaksOfPresence then .error (.presenceRuleOnItems (path ++ "[]"))
    else Rule.checkShape (path ++ "[]") rule

/-- The first fault among the rules of one mapping, whose names are given apart. -/
def checkRules (names : List String) (parent : String) :
    List (String × Rule) → Except SchemaError Unit
  | [] => .ok ()
  | (name, rule) :: rest =>
    match (rule.requiredWhenTrue ++ rule.validateWhenTrue).find? (!names.contains ·) with
    | some sibling => .error (.unknownSibling (fieldPlace parent name) sibling)
    | none =>
      match Rule.checkShape (fieldPlace parent name) rule with
      | .error e => .error e
      | .ok () => checkRules names parent rest
end

/-- A set of top-level rules without faults, in order at every depth. -/
structure Schema where
  fields : Rules
  ordered : fields.Ordered ∧ Rule.FieldsOrdered fields
  wellShaped : checkRules fields.names "" fields = .ok ()

namespace Schema

/-- The schema with these fields, or the first fault in them. Of two fields with one name the later
one stays, at every depth. -/
def ofFields (entries : List (String × Rule)) : Except SchemaError Schema :=
  let fields := Fields.ofList (Rule.fieldsInOrder entries)
  match h : checkRules fields.names "" fields with
  | .error e => .error e
  | .ok () =>
    .ok ⟨fields, ⟨Fields.ordered_ofList _,
      Rule.fieldsOrdered_ofList (Rule.fieldsOrdered_inOrder entries)⟩, h⟩

theorem ofFields_eq_ok_iff {entries : List (String × Rule)} {schema : Schema} :
    ofFields entries = .ok schema ↔ schema.fields = Fields.ofList (Rule.fieldsInOrder entries) := by
  obtain ⟨fields, ordered, wellShaped⟩ := schema
  unfold ofFields
  simp only
  constructor
  · intro h
    split at h
    · cases h
    · cases h
      rfl
  · rintro rfl
    split
    · next h => rw [wellShaped] at h; cases h
    · rfl

/-- Every custom type used anywhere in the schema, with the place of its rule. -/
def customTypes (schema : Schema) : List (String × String) :=
  (schema.fields.flatMap fun (name, rule) => rule.walk name).filterMap fun (path, rule) =>
    match rule.fieldType with
    | .custom name => some (path, name)
    | _ => none

end Schema

end SettingsCheck
