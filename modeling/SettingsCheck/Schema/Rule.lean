import SettingsCheck.Fields

namespace SettingsCheck

inductive FieldType where
  | string
  | number
  | float
  | boolean
  | ansibleBool
  | object
  | array
  /-- Checked by the registered validator of that name. -/
  | custom (name : String)
  deriving DecidableEq, Repr, Inhabited

namespace FieldType

def name : FieldType → String
  | string => "string"
  | number => "number"
  | float => "float"
  | boolean => "boolean"
  | ansibleBool => "ansible_bool"
  | object => "object"
  | array => "array"
  | custom name => name

/-- Names other than those of the seven built-in types are custom. -/
def ofName (name : String) : FieldType :=
  if name = "string" then string
  else if name = "number" then number
  else if name = "float" then float
  else if name = "boolean" then boolean
  else if name = "ansible_bool" then ansibleBool
  else if name = "object" then object
  else if name = "array" then array
  else custom name

def isCustom : FieldType → Bool
  | custom _ => true
  | _ => false

theorem name_ofName (name : String) : (ofName name).name = name := by
  grind [ofName, FieldType.name]

end FieldType

/-- What one field may hold. The two lists name siblings, fields of the same mapping. -/
structure Rule where
  fieldType : FieldType
  required : Bool := false
  /-- The fields of an object. -/
  properties : List (String × Rule) := []
  /-- The rule for every element of an array. -/
  items : Option Rule := none
  /-- When all of them are true, the field has to be there. -/
  requiredWhenTrue : List String := []
  /-- Unless all of them are true, the field is not looked at. -/
  validateWhenTrue : List String := []
  description : Option String := none
  deriving Inhabited

abbrev Rules := Fields Rule

namespace Rule

def ofType (fieldType : FieldType) : Rule := { fieldType }

def object (properties : List (String × Rule)) : Rule :=
  { fieldType := .object, properties }

def array (items : Rule) : Rule := { fieldType := .array, items := some items }

mutual
/-- Equality of rules, as a test. -/
def same : Rule → Rule → Bool
  | ⟨t, r, ps, items, rw, vw, d⟩, ⟨t', r', ps', items', rw', vw', d'⟩ =>
    t == t' && r == r' && sameFields ps ps' && sameItems items items' && rw == rw' && vw == vw' &&
      d == d'

def sameFields : List (String × Rule) → List (String × Rule) → Bool
  | [], [] => true
  | (k, a) :: as, (k', b) :: bs => k == k' && same a b && sameFields as bs
  | _, _ => false

def sameItems : Option Rule → Option Rule → Bool
  | none, none => true
  | some a, some b => same a b
  | _, _ => false
end

mutual
/-- The rule with the properties of every object in order, the later one of two with one name. -/
def inOrder : Rule → Rule
  | ⟨t, r, ps, items, rw, vw, d⟩ =>
    ⟨t, r, Fields.ofList (fieldsInOrder ps), itemsInOrder items, rw, vw, d⟩

def fieldsInOrder : List (String × Rule) → List (String × Rule)
  | [] => []
  | (name, rule) :: rest => (name, inOrder rule) :: fieldsInOrder rest

def itemsInOrder : Option Rule → Option Rule
  | none => none
  | some rule => some (inOrder rule)
end

mutual
/-- At every depth names stand once each and in order. -/
def Ordered : Rule → Prop
  | ⟨_, _, ps, items, _, _, _⟩ => Fields.Ordered ps ∧ FieldsOrdered ps ∧ ItemsOrdered items

def FieldsOrdered : List (String × Rule) → Prop
  | [] => True
  | (_, rule) :: rest => rule.Ordered ∧ FieldsOrdered rest

def ItemsOrdered : Option Rule → Prop
  | none => True
  | some rule => rule.Ordered
end

theorem fieldsOrdered_iff {ps : List (String × Rule)} :
    FieldsOrdered ps ↔ ∀ entry ∈ ps, entry.2.Ordered := by
  induction ps with
  | nil => simp [FieldsOrdered]
  | cons entry rest ih => simp [FieldsOrdered, ih]

theorem fieldsOrdered_ofList {ps : List (String × Rule)} (h : FieldsOrdered ps) :
    FieldsOrdered (Fields.ofList ps) :=
  fieldsOrdered_iff.mpr fun _ he => fieldsOrdered_iff.mp h _ (Fields.mem_of_mem_ofList he)

mutual
theorem ordered_inOrder : ∀ rule : Rule, rule.inOrder.Ordered
  | ⟨_, _, ps, items, _, _, _⟩ =>
    ⟨Fields.ordered_ofList _, fieldsOrdered_ofList (fieldsOrdered_inOrder ps),
      itemsOrdered_inOrder items⟩

theorem fieldsOrdered_inOrder : ∀ ps : List (String × Rule), FieldsOrdered (fieldsInOrder ps)
  | [] => trivial
  | (_, rule) :: rest => ⟨ordered_inOrder rule, fieldsOrdered_inOrder rest⟩

theorem itemsOrdered_inOrder : ∀ items : Option Rule, ItemsOrdered (itemsInOrder items)
  | none => trivial
  | some rule => ordered_inOrder rule
end

mutual
theorem inOrder_of_ordered : ∀ {rule : Rule}, rule.Ordered → rule.inOrder = rule
  | ⟨t, r, ps, items, rw, vw, d⟩, ⟨hnames, hps, hitems⟩ => by
    rw [inOrder, fieldsInOrder_of_ordered hps, itemsInOrder_of_ordered hitems,
      Fields.ofList_of_ordered hnames]

theorem fieldsInOrder_of_ordered : ∀ {ps : List (String × Rule)}, FieldsOrdered ps →
    fieldsInOrder ps = ps
  | [], _ => rfl
  | (name, rule) :: rest, ⟨hrule, hrest⟩ => by
    rw [fieldsInOrder, inOrder_of_ordered hrule, fieldsInOrder_of_ordered hrest]

theorem itemsInOrder_of_ordered : ∀ {items : Option Rule}, ItemsOrdered items →
    itemsInOrder items = items
  | none, _ => rfl
  | some _, h => congrArg some (inOrder_of_ordered h)
end

mutual
/-- The rule and all rules below it with their places in the schema, a rule before what it
contains, properties before items. -/
def walk (path : String) : Rule → List (String × Rule)
  | ⟨t, r, ps, items, rw, vw, d⟩ =>
    (path, ⟨t, r, ps, items, rw, vw, d⟩) :: (walkFields path ps ++ walkItems path items)

def walkFields (path : String) : List (String × Rule) → List (String × Rule)
  | [] => []
  | (name, rule) :: rest => walk (path ++ "." ++ name) rule ++ walkFields path rest

def walkItems (path : String) : Option Rule → List (String × Rule)
  | none => []
  | some rule => walk (path ++ "[]") rule
end

end Rule

end SettingsCheck
