import SettingsCheck.Fields

namespace SettingsCheck

inductive Value where
  | null
  | bool (b : Bool)
  /-- Integers have 64 bits with sign. -/
  | integer (n : Int)
  | float (x : Float)
  | string (s : String)
  | sequence (items : List Value)
  | mapping (entries : List (String × Value))
  deriving Inhabited

abbrev Mapping := Fields Value

namespace Value

/-- The name of a value's kind, as messages give it. -/
def kind : Value → String
  | null => "null"
  | bool _ => "boolean"
  | integer _ => "integer"
  | float _ => "float"
  | string _ => "string"
  | sequence _ => "array"
  | mapping _ => "object"

def isNull : Value → Bool
  | null => true
  | _ => false

def string? : Value → Option String
  | string s => some s
  | _ => none

def sequence? : Value → Option (List Value)
  | sequence items => some items
  | _ => none

def mapping? : Value → Option Mapping
  | mapping entries => some entries
  | _ => none

/-- The entry of that name, if the value is a mapping that has one. -/
def get? (v : Value) (name : String) : Option Value := v.mapping?.bind (Fields.get? name)

mutual
/-- Equality of values. Kinds differ, so an integer never equals a float, and floats compare as
numbers: `0.0` equals `-0.0` and NaN equals nothing. -/
def same : Value → Value → Bool
  | null, null => true
  | bool a, bool b => a == b
  | integer a, integer b => a == b
  | float a, float b => a == b
  | string a, string b => a == b
  | sequence a, sequence b => sameItems a b
  | mapping a, mapping b => sameEntries a b
  | _, _ => false

def sameItems : List Value → List Value → Bool
  | [], [] => true
  | a :: as, b :: bs => same a b && sameItems as bs
  | _, _ => false

def sameEntries : List (String × Value) → List (String × Value) → Bool
  | [], [] => true
  | (j, a) :: as, (k, b) :: bs => j == k && same a b && sameEntries as bs
  | _, _ => false
end

mutual
/-- Every mapping in the tree has its names once each and in order. -/
def Ordered : Value → Prop
  | sequence items => ItemsOrdered items
  | mapping entries => Fields.Ordered entries ∧ EntriesOrdered entries
  | _ => True

def ItemsOrdered : List Value → Prop
  | [] => True
  | v :: rest => v.Ordered ∧ ItemsOrdered rest

def EntriesOrdered : List (String × Value) → Prop
  | [] => True
  | (_, v) :: rest => v.Ordered ∧ EntriesOrdered rest
end

theorem itemsOrdered_iff {items : List Value} :
    ItemsOrdered items ↔ ∀ v ∈ items, v.Ordered := by
  induction items with
  | nil => simp [ItemsOrdered]
  | cons v rest ih => simp [ItemsOrdered, ih]

theorem entriesOrdered_iff {entries : List (String × Value)} :
    EntriesOrdered entries ↔ ∀ entry ∈ entries, entry.2.Ordered := by
  induction entries with
  | nil => simp [EntriesOrdered]
  | cons entry rest ih => simp [EntriesOrdered, ih]

theorem ordered_of_get? {entries : Mapping} {name : String} {v : Value}
    (h : (mapping entries).Ordered) (hv : entries.get? name = some v) : v.Ordered :=
  entriesOrdered_iff.mp h.2 _ (Fields.mem_of_get? hv)

end Value

end SettingsCheck
