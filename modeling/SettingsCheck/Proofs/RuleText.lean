import SettingsCheck.Schema.Record
import Mathlib.Data.List.Nodup

namespace SettingsCheck

namespace FieldType

/-- The names that are never read as custom types. -/
def builtinNames : List String :=
  [string, number, float, boolean, ansibleBool, object, array].map name

theorem ofName_eq_custom {n : String} (h : n ∉ builtinNames) : ofName n = .custom n := by
  simp only [builtinNames, List.map_cons, List.map_nil, name, List.mem_cons, List.not_mem_nil,
    or_false, not_or] at h
  obtain ⟨h₁, h₂, h₃, h₄, h₅, h₆, h₇⟩ := h
  simp only [ofName, h₁, h₂, h₃, h₄, h₅, h₆, h₇, if_false]

theorem isCustom_ofName_builtin : ∀ n ∈ builtinNames, (ofName n).isCustom = false := by
  decide

/-- Every type is read back from its name, but for custom types with the name of another one. -/
theorem ofName_name_iff {t : FieldType} :
    ofName t.name = t ↔ ∀ n, t = .custom n → n ∉ builtinNames := by
  refine ⟨?_, fun h => ?_⟩
  · rintro hread n rfl hn
    have hcustom := isCustom_ofName_builtin n hn
    rw [show ofName n = .custom n from hread] at hcustom
    cases hcustom
  · cases t with
    | custom n => exact ofName_eq_custom (h n rfl)
    | _ => rfl

end FieldType

namespace Rule

mutual
/-- The rule with the types that its types are read back as. -/
def named : Rule → Rule
  | ⟨t, r, ps, items, rw, vw, d⟩ => ⟨.ofName t.name, r, namedFields ps, namedItems items, rw, vw, d⟩

def namedFields : List (String × Rule) → List (String × Rule)
  | [] => []
  | (name, rule) :: rest => (name, named rule) :: namedFields rest

def namedItems : Option Rule → Option Rule
  | none => none
  | some rule => some (named rule)
end

/-- Entries, read as fields of a rule, turn one rule into another. -/
def Reads (entries : List (String × Json)) (a b : Rule) : Prop :=
  (partsOfEntries (Source.ofJsonEntries entries)).foldlM
    (fun rule (_, change) => change.map (· rule)) a = some b

theorem partsOfEntries_append (entries rest : List (String × Json)) :
    partsOfEntries (Source.ofJsonEntries (entries ++ rest)) =
      partsOfEntries (Source.ofJsonEntries entries) ++
        partsOfEntries (Source.ofJsonEntries rest) := by
  induction entries with
  | nil => rfl
  | cons entry entries ih => simp [Source.ofJsonEntries, partsOfEntries, ih]

theorem names_partsOfEntries (entries : List (String × Json)) :
    (partsOfEntries (Source.ofJsonEntries entries)).map Prod.fst = entries.map Prod.fst := by
  induction entries with
  | nil => rfl
  | cons entry entries ih => simp [Source.ofJsonEntries, partsOfEntries, ih]

namespace Reads

variable {entries rest : List (String × Json)} {a b c : Rule}

theorem nil : Reads [] a a := rfl

theorem one {name : String} {j : Json} {f : Rule → Rule}
    (h : change name (.ofJson j) (fun _ => ofSource? (.ofJson j))
      (fun _ => rulesOfSource? (.ofJson j)) = some f) : Reads [(name, j)] a (f a) := by
  simp [Reads, Source.ofJsonEntries, partsOfEntries, h]

theorem append (h : Reads entries a b) (hr : Reads rest b c) : Reads (entries ++ rest) a c := by
  unfold Reads at h hr ⊢
  rw [partsOfEntries_append, List.foldlM_append, h]
  exact hr

/-- Entries are a rule if each names another field and the type is among them. -/
theorem ofSource? (h : Reads entries (ofType .string) a)
    (hn : (entries.map Prod.fst).Nodup) (ht : "type" ∈ entries.map Prod.fst) :
    Rule.ofSource? (.ofJson (.object entries)) = some a := by
  have hcount : ∀ name ∈ entries.map Prod.fst, ¬1 < (entries.map Prod.fst).count name :=
    fun name _ => Nat.not_lt.mpr (List.nodup_iff_count_le_one.mp hn name)
  rw [Source.ofJson, Rule.ofSource?, assemble, names_partsOfEntries, if_neg]
  · exact h
  · simpa [ht] using hcount

end Reads

/-- An entry that is left out where it would say nothing. -/
def entryUnless (absent : Bool) (name : String) (j : Json) : List (String × Json) :=
  if absent then [] else [(name, j)]

/-- The fields that are written of a rule. -/
def entries (rule : Rule) : List (String × Json) :=
  [("type", .string rule.fieldType.name), ("required", .bool rule.required)] ++
    entryUnless rule.properties.isEmpty "properties" (.object (rulesToJson rule.properties)) ++
    itemsToJson rule.items ++
    entryUnless rule.requiredWhenTrue.isEmpty "required_when_true"
      (.array (rule.requiredWhenTrue.map .string)) ++
    entryUnless rule.validateWhenTrue.isEmpty "validate_when_true"
      (.array (rule.validateWhenTrue.map .string)) ++
    entryUnless rule.description.isNone "description" (.string (rule.description.getD ""))

theorem toJson_eq (rule : Rule) : rule.toJson = .object rule.entries := by
  obtain ⟨t, r, ps, items, rw, vw, d⟩ := rule
  cases d <;> simp [toJson, entries, entryUnless]

theorem names_entryUnless (absent : Bool) (name : String) (j : Json) :
    ((entryUnless absent name j).map Prod.fst).Sublist [name] := by
  cases absent with
  | true => exact List.nil_sublist _
  | false => exact List.Sublist.refl _

theorem names_itemsToJson (items : Option Rule) :
    ((itemsToJson items).map Prod.fst).Sublist ["items"] := by
  cases items with
  | none => exact List.nil_sublist _
  | some rule => exact List.Sublist.refl _

theorem names_entries_sublist (rule : Rule) :
    (rule.entries.map Prod.fst).Sublist fieldNames := by
  simp only [entries, List.map_append]
  exact (((((List.Sublist.refl ["type", "required"]).append (names_entryUnless ..)).append
    (names_itemsToJson _)).append (names_entryUnless ..)).append (names_entryUnless ..)).append
    (names_entryUnless ..)

theorem nodup_names_entries (rule : Rule) : (rule.entries.map Prod.fst).Nodup :=
  (by decide : fieldNames.Nodup).sublist (names_entries_sublist rule)

theorem type_mem_names_entries (rule : Rule) : "type" ∈ rule.entries.map Prod.fst := by
  simp [entries]

section Fields

variable {a b : Rule} {j : Json}

theorem listOf?_ofJson_strings (names : List String) :
    (Source.ofJson (.array (names.map .string))).listOf? Source.text? = some names := by
  rw [Source.ofJson, Source.listOf?]
  induction names with
  | nil => rfl
  | cons name names ih =>
    have htext : (Source.ofJson (.string name)).text? = some name := rfl
    simp [Source.ofJsonItems, htext, ih]

theorem reads_head (t : String) (r : Bool) :
    Reads [("type", .string t), ("required", .bool r)] a
      { a with fieldType := .ofName t, required := r } := rfl

theorem reads_entryUnless {absent : Bool} {name : String} (h : Reads [(name, j)] a b)
    (habsent : absent = true → b = a) : Reads (entryUnless absent name j) a b := by
  cases absent with
  | true => exact habsent rfl ▸ Reads.nil
  | false => exact h

theorem reads_properties {ps : List (String × Rule)} (ha : a.properties = [])
    (h : rulesOfSource? (.ofJson (.object (rulesToJson ps))) = some (namedFields ps)) :
    Reads (entryUnless ps.isEmpty "properties" (.object (rulesToJson ps))) a
      { a with properties := namedFields ps } := by
  refine reads_entryUnless (Reads.one (f := fun rule => { rule with properties := namedFields ps })
    (by simp [change, h])) fun hempty => ?_
  cases List.isEmpty_iff.mp hempty
  cases a
  cases ha
  rfl

theorem reads_items {items : Rule} (hnull : (Source.ofJson j).isNull = false)
    (h : ofSource? (.ofJson j) = some items) :
    Reads [("items", j)] a { a with items := some items } :=
  Reads.one (f := fun rule => { rule with items := some items }) (by simp [change, h, hnull])

theorem reads_gate (name : String) (set : List String → Rule → Rule)
    (hname : ∀ s asRule asRules,
      change name s asRule asRules = (s.listOf? Source.text?).map set)
    (ha : set [] a = a) (names : List String) :
    Reads (entryUnless names.isEmpty name (.array (names.map .string))) a (set names a) := by
  refine reads_entryUnless (Reads.one ?_) fun hempty => ?_
  · rw [hname, listOf?_ofJson_strings]
    rfl
  · rw [List.isEmpty_iff.mp hempty, ha]

theorem reads_requiredWhenTrue (ha : a.requiredWhenTrue = []) (names : List String) :
    Reads (entryUnless names.isEmpty "required_when_true" (.array (names.map .string))) a
      { a with requiredWhenTrue := names } := by
  refine reads_gate "required_when_true" (fun names rule => { rule with requiredWhenTrue := names })
    (fun _ _ _ => rfl) ?_ names
  cases a
  cases ha
  rfl

theorem reads_validateWhenTrue (ha : a.validateWhenTrue = []) (names : List String) :
    Reads (entryUnless names.isEmpty "validate_when_true" (.array (names.map .string))) a
      { a with validateWhenTrue := names } := by
  refine reads_gate "validate_when_true" (fun names rule => { rule with validateWhenTrue := names })
    (fun _ _ _ => rfl) ?_ names
  cases a
  cases ha
  rfl

theorem reads_description (ha : a.description = none) (d : Option String) :
    Reads (entryUnless d.isNone "description" (.string (d.getD ""))) a
      { a with description := d } := by
  cases d with
  | none =>
    cases a
    cases ha
    exact Reads.nil
  | some d => exact Reads.one (f := fun rule => { rule with description := some d }) rfl

theorem isNull_ofJson_toJson (rule : Rule) : (Source.ofJson (toJson rule)).isNull = false := by
  rw [toJson_eq]
  rfl

end Fields

mutual
/-- A written rule is read back, each type by its name. -/
theorem ofSource?_toJson : ∀ rule : Rule, ofSource? (.ofJson (toJson rule)) = some (named rule)
  | ⟨t, r, ps, items, rw, vw, d⟩ => by
    -- the fields are read in turn, each onto what the ones before it have made of the rule
    have hhead : Reads _ (ofType .string) ⟨.ofName t.name, r, [], none, [], [], none⟩ :=
      reads_head t.name r
    have hproperties := hhead.append (reads_properties rfl (rulesOfEntries_toJson ps))
    have hitems := hproperties.append (reads_itemsToJson rfl items)
    have hgates := (hitems.append (reads_requiredWhenTrue rfl rw)).append
      (reads_validateWhenTrue rfl vw)
    have hall : Reads (entries ⟨t, r, ps, items, rw, vw, d⟩) (ofType .string)
        (named ⟨t, r, ps, items, rw, vw, d⟩) := hgates.append (reads_description rfl d)
    rw [toJson_eq]
    exact hall.ofSource? (nodup_names_entries _) (type_mem_names_entries _)

theorem rulesOfEntries_toJson : ∀ ps : List (String × Rule),
    rulesOfEntries (Source.ofJsonEntries (rulesToJson ps)) = some (namedFields ps)
  | [] => rfl
  | (name, rule) :: rest => by
    have hrule := ofSource?_toJson rule
    have hrest := rulesOfEntries_toJson rest
    simp [rulesToJson, Source.ofJsonEntries, rulesOfEntries, hrule, hrest, namedFields]

theorem reads_itemsToJson {a : Rule} (ha : a.items = none) : ∀ items : Option Rule,
    Reads (itemsToJson items) a { a with items := namedItems items }
  | none => by
    cases a
    cases ha
    exact Reads.nil
  | some rule => reads_items (isNull_ofJson_toJson rule) (ofSource?_toJson rule)
end

section Types

theorem names_namedFields (ps : List (String × Rule)) :
    Fields.names (namedFields ps) = Fields.names ps := by
  induction ps with
  | nil => rfl
  | cons entry rest ih => exact congrArg (entry.1 :: ·) ih

mutual
theorem ordered_named : ∀ {rule : Rule}, rule.Ordered → (named rule).Ordered
  | ⟨_, _, ps, _, _, _, _⟩, ⟨hnames, hps, hitems⟩ => by
    have hnamed : Fields.Ordered (namedFields ps) := by
      rw [Fields.Ordered, names_namedFields]
      exact hnames
    exact ⟨hnamed, fieldsOrdered_namedFields hps, itemsOrdered_namedItems hitems⟩

theorem fieldsOrdered_namedFields : ∀ {ps : List (String × Rule)}, FieldsOrdered ps →
    FieldsOrdered (namedFields ps)
  | [], _ => trivial
  | _ :: _, ⟨hrule, hrest⟩ => ⟨ordered_named hrule, fieldsOrdered_namedFields hrest⟩

theorem itemsOrdered_namedItems : ∀ {items : Option Rule}, ItemsOrdered items →
    ItemsOrdered (namedItems items)
  | none, _ => trivial
  | some _, h => ordered_named h
end

mutual
/-- A rule stays as it is if every type in it does. -/
theorem named_eq_self_iff : ∀ (rule : Rule) (place : String), named rule = rule ↔
    ∀ entry ∈ rule.walk place, .ofName entry.2.fieldType.name = entry.2.fieldType
  | ⟨t, r, ps, items, rw, vw, d⟩, place => by
    have hps := namedFields_eq_self_iff ps place
    have hitems := namedItems_eq_self_iff items place
    simp only [named, walk, mk.injEq, true_and, and_true, List.forall_mem_cons,
      List.forall_mem_append, hps, hitems]

theorem namedFields_eq_self_iff : ∀ (ps : List (String × Rule)) (place : String),
    namedFields ps = ps ↔
      ∀ entry ∈ walkFields place ps, .ofName entry.2.fieldType.name = entry.2.fieldType
  | [], place => by simp [namedFields, walkFields]
  | (name, rule) :: rest, place => by
    have hrule := named_eq_self_iff rule (place ++ "." ++ name)
    have hrest := namedFields_eq_self_iff rest place
    simp only [namedFields, walkFields, List.cons.injEq, Prod.mk.injEq, true_and,
      List.forall_mem_append, hrule, hrest]

theorem namedItems_eq_self_iff : ∀ (items : Option Rule) (place : String),
    namedItems items = items ↔
      ∀ entry ∈ walkItems place items, .ofName entry.2.fieldType.name = entry.2.fieldType
  | none, place => by simp [namedItems, walkItems]
  | some rule, place => by
    have hrule := named_eq_self_iff rule (place ++ "[]")
    simp only [namedItems, walkItems, Option.some.injEq, hrule]
end

theorem forall_namedFields {ps : List (String × Rule)} :
    namedFields ps = ps ↔ ∀ entry ∈ ps, named entry.2 = entry.2 := by
  induction ps with
  | nil => simp [namedFields]
  | cons entry rest ih =>
    obtain ⟨name, rule⟩ := entry
    simp only [namedFields, List.cons.injEq, Prod.mk.injEq, true_and, ih, List.forall_mem_cons]

end Types

end Rule

namespace Schema

theorem mem_customTypes_iff {schema : Schema} {place name : String} :
    (place, name) ∈ schema.customTypes ↔
      ∃ entry ∈ schema.fields, ∃ rule, (place, rule) ∈ entry.2.walk entry.1 ∧
        rule.fieldType = .custom name := by
  constructor
  · intro h
    obtain ⟨⟨place', rule⟩, hplace, htype⟩ := List.mem_filterMap.mp h
    obtain ⟨entry, hentry, hrule⟩ := List.mem_flatMap.mp hplace
    simp only at htype
    split at htype
    next heq =>
      cases htype
      exact ⟨entry, hentry, rule, hrule, heq⟩
    next => cases htype
  · rintro ⟨entry, hentry, rule, hrule, htype⟩
    refine List.mem_filterMap.mpr ⟨(place, rule), List.mem_flatMap.mpr ⟨entry, hentry, hrule⟩, ?_⟩
    simp [htype]

/-- The fields are read back from what is written of them if no custom type in them has the name of
another type. -/
theorem namedFields_fields_iff (schema : Schema) :
    Rule.namedFields schema.fields = schema.fields ↔
      ∀ entry ∈ schema.customTypes, entry.2 ∉ FieldType.builtinNames := by
  rw [Rule.forall_namedFields]
  constructor
  · rintro h ⟨place, name⟩ hcustom
    obtain ⟨entry, hentry, rule, hrule, htype⟩ := mem_customTypes_iff.mp hcustom
    have hread := (Rule.named_eq_self_iff entry.2 entry.1).mp (h entry hentry) _ hrule
    exact FieldType.ofName_name_iff.mp hread name htype
  · intro h entry hentry
    refine (Rule.named_eq_self_iff entry.2 entry.1).mpr ?_
    rintro ⟨place, rule⟩ hrule
    refine FieldType.ofName_name_iff.mpr fun name htype => ?_
    exact h (place, name) (mem_customTypes_iff.mpr ⟨entry, hentry, rule, hrule, htype⟩)

end Schema

end SettingsCheck
