import SettingsCheck.Proofs.Judgement
import SettingsCheck.Proofs.JsonText
import SettingsCheck.Proofs.RuleText

namespace SettingsCheck

namespace Rule

theorem forall_entryUnless {absent : Bool} {name : String} {j : Json} {P : Json → Prop} :
    (∀ entry ∈ entryUnless absent name j, P entry.2) ↔ (absent = false → P j) := by
  cases absent <;> simp [entryUnless]

/-- What holds of every scalar holds of all that is written of a rule if it holds of the containers
in it. -/
theorem forall_entries {rule : Rule} {P : Json → Prop} (hs : ∀ s, P (.string s))
    (hb : ∀ b, P (.bool b)) :
    (∀ entry ∈ rule.entries, P entry.2) ↔
      (rule.properties ≠ [] → P (.object (rulesToJson rule.properties))) ∧
      (∀ items, rule.items = some items → P (toJson items)) ∧
      (rule.requiredWhenTrue ≠ [] → P (.array (rule.requiredWhenTrue.map .string))) ∧
      (rule.validateWhenTrue ≠ [] → P (.array (rule.validateWhenTrue.map .string))) := by
  have hitems : (∀ entry ∈ itemsToJson rule.items, P entry.2) ↔
      ∀ items, rule.items = some items → P (toJson items) := by
    cases rule.items <;> simp [itemsToJson]
  have hhead : ∀ entry ∈ [("type", Json.string rule.fieldType.name),
      ("required", .bool rule.required)], P entry.2 := by
    simp [hs, hb]
  simp only [entries, List.forall_mem_append, forall_entryUnless, hitems, List.isEmpty_eq_false_iff,
    hs, implies_true, and_true, and_assoc, iff_true_intro hhead, true_and]

mutual
theorem numberless_toJson : ∀ rule : Rule, (toJson rule).Numberless
  | ⟨t, r, ps, items, rw, vw, d⟩ => by
    rw [toJson_eq]
    refine Json.entriesNumberless_iff.mpr ((forall_entries (fun _ => trivial) fun _ => trivial).mpr
      ⟨fun _ => numberless_rulesToJson ps, ?_, fun _ => Json.numberless_strings rw,
        fun _ => Json.numberless_strings vw⟩)
    exact numberless_itemsToJson items

theorem numberless_rulesToJson : ∀ ps : List (String × Rule),
    Json.EntriesNumberless (rulesToJson ps)
  | [] => trivial
  | (_, rule) :: rest => ⟨numberless_toJson rule, numberless_rulesToJson rest⟩

theorem numberless_itemsToJson : ∀ items : Option Rule,
    ∀ rule, items = some rule → (toJson rule).Numberless
  | some rule, _, rfl => numberless_toJson rule
end

/-- The rule is read back from what is written of it, and no more containers nest in that than
given. -/
def Fits (d : Nat) (rule : Rule) : Prop := named rule = rule ∧ (toJson rule).depth ≤ d

/-- The same for the fields of an object. -/
def FieldsFit (d : Nat) (ps : List (String × Rule)) : Prop :=
  namedFields ps = ps ∧ (Json.object (rulesToJson ps)).depth ≤ d

section Fits

variable {d : Nat} {rule : Rule} {ps : List (String × Rule)}

theorem Fits.mono {d' : Nat} (h : Fits d rule) (hd : d ≤ d') : Fits d' rule :=
  ⟨h.1, Nat.le_trans h.2 hd⟩

theorem FieldsFit.mono {d' : Nat} (h : FieldsFit d ps) (hd : d ≤ d') : FieldsFit d' ps :=
  ⟨h.1, Nat.le_trans h.2 hd⟩

theorem depth_rulesToJson_le_iff :
    Json.depthOfEntries (rulesToJson ps) ≤ d ↔ ∀ entry ∈ ps, (toJson entry.2).depth ≤ d := by
  induction ps with
  | nil => simp [rulesToJson, Json.depthOfEntries]
  | cons entry rest ih =>
    obtain ⟨name, rule⟩ := entry
    simp only [rulesToJson, Json.depthOfEntries, Nat.max_le, ih, List.forall_mem_cons]

theorem fieldsFit_succ_iff : FieldsFit (d + 1) ps ↔ ∀ entry ∈ ps, Fits d entry.2 := by
  simp only [FieldsFit, Fits, Json.depth, Nat.add_le_add_iff_right, forall_namedFields,
    depth_rulesToJson_le_iff, forall_and]

theorem fieldsFit_nil_iff : FieldsFit d [] ↔ 1 ≤ d := by
  simp [FieldsFit, namedFields, rulesToJson, Json.depth, Json.depthOfEntries]

theorem named_eq_self_iff_parts : named rule = rule ↔
    .ofName rule.fieldType.name = rule.fieldType ∧ namedFields rule.properties = rule.properties ∧
      ∀ items, rule.items = some items → named items = items := by
  obtain ⟨t, r, ps, items, rw, vw, d⟩ := rule
  cases items <;> simp [named, namedItems]

theorem depth_toJson_le_succ_iff : (toJson rule).depth ≤ d + 1 ↔
    (rule.properties ≠ [] → (Json.object (rulesToJson rule.properties)).depth ≤ d) ∧
    (∀ items, rule.items = some items → (toJson items).depth ≤ d) ∧
    (rule.requiredWhenTrue ≠ [] → 1 ≤ d) ∧ (rule.validateWhenTrue ≠ [] → 1 ≤ d) := by
  rw [toJson_eq, Json.depth, Nat.add_le_add_iff_right, Json.depthOfEntries_le_iff,
    forall_entries (P := fun j => j.depth ≤ d) (fun _ => Nat.zero_le d) fun _ => Nat.zero_le d]
  simp only [Json.depth_strings]

/-- What a rule is made of is one container deeper than the rule. -/
theorem fits_succ_iff : Fits (d + 1) rule ↔ .ofName rule.fieldType.name = rule.fieldType ∧
    (rule.properties ≠ [] → FieldsFit d rule.properties) ∧
    (∀ items, rule.items = some items → Fits d items) ∧
    (rule.requiredWhenTrue ≠ [] → 1 ≤ d) ∧ (rule.validateWhenTrue ≠ [] → 1 ≤ d) := by
  rw [Fits, named_eq_self_iff_parts, depth_toJson_le_succ_iff]
  constructor
  · rintro ⟨⟨htype, hps, hitems⟩, hpsDepth, hitemsDepth, hgates⟩
    exact ⟨htype, fun hne => ⟨hps, hpsDepth hne⟩,
      fun items h => ⟨hitems items h, hitemsDepth items h⟩, hgates⟩
  · rintro ⟨htype, hps, hitems, hgates⟩
    have hnamed : namedFields rule.properties = rule.properties := by
      by_cases hempty : rule.properties = []
      · rw [hempty, namedFields]
      · exact (hps hempty).1
    exact ⟨⟨htype, hnamed, fun items h => (hitems items h).1⟩, fun hne => (hps hne).2,
      fun items h => (hitems items h).2, hgates⟩

theorem Fits.exists_succ (h : Fits d rule) : ∃ n, d = n + 1 := by
  have hd := h.2
  rw [toJson_eq] at hd
  exact ⟨d - 1, (Nat.succ_pred_eq_of_pos (Nat.lt_of_lt_of_le (Nat.succ_pos _) hd)).symm⟩

theorem FieldsFit.exists_succ (h : FieldsFit d ps) : ∃ n, d = n + 1 :=
  ⟨d - 1, (Nat.succ_pred_eq_of_pos (Nat.lt_of_lt_of_le (Nat.succ_pos _) h.2)).symm⟩

theorem fits_ofType_string : Fits (d + 1) (ofType .string) := by
  simp [fits_succ_iff, ofType, FieldType.ofName, FieldType.name]

end Fits

section Keeping

variable {d : Nat}

/-- A change of a rule that fits leaves a rule that fits. -/
def Keeps (d : Nat) (c : Change) : Prop :=
  ∀ f, c = some f → ∀ rule, Fits (d + 1) rule → Fits (d + 1) (f rule)

theorem one_le_depth_of_listOf? {α : Type} {read : Source → Option α} {j : Json} {l : List α}
    (h : (Source.ofJson j).listOf? read = some l) : 1 ≤ j.depth := by
  cases j with
  | array items => exact Nat.succ_le_succ (Nat.zero_le _)
  | _ => cases h

/-- Every field that is read of a rule keeps what is known of the rule. -/
theorem keeps_change {name : String} {j : Json} (hj : j.depth ≤ d)
    (hrule : ∀ {rule}, ofSource? (.ofJson j) = some rule → Fits j.depth rule)
    (hrules : ∀ {ps}, rulesOfSource? (.ofJson j) = some ps → FieldsFit j.depth ps) :
    Keeps d (change name (.ofJson j) (fun _ => ofSource? (.ofJson j))
      fun _ => rulesOfSource? (.ofJson j)) := by
  intro f hf rule hfits
  obtain ⟨htype, hps, hitems, hrequired, hvalidate⟩ := fits_succ_iff.mp hfits
  -- one case for each field of a rule, in the order in which `change` asks for its name
  unfold change at hf
  split at hf
  next =>
    obtain ⟨t, _, rfl⟩ := Option.map_eq_some_iff.mp hf
    exact fits_succ_iff.mpr ⟨by rw [FieldType.name_ofName], hps, hitems, hrequired, hvalidate⟩
  split at hf
  next =>
    obtain ⟨b, _, rfl⟩ := Option.map_eq_some_iff.mp hf
    exact fits_succ_iff.mpr ⟨htype, hps, hitems, hrequired, hvalidate⟩
  split at hf
  next =>
    obtain ⟨ps, hread, rfl⟩ := Option.map_eq_some_iff.mp hf
    exact fits_succ_iff.mpr ⟨htype, fun _ => (hrules hread).mono hj, hitems, hrequired, hvalidate⟩
  split at hf
  next =>
    split at hf
    · cases hf
      exact hfits
    · obtain ⟨items, hread, rfl⟩ := Option.map_eq_some_iff.mp hf
      refine fits_succ_iff.mpr ⟨htype, hps, ?_, hrequired, hvalidate⟩
      intro other heq
      cases heq
      exact (hrule hread).mono hj
  split at hf
  next =>
    obtain ⟨names, hread, rfl⟩ := Option.map_eq_some_iff.mp hf
    have hd := Nat.le_trans (one_le_depth_of_listOf? hread) hj
    exact fits_succ_iff.mpr ⟨htype, hps, hitems, fun _ => hd, hvalidate⟩
  split at hf
  next =>
    obtain ⟨names, hread, rfl⟩ := Option.map_eq_some_iff.mp hf
    have hd := Nat.le_trans (one_le_depth_of_listOf? hread) hj
    exact fits_succ_iff.mpr ⟨htype, hps, hitems, hrequired, fun _ => hd⟩
  split at hf
  next =>
    split at hf
    · cases hf
      exact hfits
    · obtain ⟨text, _, rfl⟩ := Option.map_eq_some_iff.mp hf
      exact fits_succ_iff.mpr ⟨htype, hps, hitems, hrequired, hvalidate⟩
  next => cases hf

theorem fits_of_foldlM {parts : List (String × Change)} {start rule : Rule}
    (hparts : ∀ part ∈ parts, Keeps d part.2) (hstart : Fits (d + 1) start)
    (h : parts.foldlM (fun rule (_, change) => change.map (· rule)) start = some rule) :
    Fits (d + 1) rule := by
  induction parts generalizing start with
  | nil =>
    cases h
    exact hstart
  | cons part parts ih =>
    obtain ⟨hpart, hparts⟩ := List.forall_mem_cons.mp hparts
    obtain ⟨next, hnext, hrest⟩ := Option.bind_eq_some_iff.mp h
    obtain ⟨f, hf, rfl⟩ := Option.map_eq_some_iff.mp hnext
    exact ih hparts (hpart f hf start hstart) hrest

theorem fits_of_assemble {parts : List (String × Change)} {rule : Rule}
    (hparts : ∀ part ∈ parts, Keeps d part.2) (h : assemble parts = some rule) :
    Fits (d + 1) rule := by
  unfold assemble at h
  simp only at h
  split at h
  · cases h
  · exact fits_of_foldlM hparts fits_ofType_string h

end Keeping

mutual
/-- A rule that is read nests no deeper than what it is read from. -/
theorem fits_of_ofSource? : ∀ (j : Json) {rule : Rule}, ofSource? (.ofJson j) = some rule →
    Fits j.depth rule
  | .object entries, _, h =>
    fits_of_assemble (keeps_partsOfEntries entries (Nat.le_refl _)) h
  | .array items, _, h =>
    fits_of_assemble (keeps_partsOfItems fieldNames items (Nat.le_refl _)) h
  | .null, _, h => nomatch h
  | .bool _, _, h => nomatch h
  | .integer _, _, h => nomatch h
  | .float _, _, h => nomatch h
  | .string _, _, h => nomatch h

theorem keeps_partsOfEntries : ∀ (entries : List (String × Json)) {d : Nat},
    Json.depthOfEntries entries ≤ d →
    ∀ part ∈ partsOfEntries (Source.ofJsonEntries entries), Keeps d part.2
  | [], _, _, _, hpart => nomatch hpart
  | (name, j) :: rest, d, hd, part, hpart => by
    have hdepth : max j.depth (Json.depthOfEntries rest) ≤ d := hd
    obtain ⟨hj, hrest⟩ := Nat.max_le.mp hdepth
    rcases List.mem_cons.mp hpart with rfl | hpart
    · exact keeps_change hj (fits_of_ofSource? j) (fieldsFit_of_rulesOfSource? j)
    · exact keeps_partsOfEntries rest hrest part hpart

theorem keeps_partsOfItems : ∀ (names : List String) (items : List Json) {d : Nat},
    Json.depthOfItems items ≤ d →
    ∀ part ∈ partsOfItems names (Source.ofJsonItems items), Keeps d part.2
  | _, [], _, _, _, hpart => by simp [Source.ofJsonItems, partsOfItems] at hpart
  | [], _ :: _, _, _, part, hpart => by
    cases List.mem_singleton.mp hpart
    exact fun _ h => nomatch h
  | name :: names, j :: rest, d, hd, part, hpart => by
    have hdepth : max j.depth (Json.depthOfItems rest) ≤ d := hd
    obtain ⟨hj, hrest⟩ := Nat.max_le.mp hdepth
    rcases List.mem_cons.mp hpart with rfl | hpart
    · exact keeps_change hj (fits_of_ofSource? j) (fieldsFit_of_rulesOfSource? j)
    · exact keeps_partsOfItems names rest hrest part hpart

theorem fieldsFit_of_rulesOfSource? : ∀ (j : Json) {ps : List (String × Rule)},
    rulesOfSource? (.ofJson j) = some ps → FieldsFit j.depth ps
  | .object entries, _, h => fieldsFit_of_rulesOfEntries entries (Nat.le_refl _) h
  | .array _, _, h => nomatch h
  | .null, _, h => nomatch h
  | .bool _, _, h => nomatch h
  | .integer _, _, h => nomatch h
  | .float _, _, h => nomatch h
  | .string _, _, h => nomatch h

theorem fieldsFit_of_rulesOfEntries : ∀ (entries : List (String × Json)) {d : Nat}
    {ps : List (String × Rule)}, Json.depthOfEntries entries ≤ d →
    rulesOfEntries (Source.ofJsonEntries entries) = some ps → FieldsFit (d + 1) ps
  | [], d, ps, _, h => by
    cases h
    exact fieldsFit_nil_iff.mpr (Nat.succ_le_succ (Nat.zero_le d))
  | (name, j) :: rest, d, ps, hd, h => by
    have hdepth : max j.depth (Json.depthOfEntries rest) ≤ d := hd
    obtain ⟨hj, hrest⟩ := Nat.max_le.mp hdepth
    obtain ⟨rule, hrule, h⟩ := Option.bind_eq_some_iff.mp h
    obtain ⟨rules, hrules, h⟩ := Option.bind_eq_some_iff.mp h
    cases h
    have hfits := (fits_of_ofSource? j hrule).mono hj
    have hfields := fieldsFit_succ_iff.mp (fieldsFit_of_rulesOfEntries rest hrest hrules)
    exact fieldsFit_succ_iff.mpr (List.forall_mem_cons.mpr ⟨hfits, hfields⟩)
end

theorem fieldsFit_ofList {d : Nat} {ps : List (String × Rule)} (h : FieldsFit d ps) :
    FieldsFit d (Fields.ofList ps) := by
  obtain ⟨d, rfl⟩ := h.exists_succ
  exact fieldsFit_succ_iff.mpr fun entry he =>
    fieldsFit_succ_iff.mp h entry (Fields.mem_of_mem_ofList he)

mutual
theorem fits_inOrder : ∀ {rule : Rule} {d : Nat}, Fits d rule → Fits d rule.inOrder
  | ⟨t, r, ps, items, rw, vw, text⟩, d, h => by
    obtain ⟨d, rfl⟩ := h.exists_succ
    obtain ⟨htype, hps, hitems, hgates⟩ := fits_succ_iff.mp h
    have hfields (hne : Fields.ofList (fieldsInOrder ps) ≠ []) :
        FieldsFit d (Fields.ofList (fieldsInOrder ps)) :=
      fieldsFit_ofList (fieldsFit_fieldsInOrder (hps fun hempty => hne (by
        cases hempty
        rfl)))
    exact fits_succ_iff.mpr ⟨htype, hfields, fits_itemsInOrder hitems, hgates⟩

theorem fieldsFit_fieldsInOrder : ∀ {ps : List (String × Rule)} {d : Nat}, FieldsFit d ps →
    FieldsFit d (fieldsInOrder ps)
  | [], _, h => h
  | (name, rule) :: rest, d, h => by
    obtain ⟨d, rfl⟩ := h.exists_succ
    obtain ⟨hrule, hrest⟩ := List.forall_mem_cons.mp (fieldsFit_succ_iff.mp h)
    have hordered := fieldsFit_succ_iff.mp (fieldsFit_fieldsInOrder (fieldsFit_succ_iff.mpr hrest))
    exact fieldsFit_succ_iff.mpr (List.forall_mem_cons.mpr ⟨fits_inOrder hrule, hordered⟩)

theorem fits_itemsInOrder : ∀ {items : Option Rule} {d : Nat},
    (∀ rule, items = some rule → Fits d rule) → ∀ rule, itemsInOrder items = some rule → Fits d rule
  | some _, _, h, _, rfl => fits_inOrder (h _ rfl)
end

end Rule

namespace Schema

open Rule

theorem numberless_toJson (schema : Schema) : schema.toJson.Numberless :=
  numberless_rulesToJson schema.fields

/-- What is read of a written schema are its fields, each type as its name says. -/
theorem ofJsonText_compact {schema : Schema} (hd : schema.toJson.depth ≤ 127) :
    ofJsonText schema.toJson.compact = ofFields (namedFields schema.fields) := by
  have hparse := Json.parse?_compact schema.numberless_toJson hd
  have hrules : rulesOfSource? (.ofJson schema.toJson) = some (namedFields schema.fields) :=
    rulesOfEntries_toJson schema.fields
  simp only [ofJsonText, Source.ofJsonText?, hparse, Option.map_some, ofSource, Option.bind_some,
    hrules]

theorem ofFields_namedFields_iff {schema : Schema} :
    ofFields (namedFields schema.fields) = .ok schema ↔
      namedFields schema.fields = schema.fields := by
  obtain ⟨hnames, hfields⟩ := schema.ordered
  have hordered : Fields.Ordered (namedFields schema.fields) := by
    rw [Fields.Ordered, names_namedFields]
    exact hnames
  rw [ofFields_eq_ok_iff, fieldsInOrder_of_ordered (fieldsOrdered_namedFields hfields),
    Fields.ofList_of_ordered hordered, eq_comm]

/-- A text holds no more containers than a reader follows, and the schema in it no more than the
text. -/
theorem fieldsFit_of_ofJsonText {text : String} {schema : Schema}
    (h : ofJsonText text = .ok schema) : FieldsFit 127 schema.fields := by
  unfold ofJsonText Source.ofJsonText? ofSource at h
  cases htree : Json.parse? text with
  | none =>
    rw [htree] at h
    cases h
  | some j =>
    rw [htree] at h
    simp only [Option.map_some, Option.bind_some] at h
    split at h
    next => cases h
    next rules hrules =>
      have hfits := (fieldsFit_of_rulesOfSource? j hrules).mono (Json.depth_of_parse? htree)
      rw [ofFields_eq_ok_iff.mp h]
      exact fieldsFit_ofList (fieldsFit_fieldsInOrder hfits)

/-- A written schema is read back if no custom type in it has the name of a built-in one. So every
schema that has been read is. -/
theorem read_back_iff :
    (∀ schema : Schema, schema.toJson.depth ≤ 127 →
      (ofJsonText schema.toJson.compact = .ok schema ↔
        ∀ entry ∈ schema.customTypes, entry.2 ∉ FieldType.builtinNames)) ∧
    ∀ (text : String) (schema : Schema), ofJsonText text = .ok schema →
      ofJsonText schema.toJson.compact = .ok schema := by
  constructor
  · intro schema hd
    rw [ofJsonText_compact hd, ofFields_namedFields_iff, namedFields_fields_iff]
  · intro text schema h
    obtain ⟨hnamed, hd⟩ := fieldsFit_of_ofJsonText h
    rw [ofJsonText_compact hd]
    exact ofFields_namedFields_iff.mpr hnamed

end Schema

namespace Sample

/-- The type of the one field is custom, but it is called like the type of numbers. -/
def shadowedRules : Rules := [("port", .ofType (.custom "number"))]

theorem shadowedRules_ordered : shadowedRules.Ordered ∧ Rule.FieldsOrdered shadowedRules := by
  simp only [shadowedRules, Rule.FieldsOrdered, Rule.ofType, Rule.Ordered, Rule.ItemsOrdered]
  decide

def shadowed : Schema := ⟨shadowedRules, shadowedRules_ordered, by decide⟩

theorem schema_read_back :
    schema.toJson.depth ≤ 127 ∧ shadowed.toJson.depth ≤ 127 ∧
    Schema.ofJsonText schema.toJson.compact = .ok schema ∧
    Schema.ofJsonText shadowed.toJson.compact ≠ .ok shadowed := by
  have hschema : schema.toJson.depth ≤ 127 := by decide
  have hshadowed : shadowed.toJson.depth ≤ 127 := by decide
  obtain ⟨hiff, hread⟩ := Schema.read_back_iff
  have hback := (hiff schema hschema).mpr (by decide)
  refine ⟨hschema, hshadowed, hread _ schema hback, fun hsame => ?_⟩
  exact absurd ((hiff shadowed hshadowed).mp hsame) (by decide)

end Sample

end SettingsCheck
