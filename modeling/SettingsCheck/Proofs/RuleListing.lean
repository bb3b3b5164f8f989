import SettingsCheck.Schema.Shape
import Mathlib.Data.List.Nodup

namespace SettingsCheck

inductive RuleStep where
  | field (name : String)
  /-- From the rule of an array to the rule of its elements. -/
  | element
  deriving DecidableEq, Repr

/-- A rule of a schema and its place. The rule of array elements has no siblings. -/
structure Standing where
  /-- From the top level on. -/
  steps : List RuleStep
  siblings : Option Rules
  rule : Rule

mutual
def Rule.standings (steps : List RuleStep) (siblings : Option Rules) : Rule → List Standing
  | ⟨t, r, ps, items, rw, vw, d⟩ =>
    ⟨steps, siblings, ⟨t, r, ps, items, rw, vw, d⟩⟩ ::
      (fieldStandings steps ps ps ++ itemStandings steps items)

def fieldStandings (steps : List RuleStep) (siblings : Rules) :
    List (String × Rule) → List Standing
  | [] => []
  | (name, rule) :: rest =>
    Rule.standings (steps ++ [.field name]) (some siblings) rule ++
      fieldStandings steps siblings rest

def itemStandings (steps : List RuleStep) : Option Rule → List Standing
  | none => []
  | some rule => Rule.standings (steps ++ [.element]) none rule
end

/-- All rules among the fields of a schema. -/
def listing (fields : Rules) : List Standing := fieldStandings [] fields fields

/-- Which rule stands where among the fields of a schema. -/
inductive Stands (fields : Rules) : List RuleStep → Option Rules → Rule → Prop
  | field {name : String} {rule : Rule} :
    (name, rule) ∈ fields → Stands fields [.field name] (some fields) rule
  | property {steps : List RuleStep} {siblings : Option Rules} {above rule : Rule} {name : String} :
    Stands fields steps siblings above → (name, rule) ∈ above.properties →
    Stands fields (steps ++ [.field name]) (some above.properties) rule
  | element {steps : List RuleStep} {siblings : Option Rules} {above rule : Rule} :
    Stands fields steps siblings above → above.items = some rule →
    Stands fields (steps ++ [.element]) none rule

section Members

variable {fields : Rules} {s : Standing}

theorem mem_fieldStandings_iff {steps : List RuleStep} {siblings : Rules}
    {rules : List (String × Rule)} :
    s ∈ fieldStandings steps siblings rules ↔
      ∃ entry ∈ rules, s ∈ entry.2.standings (steps ++ [.field entry.1]) (some siblings) := by
  induction rules with
  | nil => simp [fieldStandings]
  | cons entry rest ih =>
    obtain ⟨name, rule⟩ := entry
    rw [fieldStandings, List.mem_append, ih, List.exists_mem_cons_iff]

theorem mem_itemStandings_iff {steps : List RuleStep} {items : Option Rule} :
    s ∈ itemStandings steps items ↔
      ∃ rule, items = some rule ∧ s ∈ rule.standings (steps ++ [.element]) none := by
  cases items with
  | none => simp [itemStandings]
  | some rule => simp [itemStandings]

theorem standings_eq_cons (rule : Rule) (steps : List RuleStep) (siblings : Option Rules) :
    rule.standings steps siblings = ⟨steps, siblings, rule⟩ ::
      (fieldStandings steps rule.properties rule.properties ++ itemStandings steps rule.items) := by
  obtain ⟨_, _, _, _, _, _, _⟩ := rule
  rw [Rule.standings]

theorem mem_standings_iff {rule : Rule} {steps : List RuleStep} {siblings : Option Rules} :
    s ∈ rule.standings steps siblings ↔ s = ⟨steps, siblings, rule⟩ ∨
      (∃ entry ∈ rule.properties,
        s ∈ entry.2.standings (steps ++ [.field entry.1]) (some rule.properties)) ∨
      ∃ items, rule.items = some items ∧ s ∈ items.standings (steps ++ [.element]) none := by
  rw [standings_eq_cons, List.mem_cons, List.mem_append, mem_fieldStandings_iff,
    mem_itemStandings_iff]

mutual
/-- What is listed below a rule that stands somewhere stands where the listing says. -/
theorem stands_of_mem_standings : ∀ (rule : Rule) {steps : List RuleStep} {siblings : Option Rules},
    Stands fields steps siblings rule → s ∈ rule.standings steps siblings →
    Stands fields s.steps s.siblings s.rule
  | ⟨t, r, properties, items, rw, vw, d⟩, steps, siblings, h, hs => by
    rw [Rule.standings, List.mem_cons, List.mem_append] at hs
    rcases hs with rfl | hs | hs
    · exact h
    · exact stands_of_mem_fieldStandings properties h (fun _ he => he) hs
    · exact stands_of_mem_itemStandings items h rfl hs

theorem stands_of_mem_fieldStandings {above : Rule} {steps : List RuleStep}
    {siblings : Option Rules} : ∀ (rules : List (String × Rule)),
    Stands fields steps siblings above → (∀ entry ∈ rules, entry ∈ above.properties) →
    s ∈ fieldStandings steps above.properties rules → Stands fields s.steps s.siblings s.rule
  | [], _, _, hs => by simp [fieldStandings] at hs
  | (name, rule) :: rest, h, hall, hs => by
    rw [fieldStandings, List.mem_append] at hs
    rcases hs with hs | hs
    · exact stands_of_mem_standings rule (h.property (hall _ List.mem_cons_self)) hs
    · exact stands_of_mem_fieldStandings rest h
        (fun entry he => hall entry (List.mem_cons_of_mem _ he)) hs

theorem stands_of_mem_itemStandings {above : Rule} {steps : List RuleStep}
    {siblings : Option Rules} : ∀ (items : Option Rule),
    Stands fields steps siblings above → above.items = items →
    s ∈ itemStandings steps items → Stands fields s.steps s.siblings s.rule
  | none, _, _, hs => by simp [itemStandings] at hs
  | some rule, h, hi, hs => stands_of_mem_standings rule (h.element hi) hs
end

/-- The listing holds what is listed below any of its rules. -/
theorem standings_subset_of_stands {steps : List RuleStep} {siblings : Option Rules} {rule : Rule}
    (h : Stands fields steps siblings rule) : rule.standings steps siblings ⊆ listing fields := by
  induction h with
  | field hr =>
    intro s hs
    exact mem_fieldStandings_iff.mpr ⟨_, hr, hs⟩
  | property _ hr ih =>
    intro s hs
    exact ih (mem_standings_iff.mpr (.inr (.inl ⟨_, hr, hs⟩)))
  | element _ hi ih =>
    intro s hs
    exact ih (mem_standings_iff.mpr (.inr (.inr ⟨_, hi, hs⟩)))

theorem mem_listing_iff : s ∈ listing fields ↔ Stands fields s.steps s.siblings s.rule := by
  constructor
  · intro hs
    obtain ⟨entry, he, hs⟩ := mem_fieldStandings_iff.mp hs
    exact stands_of_mem_standings _ (.field he) hs
  · intro h
    have hself := mem_standings_iff.mpr (.inl (Eq.refl (⟨s.steps, s.siblings, s.rule⟩ : Standing)))
    exact standings_subset_of_stands h hself

end Members

section Once

variable {steps : List RuleStep} {s : Standing}

mutual
/-- The steps to what is listed with a rule begin with those to the rule. -/
theorem prefix_of_mem_standings : ∀ (rule : Rule) {steps : List RuleStep}
    {siblings : Option Rules}, s ∈ rule.standings steps siblings → steps <+: s.steps
  | ⟨t, r, properties, items, rw, vw, d⟩, steps, siblings, hs => by
    rw [Rule.standings, List.mem_cons, List.mem_append] at hs
    rcases hs with rfl | hs | hs
    · exact List.prefix_refl _
    · obtain ⟨name, _, hprefix⟩ := prefix_of_mem_fieldStandings properties hs
      exact (List.prefix_append steps _).trans hprefix
    · exact (List.prefix_append steps _).trans (prefix_of_mem_itemStandings items hs)

theorem prefix_of_mem_fieldStandings : ∀ (rules : List (String × Rule)) {steps : List RuleStep}
    {siblings : Rules}, s ∈ fieldStandings steps siblings rules →
    ∃ name ∈ rules.map Prod.fst, steps ++ [.field name] <+: s.steps
  | [], _, _, hs => by simp [fieldStandings] at hs
  | (name, rule) :: rest, steps, siblings, hs => by
    rw [fieldStandings, List.mem_append] at hs
    rcases hs with hs | hs
    · exact ⟨name, List.mem_cons_self, prefix_of_mem_standings rule hs⟩
    · obtain ⟨other, ho, hprefix⟩ := prefix_of_mem_fieldStandings rest hs
      exact ⟨other, List.mem_cons_of_mem _ ho, hprefix⟩

theorem prefix_of_mem_itemStandings : ∀ (items : Option Rule) {steps : List RuleStep},
    s ∈ itemStandings steps items → steps ++ [.element] <+: s.steps
  | none, _, hs => by simp [itemStandings] at hs
  | some rule, _, hs => prefix_of_mem_standings rule hs
end

theorem step_eq_of_prefix {a b : RuleStep} {l : List RuleStep} (ha : steps ++ [a] <+: l)
    (hb : steps ++ [b] <+: l) : a = b := by
  have hlen : (steps ++ [a]).length = (steps ++ [b]).length := by simp
  have hsame := (List.prefix_of_prefix_length_le ha hb (Nat.le_of_eq hlen)).eq_of_length hlen
  simpa using hsame

theorem not_prefix_self (a : RuleStep) : ¬steps ++ [a] <+: steps := by
  intro h
  have hlen := h.length_le
  rw [List.length_append, List.length_singleton] at hlen
  omega

mutual
theorem nodup_standings : ∀ (rule : Rule) (steps : List RuleStep) (siblings : Option Rules),
    rule.Ordered → ((rule.standings steps siblings).map Standing.steps).Nodup
  | ⟨t, r, properties, items, rw, vw, d⟩, steps, siblings, ⟨hnames, hproperties, hitems⟩ => by
    rw [Rule.standings, List.map_cons, List.map_append, List.nodup_cons, List.nodup_append,
      List.mem_append]
    refine ⟨?_, nodup_fieldStandings properties steps properties hnames.nodup hproperties,
      nodup_itemStandings items steps hitems, ?_⟩
    · rintro (h | h)
      · obtain ⟨s, hs, heq⟩ := List.mem_map.mp h
        obtain ⟨name, _, hprefix⟩ := prefix_of_mem_fieldStandings properties hs
        exact not_prefix_self _ (heq ▸ hprefix)
      · obtain ⟨s, hs, heq⟩ := List.mem_map.mp h
        exact not_prefix_self _ (heq ▸ prefix_of_mem_itemStandings items hs)
    · -- the places of properties and of elements part at the step that leaves the rule
      intro a ha b hb heq
      obtain ⟨s, hs, rfl⟩ := List.mem_map.mp ha
      obtain ⟨s', hs', rfl⟩ := List.mem_map.mp hb
      obtain ⟨name, _, hprefix⟩ := prefix_of_mem_fieldStandings properties hs
      have helement := prefix_of_mem_itemStandings items hs'
      cases step_eq_of_prefix hprefix (heq ▸ helement)

theorem nodup_fieldStandings : ∀ (rules : List (String × Rule)) (steps : List RuleStep)
    (siblings : Rules), (rules.map Prod.fst).Nodup → Rule.FieldsOrdered rules →
    ((fieldStandings steps siblings rules).map Standing.steps).Nodup
  | [], _, _, _, _ => by simp [fieldStandings]
  | (name, rule) :: rest, steps, siblings, hnames, ⟨hrule, hrest⟩ => by
    obtain ⟨hfresh, hnames⟩ := List.nodup_cons.mp hnames
    rw [fieldStandings, List.map_append, List.nodup_append]
    refine ⟨nodup_standings rule _ _ hrule, nodup_fieldStandings rest _ _ hnames hrest, ?_⟩
    intro a ha b hb heq
    obtain ⟨s, hs, rfl⟩ := List.mem_map.mp ha
    obtain ⟨s', hs', rfl⟩ := List.mem_map.mp hb
    obtain ⟨other, ho, hprefix⟩ := prefix_of_mem_fieldStandings rest hs'
    cases step_eq_of_prefix (prefix_of_mem_standings rule hs) (heq ▸ hprefix)
    exact hfresh ho

theorem nodup_itemStandings : ∀ (items : Option Rule) (steps : List RuleStep),
    Rule.ItemsOrdered items → ((itemStandings steps items).map Standing.steps).Nodup
  | none, _, _ => by simp [itemStandings]
  | some rule, _, h => nodup_standings rule _ _ h
end

/-- No two rules of the listing stand at one place. -/
theorem nodup_listing {fields : Rules} (h : fields.Ordered ∧ Rule.FieldsOrdered fields) :
    ((listing fields).map Standing.steps).Nodup :=
  nodup_fieldStandings fields [] fields h.1.nodup h.2

end Once

section Texts

/-- The text of a place one step further down. -/
def RuleStep.extend (text : String) : RuleStep → String
  | .field name => text ++ "." ++ name
  | .element => text ++ "[]"

/-- The text of a place as the walk through a schema gives it. -/
def placeText : List RuleStep → String
  | [] => ""
  | .field name :: rest => rest.foldl RuleStep.extend name
  | .element :: rest => rest.foldl RuleStep.extend "[]"

theorem placeText_append {steps : List RuleStep} (h : steps ≠ []) (step : RuleStep) :
    placeText (steps ++ [step]) = step.extend (placeText steps) := by
  cases steps with
  | nil => exact absurd rfl h
  | cons first rest => cases first <;> simp [placeText, List.foldl_append]

/-- What the walk through a schema tells about a rule. -/
def Standing.told (s : Standing) : String × Rule := (placeText s.steps, s.rule)

mutual
theorem map_told_standings : ∀ (rule : Rule) {steps : List RuleStep} (siblings : Option Rules),
    steps ≠ [] → (rule.standings steps siblings).map Standing.told = rule.walk (placeText steps)
  | ⟨t, r, properties, items, rw, vw, d⟩, steps, siblings, h => by
    rw [Rule.standings, Rule.walk, List.map_cons, List.map_append,
      map_told_fieldStandings properties properties h, map_told_itemStandings items h]
    rfl

theorem map_told_fieldStandings : ∀ (rules : List (String × Rule)) {steps : List RuleStep}
    (siblings : Rules), steps ≠ [] →
    (fieldStandings steps siblings rules).map Standing.told =
      Rule.walkFields (placeText steps) rules
  | [], _, _, _ => rfl
  | (name, rule) :: rest, steps, siblings, h => by
    have hstep : steps ++ [.field name] ≠ [] := by simp
    rw [fieldStandings, Rule.walkFields, List.map_append,
      map_told_standings rule (some siblings) hstep, map_told_fieldStandings rest siblings h,
      placeText_append h]
    rfl

theorem map_told_itemStandings : ∀ (items : Option Rule) {steps : List RuleStep}, steps ≠ [] →
    (itemStandings steps items).map Standing.told = Rule.walkItems (placeText steps) items
  | none, _, _ => rfl
  | some rule, steps, h => by
    have hstep : steps ++ [.element] ≠ [] := by simp
    rw [itemStandings, Rule.walkItems, map_told_standings rule none hstep, placeText_append h]
    rfl
end

/-- The walk through a schema tells about the rules of the listing, in its order. -/
theorem map_told_listing (fields : Rules) :
    (listing fields).map Standing.told = fields.flatMap fun (name, rule) => rule.walk name := by
  have step : ∀ (rules : List (String × Rule)) (siblings : Rules),
      (fieldStandings [] siblings rules).map Standing.told =
        rules.flatMap fun (name, rule) => rule.walk name := by
    intro rules siblings
    induction rules with
    | nil => rfl
    | cons entry rest ih =>
      obtain ⟨name, rule⟩ := entry
      have hrule := map_told_standings rule (some siblings) (List.cons_ne_nil (.field name) [])
      rw [fieldStandings, List.map_append, ih, List.nil_append, hrule]
      rfl
  exact step fields fields

end Texts

end SettingsCheck
