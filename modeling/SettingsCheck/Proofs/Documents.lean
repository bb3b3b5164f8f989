import SettingsCheck.Document.Conversion

namespace SettingsCheck

namespace Value

theorem names_allEntries {entries : List (String × Except ValueError Value)}
    {es : List (String × Value)} (h : allEntries entries = .ok es) :
    Fields.names es = Fields.names entries := by
  induction entries generalizing es with
  | nil => cases h; rfl
  | cons entry rest ih =>
    obtain ⟨name, result⟩ := entry
    unfold allEntries at h
    split at h
    · cases h
    · split at h
      · cases h
      next es' hes =>
        cases h
        exact congrArg (name :: ·) (ih hes)

theorem mem_of_mem_allEntries {entries : List (String × Except ValueError Value)}
    {es : List (String × Value)} (h : allEntries entries = .ok es) {entry : String × Value}
    (he : entry ∈ es) : (entry.1, .ok entry.2) ∈ entries := by
  induction entries generalizing es with
  | nil => cases h; cases he
  | cons first rest ih =>
    obtain ⟨name, result⟩ := first
    unfold allEntries at h
    split at h
    · cases h
    · split at h
      · cases h
      next es' hes =>
        cases h
        rcases List.mem_cons.mp he with rfl | he
        · exact List.mem_cons_self
        · exact List.mem_cons_of_mem _ (ih hes he)

theorem ordered_ofInteger {n : Int} {v : Value} (h : ofInteger n = .ok v) : v.Ordered := by
  unfold ofInteger at h
  split at h <;> cases h
  trivial

mutual

theorem ordered_ofJson : (j : Json) → ∀ {v : Value}, ofJson j = .ok v → v.Ordered
  | .null, _, h => by cases h; trivial
  | .bool _, _, h => by cases h; trivial
  | .integer _, _, h => ordered_ofInteger h
  | .float _, _, h => by cases h; trivial
  | .string _, _, h => by cases h; trivial
  | .array items, _, h => by
    unfold ofJson at h
    split at h
    · cases h
    next vs hvs =>
      cases h
      exact itemsOrdered_ofJsonItems items hvs
  | .object entries, _, h => by
    unfold ofJson at h
    split at h
    · cases h
    next es hes =>
      cases h
      constructor
      · rw [Fields.Ordered, names_allEntries hes]
        exact Fields.ordered_ofList _
      · refine entriesOrdered_iff.mpr fun entry he => ?_
        have hm := Fields.mem_of_mem_ofList (mem_of_mem_allEntries hes he)
        exact ordered_of_mem_ofJsonEntries entries hm

theorem itemsOrdered_ofJsonItems :
    (items : List Json) → ∀ {vs : List Value}, ofJsonItems items = .ok vs → ItemsOrdered vs
  | [], _, h => by cases h; trivial
  | item :: rest, _, h => by
    unfold ofJsonItems at h
    split at h
    · cases h
    next v hv =>
      split at h
      · cases h
      next vs hvs =>
        cases h
        exact ⟨ordered_ofJson item hv, itemsOrdered_ofJsonItems rest hvs⟩

theorem ordered_of_mem_ofJsonEntries : (entries : List (String × Json)) →
    ∀ {name : String} {v : Value}, (name, .ok v) ∈ ofJsonEntries entries → v.Ordered
  | [], _, _, h => by cases h
  | (_, item) :: rest, _, _, h => by
    unfold ofJsonEntries at h
    rcases List.mem_cons.mp h with h | h
    · exact ordered_ofJson item (Prod.mk.inj h).2.symm
    · exact ordered_of_mem_ofJsonEntries rest h

end

mutual

theorem ordered_ofYaml : (t : Yaml.Tree) → ∀ {v : Value}, ofYaml t = .ok v → v.Ordered
  | .null, _, h => by cases h; trivial
  | .bool _, _, h => by cases h; trivial
  | .integer _, _, h => ordered_ofInteger h
  | .float _, _, h => by cases h; trivial
  | .string _, _, h => by cases h; trivial
  | .sequence items, _, h => by
    unfold ofYaml at h
    split at h
    · cases h
    next vs hvs =>
      cases h
      exact itemsOrdered_ofYamlItems items hvs
  | .mapping entries, _, h => by
    unfold ofYaml at h
    split at h
    · cases h
    next es hes =>
      cases h
      refine ⟨Fields.ordered_ofList es, entriesOrdered_iff.mpr fun entry he => ?_⟩
      exact entriesOrdered_iff.mp (entriesOrdered_ofYamlEntries entries hes) entry
        (Fields.mem_of_mem_ofList he)
  | .tagged _ content, _, h => ordered_ofYaml content h

theorem itemsOrdered_ofYamlItems :
    (items : List Yaml.Tree) → ∀ {vs : List Value}, ofYamlItems items = .ok vs → ItemsOrdered vs
  | [], _, h => by cases h; trivial
  | item :: rest, _, h => by
    unfold ofYamlItems at h
    split at h
    · cases h
    next v hv =>
      split at h
      · cases h
      next vs hvs =>
        cases h
        exact ⟨ordered_ofYaml item hv, itemsOrdered_ofYamlItems rest hvs⟩

theorem entriesOrdered_ofYamlEntries : (entries : List (Yaml.Tree × Yaml.Tree)) →
    ∀ {es : List (String × Value)}, ofYamlEntries entries = .ok es → EntriesOrdered es
  | [], _, h => by cases h; trivial
  | (_, item) :: rest, _, h => by
    unfold ofYamlEntries at h
    split at h
    · cases h
    · split at h
      · cases h
      next v hv =>
        split at h
        · cases h
        next es hes =>
          cases h
          exact ⟨ordered_ofYaml item hv, entriesOrdered_ofYamlEntries rest hes⟩

end

theorem ordered_ofJsonText {text : String} {v : Value} (h : ofJsonText text = .ok v) :
    v.Ordered := by
  unfold ofJsonText at h
  split at h
  · cases h
  · exact ordered_ofJson _ h

theorem ordered_ofYamlText {text : String} {v : Value} (h : ofYamlText text = .ok v) :
    v.Ordered := by
  unfold ofYamlText at h
  split at h
  · cases h
  · exact ordered_ofYaml _ h

end Value

end SettingsCheck
