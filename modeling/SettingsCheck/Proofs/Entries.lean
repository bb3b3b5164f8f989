import SettingsCheck.Document.Conversion
import SettingsCheck.Proofs.LastEntries
import SettingsCheck.Proofs.Location

namespace SettingsCheck

namespace Yaml.Tree

/-- The entries by the texts of their keys. -/
def named (entries : List (Tree × Tree)) : List (Except ValueError String × Tree) :=
  entries.map fun (key, item) => (Value.yamlName key, item)

/-- The path that the document has for a node. Tags take no step, and of the entries with one key
text only the last has a path. -/
inductive Reaches (t : Tree) : FieldPath → Tree → Prop
  | root : Reaches t .root t
  | content {path : FieldPath} {tag : String} {content : Tree} :
    Reaches t path (.tagged tag content) → Reaches t path content
  | item {path : FieldPath} {items : List Tree} {i : Nat} {item : Tree} :
    Reaches t path (.sequence items) → items[i]? = some item → Reaches t (path.index i) item
  | entry {path : FieldPath} {entries : List (Tree × Tree)} {name : String} {item : Tree} :
    Reaches t path (.mapping entries) → Last (.ok name) item (named entries) →
    Reaches t (path.key name) item

end Yaml.Tree

namespace Value

theorem ofYamlItems_matches {items : List Yaml.Tree} {vs : List Value}
    (h : ofYamlItems items = .ok vs) : List.Forall₂ (fun t v => ofYaml t = .ok v) items vs := by
  induction items generalizing vs with
  | nil =>
    cases h
    exact .nil
  | cons item rest ih =>
    unfold ofYamlItems at h
    split at h
    next => cases h
    next v hv =>
      split at h
      next => cases h
      next ws hws =>
        cases h
        exact .cons hv (ih hws)

theorem ofYamlEntries_matches {entries : List (Yaml.Tree × Yaml.Tree)}
    {es : List (String × Value)} (h : ofYamlEntries entries = .ok es) :
    Matching (fun k name => yamlName k = .ok name) (fun t v => ofYaml t = .ok v) entries es := by
  induction entries generalizing es with
  | nil =>
    cases h
    exact .nil
  | cons entry rest ih =>
    unfold ofYamlEntries at h
    split at h
    next => cases h
    next name hname =>
      split at h
      next => cases h
      next v hv =>
        split at h
        next => cases h
        next vs hvs =>
          cases h
          exact .cons ⟨hname, hv⟩ (ih hvs)

theorem biUnique_ok :
    Relator.BiUnique fun (k : Except ValueError String) (name : String) => k = .ok name :=
  ⟨fun _ _ _ ha hb => ha.trans hb.symm, fun _ _ _ hb hc => Except.ok.inj (hb.symm.trans hc)⟩

section Accepted

variable {entries : List (Yaml.Tree × Yaml.Tree)} {es : List (String × Value)}

theorem named_matches (h : ofYamlEntries entries = .ok es) :
    Matching (fun k name => k = .ok name) (fun t v => ofYaml t = .ok v)
      (Yaml.Tree.named entries) es :=
  List.forall₂_map_left_iff.mpr (ofYamlEntries_matches h)

theorem keys_named :
    (Yaml.Tree.named entries).map Prod.fst = entries.map fun e => yamlName e.1 := by
  rw [Yaml.Tree.named, List.map_map]
  rfl

theorem converted_of_mem (h : ofYamlEntries entries = .ok es) {e : Yaml.Tree × Yaml.Tree}
    (he : e ∈ entries) :
    ∃ name w, yamlName e.1 = .ok name ∧ ofYaml e.2 = .ok w ∧ name ∈ es.map Prod.fst := by
  obtain ⟨i, hi⟩ := List.mem_iff_getElem?.mp he
  obtain ⟨f, hf, hname, hw⟩ := getElem?_of_forall₂ (ofYamlEntries_matches h) hi
  exact ⟨f.1, f.2, hname, hw, List.mem_map_of_mem (List.mem_of_getElem? hf)⟩

theorem last_ofYamlEntries_iff (h : ofYamlEntries entries = .ok es) {name : String} {w : Value} :
    Last name w es ↔
      ∃ item, Last (.ok name) item (Yaml.Tree.named entries) ∧ ofYaml item = .ok w := by
  constructor
  · intro hw
    obtain ⟨item, hitem, hlast⟩ := (named_matches h).last_of_right biUnique_ok rfl hw
    exact ⟨item, hlast, hitem⟩
  · rintro ⟨item, hlast, hw⟩
    obtain ⟨v, hv, hname⟩ := (named_matches h).last biUnique_ok rfl hlast
    exact Except.ok.inj (hv.symm.trans hw) ▸ hname

end Accepted

theorem ofYaml_mapping_eq_ok_iff {entries : List (Yaml.Tree × Yaml.Tree)} {v : Value} :
    ofYaml (.mapping entries) = .ok v ↔
      ∃ es, ofYamlEntries entries = .ok es ∧ v = .mapping (Fields.ofList es) := by
  unfold ofYaml
  split
  next => simp_all
  next es hes => simp [hes, eq_comm]

theorem ofYaml_sequence_eq_ok_iff {items : List Yaml.Tree} {v : Value} :
    ofYaml (.sequence items) = .ok v ↔ ∃ vs, ofYamlItems items = .ok vs ∧ v = .sequence vs := by
  unfold ofYaml
  split
  next => simp_all
  next vs hvs => simp [hvs, eq_comm]

/-- What has a path in the tree stands at that path of the document. -/
theorem at?_of_reaches {t : Yaml.Tree} {v : Value} (h : ofYaml t = .ok v) {path : FieldPath}
    {node : Yaml.Tree} (hr : t.Reaches path node) :
    ∃ w, v.at? path = some w ∧ ofYaml node = .ok w := by
  induction hr with
  | root => exact ⟨v, rfl, h⟩
  | content _ ih =>
    obtain ⟨w, hat, hw⟩ := ih
    exact ⟨w, hat, hw⟩
  | item _ hi ih =>
    obtain ⟨_, hat, hw⟩ := ih
    obtain ⟨vs, hvs, rfl⟩ := ofYaml_sequence_eq_ok_iff.mp hw
    obtain ⟨w, hget, hw⟩ := getElem?_of_forall₂ (ofYamlItems_matches hvs) hi
    exact ⟨w, by rw [at?_index, hat]; exact hget, hw⟩
  | entry _ hlast ih =>
    obtain ⟨_, hat, hw⟩ := ih
    obtain ⟨es, hes, rfl⟩ := ofYaml_mapping_eq_ok_iff.mp hw
    obtain ⟨w, hw, hname⟩ := (named_matches hes).last biUnique_ok rfl hlast
    exact ⟨w, by rw [at?_key, hat]; exact Fields.get?_ofList_iff.mpr hname, hw⟩

/-- Every mapping of an accepted tree stands in the document with just the last entry of each key
text. So an entry is lost only to a later one whose key has the same text, and none is lost just if
the texts differ. -/
theorem ofYaml_keeps_last_entries {t : Yaml.Tree} {v : Value} (h : ofYaml t = .ok v)
    {path : FieldPath} {entries : List (Yaml.Tree × Yaml.Tree)}
    (hr : t.Reaches path (.mapping entries)) :
    ∃ es : Mapping, v.at? path = some (.mapping es) ∧ es.Ordered ∧
      (∀ e ∈ entries, ∃ name w, yamlName e.1 = .ok name ∧ ofYaml e.2 = .ok w ∧
        name ∈ es.names) ∧
      (∀ name w, es.get? name = some w ↔
        ∃ item, Last (.ok name) item (Yaml.Tree.named entries) ∧ ofYaml item = .ok w) ∧
      (es.length = entries.length ↔ (entries.map fun e => yamlName e.1).Nodup) := by
  obtain ⟨_, hat, hw⟩ := at?_of_reaches h hr
  obtain ⟨es, hes, rfl⟩ := ofYaml_mapping_eq_ok_iff.mp hw
  refine ⟨Fields.ofList es, hat, Fields.ordered_ofList es, fun e he => ?_, fun name w => ?_, ?_⟩
  · obtain ⟨name, w, hname, hw, hm⟩ := converted_of_mem hes he
    exact ⟨name, w, hname, hw, Fields.mem_names_ofList.mpr hm⟩
  · exact Fields.get?_ofList_iff.trans (last_ofYamlEntries_iff hes)
  · have hlength : entries.length = es.length := (ofYamlEntries_matches hes).length_eq
    have hnodup := List.rel_nodup biUnique_ok (named_matches hes).keys
    rw [hlength, Fields.length_ofList_eq_iff, ← keys_named]
    exact hnodup.symm

end Value

namespace Sample

/-- A tagged mapping inside a sequence, with two keys of the text "1" and one of its own. -/
def portsTree : Yaml.Tree :=
  .mapping [(.string "ports", .sequence [.tagged "m"
    (.mapping [(.integer 1, .string "a"), (.string "1", .string "b"), (.null, .bool true)])])]

def portsDocument : Value :=
  .mapping [("ports", .sequence [.mapping [("1", .string "b"), ("null", .bool true)]])]

theorem ports_reached : portsTree.Reaches ((FieldPath.root.key "ports").index 0)
    (.mapping [(.integer 1, .string "a"), (.string "1", .string "b"), (.null, .bool true)]) :=
  .content (.item (.entry .root (.here (by simp))) rfl)

/-- The entry under the number 1 gives way to that under the text "1". -/
theorem ports_entry_lost :
    Value.ofYaml portsTree = .ok portsDocument ∧
    ∃ es : Mapping,
      portsDocument.at? ((FieldPath.root.key "ports").index 0) = some (.mapping es) ∧
      es.length ≠ 3 ∧ es.get? "1" = some (.string "b") := by
  have h : Value.ofYaml portsTree = .ok portsDocument := rfl
  obtain ⟨es, hat, -, -, hget, hlength⟩ := Value.ofYaml_keeps_last_entries h ports_reached
  refine ⟨h, es, hat, fun h3 => ?_, (hget _ _).mpr ⟨_, .there (.here (by decide)), rfl⟩⟩
  exact absurd (hlength.mp h3) (by decide)

/-- Two keys that differ can collapse into one. -/
theorem entries_collapse :
    ¬∀ (t : Yaml.Tree) (v : Value), Value.ofYaml t = .ok v →
      ∀ path entries, t.Reaches path (.mapping entries) →
      ∃ es : Mapping, v.at? path = some (.mapping es) ∧
        ∀ e ∈ entries, ∃ name w, Value.yamlName e.1 = .ok name ∧ Value.ofYaml e.2 = .ok w ∧
          es.get? name = some w := by
  intro hall
  have h : Value.ofYaml (.mapping [(.integer 1, .string "a"), (.string "1", .string "b")]) =
      .ok (.mapping [("1", .string "b")]) := rfl
  obtain ⟨es, hat, hkept⟩ := hall _ _ h _ _ .root
  cases hat
  obtain ⟨name, w, hname, hw, hget⟩ := hkept _ List.mem_cons_self
  cases hname
  cases hw
  simp [Fields.get?] at hget

end Sample

end SettingsCheck
