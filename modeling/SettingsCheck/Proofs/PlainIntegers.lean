import SettingsCheck.Document.Conversion
import SettingsCheck.Proofs.JsonGrammar
import SettingsCheck.Proofs.LastEntries
import SettingsCheck.Proofs.Location

namespace SettingsCheck

/-- The path that the document has for a value of the text. Of the entries with one name only the
last has a path. -/
inductive Json.Written.Reaches (w : Json.Written) : FieldPath → Json.Written → Prop
  | root : Reaches w .root w
  | item {path : FieldPath} {items : List Json.Written} {i : Nat} {item : Json.Written} :
    Reaches w path (.array items) → items[i]? = some item → Reaches w (path.index i) item
  | entry {path : FieldPath} {entries : List (String × Json.Written)} {name : String}
    {item : Json.Written} :
    Reaches w path (.object entries) → Last name item entries → Reaches w (path.key name) item

namespace Json

theorem itemsJson?_matches {items : List Written} {js : List Json}
    (h : itemsJson? items = some js) : List.Forall₂ (fun w j => w.json? = some j) items js := by
  induction items generalizing js with
  | nil =>
    cases h
    exact .nil
  | cons item rest ih =>
    obtain ⟨j, hj, hrest⟩ := Option.bind_eq_some_iff.mp h
    obtain ⟨ks, hks, heq⟩ := Option.bind_eq_some_iff.mp hrest
    cases heq
    exact .cons hj (ih hks)

theorem entriesJson?_matches {entries : List (String × Written)} {js : List (String × Json)}
    (h : entriesJson? entries = some js) :
    Matching Eq (fun w j => w.json? = some j) entries js := by
  induction entries generalizing js with
  | nil =>
    cases h
    exact .nil
  | cons entry rest ih =>
    obtain ⟨j, hj, hrest⟩ := Option.bind_eq_some_iff.mp h
    obtain ⟨ks, hks, heq⟩ := Option.bind_eq_some_iff.mp hrest
    cases heq
    exact .cons ⟨rfl, hj⟩ (ih hks)

end Json

namespace Value

theorem ofJsonItems_matches {items : List Json} {vs : List Value}
    (h : ofJsonItems items = .ok vs) : List.Forall₂ (fun j v => ofJson j = .ok v) items vs := by
  induction items generalizing vs with
  | nil =>
    cases h
    exact .nil
  | cons item rest ih =>
    unfold ofJsonItems at h
    split at h
    next => cases h
    next v hv =>
      split at h
      next => cases h
      next ws hws =>
        cases h
        exact .cons hv (ih hws)

theorem ofJsonEntries_matches : ∀ entries : List (String × Json),
    Matching Eq (fun j x => ofJson j = x) entries (ofJsonEntries entries)
  | [] => .nil
  | _ :: rest => .cons ⟨rfl, rfl⟩ (ofJsonEntries_matches rest)

theorem allEntries_matches {entries : List (String × Except ValueError Value)} {es : Mapping}
    (h : allEntries entries = .ok es) : Matching Eq (fun x v => x = .ok v) entries es := by
  induction entries generalizing es with
  | nil =>
    cases h
    exact .nil
  | cons entry rest ih =>
    obtain ⟨name, x⟩ := entry
    unfold allEntries at h
    split at h
    next => cases h
    next v =>
      split at h
      next => cases h
      next vs hvs =>
        cases h
        exact .cons ⟨rfl, rfl⟩ (ih hvs)

theorem ofJson_array_inv {items : List Json} {v : Value} (h : ofJson (.array items) = .ok v) :
    ∃ vs, ofJsonItems items = .ok vs ∧ v = .sequence vs := by
  unfold ofJson at h
  split at h
  next => cases h
  next vs hvs =>
    cases h
    exact ⟨vs, hvs, rfl⟩

theorem ofJson_object_inv {entries : List (String × Json)} {v : Value}
    (h : ofJson (.object entries) = .ok v) :
    ∃ es, allEntries (Fields.ofList (ofJsonEntries entries)) = .ok es ∧ v = .mapping es := by
  unfold ofJson at h
  split at h
  next => cases h
  next es hes =>
    cases h
    exact ⟨es, hes, rfl⟩

/-- What has a path in the text stands at that path of the document. -/
theorem at?_of_written {w : Json.Written} {j : Json} {v : Value} (hj : w.json? = some j)
    (hv : ofJson j = .ok v) {path : FieldPath} {node : Json.Written}
    (hr : w.Reaches path node) :
    ∃ k u, node.json? = some k ∧ ofJson k = .ok u ∧ v.at? path = some u := by
  induction hr with
  | root => exact ⟨j, v, hj, hv, rfl⟩
  | item _ hi ih =>
    obtain ⟨_, _, hk, hu, hat⟩ := ih
    obtain ⟨js, hjs, rfl⟩ := Option.map_eq_some_iff.mp hk
    obtain ⟨vs, hvs, rfl⟩ := ofJson_array_inv hu
    obtain ⟨k, hget, hk⟩ := getElem?_of_forall₂ (Json.itemsJson?_matches hjs) hi
    obtain ⟨u, hitem, hu⟩ := getElem?_of_forall₂ (ofJsonItems_matches hvs) hget
    exact ⟨k, u, hk, hu, by rw [at?_index, hat]; exact hitem⟩
  | entry _ hlast ih =>
    obtain ⟨_, _, hk, hu, hat⟩ := ih
    obtain ⟨js, hjs, rfl⟩ := Option.map_eq_some_iff.mp hk
    obtain ⟨es, hes, rfl⟩ := ofJson_object_inv hu
    obtain ⟨k, hk, hlast⟩ := (Json.entriesJson?_matches hjs).last biUnique_eq rfl hlast
    obtain ⟨_, rfl, hlast⟩ := (ofJsonEntries_matches js).last biUnique_eq rfl hlast
    have hlisted := Fields.get?_ofList_iff.mpr hlast
    obtain ⟨u, hu, hget⟩ := Fields.get?_of_matching (allEntries_matches hes) hlisted
    exact ⟨k, u, hk, hu, by rw [at?_key, hat]; exact hget⟩

theorem ofJson_integer_inv {m : Int} {v : Value} (h : ofJson (.integer m) = .ok v) :
    fitsSigned m = true ∧ v = .integer m := by
  unfold ofJson ofInteger at h
  split at h
  next hfits =>
    cases h
    exact ⟨hfits, rfl⟩
  next => cases h

/-- In an accepted text, a plain integer of 64 bits is one of 64 bits with sign and is kept exactly;
the others, and zero with a minus, become floats. -/
theorem plain_integers_of_text {text : String} {v : Value} (h : ofJsonText text = .ok v) :
    (∃ w : Json.Written, w.IsTextOf text) ∧
      ∀ w : Json.Written, w.IsTextOf text →
      ∀ (path : FieldPath) (n : Json.Numeral), w.Reaches path (.number n) → n.IsPlain →
        (n.Fits → fitsSigned n.value = true ∧ v.at? path = some (.integer n.value)) ∧
        (¬n.Fits → ∃ x, v.at? path = some (.float x)) := by
  unfold ofJsonText at h
  split at h
  next => cases h
  next j hj =>
    obtain ⟨hexists, hall⟩ := Json.parse?_eq_some hj
    refine ⟨hexists, fun w hw path n hr hplain => ?_⟩
    obtain ⟨k, u, hk, hu, hat⟩ := at?_of_written (hall w hw) h hr
    obtain ⟨hfits, hwide⟩ := Json.Numeral.json?_eq_of_isPlain hplain
    refine ⟨fun hn => ?_, fun hn => ?_⟩
    · cases (hfits hn).symm.trans hk
      obtain ⟨hsigned, rfl⟩ := ofJson_integer_inv hu
      exact ⟨hsigned, hat⟩
    · obtain ⟨x, rfl⟩ := hwide hn k hk
      cases hu
      exact ⟨x, hat⟩

end Value

namespace Sample

def plainNumeral (negative : Bool) (digits : List Char) (hne : digits ≠ [])
    (hzero : digits.head? = some '0' → digits.length = 1)
    (hdigits : digits.all isDecimalDigit = true) : Json.Numeral :=
  ⟨negative, digits, [], none, hne, hzero, List.all_eq_true.mp hdigits, Json.isDigits_nil⟩

def one : Json.Numeral := plainNumeral false ['1'] (by decide) (by decide) rfl

def seven : Json.Numeral := plainNumeral false ['7'] (by decide) (by decide) rfl

def minusZero : Json.Numeral := plainNumeral true ['0'] (by decide) (by decide) rfl

/-- The least integer that does not fit in 64 bits. -/
def tooLarge : Json.Numeral :=
  plainNumeral false "18446744073709551616".toList (by decide) (by decide) rfl

def numbersText : String := "\x7b\"a\": 1, \"a\": [7, -0, 18446744073709551616]\x7d"

def numbers : Json.Written :=
  .object [("a", .number one), ("a", .array [.number seven, .number minusZero, .number tooLarge])]

theorem numbers_isTextOf : numbers.IsTextOf numbersText :=
  ⟨[], .object rfl (.cons (.mk rfl rfl rfl (.number rfl)) rfl
    (.last (.mk rfl rfl rfl (.array rfl (.cons (.number rfl) rfl
      (.cons (.number rfl) rfl (.last (.number rfl) rfl))))) rfl)), rfl⟩

theorem numbers_reaches {i : Nat} {w : Json.Written}
    (h : [Json.Written.number seven, .number minusZero, .number tooLarge][i]? = some w) :
    numbers.Reaches ((FieldPath.root.key "a").index i) w :=
  .item (.entry .root (.there (.here (by decide)))) h

/-- The seven stays, the zero with a minus and the integer beyond 64 bits do not. -/
theorem numbers_widened :
    ∃ v, Value.ofJsonText numbersText = .ok v ∧
      v.at? ((FieldPath.root.key "a").index 0) = some (.integer 7) ∧
      (∃ x, v.at? ((FieldPath.root.key "a").index 1) = some (.float x)) ∧
      ∃ x, v.at? ((FieldPath.root.key "a").index 2) = some (.float x) := by
  have hread : (Value.ofJsonText numbersText).toOption.isSome = true := by decide +kernel
  cases h : Value.ofJsonText numbersText with
  | error e => simp [h, Except.toOption] at hread
  | ok v =>
    have hplaces := (Value.plain_integers_of_text h).2 numbers numbers_isTextOf
    refine ⟨v, rfl, ?_, ?_, ?_⟩
    · exact ((hplaces _ seven (numbers_reaches rfl) ⟨rfl, rfl⟩).1 (by decide)).2
    · exact (hplaces _ minusZero (numbers_reaches rfl) ⟨rfl, rfl⟩).2 (by decide)
    · exact (hplaces _ tooLarge (numbers_reaches rfl) ⟨rfl, rfl⟩).2 (by decide)

/-- A plain integer of an accepted text can become a float. -/
theorem tooLarge_widened :
    ¬∀ (text : String) (v : Value), Value.ofJsonText text = .ok v →
      ∀ w : Json.Written, w.IsTextOf text →
      ∀ (path : FieldPath) (n : Json.Numeral), w.Reaches path (.number n) → n.IsPlain →
        v.at? path = some (.integer n.value) := by
  intro hall
  have hkind : (Value.ofJsonText "18446744073709551616").toOption.map Value.kind =
      some "float" := by decide +kernel
  have htext : (Json.Written.number tooLarge).IsTextOf "18446744073709551616" :=
    ⟨[], .number rfl, rfl⟩
  cases h : Value.ofJsonText "18446744073709551616" with
  | error e => simp [h, Except.toOption] at hkind
  | ok v =>
    cases hall _ v h _ htext _ tooLarge .root ⟨rfl, rfl⟩
    simp [h, Except.toOption, Value.kind] at hkind

end Sample

end SettingsCheck
