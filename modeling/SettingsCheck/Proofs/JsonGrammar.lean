import Mathlib.Data.List.DropRight
import SettingsCheck.Proofs.Numerals

namespace SettingsCheck.Json

/-- What a text says, its numbers still as written. -/
inductive Written where
  | null
  | bool (b : Bool)
  | number (n : Numeral)
  | string (s : String)
  | array (items : List Written)
  | object (entries : List (String × Written))

mutual

/-- The tree, if no number is too large for one. -/
def Written.json? : Written → Option Json
  | .null => some .null
  | .bool b => some (.bool b)
  | .number n => n.json?
  | .string s => some (.string s)
  | .array items => (itemsJson? items).map .array
  | .object entries => (entriesJson? entries).map .object

def itemsJson? : List Written → Option (List Json)
  | [] => some []
  | item :: rest => do return (← item.json?) :: (← itemsJson? rest)

def entriesJson? : List (String × Written) → Option (List (String × Json))
  | [] => some []
  | (name, item) :: rest => do return (name, ← item.json?) :: (← entriesJson? rest)

end

/-- The text is a string's from behind its opening quote; after it comes the rest. -/
def Quoted (s : String) (cs rest : List Char) : Prop := readString cs = some (s.toList, rest)

mutual

/-- The text begins with a value, after any blanks, and then comes the rest. -/
inductive Spells : Written → List Char → List Char → Prop
  | null {cs rest : List Char} : skipBlanks cs = "null".toList ++ rest → Spells .null cs rest
  | true {cs rest : List Char} : skipBlanks cs = "true".toList ++ rest →
    Spells (.bool true) cs rest
  | false {cs rest : List Char} : skipBlanks cs = "false".toList ++ rest →
    Spells (.bool false) cs rest
  | number {n : Numeral} {cs rest : List Char} : skipBlanks cs = n.text ++ rest →
    Spells (.number n) cs rest
  | string {s : String} {cs inner rest : List Char} : skipBlanks cs = '"' :: inner →
    Quoted s inner rest → Spells (.string s) cs rest
  | emptyArray {cs inner rest : List Char} : skipBlanks cs = '[' :: inner →
    skipBlanks inner = ']' :: rest → Spells (.array []) cs rest
  | array {items : List Written} {cs inner rest : List Char} : skipBlanks cs = '[' :: inner →
    SpellsItems items inner rest → Spells (.array items) cs rest
  | emptyObject {cs inner rest : List Char} : skipBlanks cs = '\x7b' :: inner →
    skipBlanks inner = '\x7d' :: rest → Spells (.object []) cs rest
  | object {entries : List (String × Written)} {cs inner rest : List Char} :
    skipBlanks cs = '\x7b' :: inner → SpellsEntries entries inner rest →
    Spells (.object entries) cs rest

/-- Items up to the bracket behind the last one. -/
inductive SpellsItems : List Written → List Char → List Char → Prop
  | last {w : Written} {cs next rest : List Char} : Spells w cs next →
    skipBlanks next = ']' :: rest → SpellsItems [w] cs rest
  | cons {w : Written} {items : List Written} {cs next more rest : List Char} :
    Spells w cs next → skipBlanks next = ',' :: more → SpellsItems items more rest →
    SpellsItems (w :: items) cs rest

/-- A name, a colon and a value. -/
inductive SpellsEntry : String × Written → List Char → List Char → Prop
  | mk {name : String} {w : Written} {cs inner next value rest : List Char} :
    skipBlanks cs = '"' :: inner → Quoted name inner next → skipBlanks next = ':' :: value →
    Spells w value rest → SpellsEntry (name, w) cs rest

/-- Entries up to the brace behind the last one. -/
inductive SpellsEntries : List (String × Written) → List Char → List Char → Prop
  | last {entry : String × Written} {cs next rest : List Char} : SpellsEntry entry cs next →
    skipBlanks next = '\x7d' :: rest → SpellsEntries [entry] cs rest
  | cons {entry : String × Written} {entries : List (String × Written)}
    {cs next more rest : List Char} : SpellsEntry entry cs next → skipBlanks next = ',' :: more →
    SpellsEntries entries more rest → SpellsEntries (entry :: entries) cs rest

end

/-- The whole text is that of a value, with blanks around it. -/
def Written.IsTextOf (text : String) (w : Written) : Prop :=
  ∃ rest, Spells w text.toList rest ∧ skipBlanks rest = []

section Blanks

theorem skipBlanks_skipBlanks (cs : List Char) : skipBlanks (skipBlanks cs) = skipBlanks cs := by
  unfold skipBlanks
  exact List.dropWhile_idempotent _ _

theorem readValue_skipBlanks (d : Nat) (cs : List Char) :
    readValue d (skipBlanks cs) = readValue d cs := by
  cases d <;> simp only [readValue, skipBlanks_skipBlanks]

theorem readItems_skipBlanks (d fuel : Nat) (cs : List Char) :
    readItems (readValue d) fuel (skipBlanks cs) = readItems (readValue d) fuel cs := by
  cases fuel <;> simp only [readItems, readValue_skipBlanks]

theorem readEntries_skipBlanks (d fuel : Nat) (cs : List Char) :
    readEntries (readValue d) fuel (skipBlanks cs) = readEntries (readValue d) fuel cs := by
  cases fuel <;> simp only [readEntries, skipBlanks_skipBlanks]

/-- No number goes on with what follows. -/
def Stops (rest : List Char) : Prop :=
  ∀ c ∈ rest.head?, ¬isDecimalDigit c ∧ c ≠ 'e' ∧ c ≠ 'E' ∧ c ≠ '.'

theorem Stops.ends {rest : List Char} (h : Stops rest) (n : Numeral) : n.Ends rest := by
  intro c hc
  obtain ⟨hdigit, he, hE, hpoint⟩ := h c hc
  exact ⟨hdigit, fun _ => ⟨he, hE, fun _ => hpoint⟩⟩

/-- A text stops if it does so behind its blanks. -/
theorem stops_of_skipBlanks {rest : List Char} (h : Stops (skipBlanks rest)) : Stops rest := by
  cases rest with
  | nil => exact nofun
  | cons c rest =>
    by_cases hc : (c == ' ' || c == '\n' || c == '\t' || c == '\r') = true
    · intro d hd
      cases hd
      simp only [Bool.or_eq_true, beq_iff_eq] at hc
      rcases hc with ((rfl | rfl) | rfl) | rfl <;> decide
    · have hkept : skipBlanks (c :: rest) = c :: rest := List.dropWhile_cons_of_neg hc
      exact hkept ▸ h

end Blanks

section Inversion

theorem readValue_eq_readLeaf {d : Nat} {c : Char} {cs tail : List Char}
    (h : skipBlanks cs = c :: tail) (harray : c ≠ '[') (hobject : c ≠ '\x7b') :
    readValue d cs = readValue.readLeaf (c :: tail) := by
  cases d with
  | zero => rw [readValue, h]
  | succ d =>
    rw [readValue, h]
    split
    next heq => cases heq; exact absurd rfl harray
    next heq => cases heq; exact absurd rfl hobject
    next => rfl

theorem head?_text (n : Numeral) :
    ∃ c tail, n.text = c :: tail ∧ (c = '-' ∨ isDecimalDigit c = true) := by
  obtain ⟨c, digits, hwhole⟩ := List.exists_cons_of_ne_nil n.whole_ne_nil
  have hdigit : isDecimalDigit c = true := n.isDigits_whole c (hwhole ▸ List.mem_cons_self)
  unfold Numeral.text
  cases n.negative with
  | true => exact ⟨'-', _, rfl, .inl rfl⟩
  | false => exact ⟨c, _, by rw [hwhole]; rfl, .inr hdigit⟩

theorem readLeaf_number {c : Char} (hc : c = '-' ∨ isDecimalDigit c = true) (tail : List Char) :
    readValue.readLeaf (c :: tail) = readNumber (c :: tail) := by
  have hne (d : Char) (hminus : d ≠ '-') (hdigit : isDecimalDigit d = false) : c ≠ d := by
    rintro rfl
    rcases hc with rfl | hc
    · exact hminus rfl
    · simp [hdigit] at hc
  unfold readValue.readLeaf
  split
  next h => cases h; exact absurd rfl (hne 'n' (by decide) (by decide))
  next h => cases h; exact absurd rfl (hne 't' (by decide) (by decide))
  next h => cases h; exact absurd rfl (hne 'f' (by decide) (by decide))
  next h => cases h; exact absurd rfl (hne '"' (by decide) (by decide))
  next => rfl

theorem readNumber_bracket (cs : List Char) : readNumber ('[' :: cs) = none := rfl

theorem readNumber_brace (cs : List Char) : readNumber ('\x7b' :: cs) = none := rfl

variable {d fuel : Nat} {cs inner r : List Char} {j : Json}

/-- What a reader of items did for the first of them. -/
theorem readItems_inv {read : List Char → Option (Json × List Char)} {items : List Json}
    (h : readItems read (fuel + 1) cs = some (items, r)) :
    ∃ v next, read cs = some (v, next) ∧
      ((∃ more rest, skipBlanks next = ',' :: more ∧
          readItems read fuel more = some (rest, r) ∧ items = v :: rest) ∨
        (skipBlanks next = ']' :: r ∧ items = [v])) := by
  obtain ⟨⟨v, next⟩, hv, hnext⟩ := Option.bind_eq_some_iff.mp h
  refine ⟨v, next, hv, ?_⟩
  simp only at hnext
  split at hnext
  next more hcomma =>
    obtain ⟨⟨rest, _⟩, hrest, heq⟩ := Option.map_eq_some_iff.mp hnext
    cases heq
    exact .inl ⟨more, rest, hcomma, hrest, rfl⟩
  next hclose =>
    cases hnext
    exact .inr ⟨hclose, rfl⟩
  next => cases hnext

/-- What a reader of entries did for the first of them. -/
theorem readEntries_inv {read : List Char → Option (Json × List Char)}
    {entries : List (String × Json)} (h : readEntries read (fuel + 1) cs = some (entries, r)) :
    ∃ name inner colon value v next, skipBlanks cs = '"' :: inner ∧ Quoted name inner colon ∧
      skipBlanks colon = ':' :: value ∧ read value = some (v, next) ∧
      ((∃ more rest, skipBlanks next = ',' :: more ∧
          readEntries read fuel more = some (rest, r) ∧ entries = (name, v) :: rest) ∨
        (skipBlanks next = '\x7d' :: r ∧ entries = [(name, v)])) := by
  rw [readEntries] at h
  split at h
  next inner hquote =>
    obtain ⟨⟨name, colon⟩, hname, h⟩ := Option.bind_eq_some_iff.mp h
    have hquoted : Quoted (String.ofList name) inner colon := by
      rw [Quoted, String.toList_ofList]
      exact hname
    simp only at h
    split at h
    next value hcolon =>
      obtain ⟨⟨v, next⟩, hv, h⟩ := Option.bind_eq_some_iff.mp h
      refine ⟨String.ofList name, inner, colon, value, v, next, hquote, hquoted, hcolon, hv, ?_⟩
      simp only at h
      split at h
      next more hcomma =>
        obtain ⟨⟨rest, _⟩, hrest, heq⟩ := Option.map_eq_some_iff.mp h
        cases heq
        exact .inl ⟨more, rest, hcomma, hrest, rfl⟩
      next hclose =>
        cases h
        exact .inr ⟨hclose, rfl⟩
      next => cases h
    next => cases h
  next => cases h

theorem readValue_array_inv (hopen : skipBlanks cs = '[' :: inner)
    (h : readValue d cs = some (j, r)) :
    (skipBlanks inner = ']' :: r ∧ j = .array []) ∨
      ((∀ tail, skipBlanks inner ≠ ']' :: tail) ∧ ∃ e fuel items, d = e + 1 ∧
        readItems (readValue e) fuel inner = some (items, r) ∧ j = .array items) := by
  cases d with
  | zero =>
    rw [readValue, hopen] at h
    cases (readNumber_bracket inner).symm.trans h
  | succ d =>
    rw [readValue, hopen] at h
    simp only at h
    split at h
    next hclose =>
      cases h
      exact .inl ⟨hclose, rfl⟩
    next hclose =>
      obtain ⟨⟨items, _⟩, hitems, heq⟩ := Option.map_eq_some_iff.mp h
      cases heq
      rw [readItems_skipBlanks] at hitems
      exact .inr ⟨hclose, d, _, items, rfl, hitems, rfl⟩

theorem readValue_object_inv (hopen : skipBlanks cs = '\x7b' :: inner)
    (h : readValue d cs = some (j, r)) :
    (skipBlanks inner = '\x7d' :: r ∧ j = .object []) ∨
      ((∀ tail, skipBlanks inner ≠ '\x7d' :: tail) ∧ ∃ e fuel entries, d = e + 1 ∧
        readEntries (readValue e) fuel inner = some (entries, r) ∧ j = .object entries) := by
  cases d with
  | zero =>
    rw [readValue, hopen] at h
    cases (readNumber_brace inner).symm.trans h
  | succ d =>
    rw [readValue, hopen] at h
    simp only at h
    split at h
    next hclose =>
      cases h
      exact .inl ⟨hclose, rfl⟩
    next hclose =>
      obtain ⟨⟨entries, _⟩, hentries, heq⟩ := Option.map_eq_some_iff.mp h
      cases heq
      rw [readEntries_skipBlanks] at hentries
      exact .inr ⟨hclose, d, _, entries, rfl, hentries, rfl⟩

end Inversion

section Determined

/-- An item begins with something else than the end of its container. -/
theorem not_closing_of_spells {w : Written} {cs rest : List Char} (h : Spells w cs rest) :
    ∀ c ∈ (skipBlanks cs).head?, c ≠ ']' := by
  intro c hc
  cases h with
  | number hn =>
    obtain ⟨first, tail, htext, hfirst⟩ := head?_text _
    rw [hn, htext] at hc
    cases hc
    rintro rfl
    exact absurd hfirst (by decide)
  | null h | true h | false h | string h _ | emptyArray h _ | array h _ | emptyObject h _
  | object h _ =>
    rw [h] at hc
    cases hc
    decide

theorem quoted_unique {s t : String} {cs rest rest' : List Char} (hs : Quoted s cs rest)
    (ht : Quoted t cs rest') : s = t ∧ rest = rest' := by
  have heq := Prod.ext_iff.mp (Option.some.inj (hs.symm.trans ht))
  exact ⟨String.toList_injective heq.1, heq.2⟩

theorem not_closing_of_spellsItems {items : List Written} {cs rest : List Char}
    (h : SpellsItems items cs rest) : ∀ c ∈ (skipBlanks cs).head?, c ≠ ']' := by
  cases h with
  | last hw _ => exact not_closing_of_spells hw
  | cons hw _ _ => exact not_closing_of_spells hw

theorem not_closing_of_spellsEntries {entries : List (String × Written)} {cs rest r : List Char}
    (h : SpellsEntries entries cs rest) : skipBlanks cs ≠ '\x7d' :: r := by
  intro hclose
  cases h with
  | last he _ | cons he _ _ =>
    cases he with
    | mk hquote _ _ _ => cases hquote.symm.trans hclose

theorem stops_of_closing {next rest : List Char} {c : Char} (h : skipBlanks next = c :: rest)
    (hc : c ∈ [',', ']', '\x7d']) : Stops next := by
  refine stops_of_skipBlanks fun d hd => ?_
  rw [h] at hd
  cases hd
  simp only [List.mem_cons, List.not_mem_nil, or_false] at hc
  rcases hc with rfl | rfl | rfl <;> decide

mutual

/-- What follows the grammar is read in one way only, as far as it is read. -/
theorem readValue_of_spells : ∀ {w : Written} {cs rest : List Char}, Spells w cs rest →
    Stops rest → ∀ {d : Nat} {j : Json} {r : List Char}, readValue d cs = some (j, r) →
    w.json? = some j ∧ r = rest
  | _, _, _, .null h, _, _, _, _, hread => by
    rw [readValue_eq_readLeaf h (by decide) (by decide)] at hread
    cases hread
    exact ⟨rfl, rfl⟩
  | _, _, _, .true h, _, _, _, _, hread => by
    rw [readValue_eq_readLeaf h (by decide) (by decide)] at hread
    cases hread
    exact ⟨rfl, rfl⟩
  | _, _, _, .false h, _, _, _, _, hread => by
    rw [readValue_eq_readLeaf h (by decide) (by decide)] at hread
    cases hread
    exact ⟨rfl, rfl⟩
  | _, _, rest, .number (n := n) h, hstops, _, _, _, hread => by
    obtain ⟨c, tail, htext, hc⟩ := head?_text n
    have hopen : n.text ++ rest = c :: (tail ++ rest) := by rw [htext, List.cons_append]
    have hbracket : c ≠ '[' := by rintro rfl; exact absurd hc (by decide)
    have hbrace : c ≠ '\x7b' := by rintro rfl; exact absurd hc (by decide)
    rw [readValue_eq_readLeaf (h.trans hopen) hbracket hbrace, readLeaf_number hc, ← hopen,
      readNumber_text (hstops.ends n)] at hread
    obtain ⟨_, hj, heq⟩ := Option.map_eq_some_iff.mp hread
    cases heq
    exact ⟨hj, rfl⟩
  | _, _, _, .string h hs, _, _, _, _, hread => by
    rw [readValue_eq_readLeaf h (by decide) (by decide), readValue.readLeaf, hs] at hread
    cases hread
    exact ⟨by rw [String.ofList_toList]; rfl, rfl⟩
  | _, _, _, .emptyArray h hclose, _, _, _, _, hread => by
    rcases readValue_array_inv h hread with ⟨hend, rfl⟩ | ⟨hnot, _⟩
    · exact ⟨rfl, (List.cons.inj (hend.symm.trans hclose)).2⟩
    · exact absurd hclose (hnot _)
  | _, _, _, .array h hitems, _, _, _, _, hread => by
    -- an item cannot begin with the bracket that would make the array empty
    rcases readValue_array_inv h hread with ⟨hend, rfl⟩ | ⟨_, e, fuel, items, rfl, hr, rfl⟩
    · exact absurd rfl (not_closing_of_spellsItems hitems _ (hend ▸ rfl))
    · obtain ⟨hj, hrest⟩ := readItems_of_spells hitems hr
      exact ⟨by rw [Written.json?, hj]; rfl, hrest⟩
  | _, _, _, .emptyObject h hclose, _, _, _, _, hread => by
    rcases readValue_object_inv h hread with ⟨hend, rfl⟩ | ⟨hnot, _⟩
    · exact ⟨rfl, (List.cons.inj (hend.symm.trans hclose)).2⟩
    · exact absurd hclose (hnot _)
  | _, _, _, .object h hentries, _, _, _, _, hread => by
    rcases readValue_object_inv h hread with ⟨hend, rfl⟩ | ⟨_, e, fuel, items, rfl, hr, rfl⟩
    · exact absurd hend (not_closing_of_spellsEntries hentries)
    · obtain ⟨hj, hrest⟩ := readEntries_of_spells hentries hr
      exact ⟨by rw [Written.json?, hj]; rfl, hrest⟩

theorem readItems_of_spells : ∀ {items : List Written} {cs rest : List Char},
    SpellsItems items cs rest → ∀ {d fuel : Nat} {js : List Json} {r : List Char},
    readItems (readValue d) fuel cs = some (js, r) → itemsJson? items = some js ∧ r = rest
  | _, _, _, .last hw hclose, d, fuel + 1, _, _, hread => by
    obtain ⟨v, next, hv, hnext⟩ := readItems_inv hread
    obtain ⟨hj, rfl⟩ := readValue_of_spells hw (stops_of_closing hclose (by decide)) hv
    rcases hnext with ⟨_, _, hcomma, _, _⟩ | ⟨hend, rfl⟩
    · cases hcomma.symm.trans hclose
    · exact ⟨by simp [itemsJson?, hj], (List.cons.inj (hend.symm.trans hclose)).2⟩
  | _, _, _, .cons hw hcomma hitems, d, fuel + 1, _, _, hread => by
    obtain ⟨v, next, hv, hnext⟩ := readItems_inv hread
    obtain ⟨hj, rfl⟩ := readValue_of_spells hw (stops_of_closing hcomma (by decide)) hv
    rcases hnext with ⟨more, _, hmore, hrest, rfl⟩ | ⟨hend, _⟩
    · cases hmore.symm.trans hcomma
      obtain ⟨hjs, hr⟩ := readItems_of_spells hitems hrest
      exact ⟨by simp [itemsJson?, hj, hjs], hr⟩
    · cases hend.symm.trans hcomma

theorem readEntries_of_spells : ∀ {entries : List (String × Written)} {cs rest : List Char},
    SpellsEntries entries cs rest → ∀ {d fuel : Nat} {js : List (String × Json)} {r : List Char},
    readEntries (readValue d) fuel cs = some (js, r) →
    entriesJson? entries = some js ∧ r = rest
  | _, _, _, .last (.mk hquote hname hcolon hw) hclose, d, fuel + 1, _, _, hread => by
    obtain ⟨name, _, _, _, v, next, hquote', hname', hcolon', hv, hnext⟩ := readEntries_inv hread
    cases hquote'.symm.trans hquote
    obtain ⟨rfl, rfl⟩ := quoted_unique hname' hname
    cases hcolon'.symm.trans hcolon
    obtain ⟨hj, rfl⟩ := readValue_of_spells hw (stops_of_closing hclose (by decide)) hv
    rcases hnext with ⟨_, _, hcomma, _, _⟩ | ⟨hend, rfl⟩
    · cases hcomma.symm.trans hclose
    · exact ⟨by simp [entriesJson?, hj], (List.cons.inj (hend.symm.trans hclose)).2⟩
  | _, _, _, .cons (.mk hquote hname hcolon hw) hcomma hentries, d, fuel + 1, _, _, hread => by
    obtain ⟨name, _, _, _, v, next, hquote', hname', hcolon', hv, hnext⟩ := readEntries_inv hread
    cases hquote'.symm.trans hquote
    obtain ⟨rfl, rfl⟩ := quoted_unique hname' hname
    cases hcolon'.symm.trans hcolon
    obtain ⟨hj, rfl⟩ := readValue_of_spells hw (stops_of_closing hcomma (by decide)) hv
    rcases hnext with ⟨more, _, hmore, hrest, rfl⟩ | ⟨hend, _⟩
    · cases hmore.symm.trans hcomma
      obtain ⟨hjs, hr⟩ := readEntries_of_spells hentries hrest
      exact ⟨by simp [entriesJson?, hj, hjs], hr⟩
    · cases hend.symm.trans hcomma

end

end Determined

section Spelled

variable {cs r : List Char} {j : Json}

theorem eq_of_readWord {word : String} {value : Json}
    (h : readWord word value cs = some (j, r)) : cs = word.toList ++ r ∧ j = value := by
  unfold readWord at h
  split at h
  next hprefix =>
    cases h
    obtain ⟨tail, rfl⟩ := List.isPrefixOf_iff_prefix.mp hprefix
    exact ⟨by rw [← String.length_toList, List.drop_left], rfl⟩
  next => cases h

theorem exists_spelling_of_readLeaf (h : readValue.readLeaf (skipBlanks cs) = some (j, r)) :
    ∃ w, Spells w cs r ∧ w.json? = some j := by
  unfold readValue.readLeaf at h
  split at h
  · obtain ⟨htext, rfl⟩ := eq_of_readWord h
    exact ⟨.null, .null htext, rfl⟩
  · obtain ⟨htext, rfl⟩ := eq_of_readWord h
    exact ⟨.bool true, .true htext, rfl⟩
  · obtain ⟨htext, rfl⟩ := eq_of_readWord h
    exact ⟨.bool false, .false htext, rfl⟩
  next inner hquote =>
    obtain ⟨⟨s, _⟩, hs, heq⟩ := Option.map_eq_some_iff.mp h
    cases heq
    have hquoted : Quoted (String.ofList s) inner r := by
      rw [Quoted, String.toList_ofList]
      exact hs
    exact ⟨.string (String.ofList s), .string hquote hquoted, rfl⟩
  · obtain ⟨n, htext, _, hj⟩ := exists_numeral h
    exact ⟨.number n, .number htext, hj⟩

section Reader

variable {read : List Char → Option (Json × List Char)}

theorem exists_spelling_of_readItems
    (hread : ∀ cs j r, read cs = some (j, r) → ∃ w, Spells w cs r ∧ w.json? = some j)
    {fuel : Nat} {items : List Json} (h : readItems read fuel cs = some (items, r)) :
    ∃ ws, SpellsItems ws cs r ∧ itemsJson? ws = some items := by
  induction fuel generalizing cs items with
  | zero => cases h
  | succ fuel ih =>
    obtain ⟨v, next, hv, hnext⟩ := readItems_inv h
    obtain ⟨w, hw, hj⟩ := hread cs v next hv
    rcases hnext with ⟨more, rest, hcomma, hrest, rfl⟩ | ⟨hclose, rfl⟩
    · obtain ⟨ws, hws, hjs⟩ := ih hrest
      exact ⟨w :: ws, .cons hw hcomma hws, by simp [itemsJson?, hj, hjs]⟩
    · exact ⟨[w], .last hw hclose, by simp [itemsJson?, hj]⟩

theorem exists_spelling_of_readEntries
    (hread : ∀ cs j r, read cs = some (j, r) → ∃ w, Spells w cs r ∧ w.json? = some j)
    {fuel : Nat} {entries : List (String × Json)}
    (h : readEntries read fuel cs = some (entries, r)) :
    ∃ ws, SpellsEntries ws cs r ∧ entriesJson? ws = some entries := by
  induction fuel generalizing cs entries with
  | zero => cases h
  | succ fuel ih =>
    obtain ⟨name, inner, colon, value, v, next, hquote, hname, hcolon, hv, hnext⟩ :=
      readEntries_inv h
    obtain ⟨w, hw, hj⟩ := hread value v next hv
    have hentry : SpellsEntry (name, w) cs next := .mk hquote hname hcolon hw
    rcases hnext with ⟨more, rest, hcomma, hrest, rfl⟩ | ⟨hclose, rfl⟩
    · obtain ⟨ws, hws, hjs⟩ := ih hrest
      exact ⟨(name, w) :: ws, .cons hentry hcomma hws, by simp [entriesJson?, hj, hjs]⟩
    · exact ⟨[(name, w)], .last hentry hclose, by simp [entriesJson?, hj]⟩

end Reader

/-- All that is read follows the grammar. -/
theorem exists_spelling {d : Nat} (h : readValue d cs = some (j, r)) :
    ∃ w, Spells w cs r ∧ w.json? = some j := by
  induction d generalizing cs j r with
  | zero => exact exists_spelling_of_readLeaf h
  | succ d ih =>
    have hread : ∀ cs j r, readValue d cs = some (j, r) →
        ∃ w, Spells w cs r ∧ w.json? = some j := fun _ _ _ => ih
    by_cases harray : ∃ inner, skipBlanks cs = '[' :: inner
    · obtain ⟨inner, hopen⟩ := harray
      rcases readValue_array_inv hopen h with ⟨hclose, rfl⟩ | ⟨_, e, fuel, items, he, hitems, rfl⟩
      · exact ⟨.array [], .emptyArray hopen hclose, rfl⟩
      · cases he
        obtain ⟨ws, hws, hjs⟩ := exists_spelling_of_readItems hread hitems
        exact ⟨.array ws, .array hopen hws, by rw [Written.json?, hjs]; rfl⟩
    by_cases hobject : ∃ inner, skipBlanks cs = '\x7b' :: inner
    · obtain ⟨inner, hopen⟩ := hobject
      rcases readValue_object_inv hopen h with
        ⟨hclose, rfl⟩ | ⟨_, e, fuel, entries, he, hentries, rfl⟩
      · exact ⟨.object [], .emptyObject hopen hclose, rfl⟩
      · cases he
        obtain ⟨ws, hws, hjs⟩ := exists_spelling_of_readEntries hread hentries
        exact ⟨.object ws, .object hopen hws, by rw [Written.json?, hjs]; rfl⟩
    rw [readValue] at h
    split at h
    next inner hopen => exact absurd ⟨inner, hopen⟩ harray
    next inner hopen => exact absurd ⟨inner, hopen⟩ hobject
    next => exact exists_spelling_of_readLeaf h

end Spelled

/-- A text that is read is that of some value, and has the tree of every value that it is the text
of. -/
theorem parse?_eq_some {text : String} {j : Json} (h : parse? text = some j) :
    (∃ w : Written, w.IsTextOf text) ∧
      ∀ w : Written, w.IsTextOf text → w.json? = some j := by
  obtain ⟨⟨v, rest⟩, hv, hend⟩ := Option.bind_eq_some_iff.mp h
  simp only at hend
  split at hend
  next hblank =>
    cases hend
    obtain ⟨w, hw, _⟩ := exists_spelling hv
    refine ⟨⟨w, rest, hw, List.isEmpty_iff.mp hblank⟩, ?_⟩
    rintro w ⟨behind, hw, hblank⟩
    have hstops : Stops behind := stops_of_skipBlanks (hblank ▸ nofun)
    exact (readValue_of_spells hw hstops hv).1
  next => cases hend

end SettingsCheck.Json
