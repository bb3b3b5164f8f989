import SettingsCheck.Json.Reading

namespace SettingsCheck.Json

section Strings

theorem readString_plainEscape {e c : Char} (hu : e ≠ 'u') (he : plainEscape? e = some c)
    (rest : List Char) :
    readString ('\\' :: e :: rest) = (readString rest).map fun (cs, r) => (c :: cs, r) := by
  rw [readString]
  · simp [he]
  · intro a b c d r heq
    exact fun _ => hu heq

theorem readString_unit {n : Nat} {a b : Char} (hn : n < 0x20)
    (hunit : unit? '0' '0' a b = some n) (rest : List Char) :
    readString ('\\' :: 'u' :: '0' :: '0' :: a :: b :: rest) =
      (readString rest).map fun (cs, r) => (Char.ofNat n :: cs, r) := by
  have hlow : ¬(0xDC00 ≤ n ∧ n ≤ 0xDFFF) := by omega
  have hhigh : ¬(0xD800 ≤ n ∧ n ≤ 0xDBFF) := by omega
  rw [readString]
  simp [hunit, hlow, hhigh]

theorem readString_plain {c : Char} (hquote : c ≠ '"') (hescape : c ≠ '\\')
    (hc : 0x20 ≤ c.toNat) (rest : List Char) :
    readString (c :: rest) = (readString rest).map fun (cs, r) => (c :: cs, r) := by
  rw [readString]
  · simp [Nat.not_lt.mpr hc]
  · exact hquote
  · exact fun _ _ _ _ _ h _ => hescape h
  · exact fun _ _ h _ => hescape h

/-- The characters that have an escape of their own. -/
def shortlyEscaped : List Char := ['"', '\\', '\n', '\r', '\t', '\x08', '\x0c']

theorem escapeChar_short : ∀ c ∈ shortlyEscaped,
    let e := (escapeChar c).getD 1 'u'
    escapeChar c = ['\\', e] ∧ e ≠ 'u' ∧ plainEscape? e = some c := by
  simp only [shortlyEscaped, List.forall_mem_cons, List.not_mem_nil, false_implies, implies_true]
  decide

theorem digits_of_control : ∀ n < 0x20,
    let a := if n < 16 then '0' else '1'
    let b := Nat.digitChar (n % 16)
    unit? '0' '0' a b = some n ∧
      (if n < 16 then "\\u000".toList ++ (Text.hex n).toList
        else "\\u00".toList ++ (Text.hex n).toList) = ['\\', 'u', '0', '0', a, b] := by
  decide

theorem readString_escapeChar (c : Char) (rest : List Char) :
    readString (escapeChar c ++ rest) = (readString rest).map fun (cs, r) => (c :: cs, r) := by
  by_cases hshort : c ∈ shortlyEscaped
  · obtain ⟨hescape, hu, he⟩ := escapeChar_short c hshort
    rw [hescape]
    exact readString_plainEscape hu he rest
  have hlong : escapeChar c =
      if c.toNat < 16 then "\\u000".toList ++ (Text.hex c.toNat).toList
      else if c.toNat < 32 then "\\u00".toList ++ (Text.hex c.toNat).toList
      else [c] := by
    simp only [shortlyEscaped, List.mem_cons, List.not_mem_nil, or_false, not_or] at hshort
    obtain ⟨h₁, h₂, h₃, h₄, h₅, h₆, h₇⟩ := hshort
    simp only [escapeChar, h₁, h₂, h₃, h₄, h₅, h₆, h₇, if_false]
  by_cases hcontrol : c.toNat < 0x20
  · obtain ⟨hunit, hdigits⟩ := digits_of_control c.toNat hcontrol
    rw [hlong, if_pos hcontrol, hdigits]
    exact (readString_unit hcontrol hunit rest).trans (by rw [Char.ofNat_toNat])
  · rw [hlong, if_neg (by omega), if_neg hcontrol]
    simp only [shortlyEscaped, List.mem_cons, not_or] at hshort
    exact readString_plain hshort.1 hshort.2.1 (Nat.le_of_not_lt hcontrol) rest

/-- A string is read back from between its quotes. -/
theorem readString_escaped (s rest : List Char) :
    readString (s.flatMap escapeChar ++ '"' :: rest) = some (s, rest) := by
  induction s with
  | nil => rfl
  | cons c s ih => rw [List.flatMap_cons, List.append_assoc, readString_escapeChar, ih]; rfl

end Strings

mutual

/-- How many containers are nested at most. -/
def depth : Json → Nat
  | array items => depthOfItems items + 1
  | object entries => depthOfEntries entries + 1
  | _ => 0

def depthOfItems : List Json → Nat
  | [] => 0
  | item :: rest => max (depth item) (depthOfItems rest)

def depthOfEntries : List (String × Json) → Nat
  | [] => 0
  | (_, item) :: rest => max (depth item) (depthOfEntries rest)

end

mutual

/-- No number stands anywhere in the tree. -/
def Numberless : Json → Prop
  | integer _ => False
  | float _ => False
  | array items => ItemsNumberless items
  | object entries => EntriesNumberless entries
  | _ => True

def ItemsNumberless : List Json → Prop
  | [] => True
  | item :: rest => item.Numberless ∧ ItemsNumberless rest

def EntriesNumberless : List (String × Json) → Prop
  | [] => True
  | (_, item) :: rest => item.Numberless ∧ EntriesNumberless rest

end

theorem depthOfEntries_le_iff {entries : List (String × Json)} {d : Nat} :
    depthOfEntries entries ≤ d ↔ ∀ entry ∈ entries, entry.2.depth ≤ d := by
  induction entries with
  | nil => simp [depthOfEntries]
  | cons entry entries ih => simp only [depthOfEntries, Nat.max_le, ih, List.forall_mem_cons]

theorem entriesNumberless_iff {entries : List (String × Json)} :
    EntriesNumberless entries ↔ ∀ entry ∈ entries, entry.2.Numberless := by
  induction entries with
  | nil => simp [EntriesNumberless]
  | cons entry entries ih => simp only [EntriesNumberless, ih, List.forall_mem_cons]

theorem numberless_strings (names : List String) : (array (names.map .string)).Numberless := by
  rw [Numberless]
  induction names with
  | nil => trivial
  | cons name names ih => exact ⟨trivial, ih⟩

theorem depth_strings (names : List String) : (array (names.map .string)).depth = 1 := by
  rw [depth]
  induction names with
  | nil => rfl
  | cons name names ih => simpa [depthOfItems, depth] using ih

section Writing

theorem compact_string (s : String) :
    (compact (.string s)).toList = '"' :: (s.toList.flatMap escapeChar ++ ['"']) := by
  simp [compact, leafText, quote]

theorem compact_array (items : List Json) :
    (compact (.array items)).toList = '[' :: ((compactItems true items).toList ++ [']']) := by
  simp [compact]

theorem compact_object (entries : List (String × Json)) :
    (compact (.object entries)).toList =
      '\x7b' :: ((compactEntries true entries).toList ++ ['\x7d']) := by
  simp [compact]

theorem compactItems_cons (item : Json) (rest : List Json) :
    (compactItems true (item :: rest)).toList =
      (compact item).toList ++ (compactItems false rest).toList := by
  simp [compactItems]

theorem compactItems_next (item : Json) (rest : List Json) :
    (compactItems false (item :: rest)).toList =
      ',' :: (compactItems true (item :: rest)).toList := by
  simp [compactItems]

theorem compactEntries_cons (name : String) (item : Json) (rest : List (String × Json)) :
    (compactEntries true ((name, item) :: rest)).toList =
      '"' :: (name.toList.flatMap escapeChar ++
        '"' :: ':' :: ((compact item).toList ++ (compactEntries false rest).toList)) := by
  simp [compactEntries, quote]

theorem compactEntries_next (entry : String × Json) (rest : List (String × Json)) :
    (compactEntries false (entry :: rest)).toList =
      ',' :: (compactEntries true (entry :: rest)).toList := by
  simp [compactEntries]

/-- How the text of a tree without numbers may begin. -/
def openers : List Char := ['n', 't', 'f', '"', '[', '\x7b']

theorem skipBlanks_of_opener {c : Char} (h : c ∈ openers) (cs : List Char) :
    skipBlanks (c :: cs) = c :: cs := by
  have hopeners : openers.all fun c => !(c == ' ' || c == '\n' || c == '\t' || c == '\r') := by
    decide
  have hblank := List.all_eq_true.mp hopeners c h
  exact List.dropWhile_cons_of_neg (by simpa using hblank)

theorem exists_opener : ∀ {j : Json}, j.Numberless →
    ∃ c cs, (compact j).toList = c :: cs ∧ c ∈ openers
  | .null, _ => ⟨'n', ['u', 'l', 'l'], rfl, by decide⟩
  | .bool true, _ => ⟨'t', ['r', 'u', 'e'], rfl, by decide⟩
  | .bool false, _ => ⟨'f', ['a', 'l', 's', 'e'], rfl, by decide⟩
  | .string s, _ => ⟨'"', _, compact_string s, by decide⟩
  | .array items, _ => ⟨'[', _, compact_array items, by decide⟩
  | .object entries, _ => ⟨'\x7b', _, compact_object entries, by decide⟩

theorem length_le_compactItems : ∀ {items : List Json} (first : Bool), ItemsNumberless items →
    items.length ≤ (compactItems first items).toList.length
  | [], _, _ => Nat.zero_le _
  | item :: rest, first, ⟨hitem, hrest⟩ => by
    obtain ⟨c, cs, htext, _⟩ := exists_opener hitem
    have hlength := length_le_compactItems false hrest
    simp only [compactItems, String.toList_append, List.length_append, htext, List.length_cons]
    omega

theorem length_le_compactEntries : ∀ (entries : List (String × Json)) (first : Bool),
    entries.length ≤ (compactEntries first entries).toList.length
  | [], _ => Nat.zero_le _
  | (name, item) :: rest, first => by
    have hlength := length_le_compactEntries rest false
    simp only [compactEntries, quote, String.toList_append, List.length_append, List.length_cons]
    simp only [String.reduceToList, List.length_cons]
    omega

end Writing

section Reading

variable {read : List Char → Option (Json × List Char)}

/-- Items that are read one by one are read in turn. -/
theorem readItems_compact {item : Json} {items : List Json}
    (hread : ∀ j ∈ item :: items, ∀ rest, read ((compact j).toList ++ rest) = some (j, rest))
    {fuel : Nat} (hfuel : (item :: items).length ≤ fuel) (rest : List Char) :
    readItems read fuel ((compactItems true (item :: items)).toList ++ ']' :: rest) =
      some (item :: items, rest) := by
  induction items generalizing item fuel with
  | nil =>
    cases fuel with
    | zero => cases hfuel
    | succ fuel =>
      have htext : (compactItems true [item]).toList ++ ']' :: rest =
          (compact item).toList ++ ']' :: rest := by simp [compactItems]
      have hitem := hread item List.mem_cons_self (']' :: rest)
      have hblank : skipBlanks (']' :: rest) = ']' :: rest := rfl
      rw [htext, readItems, hitem]
      simp [hblank]
  | cons next items ih =>
    cases fuel with
    | zero => cases hfuel
    | succ fuel =>
      have hrest := ih (fun j hj => hread j (List.mem_cons_of_mem _ hj))
        (Nat.le_of_succ_le_succ hfuel)
      have hitem := hread item List.mem_cons_self
        (',' :: ((compactItems true (next :: items)).toList ++ ']' :: rest))
      have hblank (cs : List Char) : skipBlanks (',' :: cs) = ',' :: cs := rfl
      rw [compactItems_cons, compactItems_next, List.append_assoc, List.cons_append, readItems,
        hitem]
      simp [hblank, hrest]

/-- The same for entries. -/
theorem readEntries_compact {entry : String × Json} {entries : List (String × Json)}
    (hread : ∀ e ∈ entry :: entries, ∀ rest,
      read ((compact e.2).toList ++ rest) = some (e.2, rest))
    {fuel : Nat} (hfuel : (entry :: entries).length ≤ fuel) (rest : List Char) :
    readEntries read fuel ((compactEntries true (entry :: entries)).toList ++ '\x7d' :: rest) =
      some (entry :: entries, rest) := by
  have hquote (cs : List Char) : skipBlanks ('"' :: cs) = '"' :: cs := rfl
  have hcolon (cs : List Char) : skipBlanks (':' :: cs) = ':' :: cs := rfl
  induction entries generalizing entry fuel with
  | nil =>
    cases fuel with
    | zero => cases hfuel
    | succ fuel =>
      obtain ⟨name, item⟩ := entry
      have hitem := hread (name, item) List.mem_cons_self ('\x7d' :: rest)
      have hblank : skipBlanks ('\x7d' :: rest) = '\x7d' :: rest := rfl
      have hlast : (compactEntries false []).toList = [] := rfl
      rw [compactEntries_cons, readEntries, List.cons_append, hquote]
      simp [readString_escaped, hcolon, hlast, hitem, hblank]
  | cons next entries ih =>
    cases fuel with
    | zero => cases hfuel
    | succ fuel =>
      obtain ⟨name, item⟩ := entry
      have hrest := ih (fun e he => hread e (List.mem_cons_of_mem _ he))
        (Nat.le_of_succ_le_succ hfuel)
      have hitem := hread (name, item) List.mem_cons_self
        (',' :: ((compactEntries true (next :: entries)).toList ++ '\x7d' :: rest))
      have hblank (cs : List Char) : skipBlanks (',' :: cs) = ',' :: cs := rfl
      rw [compactEntries_cons, compactEntries_next, readEntries, List.cons_append, hquote]
      simp [readString_escaped, hcolon, hitem, hblank, hrest]

theorem readValue_leaf (d : Nat) {c : Char} {cs : List Char} (hc : c ∈ openers) (harray : c ≠ '[')
    (hobject : c ≠ '\x7b') : readValue d (c :: cs) = readValue.readLeaf (c :: cs) := by
  have hblank := skipBlanks_of_opener hc cs
  cases d with
  | zero => rw [readValue, hblank]
  | succ d =>
    rw [readValue, hblank]
    split
    next h => cases h; exact absurd rfl harray
    next h => cases h; exact absurd rfl hobject
    next => rfl

theorem readValue_array {d : Nat} {c : Char} {cs rest : List Char} {items : List Json}
    (hc : c ∈ openers)
    (hitems : readItems (readValue d) (c :: cs).length (c :: cs) = some (items, rest)) :
    readValue (d + 1) ('[' :: c :: cs) = some (array items, rest) := by
  have hopen : skipBlanks ('[' :: c :: cs) = '[' :: c :: cs := rfl
  rw [readValue, hopen]
  simp only [skipBlanks_of_opener hc cs]
  split
  next h => cases h; exact absurd hc (by decide)
  next => rw [hitems]; rfl

theorem readValue_object {d : Nat} {cs rest : List Char} {entries : List (String × Json)}
    (hentries : readEntries (readValue d) ('"' :: cs).length ('"' :: cs) = some (entries, rest)) :
    readValue (d + 1) ('\x7b' :: '"' :: cs) = some (object entries, rest) := by
  have hopen : skipBlanks ('\x7b' :: '"' :: cs) = '\x7b' :: '"' :: cs := rfl
  have hquote : skipBlanks ('"' :: cs) = '"' :: cs := rfl
  rw [readValue, hopen]
  simp only [hquote]
  split
  next h => cases h
  next => rw [hentries]; rfl

mutual

/-- A tree is read back from its text, whatever follows. -/
theorem readValue_compact : ∀ (j : Json) {d : Nat}, j.Numberless → j.depth ≤ d →
    ∀ rest, readValue d ((compact j).toList ++ rest) = some (j, rest)
  | .null, d, _, _, rest => readValue_leaf d (by decide) (by decide) (by decide)
  | .bool true, d, _, _, rest => readValue_leaf d (by decide) (by decide) (by decide)
  | .bool false, d, _, _, rest => readValue_leaf d (by decide) (by decide) (by decide)
  | .string s, d, _, _, rest => by
    have hread := readString_escaped s.toList rest
    rw [compact_string, List.cons_append, List.append_assoc, List.singleton_append,
      readValue_leaf d (by decide) (by decide) (by decide), readValue.readLeaf, hread]
    simp
  | .array [], d + 1, _, _, rest => rfl
  | .array (item :: items), d + 1, hn, hd, rest => by
    have hread := readValue_compactItems (item :: items) hn (Nat.le_of_succ_le_succ hd)
    have hlength := length_le_compactItems true hn
    have hitems := readItems_compact hread
      (Nat.le_trans hlength (Nat.le_add_right _ (']' :: rest).length)) rest
    obtain ⟨c, cs, htext, hc⟩ := exists_opener hn.1
    rw [compact_array, List.cons_append, List.append_assoc, List.singleton_append]
    rw [← List.length_append, compactItems_cons, htext] at hitems
    rw [compactItems_cons, htext]
    exact readValue_array hc hitems
  | .object [], d + 1, _, _, rest => rfl
  | .object (entry :: entries), d + 1, hn, hd, rest => by
    have hread := readValue_compactEntries (entry :: entries) hn (Nat.le_of_succ_le_succ hd)
    have hlength := length_le_compactEntries (entry :: entries) true
    have hentries := readEntries_compact hread
      (Nat.le_trans hlength (Nat.le_add_right _ ('\x7d' :: rest).length)) rest
    rw [compact_object, List.cons_append, List.append_assoc, List.singleton_append]
    rw [← List.length_append, compactEntries_cons] at hentries
    rw [compactEntries_cons]
    exact readValue_object hentries

theorem readValue_compactItems : ∀ (items : List Json) {d : Nat}, ItemsNumberless items →
    depthOfItems items ≤ d →
    ∀ j ∈ items, ∀ rest, readValue d ((compact j).toList ++ rest) = some (j, rest)
  | [], _, _, _, _, h => nomatch h
  | item :: items, d, ⟨hitem, hitems⟩, hd, j, hj => by
    have hdepth : max item.depth (depthOfItems items) ≤ d := hd
    rcases List.mem_cons.mp hj with heq | hj
    · exact heq ▸ readValue_compact item hitem (by omega)
    · exact readValue_compactItems items hitems (by omega) j hj

theorem readValue_compactEntries : ∀ (entries : List (String × Json)) {d : Nat},
    EntriesNumberless entries → depthOfEntries entries ≤ d →
    ∀ e ∈ entries, ∀ rest, readValue d ((compact e.2).toList ++ rest) = some (e.2, rest)
  | [], _, _, _, _, h => nomatch h
  | (name, item) :: entries, d, ⟨hitem, hentries⟩, hd, e, he => by
    have hdepth : max item.depth (depthOfEntries entries) ≤ d := hd
    rcases List.mem_cons.mp he with heq | he
    · exact heq ▸ readValue_compact item hitem (by omega)
    · exact readValue_compactEntries entries hentries (by omega) e he

end

theorem parse?_compact {j : Json} (hn : j.Numberless) (hd : j.depth ≤ 127) :
    parse? (compact j) = some j := by
  have hread := readValue_compact j hn hd []
  rw [List.append_nil] at hread
  rw [parse?, hread]
  rfl

theorem depth_of_integerOf {negative : Bool} {p : Parts} {j : Json}
    (h : integerOf negative p = some j) : j.depth = 0 := by
  unfold integerOf at h
  split at h
  · obtain ⟨_, _, rfl⟩ := Option.map_eq_some_iff.mp h
    rfl
  · split at h
    · cases h
      rfl
    · split at h
      · obtain ⟨_, _, rfl⟩ := Option.map_eq_some_iff.mp h
        rfl
      · cases h
        rfl

theorem depth_of_withExponent {negative down : Bool} {p : Parts} {digits : List Char} {j : Json}
    (h : withExponent negative p down digits = some j) : j.depth = 0 := by
  unfold withExponent at h
  simp only at h
  split at h
  · obtain ⟨_, _, rfl⟩ := Option.map_eq_some_iff.mp h
    rfl
  · split at h
    · cases h
      rfl
    · cases h

theorem depth_of_readNumber {cs r : List Char} {j : Json} (h : readNumber cs = some (j, r)) :
    j.depth = 0 := by
  have hvalue {o : Option Json} {rest : List Char} (ho : ∀ v, o = some v → v.depth = 0)
      (heq : (o.bind fun v => some (v, rest)) = some (j, r)) : j.depth = 0 := by
    obtain ⟨v, hv, hvr⟩ := Option.bind_eq_some_iff.mp heq
    cases hvr
    exact ho _ hv
  have hfloat {o : Option Float} {rest : List Char}
      (heq : (o.bind fun x => some (float x, rest)) = some (j, r)) : j.depth = 0 := by
    obtain ⟨x, _, hxr⟩ := Option.bind_eq_some_iff.mp heq
    cases hxr
    rfl
  -- with or without a sign, and a fraction, a number ends in one of three ways
  unfold readNumber at h
  simp only [Option.bind_eq_bind, Option.pure_def, Option.bind_some, Option.bind_none] at h
  repeat' split at h
  all_goals first
    | exact hvalue (fun _ => depth_of_withExponent) h
    | exact hvalue (fun _ => depth_of_integerOf) h
    | exact hfloat h
    | cases h

theorem depth_of_readWord {word : String} {value j : Json} {cs r : List Char}
    (h : readWord word value cs = some (j, r)) : j = value := by
  unfold readWord at h
  split at h
  · cases h
    rfl
  · cases h

theorem depth_of_readLeaf {cs r : List Char} {j : Json}
    (h : readValue.readLeaf cs = some (j, r)) : j.depth = 0 := by
  unfold readValue.readLeaf at h
  split at h
  · exact congrArg depth (depth_of_readWord h)
  · exact congrArg depth (depth_of_readWord h)
  · exact congrArg depth (depth_of_readWord h)
  · obtain ⟨_, _, hj⟩ := Option.map_eq_some_iff.mp h
    cases hj
    rfl
  · exact depth_of_readNumber h

/-- Lists whose items are read nest one by one as far as a reader of items lets them. -/
theorem depth_of_readItems {d : Nat}
    (hread : ∀ cs v r, read cs = some (v, r) → v.depth ≤ d) {fuel : Nat} {cs r : List Char}
    {items : List Json} (h : readItems read fuel cs = some (items, r)) :
    depthOfItems items ≤ d := by
  induction fuel generalizing cs r items with
  | zero => cases h
  | succ fuel ih =>
    obtain ⟨⟨v, rest⟩, hv, hrest⟩ := Option.bind_eq_some_iff.mp h
    have hd := hread cs v rest hv
    simp only at hrest
    split at hrest
    · obtain ⟨⟨vs, r'⟩, hvs, heq⟩ := Option.map_eq_some_iff.mp hrest
      cases heq
      exact Nat.max_le.mpr ⟨hd, ih hvs⟩
    · cases hrest
      exact Nat.max_le.mpr ⟨hd, Nat.zero_le d⟩
    · cases hrest

theorem depth_of_readEntries {d : Nat}
    (hread : ∀ cs v r, read cs = some (v, r) → v.depth ≤ d) {fuel : Nat} {cs r : List Char}
    {entries : List (String × Json)} (h : readEntries read fuel cs = some (entries, r)) :
    depthOfEntries entries ≤ d := by
  induction fuel generalizing cs r entries with
  | zero => cases h
  | succ fuel ih =>
    rw [readEntries] at h
    split at h
    · obtain ⟨⟨name, rest⟩, _, hname⟩ := Option.bind_eq_some_iff.mp h
      simp only at hname
      split at hname
      · obtain ⟨⟨v, rest⟩, hv, hrest⟩ := Option.bind_eq_some_iff.mp hname
        have hd := hread _ v rest hv
        simp only at hrest
        split at hrest
        · obtain ⟨⟨es, r'⟩, hes, heq⟩ := Option.map_eq_some_iff.mp hrest
          cases heq
          exact Nat.max_le.mpr ⟨hd, ih hes⟩
        · cases hrest
          exact Nat.max_le.mpr ⟨hd, Nat.zero_le d⟩
        · cases hrest
      · cases hname
    · cases h

/-- No value that is read nests further than allowed. -/
theorem depth_of_readValue {d : Nat} : ∀ {cs r : List Char} {j : Json},
    readValue d cs = some (j, r) → j.depth ≤ d := by
  induction d with
  | zero => exact fun h => Nat.le_of_eq (depth_of_readLeaf h)
  | succ d ih =>
    intro cs r j h
    have hread : ∀ cs v r, readValue d cs = some (v, r) → v.depth ≤ d := fun _ _ _ => ih
    rw [readValue] at h
    split at h
    · split at h
      · cases h
        exact Nat.succ_le_succ (Nat.zero_le d)
      · obtain ⟨⟨items, r'⟩, hitems, heq⟩ := Option.map_eq_some_iff.mp h
        cases heq
        exact Nat.succ_le_succ (depth_of_readItems hread hitems)
    · split at h
      · cases h
        exact Nat.succ_le_succ (Nat.zero_le d)
      · obtain ⟨⟨entries, r'⟩, hentries, heq⟩ := Option.map_eq_some_iff.mp h
        cases heq
        exact Nat.succ_le_succ (depth_of_readEntries hread hentries)
    · exact Nat.le_trans (Nat.le_of_eq (depth_of_readLeaf h)) (Nat.zero_le _)

theorem depth_of_parse? {text : String} {j : Json} (h : parse? text = some j) :
    j.depth ≤ 127 := by
  obtain ⟨⟨v, rest⟩, hv, hend⟩ := Option.bind_eq_some_iff.mp h
  simp only at hend
  split at hend
  · cases hend
    exact depth_of_readValue hv
  · cases hend

end Reading

end SettingsCheck.Json
