import Mathlib.Data.List.Forall2
import SettingsCheck.Proofs.JsonGrammar
import SettingsCheck.Proofs.JsonText

namespace SettingsCheck.Json

/-- What a text says is this tree, and all numbers in it are integers. -/
inductive Written.Means : Written → Json → Prop
  | null : Means .null .null
  | bool {b : Bool} : Means (.bool b) (.bool b)
  | integer {n : Numeral} : n.IsPlain → Means (.number n) (.integer n.value)
  | string {s : String} : Means (.string s) (.string s)
  | array {ws : List Written} {items : List Json} : List.Forall₂ Means ws items →
    Means (.array ws) (.array items)
  | object {ws : List (String × Written)} {entries : List (String × Json)} :
    ws.map Prod.fst = entries.map Prod.fst →
    List.Forall₂ Means (ws.map Prod.snd) (entries.map Prod.snd) →
    Means (.object ws) (.object entries)

/-- The text is that of this tree. -/
def IsTextOf (text : String) (j : Json) : Prop := ∃ w : Written, w.IsTextOf text ∧ w.Means j

/-- Trees whose numbers are all integers. -/
inductive Floatless : Json → Prop
  | null : Floatless .null
  | bool (b : Bool) : Floatless (.bool b)
  | integer (m : Int) : Floatless (.integer m)
  | string (s : String) : Floatless (.string s)
  | array {items : List Json} : (∀ item ∈ items, Floatless item) → Floatless (.array items)
  | object {entries : List (String × Json)} : (∀ entry ∈ entries, Floatless entry.2) →
    Floatless (.object entries)

section Numbers

theorem head?_toDigits_eq_zero {n : Nat} (h : (Nat.toDigits 10 n).head? = some '0') : n = 0 := by
  induction n using Nat.strongRecOn with
  | _ n ih =>
    rw [Nat.toDigits_eq_if (by decide)] at h
    split at h
    next hsmall =>
      have hall : ∀ n < 10, [Nat.digitChar n].head? = some '0' → n = 0 := by decide
      exact hall n hsmall h
    next hlarge =>
      have hne : Nat.toDigits 10 (n / 10) ≠ [] := List.ne_nil_of_length_pos Nat.length_toDigits_pos
      rw [List.head?_append_of_ne_nil _ hne] at h
      have hzero := ih (n / 10) (by omega) h
      omega

/-- An integer as it is written. -/
def numeral (m : Int) : Numeral where
  negative := decide (m < 0)
  whole := Nat.toDigits 10 m.natAbs
  fraction := []
  exponent := none
  whole_ne_nil := List.ne_nil_of_length_pos Nat.length_toDigits_pos
  no_leading_zero h := by rw [head?_toDigits_eq_zero h]; rfl
  isDigits_whole _ hc := Nat.isDigit_of_mem_toDigits (by decide) (by decide) hc
  isDigits_fraction := isDigits_nil

theorem value_numeral (m : Int) : (numeral m).value = m := by
  have hdigits : digitsValue (Nat.toDigits 10 m.natAbs) = m.natAbs := Nat.ofDigitChars_ten_toDigits
  unfold Numeral.value numeral
  simp only [hdigits, decide_eq_true_eq]
  split <;> omega

theorem toList_toString (m : Int) :
    (toString m).toList = (if m < 0 then ['-'] else []) ++ Nat.toDigits 10 m.natAbs := by
  cases m with
  | ofNat n => simp [toString, Int.repr, Nat.toList_repr]
  | negSucc n => simp [toString, Int.repr, Nat.toList_repr, Int.negSucc_lt_zero]

theorem text_numeral (m : Int) : (numeral m).text = (toString m).toList := by
  rw [toList_toString]
  simp [Numeral.text, numeral, fractionText, exponentText]

end Numbers

section Layout

/-- Lines with a comma before each but the first, and a gap before each. -/
def row (gap : List Char) (first : Bool) : List (List Char) → List Char
  | [] => []
  | line :: rest => (if first then [] else [',']) ++ (gap ++ (line ++ row gap false rest))

variable (gap : Nat → List Char) (between : List Char)

mutual

/-- A tree with a gap, which depends on the depth, before each of its parts and before the end of a
container, and something between names and values. -/
def laid (depth : Nat) : Json → List Char
  | .array (item :: rest) =>
    '[' :: (row (gap (depth + 1)) true (laidItems (depth + 1) (item :: rest)) ++
      (gap depth ++ [']']))
  | .object (entry :: rest) =>
    '\x7b' :: (row (gap (depth + 1)) true (laidEntries (depth + 1) (entry :: rest)) ++
      (gap depth ++ ['\x7d']))
  | .array [] => ['[', ']']
  | .object [] => ['\x7b', '\x7d']
  | leaf => (leafText leaf).toList

def laidItems (depth : Nat) : List Json → List (List Char)
  | [] => []
  | item :: rest => laid depth item :: laidItems depth rest

def laidEntries (depth : Nat) : List (String × Json) → List (List Char)
  | [] => []
  | (name, item) :: rest =>
    ((quote name).toList ++ (':' :: (between ++ laid depth item))) :: laidEntries depth rest

end

theorem laidItems_eq_map (depth : Nat) (items : List Json) :
    laidItems gap between depth items = items.map (laid gap between depth) := by
  induction items with
  | nil => rfl
  | cons item rest ih => rw [laidItems, ih, List.map_cons]

theorem laidEntries_eq_map (depth : Nat) (entries : List (String × Json)) :
    laidEntries gap between depth entries = entries.map fun entry =>
      (quote entry.1).toList ++ (':' :: (between ++ laid gap between depth entry.2)) := by
  induction entries with
  | nil => rfl
  | cons entry rest ih => rw [laidEntries, ih, List.map_cons]

end Layout

mutual

theorem compact_eq_laid (depth : Nat) : ∀ j : Json,
    (compact j).toList = laid (fun _ => []) [] depth j
  | .null => rfl
  | .bool _ => rfl
  | .integer _ => rfl
  | .float _ => rfl
  | .string _ => rfl
  | .array [] => rfl
  | .array (item :: rest) => by
    rw [compact_array, compactItems_eq_row (depth + 1) true, laid]
    rfl
  | .object [] => rfl
  | .object (entry :: rest) => by
    rw [compact_object, compactEntries_eq_row (depth + 1) true, laid]
    rfl

theorem compactItems_eq_row (depth : Nat) (first : Bool) : ∀ items : List Json,
    (compactItems first items).toList =
      row [] first (laidItems (fun _ => []) [] depth items)
  | [] => rfl
  | item :: rest => by
    rw [compactItems, laidItems, row, ← compact_eq_laid depth item,
      ← compactItems_eq_row depth false rest]
    cases first <;> simp

theorem compactEntries_eq_row (depth : Nat) (first : Bool) : ∀ entries : List (String × Json),
    (compactEntries first entries).toList =
      row [] first (laidEntries (fun _ => []) [] depth entries)
  | [] => rfl
  | (name, item) :: rest => by
    rw [compactEntries, laidEntries, row, ← compact_eq_laid depth item,
      ← compactEntries_eq_row depth false rest]
    cases first <;> simp

end

mutual

theorem pretty_eq_laid : ∀ (depth : Nat) (j : Json),
    (pretty depth j).toList = laid (fun depth => (indent depth).toList) [' '] depth j
  | _, .null => rfl
  | _, .bool _ => rfl
  | _, .integer _ => rfl
  | _, .float _ => rfl
  | _, .string _ => rfl
  | _, .array [] => by
    rw [pretty, laid]
    rfl
  | depth, .array (item :: rest) => by
    rw [pretty, laid, ← prettyItems_eq_row (depth + 1) true]
    · simp
    · exact List.cons_ne_nil item rest
  | _, .object [] => by
    rw [pretty, laid]
    rfl
  | depth, .object (entry :: rest) => by
    rw [pretty, laid, ← prettyEntries_eq_row (depth + 1) true]
    · simp
    · exact List.cons_ne_nil entry rest

theorem prettyItems_eq_row (depth : Nat) (first : Bool) : ∀ items : List Json,
    (prettyItems first depth items).toList = row (indent depth).toList first
      (laidItems (fun depth => (indent depth).toList) [' '] depth items)
  | [] => rfl
  | item :: rest => by
    rw [prettyItems, laidItems, row, ← pretty_eq_laid depth item,
      ← prettyItems_eq_row depth false rest]
    cases first <;> simp

theorem prettyEntries_eq_row (depth : Nat) (first : Bool) : ∀ entries : List (String × Json),
    (prettyEntries first depth entries).toList = row (indent depth).toList first
      (laidEntries (fun depth => (indent depth).toList) [' '] depth entries)
  | [] => rfl
  | (name, item) :: rest => by
    rw [prettyEntries, laidEntries, row, ← pretty_eq_laid depth item,
      ← prettyEntries_eq_row depth false rest]
    cases first <;> simp

end

section Grammar

/-- What stands between the words of a text. -/
def IsGap (cs : List Char) : Prop := ∀ rest, skipBlanks (cs ++ rest) = skipBlanks rest

theorem isGap_nil : IsGap [] := fun _ => rfl

theorem isGap_indent (depth : Nat) : IsGap (indent depth).toList := by
  intro rest
  have hblanks : ∀ c ∈ (indent depth).toList,
      (c == ' ' || c == '\n' || c == '\t' || c == '\r') = true := by
    intro c hc
    rw [indent, String.toList_append, List.mem_append] at hc
    rcases hc with hc | hc
    · obtain rfl : c = '\n' := by simpa using hc
      rfl
    · rw [String.toList_ofList] at hc
      rw [List.eq_of_mem_replicate hc]
      rfl
  exact List.dropWhile_append_of_pos hblanks

variable {gap between close : List Char}

theorem Spells.behind (hgap : IsGap gap) {w : Written} {cs rest : List Char}
    (h : Spells w cs rest) : Spells w (gap ++ cs) rest := by
  cases h with
  | null h => exact .null ((hgap cs).trans h)
  | true h => exact .true ((hgap cs).trans h)
  | false h => exact .false ((hgap cs).trans h)
  | number h => exact .number ((hgap cs).trans h)
  | string h hs => exact .string ((hgap cs).trans h) hs
  | emptyArray h he => exact .emptyArray ((hgap cs).trans h) he
  | array h hi => exact .array ((hgap cs).trans h) hi
  | emptyObject h he => exact .emptyObject ((hgap cs).trans h) he
  | object h he => exact .object ((hgap cs).trans h) he

theorem SpellsEntry.behind (hgap : IsGap gap) {entry : String × Written} {cs rest : List Char}
    (h : SpellsEntry entry cs rest) : SpellsEntry entry (gap ++ cs) rest := by
  cases h with
  | mk h hs hc hw => exact .mk ((hgap cs).trans h) hs hc hw

/-- Lines that spell values make a row of items. -/
theorem spellsItems_row (hgap : IsGap gap) (hclose : IsGap close) {w : Written}
    {ws : List Written} {line : List Char} {lines : List (List Char)}
    (h : List.Forall₂ (fun w line => ∀ rest, Spells w (line ++ rest) rest) (w :: ws)
      (line :: lines)) (rest : List Char) :
    SpellsItems (w :: ws) (row gap true (line :: lines) ++ (close ++ ']' :: rest)) rest := by
  induction lines generalizing w ws line with
  | nil =>
    obtain ⟨hw, hnone⟩ := List.forall₂_cons.mp h
    obtain rfl := List.forall₂_nil_right_iff.mp hnone
    simp only [row, if_true, List.nil_append, List.append_nil, List.append_assoc]
    exact .last ((hw _).behind hgap) (hclose _)
  | cons next lines ih =>
    obtain ⟨hw, hmore⟩ := List.forall₂_cons.mp h
    obtain ⟨w', ws, hnext, hlines, rfl⟩ := List.forall₂_cons_right_iff.mp hmore
    have hrow : row gap true (line :: next :: lines) =
        gap ++ (line ++ ',' :: row gap true (next :: lines)) := by simp [row]
    rw [hrow, List.append_assoc, List.append_assoc, List.cons_append]
    exact .cons ((hw _).behind hgap) rfl (ih (.cons hnext hlines))

theorem spellsEntries_row (hgap : IsGap gap) (hclose : IsGap close) {entry : String × Written}
    {entries : List (String × Written)} {line : List Char} {lines : List (List Char)}
    (h : List.Forall₂ (fun entry line => ∀ rest, SpellsEntry entry (line ++ rest) rest)
      (entry :: entries) (line :: lines)) (rest : List Char) :
    SpellsEntries (entry :: entries) (row gap true (line :: lines) ++ (close ++ '\x7d' :: rest))
      rest := by
  induction lines generalizing entry entries line with
  | nil =>
    obtain ⟨hw, hnone⟩ := List.forall₂_cons.mp h
    obtain rfl := List.forall₂_nil_right_iff.mp hnone
    simp only [row, if_true, List.nil_append, List.append_nil, List.append_assoc]
    exact .last ((hw _).behind hgap) (hclose _)
  | cons next lines ih =>
    obtain ⟨hw, hmore⟩ := List.forall₂_cons.mp h
    obtain ⟨entry', entries, hnext, hlines, rfl⟩ := List.forall₂_cons_right_iff.mp hmore
    have hrow : row gap true (line :: next :: lines) =
        gap ++ (line ++ ',' :: row gap true (next :: lines)) := by simp [row]
    rw [hrow, List.append_assoc, List.append_assoc, List.cons_append]
    exact .cons ((hw _).behind hgap) rfl (ih (.cons hnext hlines))

theorem skipBlanks_numeral (n : Numeral) (rest : List Char) :
    skipBlanks (n.text ++ rest) = n.text ++ rest := by
  obtain ⟨c, tail, htext, hc⟩ := head?_text n
  have hblank : (c == ' ' || c == '\n' || c == '\t' || c == '\r') = false := by
    rw [← Bool.not_eq_true]
    intro hblank
    simp only [Bool.or_eq_true, beq_iff_eq] at hblank
    rcases hblank with ((rfl | rfl) | rfl) | rfl <;> simp [isDecimalDigit] at hc
  rw [htext, List.cons_append]
  exact List.dropWhile_cons_of_neg (by simp [hblank])

theorem quote_toList (s : String) :
    (quote s).toList = '"' :: (s.toList.flatMap escapeChar ++ ['"']) := by
  simp [quote]

section Parts

variable {gap : Nat → List Char}

theorem exists_items {items : List Json} {depth : Nat}
    (h : ∀ item ∈ items, ∃ w : Written, w.Means item ∧
      ∀ rest, Spells w (laid gap between depth item ++ rest) rest) :
    ∃ ws, List.Forall₂ Written.Means ws items ∧
      List.Forall₂ (fun w line => ∀ rest, Spells w (line ++ rest) rest) ws
        (laidItems gap between depth items) := by
  induction items with
  | nil => exact ⟨[], .nil, .nil⟩
  | cons item items ih =>
    obtain ⟨hitem, hitems⟩ := List.forall_mem_cons.mp h
    obtain ⟨w, hmeans, hspells⟩ := hitem
    obtain ⟨ws, hall, hlines⟩ := ih hitems
    exact ⟨w :: ws, .cons hmeans hall, .cons hspells hlines⟩

theorem exists_entries (hbetween : IsGap between) {entries : List (String × Json)} {depth : Nat}
    (h : ∀ entry ∈ entries, ∃ w : Written, w.Means entry.2 ∧
      ∀ rest, Spells w (laid gap between depth entry.2 ++ rest) rest) :
    ∃ ws : List (String × Written), ws.map Prod.fst = entries.map Prod.fst ∧
      List.Forall₂ Written.Means (ws.map Prod.snd) (entries.map Prod.snd) ∧
      List.Forall₂ (fun entry line => ∀ rest, SpellsEntry entry (line ++ rest) rest) ws
        (laidEntries gap between depth entries) := by
  induction entries with
  | nil => exact ⟨[], rfl, .nil, .nil⟩
  | cons entry entries ih =>
    obtain ⟨hentry, hentries⟩ := List.forall_mem_cons.mp h
    obtain ⟨w, hmeans, hspells⟩ := hentry
    obtain ⟨ws, hnames, hall, hlines⟩ := ih hentries
    refine ⟨(entry.1, w) :: ws, congrArg (entry.1 :: ·) hnames, .cons hmeans hall,
      .cons (fun rest => ?_) hlines⟩
    simp only [quote_toList, List.cons_append, List.append_assoc, List.nil_append]
    exact .mk rfl (readString_escaped entry.1.toList _) rfl ((hspells rest).behind hbetween)

end Parts

/-- Any layout of a tree is a text of it. -/
theorem exists_spelling_laid {gap : Nat → List Char} (hgap : ∀ depth, IsGap (gap depth))
    (hbetween : IsGap between) {j : Json} (h : j.Floatless) :
    ∀ depth, ∃ w : Written, w.Means j ∧
      ∀ rest, Spells w (laid gap between depth j ++ rest) rest := by
  induction h with
  | null => exact fun _ => ⟨.null, .null, fun _ => .null rfl⟩
  | bool b =>
    intro depth
    refine ⟨.bool b, .bool, fun rest => ?_⟩
    cases b with
    | false => exact .false rfl
    | true => exact .true rfl
  | integer m =>
    intro depth
    refine ⟨.number (numeral m), ?_, fun rest => ?_⟩
    · have hmeans := Written.Means.integer (n := numeral m) ⟨rfl, rfl⟩
      rwa [value_numeral] at hmeans
    · have htext : laid gap between depth (.integer m) = (numeral m).text := by
        rw [text_numeral]
        rfl
      rw [htext]
      exact .number (skipBlanks_numeral _ rest)
  | string s =>
    intro depth
    refine ⟨.string s, .string, fun rest => ?_⟩
    have htext : laid gap between depth (.string s) =
        '"' :: (s.toList.flatMap escapeChar ++ ['"']) := quote_toList s
    rw [htext, List.cons_append, List.append_assoc]
    exact .string rfl (readString_escaped s.toList rest)
  | @array items _ ih =>
    intro depth
    obtain ⟨ws, hmeans, hlines⟩ := exists_items fun item hmem => ih item hmem (depth + 1)
    refine ⟨.array ws, .array hmeans, fun rest => ?_⟩
    cases items with
    | nil =>
      obtain rfl := List.forall₂_nil_right_iff.mp hmeans
      exact .emptyArray rfl rfl
    | cons item items =>
      obtain ⟨w, ws, _, _, rfl⟩ := List.forall₂_cons_right_iff.mp hmeans
      have hrow := spellsItems_row (hgap (depth + 1)) (hgap depth) hlines rest
      rw [laid, List.cons_append, List.append_assoc, List.append_assoc, List.singleton_append]
      exact .array rfl hrow
  | @object entries _ ih =>
    intro depth
    obtain ⟨ws, hnames, hmeans, hlines⟩ :=
      exists_entries hbetween fun entry hmem => ih entry hmem (depth + 1)
    refine ⟨.object ws, .object hnames hmeans, fun rest => ?_⟩
    cases entries with
    | nil =>
      obtain rfl : ws = [] := by simpa using hnames
      exact .emptyObject rfl rfl
    | cons entry entries =>
      obtain ⟨name, item⟩ := entry
      cases ws with
      | nil => cases hnames
      | cons entry' ws =>
        have hrow := spellsEntries_row (hgap (depth + 1)) (hgap depth) hlines rest
        rw [laid, List.cons_append, List.append_assoc, List.append_assoc, List.singleton_append]
        exact .object rfl hrow

theorem isTextOf_of_laid {gap : Nat → List Char} (hgap : ∀ depth, IsGap (gap depth))
    (hbetween : IsGap between) {j : Json} (h : j.Floatless) {text : String}
    (htext : text.toList = laid gap between 0 j) : IsTextOf text j := by
  obtain ⟨w, hmeans, hspells⟩ := exists_spelling_laid hgap hbetween h 0
  have hw := hspells []
  rw [List.append_nil, ← htext] at hw
  exact ⟨w, ⟨[], hw, rfl⟩, hmeans⟩

theorem isTextOf_compact {j : Json} (h : j.Floatless) : IsTextOf j.compact j :=
  isTextOf_of_laid (fun _ => isGap_nil) isGap_nil h (compact_eq_laid 0 j)

theorem isTextOf_pretty {j : Json} (h : j.Floatless) : IsTextOf (j.pretty 0) j :=
  isTextOf_of_laid isGap_indent (fun _ => rfl) h (pretty_eq_laid 0 j)

end Grammar

section Lines

theorem feed_not_mem_escapeChar (c : Char) : '\n' ∉ escapeChar c := by
  have hhex : ∀ n < 32, '\n' ∉ (Text.hex n).toList := by decide
  unfold escapeChar
  split_ifs with _ _ hfeed _ _ _ _ h16 h32
  all_goals try decide
  · simpa using hhex c.toNat (by omega)
  · simpa using hhex c.toNat h32
  · simpa using Ne.symm hfeed

theorem feed_not_mem_quote (s : String) : '\n' ∉ (quote s).toList := by
  rw [quote_toList]
  simp [feed_not_mem_escapeChar]

theorem feed_not_mem_row {lines : List (List Char)} (h : ∀ line ∈ lines, '\n' ∉ line)
    (first : Bool) : '\n' ∉ row [] first lines := by
  induction lines generalizing first with
  | nil => nofun
  | cons line rest ih =>
    obtain ⟨hline, hrest⟩ := List.forall_mem_cons.mp h
    cases first <;> simp [row, hline, ih hrest]

theorem feed_not_mem_laid {j : Json} (h : j.Floatless) :
    ∀ depth, '\n' ∉ laid (fun _ => []) [] depth j := by
  induction h with
  | null =>
    have hnull : '\n' ∉ "null".toList := by decide
    exact fun _ => hnull
  | bool b =>
    have hword : ∀ b : Bool, '\n' ∉ (toString b).toList := by decide
    exact fun _ => hword b
  | integer m =>
    intro _ hmem
    change '\n' ∈ (toString m).toList at hmem
    rw [toList_toString] at hmem
    rcases List.mem_append.mp hmem with hsign | hdigit
    · split at hsign <;> simp at hsign
    · cases Nat.isDigit_of_mem_toDigits (by decide) (by decide) hdigit
  | string s => exact fun _ => feed_not_mem_quote s
  | @array items _ ih =>
    intro depth
    cases items with
    | nil =>
      have hbrackets : '\n' ∉ ['[', ']'] := by decide
      exact hbrackets
    | cons item rest =>
      have hlines : ∀ line ∈ laidItems (fun _ => []) [] (depth + 1) (item :: rest),
          '\n' ∉ line := by
        rw [laidItems_eq_map, List.forall_mem_map]
        exact fun item hmem => ih item hmem (depth + 1)
      rw [laid]
      simp [feed_not_mem_row hlines]
  | @object entries _ ih =>
    intro depth
    cases entries with
    | nil =>
      have hbraces : '\n' ∉ ['\x7b', '\x7d'] := by decide
      exact hbraces
    | cons entry rest =>
      have hlines : ∀ line ∈ laidEntries (fun _ => []) [] (depth + 1) (entry :: rest),
          '\n' ∉ line := by
        rw [laidEntries_eq_map, List.forall_mem_map]
        intro entry hmem
        simp [feed_not_mem_quote, ih entry hmem (depth + 1)]
      rw [laid]
      simp [feed_not_mem_row hlines]

/-- The compact text of a tree is one line. -/
theorem feed_not_mem_compact {j : Json} (h : j.Floatless) : '\n' ∉ j.compact.toList := by
  rw [compact_eq_laid 0]
  exact feed_not_mem_laid h 0

theorem feed_mem_pretty (entry : String × Json) (rest : List (String × Json)) (depth : Nat) :
    '\n' ∈ ((object (entry :: rest)).pretty depth).toList := by
  rw [pretty]
  · simp [indent]
  · exact List.cons_ne_nil entry rest

end Lines

end SettingsCheck.Json
