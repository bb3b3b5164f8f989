import SettingsCheck.Proofs.JsonSpelling
import SettingsCheck.Proofs.SummaryText
import SettingsCheck.Proofs.YamlGrammar

namespace SettingsCheck.Yaml

section Characters

variable {c : Char} {cs : List Char}

@[simp] theorem breaksLine_iff : breaksLine c = true ↔ IsLineBreak c := by
  simp [breaksLine, isBreak, IsLineBreak]
  tauto

@[simp] theorem breaksLine_eq_false_iff : breaksLine c = false ↔ ¬IsLineBreak c := by
  rw [← breaksLine_iff, Bool.not_eq_true]

theorem isGap_iff : isGap c = true ↔ IsGapChar c := by
  simp [isGap, isBlank, IsGapChar, or_assoc]

theorem isPrintable_iff : isPrintable c = true ↔ Printable c := by
  have hfeed : c.toNat = 0xA ↔ c = '\n' := Char.toNat_inj (c := c) (d := '\n')
  simp [isPrintable, Printable, hfeed]
  tauto

theorem endsWithBreak_iff : endsWithBreak cs = true ↔ ∃ c ∈ cs.getLast?, IsLineBreak c := by
  simp [endsWithBreak, Option.any_eq_true]

theorem startsWithGap_eq_false (h : startsWithGap cs = false) : ∃ d ∈ cs.head?, ¬IsGapChar d := by
  cases cs with
  | nil => cases h
  | cons d rest => exact ⟨d, rfl, fun hd => by simp [startsWithGap, isGap_iff.mpr hd] at h⟩

/-- A separator is the only line break that is printable, apart from the line feed. -/
theorem separator_of_printable (hprint : Printable c) (hbreak : IsLineBreak c) (hfeed : c ≠ '\n') :
    c = '\u2028' ∨ c = '\u2029' := by
  rcases hbreak with rfl | rfl | rfl | h
  · exact absurd rfl hfeed
  · exact absurd hprint (by unfold Printable; decide)
  · exact absurd hprint (by unfold Printable; decide)
  · exact h

end Characters

section Plain

theorem colons_of_hasInnerIndicator {cs : List Char} {afterGap : Bool}
    (h : hasInnerIndicator afterGap cs = false) (before after : List Char)
    (hcs : cs = before ++ ':' :: after) : ∃ d ∈ after.head?, ¬IsGapChar d := by
  induction before generalizing cs afterGap with
  | nil =>
    subst hcs
    simp at h
    exact startsWithGap_eq_false h.1
  | cons c before ih =>
    subst hcs
    simp only [List.cons_append, hasInnerIndicator, Bool.or_eq_false_iff] at h
    exact ih h.2 rfl

theorem signs_of_hasInnerIndicator {cs : List Char} {afterGap : Bool}
    (h : hasInnerIndicator afterGap cs = false) (before after : List Char)
    (hcs : cs = before ++ '#' :: after) :
    afterGap = false ∧ before = [] ∨ ∃ d ∈ before.getLast?, ¬IsGapChar d := by
  induction before generalizing cs afterGap with
  | nil =>
    subst hcs
    simp at h
    exact .inl ⟨h.1, rfl⟩
  | cons c before ih =>
    subst hcs
    simp only [List.cons_append, hasInnerIndicator, Bool.or_eq_false_iff] at h
    rcases ih h.2 rfl with ⟨hgap, rfl⟩ | ⟨d, hd, hgap⟩
    · exact .inr ⟨c, rfl, fun hc => by rw [isGap_iff.mpr hc] at hgap; cases hgap⟩
    · exact .inr ⟨d, by rw [List.getLast?_cons, Option.mem_def.mp hd]; rfl, hgap⟩

theorem isPlain_of_canBePlain {s : String} (h : canBePlain s.toList = true)
    (htyped : isTypedWord s = false) : IsPlain s := by
  simp only [canBePlain, Bool.and_eq_true, Bool.not_eq_true', bne_iff_ne, ne_eq] at h
  obtain ⟨⟨⟨⟨hprint, hbreak⟩, hsign⟩, hhead⟩, hend⟩ := h
  simp only [isTypedWord, Bool.or_eq_false_iff, decide_eq_false_iff_not, Option.isSome_eq_false_iff,
    Option.isNone_iff_eq_none] at htyped
  obtain ⟨⟨⟨⟨⟨hempty, hnull⟩, hbool⟩, hinteger⟩, _⟩, hfloat⟩ := htyped
  simp only [hasIndicator, Bool.or_eq_false_iff] at hsign
  obtain ⟨⟨⟨hdashes, hdots⟩, hinner⟩, hfirst⟩ := hsign
  refine ⟨fun c hc => ⟨isPrintable_iff.mp (List.all_eq_true.mp hprint c hc), ?_⟩, ?_, ?_, ?_,
    colons_of_hasInnerIndicator hinner, fun before after hs => ?_, hnull, hbool, hinteger, hfloat⟩
  · rw [← breaksLine_eq_false_iff]
    simpa using List.any_eq_false.mp hbreak c hc
  · cases hs : s.toList with
    | nil => exact absurd (String.toList_eq_nil_iff.mp hs) hempty
    | cons c rest =>
      rw [hs] at hfirst hhead
      simp only [Bool.or_eq_false_iff] at hfirst
      refine ⟨c, rest, rfl, fun hc => hhead (by rw [hc]; rfl), ?_, fun hc => ?_⟩
      · have hnot := hfirst.1
        simp [isIndicator] at hnot
        simp [indicators]
        tauto
      · refine startsWithGap_eq_false ?_
        have hpair := hfirst.2
        rcases hc with rfl | rfl <;> simpa using hpair
  · simpa [endsWithSpace] using hend
  · rw [← List.isPrefixOf_iff_prefix, ← List.isPrefixOf_iff_prefix, hdashes, hdots]
    simp
  · rcases signs_of_hasInnerIndicator hinner before after hs with ⟨hgap, _⟩ | h
    · cases hgap
    · exact h

end Plain

section SingleQuotes

variable (m : Nat)

/-- Lines between single quotes, with what stands before the closing one. -/
@[simp] def quotedLines (start : Bool) : List Char → List Char
  | [] => if start then margin m else []
  | c :: rest =>
    if breaksLine c then c :: quotedLines true rest
    else (if start then margin m else []) ++
      ((if c == '\x27' then [c, c] else [c]) ++ quotedLines false rest)

theorem endsWithBreak_cons (c : Char) (rest : List Char) :
    endsWithBreak (c :: rest) = if rest = [] then breaksLine c else endsWithBreak rest := by
  cases rest with
  | nil => rfl
  | cons d rest => simp [endsWithBreak, List.getLast?_cons_cons]

theorem indented_doubled (start : Bool) (cs : List Char) :
    indented m start (cs.flatMap fun c => if c == '\x27' then [c, c] else [c]) ++
        (if (if cs = [] then start else endsWithBreak cs) then margin m else []) =
      quotedLines m start cs := by
  induction cs generalizing start with
  | nil => rfl
  | cons c rest ih =>
    rw [List.flatMap_cons, if_neg (List.cons_ne_nil c rest), endsWithBreak_cons, quotedLines]
    by_cases hquote : c = '\x27'
    · subst hquote
      have hno : breaksLine '\x27' = false := by decide
      simp [hno, ← ih]
    · cases hc : breaksLine c with
      | true => simp [hquote, hc, ← ih]
      | false => simp [hquote, hc, ← ih]

theorem quotedLines_true_of_break {c : Char} {rest : List Char} (h : IsLineBreak c) :
    quotedLines m true (c :: rest) = quotedLines m false (c :: rest) := by
  simp [breaksLine_iff.mpr h]

theorem quotedLines_true {cs : List Char} (h : ∀ c ∈ cs.head?, ¬IsLineBreak c) :
    quotedLines m true cs = margin m ++ quotedLines m false cs := by
  cases cs with
  | nil => simp
  | cons c rest => simp [breaksLine_eq_false_iff.mpr (h c rfl)]

theorem hasPair_cons {p q : Char → Bool} {c : Char} {rest : List Char}
    (h : hasPair p q (c :: rest) = false) :
    hasPair p q rest = false ∧ (p c = true → ∀ d ∈ rest.head?, q d = false) := by
  cases rest with
  | nil => exact ⟨rfl, nofun⟩
  | cons d rest =>
    simp only [hasPair, Bool.or_eq_false_iff] at h
    refine ⟨h.2, fun hp e he => ?_⟩
    cases he
    simpa [hp] using h.1

theorem singleQuoted_quotedLines {cs : List Char} (hprint : ∀ c ∈ cs, Printable c ∧ c ≠ '\n')
    (hafter : hasPair breaksLine (· == ' ') cs = false)
    (hbefore : hasPair (· == ' ') breaksLine cs = false) :
    SingleQuoted m cs (quotedLines m false cs) := by
  induction cs with
  | nil => exact .nil
  | cons c rest ih =>
    obtain ⟨⟨hc, hfeed⟩, hrest⟩ := List.forall_mem_cons.mp hprint
    obtain ⟨hafterRest, hspace⟩ := hasPair_cons hafter
    obtain ⟨hbeforeRest, hbreak⟩ := hasPair_cons hbefore
    have hquoted := ih hrest hafterRest hbeforeRest
    by_cases hline : IsLineBreak c
    · have htext : quotedLines m false (c :: rest) = c :: quotedLines m true rest := by
        simp [breaksLine_iff.mpr hline]
      have hseparator := separator_of_printable hc hline hfeed
      have hblank : ∀ d ∈ rest.head?, d ≠ ' ' := fun d hd hd' =>
        absurd (hspace (breaksLine_iff.mpr hline) d hd) (by simp [hd'])
      rw [htext]
      by_cases hnext : ∃ d ∈ rest.head?, IsLineBreak d
      · obtain ⟨d, hd, hdline⟩ := hnext
        obtain ⟨more, rfl⟩ := List.head?_eq_some_iff.mp hd
        rw [quotedLines_true_of_break m hdline]
        exact .lineBreak hseparator hdline hquoted
      · have hno : ∀ d ∈ rest.head?, ¬IsLineBreak d := fun d hd hdline => hnext ⟨d, hd, hdline⟩
        rw [quotedLines_true m hno]
        exact .line hseparator (fun d hd => ⟨hno d hd, hblank d hd⟩) hquoted
    · have hplain := breaksLine_eq_false_iff.mpr hline
      by_cases hmark : c = '\x27'
      · subst hmark
        have htext : quotedLines m false ('\x27' :: rest) =
            '\x27' :: '\x27' :: quotedLines m false rest := by simp [hplain]
        rw [htext]
        exact .quote hquoted
      · have htext : quotedLines m false (c :: rest) = c :: quotedLines m false rest := by
          simp [hplain, hmark]
        rw [htext]
        refine .char hmark hc hline (fun hc' d hd => ?_) hquoted
        exact breaksLine_eq_false_iff.mp (hbreak (by simp [hc']) d hd)

end SingleQuotes

section DoubleQuotes

theorem hexDigit?_digitChar {d : Nat} (h : d < 16) :
    Text.hexDigit? d.digitChar.toUpper = some d := by
  have hall : ∀ d < 16, Text.hexDigit? (Nat.digitChar d).toUpper = some d := by decide
  exact hall d h

theorem numberIn?_toDigits (n : Nat) :
    Text.numberIn? 16 ((Nat.toDigits 16 n).map Char.toUpper) = some n := by
  induction n using Nat.strongRecOn with
  | ind n ih =>
    rw [Nat.toDigits_eq_if (by decide)]
    split
    next hsmall => simp [Text.numberIn?, hexDigit?_digitChar hsmall, hsmall]
    next hlarge =>
      have hhead := ih (n / 16) (by omega)
      have hlast : n % 16 < 16 := Nat.mod_lt n (by decide)
      rw [Text.numberIn?] at hhead
      rw [List.map_append, Text.numberIn?, List.foldlM_append, hhead]
      simp [hexDigit?_digitChar hlast, hlast]
      omega

theorem numberIn?_replicate_zero (k : Nat) (cs : List Char) :
    Text.numberIn? 16 (List.replicate k '0' ++ cs) = Text.numberIn? 16 cs := by
  induction k with
  | zero => rfl
  | succ k ih => exact ih

theorem numberIn?_upperHex {width n : Nat} (h : (Nat.toDigits 16 n).length ≤ width) :
    (upperHex width n).length = width ∧ Text.numberIn? 16 (upperHex width n) = some n := by
  refine ⟨?_, ?_⟩
  · simp [upperHex]
    omega
  · rw [upperHex, numberIn?_replicate_zero, numberIn?_toDigits]

theorem doubleQuoted_escapedChar {c : Char} {cs text : List Char} (h : DoubleQuoted cs text) :
    DoubleQuoted (c :: cs) (escapedChar c ++ text) := by
  unfold escapedChar
  dsimp only
  split
  next known letter hfind =>
    obtain rfl : known = c := by simpa using List.find?_some hfind
    have hletters : [('\x00', '0'), ('\x07', 'a'), ('\x08', 'b'), ('\t', 't'), ('\n', 'n'),
        ('\x0b', 'v'), ('\x0c', 'f'), ('\r', 'r'), ('\x1b', 'e'), ('"', '"'), ('\\', '\\'),
        ('\u0085', 'N'), ('\u2028', 'L'), ('\u2029', 'P')].all
        (fun p => decide ((p.2, p.1) ∈ escapeLetters)) = true := by decide
    have hletter := List.all_eq_true.mp hletters _ (List.mem_of_find?_eq_some hfind)
    exact .escape (of_decide_eq_true hletter) h
  next hfind =>
    have hnamed := List.find?_eq_none.mp hfind
    simp only [List.mem_cons, List.not_mem_nil, or_false, forall_eq_or_imp, forall_eq,
      beq_iff_eq] at hnamed
    split
    next hprint =>
      refine .char (fun hc => ?_) (fun hc => ?_) (isPrintable_iff.mp hprint) (fun hc => ?_) h
      · simp [hc] at hnamed
      · simp [hc] at hnamed
      · rcases hc with rfl | rfl | rfl | rfl | rfl <;> simp at hnamed
    next hprint =>
      rw [isPrintable_iff] at hprint
      simp only [Printable, not_or, not_and, Decidable.not_not] at hprint
      split
      next hsmall =>
        have hdigits : (Nat.toDigits 16 c.toNat).length ≤ 2 :=
          (Nat.length_toDigits_le_iff (by decide) (by decide)).mpr (by omega)
        obtain ⟨hlength, hvalue⟩ := numberIn?_upperHex hdigits
        exact .code (by rw [hlength]; simp) hvalue h
      next hlarge =>
        -- above one byte only a byte order mark and two characters that are none cannot be printed
        have hfits : c.toNat ≤ 0xFFFF := by omega
        have hdigits : (Nat.toDigits 16 c.toNat).length ≤ 4 :=
          (Nat.length_toDigits_le_iff (by decide) (by decide)).mpr (by omega)
        obtain ⟨hlength, hvalue⟩ := numberIn?_upperHex hdigits
        rw [if_pos hfits]
        exact .code (by rw [hlength]; simp) hvalue h

theorem doubleQuoted_flatMap (cs : List Char) : DoubleQuoted cs (cs.flatMap escapedChar) := by
  induction cs with
  | nil => exact .nil
  | cons c rest ih =>
    rw [List.flatMap_cons]
    exact doubleQuoted_escapedChar ih

end DoubleQuotes

section Literal

variable (m : Nat)

theorem margined_indented {cs : List Char} (hprint : ∀ c ∈ cs, Printable c) (start : Bool) :
    Margined m start cs (indented m start cs) := by
  induction cs generalizing start with
  | nil => exact .nil
  | cons c rest ih =>
    obtain ⟨hc, hrest⟩ := List.forall_mem_cons.mp hprint
    unfold indented
    split
    next hline => exact .lineBreak hc (breaksLine_iff.mp hline) (ih hrest true)
    next hline =>
      rw [breaksLine_iff] at hline
      cases start with
      | true => exact .first hc hline (ih hrest false)
      | false => exact .next hc hline (ih hrest false)

theorem chomps_endMark (cs : List Char) : Chomps cs (endMark cs) := by
  unfold endMark
  split
  next hempty =>
    obtain rfl : cs = [] := by simpa using hempty
    exact .strip nofun
  next c hone =>
    obtain rfl : cs = [c] := by simpa using congrArg List.reverse hone
    split
    next hline => exact @Chomps.keep [] c (breaksLine_iff.mp hline)
    next hline => exact .strip (by simpa using hline)
  next c d rest hmany =>
    obtain rfl : cs = rest.reverse ++ [d, c] := by simpa using congrArg List.reverse hmany
    split
    next hline => exact .strip (by simpa using hline)
    next hline =>
      have hc : IsLineBreak c := by simpa using hline
      split
      next =>
        have hkeep := @Chomps.keep (rest.reverse ++ [d]) c hc
        rwa [List.append_assoc] at hkeep
      next hd => exact .clip (by simpa using hd) hc

theorem marginMark_cases (cs : List Char) (h : cs ≠ []) :
    marginMark cs = ['2'] ∨
      marginMark cs = [] ∧ ∃ c ∈ cs.head?, c ≠ ' ' ∧ ¬IsLineBreak c := by
  cases cs with
  | nil => exact absurd rfl h
  | cons c rest =>
    unfold marginMark
    split
    next => exact .inl rfl
    next hc => exact .inr ⟨rfl, c, rfl, by simpa using hc⟩

end Literal

/-- What a text has to be for the way in which it is spelled. -/
theorem ofText_suits (s : String) :
    match Spelling.ofText s with
    | .plain => IsPlain s
    | .quoted => '\n' ∉ s.toList ∧ canBeQuoted s.toList = true
    | .escaped => True
    | .literal => '\n' ∈ s.toList ∧ canBeLiteral s.toList = true := by
  unfold Spelling.ofText
  dsimp only
  by_cases hfeed : '\n' ∈ s.toList
  · cases canBeLiteral s.toList <;> simp [hfeed]
  · simp only [List.contains_eq_mem, hfeed, decide_false, Bool.false_eq_true, if_false]
    cases hplain : canBePlain s.toList && !isTypedWord s with
    | true =>
      simp only [Bool.and_eq_true, Bool.not_eq_true'] at hplain
      exact isPlain_of_canBePlain hplain.1 hplain.2
    | false => cases canBeQuoted s.toList <;> simp

theorem scalar_scalarText (m : Nat) (s : String) : Scalar m s (scalarText m s) := by
  have hsuits := ofText_suits s
  unfold scalarText
  dsimp only
  generalize Spelling.ofText s = spelling at hsuits ⊢
  cases spelling with
  | plain => exact .plain hsuits
  | quoted =>
    obtain ⟨hfeed, hquoted⟩ := hsuits
    simp only [canBeQuoted, Bool.and_eq_true, Bool.not_eq_true'] at hquoted
    have hprint : ∀ c ∈ s.toList, Printable c ∧ c ≠ '\n' := fun c hc =>
      ⟨isPrintable_iff.mp (List.all_eq_true.mp hquoted.1.1 c hc), fun h => hfeed (h ▸ hc)⟩
    have htext := singleQuoted_quotedLines m hprint hquoted.1.2 hquoted.2
    have hend : (if s.toList = [] then false else endsWithBreak s.toList) =
        endsWithBreak s.toList := by
      split
      next hempty => rw [hempty]; rfl
      next => rfl
    rw [← indented_doubled, hend] at htext
    simpa using Scalar.single htext
  | escaped => simpa using Scalar.double (doubleQuoted_flatMap s.toList)
  | literal =>
    obtain ⟨hfeed, hliteral⟩ := hsuits
    simp only [canBeLiteral, Bool.and_eq_true, Bool.not_eq_true'] at hliteral
    have hprint : ∀ c ∈ s.toList, Printable c := fun c hc =>
      isPrintable_iff.mp (List.all_eq_true.mp hliteral.1.1 c hc)
    simpa using Scalar.literal (marginMark_cases s.toList (List.ne_nil_of_mem hfeed))
      (chomps_endMark s.toList) (margined_indented m hprint true)

section Names

theorem hexDigit?_of_numberIn? {digits : List Char} {n : Nat}
    (h : Text.numberIn? 16 digits = some n) : ∀ d ∈ digits, Text.hexDigit? d ≠ none := by
  unfold Text.numberIn? at h
  generalize (0 : Nat) = before at h
  induction digits generalizing before with
  | nil => nofun
  | cons d rest ih =>
    rw [List.foldlM_cons] at h
    obtain ⟨next, hstep, hrest⟩ := Option.bind_eq_some_iff.mp h
    obtain ⟨value, hd, _⟩ := Option.bind_eq_some_iff.mp hstep
    exact List.forall_mem_cons.mpr ⟨by rw [hd]; nofun, ih next hrest⟩

theorem not_break_of_doubleQuoted {cs text : List Char} (h : DoubleQuoted cs text) :
    ∀ c ∈ text, ¬IsLineBreak c := by
  have hslash : ¬IsLineBreak '\\' := breaksLine_eq_false_iff.mp (by decide)
  induction h with
  | nil => nofun
  | char _ _ _ hc _ ih => exact List.forall_mem_cons.mpr ⟨hc, ih⟩
  | escape hletter _ ih =>
    have hall : escapeLetters.all (fun p => !breaksLine p.1) = true := by decide
    have hletter := breaksLine_eq_false_iff.mp
      (Bool.not_eq_true' _ ▸ List.all_eq_true.mp hall _ hletter)
    exact List.forall_mem_cons.mpr ⟨hslash, List.forall_mem_cons.mpr ⟨hletter, ih⟩⟩
  | @code mark c digits cs text hmark hdigits _ ih =>
    have hmarks : ∀ p ∈ [('x', 2), ('u', 4), ('U', 8)], breaksLine p.1 = false := by decide
    have hmark := breaksLine_eq_false_iff.mp (hmarks _ hmark)
    have hdigits : ∀ d ∈ digits, ¬IsLineBreak d := fun d hd hline => by
      refine hexDigit?_of_numberIn? hdigits d hd ?_
      rcases hline with rfl | rfl | rfl | rfl | rfl <;> decide
    simp only [List.forall_mem_cons, List.forall_mem_append]
    exact ⟨hslash, hmark, hdigits, ih⟩

theorem indented_eq_self (m : Nat) {cs : List Char} (h : ∀ c ∈ cs, ¬IsLineBreak c) :
    indented m false cs = cs := by
  induction cs with
  | nil => rfl
  | cons c rest ih =>
    obtain ⟨hc, hrest⟩ := List.forall_mem_cons.mp h
    simp [breaksLine_eq_false_iff.mpr hc, ih hrest]

/-- A name without lines is spelled on one line. -/
theorem not_break_scalarText (m : Nat) {s : String} (h : ∀ c ∈ s.toList, ¬IsLineBreak c) :
    ∀ c ∈ scalarText m s, ¬IsLineBreak c := by
  have hsuits := ofText_suits s
  have hsingle : ¬IsLineBreak '\x27' := breaksLine_eq_false_iff.mp (by decide)
  have hdouble : ¬IsLineBreak '"' := breaksLine_eq_false_iff.mp (by decide)
  unfold scalarText
  dsimp only
  generalize Spelling.ofText s = spelling at hsuits ⊢
  cases spelling with
  | plain => exact h
  | quoted =>
    have hdoubled : ∀ c ∈ s.toList.flatMap fun c => if c == '\x27' then [c, c] else [c],
        ¬IsLineBreak c := fun c hc => by
      obtain ⟨d, hd, hcd⟩ := List.mem_flatMap.mp hc
      have hsame : c = d := by split at hcd <;> simpa using hcd
      exact hsame ▸ h d hd
    have hend : endsWithBreak s.toList = false := by
      rw [← Bool.not_eq_true, endsWithBreak_iff]
      rintro ⟨c, hc, hline⟩
      exact h c (List.mem_of_getLast? hc) hline
    rw [indented_eq_self m hdoubled, hend]
    simp only [List.forall_mem_cons, List.forall_mem_append, List.cons_append]
    exact ⟨hsingle, ⟨hdoubled, nofun⟩, hsingle, nofun⟩
  | escaped =>
    have htext := not_break_of_doubleQuoted (doubleQuoted_flatMap s.toList)
    simp only [List.forall_mem_cons, List.forall_mem_append, List.cons_append]
    exact ⟨hdouble, htext, hdouble, nofun⟩
  | literal => exact absurd (.inl rfl) (h '\n' hsuits.1)

end Names

namespace Layout

open Json (Floatless)

theorem nextLine_onNewLine (before after : List Char) (n : Nat) :
    NextLine n before after (onNewLine before n after) := by
  unfold onNewLine
  rw [List.append_assoc, List.append_assoc]
  split
  next hend => exact .broken (endsWithBreak_iff.mp hend)
  next hend =>
    refine .fresh fun c hc hline => hend (endsWithBreak_iff.mpr ⟨c, hc, hline⟩)

theorem endsWithBreak_append {before after : List Char} (h : after ≠ []) :
    endsWithBreak (before ++ after) = endsWithBreak after := by
  rw [endsWithBreak, endsWithBreak, List.getLast?_append_of_ne_nil _ h]

theorem onNewLine_assoc {first second third : List Char} (h : second ≠ []) (n : Nat) :
    onNewLine (onNewLine first n second) n third =
      onNewLine first n (onNewLine second n third) := by
  have hend : endsWithBreak (onNewLine first n second) = endsWithBreak second := by
    rw [onNewLine, endsWithBreak_append h]
  rw [onNewLine, hend]
  simp [onNewLine]

theorem stack_cons_cons {line next : List Char} (h : next ≠ []) (n : Nat)
    (rest : List (List Char)) :
    stack n (line :: next :: rest) = onNewLine line n (stack n (next :: rest)) := by
  -- lines are joined from the left, and the grammar takes the first one off
  simp only [stack, List.foldl_cons]
  induction rest generalizing next with
  | nil => rfl
  | cons last rest ih =>
    have hmore : onNewLine next n last ≠ [] := by simp [onNewLine, h]
    rw [List.foldl_cons, List.foldl_cons, onNewLine_assoc h, ih hmore]

/-- A value is spelled on its own and behind a name. -/
def Laid (j : Json) : Prop :=
  ∀ n, Spells (n + 2) j (block (n + 2) j) ∧ SpellsValue n j (named n j)

theorem laid_of_leaf {j : Json} (h : ∀ m, Leaf m j (leafText m j))
    (hblock : ∀ n, block n j = leafText n j)
    (hnamed : ∀ n, named n j = ' ' :: leafText (n + 2) j) : Laid j := by
  intro n
  rw [hblock, hnamed]
  exact ⟨.leaf (h (n + 2)), .leaf (h (n + 2))⟩

theorem spellsItems_stack (n : Nat) {item : Json} {items : List Json}
    (h : ∀ j ∈ item :: items, Laid j) :
    SpellsItems n (item :: items) (stack n (itemLines n (item :: items))) := by
  induction items generalizing item with
  | nil => exact .last (h item (by simp) n).1
  | cons next rest ih =>
    obtain ⟨hitem, hrest⟩ := List.forall_mem_cons.mp h
    rw [itemLines, itemLines, stack_cons_cons (List.cons_ne_nil _ _), ← itemLines]
    exact .cons (hitem n).1 (ih hrest) (nextLine_onNewLine _ _ n)

theorem spellsEntry_line (n : Nat) (name : String) {item : Json} (h : Laid item) :
    ∃ line, line ≠ [] ∧ SpellsEntry n (name, item) line ∧
      ∀ rest, entryLines n ((name, item) :: rest) = line :: entryLines n rest := by
  refine ⟨_, ?_, ?_, fun rest => by rw [entryLines]⟩
  · split <;> simp [onNewLine]
  · split
    next hname =>
      have hline : ∀ c ∈ name.toList, ¬IsLineBreak c := fun c hc hbreak => by
        simp only [isSimpleName, Bool.and_eq_true, Bool.not_eq_true'] at hname
        exact absurd (breaksLine_iff.mpr hbreak) (List.any_eq_false.mp hname.1 c hc)
      exact .named (scalar_scalarText n name) (not_break_scalarText n hline) (h n).2
    next => exact .asked (scalar_scalarText _ name) (h n).1 (nextLine_onNewLine _ _ n)

theorem spellsEntries_stack (n : Nat) {entry : String × Json} {entries : List (String × Json)}
    (h : ∀ entry' ∈ entry :: entries, Laid entry'.2) :
    SpellsEntries n (entry :: entries) (stack n (entryLines n (entry :: entries))) := by
  induction entries generalizing entry with
  | nil =>
    obtain ⟨line, _, hline, htext⟩ := spellsEntry_line n entry.1 (h entry (by simp))
    rw [htext []]
    exact .last hline
  | cons next rest ih =>
    obtain ⟨hentry, hrest⟩ := List.forall_mem_cons.mp h
    obtain ⟨line, _, hline, htext⟩ := spellsEntry_line n entry.1 hentry
    obtain ⟨line', hne, _, htext'⟩ := spellsEntry_line n next.1 (hrest next (by simp))
    have hmore := ih hrest
    rw [htext, htext' rest, stack_cons_cons hne, ← htext' rest]
    exact .cons hline hmore (nextLine_onNewLine _ _ n)

theorem onNewLine_nil (n : Nat) (text : List Char) :
    onNewLine [] n text = '\n' :: (List.replicate n ' ' ++ text) := rfl

theorem laid_of_floatless {j : Json} (h : j.Floatless) : Laid j := by
  induction h with
  | null => exact laid_of_leaf (fun _ => .null) (fun _ => rfl) fun _ => rfl
  | bool b =>
    cases b with
    | false => exact laid_of_leaf (fun _ => .false) (fun _ => rfl) fun _ => rfl
    | true => exact laid_of_leaf (fun _ => .true) (fun _ => rfl) fun _ => rfl
  | integer m => exact laid_of_leaf (fun _ => .integer) (fun _ => rfl) fun _ => rfl
  | string s =>
    exact laid_of_leaf (fun m => .string (scalar_scalarText m s)) (fun _ => rfl) fun _ => rfl
  | @array items _ ih =>
    cases items with
    | nil => exact laid_of_leaf (fun _ => .noItems) (fun _ => rfl) fun _ => rfl
    | cons item rest =>
      intro n
      rw [block, named, onNewLine_nil]
      exact ⟨.list (spellsItems_stack (n + 2) ih), .list (spellsItems_stack n ih)⟩
  | @object entries _ ih =>
    cases entries with
    | nil => exact laid_of_leaf (fun _ => .noEntries) (fun _ => rfl) fun _ => rfl
    | cons entry rest =>
      intro n
      have hentries := spellsEntries_stack (n + 2) ih
      rw [block, named, onNewLine_nil]
      exact ⟨.mapping hentries, .mapping hentries⟩

/-- The block of a mapping is a text of it. -/
theorem isTextOf_block {entry : String × Json} {rest : List (String × Json)}
    (h : (Json.object (entry :: rest)).Floatless) :
    IsTextOf (String.ofList (block 0 (.object (entry :: rest)))) (.object (entry :: rest)) := by
  cases h with
  | object hentries =>
    rw [IsTextOf, String.toList_ofList, block]
    exact .mapping (spellsEntries_stack 0 fun entry' hmem =>
      laid_of_floatless (hentries entry' hmem))

end Layout

end SettingsCheck.Yaml
