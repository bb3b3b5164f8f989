import SettingsCheck.Redaction
import Mathlib.Data.List.Infix

namespace SettingsCheck.Redaction

namespace Pattern

variable {p : Pattern} {name s : List Char} {c : Char}

theorem prefix_of_cutWord {word : List Char} {found : List Char × List Char}
    (hc : plainLetter c ∉ word) (h : cutWord word (name ++ c :: s) = some found) :
    word <+: name.map plainLetter := by
  induction name generalizing word found with
  | nil =>
    cases word with
    | nil => exact List.nil_prefix
    | cons w word =>
      simp only [List.nil_append, cutWord] at h
      split at h
      next hw => exact absurd (beq_iff_eq.mp hw ▸ List.mem_cons_self) hc
      next => cases h
  | cons d name ih =>
    cases word with
    | nil => exact List.nil_prefix
    | cons w word =>
      simp only [List.cons_append, cutWord] at h
      split at h
      next hw =>
        obtain ⟨_, hcut, _⟩ := Option.map_eq_some_iff.mp h
        have hrest := ih (fun hm => hc (List.mem_cons_of_mem _ hm)) hcut
        rw [List.map_cons, beq_iff_eq.mp hw]
        exact List.cons_prefix_cons.mpr ⟨rfl, hrest⟩
      next => cases h

theorem cut?_eq_none (hc : ∀ word ∈ p.keywords, plainLetter c ∉ word)
    (hno : ∀ word ∈ p.keywords, ¬word <:+: name.map plainLetter) (s : List Char) :
    p.cut? (name ++ c :: s) = none := by
  refine List.findSome?_eq_none_iff.mpr fun word hword => ?_
  cases hcut : cutWord word (name ++ c :: s) with
  | none => rfl
  | some found => exact absurd (prefix_of_cutWord (hc word hword) hcut).isInfix (hno word hword)

theorem mask_cons (h : p.cut? (c :: s) = none) : p.mask (c :: s) = c :: p.mask s := by
  rw [mask]
  split
  next hsome => cases h.symm.trans hsome
  next => rfl

/-- A text without keywords stays as it is, up to a character that is in none of them. -/
theorem mask_append (hc : ∀ word ∈ p.keywords, plainLetter c ∉ word)
    (hno : ∀ word ∈ p.keywords, ¬word <:+: name.map plainLetter) (s : List Char) :
    p.mask (name ++ c :: s) = name ++ c :: p.mask s := by
  have hcut := cut?_eq_none hc hno s
  induction name with
  | nil => exact mask_cons hcut
  | cons d name ih =>
    have hrest : ∀ word ∈ p.keywords, ¬word <:+: name.map plainLetter := fun word hword h =>
      hno word hword (List.infix_cons h)
    have hmask : p.mask (d :: (name ++ c :: s)) = d :: p.mask (name ++ c :: s) := mask_cons hcut
    rw [List.cons_append, hmask, ih hrest (cut?_eq_none hc hrest s), List.cons_append]

/-- Where anything is masked, there are asterisks. -/
theorem mask_eq_self_or (p : Pattern) (s : List Char) :
    p.mask s = s ∨ "***".toList <:+: p.mask s := by
  fun_induction p.mask s with
  | case1 s written rest _ _ _ =>
    right
    exact ⟨written ++ ['='], p.mask rest, by simp⟩
  | case2 => exact .inl rfl
  | case3 c s _ ih => exact ih.imp (congrArg (c :: ·)) List.infix_cons

end Pattern

def patterns : List Pattern := [apiKeys, tokens, passwords]

/-- The word stands somewhere in the name, as masking reads letters. -/
def Holds (name : String) (word : List Char) : Prop := word <:+: name.toList.map plainLetter

theorem keywords_without_separators : ∀ p ∈ patterns, ∀ word ∈ p.keywords,
    word ≠ [] ∧ plainLetter ':' ∉ word ∧ plainLetter ' ' ∉ word := by
  decide

theorem maskText_eq_self_or (s : String) :
    maskText s = s ∨ "***".toList <:+: (maskText s).toList := by
  have hlist : (maskText s).toList = passwords.mask (tokens.mask (apiKeys.mask s.toList)) :=
    String.toList_ofList
  rw [hlist, ← String.toList_inj, hlist]
  rcases passwords.mask_eq_self_or (tokens.mask (apiKeys.mask s.toList)) with hp | hp
  · rw [hp]
    rcases tokens.mask_eq_self_or (apiKeys.mask s.toList) with ht | ht
    · rw [ht]
      rcases apiKeys.mask_eq_self_or s.toList with ha | ha
      · rw [ha]
        exact .inl rfl
      · exact .inr ha
    · exact .inr ht
  · exact .inr hp

theorem Pattern.mask_line {p : Pattern} (hp : p ∈ patterns) {name : String}
    (hno : ∀ word ∈ p.keywords, ¬Holds name word) (s : List Char) :
    p.mask (name.toList ++ ':' :: ' ' :: s) = name.toList ++ ':' :: ' ' :: p.mask s := by
  have hkeywords := keywords_without_separators p hp
  have hblank : p.mask ([] ++ ' ' :: s) = [] ++ ' ' :: p.mask s := by
    refine mask_append (fun word hword => (hkeywords word hword).2.2) ?_ s
    exact fun word hword h => (hkeywords word hword).1 (List.infix_nil.mp h)
  rw [mask_append (fun word hword => (hkeywords word hword).2.1) hno]
  exact congrArg (name.toList ++ ':' :: ·) hblank

/-- A name without keywords stays as it is in front of a value, which is masked by itself. -/
theorem maskText_line {name : String}
    (hno : ∀ p ∈ patterns, ∀ word ∈ p.keywords, ¬Holds name word) (value : String) :
    maskText (name ++ ": " ++ value) = name ++ ": " ++ maskText value := by
  have hline (s : List Char) : String.ofList (name.toList ++ ':' :: ' ' :: s) =
      name ++ ": " ++ String.ofList s := by
    rw [← String.toList_inj]
    simp
  have hvalue : (name ++ ": " ++ value).toList = name.toList ++ ':' :: ' ' :: value.toList := by
    simp
  have hmask := fun p hp => Pattern.mask_line hp (hno p hp)
  rw [maskText, hvalue, hmask apiKeys (by simp [patterns]), hmask tokens (by simp [patterns]),
    hmask passwords (by simp [patterns]), hline, maskText]

/-- Which keywords the check of names lacks: these two, and any that is spelled with a long s. -/
def Unlisted (name : String) (word : List Char) : Prop :=
  word = "pwd".toList ∨ word = "bearer".toList ∨ '\u017F' ∈ name.toList

/-- A word in a name is also in its lower case, if neither holds a letter that only one of the two
knows. -/
theorem Holds.infix_lowerForWords {name : String} {word : List Char} (h : Holds name word)
    (hs : '\u017F' ∉ name.toList) (hi : '\u0130' ∉ word) :
    word <:+: (Text.lowerForWords name).toList := by
  obtain ⟨before, after, heq⟩ := h
  obtain ⟨start, rest, hname, hstart, _⟩ := List.map_eq_append_iff.mp heq.symm
  obtain ⟨front, written, rfl, _, hwritten⟩ := List.map_eq_append_iff.mp hstart
  have hletters : ∀ c ∈ written, (if c.toNat == 0x212A then ['k']
      else if c.toNat == 0x130 then ['i', '\u0307'] else [c.toLower]) = [plainLetter c] := by
    intro c hc
    have hlong : c ≠ '\u017F' := by
      rintro rfl
      exact hs (hname ▸ List.mem_append_left _ (List.mem_append_right _ hc))
    have hdot : c ≠ '\u0130' := by
      rintro rfl
      exact hi (hwritten ▸ List.mem_map_of_mem (f := plainLetter) hc)
    have hkelvin : c.toNat = 0x212A ↔ c = '\u212A' := Char.toNat_inj (d := '\u212A')
    have hdotted : c.toNat ≠ 0x130 := fun heq => hdot (Char.toNat_inj.mp heq)
    simp only [plainLetter, beq_iff_eq, hkelvin, hdotted, hlong, if_false]
    split <;> rfl
  rw [Text.lowerForWords, String.toList_ofList, hname, List.flatMap_append, List.flatMap_append,
    List.flatMap_congr hletters, ← List.map_eq_flatMap, hwritten]
  exact ⟨_, _, rfl⟩

theorem isSensitiveName_of_holds {name : String} {p : Pattern} (hp : p ∈ patterns)
    {word : List Char} (hword : word ∈ p.keywords) (hholds : Holds name word)
    (hlisted : ¬Unlisted name word) : isSensitiveName name = true := by
  obtain ⟨hpwd, hbearer, hs⟩ : word ≠ "pwd".toList ∧ word ≠ "bearer".toList ∧
      '\u017F' ∉ name.toList := by simpa [Unlisted] using hlisted
  have hmarked : ∀ p ∈ patterns, ∀ word ∈ p.keywords, '\u0130' ∉ word ∧
      (word = "pwd".toList ∨ word = "bearer".toList ∨
        ∃ marker ∈ ["key", "token", "password", "passwd"], marker.toList <:+: word) := by
    decide
  obtain ⟨hi, hmarker⟩ := hmarked p hp word hword
  obtain ⟨marker, hmem, hmarker⟩ := (hmarker.resolve_left hpwd).resolve_left hbearer
  have hlower : Text.holds (Text.lowerForWords name) marker = true :=
    Text.holds_iff.mpr (hmarker.trans (hholds.infix_lowerForWords hs hi))
  exact List.any_eq_true.mpr ⟨marker, List.mem_append_left _ hmem, hlower⟩

/-- A value that is hidden in a line behind its name is hidden in a tree under that name, unless a
keyword stands in the name that the check of names lacks. -/
theorem hidden_under_name (name value : String)
    (hline : Text.holds (maskText (name ++ ": " ++ value)) value = false) :
    (∃ shown, maskTree (.object [(name, .string value)]) = .object [(name, .string shown)] ∧
      Text.holds shown value = false) ∨
    isSensitiveName name = false ∧
      ∃ p ∈ patterns, ∃ word ∈ p.keywords, Holds name word ∧ Unlisted name word := by
  cases hname : isSensitiveName name with
  | true =>
    refine .inl ⟨"***", by simp [maskTree, maskEntries, hname, isNull], ?_⟩
    refine Bool.eq_false_iff.mpr fun hstars => ?_
    have hvalue : value.toList <:+: "***".toList := Text.holds_iff.mp hstars
    refine Bool.eq_false_iff.mp hline (Text.holds_iff.mpr ?_)
    -- either the line stays, with the value in it, or it has asterisks
    rcases maskText_eq_self_or (name ++ ": " ++ value) with heq | hmasked
    · rw [heq, String.toList_append]
      exact (List.suffix_append _ _).isInfix
    · exact hvalue.trans hmasked
  | false =>
    by_cases hheld : ∃ p ∈ patterns, ∃ word ∈ p.keywords, Holds name word
    · obtain ⟨p, hp, word, hword, hholds⟩ := hheld
      refine .inr ⟨rfl, p, hp, word, hword, hholds, ?_⟩
      refine Classical.byContradiction fun hlisted => ?_
      rw [isSensitiveName_of_holds hp hword hholds hlisted] at hname
      cases hname
    · have hno : ∀ p ∈ patterns, ∀ word ∈ p.keywords, ¬Holds name word :=
        fun p hp word hword hholds => hheld ⟨p, hp, word, hword, hholds⟩
      refine .inl ⟨maskText value, by simp [maskTree, maskEntries, maskLeaf, hname], ?_⟩
      refine Bool.eq_false_iff.mpr fun hshown => ?_
      rw [maskText_line hno] at hline
      refine Bool.eq_false_iff.mp hline (Text.holds_iff.mpr ?_)
      rw [String.toList_append]
      exact (Text.holds_iff.mp hshown).trans (List.suffix_append _ _).isInfix

theorem key_hidden :
    Text.holds (maskText ("api_key" ++ ": " ++ "abcdefghij")) "abcdefghij" = false ∧
    isSensitiveName "api_key" = true ∧
    ∃ shown, maskTree (.object [("api_key", .string "abcdefghij")]) =
      .object [("api_key", .string shown)] ∧ Text.holds shown "abcdefghij" = false := by
  have hline : Text.holds (maskText ("api_key" ++ ": " ++ "abcdefghij")) "abcdefghij" = false := by
    decide +kernel
  have hname : isSensitiveName "api_key" = true := by decide
  refine ⟨hline, hname, (hidden_under_name "api_key" "abcdefghij" hline).resolve_right ?_⟩
  rw [hname]
  exact fun h => nomatch h.1

/-- The check of names does not know the keyword `pwd`: a password that is hidden in a line is shown
in a tree. -/
theorem pwd_shown_in_tree :
    ¬∀ name value : String, value ≠ "" →
      Text.holds (maskText (name ++ ": " ++ value)) value = false →
      ∃ shown, maskTree (.object [(name, .string value)]) = .object [(name, .string shown)] ∧
        Text.holds shown value = false := by
  intro h
  obtain ⟨shown, htree, hshown⟩ := h "pwd" "hunter2" (by decide) (by decide +kernel)
  have hname : isSensitiveName "pwd" = false := by decide
  have hvalue : maskText "hunter2" = "hunter2" := by decide +kernel
  simp only [maskTree, maskEntries, maskLeaf, hname, hvalue, Bool.false_and, Bool.false_eq_true,
    if_false, Json.object.injEq, List.cons.injEq, Prod.mk.injEq, Json.string.injEq, true_and,
    and_true] at htree
  rw [← htree] at hshown
  exact absurd hshown (by decide)

end SettingsCheck.Redaction
