import Mathlib.Data.List.Infix
import SettingsCheck.Proofs.MaskedTexts
import SettingsCheck.Proofs.Trimming

/-!
What a pattern cuts out of a text: a keyword, separators, and a secret with or without quotes around
it. A pattern finds something at the beginning of a text just if such an assignment stands there.
Behind a whole keyword the cut depends only on what follows it.
-/

namespace SettingsCheck.Redaction

/-- Separators, quotes and the asterisk. No keyword holds one. -/
def isSign (c : Char) : Bool := isSeparator c || isQuote c || c == '*'

variable {c : Char}

theorem isSign_of_isSeparator (h : isSeparator c = true) : isSign c = true := by
  simp [isSign, h]

theorem isSign_of_isQuote (h : isQuote c = true) : isSign c = true := by
  simp [isSign, h]

theorem isSign_of_mem_opening {seps quote : List Char} (hseps : ∀ c ∈ seps, isSeparator c = true)
    (hquote : ∀ c ∈ quote, isQuote c = true) : ∀ c ∈ seps ++ quote, isSign c = true := by
  intro c hc
  rcases List.mem_append.mp hc with hc | hc
  · exact isSign_of_isSeparator (hseps c hc)
  · exact isSign_of_isQuote (hquote c hc)

theorem plainLetter_of_isSign (h : isSign c = true) : plainLetter c = c := by
  simp only [isSign, isSeparator, isQuote, Bool.or_eq_true, beq_iff_eq] at h
  rcases h with (((rfl | rfl) | hblank) | rfl | rfl) | rfl
  · rfl
  · rfl
  · have hkelvin : c ≠ '\u212A' := by
      rintro rfl
      exact absurd hblank (by decide)
    have hlong : c ≠ '\u017F' := by
      rintro rfl
      exact absurd hblank (by decide)
    simp only [plainLetter, beq_iff_eq, hkelvin, hlong, if_false]
    exact Text.toLower_of_isBlank hblank
  · rfl
  · rfl
  · rfl

theorem keywords_without_signs : ∀ p ∈ patterns, ∀ word ∈ p.keywords,
    3 ≤ word.length ∧ ∀ c ∈ word, isSign c = false := by
  have hall : ∀ p ∈ patterns, ∀ word ∈ p.keywords, 3 ≤ word.length ∧ word.any isSign = false := by
    decide
  intro p hp word hword
  obtain ⟨hlong, hnone⟩ := hall p hp word hword
  exact ⟨hlong, by simpa using hnone⟩

theorem mem_patterns : apiKeys ∈ patterns ∧ tokens ∈ patterns ∧ passwords ∈ patterns := by
  simp [patterns]

theorem isBlank_of_isQuote (h : isQuote c = true) : Text.isBlank c = false := by
  simp only [isQuote, Bool.or_eq_true, beq_iff_eq] at h
  rcases h with rfl | rfl <;> rfl

theorem isSeparator_of_isQuote (h : isQuote c = true) : isSeparator c = false := by
  simp only [isQuote, Bool.or_eq_true, beq_iff_eq] at h
  rcases h with rfl | rfl <;> rfl

namespace Pattern

variable {p : Pattern} {written s rest : List Char}

theorem plainLetter_not_mem (hp : p ∈ patterns) (hc : isSign c = true) :
    ∀ word ∈ p.keywords, plainLetter c ∉ word := by
  intro word hword hmem
  have hno := (keywords_without_signs p hp word hword).2 _ hmem
  rw [plainLetter_of_isSign hc, hc] at hno
  cases hno

/-- A keyword is written without signs, in whatever case. -/
theorem isSign_of_mem_written (hp : p ∈ patterns) (hw : written.map plainLetter ∈ p.keywords)
    (hc : c ∈ written) : isSign c = false := by
  cases hsign : isSign c with
  | false => rfl
  | true => exact absurd (List.mem_map_of_mem hc) (plainLetter_not_mem hp hsign _ hw)

theorem length_written (hp : p ∈ patterns) (hw : written.map plainLetter ∈ p.keywords) :
    3 ≤ written.length := by
  have hlong := (keywords_without_signs p hp _ hw).1
  rwa [List.length_map] at hlong

/-- What may stand around a secret. -/
def OneQuoteAtMost (quote : List Char) : Prop :=
  quote.length ≤ 1 ∧ ∀ c ∈ quote, isQuote c = true

theorem exists_dropQuote (s : List Char) :
    ∃ quote, OneQuoteAtMost quote ∧ s = quote ++ dropQuote s := by
  cases s with
  | nil => exact ⟨[], ⟨Nat.zero_le 1, List.forall_mem_nil _⟩, rfl⟩
  | cons c s =>
    rw [dropQuote]
    split
    next hc => exact ⟨[c], ⟨Nat.le_refl 1, by simpa using hc⟩, rfl⟩
    next => exact ⟨[], ⟨Nat.zero_le 1, List.forall_mem_nil _⟩, rfl⟩

theorem cutWord_eq_some {word : List Char} (h : cutWord word s = some (written, rest)) :
    s = written ++ rest ∧ written.map plainLetter = word := by
  induction word generalizing s written with
  | nil =>
    cases h
    exact ⟨rfl, rfl⟩
  | cons w word ih =>
    cases s with
    | nil => cases h
    | cons c s =>
      simp only [cutWord] at h
      split at h
      next hw =>
        obtain ⟨found, hcut, heq⟩ := Option.map_eq_some_iff.mp h
        cases heq
        obtain ⟨hs, hword⟩ := ih hcut
        rw [List.map_cons, beq_iff_eq.mp hw, hword]
        exact ⟨congrArg (c :: ·) hs, rfl⟩
      next => cases h

theorem cutWord_append (written s : List Char) :
    cutWord (written.map plainLetter) (written ++ s) = some (written, s) := by
  induction written with
  | nil => rfl
  | cons c written ih => simp [cutWord, ih]

theorem afterSecret?_eq_some_iff : p.afterSecret? s = some rest ↔
    p.least ≤ (s.takeWhile p.isSecret).length ∧ dropQuote (s.dropWhile p.isSecret) = rest := by
  unfold afterSecret?
  split
  next hshort =>
    refine ⟨nofun, fun h => ?_⟩
    have := h.1
    omega
  next hlong =>
    have henough : p.least ≤ (s.takeWhile p.isSecret).length := by omega
    rw [Option.some.injEq]
    exact ⟨fun h => ⟨henough, h⟩, fun h => h.2⟩

theorem afterSecret?_eq_some (h : p.afterSecret? s = some rest) :
    ∃ secret quote, s = secret ++ (quote ++ rest) ∧ (∀ c ∈ secret, p.isSecret c = true) ∧
      p.least ≤ secret.length ∧ OneQuoteAtMost quote := by
  obtain ⟨hlong, hrest⟩ := afterSecret?_eq_some_iff.mp h
  obtain ⟨quote, hquote, hs⟩ := exists_dropQuote (s.dropWhile p.isSecret)
  rw [hrest] at hs
  refine ⟨s.takeWhile p.isSecret, quote, ?_, fun c hc => List.mem_takeWhile_imp hc, hlong, hquote⟩
  rw [← hs, List.takeWhile_append_dropWhile]

theorem afterQuotedSecret?_eq_some (h : p.afterQuotedSecret? s = some rest) :
    ∃ quote tail, s = quote ++ tail ∧ OneQuoteAtMost quote ∧ p.afterSecret? tail = some rest := by
  cases s with
  | nil => exact ⟨[], [], rfl, ⟨Nat.zero_le 1, List.forall_mem_nil _⟩, h⟩
  | cons c s =>
    simp only [afterQuotedSecret?] at h
    split at h
    next hc =>
      rcases Option.or_eq_some_iff.mp h with h | ⟨_, h⟩
      · exact ⟨[c], s, rfl, ⟨Nat.le_refl 1, by simpa using hc⟩, h⟩
      · exact ⟨[], c :: s, rfl, ⟨Nat.zero_le 1, List.forall_mem_nil _⟩, h⟩
    next => exact ⟨[], c :: s, rfl, ⟨Nat.zero_le 1, List.forall_mem_nil _⟩, h⟩

theorem afterAssignment?_eq_some (h : p.afterAssignment? s = some rest) :
    ∃ seps tail, s = seps ++ tail ∧ seps ≠ [] ∧ (∀ c ∈ seps, isSeparator c = true) ∧
      p.afterQuotedSecret? tail = some rest := by
  induction s with
  | nil => cases h
  | cons c s ih =>
    simp only [afterAssignment?] at h
    split at h
    next hc =>
      rcases Option.or_eq_some_iff.mp h with h | ⟨_, h⟩
      · obtain ⟨seps, tail, rfl, _, hseps, htail⟩ := ih h
        exact ⟨c :: seps, tail, rfl, List.cons_ne_nil _ _, List.forall_mem_cons.mpr ⟨hc, hseps⟩,
          htail⟩
      · exact ⟨[c], s, rfl, List.cons_ne_nil _ _, by simpa using hc, h⟩
    next => cases h

theorem cut?_eq_some (h : p.cut? s = some (written, rest)) :
    ∃ tail, s = written ++ tail ∧ written.map plainLetter ∈ p.keywords ∧
      p.afterAssignment? tail = some rest := by
  obtain ⟨word, hword, h⟩ := List.exists_of_findSome?_eq_some h
  obtain ⟨⟨start, tail⟩, hcut, h⟩ := Option.bind_eq_some_iff.mp h
  obtain ⟨after, hafter, heq⟩ := Option.map_eq_some_iff.mp h
  cases heq
  obtain ⟨hs, hwritten⟩ := cutWord_eq_some hcut
  exact ⟨tail, hs, hwritten ▸ hword, hafter⟩

/-- A keyword as it is written, separators, and a secret with a quote before it or without. -/
structure Assignment (p : Pattern) (written seps quote secret : List Char) : Prop where
  keyword : written.map plainLetter ∈ p.keywords
  separated : seps ≠ []
  separators : ∀ c ∈ seps, isSeparator c = true
  quoted : OneQuoteAtMost quote
  secrets : ∀ c ∈ secret, p.isSecret c = true
  enough : p.least ≤ secret.length

/-- What is cut out is an assignment and, where one stands there, a closing quote. -/
theorem exists_assignment (h : p.cut? s = some (written, rest)) :
    ∃ seps quote secret close, p.Assignment written seps quote secret ∧ OneQuoteAtMost close ∧
      s = written ++ (seps ++ (quote ++ (secret ++ (close ++ rest)))) := by
  obtain ⟨tail, rfl, hw, hassigned⟩ := cut?_eq_some h
  obtain ⟨seps, tail, rfl, hne, hseps, hquoted⟩ := afterAssignment?_eq_some hassigned
  obtain ⟨quote, tail, rfl, hquote, hsecret⟩ := afterQuotedSecret?_eq_some hquoted
  obtain ⟨secret, close, rfl, hsecrets, hlong, hclose⟩ := afterSecret?_eq_some hsecret
  exact ⟨seps, quote, secret, close, ⟨hw, hne, hseps, hquote, hsecrets, hlong⟩, hclose, rfl⟩

theorem suffix_of_cut? (h : p.cut? s = some (written, rest)) : rest <:+ s := by
  obtain ⟨seps, quote, secret, close, _, _, rfl⟩ := exists_assignment h
  exact ⟨written ++ (seps ++ (quote ++ (secret ++ close))), by simp⟩

theorem isSome_afterSecret? {secret : List Char} (hs : ∀ c ∈ secret, p.isSecret c = true)
    (hl : p.least ≤ secret.length) (rest : List Char) :
    (p.afterSecret? (secret ++ rest)).isSome = true := by
  have hlong : p.least ≤ ((secret ++ rest).takeWhile p.isSecret).length := by
    rw [List.takeWhile_append_of_pos hs, List.length_append]
    omega
  exact Option.isSome_iff_exists.mpr ⟨_, afterSecret?_eq_some_iff.mpr ⟨hlong, rfl⟩⟩

theorem isSome_afterQuotedSecret? {quote : List Char} (hq : OneQuoteAtMost quote)
    (h : (p.afterSecret? s).isSome = true) :
    (p.afterQuotedSecret? (quote ++ s)).isSome = true := by
  match quote, hq with
  | [], _ =>
    cases s with
    | nil => exact h
    | cons c s =>
      simp only [List.nil_append, afterQuotedSecret?]
      split
      · rw [Option.isSome_or, h, Bool.or_true]
      · exact h
  | [q], hq =>
    have hquote : isQuote q = true := hq.2 q List.mem_cons_self
    simp only [List.singleton_append, afterQuotedSecret?, hquote, if_true]
    rw [Option.isSome_or, h, Bool.true_or]
  | _ :: _ :: _, hq =>
    have := hq.1
    simp at this

theorem isSome_afterAssignment? {seps : List Char} (hne : seps ≠ [])
    (hseps : ∀ c ∈ seps, isSeparator c = true) (h : (p.afterQuotedSecret? s).isSome = true) :
    (p.afterAssignment? (seps ++ s)).isSome = true := by
  induction seps with
  | nil => exact absurd rfl hne
  | cons c seps ih =>
    obtain ⟨hc, hseps⟩ := List.forall_mem_cons.mp hseps
    simp only [List.cons_append, afterAssignment?, hc, if_true]
    cases seps with
    | nil => rw [Option.isSome_or, List.nil_append, h, Bool.or_true]
    | cons d seps => rw [Option.isSome_or, ih (List.cons_ne_nil _ _) hseps, Bool.true_or]

theorem isSome_cut? (hw : written.map plainLetter ∈ p.keywords)
    (h : (p.afterAssignment? s).isSome = true) : (p.cut? (written ++ s)).isSome = true := by
  obtain ⟨rest, hrest⟩ := Option.isSome_iff_exists.mp h
  rw [cut?, List.isSome_findSome?]
  refine List.any_eq_true.mpr ⟨_, hw, ?_⟩
  simp [cutWord_append, hrest]

/-- A pattern finds something just where an assignment begins. -/
theorem isSome_cut?_iff : (p.cut? s).isSome = true ↔
    ∃ written seps quote secret, p.Assignment written seps quote secret ∧
      written ++ (seps ++ (quote ++ secret)) <+: s := by
  constructor
  · intro h
    obtain ⟨⟨written, rest⟩, hcut⟩ := Option.isSome_iff_exists.mp h
    obtain ⟨seps, quote, secret, close, hassigned, _, rfl⟩ := exists_assignment hcut
    exact ⟨written, seps, quote, secret, hassigned, close ++ rest, by simp⟩
  · rintro ⟨written, seps, quote, secret, h, rest, rfl⟩
    have hsecret := isSome_afterSecret? h.secrets h.enough rest
    have hassigned := isSome_afterAssignment? h.separated h.separators
      (isSome_afterQuotedSecret? h.quoted hsecret)
    have hcut := isSome_cut? h.keyword hassigned
    simpa using hcut

theorem keywords_apart : ∀ p ∈ patterns, ∀ word ∈ p.keywords, ∀ other ∈ p.keywords,
    word <+: other → word = other := by
  decide

/-- A keyword with a sign behind it is cut at its own end. -/
theorem cut?_written (hp : p ∈ patterns) (hw : written.map plainLetter ∈ p.keywords)
    (hc : isSign c = true) (s : List Char) :
    p.cut? (written ++ c :: s) =
      (p.afterAssignment? (c :: s)).map fun rest => (written, rest) := by
  have hother : ∀ word ∈ p.keywords, word ≠ written.map plainLetter →
      cutWord word (written ++ c :: s) = none := by
    intro word hword hne
    cases hcut : cutWord word (written ++ c :: s) with
    | none => rfl
    | some found =>
      have hprefix := prefix_of_cutWord (plainLetter_not_mem hp hc word hword) hcut
      exact absurd (keywords_apart p hp word hword _ hw hprefix) hne
  cases hcut : p.cut? (written ++ c :: s) with
  | none =>
    cases hassigned : p.afterAssignment? (c :: s) with
    | none => rfl
    | some rest =>
      have hsome := isSome_cut? hw (Option.isSome_iff_exists.mpr ⟨rest, hassigned⟩)
      rw [hcut] at hsome
      cases hsome
  | some found =>
    obtain ⟨word, hword, h⟩ := List.exists_of_findSome?_eq_some hcut
    by_cases hsame : word = written.map plainLetter
    · rw [hsame, cutWord_append] at h
      exact h.symm
    · rw [hother word hword hsame] at h
      cases h

/-- As many separators are taken as stand there, if a secret stands behind them. -/
theorem afterAssignment?_separators {seps : List Char} (hne : seps ≠ [])
    (hseps : ∀ c ∈ seps, isSeparator c = true) (hno : p.afterAssignment? s = none)
    (h : p.afterQuotedSecret? s = some rest) : p.afterAssignment? (seps ++ s) = some rest := by
  induction seps with
  | nil => exact absurd rfl hne
  | cons c seps ih =>
    obtain ⟨hc, hseps⟩ := List.forall_mem_cons.mp hseps
    simp only [List.cons_append, afterAssignment?, hc, if_true]
    cases seps with
    | nil => rw [List.nil_append, hno, h, Option.none_or]
    | cons d seps => rw [ih (List.cons_ne_nil _ _) hseps, Option.some_or]

theorem afterAssignment?_eq_none (hc : isSeparator c = false) :
    p.afterAssignment? (c :: s) = none := by
  simp [afterAssignment?, hc]

theorem cut?_of_isSign (hp : p ∈ patterns) (hc : isSign c = true) (s : List Char) :
    p.cut? (c :: s) = none := by
  have hnone : ∀ word ∈ p.keywords, ¬word <:+: [].map plainLetter := by
    intro word hword h
    have hlong := (keywords_without_signs p hp word hword).1
    rw [List.map_nil, List.infix_nil] at h
    simp [h] at hlong
  exact cut?_eq_none (plainLetter_not_mem hp hc) hnone s

theorem mask_nil (p : Pattern) : p.mask [] = [] := by
  have hnone : p.cut? [] = none := by
    cases hcut : p.cut? [] with
    | none => rfl
    | some found => exact absurd (length_lt_of_cut? hcut) (Nat.not_lt_zero _)
  rw [mask]
  split
  next h => cases hnone.symm.trans h
  next => rfl

theorem mask_of_cut? (h : p.cut? s = some (written, rest)) :
    p.mask s = written ++ "=***".toList ++ p.mask rest := by
  rw [mask]
  split
  next hcut =>
    cases h.symm.trans hcut
    rfl
  next hcut => cases h.symm.trans hcut

end Pattern

theorem toList_maskText (s : String) :
    (maskText s).toList = passwords.mask (tokens.mask (apiKeys.mask s.toList)) :=
  String.toList_ofList

end SettingsCheck.Redaction
