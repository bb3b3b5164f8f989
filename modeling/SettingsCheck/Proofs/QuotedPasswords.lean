import SettingsCheck.Proofs.Assignments

/-!
Passwords in quotes. The patterns for keys and tokens leave the name, the separators and the opening
quote alone, and the pattern for passwords ends a secret at the first blank. So the value is masked
whole just if the first two patterns leave no blank in it.
-/

namespace SettingsCheck.Redaction

open Text (isBlank)

namespace Pattern

variable {p : Pattern} {name seps s w : List Char} {c q : Char}

theorem mask_signs (hp : p ∈ patterns) (hs : ∀ c ∈ seps, isSign c = true) (s : List Char) :
    p.mask (seps ++ s) = seps ++ p.mask s := by
  induction seps with
  | nil => rfl
  | cons c seps ih =>
    obtain ⟨hc, hseps⟩ := List.forall_mem_cons.mp hs
    have hmask : p.mask (c :: (seps ++ s)) = c :: p.mask (seps ++ s) :=
      mask_cons (cut?_of_isSign hp hc _)
    rw [List.cons_append, hmask, ih hseps, List.cons_append]

/-- A name without keywords stays as it is in front of separators and a quote, with them. -/
theorem mask_opening (hp : p ∈ patterns)
    (hno : ∀ word ∈ p.keywords, ¬word <:+: name.map plainLetter) (hne : seps ≠ [])
    (hseps : ∀ c ∈ seps, isSeparator c = true) (hq : isQuote q = true)
    (s : List Char) : p.mask (name ++ (seps ++ q :: s)) = name ++ (seps ++ q :: p.mask s) := by
  obtain ⟨c, seps, rfl⟩ := List.exists_cons_of_ne_nil hne
  obtain ⟨hc, hseps⟩ := List.forall_mem_cons.mp hseps
  have hsigns : ∀ c ∈ seps ++ [q], isSign c = true :=
    isSign_of_mem_opening hseps (List.forall_mem_singleton.mpr hq)
  have hrest := mask_signs hp hsigns s
  simp only [List.append_assoc, List.singleton_append] at hrest
  have hsign := plainLetter_not_mem hp (isSign_of_isSeparator hc)
  rw [List.cons_append, mask_append hsign hno, hrest, List.cons_append]

theorem mem_of_mem_mask (h : c ∈ p.mask s) : c ∈ s ∨ c = '=' ∨ c = '*' := by
  fun_induction p.mask s with
  | case1 s written rest hcut _ ih =>
    rw [List.append_assoc, List.mem_append, List.mem_append] at h
    rcases h with h | h | h
    · obtain ⟨tail, rfl, _, _⟩ := cut?_eq_some hcut
      exact .inl (List.mem_append_left _ h)
    · have hmask : c = '=' ∨ c = '*' := by simpa using h
      exact .inr hmask
    · exact (ih h).imp_left fun hc => (suffix_of_cut? hcut).subset hc
  | case2 => cases h
  | case3 d s _ ih =>
    rcases List.mem_cons.mp h with rfl | h
    · exact .inl List.mem_cons_self
    · exact (ih h).imp_left (List.mem_cons_of_mem d)

theorem mask_eq_nil_iff : p.mask s = [] ↔ s = [] := by
  constructor
  · intro h
    rw [mask] at h
    split at h
    next => simp at h
    next =>
      cases s with
      | nil => rfl
      | cons c s => cases h
  · rintro rfl
    exact mask_nil p

theorem isQuote_of_mem_masked {written : List Char} (hp : p ∈ patterns)
    (hw : written.map plainLetter ∈ p.keywords) (h : c ∈ written ++ "=***".toList) :
    isQuote c = false := by
  rcases List.mem_append.mp h with h | h
  · have hsign := isSign_of_mem_written hp hw h
    cases hquote : isQuote c with
    | false => rfl
    | true =>
      rw [isSign_of_isQuote hquote] at hsign
      cases hsign
  · have hmask : c = '=' ∨ c = '*' := by simpa using h
    rcases hmask with rfl | rfl <;> rfl

end Pattern

/-- The text has no quote, or one at its end. -/
def QuoteAtEnd (s : List Char) : Prop :=
  ∃ text close, s = text ++ close ∧ (∀ c ∈ text, isQuote c = false) ∧ Pattern.OneQuoteAtMost close

namespace QuoteAtEnd

variable {p : Pattern} {s : List Char}

theorem suffix {t : List Char} (h : QuoteAtEnd s) (ht : t <:+ s) : QuoteAtEnd t := by
  obtain ⟨text, close, rfl, htext, hclose⟩ := h
  obtain ⟨front, heq⟩ := ht
  rcases List.append_eq_append_iff.mp heq with ⟨rest, rfl, rfl⟩ | ⟨rest, rfl, rfl⟩
  · exact ⟨rest, close, rfl, fun c hc => htext c (List.mem_append_right _ hc), hclose⟩
  · refine ⟨[], t, rfl, List.forall_mem_nil _, ?_, ?_⟩
    · have hshort := hclose.1
      rw [List.length_append] at hshort
      omega
    · exact fun c hc => hclose.2 c (List.mem_append_right _ hc)

theorem prepend {front : List Char} (h : QuoteAtEnd s) (hfront : ∀ c ∈ front, isQuote c = false) :
    QuoteAtEnd (front ++ s) := by
  obtain ⟨text, close, rfl, htext, hclose⟩ := h
  refine ⟨front ++ text, close, (List.append_assoc _ _ _).symm, fun c hc => ?_, hclose⟩
  exact (List.mem_append.mp hc).elim (hfront c) (htext c)

theorem mask (hp : p ∈ patterns) (h : QuoteAtEnd s) : QuoteAtEnd (p.mask s) := by
  fun_induction p.mask s with
  | case1 s written rest hcut _ ih =>
    obtain ⟨tail, _, hw, _⟩ := Pattern.cut?_eq_some hcut
    have hrest : QuoteAtEnd (p.mask rest) := ih (h.suffix (Pattern.suffix_of_cut? hcut))
    exact hrest.prepend fun c hc => Pattern.isQuote_of_mem_masked hp hw hc
  | case2 => exact h
  | case3 c s _ ih =>
    have hrest : QuoteAtEnd (p.mask s) := ih (h.suffix (List.suffix_cons c s))
    obtain ⟨text, close, heq, htext, hclose⟩ := h
    cases text with
    | nil =>
      -- the first character may be the quote, and then it is the last one too
      rw [List.nil_append] at heq
      subst heq
      have hshort := hclose.1
      rw [List.length_cons] at hshort
      have hnil : s = [] := List.length_eq_zero_iff.mp (by omega)
      subst hnil
      rw [Pattern.mask_nil]
      exact ⟨[], [c], rfl, List.forall_mem_nil _, hclose⟩
    | cons d text =>
      obtain ⟨rfl, _⟩ := List.cons.inj heq
      have hc : ∀ e ∈ [c], isQuote e = false := by
        intro e he
        rw [List.mem_singleton.mp he]
        exact htext c List.mem_cons_self
      exact hrest.prepend hc

end QuoteAtEnd

/-- What the patterns for keys and tokens leave of a text. -/
def maskKeys (s : List Char) : List Char := tokens.mask (apiKeys.mask s)

theorem maskKeys_eq_self_or (s : List Char) :
    maskKeys s = s ∨ "***".toList <:+: maskKeys s := by
  rcases tokens.mask_eq_self_or (apiKeys.mask s) with ht | ht
  · rw [maskKeys, ht]
    exact apiKeys.mask_eq_self_or s
  · exact .inr ht

theorem isBlank_of_mem_maskKeys {s : List Char} (h : ∀ c ∈ s, isBlank c = false) :
    ∀ c ∈ maskKeys s, isBlank c = false := by
  have hmask : ∀ p : Pattern, ∀ t : List Char, (∀ c ∈ t, isBlank c = false) →
      ∀ c ∈ p.mask t, isBlank c = false := by
    intro p t ht c hc
    rcases Pattern.mem_of_mem_mask hc with hc | rfl | rfl
    · exact ht c hc
    · rfl
    · rfl
  exact hmask tokens _ (hmask apiKeys _ h)

theorem keys_apart : ∀ p ∈ [apiKeys, tokens], ∀ word ∈ p.keywords, ∀ name ∈ passwords.keywords,
    ¬word <:+: name := by
  decide

theorem passwords_apart : ∀ word ∈ passwords.keywords, ∀ name ∈ passwords.keywords,
    ¬word <:+: name.tail := by
  decide

section Quoted

variable {name seps s : List Char} {q : Char}

theorem maskKeys_opening (hname : name.map plainLetter ∈ passwords.keywords) (hne : seps ≠ [])
    (hseps : ∀ c ∈ seps, isSeparator c = true) (hq : isQuote q = true) (s : List Char) :
    maskKeys (name ++ (seps ++ q :: s)) = name ++ (seps ++ q :: maskKeys s) := by
  have hkeys : ∀ word ∈ apiKeys.keywords, ¬word <:+: name.map plainLetter :=
    fun word hword => keys_apart apiKeys (by simp) word hword _ hname
  have htokens : ∀ word ∈ tokens.keywords, ¬word <:+: name.map plainLetter :=
    fun word hword => keys_apart tokens (by simp) word hword _ hname
  rw [maskKeys, Pattern.mask_opening mem_patterns.1 hkeys hne hseps hq,
    Pattern.mask_opening mem_patterns.2.1 htokens hne hseps hq, maskKeys]

/-- The secrets that are left in the value, as far as they go, and the quote that closes them. -/
theorem mask_quoted {text close : List Char} (hname : name.map plainLetter ∈ passwords.keywords)
    (hne : seps ≠ []) (hseps : ∀ c ∈ seps, isSeparator c = true) (hq : isQuote q = true)
    (htext : ∀ c ∈ text, passwords.isSecret c = true) (hlong : 3 ≤ text.length)
    (hclose : Pattern.OneQuoteAtMost close) :
    passwords.mask (name ++ (seps ++ q :: (text ++ close))) = name ++ "=***".toList := by
  have hend : ∀ c ∈ close.head?, passwords.isSecret c = false := by
    intro c hc
    have hquote := hclose.2 c (List.mem_of_mem_head? hc)
    simp [passwords, hquote]
  have hsecret : passwords.afterSecret? (text ++ close) = some [] := by
    rw [Pattern.afterSecret?_eq_some_iff, Text.takeWhile_upTo htext hend,
      Text.dropWhile_upTo htext hend]
    refine ⟨hlong, ?_⟩
    match close, hclose with
    | [], _ => rfl
    | [c], hclose => simp [Pattern.dropQuote, hclose.2 c List.mem_cons_self]
    | _ :: _ :: _, hclose =>
      have := hclose.1
      simp at this
  have hquoted : passwords.afterQuotedSecret? (q :: (text ++ close)) = some [] := by
    simp [Pattern.afterQuotedSecret?, hq, hsecret]
  have hassigned := Pattern.afterAssignment?_separators hne hseps
    (Pattern.afterAssignment?_eq_none (isSeparator_of_isQuote hq)) hquoted
  obtain ⟨c, seps, rfl⟩ := List.exists_cons_of_ne_nil hne
  have hc := isSign_of_isSeparator (hseps c List.mem_cons_self)
  have hcut := Pattern.cut?_written mem_patterns.2.2 hname hc (seps ++ q :: (text ++ close))
  rw [← List.cons_append, hassigned, Option.map_some] at hcut
  rw [Pattern.mask_of_cut? hcut, Pattern.mask_nil, List.append_nil]

/-- An assignment that goes to the end of the text has its blanks in front of the quote. -/
theorem isBlank_of_afterAssignment? (hq : isQuote q = true)
    (h : passwords.afterAssignment? (seps ++ q :: s) = some []) : ∀ c ∈ s, isBlank c = false := by
  intro b hb
  obtain ⟨taken, tail, heq, _, htaken, hquoted⟩ := Pattern.afterAssignment?_eq_some h
  obtain ⟨quote, tail, rfl, hquote, hsecret⟩ := Pattern.afterQuotedSecret?_eq_some hquoted
  obtain ⟨secret, close, rfl, hsecrets, _, hclose⟩ := Pattern.afterSecret?_eq_some hsecret
  -- the quote is no separator, so the separators that were taken stand in front of it
  have hbehind : b ∈ quote ++ (secret ++ (close ++ [])) := by
    rcases List.append_eq_append_iff.mp heq with ⟨front, rfl, hrest⟩ | ⟨front, rfl, hrest⟩
    · cases front with
      | nil =>
        rw [List.nil_append] at hrest
        rw [← hrest]
        exact List.mem_cons_of_mem q hb
      | cons d front =>
        obtain ⟨rfl, _⟩ := List.cons.inj hrest
        have hsep := htaken q (List.mem_append_right _ List.mem_cons_self)
        rw [isSeparator_of_isQuote hq] at hsep
        cases hsep
    · rw [hrest]
      exact List.mem_append_right _ (List.mem_cons_of_mem q hb)
  simp only [List.append_nil, List.mem_append] at hbehind
  rcases hbehind with hb | hb | hb
  · exact isBlank_of_isQuote (hquote.2 b hb)
  · have hinside := hsecrets b hb
    simp only [passwords, Bool.and_eq_true, Bool.not_eq_true'] at hinside
    exact hinside.1
  · exact isBlank_of_isQuote (hclose.2 b hb)

/-- If the whole line is masked, there was no blank behind the quote. -/
theorem isBlank_of_mask_quoted (hname : name.map plainLetter ∈ passwords.keywords) (hne : seps ≠ [])
    (hseps : ∀ c ∈ seps, isSeparator c = true) (hq : isQuote q = true)
    (h : passwords.mask (name ++ (seps ++ q :: s)) = name ++ "=***".toList) :
    ∀ c ∈ s, isBlank c = false := by
  have hp := mem_patterns.2.2
  cases hassigned : passwords.afterAssignment? (seps ++ q :: s) with
  | some rest =>
    obtain ⟨d, seps, rfl⟩ := List.exists_cons_of_ne_nil hne
    have hd := isSign_of_isSeparator (hseps d List.mem_cons_self)
    have hcut := Pattern.cut?_written hp hname hd (seps ++ q :: s)
    rw [← List.cons_append, hassigned, Option.map_some] at hcut
    rw [Pattern.mask_of_cut? hcut, List.append_right_eq_self, Pattern.mask_eq_nil_iff] at h
    subst h
    exact isBlank_of_afterAssignment? hq hassigned
  | none =>
    -- nothing is found at the name nor inside it, so the quote stays where it stands
    obtain ⟨n, name, rfl⟩ : ∃ n rest, name = n :: rest := by
      cases name with
      | nil => exact absurd hname (by decide)
      | cons n rest => exact ⟨n, rest, rfl⟩
    have hinside : ∀ word ∈ passwords.keywords, ¬word <:+: name.map plainLetter :=
      fun word hword => passwords_apart word hword _ hname
    have hrest := Pattern.mask_opening hp hinside hne hseps hq s
    have hkept : passwords.mask (n :: (name ++ (seps ++ q :: s))) =
        n :: (name ++ (seps ++ q :: passwords.mask s)) := by
      rw [← hrest]
      refine Pattern.mask_cons ?_
      obtain ⟨d, seps, rfl⟩ := List.exists_cons_of_ne_nil hne
      have hd := isSign_of_isSeparator (hseps d List.mem_cons_self)
      have hcut := Pattern.cut?_written hp hname hd (seps ++ q :: s)
      rwa [← List.cons_append, hassigned, Option.map_none] at hcut
    have hmem : q ∈ n :: name ++ "=***".toList := by
      rw [← h, List.cons_append, hkept]
      simp
    rw [Pattern.isQuote_of_mem_masked hp hname hmem] at hq
    cases hq

theorem three_le_length_text {value text close : List Char} (hlong : 3 ≤ value.length)
    (hclose : Pattern.OneQuoteAtMost close) (h : maskKeys (value ++ [q]) = text ++ close) :
    3 ≤ text.length := by
  rcases maskKeys_eq_self_or (value ++ [q]) with hself | hstars
  · have hlength := congrArg List.length (hself.symm.trans h)
    simp only [List.length_append, List.length_singleton] at hlength
    have hshort := hclose.1
    omega
  · rw [h] at hstars
    have hcount := hstars.sublist.count_le '*'
    have hnone : close.count '*' = 0 := List.count_eq_zero.mpr fun hmem => nomatch hclose.2 _ hmem
    have hthree : "***".toList.count '*' = 3 := rfl
    rw [List.count_append, hnone, hthree] at hcount
    have hle : text.count '*' ≤ text.length := List.count_le_length
    omega

end Quoted

/-- A password in quotes is masked with its quotes and all just if the patterns for keys and tokens
leave no blank in it. One without blanks is. -/
theorem quoted_password_masked_iff (name seps quote value : String)
    (hname : name.toList.map plainLetter ∈ passwords.keywords) (hne : seps ≠ "")
    (hseps : ∀ c ∈ seps.toList, isSeparator c = true) (hquote : quote = "\"" ∨ quote = "\x27")
    (hlong : 3 ≤ value.length) (hvalue : ∀ c ∈ value.toList, isQuote c = false) :
    let line := name ++ seps ++ quote ++ value ++ quote
    ((∀ c ∈ value.toList, isBlank c = false) → maskText line = name ++ "=***") ∧
    (maskText line = name ++ "=***" ↔
      ∀ c ∈ maskKeys (value ++ quote).toList, isBlank c = false) := by
  intro line
  obtain ⟨q, hq, hlist⟩ : ∃ q, isQuote q = true ∧ quote.toList = [q] := by
    rcases hquote with rfl | rfl
    · exact ⟨'"', rfl, rfl⟩
    · exact ⟨'\x27', rfl, rfl⟩
  have hnelist : seps.toList ≠ [] := by simpa using hne
  have hline : (maskText line).toList = passwords.mask
      (name.toList ++ (seps.toList ++ q :: maskKeys (value ++ quote).toList)) := by
    rw [toList_maskText, ← maskKeys_opening hname hnelist hseps hq, maskKeys]
    simp [line, hlist]
  have hclosing : QuoteAtEnd (value ++ quote).toList := by
    refine ⟨value.toList, [q], by rw [String.toList_append, hlist], hvalue, Nat.le_refl 1, ?_⟩
    simpa using hq
  obtain ⟨text, close, hleft, htext, hclose⟩ : QuoteAtEnd (maskKeys (value ++ quote).toList) :=
    (hclosing.mask mem_patterns.1).mask mem_patterns.2.1
  have henough : 3 ≤ text.length := by
    rw [String.toList_append, hlist] at hleft
    exact three_le_length_text (String.length_toList ▸ hlong) hclose hleft
  have hwhole : maskText line = name ++ "=***" ↔
      ∀ c ∈ maskKeys (value ++ quote).toList, isBlank c = false := by
    have hmasked : (name ++ "=***").toList = name.toList ++ "=***".toList := String.toList_append
    rw [← String.toList_inj, hline, hmasked]
    constructor
    · exact isBlank_of_mask_quoted hname hnelist hseps hq
    · intro hblank
      rw [hleft] at hblank ⊢
      refine mask_quoted hname hnelist hseps hq (fun c hc => ?_) henough hclose
      simp [passwords, hblank c (List.mem_append_left _ hc), htext c hc]
  refine ⟨fun hblank => hwhole.mpr (isBlank_of_mem_maskKeys fun c hc => ?_), hwhole⟩
  rw [String.toList_append, hlist, List.mem_append] at hc
  rcases hc with hc | hc
  · exact hblank c hc
  · rw [List.mem_singleton.mp hc]
    exact isBlank_of_isQuote hq

theorem quoted_hunter_masked :
    "PassWord".toList.map plainLetter ∈ passwords.keywords ∧ " : " ≠ "" ∧
    (∀ c ∈ " : ".toList, isSeparator c = true) ∧ 3 ≤ "hunter2".length ∧
    (∀ c ∈ "hunter2".toList, isQuote c = false) ∧
    maskText ("PassWord" ++ " : " ++ "\"" ++ "hunter2" ++ "\"") = "PassWord" ++ "=***" := by
  have hname : "PassWord".toList.map plainLetter ∈ passwords.keywords := by decide
  have hne : " : " ≠ "" := by decide
  have hseps : ∀ c ∈ " : ".toList, isSeparator c = true := List.all_eq_true.mp rfl
  have hlong : 3 ≤ "hunter2".length := by decide
  have hvalue : ∀ c ∈ "hunter2".toList, isQuote c = false := by simp [isQuote]
  have hblank : ∀ c ∈ "hunter2".toList, isBlank c = false := by simp [isBlank]
  exact ⟨hname, hne, hseps, hlong, hvalue,
    (quoted_password_masked_iff "PassWord" " : " "\"" "hunter2" hname hne hseps (.inl rfl) hlong
      hvalue).1 hblank⟩

/-- A secret ends at the first blank: what follows it in the quotes is left. -/
theorem passphrase_left_behind :
    ¬∀ name seps quote value : String, name.toList.map plainLetter ∈ passwords.keywords →
      seps ≠ "" → (∀ c ∈ seps.toList, isSeparator c = true) → (quote = "\"" ∨ quote = "\x27") →
      3 ≤ value.length → (∀ c ∈ value.toList, isQuote c = false) →
      maskText (name ++ seps ++ quote ++ value ++ quote) = name ++ "=***" := by
  intro h
  have hvalue : ∀ c ∈ "correct horse".toList, isQuote c = false := by simp [isQuote]
  have hmasked := h "password" "=" "\"" "correct horse" (by decide) (by decide)
    (List.all_eq_true.mp rfl) (.inl rfl) (by decide) hvalue
  have hleft : maskText ("password" ++ "=" ++ "\"" ++ "correct horse" ++ "\"") =
      "password=*** horse\"" := by
    decide +kernel
  rw [hleft] at hmasked
  exact absurd hmasked (by decide)

end SettingsCheck.Redaction
