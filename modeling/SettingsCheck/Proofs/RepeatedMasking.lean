import SettingsCheck.Proofs.Assignments

namespace SettingsCheck.Redaction

open Text (isBlank)

namespace Pattern

variable {p q : Pattern} {s x rest written : List Char}

/-- The pattern finds nothing anywhere in the text. -/
def Clears (p : Pattern) (s : List Char) : Prop := ∀ t, t <:+ s → p.cut? t = none

theorem Clears.suffix {t : List Char} (h : p.Clears s) (ht : t <:+ s) : p.Clears t :=
  fun _ hr => h _ (hr.trans ht)

theorem Clears.mask_eq (h : p.Clears s) : p.mask s = s := by
  induction s with
  | nil => exact mask_nil p
  | cons c s ih =>
    have hrest : p.Clears s := h.suffix (List.suffix_cons c s)
    rw [mask_cons (h _ List.suffix_rfl), ih hrest]

/-- Up to the keyword of the first mask the masked text is the text. -/
theorem mask_eq_self_or_begins (q : Pattern) (s : List Char) :
    q.mask s = s ∨ ∃ front written tail rest, s = front ++ written ++ tail ∧
      q.mask s = front ++ written ++ '=' :: '*' :: rest ∧
      written.map plainLetter ∈ q.keywords ∧ (q.afterAssignment? tail).isSome = true := by
  fun_induction q.mask s with
  | case1 s written rest hcut _ _ =>
    obtain ⟨tail, rfl, hw, hassigned⟩ := cut?_eq_some hcut
    refine .inr ⟨[], written, tail, "**".toList ++ q.mask rest, rfl, by simp, hw, ?_⟩
    exact Option.isSome_iff_exists.mpr ⟨rest, hassigned⟩
  | case2 => exact .inl rfl
  | case3 c s _ ih =>
    rcases ih with hself | ⟨front, written, tail, rest, hs, hmask, hw, hassigned⟩
    · exact .inl (congrArg (c :: ·) hself)
    · refine .inr ⟨c :: front, written, tail, rest, ?_, ?_, hw, hassigned⟩
      · rw [hs, List.cons_append, List.cons_append]
      · rw [hmask, List.cons_append, List.cons_append]

theorem mem_patterns_of_keys (hp : p ∈ [apiKeys, tokens]) : p ∈ patterns := by
  rcases List.mem_pair.mp hp with rfl | rfl
  · exact mem_patterns.1
  · exact mem_patterns.2.1

theorem signs_not_secret : ∀ p ∈ [apiKeys, tokens], 0 < p.least ∧
    p.isSecret '=' = false ∧ p.isSecret '*' = false := by
  decide

/-- A mask is part of nothing that the patterns for keys and tokens find. -/
theorem cut?_before_mask (hp : p ∈ [apiKeys, tokens]) {tail : List Char}
    (h : p.cut? (x ++ tail) = none) (rest : List Char) :
    p.cut? (x ++ '=' :: '*' :: rest) = none := by
  obtain ⟨hleast, hequals, hstar⟩ := signs_not_secret p hp
  refine Option.not_isSome_iff_eq_none.mp fun hsome => ?_
  obtain ⟨written, seps, quote, secret, ha, hprefix⟩ := isSome_cut?_iff.mp hsome
  have hno : '*' ∉ written ++ (seps ++ (quote ++ secret)) := by
    simp only [List.mem_append]
    rintro (hmem | hmem | hmem | hmem)
    · exact absurd (isSign_of_mem_written (mem_patterns_of_keys hp) ha.keyword hmem) (by decide)
    · exact absurd (ha.separators _ hmem) (by decide)
    · exact absurd (ha.quoted.2 _ hmem) (by decide)
    · rw [ha.secrets _ hmem] at hstar
      cases hstar
  have hinside : written ++ (seps ++ (quote ++ secret)) <+: x := by
    obtain ⟨after, heq⟩ := hprefix
    rcases List.append_eq_append_iff.mp heq with ⟨more, hx, _⟩ | ⟨more, hhead, hmask⟩
    · exact ⟨more, hx.symm⟩
    · -- the assignment ends with a secret, so not with the sign of the mask, nor behind it
      match more, hmask with
      | [], _ => exact ⟨[], by simpa using hhead⟩
      | [d], hmask =>
        have hsome : secret ≠ [] := by
          have henough := ha.enough
          exact List.ne_nil_of_length_pos (by omega)
        obtain ⟨init, last, rfl⟩ := (List.eq_nil_or_concat' secret).resolve_left hsome
        have hd : d = '=' := (List.cons.inj hmask).1.symm
        have hlast : last = d := by
          rw [← List.append_assoc, ← List.append_assoc, ← List.append_assoc] at hhead
          exact List.singleton_inj.mp (List.append_inj' hhead rfl).2
        have hsecret := ha.secrets last (List.mem_append_right _ (List.mem_singleton.mpr rfl))
        rw [hlast, hd, hequals] at hsecret
        cases hsecret
      | d :: e :: more, hmask =>
        have he : e = '*' := (List.cons.inj (List.cons.inj hmask).2).1.symm
        refine absurd ?_ hno
        rw [hhead, he]
        simp
  have hbegins := hinside.trans (List.prefix_append x tail)
  have hfound : (p.cut? (x ++ tail)).isSome = true :=
    isSome_cut?_iff.mpr ⟨written, seps, quote, secret, ha, hbegins⟩
  rw [h] at hfound
  cases hfound

/-- What the patterns for keys and tokens do not find is not brought about by any mask. -/
theorem cut?_mask (hp : p ∈ [apiKeys, tokens]) (q : Pattern) (h : p.cut? s = none) :
    p.cut? (q.mask s) = none := by
  rcases mask_eq_self_or_begins q s with hself | ⟨front, written, tail, rest, hs, hmask, _, _⟩
  · rw [hself, h]
  · rw [hs] at h
    rw [hmask]
    exact cut?_before_mask hp h rest

theorem cut?_of_no_separator (h : ∀ c ∈ s, isSeparator c = false) : p.cut? s = none := by
  cases hcut : p.cut? s with
  | none => rfl
  | some found =>
    obtain ⟨seps, quote, secret, close, ha, _, hs⟩ := exists_assignment hcut
    obtain ⟨c, seps, rfl⟩ := List.exists_cons_of_ne_nil ha.separated
    have hsep := ha.separators c List.mem_cons_self
    rw [h c (by rw [hs]; simp)] at hsep
    cases hsep

theorem Clears.signs {signs : List Char} (hp : p ∈ patterns) (hsigns : ∀ c ∈ signs, isSign c = true)
    (h : p.Clears s) : p.Clears (signs ++ s) := by
  induction signs with
  | nil => exact h
  | cons c signs ih =>
    obtain ⟨hc, hsigns⟩ := List.forall_mem_cons.mp hsigns
    intro t ht
    rcases List.suffix_cons_iff.mp ht with rfl | ht
    · exact cut?_of_isSign hp hc _
    · exact ih hsigns t ht

theorem isSign_mask : ∀ c ∈ "=***".toList, isSign c = true :=
  List.all_eq_true.mp rfl

/-- A text that a pattern has masked, or in which it found nothing, stays so under every pattern. -/
theorem clears_mask (hp : p ∈ [apiKeys, tokens]) (hq : q ∈ patterns) (h : q = p ∨ p.Clears s) :
    p.Clears (q.mask s) := by
  have hpattern := mem_patterns_of_keys hp
  fun_induction q.mask s with
  | case1 s written rest hcut _ ih =>
    have hrest : p.Clears (q.mask rest) := ih (h.imp_right fun h => h.suffix (suffix_of_cut? hcut))
    have hmask : p.Clears ("=***".toList ++ q.mask rest) := hrest.signs hpattern isSign_mask
    obtain ⟨_, _, hw, _⟩ := cut?_eq_some hcut
    intro t ht
    rw [List.append_assoc] at ht
    rcases List.suffix_or_suffix_of_suffix ht (List.suffix_append written _) with hbehind | hfront
    · exact hmask t hbehind
    · -- such a suffix begins in the keyword, where there are no separators
      obtain ⟨inside, rfl⟩ := hfront
      obtain ⟨before, hbefore⟩ := ht
      rw [← List.append_assoc, List.append_left_inj] at hbefore
      have hnone : p.cut? (inside ++ []) = none := by
        refine cut?_of_no_separator fun c hc => ?_
        have hmem : c ∈ written := by
          rw [List.append_nil] at hc
          exact hbefore ▸ List.mem_append_right before hc
        have hsign := isSign_of_mem_written hq hw hmem
        simp only [isSign, Bool.or_eq_false_iff] at hsign
        exact hsign.1.1
      exact cut?_before_mask hp hnone _
  | case2 =>
    intro t ht
    rw [List.suffix_nil.mp ht]
    exact cut?_of_no_separator (List.forall_mem_nil _)
  | case3 c s hcut ih =>
    have hrest : p.Clears (q.mask s) := ih (h.imp_right fun h => h.suffix (List.suffix_cons c s))
    intro t ht
    rcases List.suffix_cons_iff.mp ht with rfl | ht
    · have hwhole : p.cut? (c :: s) = none := by
        rcases h with rfl | h
        · exact hcut
        · exact h _ List.suffix_rfl
      have hmasked := cut?_mask hp q hwhole
      rwa [mask_cons hcut] at hmasked
    · exact hrest t ht

theorem suffix_of_no_sign {c : Char} {sec : List Char} (hc : isSign c = true)
    (hw : ∀ c ∈ written, isSign c = false) (hsuffix : written <:+ x ++ c :: sec) :
    written <:+ sec := by
  rcases List.suffix_or_suffix_of_suffix hsuffix (List.suffix_append x (c :: sec)) with h | h
  · rcases List.suffix_cons_iff.mp h with rfl | h
    · rw [hw c List.mem_cons_self] at hc
      cases hc
    · exact h
  · rw [hw c (h.subset List.mem_cons_self)] at hc
    cases hc

/-- An assignment whose secret goes on into a mask ends before it, too: the keyword in front of the
mask is long enough for a secret. -/
theorem exists_assignment_before_mask {keyword seps quote secret more : List Char}
    (hp : p ∈ patterns) (hleast : p.least ≤ 3) (ha : p.Assignment keyword seps quote secret)
    (hw : written.map plainLetter ∈ p.keywords)
    (heq : keyword ++ (seps ++ (quote ++ secret)) = x ++ written ++ '=' :: more) :
    keyword = x ++ written ∨ ∃ shorter, p.Assignment keyword seps quote shorter ∧
      keyword ++ (seps ++ (quote ++ shorter)) = x ++ written := by
  have hplain : ∀ c ∈ written, isSign c = false := fun c hc => isSign_of_mem_written hp hw hc
  have hlong : 3 ≤ written.length := length_written hp hw
  have hsigns := isSign_of_mem_opening ha.separators ha.quoted.2
  rcases List.append_eq_append_iff.mp heq with ⟨behind, hfront, hbehind⟩ | ⟨beyond, hkeyword, hover⟩
  · rcases List.eq_nil_or_concat' behind with rfl | ⟨init, z, hlast⟩
    · exact .inl (by simpa using hfront.symm)
    rw [← List.append_assoc] at hbehind
    right
    rcases List.append_eq_append_iff.mp hbehind with ⟨shorter, hsplit, hsecret⟩ | ⟨_, hsplit, _⟩
    · -- the keyword in front of the mask has no signs, so all of it lies in the secret
      have hsome : seps ++ quote ≠ [] := List.append_ne_nil_of_left_ne_nil ha.separated quote
      obtain ⟨init, z, hblock⟩ := (List.eq_nil_or_concat' (seps ++ quote)).resolve_left hsome
      have hz : isSign z = true := hsigns z (by rw [hblock]; simp)
      have hsuffix : written <:+ keyword ++ init ++ z :: shorter := by
        refine ⟨x, ?_⟩
        rw [hfront, hsplit, hblock]
        simp
      have hinside := suffix_of_no_sign hz hplain hsuffix
      have henough : p.least ≤ shorter.length := by
        have hle := hinside.length_le
        omega
      refine ⟨shorter, ⟨ha.keyword, ha.separated, ha.separators, ha.quoted, ?_, henough⟩, ?_⟩
      · intro c hc
        exact ha.secrets c (hsecret ▸ List.mem_append_left _ hc)
      · rw [hfront, hsplit, List.append_assoc]
    · have hz : isSign z = true := hsigns z (by rw [hsplit, hlast]; simp)
      have hsuffix : written <:+ keyword ++ init ++ z :: [] := by
        refine ⟨x, ?_⟩
        rw [hfront, hlast]
        simp
      have hnil := List.suffix_nil.mp (suffix_of_no_sign hz hplain hsuffix)
      simp [hnil] at hlong
  · cases beyond with
    | nil => exact .inl (by simpa using hkeyword)
    | cons d beyond =>
      obtain ⟨rfl, _⟩ := List.cons.inj hover
      have hmem : '=' ∈ keyword := by
        rw [hkeyword]
        simp
      exact absurd (isSign_of_mem_written hp ha.keyword hmem) (by decide)

/-- Nor does a pattern with short secrets find more in a text that it has masked. -/
theorem cut?_mask_of_short (hp : p ∈ patterns) (hleast : p.least ≤ 3) (h : p.cut? s = none) :
    p.cut? (p.mask s) = none := by
  rcases mask_eq_self_or_begins p s with hself | ⟨front, written, tail, rest, hs, hmask, hw, htail⟩
  · rw [hself, h]
  refine Option.not_isSome_iff_eq_none.mp fun hsome => ?_
  have hfound : (p.cut? s).isSome = true := by
    obtain ⟨keyword, seps, quote, secret, ha, hprefix⟩ := isSome_cut?_iff.mp hsome
    have hbefore : ∀ {shorter}, p.Assignment keyword seps quote shorter →
        keyword ++ (seps ++ (quote ++ shorter)) <+: front ++ written →
          (p.cut? s).isSome = true := by
      intro shorter ha hprefix
      refine isSome_cut?_iff.mpr ⟨keyword, seps, quote, shorter, ha, hprefix.trans ?_⟩
      rw [hs]
      exact List.prefix_append _ tail
    obtain ⟨after, heq⟩ := hprefix
    rw [hmask] at heq
    rcases List.append_eq_append_iff.mp heq with ⟨more, hx, _⟩ | ⟨more, hhead, hover⟩
    · exact hbefore ha ⟨more, hx.symm⟩
    cases more with
    | nil => exact hbefore ha ⟨[], by simpa using hhead⟩
    | cons d more =>
      obtain ⟨rfl, _⟩ := List.cons.inj hover
      rcases exists_assignment_before_mask hp hleast ha hw hhead with hkeyword | ⟨_, hshorter, heq⟩
      · have hcut := isSome_cut? ha.keyword htail
        rwa [hkeyword, ← hs] at hcut
      · exact hbefore hshorter ⟨[], by simpa using heq⟩
  rw [h] at hfound
  cases hfound

end Pattern

/-- Behind each masked password the text ends or goes on with a blank. -/
def SetOff (s : List Char) : Prop :=
  ∀ front written after, s = front ++ (written ++ ("=***".toList ++ after)) →
    written.map plainLetter ∈ passwords.keywords → ∀ c ∈ after.head?, isBlank c = true

theorem SetOff.suffix {s t : List Char} (h : SetOff s) (ht : t <:+ s) : SetOff t := by
  obtain ⟨before, rfl⟩ := ht
  intro front written after heq hw
  refine h (before ++ front) written after ?_ hw
  rw [heq, List.append_assoc]

section Passwords

variable {s rest written : List Char}

/-- A masked password is found again, and with it what stands directly behind it. -/
theorem cut?_masked (hw : written.map plainLetter ∈ passwords.keywords) (rest : List Char) :
    passwords.cut? (written ++ ("=***".toList ++ rest)) =
      some (written, Pattern.dropQuote (rest.dropWhile passwords.isSecret)) := by
  have hstars : ∀ c ∈ "***".toList, passwords.isSecret c = true := List.all_eq_true.mp rfl
  have hsecret : passwords.afterQuotedSecret? ("***".toList ++ rest) =
      some (Pattern.dropQuote (rest.dropWhile passwords.isSecret)) := by
    have hlong : 3 ≤ (("***".toList ++ rest).takeWhile passwords.isSecret).length := by
      rw [List.takeWhile_append_of_pos hstars, List.length_append]
      exact Nat.le_add_right 3 _
    have hafter : passwords.afterSecret? ("***".toList ++ rest) =
        some (Pattern.dropQuote (rest.dropWhile passwords.isSecret)) := by
      rw [Pattern.afterSecret?_eq_some_iff, List.dropWhile_append_of_pos hstars]
      exact ⟨hlong, rfl⟩
    exact hafter
  have hassigned : passwords.afterAssignment? (['='] ++ ("***".toList ++ rest)) =
      some (Pattern.dropQuote (rest.dropWhile passwords.isSecret)) :=
    Pattern.afterAssignment?_separators (List.cons_ne_nil _ _) (List.forall_mem_singleton.mpr rfl)
      (Pattern.afterAssignment?_eq_none rfl) hsecret
  have hcut := Pattern.cut?_written mem_patterns.2.2 hw (by decide : isSign '=' = true)
    ("***".toList ++ rest)
  rw [← List.singleton_append, hassigned, Option.map_some] at hcut
  exact hcut

/-- Nothing stands directly behind a mask if a blank does, or the end of the text. -/
theorem dropQuote_dropWhile_eq_self_iff :
    Pattern.dropQuote (rest.dropWhile passwords.isSecret) = rest ↔
      ∀ c ∈ rest.head?, isBlank c = true := by
  cases rest with
  | nil => exact ⟨fun _ => nofun, fun _ => rfl⟩
  | cons c rest =>
    constructor
    · intro heq d hd
      obtain rfl : c = d := Option.some.inj hd
      have hshort := Pattern.length_dropQuote_le ((c :: rest).dropWhile passwords.isSecret)
      rw [heq] at hshort
      have hkept : (c :: rest).dropWhile passwords.isSecret = c :: rest :=
        (List.dropWhile_suffix _).eq_of_length_le hshort
      rw [hkept] at heq
      have hsecret : passwords.isSecret c = false := by
        by_contra hsecret
        rw [Bool.not_eq_false] at hsecret
        rw [List.dropWhile_cons_of_pos hsecret] at hkept
        have hle := (List.dropWhile_suffix (l := rest) passwords.isSecret).length_le
        rw [hkept, List.length_cons] at hle
        omega
      have hquote : isQuote c = false := by
        by_contra hquote
        rw [Bool.not_eq_false] at hquote
        simp [Pattern.dropQuote, hquote] at heq
      simpa [passwords, hquote] using hsecret
    · intro hblank
      have hc : isBlank c = true := hblank c rfl
      have hsecret : passwords.isSecret c = false := by simp [passwords, hc]
      have hquote : isQuote c = false := by
        cases hq : isQuote c with
        | false => rfl
        | true =>
          rw [isBlank_of_isQuote hq] at hc
          cases hc
      rw [List.dropWhile_cons_of_neg (by rw [hsecret]; exact Bool.false_ne_true)]
      simp [Pattern.dropQuote, hquote]

theorem mask_mask_of_setOff (h : SetOff (passwords.mask s)) :
    passwords.mask (passwords.mask s) = passwords.mask s := by
  fun_induction passwords.mask s with
  | case1 s written rest hcut _ ih =>
    obtain ⟨_, _, hw, _⟩ := Pattern.cut?_eq_some hcut
    rw [List.append_assoc] at h ⊢
    have hblank := h [] written (passwords.mask rest) rfl hw
    have hagain := cut?_masked hw (passwords.mask rest)
    rw [dropQuote_dropWhile_eq_self_iff.mpr hblank] at hagain
    have hrest : SetOff (passwords.mask rest) :=
      h.suffix ((List.suffix_append _ _).trans (List.suffix_append _ _))
    rw [Pattern.mask_of_cut? hagain, ih hrest, List.append_assoc]
  | case2 => exact Pattern.mask_nil passwords
  | case3 c s hcut ih =>
    have hmasked := Pattern.cut?_mask_of_short mem_patterns.2.2 (Nat.le_refl 3) hcut
    rw [Pattern.mask_cons hcut] at hmasked
    rw [Pattern.mask_cons hmasked, ih (h.suffix (List.suffix_cons c _))]

/-- An assignment is at least as long as its mask. -/
theorem length_mask_le (s : List Char) : (passwords.mask s).length ≤ s.length := by
  fun_induction passwords.mask s with
  | case1 s written rest hcut _ ih =>
    obtain ⟨seps, quote, secret, close, ha, _, rfl⟩ := Pattern.exists_assignment hcut
    have hseps : 0 < seps.length := List.length_pos_of_ne_nil ha.separated
    have hsecret : 3 ≤ secret.length := ha.enough
    have hmask : "=***".toList.length = 4 := rfl
    simp only [List.length_append, hmask]
    omega
  | case2 => exact Nat.le_refl 0
  | case3 c s _ ih => exact Nat.succ_le_succ ih

/-- Masks that stay as they are. -/
theorem eq_mask_of_mask_eq (hcut : passwords.cut? s = some (written, rest))
    (h : passwords.mask s = s) :
    s = written ++ ("=***".toList ++ rest) ∧ passwords.mask rest = rest := by
  rw [Pattern.mask_of_cut? hcut, List.append_assoc] at h
  obtain ⟨seps, quote, secret, close, ha, _, rfl⟩ := Pattern.exists_assignment hcut
  have hbehind := List.append_cancel_left h
  have hlength := congrArg List.length hbehind
  have hseps : 0 < seps.length := List.length_pos_of_ne_nil ha.separated
  have hsecret : 3 ≤ secret.length := ha.enough
  have hmask : "=***".toList.length = 4 := rfl
  have hrest := length_mask_le rest
  simp only [List.length_append, hmask] at hlength
  have hquote : quote = [] := List.eq_nil_of_length_eq_zero (by omega)
  have hclose : close = [] := List.eq_nil_of_length_eq_zero (by omega)
  rw [hquote, hclose, List.nil_append, List.nil_append, ← List.append_assoc seps] at hbehind ⊢
  have hsplit : "=***".toList.length = (seps ++ secret).length := by
    rw [List.length_append, hmask]
    omega
  obtain ⟨heq, hrest⟩ := List.append_inj hbehind hsplit
  exact ⟨by rw [heq], hrest⟩

theorem suffix_or_eq_of_masked {front other after : List Char}
    (hw : written.map plainLetter ∈ passwords.keywords)
    (hother : other.map plainLetter ∈ passwords.keywords)
    (h : written ++ ("=***".toList ++ rest) = front ++ (other ++ ("=***".toList ++ after))) :
    after = rest ∨ other ++ ("=***".toList ++ after) <:+ rest := by
  have hplain : ∀ {word : List Char}, word.map plainLetter ∈ passwords.keywords →
      ∀ c ∈ word, isSign c = false :=
    fun hword _ hc => Pattern.isSign_of_mem_written mem_patterns.2.2 hword hc
  rw [← List.append_assoc front] at h
  rcases List.append_eq_append_iff.mp h with ⟨more, hfront, hmore⟩ | ⟨more, hword, hmore⟩
  · -- the second mask begins where the first does, or behind it
    match more, hmore with
    | [], hmore => exact .inl (List.append_cancel_left hmore).symm
    | [_], hmore => exact absurd hmore (by simp)
    | [_, _], hmore => exact absurd hmore (by simp)
    | [_, _, _], hmore => exact absurd hmore (by simp)
    | a :: b :: c :: d :: more, hmore =>
      have hmask : [a, b, c, d] = "=***".toList ∧ rest = more ++ ("=***".toList ++ after) := by
        have hsame : "=***".toList ++ rest = [a, b, c, d] ++ (more ++ ("=***".toList ++ after)) :=
          hmore
        have hsplit := List.append_inj hsame rfl
        exact ⟨hsplit.1.symm, hsplit.2⟩
      obtain rfl : d = '*' := by
        simpa using congrArg List.getLast? hmask.1
      have hsuffix : other <:+ written ++ [a, b, c] ++ '*' :: more :=
        ⟨front, by rw [hfront]; simp⟩
      obtain ⟨before, rfl⟩ := Pattern.suffix_of_no_sign (by decide) (hplain hother) hsuffix
      exact .inr ⟨before, by rw [hmask.2, List.append_assoc]⟩
  · cases more with
    | nil => exact .inl (List.append_cancel_left hmore)
    | cons c more =>
      have hc : '=' = c := (List.cons.inj hmore).1
      have hmem : '=' ∈ written := by
        rw [hword, ← hc]
        simp
      exact absurd (hplain hw '=' hmem) (by decide)

theorem setOff_of_mask_eq (h : passwords.mask s = s) : SetOff s := by
  fun_induction passwords.mask s with
  | case1 s written rest hcut _ ih =>
    rw [← Pattern.mask_of_cut? hcut] at h
    obtain ⟨_, _, hw, _⟩ := Pattern.cut?_eq_some hcut
    obtain ⟨rfl, hrest⟩ := eq_mask_of_mask_eq hcut h
    have hblank : ∀ c ∈ rest.head?, isBlank c = true := by
      have hagain := (cut?_masked hw rest).symm.trans hcut
      exact dropQuote_dropWhile_eq_self_iff.mp (Prod.ext_iff.mp (Option.some.inj hagain)).2
    intro front other after heq hother
    rcases suffix_or_eq_of_masked hw hother heq with rfl | ⟨before, hsuffix⟩
    · exact hblank
    · exact ih hrest before other after hsuffix.symm hother
  | case2 =>
    intro front written after heq
    simp at heq
  | case3 c s hcut ih =>
    intro front written after heq hw
    cases front with
    | nil =>
      rw [heq, List.nil_append, cut?_masked hw after] at hcut
      cases hcut
    | cons d front => exact ih (List.cons.inj h).2 front written after (List.cons.inj heq).2 hw

end Passwords

/-- In a masked text neither a key nor a token is found. -/
theorem clears_maskText (s : String) :
    apiKeys.Clears (maskText s).toList ∧ tokens.Clears (maskText s).toList := by
  rw [toList_maskText]
  have hkeys : apiKeys.Clears (apiKeys.mask s.toList) :=
    Pattern.clears_mask (by simp) mem_patterns.1 (.inl rfl)
  have hstill : apiKeys.Clears (tokens.mask (apiKeys.mask s.toList)) :=
    Pattern.clears_mask (by simp) mem_patterns.2.1 (.inr hkeys)
  have htokens : tokens.Clears (tokens.mask (apiKeys.mask s.toList)) :=
    Pattern.clears_mask (by simp) mem_patterns.2.1 (.inl rfl)
  exact ⟨Pattern.clears_mask (by simp) mem_patterns.2.2 (.inr hstill),
    Pattern.clears_mask (by simp) mem_patterns.2.2 (.inr htokens)⟩

theorem toList_maskText_maskText (s : String) :
    (maskText (maskText s)).toList = passwords.mask (maskText s).toList := by
  obtain ⟨hkeys, htokens⟩ := clears_maskText s
  rw [toList_maskText (maskText s), hkeys.mask_eq, htokens.mask_eq]

/-- Masking twice is masking once, just if behind each masked password the text ends or goes on
with a blank. Keys and tokens are not found again in any masked text. -/
theorem maskText_twice_eq_iff (s : String) :
    (maskText (maskText s) = maskText s ↔ SetOff (maskText s).toList) ∧
      apiKeys.Clears (maskText s).toList ∧ tokens.Clears (maskText s).toList := by
  refine ⟨?_, clears_maskText s⟩
  rw [← String.toList_inj, toList_maskText_maskText]
  constructor
  · exact setOff_of_mask_eq
  · intro h
    rw [toList_maskText] at h ⊢
    exact mask_mask_of_setOff h

/-- A closing quote keeps the letters behind it apart from a password, a mask does not. -/
theorem letters_behind_mask_vanish : ¬ ∀ s, maskText (maskText s) = maskText s := by
  intro h
  have hfirst : maskText "password=\"abc\"def" = "password=***def" := by cbv
  have hsecond : maskText "password=***def" = "password=***" := by cbv
  have hsame := h "password=\"abc\"def"
  rw [hfirst, hsecond] at hsame
  exact absurd hsame (by decide)

end SettingsCheck.Redaction
