import SettingsCheck.Proofs.Trimming

namespace SettingsCheck.Text

variable {p : Char → Bool} {sep : Char} {cs piece : List Char} {parts : List (List Char)}

theorem pieces_eq_splitOnP (p : Char → Bool) (cs : List Char) : pieces p cs = cs.splitOnP p := by
  induction cs with
  | nil => rfl
  | cons c cs ih =>
    rw [pieces, ih, List.splitOnP_cons_eq_if_modifyHead]
    obtain ⟨word, rest, hsome⟩ := List.exists_cons_of_ne_nil (List.splitOnP_ne_nil p cs)
    rw [hsome, List.modifyHead_cons]

/-- A piece holds characters of the text, and none at which the text is cut. -/
theorem of_mem_pieces {p : Char → Bool} {cs piece : List Char} (h : piece ∈ pieces p cs) :
    ∀ c ∈ piece, c ∈ cs ∧ p c = false := by
  induction cs generalizing piece with
  | nil =>
    rw [List.mem_singleton.mp h]
    exact List.forall_mem_nil _
  | cons d cs ih =>
    have hlater : ∀ {other}, other ∈ pieces p cs → ∀ c ∈ other, c ∈ d :: cs ∧ p c = false :=
      fun hother c hc => (ih hother c hc).imp_left (List.mem_cons_of_mem d)
    rw [pieces] at h
    split at h
    · rcases List.mem_cons.mp h with rfl | h
      · exact List.forall_mem_nil _
      · exact hlater h
    next hd =>
      have hfirst : d ∈ d :: cs ∧ p d = false := ⟨List.mem_cons_self, by simpa using hd⟩
      cases hrest : pieces p cs with
      | nil =>
        rw [hrest] at h
        rw [List.mem_singleton.mp h]
        exact List.forall_mem_singleton.mpr hfirst
      | cons word rest =>
        rw [hrest] at h
        rcases List.mem_cons.mp h with rfl | h
        · exact List.forall_mem_cons.mpr ⟨hfirst, hlater (hrest ▸ List.mem_cons_self)⟩
        · exact hlater (hrest ▸ List.mem_cons_of_mem word h)

theorem pieces_ne_nil : pieces p cs ≠ [] := by
  rw [pieces_eq_splitOnP]
  exact List.splitOnP_ne_nil p cs

theorem pieces_cons_of_pos {c : Char} (h : p c = true) :
    pieces p (c :: cs) = [] :: pieces p cs := by
  rw [pieces, if_pos h]

/-- A character at which nothing is cut goes in front of the first piece. -/
theorem exists_pieces_cons_of_neg {c : Char} (h : p c = false) (cs : List Char) :
    ∃ word rest, pieces p cs = word :: rest ∧ pieces p (c :: cs) = (c :: word) :: rest := by
  have hpieces : pieces p cs ≠ [] := pieces_ne_nil
  obtain ⟨word, rest, hsome⟩ := List.exists_cons_of_ne_nil hpieces
  refine ⟨word, rest, hsome, ?_⟩
  rw [pieces, hsome, if_neg (by simp [h])]

/-- Every character is a cut or stands in a piece. -/
theorem exists_mem_pieces {c : Char} (hc : c ∈ cs) (h : p c = false) :
    ∃ piece ∈ pieces p cs, c ∈ piece := by
  induction cs with
  | nil => simp at hc
  | cons d cs ih =>
    cases hd : p d with
    | true =>
      have hne : c ≠ d := by
        rintro rfl
        simp [h] at hd
      obtain ⟨piece, hpiece, hmem⟩ := ih ((List.mem_cons.mp hc).resolve_left hne)
      refine ⟨piece, ?_, hmem⟩
      rw [pieces_cons_of_pos hd]
      exact List.mem_cons_of_mem [] hpiece
    | false =>
      obtain ⟨word, rest, hsome, hnext⟩ := exists_pieces_cons_of_neg hd cs
      rw [hnext]
      rcases List.mem_cons.mp hc with rfl | hc
      · exact ⟨c :: word, by simp, by simp⟩
      · obtain ⟨piece, hpiece, hmem⟩ := ih hc
        rw [hsome] at hpiece
        rcases List.mem_cons.mp hpiece with rfl | hpiece
        · exact ⟨d :: piece, by simp, by simp [hmem]⟩
        · exact ⟨piece, by simp [hpiece], hmem⟩

theorem not_mem_of_mem_pieces (h : piece ∈ pieces (· == sep) cs) : sep ∉ piece := by
  intro hmem
  have hcut := (of_mem_pieces h sep hmem).2
  simp at hcut

theorem intercalate_pieces (sep : Char) (cs : List Char) :
    [sep].intercalate (pieces (· == sep) cs) = cs := by
  rw [pieces_eq_splitOnP, ← List.splitOn_eq_splitOnP, List.intercalate_splitOn]

theorem pieces_intercalate (hsome : parts ≠ []) (h : ∀ part ∈ parts, sep ∉ part) :
    pieces (· == sep) ([sep].intercalate parts) = parts := by
  rw [pieces_eq_splitOnP, ← List.splitOn_eq_splitOnP, List.splitOn_intercalate sep h hsome]

/-- A text is made of parts without the separator just if its pieces are these parts. -/
theorem eq_intercalate_iff (hsome : parts ≠ []) (h : ∀ part ∈ parts, sep ∉ part) :
    cs = [sep].intercalate parts ↔ pieces (· == sep) cs = parts := by
  constructor
  · rintro rfl
    exact pieces_intercalate hsome h
  · rintro rfl
    exact (intercalate_pieces sep cs).symm

/-- The pieces before a cut and those behind it. -/
theorem pieces_append_cons {c : Char} (h : p c = true) (a b : List Char) :
    pieces p (a ++ c :: b) = pieces p a ++ pieces p b := by
  simp only [pieces_eq_splitOnP]
  exact List.splitOnP_append_cons a b h

theorem pieces_append_sep (sep : Char) (a b : List Char) :
    pieces (· == sep) (a ++ sep :: b) = pieces (· == sep) a ++ pieces (· == sep) b :=
  pieces_append_cons (p := (· == sep)) (beq_self_eq_true sep) a b

theorem pieces_eq_singleton (h : ∀ c ∈ cs, p c = false) : pieces p cs = [cs] := by
  rw [pieces_eq_splitOnP, List.splitOnP_eq_singleton h]

/-- A text of cuts has nothing between them. -/
theorem filter_pieces_eq_nil (h : ∀ c ∈ cs, p c = true) :
    (pieces p cs).filter (!·.isEmpty) = [] := by
  rw [List.filter_eq_nil_iff]
  intro piece hpiece
  cases piece with
  | nil => simp
  | cons c rest =>
    obtain ⟨hmem, hcut⟩ := of_mem_pieces hpiece c List.mem_cons_self
    simp [h c hmem] at hcut

theorem filter_pieces_append {later : List Char} (h : ∀ c ∈ later, p c = true) :
    (pieces p (cs ++ later)).filter (!·.isEmpty) = (pieces p cs).filter (!·.isEmpty) := by
  cases later with
  | nil => rw [List.append_nil]
  | cons c later =>
    obtain ⟨hc, hlater⟩ := List.forall_mem_cons.mp h
    rw [pieces_append_cons hc, List.filter_append, filter_pieces_eq_nil hlater, List.append_nil]

section Split

variable {mark : String} (hmark : mark.toList = [sep])
include hmark

theorem split_append (a b : String) : split sep (a ++ mark ++ b) = split sep a ++ split sep b := by
  have htext : (a ++ mark ++ b).toList = a.toList ++ sep :: b.toList := by simp [hmark]
  rw [split, htext, pieces_append_sep, List.map_append, split, split]

theorem intercalate_split (s : String) : mark.intercalate (split sep s) = s := by
  rw [← String.toList_inj, String.toList_intercalate, hmark, split, List.map_map]
  simp [Function.comp_def, intercalate_pieces]

theorem split_intercalate {names : List String} (hsome : names ≠ [])
    (h : ∀ name ∈ names, sep ∉ name.toList) : split sep (mark.intercalate names) = names := by
  have hparts : ∀ part ∈ names.map String.toList, sep ∉ part := List.forall_mem_map.mpr h
  have hcut := pieces_intercalate (by simpa using hsome) hparts
  rw [split, String.toList_intercalate, hmark, hcut, List.map_map]
  simp [Function.comp_def]

end Split

theorem nil_mem_pieces_iff :
    [] ∈ pieces (· == sep) cs ↔
      cs = [] ∨ cs.head? = some sep ∨ [] ∈ (pieces (· == sep) cs).tail := by
  cases cs with
  | nil => simp [pieces]
  | cons c cs =>
    by_cases hc : c = sep
    · simp [pieces_cons_of_pos, hc]
    · obtain ⟨word, rest, -, hnext⟩ :=
        exists_pieces_cons_of_neg (p := (· == sep)) (beq_eq_false_iff_ne.mpr hc) cs
      simp [hnext, hc]

/-- An empty piece behind the first one comes of a separator at the end, or of two in a row. -/
theorem nil_mem_tail_pieces_iff :
    [] ∈ (pieces (· == sep) cs).tail ↔ cs.getLast? = some sep ∨ [sep, sep] <:+: cs := by
  induction cs with
  | nil => simp [pieces]
  | cons c cs ih =>
    by_cases hc : c = sep
    · subst hc
      have hrow : [c, c] <+: c :: cs ↔ cs.head? = some c := by
        cases cs <;> simp [List.cons_prefix_cons, eq_comm]
      have hlast : (c :: cs).getLast? = some c ↔ cs = [] ∨ cs.getLast? = some c := by
        cases cs <;> simp [List.getLast?_cons_cons]
      rw [pieces_cons_of_pos (by simp), List.tail_cons, nil_mem_pieces_iff, ih,
        List.infix_cons_iff, hrow, hlast, or_assoc, or_left_comm (a := cs.head? = some c)]
    · obtain ⟨word, rest, hsome, hnext⟩ :=
        exists_pieces_cons_of_neg (p := (· == sep)) (beq_eq_false_iff_ne.mpr hc) cs
      have hrow : ¬[sep, sep] <+: c :: cs := by
        intro hp
        exact hc (List.cons_prefix_cons.mp hp).1.symm
      have hlast : (c :: cs).getLast? = some sep ↔ cs.getLast? = some sep := by
        cases cs <;> simp [List.getLast?_cons_cons, hc]
      rw [hsome, List.tail_cons] at ih
      rw [hnext, List.tail_cons, ih, List.infix_cons_iff, hlast, or_iff_right hrow]

/-- No piece is empty if there is something before, between and behind the separators. -/
theorem nil_not_mem_pieces_iff (sep : Char) (cs : List Char) :
    [] ∉ pieces (· == sep) cs ↔
      cs ≠ [] ∧ cs.head? ≠ some sep ∧ cs.getLast? ≠ some sep ∧ ¬[sep, sep] <:+: cs := by
  rw [nil_mem_pieces_iff, nil_mem_tail_pieces_iff, not_or, not_or, not_or]

section Words

variable {s t : String} {a b : List Char}

theorem words_append_cons {c : Char} (hc : isBlank c = true) (a b : List Char) :
    words (String.ofList (a ++ c :: b)) = words (String.ofList a) ++ words (String.ofList b) := by
  simp only [words, String.toList_ofList, pieces_append_cons hc, List.filter_append,
    List.map_append]

theorem words_of_blanks (h : ∀ c ∈ a, isBlank c = true) : words (String.ofList a) = [] := by
  rw [words, String.toList_ofList, filter_pieces_eq_nil h, List.map_nil]

theorem words_of_word (hsome : s ≠ "") (h : ∀ c ∈ s.toList, isBlank c = false) : words s = [s] := by
  have hlist : s.toList ≠ [] := fun hnil => hsome (String.toList_eq_nil_iff.mp hnil)
  rw [words, pieces_eq_singleton h]
  simp [hlist]

theorem words_append_blanks (h : ∀ c ∈ b, isBlank c = true) :
    words (String.ofList (a ++ b)) = words (String.ofList a) := by
  rw [words, String.toList_ofList, filter_pieces_append h, words, String.toList_ofList]

theorem words_blanks_append (h : ∀ c ∈ b, isBlank c = true) :
    words (String.ofList (b ++ a)) = words (String.ofList a) := by
  rcases List.eq_nil_or_concat b with rfl | ⟨front, c, rfl⟩
  · rw [List.nil_append]
  · rw [List.concat_eq_append, List.forall_mem_append] at h
    have hc := h.2 c (List.mem_singleton.mpr rfl)
    rw [List.concat_eq_append, List.append_assoc, List.singleton_append, words_append_cons hc,
      words_of_blanks h.1, List.nil_append]

/-- Blanks at the ends of a text are between no words. -/
theorem words_trim (s : String) : words (trim s) = words s := by
  obtain ⟨front, back, hs, hfront, hback⟩ := exists_trimWhile isBlank s.toList
  rw [trim, ← words_blanks_append hfront, ← words_append_blanks hback, ← hs, String.ofList_toList]

end Words

end SettingsCheck.Text
