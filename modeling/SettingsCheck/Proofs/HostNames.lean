import SettingsCheck.Builtin.Hostname
import SettingsCheck.Proofs.Pieces

namespace SettingsCheck.Builtin

open Text (pieces)

/-- Runs of ASCII letters and digits, joined by single hyphens, of at most 63 bytes. -/
def HostLabel (label : List Char) : Prop :=
  (∃ runs, runs ≠ [] ∧ (∀ run ∈ runs, run ≠ [] ∧ ∀ c ∈ run, c.isAlphanum = true) ∧
    label = ['-'].intercalate runs) ∧
  (String.ofList label).utf8ByteSize ≤ 63

/-- Two or more labels joined by single dots, the last one of letters only, of at most 253 bytes. -/
def DomainName (name : String) : Prop :=
  (∃ labels last, labels ≠ [] ∧ (∀ label ∈ labels ++ [last], HostLabel label) ∧
    (∀ c ∈ last, c.isAlpha = true) ∧ name.toList = ['.'].intercalate (labels ++ [last])) ∧
  name.utf8ByteSize ≤ 253

variable {label last : List Char} {labels : List (List Char)} {noun name : String}

theorem isLabelChar_iff {c : Char} : isLabelChar c = true ↔ c.isAlphanum = true ∨ c = '-' := by
  simp [isLabelChar, isAsciiLetterOrDigit]

/-- The conditions that are checked, none of which speaks of runs. -/
theorem checkLabel_eq_ok_iff_conditions :
    checkLabel noun label = .ok () ↔
      label ≠ [] ∧ (String.ofList label).utf8ByteSize ≤ 63 ∧ (∀ c ∈ label, isLabelChar c = true) ∧
        label.head? ≠ some '-' ∧ label.getLast? ≠ some '-' ∧ ¬['-', '-'] <:+: label := by
  have hinfix : (Text.cutAt ['-', '-'] label).isSome = false ↔ ¬['-', '-'] <:+: label := by
    rw [← Text.isSome_cutAt_iff, Bool.not_eq_true]
  unfold checkLabel
  cases hfind : label.find? (!isLabelChar ·) with
  | some bad =>
    have hbad := List.find?_some hfind
    have hmem := List.mem_of_find?_eq_some hfind
    simp only [bind_eq_ok_iff]
    constructor
    · rintro ⟨-, -, h, -⟩
      cases h
    · rintro ⟨-, -, hchars, -⟩
      simp [hchars bad hmem] at hbad
  | none =>
    have hchars : (∀ c ∈ label, isLabelChar c = true) ↔ True := by
      simpa using hfind
    simp [bind_eq_ok_iff, hinfix, hchars]

/-- Runs are joined by single hyphens just if no piece between hyphens is empty. -/
theorem checkLabel_eq_ok_iff (noun : String) :
    checkLabel noun label = .ok () ↔ HostLabel label := by
  have hpieces := Text.nil_not_mem_pieces_iff '-' label
  rw [checkLabel_eq_ok_iff_conditions]
  constructor
  · rintro ⟨hsome, hsize, hchars, hends⟩
    refine ⟨⟨pieces (· == '-') label, Text.pieces_ne_nil, ?_, ?_⟩, hsize⟩
    · intro run hrun
      refine ⟨?_, ?_⟩
      · rintro rfl
        exact hpieces.mpr ⟨hsome, hends⟩ hrun
      · intro c hc
        obtain ⟨hmem, hcut⟩ := Text.of_mem_pieces hrun c hc
        have hchar := isLabelChar_iff.mp (hchars c hmem)
        exact hchar.resolve_right (by simpa using hcut)
    · exact (Text.intercalate_pieces '-' label).symm
  · rintro ⟨⟨runs, hsome, hruns, hlabel⟩, hsize⟩
    have hhyphen : ∀ run ∈ runs, '-' ∉ run := by
      intro run hrun hmem
      have halnum := (hruns run hrun).2 '-' hmem
      simp at halnum
    have hcut := (Text.eq_intercalate_iff hsome hhyphen).mp hlabel
    have hnil : [] ∉ pieces (· == '-') label := by
      rw [hcut]
      intro hmem
      exact (hruns [] hmem).1 rfl
    obtain ⟨hlabel, hends⟩ := hpieces.mp hnil
    refine ⟨hlabel, hsize, ?_, hends⟩
    intro c hc
    rw [isLabelChar_iff]
    by_cases hdash : c = '-'
    · exact .inr hdash
    · obtain ⟨run, hrun, hmem⟩ := Text.exists_mem_pieces (p := (· == '-')) hc (by simpa using hdash)
      rw [hcut] at hrun
      exact .inl ((hruns run hrun).2 c hmem)

theorem checkLabels_eq_ok_iff :
    checkLabels name labels = .ok () ↔ ∀ label ∈ labels, HostLabel label := by
  induction labels with
  | nil => simp [checkLabels]
  | cons label rest ih =>
    rw [checkLabels, List.forall_mem_cons, ← checkLabel_eq_ok_iff "label", ← ih]
    cases checkLabel "label" label <;> simp

namespace HostLabel

theorem conditions (h : HostLabel label) : label ≠ [] ∧ ∀ c ∈ label, isLabelChar c = true := by
  obtain ⟨hsome, -, hchars, -⟩ :=
    checkLabel_eq_ok_iff_conditions.mp ((checkLabel_eq_ok_iff "label").mpr h)
  exact ⟨hsome, hchars⟩

theorem ne_nil (h : HostLabel label) : label ≠ [] := h.conditions.1

theorem dot_not_mem (h : HostLabel label) : '.' ∉ label := by
  intro hmem
  have hchar := h.conditions.2 '.' hmem
  simp [isLabelChar_iff] at hchar

end HostLabel

theorem domainName_iff_pieces :
    DomainName name ↔
      name.utf8ByteSize ≤ 253 ∧ 2 ≤ (pieces (· == '.') name.toList).length ∧
        (∀ label ∈ pieces (· == '.') name.toList, HostLabel label) ∧
        ∀ c ∈ (pieces (· == '.') name.toList).getLast?.getD [], c.isAlpha = true := by
  constructor
  · rintro ⟨⟨labels, last, hsome, hlabels, hletters, hname⟩, hsize⟩
    have hdot : ∀ label ∈ labels ++ [last], '.' ∉ label := by
      intro label hlabel
      exact (hlabels label hlabel).dot_not_mem
    have hcut := (Text.eq_intercalate_iff (by simp) hdot).mp hname
    have hlength := List.length_pos_iff.mpr hsome
    rw [hcut]
    refine ⟨hsize, ?_, hlabels, ?_⟩
    · rw [List.length_append, List.length_singleton]
      omega
    · simpa using hletters
  · rintro ⟨hsize, hlength, hlabels, hletters⟩
    rcases List.eq_nil_or_concat (pieces (· == '.') name.toList) with hnil | ⟨labels, last, hcut⟩
    · simp [hnil] at hlength
    · rw [List.concat_eq_append] at hcut
      rw [hcut] at hlength hlabels hletters
      refine ⟨⟨labels, last, ?_, hlabels, by simpa using hletters, ?_⟩, hsize⟩
      · rintro rfl
        simp at hlength
      · rw [← hcut, Text.intercalate_pieces]

theorem checkDomain_eq_ok_iff : checkDomain name = .ok () ↔ DomainName name := by
  rw [domainName_iff_pieces, checkDomain]
  simp only [bind_eq_ok_iff, refuseIf_eq_ok_iff, checkLabels_eq_ok_iff, beq_eq_false_iff_ne,
    decide_eq_false_iff_not, Nat.not_lt, Bool.not_eq_false', List.all_eq_true]
  -- the empty name has one label only, so nothing is left of the first condition
  refine and_iff_right_of_imp ?_
  rintro ⟨-, hlength, -⟩ rfl
  simp [pieces] at hlength

/-- A text is accepted as a label, or as a domain name, just if it is one by the grammar. -/
theorem host_names_by_grammar (site : Site) (s : String) :
    ((subdomain site (.string s)).verdict = .accepted ↔ HostLabel s.toList) ∧
      ((domain site (.string s)).verdict = .accepted ↔ DomainName s) :=
  ⟨onText_accepted_iff.trans (checkLabel_eq_ok_iff _),
    onText_accepted_iff.trans checkDomain_eq_ok_iff⟩

end SettingsCheck.Builtin
