import SettingsCheck.Output.HumanReport
import SettingsCheck.Proofs.Pieces

namespace SettingsCheck

namespace Text

variable {s t : String} {lines : List String}

/-- A text that stays on one line. -/
def Unbroken (s : String) : Prop := '\n' ∉ s.toList

instance : Decidable (Unbroken s) := inferInstanceAs (Decidable ('\n' ∉ s.toList))

@[simp]
theorem unbroken_append : Unbroken (s ++ t) ↔ Unbroken s ∧ Unbroken t := by
  simp [Unbroken]

theorem Unbroken.append (hs : Unbroken s) (ht : Unbroken t) : Unbroken (s ++ t) :=
  unbroken_append.mpr ⟨hs, ht⟩

/-- For a text that is written out. -/
theorem Unbroken.literal {cs : List Char} (h : cs.all (· != '\n') = true) :
    Unbroken (String.ofList cs) := by
  rw [Unbroken, String.toList_ofList]
  intro hmem
  simpa using List.all_eq_true.mp h '\n' hmem

theorem Unbroken.prepend {cs : List Char} (h : Unbroken s) (hcs : cs.all (· != '\n') = true) :
    Unbroken (String.ofList cs ++ s) :=
  (Unbroken.literal hcs).append h

theorem Unbroken.between {cs ds : List Char} (h : Unbroken s) (hcs : cs.all (· != '\n') = true)
    (hds : ds.all (· != '\n') = true) : Unbroken (String.ofList cs ++ s ++ String.ofList ds) :=
  (h.prepend hcs).append (.literal hds)

theorem isDigit_of_mem_toString {n : Nat} {c : Char} (h : c ∈ (toString n).toList) :
    c.isDigit = true := by
  rw [Nat.toString_eq_repr, Nat.toList_repr] at h
  exact Nat.isDigit_of_mem_toDigits (by decide) (by decide) h

@[simp]
theorem unbroken_toString (n : Nat) : Unbroken (toString n) :=
  fun h => absurd (isDigit_of_mem_toString h) (by decide)

theorem unbroken_of_mem_split (h : s ∈ split '\n' t) : Unbroken s := by
  obtain ⟨piece, hpiece, rfl⟩ := List.mem_map.mp h
  rw [Unbroken, String.toList_ofList]
  exact not_mem_of_mem_pieces hpiece

/-- Lines that were put below each other are found again just if each of them is one line. -/
theorem split_joinWith_iff (h : lines ≠ []) :
    split '\n' (joinWith "\n" lines) = lines ↔ ∀ line ∈ lines, Unbroken line := by
  constructor
  · intro hsplit line hline
    rw [← hsplit] at hline
    exact unbroken_of_mem_split hline
  · exact split_intercalate rfl h

end Text

open Text (Unbroken split joinWith)

/-- What comes from outside is on one line each: the name and the findings of the document. -/
def DocumentReport.Unbroken (d : DocumentReport) : Prop :=
  Text.Unbroken d.name ∧ (∀ e ∈ d.report.errors, Text.Unbroken e.text) ∧
    ∀ w ∈ d.report.warnings, Text.Unbroken w.text

namespace DocumentReport

theorem unbroken_heading_iff (d : DocumentReport) :
    Text.Unbroken d.heading.text ↔ Text.Unbroken d.name := by
  unfold heading
  split
  · have hstart : Text.Unbroken "✓ " := .literal rfl
    have hvalid : Text.Unbroken ": valid" := .literal rfl
    have hnote : Text.Unbroken (if d.report.checksRun > 0 then
        " (" ++ toString d.report.checksRun ++ " remote check(s))" else "") := by
      split
      · exact (Text.unbroken_toString _).between rfl rfl
      · exact .literal rfl
    simp only [Text.unbroken_append, hstart, hvalid, hnote, true_and, and_true]
  · have hstart : Text.Unbroken "✗ " := .literal rfl
    have hcolon : Text.Unbroken ": " := .literal rfl
    have hend : Text.Unbroken " error(s)" := .literal rfl
    simp only [Text.unbroken_append, Text.unbroken_toString, hstart, hcolon, hend, true_and,
      and_true]

theorem unbroken_lines_iff (d : DocumentReport) :
    (∀ line ∈ d.lines, Text.Unbroken line.text) ↔ d.Unbroken := by
  have herror : Text.Unbroken "    " := .literal rfl
  have hwarning : Text.Unbroken "    warning: " := .literal rfl
  have hcancelled : ∀ line ∈ d.cancelledLines, Text.Unbroken line.text := by
    unfold cancelledLines
    split
    · exact List.forall_mem_singleton.mpr (.literal rfl)
    · exact nofun
  have hfindings : (∀ line ∈ d.errorLines ++ d.warningLines, Text.Unbroken line.text) ↔
      (∀ e ∈ d.report.errors, Text.Unbroken e.text) ∧
        ∀ w ∈ d.report.warnings, Text.Unbroken w.text := by
    simp only [errorLines, warningLines, List.forall_mem_append, List.forall_mem_map,
      Text.unbroken_append, herror, hwarning, true_and]
  rw [lines, List.forall_mem_append, List.cons_append, List.forall_mem_cons, hfindings,
    unbroken_heading_iff, and_iff_left hcancelled, Unbroken]

theorem length_lines (d : DocumentReport) :
    d.lines.length = 1 + d.report.errors.length + d.report.warnings.length +
      if d.report.cancelled then 1 else 0 := by
  have hcancelled : d.cancelledLines.length = if d.report.cancelled then 1 else 0 := by
    unfold cancelledLines
    split <;> rfl
  simp only [lines, List.length_append, List.length_cons, hcancelled, errorLines, warningLines,
    List.length_map]
  omega

end DocumentReport

namespace BatchReport

theorem unbroken_totals (b : BatchReport) : Unbroken b.totals.text := by
  have hvalid := (Text.unbroken_toString (b.documents.length - b.invalidDocuments.length)).append
    (.literal rfl : Unbroken "/")
  have hdocuments := (hvalid.append (Text.unbroken_toString b.documents.length)).append
    (.literal rfl : Unbroken " document(s) valid, ")
  have herrors := (hdocuments.append (Text.unbroken_toString b.totalErrors)).append
    (.literal rfl : Unbroken " error(s), ")
  exact (herrors.append (Text.unbroken_toString b.totalWarnings)).append (.literal rfl)

/-- A reader finds the lines of the report just if its names and findings have no line feeds. -/
theorem split_humanText_iff (b : BatchReport) :
    split '\n' (b.humanText false) = b.lines.map ReportLine.text ↔
      ∀ d ∈ b.documents, d.Unbroken := by
  have hplain : ReportLine.render false = ReportLine.text := by
    funext line
    unfold ReportLine.render
    split <;> simp
  have hsome : b.lines.map ReportLine.text ≠ [] := by simp [lines]
  have hblank : Unbroken "" := .literal rfl
  have hend : ∀ line ∈ [{ text := "" }, b.totals], Unbroken line.text :=
    List.forall_mem_cons.mpr ⟨hblank, List.forall_mem_singleton.mpr b.unbroken_totals⟩
  rw [humanText, hplain, Text.split_joinWith_iff hsome, List.forall_mem_map, lines,
    List.forall_mem_append, and_iff_left hend, List.forall_mem_flatMap]
  simp only [DocumentReport.unbroken_lines_iff]

/-- A heading, an error, a warning and a note of a cancellation take a line each, and so do the
blank line and the totals. -/
theorem length_lines (b : BatchReport) :
    b.lines.length = b.documents.length + b.totalErrors + b.totalWarnings +
      (b.documents.filter (·.report.cancelled)).length + 2 := by
  have hdocuments : ∀ documents : List DocumentReport,
      (documents.flatMap DocumentReport.lines).length = documents.length +
        (documents.flatMap (·.report.errors)).length +
        (documents.flatMap (·.report.warnings)).length +
        (documents.filter (·.report.cancelled)).length := by
    intro documents
    induction documents with
    | nil => rfl
    | cons d documents ih =>
      simp only [List.flatMap_cons, List.length_append, List.length_cons, List.filter_cons, ih,
        d.length_lines]
      split
      · rw [List.length_cons]
        omega
      · omega
  rw [lines, List.length_append, hdocuments]
  rfl

end BatchReport

/-- Whether a line looks as if it told how a document fared. -/
def looksLikeVerdict (line : String) : Bool :=
  line.toList.head?.any fun c => c == '✓' || c == '✗'

theorem looksLikeVerdict_append {s : String} (h : s ≠ "") (t : String) :
    looksLikeVerdict (s ++ t) = looksLikeVerdict s := by
  cases hs : s.toList with
  | nil => exact absurd (String.toList_eq_nil_iff.mp hs) h
  | cons c rest => simp [looksLikeVerdict, hs]

theorem DocumentReport.filter_looksLikeVerdict (d : DocumentReport) :
    (d.lines.map ReportLine.text).filter looksLikeVerdict = [d.heading.text] := by
  have hheading : looksLikeVerdict d.heading.text = true := by
    unfold heading
    split
    · simp only [String.append_assoc]
      rw [looksLikeVerdict_append (by decide)]
      decide
    · simp only [String.append_assoc]
      rw [looksLikeVerdict_append (by decide)]
      decide
  have hothers : ∀ line ∈ d.errorLines ++ d.warningLines ++ d.cancelledLines,
      looksLikeVerdict line.text = false := by
    have hcancelled : ∀ line ∈ d.cancelledLines, looksLikeVerdict line.text = false := by
      unfold cancelledLines
      split
      · exact List.forall_mem_singleton.mpr (by decide)
      · exact nofun
    rw [List.forall_mem_append, List.forall_mem_append, errorLines, warningLines,
      List.forall_mem_map, List.forall_mem_map]
    refine ⟨⟨fun e _ => ?_, fun w _ => ?_⟩, hcancelled⟩
    · rw [looksLikeVerdict_append (by decide)]
      decide
    · rw [looksLikeVerdict_append (by decide)]
      decide
  have hrest : ((d.errorLines ++ d.warningLines ++ d.cancelledLines).map ReportLine.text).filter
      looksLikeVerdict = [] := by
    rw [List.filter_eq_nil_iff, List.forall_mem_map]
    exact fun line hline => by simp [hothers line hline]
  rw [lines, List.cons_append, List.cons_append, List.map_cons, List.filter_cons_of_pos hheading,
    hrest]

/-- Only the headings of the documents look like verdicts. -/
theorem BatchReport.filter_looksLikeVerdict (b : BatchReport) :
    (b.lines.map ReportLine.text).filter looksLikeVerdict =
      b.documents.map fun d => d.heading.text := by
  have htotals : looksLikeVerdict b.totals.text = false := by
    have hdigits : ∀ n : Nat, looksLikeVerdict (toString n) = false := by
      intro n
      cases hn : (toString n).toList with
      | nil => rw [looksLikeVerdict, hn, List.head?_nil, Option.any_none]
      | cons c rest =>
        have hdigit : c.isDigit = true :=
          Text.isDigit_of_mem_toString (n := n) (hn ▸ List.mem_cons_self)
        have hmarks : c ≠ '✓' ∧ c ≠ '✗' := by
          constructor <;> rintro rfl <;> exact absurd hdigit (by decide)
        simp only [looksLikeVerdict, hn, List.head?_cons, Option.any_some, beq_eq_false_iff_ne.mpr,
          hmarks, ne_eq, not_false_eq_true, Bool.or_self]
    simp only [totals, String.append_assoc]
    rw [looksLikeVerdict_append (by simp), hdigits]
  have hend : ([{ text := "" }, b.totals].map ReportLine.text).filter looksLikeVerdict = [] := by
    have hblank : looksLikeVerdict "" = false := by decide
    simp [hblank, htotals]
  rw [lines, List.map_append, List.filter_append, hend, List.append_nil, List.map_flatMap,
    List.filter_flatMap]
  simp only [DocumentReport.filter_looksLikeVerdict]
  exact List.map_eq_flatMap.symm

end SettingsCheck
