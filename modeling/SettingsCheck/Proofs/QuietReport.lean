import SettingsCheck.Output.Writer
import SettingsCheck.Proofs.ReportLines
import SettingsCheck.Proofs.Trimming

namespace SettingsCheck

namespace Text

/-- A number is read back from the text that begins with it. -/
theorem number_inj {m n : Nat} {c d : Char} {s t : List Char} (hc : c.isDigit = false)
    (hd : d.isDigit = false)
    (h : (toString m).toList ++ c :: s = (toString n).toList ++ d :: t) : m = n := by
  have hdigits : ∀ (k : Nat) (e : Char) (u : List Char), e.isDigit = false →
      ((toString k).toList ++ e :: u).takeWhile Char.isDigit = Nat.toDigits 10 k := by
    intro k e u he
    rw [List.takeWhile_append_of_pos fun _ hx => isDigit_of_mem_toString hx,
      List.takeWhile_cons_of_neg (by simp [he]), List.append_nil, Nat.toString_eq_repr,
      Nat.toList_repr]
  have hsame := congrArg (List.takeWhile Char.isDigit) h
  rw [hdigits m c s hc, hdigits n d t hd] at hsame
  calc m = Nat.ofDigitChars 10 (Nat.toDigits 10 m) 0 := Nat.ofDigitChars_ten_toDigits.symm
    _ = Nat.ofDigitChars 10 (Nat.toDigits 10 n) 0 := by rw [hsame]
    _ = n := Nat.ofDigitChars_ten_toDigits

theorem joinWith_concat {sep : String} {parts : List String} (h : parts ≠ []) (last : String) :
    joinWith sep (parts ++ [last]) = joinWith sep parts ++ sep ++ last := by
  rw [joinWith, String.intercalate_append_of_ne_nil h (List.cons_ne_nil last []),
    String.intercalate_singleton]
  rfl

theorem replaceFrom_eq_self {c : Char} {needle other s : List Char} (h : c ∉ s) :
    replaceFrom (c :: needle) other 0 s = s := by
  induction s with
  | nil => rfl
  | cons d s ih =>
    rw [List.mem_cons, not_or] at h
    have hno : ¬(c :: needle).isPrefixOf (d :: s) = true := by
      simp [List.isPrefixOf, h.1]
    rw [replaceFrom, if_neg hno, ih h.2]

end Text

open Text (joinWith)

/-- A text without colours of its own only gets a beginning and an end. -/
theorem Colour.paint_plain (colour : Colour) {text : String} (h : '\x1b' ∉ text.toList) :
    colour.paint text = colour.start ++ text ++ reset := by
  have hreset : reset.toList = '\x1b' :: "[0m".toList := rfl
  rw [paint, Text.replace, hreset, Text.replaceFrom_eq_self h, String.ofList_toList]

namespace BatchReport

variable {b c : BatchReport}

theorem not_escape_mem_totals (b : BatchReport) : '\x1b' ∉ b.totals.text.toList := by
  have hnumber : ∀ n : Nat, '\x1b' ∉ (toString n).toList := fun n h =>
    absurd (Text.isDigit_of_mem_toString h) (by decide)
  simp only [totals, String.toList_append, List.mem_append, hnumber, false_or, or_false]
  decide

theorem endsVisibly_totals (b : BatchReport) (colour : Bool) :
    Text.EndsVisibly (b.totals.render colour).toList := by
  have hplain : Text.EndsVisibly b.totals.text.toList := by
    have hword : Text.EndsVisibly " warning(s)".toList := ⟨" warning(s".toList, ')', rfl, by decide⟩
    refine hword.of_suffix ?_
    rw [totals, String.toList_append]
    exact List.suffix_append _ _
  have hreset : Text.EndsVisibly Colour.reset.toList := ⟨"\x1b[0".toList, 'm', rfl, by decide⟩
  cases colour with
  | false => exact hplain
  | true =>
    refine hreset.of_suffix ?_
    change Colour.reset.toList <:+ (Colour.paint _ b.totals.text).toList
    rw [Colour.paint, String.toList_append]
    exact List.suffix_append _ _

/-- Two summaries in the same words count the same number of valid documents. -/
theorem valid_count_of_totals (h : b.totals.text = c.totals.text) :
    b.documents.length - b.invalidDocuments.length =
      c.documents.length - c.invalidDocuments.length := by
  have hslash : "/".toList = ['/'] := rfl
  have hlist := congrArg String.toList h
  simp only [totals, String.toList_append, List.append_assoc, hslash, List.singleton_append]
    at hlist
  exact Text.number_inj (by decide) (by decide) hlist

theorem totals_text_of_render (hvalid : b.isValid = c.isValid) {colour : Bool}
    (h : b.totals.render colour = c.totals.render colour) : b.totals.text = c.totals.text := by
  cases colour with
  | false => exact h
  | true =>
    change (if b.isValid then Colour.boldGreen else .boldRed).paint b.totals.text =
      (if c.isValid then Colour.boldGreen else .boldRed).paint c.totals.text at h
    rw [hvalid, Colour.paint_plain _ b.not_escape_mem_totals,
      Colour.paint_plain _ c.not_escape_mem_totals, String.append_left_inj,
      String.append_right_inj] at h
    exact h

theorem isValid_failures (b : BatchReport) : b.failures.isValid = b.isValid := by
  rw [Bool.eq_iff_iff]
  simp only [isValid, failures, invalidDocuments, List.all_eq_true, List.mem_filter]
  refine ⟨fun h d hd => ?_, fun h d hd => h d hd.1⟩
  cases hvalid : d.report.isValid with
  | true => rfl
  | false => exact hvalid.symm.trans (h d ⟨hd, by rw [hvalid, Bool.not_false]⟩)

theorem valid_count_failures (b : BatchReport) :
    b.failures.documents.length - b.failures.invalidDocuments.length = 0 := by
  have hsame : b.failures.invalidDocuments = b.failures.documents := by
    rw [invalidDocuments, failures, invalidDocuments, List.filter_filter]
    simp
  rw [hsame, Nat.sub_self]

/-- The summaries before and after agree just if no document has been left out. -/
theorem totals_failures_iff (colour : Bool) :
    b.failures.totals.render colour = b.totals.render colour ↔
      ∀ d ∈ b.documents, d.report.isValid = false := by
  constructor
  · intro h
    have hcount := valid_count_of_totals (totals_text_of_render b.isValid_failures h)
    rw [valid_count_failures] at hcount
    have hall : b.documents.length ≤ b.invalidDocuments.length := by omega
    have hkept : b.invalidDocuments = b.documents :=
      List.filter_sublist.eq_of_length_le hall
    intro d hd
    rw [← hkept, invalidDocuments, List.mem_filter] at hd
    simpa using hd.2
  · intro h
    have hkept : b.invalidDocuments = b.documents :=
      List.filter_eq_self.mpr fun d hd => by rw [h d hd, Bool.not_false]
    rw [failures, hkept]

/-- The lines above the totals. -/
def body (b : BatchReport) : List ReportLine :=
  b.documents.flatMap DocumentReport.lines ++ [{ text := "" }]

theorem lines_eq (b : BatchReport) : b.lines = b.body ++ [b.totals] := by
  rw [lines, body, List.append_assoc]
  rfl

theorem joinWith_body (b : BatchReport) (colour : Bool) (last : ReportLine) :
    joinWith "\n" ((b.body ++ [last]).map (ReportLine.render colour)) =
      joinWith "\n" (b.body.map (ReportLine.render colour)) ++ "\n" ++ last.render colour := by
  have hsome : b.body.map (ReportLine.render colour) ≠ [] := by simp [body]
  rw [List.map_append, List.map_singleton, Text.joinWith_concat hsome]

/-- The lines of a report with the documents that they belong to. -/
def owned (b : BatchReport) : List (Option DocumentReport × ReportLine) :=
  b.documents.flatMap (fun d => d.lines.map fun line => (some d, line)) ++
    [(none, { text := "" }), (none, b.totals)]

/-- The lines of a report but those of the documents that pass. -/
def withoutPassing (b : BatchReport) : List ReportLine :=
  (b.owned.filter fun (owner, _) => !owner.any (·.report.isValid)).map Prod.snd

theorem map_snd_owned (b : BatchReport) : b.owned.map Prod.snd = b.lines := by
  simp [owned, lines, List.map_flatMap, Function.comp_def]

theorem snd_filter_owned (documents : List DocumentReport) :
    ((documents.flatMap fun d => d.lines.map fun line => (some d, line)).filter
      fun ((owner, _) : Option DocumentReport × ReportLine) =>
        !owner.any (·.report.isValid)).map Prod.snd =
      (documents.filter (!·.report.isValid)).flatMap DocumentReport.lines := by
  induction documents with
  | nil => rfl
  | cons d documents ih =>
    rw [List.flatMap_cons, List.filter_append, List.map_append, ih, List.filter_map,
      List.map_map]
    cases hvalid : d.report.isValid with
    | true => simp [hvalid, Function.comp_def]
    | false => simp [hvalid, Function.comp_def]

theorem withoutPassing_eq (b : BatchReport) :
    b.withoutPassing = b.failures.body ++ [b.totals] := by
  rw [withoutPassing, owned, List.filter_append, List.map_append, snd_filter_owned, body,
    List.append_assoc]
  rfl

/-- Nothing is cut off at the end of a report for people. -/
theorem trimEnd_humanText (b : BatchReport) (colour : Bool) :
    Text.trimEnd (b.humanText colour) = b.humanText colour := by
  have hvisible : Text.EndsVisibly (b.humanText colour).toList := by
    refine (b.endsVisibly_totals colour).of_suffix ?_
    rw [humanText, lines_eq, joinWith_body, String.toList_append]
    exact List.suffix_append _ _
  rw [Text.trimEnd, Text.dropEndWhile_eq_self hvisible, String.ofList_toList]

end BatchReport

namespace Writer

/-- In quiet mode the report of a failed batch loses the lines of the documents that pass, and its
totals are those of the others. So nothing else is lost just if no document passes. -/
theorem quiet_report_iff (b : BatchReport) (colour : Bool) (h : b.isValid = false) :
    (⟨.human, colour, false⟩ : Writer).text (.report b) =
        ended (joinWith "\n" (b.owned.map fun l => l.2.render colour)) ∧
      (⟨.human, colour, true⟩ : Writer).text (.report b) =
        ended (joinWith "\n" ((b.withoutPassing.dropLast ++ [b.failures.totals]).map
          (ReportLine.render colour))) ∧
      ((⟨.human, colour, true⟩ : Writer).text (.report b) =
          ended (joinWith "\n" (b.withoutPassing.map (ReportLine.render colour))) ↔
        ∀ d ∈ b.documents, d.report.isValid = false) := by
  have hquiet : (⟨.human, colour, true⟩ : Writer).text (.report b) =
      ended (b.failures.humanText colour) := by
    simp [text, h]
  have htotals : b.failures.humanText colour = joinWith "\n"
      ((b.failures.body ++ [b.failures.totals]).map (ReportLine.render colour)) := by
    rw [BatchReport.humanText, BatchReport.lines_eq]
  refine ⟨?_, ?_, ?_⟩
  · have hlines : b.owned.map (fun l => l.2.render colour) =
        b.lines.map (ReportLine.render colour) := by
      rw [← BatchReport.map_snd_owned, List.map_map]
      rfl
    rw [hlines]
    change ended (Text.trimEnd (b.humanText colour)) = _
    rw [BatchReport.trimEnd_humanText]
    rfl
  · rw [hquiet, htotals, BatchReport.withoutPassing_eq, List.dropLast_concat]
  · rw [hquiet, htotals, BatchReport.withoutPassing_eq, BatchReport.joinWith_body,
      BatchReport.joinWith_body, ← BatchReport.totals_failures_iff colour, ended, ended,
      String.append_left_inj, String.append_right_inj]

namespace Sample

/-- One document passes, and one has no name. -/
def halfPassed : BatchReport :=
  ⟨[⟨"a.yaml", {}⟩, ⟨"b.yaml", { errors := [.missingField (FieldPath.root.key "name")] }⟩]⟩

theorem passed_document_not_counted :
    halfPassed.isValid = false ∧ (⟨.human, false, true⟩ : Writer).text (.report halfPassed) ≠
      ended (joinWith "\n" (halfPassed.withoutPassing.map (ReportLine.render false))) := by
  have hvalid : halfPassed.isValid = false := by decide
  refine ⟨hvalid, fun h => ?_⟩
  have hall := (quiet_report_iff halfPassed false hvalid).2.2.mp h
  exact absurd (hall ⟨"a.yaml", {}⟩ List.mem_cons_self) (by decide)

theorem totals_changed : ¬∀ (b : BatchReport) (colour : Bool), b.isValid = false →
    (⟨.human, colour, true⟩ : Writer).text (.report b) =
      ended (joinWith "\n" (b.withoutPassing.map (ReportLine.render colour))) := by
  intro h
  have hsame := h halfPassed false (by decide)
  have hquiet : (⟨.human, false, true⟩ : Writer).text (.report halfPassed) =
      "✗ b.yaml: 1 error(s)\n    name: required field 'name' is missing\n\n" ++
        "0/1 document(s) valid, 1 error(s), 0 warning(s)\n" := by
    decide
  have hexpected :
      ended (joinWith "\n" (halfPassed.withoutPassing.map (ReportLine.render false))) =
        "✗ b.yaml: 1 error(s)\n    name: required field 'name' is missing\n\n" ++
          "1/2 document(s) valid, 1 error(s), 0 warning(s)\n" := by
    decide
  rw [hquiet, hexpected] at hsame
  exact absurd hsame (by decide)

end Sample

end Writer

end SettingsCheck
