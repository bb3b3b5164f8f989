import SettingsCheck.Output.Format
import SettingsCheck.Output.Record
import SettingsCheck.Proofs.Trimming

namespace SettingsCheck

open Text

namespace Json

theorem endsVisibly_brace (before : String) : EndsVisibly (before ++ "\x7d").toList := by
  have hbrace : "\x7d".toList = ['\x7d'] := rfl
  exact ⟨before.toList, '\x7d', by rw [String.toList_append, hbrace], by decide⟩

theorem endsVisibly_compact (entries : List (String × Json)) :
    EndsVisibly (object entries).compact.toList := by
  rw [compact]
  exact endsVisibly_brace _

theorem endsVisibly_pretty (entry : String × Json) (rest : List (String × Json)) (depth : Nat) :
    EndsVisibly ((object (entry :: rest)).pretty depth).toList := by
  rw [pretty]
  · exact endsVisibly_brace _
  · exact List.cons_ne_nil entry rest

end Json

namespace Yaml.Layout

theorem suffix_onNewLine (before after : List Char) (indent : Nat) :
    after <:+ onNewLine before indent after :=
  List.suffix_append _ _

theorem isBlank_of_breaksLine {c : Char} (h : breaksLine c = true) : Text.isBlank c = true := by
  simp only [breaksLine, isBreak, Bool.or_eq_true, beq_iff_eq] at h
  rcases h with (((rfl | rfl) | rfl) | rfl) | rfl <;> decide

theorem onNewLine_of_endsVisibly {before : List Char} (h : EndsVisibly before) :
    onNewLine before 0 [] = before ++ ['\n'] := by
  obtain ⟨init, c, rfl, hc⟩ := h
  have hbreak : endsWithBreak (init ++ [c]) = false := by
    rw [endsWithBreak, List.getLast?_concat, Option.any_some]
    cases hb : breaksLine c with
    | false => rfl
    | true =>
      rw [isBlank_of_breaksLine hb] at hc
      cases hc
  rw [onNewLine, hbreak]
  simp [margin]

/-- The text ends as its last line does. -/
theorem suffix_stack (indent : Nat) (lines : List (List Char)) (last : List Char) :
    last <:+ stack indent (lines ++ [last]) := by
  cases lines with
  | nil => exact List.suffix_rfl
  | cons line rest =>
    rw [List.cons_append, stack, List.foldl_append]
    exact suffix_onNewLine _ _ _

theorem itemLines_eq_map (indent : Nat) (items : List Json) :
    itemLines indent items = items.map fun item => '-' :: ' ' :: block (indent + 2) item := by
  induction items with
  | nil => rfl
  | cons item rest ih => rw [itemLines, ih, List.map_cons]

/-- A list under a name ends as its last item does. -/
theorem suffix_items (indent : Nat) (items : List Json) (last : Json) :
    block (indent + 2) last <:+ named indent (.array (items ++ [last])) := by
  have hnamed : named indent (.array (items ++ [last])) =
      onNewLine [] indent (stack indent (itemLines indent (items ++ [last]))) := by
    cases items <;> rfl
  have hline := List.suffix_append ['-', ' '] (block (indent + 2) last)
  rw [hnamed, itemLines_eq_map, List.map_append, List.map_singleton]
  exact (hline.trans (suffix_stack indent _ _)).trans (suffix_onNewLine _ _ _)

theorem entryLines_append (indent : Nat) (entries more : List (String × Json)) :
    entryLines indent (entries ++ more) = entryLines indent entries ++ entryLines indent more := by
  induction entries with
  | nil => rfl
  | cons entry rest ih =>
    obtain ⟨name, item⟩ := entry
    rw [List.cons_append, entryLines, entryLines, ih, List.cons_append]

/-- A mapping ends as its last entry does. -/
theorem suffix_entries (indent : Nat) (entries : List (String × Json)) {name : String}
    (hname : isSimpleName name = true) (last : Json) :
    named indent last <:+ stack indent (entryLines indent (entries ++ [(name, last)])) := by
  have hline : entryLines indent [(name, last)] =
      [scalarText indent name ++ ':' :: named indent last] := by
    rw [entryLines, if_pos hname, entryLines]
  have hsuffix := List.suffix_append (scalarText indent name ++ [':']) (named indent last)
  rw [List.append_assoc, List.singleton_append] at hsuffix
  rw [entryLines_append, hline]
  exact hsuffix.trans (suffix_stack indent _ _)

end Yaml.Layout

namespace BatchReport

open Yaml.Layout

/-- A report ends with the word that tells whether its check was cancelled. -/
theorem endsVisibly_document (d : DocumentReport) (indent : Nat) :
    EndsVisibly (block indent d.toJson) := by
  have hword : EndsVisibly (named indent (.bool d.report.cancelled)) := by
    cases d.report.cancelled with
    | false => exact ⟨" fals".toList, 'e', rfl, by decide⟩
    | true => exact ⟨" tru".toList, 'e', rfl, by decide⟩
  have hname : isSimpleName "cancelled" = true := by decide
  exact hword.of_suffix (suffix_entries indent
    [("name", .string d.name), ("errors", .array (d.report.errors.map ValidationError.toJson)),
      ("warnings", .array (d.report.warnings.map Warning.toJson)),
      ("async_checks_run", .integer d.report.checksRun)] hname (.bool d.report.cancelled))

theorem endsVisibly_documents (documents : List DocumentReport) (indent : Nat) :
    EndsVisibly (named indent (.array (documents.map DocumentReport.toJson))) := by
  rcases List.eq_nil_or_concat documents with rfl | ⟨others, last, rfl⟩
  · exact ⟨" [".toList, ']', rfl, by decide⟩
  · rw [List.concat_eq_append, List.map_append, List.map_singleton]
    exact (endsVisibly_document last (indent + 2)).of_suffix (suffix_items indent _ _)

theorem endsVisibly_summary (b : BatchReport) : EndsVisibly (block 0 b.summary) := by
  have hname : isSimpleName "documents" = true := by decide
  exact (endsVisibly_documents b.documents 0).of_suffix (suffix_entries 0
    [("valid", .bool b.isValid), ("total_errors", .integer b.totalErrors),
      ("total_warnings", .integer b.totalWarnings), ("cancelled", .bool b.cancelled)] hname
    (.array (b.documents.map DocumentReport.toJson)))

/-- Cutting blanks off the end of a summary takes nothing away but the line break of YAML. -/
theorem trimEnd_render_summary (b : BatchReport) {format : OutputFormat} (h : format ≠ .human) :
    Text.trimEnd (format.render b.summary) =
      match format with
      | .human | .jsonPretty => b.summary.pretty 0
      | .json => b.summary.compact
      | .yaml => String.ofList (block 0 b.summary) := by
  have hself : ∀ text : String, EndsVisibly text.toList → Text.trimEnd text = text :=
    fun text hvisible => by rw [Text.trimEnd, dropEndWhile_eq_self hvisible, String.ofList_toList]
  cases format with
  | human => exact absurd rfl h
  | json => exact hself _ (Json.endsVisibly_compact _)
  | jsonPretty => exact hself _ (Json.endsVisibly_pretty _ _ _)
  | yaml =>
    have htext : OutputFormat.yaml.render b.summary =
        String.ofList (block 0 b.summary ++ ['\n']) :=
      congrArg String.ofList (onNewLine_of_endsVisibly (endsVisibly_summary b))
    rw [htext, Text.trimEnd, String.toList_ofList, dropEndWhile_break (endsVisibly_summary b)]

end BatchReport

end SettingsCheck
