import SettingsCheck.Batch
import SettingsCheck.Output.Colour

namespace SettingsCheck

/-- A line of output, and its colour where colours are in use. -/
structure ReportLine where
  colour : Option Colour := none
  text : String
  deriving DecidableEq, Repr

def ReportLine.render (useColour : Bool) (line : ReportLine) : String :=
  match line.colour with
  | some colour => if useColour then colour.paint line.text else line.text
  | none => line.text

namespace DocumentReport

def heading (d : DocumentReport) : ReportLine :=
  if d.report.isValid then
    { colour := Colour.green
      text := "✓ " ++ d.name ++ ": valid" ++
        if d.report.checksRun > 0 then " (" ++ toString d.report.checksRun ++ " remote check(s))"
        else "" }
  else
    { colour := Colour.boldRed
      text := "✗ " ++ d.name ++ ": " ++ toString d.report.errors.length ++ " error(s)" }

def errorLines (d : DocumentReport) : List ReportLine :=
  d.report.errors.map fun e => { text := "    " ++ e.text }

def warningLines (d : DocumentReport) : List ReportLine :=
  d.report.warnings.map fun w => { colour := Colour.yellow, text := "    warning: " ++ w.text }

def cancelledLines (d : DocumentReport) : List ReportLine :=
  if d.report.cancelled then
    [{ colour := Colour.yellow, text := "    remote checks were cancelled" }]
  else []

/-- The lines of one document. -/
def lines (d : DocumentReport) : List ReportLine :=
  d.heading :: d.errorLines ++ d.warningLines ++ d.cancelledLines

end DocumentReport

namespace BatchReport

def totals (b : BatchReport) : ReportLine where
  colour := some (if b.isValid then .boldGreen else .boldRed)
  text := toString (b.documents.length - b.invalidDocuments.length) ++ "/" ++
    toString b.documents.length ++ " document(s) valid, " ++ toString b.totalErrors ++
    " error(s), " ++ toString b.totalWarnings ++ " warning(s)"

/-- The lines of all documents, an empty one, and the totals. -/
def lines (b : BatchReport) : List ReportLine :=
  b.documents.flatMap DocumentReport.lines ++ [{ text := "" }, b.totals]

/-- What is left of a report when only failures count. -/
def failures (b : BatchReport) : BatchReport := ⟨b.invalidDocuments⟩

/-- The report for people, without a line break at its end. -/
def humanText (useColour : Bool) (b : BatchReport) : String :=
  Text.joinWith "\n" (b.lines.map (ReportLine.render useColour))

end BatchReport

end SettingsCheck
