import SettingsCheck.Batch
import SettingsCheck.Document.Conversion

namespace SettingsCheck

def ValidationError.toJson (e : ValidationError) : Json :=
  .object <| [("path", .string e.path.text), ("message", .string e.message),
    ("kind", .string e.kind.name)] ++ match e.validator with
      | some name => [("validator", .string name)]
      | none => []

def Warning.toJson (w : Warning) : Json :=
  .object [("path", .string w.path.text), ("message", .string w.message)]

def DocumentReport.toJson (d : DocumentReport) : Json :=
  .object [("name", .string d.name),
    ("errors", .array (d.report.errors.map ValidationError.toJson)),
    ("warnings", .array (d.report.warnings.map Warning.toJson)),
    ("async_checks_run", .integer d.report.checksRun),
    ("cancelled", .bool d.report.cancelled)]

/-- The whole run with its totals. -/
def BatchReport.summary (b : BatchReport) : Json :=
  .object [("valid", .bool b.isValid), ("total_errors", .integer b.totalErrors),
    ("total_warnings", .integer b.totalWarnings), ("cancelled", .bool b.cancelled),
    ("documents", .array (b.documents.map DocumentReport.toJson))]

end SettingsCheck
