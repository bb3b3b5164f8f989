import SettingsCheck.Output.Format
import SettingsCheck.Output.HumanReport
import SettingsCheck.Output.Record

namespace SettingsCheck

inductive Message where
  | line (text : String)
  | info (text : String)
  | success (text : String)
  | warning (text : String)
  /-- The title of what follows. -/
  | heading (title : String)
  | data (tree : Json)
  | report (batch : BatchReport)

structure Writer where
  format : OutputFormat
  colour : Bool
  /-- Only failures and warnings are written for people. -/
  quiet : Bool

namespace Writer

def ended (text : String) : String := text ++ "\n"

/-- Status messages are for people who did not ask for quiet. -/
def showsStatus (w : Writer) : Bool := w.format = .human && !w.quiet

/-- What is written for a message; nothing is possible. -/
def text (w : Writer) : Message → String
  | .line text => ended text
  | .info text =>
    if !w.showsStatus then ""
    else if w.colour then ended (Colour.blue.paint "ℹ" ++ " " ++ text)
    else ended ("INFO: " ++ text)
  | .success text =>
    if !w.showsStatus then ""
    else ended (if w.colour then Colour.green.paint text else text)
  | .warning text =>
    if w.format ≠ .human then ""
    else ended (if w.colour then Colour.yellow.paint text else "WARNING: " ++ text)
  | .heading title =>
    if !w.showsStatus then ""
    else ended "" ++ ended (if w.colour then Colour.brightBlue.paint ("═══ " ++ title ++ " ═══")
      else "=== " ++ title ++ " ===")
  | .data tree => ended (Text.trimEnd (w.format.render tree))
  | .report batch =>
    if w.format ≠ .human then ended (Text.trimEnd (w.format.render batch.summary))
    else if !w.quiet then ended (Text.trimEnd (batch.humanText w.colour))
    else if batch.isValid then ""
    else ended (batch.failures.humanText w.colour)

/-- All that is written for some messages. -/
def output (w : Writer) (messages : List Message) : String :=
  String.join (messages.map w.text)

end Writer

end SettingsCheck
