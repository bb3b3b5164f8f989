import SettingsCheck.Text.Blank

namespace SettingsCheck

inductive Colour where
  | green
  | yellow
  | blue
  | brightBlue
  | boldRed
  | boldGreen
  deriving DecidableEq, Repr

namespace Colour

def code : Colour → String
  | green => "32"
  | yellow => "33"
  | blue => "34"
  | brightBlue => "94"
  | boldRed => "1;31"
  | boldGreen => "1;32"

def start (colour : Colour) : String := "\x1b[" ++ colour.code ++ "m"

def reset : String := "\x1b[0m"

/-- A text in a colour. Where the text itself goes back to no colour, the colour starts again. -/
def paint (colour : Colour) (text : String) : String :=
  colour.start ++ Text.replace reset (reset ++ colour.start) text ++ reset

end Colour

end SettingsCheck
