import DatasetPicker.Screen.Frame

/-!
# Drawing on a terminal

A terminal is driven by commands, each of which is written as an escape sequence; text
stands between them as it is.
-/

namespace DatasetPicker.Terminal

/-- A command to a terminal, or text on it. -/
inductive Draw where
  | enterScreen
  | leaveScreen
  | captureMouse
  | releaseMouse
  | hideCursor
  | showCursor
  /-- What follows is shown at once at the end of the update. -/
  | beginUpdate
  | endUpdate
  | clear
  | moveTo (column row : Nat)
  | foreground (colour : Screen.Colour)
  | bold
  | dim
  | underline
  | print (text : String)
  /-- Ends all styles. -/
  | plain
  | newLine
  deriving DecidableEq, Repr

namespace Draw

/-- The beginning of an escape sequence. -/
def escape : String := "\x1b["

/-- The escape sequence that selects a foreground colour. -/
def colourSequence : Screen.Colour → String
  | .darkGrey => escape ++ "38;5;8m"
  | .red => escape ++ "38;5;9m"
  | .cyan => escape ++ "38;5;6m"
  | .rgb colour =>
    escape ++ "38;2;" ++ toString colour.red.toNat ++ ";" ++ toString colour.green.toNat ++
      ";" ++ toString colour.blue.toNat ++ "m"

/-- The text of a command. Rows and columns are counted from one. -/
def write : Draw → String
  | .enterScreen => escape ++ "?1049h"
  | .leaveScreen => escape ++ "?1049l"
  | .captureMouse =>
    String.join (["?1000h", "?1002h", "?1003h", "?1015h", "?1006h"].map (escape ++ ·))
  | .releaseMouse =>
    String.join (["?1006l", "?1015l", "?1003l", "?1002l", "?1000l"].map (escape ++ ·))
  | .hideCursor => escape ++ "?25l"
  | .showCursor => escape ++ "?25h"
  | .beginUpdate => escape ++ "?2026h"
  | .endUpdate => escape ++ "?2026l"
  | .clear => escape ++ "2J"
  | .moveTo column row => escape ++ toString (row + 1) ++ ";" ++ toString (column + 1) ++ "H"
  | .foreground colour => colourSequence colour
  | .bold => escape ++ "1m"
  | .dim => escape ++ "2m"
  | .underline => escape ++ "4m"
  | .print text => text
  | .plain => escape ++ "0m" ++ escape ++ "0m"
  | .newLine => "\r\n"

/-- The text of commands in order. -/
def writeAll (draws : List Draw) : String := String.join (draws.map write)

end Draw

end DatasetPicker.Terminal
