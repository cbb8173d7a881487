import DatasetPicker.Screen.Style
import DatasetPicker.Text.Width

/-!
# Frames

A frame is what a screen shows: lines of styled pieces and perhaps a cursor. Columns on a
screen are counted up to 65535; what lies further right counts as that.
-/

namespace DatasetPicker.Screen

/-- A piece of text in one style. -/
structure Span where
  text : String
  style : Style := {}
  deriving DecidableEq, Repr

/-- The columns of a span. -/
def Span.width (span : Span) : Nat := Text.columns span.text

/-- A line of spans from left to right. -/
abbrev Line := List Span

/-- The columns of a line: those of its spans together. -/
def Line.width (line : Line) : Nat := line.foldr (Span.width · + ·) 0

/-- The text of a line. -/
def Line.text (line : Line) : String := String.join (line.map Span.text)

/-- A place on the screen. -/
structure Place where
  column : Nat
  row : Nat
  deriving DecidableEq, Repr

/-- What a screen shows. -/
structure Frame where
  lines : List Line := []
  cursor : Option Place := none
  deriving DecidableEq, Repr

/-- The last column that a screen can have. -/
def greatestColumn : Nat := 65535

/-- The column that a width reaches. -/
def columnAt (width : Nat) : Nat := min width greatestColumn

/-- A text of some blanks. -/
def blanks (count : Nat) : String := String.ofList (List.replicate count ' ')

end DatasetPicker.Screen
