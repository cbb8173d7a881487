import DatasetPicker.Terminal.Draw
import DatasetPicker.Terminal.Event

/-!
# The display

The display draws frames on a screen of its own, cut off at the right and at the bottom.
When it is left, the first line of the last frame stays behind on the ordinary screen.
-/

namespace DatasetPicker.Terminal

open Screen (Frame Line Span Style)

/-- The display: its size, and the lines of the last frame. -/
structure Display where
  size : Size
  lastFrame : List Line := []
  deriving DecidableEq, Repr

/-- A character that may be printed within a line. -/
def isPrintable (char : Char) : Bool := char != '\n' && char != '\r'

/-- The characters at the head of a text that fit into a number of columns. -/
def fitting (room : Nat) : List Char → List Char
  | [] => []
  | char :: rest =>
    let width := Text.charColumns char
    if width ≤ room then char :: fitting (room - width) rest else []

/-- The columns of characters, each by itself. -/
def columns (chars : List Char) : Nat := chars.foldr (Text.charColumns · + ·) 0

/-- The part of a text that is printed in a number of columns. -/
def clip (room : Nat) (text : String) : List Char := fitting room (text.toList.filter isPrintable)

/-- The commands that set a style. -/
def styleDraws (style : Style) : List Draw :=
  (style.colour.map Draw.foreground).toList ++ (if style.bold then [.bold] else []) ++
    (if style.dim then [.dim] else []) ++ (if style.underline then [.underline] else [])

/-- Draws the spans of a line in a number of columns. -/
def lineDraws (room : Nat) : Line → List Draw
  | [] => []
  | span :: rest =>
    if room = 0 then []
    else
      let clipped := clip room span.text
      if clipped.isEmpty then lineDraws room rest
      else
        styleDraws span.style ++ [.print (String.ofList clipped), .plain] ++
          lineDraws (room - columns clipped) rest

/-- Draws lines from a row on. -/
def rowsDraws (width row : Nat) : List Line → List Draw
  | [] => []
  | line :: rest => .moveTo 0 row :: lineDraws width line ++ rowsDraws width (row + 1) rest

/-- Shows the cursor, if it lies on the screen; too far right it stands in the last
column. -/
def cursorDraws (size : Size) (cursor : Option Screen.Place) : List Draw :=
  match cursor with
  | some place =>
    if place.row < size.height then
      [.moveTo (min place.column (size.width - 1)) place.row, .showCursor]
    else []
  | none => []

namespace Display

/-- Goes to the display's own screen, of which the size is given. -/
def enter (display : Display) (size : Size) : Display × List Draw :=
  ({ display with size }, [.enterScreen, .captureMouse, .hideCursor])

/-- Draws a frame. A screen without columns or rows is left alone. -/
def render (display : Display) (frame : Frame) : Display × List Draw :=
  let size := display.size
  if size.height = 0 ∨ size.width = 0 then (display, [])
  else
    ({ display with lastFrame := frame.lines },
      [.beginUpdate, .hideCursor, .moveTo 0 0, .clear] ++
        rowsDraws size.width 0 (frame.lines.take size.height) ++
        cursorDraws size frame.cursor ++ [.endUpdate])

/-- Returns to the ordinary screen and leaves the first line of the last frame there. -/
def leave (display : Display) : Display × List Draw :=
  let kept := match display.lastFrame with
    | [] => []
    | line :: _ => lineDraws display.size.width line ++ [.newLine]
  ({ display with lastFrame := [] }, [.releaseMouse, .leaveScreen, .showCursor] ++ kept)

/-- Takes another size. -/
def resize (display : Display) (size : Size) : Display := { display with size }

end Display

end DatasetPicker.Terminal
