/-!
# Layout

Where the parts of the header lie on the screen, so that a click finds what it is on.
-/

namespace DatasetPicker

/-- Columns from `start` up to, but not including, `stop`. -/
structure Extent where
  start : Nat := 0
  stop : Nat := 0
  deriving DecidableEq, Repr

/-- A column lies within the extent. -/
def Extent.contains (extent : Extent) (column : Nat) : Bool :=
  extent.start ≤ column && column < extent.stop

/-- The places of the parts. -/
structure Layout where
  logo : Extent := {}
  selector : Extent := {}
  /-- The row of the first result. -/
  resultsRow : Nat := 0
  /-- The index of the result on each row from there on. -/
  resultRows : List Nat := []
  deriving DecidableEq, Repr

namespace Layout

/-- The point is on the logo. -/
def hitsLogo (layout : Layout) (column row : Nat) : Bool :=
  row == 0 && layout.logo.contains column

/-- The point is on the selector. -/
def hitsSelector (layout : Layout) (column row : Nat) : Bool :=
  row == 0 && layout.selector.contains column

/-- The index of the result on a row. -/
def resultAt? (layout : Layout) (row : Nat) : Option Nat :=
  if layout.resultsRow ≤ row then layout.resultRows[row - layout.resultsRow]? else none

end Layout

end DatasetPicker
