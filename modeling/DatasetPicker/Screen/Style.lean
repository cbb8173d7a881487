import DatasetPicker.Config.Rgb

/-!
# Styles

How a piece of text is shown: a colour of its own or that of the terminal, and the
emphases it has.
-/

namespace DatasetPicker.Screen

/-- A colour on the screen: one of the terminal's own, or one by its channels. -/
inductive Colour where
  | darkGrey
  | red
  | cyan
  | rgb (colour : Config.Rgb)
  deriving DecidableEq, Repr

/-- The style of a piece of text. -/
structure Style where
  colour : Option Colour := none
  bold : Bool := false
  dim : Bool := false
  underline : Bool := false
  deriving DecidableEq, Repr

end DatasetPicker.Screen
