import DatasetPicker.Config.Store
import DatasetPicker.Screen.Style

/-!
# Palette

The colours of the header: an accent, and a scale that tints the bullets of the results.
-/

namespace DatasetPicker

open Screen (Colour)

/-- The colours of the header. -/
structure Palette where
  accent : Colour := .cyan
  scale : List Colour := []
  deriving DecidableEq, Repr

namespace Palette

/-- The palette of a configuration: the accent is the first colour of the pool that can be
read. -/
def ofStore (store : Config.Store) : Palette :=
  { accent := ((store.colourPool.findSome? Config.Rgb.ofText?).map .rgb).getD .cyan
    scale := store.colourScale.map .rgb }

/-- The position in a scale of `size` colours for an index among `count` results: the first
result takes the first colour and the last one the last colour. The product is taken in a
machine word, so one that does not fit wraps around. -/
def shadeIndex (size index count : Nat) : Nat :=
  let span := max (count - 1) 1
  min index span * (size - 1) % UInt64.size / span

/-- The colour for an index among `count` results. -/
def shade (palette : Palette) (index count : Nat) : Colour :=
  (palette.scale[shadeIndex palette.scale.length index count]?).getD .darkGrey

end Palette

end DatasetPicker
