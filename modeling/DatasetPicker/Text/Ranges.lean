/-!
# Sets of characters by code point

A character property of Unicode is written down as its ranges of code points, in
ascending order and without overlap. Membership needs no more than one walk, which
stops at the first range beyond the character.
-/

namespace DatasetPicker.Text

/-- Inclusive ranges of code points, ascending and apart from each other. -/
abbrev Ranges := List (Nat × Nat)

/-- A code point belongs to the ranges when one of them holds it. -/
def Ranges.holds (point : Nat) : Ranges → Bool
  | [] => false
  | (first, last) :: rest =>
    if point < first then false
    else if point ≤ last then true
    else holds point rest

/-- A character belongs to the ranges when its code point does. -/
def Ranges.contains (ranges : Ranges) (char : Char) : Bool :=
  ranges.holds char.toNat

end DatasetPicker.Text
