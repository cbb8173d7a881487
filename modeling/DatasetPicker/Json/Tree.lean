/-!
# Syntax trees of JSON

A document is read into a tree before anything is made of it. The tree keeps what a later
reading may need: the digits of a number as they were written, the members of an object
in their order and with repeated names, and whether a string spells Unicode text at all.
-/

namespace DatasetPicker.Json

/-- The exponent of a written number. -/
structure Exponent where
  negative : Bool
  digits : List Char
  deriving DecidableEq, Repr

/-- A number as it is written: digits before the point, digits after it, an exponent. -/
structure Numeral where
  negative : Bool
  whole : List Char
  fraction : List Char := []
  exponent : Option Exponent := none
  deriving DecidableEq, Repr

/-- The content of a string; none when its escapes name half of a pair that is not there. -/
abbrev Content := Option String

/-- The tree of a document. -/
inductive Tree where
  | null
  | bool (value : Bool)
  | number (numeral : Numeral)
  | string (content : Content)
  | array (items : List Tree)
  | object (members : List (Content × Tree))
  deriving Repr, Inhabited

/-- The number that decimal digits stand for. -/
def decimal (digits : List Char) : Nat :=
  digits.foldl (fun value digit => value * 10 + (digit.toNat - '0'.toNat)) 0

/-- The natural number that a numeral writes, when it has neither sign nor fraction nor
exponent. -/
def Numeral.natural? (numeral : Numeral) : Option Nat :=
  if numeral.negative || !numeral.fraction.isEmpty || numeral.exponent.isSome then none
  else some (decimal numeral.whole)

end DatasetPicker.Json
