/-!
# Blank characters

White space as Unicode defines it, and a text without the blanks around it.
-/

namespace DatasetPicker.Text

/-- The characters of Unicode's property `White_Space`. -/
def isBlank (char : Char) : Bool :=
  let point := char.toNat
  (0x09 ≤ point && point ≤ 0x0D) || point == 0x20 || point == 0x85 || point == 0xA0 ||
    point == 0x1680 || (0x2000 ≤ point && point ≤ 0x200A) || point == 0x2028 ||
    point == 0x2029 || point == 0x202F || point == 0x205F || point == 0x3000

/-- Drops the blanks at both ends and keeps those inside. -/
def trim (chars : List Char) : List Char :=
  ((chars.dropWhile isBlank).reverse.dropWhile isBlank).reverse

end DatasetPicker.Text
