import DatasetPicker.Failure
import DatasetPicker.Json.Fields
import DatasetPicker.Json.Reader
import DatasetPicker.Json.Writer
import DatasetPicker.Text.Blank

/-!
# Colours

A colour has three channels of eight bits. It is written as `#rrggbb` or `#rgb` in the
colour pool and as an array of three numbers in a colour scale.
-/

namespace DatasetPicker.Config

/-- A colour. -/
structure Rgb where
  red : UInt8
  green : UInt8
  blue : UInt8
  deriving DecidableEq, Repr

namespace Rgb

/-- The value of one or two hexadecimal digits. A plus sign may stand for the first digit
of two. -/
def channel? : List Char → Option Nat
  | [digit] => Json.hexDigit? digit
  | ['+', digit] => Json.hexDigit? digit
  | [high, low] => do return (← Json.hexDigit? high) * 16 + (← Json.hexDigit? low)
  | _ => none

/-- The colour of three or six digits; a single digit stands for itself doubled. -/
def ofDigits? : List Char → Option Rgb
  | [r1, r2, g1, g2, b1, b2] => do
    let red ← channel? [r1, r2]
    let green ← channel? [g1, g2]
    let blue ← channel? [b1, b2]
    return ⟨.ofNat red, .ofNat green, .ofNat blue⟩
  | [r, g, b] => do
    let red ← channel? [r]
    let green ← channel? [g]
    let blue ← channel? [b]
    return ⟨.ofNat (red * 17), .ofNat (green * 17), .ofNat (blue * 17)⟩
  | _ => none

/-- The colour that a text names, with blanks around it. -/
def ofText? (text : String) : Option Rgb :=
  match Text.trim text.toList with
  | '#' :: digits => ofDigits? digits
  | _ => none

/-- Reads a colour; a refused text is given back as it was. -/
def read (text : String) : Except Failure Rgb :=
  match ofText? text with
  | some colour => .ok colour
  | none => .error (.invalidColour text)

/-- A channel in a tree. -/
def channelOfTree? (tree : Json.Tree) : Option UInt8 := (tree.natural? 256).map .ofNat

/-- A colour in a tree: an array of exactly three channels. -/
def ofTree? : Json.Tree → Option Rgb
  | .array [red, green, blue] => do
    return ⟨← channelOfTree? red, ← channelOfTree? green, ← channelOfTree? blue⟩
  | _ => none

/-- Writes a colour as an array. -/
def write (colour : Rgb) : List Char :=
  Json.writeArray
    [Json.writeNatural colour.red.toNat, Json.writeNatural colour.green.toNat,
      Json.writeNatural colour.blue.toNat]

end Rgb

end DatasetPicker.Config
