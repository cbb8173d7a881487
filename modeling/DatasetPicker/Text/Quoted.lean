import DatasetPicker.Text.Quoted.Tables

/-!
# Quoted text

The written form of a text inside a journal line: between double quotes, with every
character that would not be seen as itself spelled out. A single character is written
between single quotes by the same rule. The quote in use is the only one escaped.
-/

namespace DatasetPicker.Text.Quoted

/-- The digits of a number in lower-case hexadecimal. -/
def hexadecimal (number : Nat) : List Char := Nat.toDigits 16 number

/-- Spells a character by its code point. -/
def byCodePoint (char : Char) : List Char :=
  ['\\', 'u', '\x7b'] ++ hexadecimal char.toNat ++ ['\x7d']

/-- Writes one character as it stands between two `quote` characters. -/
def escape (quote : Char) (char : Char) : List Char :=
  if char = '\x00' then ['\\', '0']
  else if char = '\t' then ['\\', 't']
  else if char = '\r' then ['\\', 'r']
  else if char = '\n' then ['\\', 'n']
  else if char = '\\' then ['\\', '\\']
  else if char = quote then ['\\', quote]
  else if 0x20 ≤ char.toNat ∧ char.toNat < 0x7F then [char]
  else if extenders.contains char || unprintables.contains char then byCodePoint char
  else [char]

/-- Writes a text between double quotes. -/
def text (content : String) : String :=
  String.ofList ('"' :: content.toList.flatMap (escape '"') ++ ['"'])

/-- Writes a character between single quotes. -/
def char (content : Char) : String :=
  String.ofList ('\'' :: escape '\'' content ++ ['\''])

/-- Writes a list of texts between brackets, separated by commas. -/
def texts (contents : List String) : String :=
  "[" ++ ", ".intercalate (contents.map text) ++ "]"

end DatasetPicker.Text.Quoted
