import DatasetPicker.Json.Value
import DatasetPicker.Text.Quoted

/-!
# Writing JSON

Documents are written without blanks. In a string only quotes, backslashes and controls
are escaped; the common controls have an escape of one letter and the others are given by
four hexadecimal digits.
-/

namespace DatasetPicker.Json

/-- A hexadecimal digit in lower case. -/
def hexDigit (value : Nat) : Char := Nat.digitChar value

/-- Writes one character of a string. -/
def escape (char : Char) : List Char :=
  if char = '"' then ['\\', '"']
  else if char = '\\' then ['\\', '\\']
  else if char = '\x08' then ['\\', 'b']
  else if char = '\t' then ['\\', 't']
  else if char = '\n' then ['\\', 'n']
  else if char = '\x0c' then ['\\', 'f']
  else if char = '\r' then ['\\', 'r']
  else if char.toNat < 0x20 then
    ['\\', 'u', '0', '0', hexDigit (char.toNat / 16), hexDigit (char.toNat % 16)]
  else [char]

/-- Writes a string with its quotes. -/
def writeString (content : String) : List Char :=
  '"' :: content.toList.flatMap escape ++ ['"']

/-- Writes an integer. -/
def writeInteger (value : Int) : List Char :=
  (if value < 0 then ['-'] else []) ++ Nat.toDigits 10 value.natAbs

/-- Writes a natural number. -/
def writeNatural (value : Nat) : List Char := Nat.toDigits 10 value

/-- Writes a truth value. -/
def writeBool (value : Bool) : List Char :=
  if value then ['t', 'r', 'u', 'e'] else ['f', 'a', 'l', 's', 'e']

/-- The written null. -/
def writeNull : List Char := ['n', 'u', 'l', 'l']

/-- Puts commas between written items. -/
def separate : List (List Char) → List Char
  | [] => []
  | [item] => item
  | item :: rest => item ++ ',' :: separate rest

/-- Writes an array of written items. -/
def writeArray (items : List (List Char)) : List Char :=
  '[' :: separate items ++ [']']

/-- Writes a member of an object. -/
def writeMember (name : String) (written : List Char) : List Char :=
  writeString name ++ ':' :: written

/-- Writes an object of written members. -/
def writeObject (members : List (String × List Char)) : List Char :=
  '\x7b' :: separate (members.map fun (name, written) => writeMember name written) ++
    ['\x7d']

/-- Writes an optional string, null if it is missing. -/
def writeOptional (content : Option String) : List Char :=
  (content.map writeString).getD writeNull

mutual

/-- Writes a value. -/
def Value.write : Value → List Char
  | .null => writeNull
  | .bool value => writeBool value
  | .integer value => writeInteger value
  | .float value => value.write
  | .string value => writeString value
  | .array items => writeArray (writeItems items)
  | .object members => writeObject (writeMembers members)

/-- Writes the items of an array. -/
def Value.writeItems : List Value → List (List Char)
  | [] => []
  | item :: rest => item.write :: writeItems rest

/-- Writes the values of the members of an object. -/
def Value.writeMembers : List (String × Value) → List (String × List Char)
  | [] => []
  | (name, value) :: rest => (name, value.write) :: writeMembers rest

end

mutual

/-- The form of a value in a journal line. -/
def Value.describe : Value → String
  | .null => "Null"
  | .bool value => "Bool(" ++ String.ofList (writeBool value) ++ ")"
  | .integer value => "Number(" ++ String.ofList (writeInteger value) ++ ")"
  | .float value => "Number(" ++ String.ofList value.write ++ ")"
  | .string value => "String(" ++ Text.Quoted.text value ++ ")"
  | .array items => "Array [" ++ ", ".intercalate (describeItems items) ++ "]"
  | .object members =>
    "Object \x7b" ++ ", ".intercalate (describeMembers members) ++ "\x7d"

/-- The items of an array in a journal line. -/
def Value.describeItems : List Value → List String
  | [] => []
  | item :: rest => item.describe :: describeItems rest

/-- Named values in a journal line, each behind its quoted name. -/
def Value.describeMembers : List (String × Value) → List String
  | [] => []
  | (name, value) :: rest =>
    (Text.Quoted.text name ++ ": " ++ value.describe) :: describeMembers rest

end

end DatasetPicker.Json
