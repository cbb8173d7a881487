import DatasetPicker.Json.Tree

/-!
# Reading JSON

A text is one value with blanks around it. Every reader takes the characters that are
left and gives what it read with the characters after it. Values nest, so their reader
is given an allowance that shrinks with each step; the length of the text bounds the
number of steps, and `read?` hands out more than that.
-/

namespace DatasetPicker.Json

/-- Blanks between the signs of a document. -/
def isSpace (char : Char) : Bool :=
  char = ' ' || char = '\n' || char = '\t' || char = '\r'

/-- The text after its leading blanks. -/
def skipSpace (chars : List Char) : List Char := chars.dropWhile isSpace

/-- A decimal digit. -/
def isDigit (char : Char) : Bool := '0' ≤ char && char ≤ '9'

/-- The value of a hexadecimal digit. -/
def hexDigit? (char : Char) : Option Nat :=
  if '0' ≤ char ∧ char ≤ '9' then some (char.toNat - '0'.toNat)
  else if 'a' ≤ char ∧ char ≤ 'f' then some (char.toNat - 'a'.toNat + 10)
  else if 'A' ≤ char ∧ char ≤ 'F' then some (char.toNat - 'A'.toNat + 10)
  else none

/-- The value of four hexadecimal digits. -/
def hexUnit? (first second third fourth : Char) : Option Nat := do
  let a ← hexDigit? first
  let b ← hexDigit? second
  let c ← hexDigit? third
  let d ← hexDigit? fourth
  return ((a * 16 + b) * 16 + c) * 16 + d

/-- A piece of a string: a character, or a 16-bit unit that an escape names. -/
inductive Piece where
  | char (char : Char)
  | unit (value : Nat)
  deriving DecidableEq, Repr

/-- The character of an escape of one letter. -/
def escaped? (letter : Char) : Option Char :=
  match letter with
  | '"' => some '"'
  | '\\' => some '\\'
  | '/' => some '/'
  | 'b' => some '\x08'
  | 'f' => some '\x0c'
  | 'n' => some '\n'
  | 'r' => some '\r'
  | 't' => some '\t'
  | _ => none

/-- The pieces of a string up to its closing quote. Controls may not stand in a string. -/
def pieces? : List Char → Option (List Piece × List Char)
  | [] => none
  | '"' :: rest => some ([], rest)
  | '\\' :: 'u' :: a :: b :: c :: d :: rest => do
    let value ← hexUnit? a b c d
    let (pieces, rest) ← pieces? rest
    return (.unit value :: pieces, rest)
  | '\\' :: letter :: rest => do
    let char ← escaped? letter
    let (pieces, rest) ← pieces? rest
    return (.char char :: pieces, rest)
  | char :: rest =>
    if char = '\\' ∨ char.toNat < 0x20 then none
    else do
      let (pieces, rest) ← pieces? rest
      return (.char char :: pieces, rest)

/-- The first half of a character beyond the 16-bit range. -/
def isHigh (value : Nat) : Bool := 0xD800 ≤ value && value ≤ 0xDBFF

/-- The second half of such a character. -/
def isLow (value : Nat) : Bool := 0xDC00 ≤ value && value ≤ 0xDFFF

/-- The text that pieces spell, unless a half stands alone. -/
def spell? : List Piece → Option (List Char)
  | [] => some []
  | .char char :: rest => (spell? rest).map (char :: ·)
  | .unit high :: .unit low :: rest =>
    if isHigh high then
      if isLow low then
        (spell? rest).map
          (Char.ofNat (0x10000 + (high - 0xD800) * 0x400 + (low - 0xDC00)) :: ·)
      else none
    else if isLow high then none
    else (spell? (.unit low :: rest)).map (Char.ofNat high :: ·)
  | .unit value :: rest =>
    if isHigh value || isLow value then none
    else (spell? rest).map (Char.ofNat value :: ·)

/-- A string, after its opening quote. -/
def string? (chars : List Char) : Option (Content × List Char) :=
  (pieces? chars).map fun (pieces, rest) => ((spell? pieces).map String.ofList, rest)

/-- The digits at the head of a text, of which there must be one. -/
def digits? (chars : List Char) : Option (List Char × List Char) :=
  match chars.takeWhile isDigit with
  | [] => none
  | digits => some (digits, chars.dropWhile isDigit)

/-- The digits before the point. A zero stands alone. -/
def whole? (chars : List Char) : Option (List Char × List Char) := do
  let (digits, rest) ← digits? chars
  match digits with
  | '0' :: _ :: _ => none
  | _ => return (digits, rest)

/-- The digits after a point, if one follows. -/
def fraction? (chars : List Char) : Option (List Char × List Char) :=
  match chars with
  | '.' :: rest => digits? rest
  | _ => some ([], chars)

/-- The sign of an exponent. -/
def exponentSign (chars : List Char) : Bool × List Char :=
  match chars with
  | '-' :: rest => (true, rest)
  | '+' :: rest => (false, rest)
  | _ => (false, chars)

/-- The exponent, if one follows. -/
def exponent? (chars : List Char) : Option (Option Exponent × List Char) :=
  let read (chars : List Char) : Option (Option Exponent × List Char) :=
    let (negative, rest) := exponentSign chars
    (digits? rest).map fun (digits, rest) => (some ⟨negative, digits⟩, rest)
  match chars with
  | 'e' :: rest => read rest
  | 'E' :: rest => read rest
  | _ => some (none, chars)

/-- A number, after its sign. -/
def numeral? (negative : Bool) (chars : List Char) : Option (Numeral × List Char) := do
  let (whole, rest) ← whole? chars
  let (fraction, rest) ← fraction? rest
  let (exponent, rest) ← exponent? rest
  return (⟨negative, whole, fraction, exponent⟩, rest)

mutual

/-- A value at the head of a text. -/
def value? : Nat → List Char → Option (Tree × List Char)
  | 0, _ => none
  | allowance + 1, chars =>
    match skipSpace chars with
    | 'n' :: 'u' :: 'l' :: 'l' :: rest => some (.null, rest)
    | 't' :: 'r' :: 'u' :: 'e' :: rest => some (.bool true, rest)
    | 'f' :: 'a' :: 'l' :: 's' :: 'e' :: rest => some (.bool false, rest)
    | '"' :: rest => (string? rest).map fun (content, rest) => (.string content, rest)
    | '[' :: rest =>
      match skipSpace rest with
      | ']' :: rest => some (.array [], rest)
      | rest => (items? allowance rest).map fun (items, rest) => (.array items, rest)
    | '\x7b' :: rest =>
      match skipSpace rest with
      | '\x7d' :: rest => some (.object [], rest)
      | rest => (members? allowance rest).map fun (members, rest) => (.object members, rest)
    | '-' :: rest =>
      (numeral? true rest).map fun (numeral, rest) => (.number numeral, rest)
    | rest => (numeral? false rest).map fun (numeral, rest) => (.number numeral, rest)

/-- The items of an array that is not empty, up to its end. -/
def items? : Nat → List Char → Option (List Tree × List Char)
  | 0, _ => none
  | allowance + 1, chars => do
    let (item, rest) ← value? allowance chars
    match skipSpace rest with
    | ']' :: rest => return ([item], rest)
    | ',' :: rest =>
      let (items, rest) ← items? allowance rest
      return (item :: items, rest)
    | _ => none

/-- The members of an object that is not empty, up to its end. -/
def members? : Nat → List Char → Option (List (Content × Tree) × List Char)
  | 0, _ => none
  | allowance + 1, chars =>
    match skipSpace chars with
    | '"' :: rest => do
      let (name, rest) ← string? rest
      match skipSpace rest with
      | ':' :: rest =>
        let (value, rest) ← value? allowance rest
        match skipSpace rest with
        | '\x7d' :: rest => return ([(name, value)], rest)
        | ',' :: rest =>
          let (members, rest) ← members? allowance rest
          return ((name, value) :: members, rest)
        | _ => none
      | _ => none
    | _ => none

end

/-- The tree of a text that is one value. -/
def read? (text : String) : Option Tree := do
  let chars := text.toList
  let (tree, rest) ← value? (2 * chars.length + 2) chars
  if (skipSpace rest).isEmpty then return tree else none

end DatasetPicker.Json
