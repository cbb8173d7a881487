import DatasetPicker.Terminal.Event

/-!
# Input from a terminal

A terminal sends keys as characters and escape sequences, and reports on the pointer as
sequences of numbers. What it sends at one time is read together, so that an escape that
ends it is the key of that name.
-/

namespace DatasetPicker.Terminal.Keyboard

/-- A key without modifiers. -/
def press (code : App.KeyCode) : Report := .key code {} .press

/-- The key of a single character. -/
def ofChar (char : Char) : Report :=
  if char = '\r' ∨ char = '\n' then press .enter
  else if char = '\t' then press .tab
  else if char = '\x7f' then press .backspace
  else if char = '\x1b' then press .esc
  else if 0 < char.toNat ∧ char.toNat ≤ 26 then
    .key (.char (Char.ofNat (char.toNat + 0x60))) { control := true } .press
  else press (.char char)

/-- The key of a sequence that ends with a letter. -/
def ofLetter (letter : Char) : App.KeyCode :=
  match letter with
  | 'A' => .up
  | 'B' => .down
  | 'C' => .right
  | 'D' => .left
  | 'H' => .home
  | 'F' => .last
  | 'Z' => .backTab
  | _ => .unknown

/-- The key of a sequence that ends with a tilde. -/
def ofNumber (number : String) : App.KeyCode :=
  match number with
  | "1" | "7" => .home
  | "3" => .delete
  | "4" | "8" => .last
  | "5" => .pageUp
  | "6" => .pageDown
  | _ => .unknown

/-- The button of a number. -/
def button (number : Nat) : Button :=
  if number % 4 = 0 then .left else if number % 4 = 1 then .middle else .right

/-- What the pointer did. -/
def gesture (number : Nat) (pressed : Bool) : Gesture :=
  if 64 ≤ number then .scroll
  else if 32 ≤ number then if number % 4 = 3 then .moved else .drag (button number)
  else if pressed then .down (button number)
  else .up (button number)

/-- The report on the pointer in three numbers. Places are counted from one. -/
def ofPointer (numbers : List String) (pressed : Bool) : Report :=
  match numbers.map String.toNat? with
  | [some number, some column, some row] =>
    .pointer (gesture number pressed) (column - 1) (row - 1)
  | _ => .other

/-- The report of a sequence: what stands in it and the character that ends it. -/
def ofSequence (content : List Char) (ending : Char) : Report :=
  match content with
  | '<' :: numbers =>
    ofPointer ((numbers.splitOn ';').map String.ofList) (ending = 'M')
  | numbers =>
    if ending = '~' then press (ofNumber (String.ofList numbers)) else press (ofLetter ending)

/-- A character that belongs to the inside of a sequence. -/
def isInside (char : Char) : Bool := 0x20 ≤ char.toNat && char.toNat < 0x40

/-- The reports in some input. `inside` holds the characters of a sequence that has begun,
the last one first. -/
def reports : Option (List Char) → List Char → List Report
  | _, [] => []
  | some inside, char :: rest =>
    if isInside char then reports (some (char :: inside)) rest
    else ofSequence inside.reverse char :: reports none rest
  | none, '\x1b' :: '[' :: rest => reports (some []) rest
  | none, char :: rest => ofChar char :: reports none rest

end DatasetPicker.Terminal.Keyboard
