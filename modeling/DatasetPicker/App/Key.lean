import DatasetPicker.Text.Quoted

/-!
# Keys and the pointer

The input that the application understands: keys with their modifiers, and a pointer that
moves and clicks.
-/

namespace DatasetPicker.App

/-- A key. -/
inductive KeyCode where
  | unknown
  | char (letter : Char)
  | enter
  | tab
  | backTab
  | esc
  | backspace
  | delete
  | home
  | last
  | left
  | right
  | up
  | down
  | pageUp
  | pageDown
  deriving DecidableEq, Repr

/-- The name of a key that is not a character. -/
def KeyCode.name : KeyCode → String
  | .unknown => "Unknown"
  | .char letter => String.singleton letter
  | .enter => "Enter"
  | .tab => "Tab"
  | .backTab => "BackTab"
  | .esc => "Esc"
  | .backspace => "Backspace"
  | .delete => "Delete"
  | .home => "Home"
  | .last => "End"
  | .left => "Left"
  | .right => "Right"
  | .up => "Up"
  | .down => "Down"
  | .pageUp => "PageUp"
  | .pageDown => "PageDown"

/-- The keys that have a name. -/
def KeyCode.named : List KeyCode :=
  [.unknown, .enter, .tab, .backTab, .esc, .backspace, .delete, .home, .last, .left, .right,
    .up, .down, .pageUp, .pageDown]

/-- The key of a name, or the key of a single character. -/
def KeyCode.ofName? (name : String) : Option KeyCode :=
  match KeyCode.named.find? (·.name = name) with
  | some code => some code
  | none =>
    match name.toList with
    | [letter] => some (.char letter)
    | _ => none

/-- A key as a journal value. -/
def KeyCode.write : KeyCode → String
  | .char letter => "Char(" ++ Text.Quoted.char letter ++ ")"
  | code => code.name

/-- The modifiers that are held. -/
structure Modifiers where
  shift : Bool := false
  control : Bool := false
  alt : Bool := false
  deriving DecidableEq, Repr

namespace Modifiers

/-- All modifiers of the second are among those of the first. -/
def contains (held asked : Modifiers) : Bool :=
  (!asked.shift || held.shift) && (!asked.control || held.control) &&
    (!asked.alt || held.alt)

/-- The modifiers as a journal value: one bit for each. -/
def write (held : Modifiers) : String :=
  let bits := held.shift.toNat + 2 * held.control.toNat + 4 * held.alt.toNat
  "KeyModifiers(" ++ toString bits ++ ")"

end Modifiers

/-- A key that was pressed. -/
structure Key where
  code : KeyCode
  modifiers : Modifiers := {}
  deriving DecidableEq, Repr

/-- A key press as a journal value. -/
def Key.write (key : Key) : String :=
  "KeyEvent \x7b code: " ++ key.code.write ++ ", modifiers: " ++ key.modifiers.write ++
    " \x7d"

/-- What the pointer did. -/
inductive PointerKind where
  | moved
  | click
  deriving DecidableEq, Repr

/-- The pointer and where it is. -/
structure Pointer where
  kind : PointerKind
  column : Nat
  row : Nat
  deriving DecidableEq, Repr

end DatasetPicker.App
